import ApiCatalog.Proofs.ReferenceChain
import ApiCatalog.Proofs.ReferenceTypes
import ApiCatalog.Proofs.Utf8

/-!
# Standard pointers

Every entry of a document has standard pointers. They hold the section of the entry and its name, in
which tildes and slashes are escaped and then percent signs, and any other characters, are written as
their bytes. A lookup undoes these steps, the last one first. So a standard pointer leads to its
entry, and whatever leads to an entry ends in its name: `standard_pointers`.
-/

namespace ApiCatalog.Pointer

open Text

/-! ## Written names -/

/-- One character of a name as it stands between slashes. -/
def escape (character : Char) : List Char :=
  if character = '~' then ['~', '0']
  else if character = '/' then ['~', '1']
  else [character]

/-- The two ways to write a hexadecimal digit. -/
inductive WritesDigit (value : Nat) : Char → Prop
  | lower : WritesDigit value (hexDigit value)
  | upper : WritesDigit value (hexDigit value).toUpper

/-- A text writes each of some bytes as a percent sign and two hexadecimal digits. -/
inductive WritesBytes : List UInt8 → List Char → Prop
  | nil : WritesBytes [] []
  | cons {byte : UInt8} {bytes : List UInt8} {high low : Char} {written : List Char}
      (first : WritesDigit (byte.toNat / 16) high) (second : WritesDigit (byte.toNat % 16) low)
      (others : WritesBytes bytes written) :
      WritesBytes (byte :: bytes) ('%' :: high :: low :: written)

/-- A text writes another one: some of its characters as their bytes, percent signs among them, and
the others as they are. -/
inductive WritesText : List Char → List Char → Prop
  | nil : WritesText [] []
  | plain {character : Char} {text written : List Char} (unmarked : character ≠ '%')
      (others : WritesText text written) : WritesText (character :: text) (character :: written)
  | bytes {character : Char} {text front written : List Char}
      (encoded : WritesBytes (String.utf8EncodeChar character) front)
      (others : WritesText text written) : WritesText (character :: text) (front ++ written)

/-- A text writes a name in a pointer. -/
def Writes (name written : List Char) : Prop :=
  WritesText (name.flatMap escape) written

/-! ## Reading written names -/

theorem WritesDigit.hexValue? {value : Nat} {digit : Char} (writes : WritesDigit value digit)
    (small : value < 16) : Text.hexValue? digit = some value := by
  cases writes with
  | lower => exact hexValue?_hexDigit value small
  | upper => exact hexValue?_toUpper_hexDigit value small

theorem escapedByte?_eq {byte : UInt8} {high low : Char}
    (first : WritesDigit (byte.toNat / 16) high) (second : WritesDigit (byte.toNat % 16) low) :
    escapedByte? high low = some byte := by
  have bound : byte.toNat < 256 := byte.toNat_lt
  have whole : byte.toNat / 16 * 16 + byte.toNat % 16 = byte.toNat := Nat.div_add_mod' _ _
  simp only [escapedByte?, first.hexValue? (by omega), second.hexValue? (by omega),
    Option.bind_eq_bind, Option.bind_some, Option.pure_def, whole, UInt8.ofNat_toNat]

theorem percentDecode_bytes {bytes : List UInt8} {front : List Char}
    (encoded : WritesBytes bytes front) (rest : List Char) :
    percentDecode (front ++ rest) = bytes ++ percentDecode rest := by
  induction encoded with
  | nil => rfl
  | cons first second _ induction =>
      simp only [List.cons_append, percentDecode, escapedByte?_eq first second, induction]

theorem percentDecode_plain {character : Char} (unmarked : character ≠ '%') (rest : List Char) :
    percentDecode (character :: rest) =
      String.utf8EncodeChar character ++ percentDecode rest := by
  rw [percentDecode.eq_def]
  split
  · contradiction
  · rename_i equation
    cases equation
    contradiction
  · rename_i equation
    cases equation
    rfl

theorem percentDecode_written {text written : List Char} (writes : WritesText text written) :
    percentDecode written = encode text := by
  induction writes with
  | nil => rfl
  | plain unmarked _ induction =>
      rw [percentDecode_plain unmarked, induction, encode, encode, List.flatMap_cons]
  | bytes encoded _ induction =>
      rw [percentDecode_bytes encoded, induction, encode, encode, List.flatMap_cons]

theorem unescapeTildes_escape (name : List Char) : unescapeTildes (name.flatMap escape) = name := by
  induction name with
  | nil => rfl
  | cons character name induction =>
      rw [List.flatMap_cons, escape]
      split
      · rename_i tilde
        simp [unescapeTildes, induction, tilde]
      · split
        · rename_i slash
          simp [unescapeTildes, induction, slash]
        · rename_i plain _
          rw [List.singleton_append, unescapeTildes.eq_def]
          split <;> simp_all

/-- A name in a pointer is read back. -/
theorem decodeSegment_written {name written : List Char} (writes : Writes name written) :
    decodeSegment written = name := by
  rw [decodeSegment, percentDecode_written writes, decodeLossy_encode, unescapeTildes_escape]

/-! ## Slashes -/

theorem slash_not_mem_escape (name : List Char) : '/' ∉ name.flatMap escape := by
  intro member
  obtain ⟨character, _, inside⟩ := List.mem_flatMap.mp member
  unfold escape at inside
  split at inside
  · revert inside
    decide
  · split at inside
    · revert inside
      decide
    · rename_i slash
      exact slash (List.mem_singleton.mp inside).symm

theorem WritesDigit.ne_slash {value : Nat} {digit : Char} (writes : WritesDigit value digit)
    (small : value < 16) : digit ≠ '/' := by
  rintro rfl
  have read := writes.hexValue? small
  cases read

theorem slash_not_mem_bytes {bytes : List UInt8} {front : List Char}
    (encoded : WritesBytes bytes front) : '/' ∉ front := by
  induction encoded with
  | nil => exact List.not_mem_nil
  | @cons byte _ _ _ _ first second _ induction =>
      have bound : byte.toNat < 256 := byte.toNat_lt
      have high := first.ne_slash (by omega)
      have low := second.ne_slash (by omega)
      simp [high.symm, low.symm, induction]

theorem slash_not_mem_written {text written : List Char} (writes : WritesText text written)
    (absent : '/' ∉ text) : '/' ∉ written := by
  induction writes with
  | nil => exact absent
  | plain _ _ induction =>
      obtain ⟨differs, absent⟩ := not_or.mp (mt List.mem_cons.mpr absent)
      exact mt List.mem_cons.mp (not_or.mpr ⟨differs, induction absent⟩)
  | bytes encoded _ induction =>
      obtain ⟨_, absent⟩ := not_or.mp (mt List.mem_cons.mpr absent)
      exact mt List.mem_append.mp
        (not_or.mpr ⟨slash_not_mem_bytes encoded, induction absent⟩)

/-! ## Entries -/

/-- The name of the section that a place is in. -/
def Place.part : Place → String
  | .definition _ => "definitions"
  | .parameter _ => "parameters"
  | .response _ => "responses"

/-- The pointer to a place, given how the name there is written. -/
def standard (place : Place) (written : List Char) : String :=
  "#/" ++ place.part ++ "/" ++ String.ofList written

/-- The entries of a document, by their places, with the schemas they hold, if any. -/
inductive Entry (document : Document) : Place → Option Schema → Prop
  | definition {name : String} {schema : Schema}
      (declared : (name, schema) ∈ document.definitions.toList) :
      Entry document (.definition name) (some schema)
  | parameter {name : String} {parameter : Parameter}
      (declared : (name, parameter) ∈ document.parameters.toList) :
      Entry document (.parameter name) parameter.schema
  | response {name : String} {response : Response}
      (declared : (name, response) ∈ document.responses.toList) :
      Entry document (.response name) response.schema

variable {document : Document} {place : Place}

theorem Entry.schemaAt? {schema : Option Schema} (entry : Entry document place schema) :
    Pointer.schemaAt? document place = schema := by
  cases entry with
  | definition declared => exact Entries.find?_eq_some_iff.mpr declared
  | parameter declared =>
      rw [Pointer.schemaAt?, Entries.find?_eq_some_iff.mpr declared, Option.bind_some]
  | response declared =>
      rw [Pointer.schemaAt?, Entries.find?_eq_some_iff.mpr declared, Option.bind_some]

theorem entry_of_schemaAt? {schema : Schema}
    (found : Pointer.schemaAt? document place = some schema) :
    Entry document place (some schema) := by
  cases place with
  | definition name => exact .definition (Entries.find?_eq_some_iff.mp found)
  | parameter name =>
      obtain ⟨parameter, declared, holds⟩ := Option.bind_eq_some_iff.mp found
      exact holds ▸ .parameter (Entries.find?_eq_some_iff.mp declared)
  | response name =>
      obtain ⟨response, declared, holds⟩ := Option.bind_eq_some_iff.mp found
      exact holds ▸ .response (Entries.find?_eq_some_iff.mp declared)

theorem Place.part_plain (place : Place) :
    decodeSegment place.part.toList = place.part.toList ∧ '/' ∉ place.part.toList ∧
      place.part.toList ≠ [] := by
  have checked : ∀ part ∈ ["definitions", "parameters", "responses"],
      decodeSegment part.toList = part.toList ∧ '/' ∉ part.toList ∧ part.toList ≠ [] := by
    decide
  apply checked
  cases place <;> simp [Place.part]

theorem names?_standard {written : List Char} (named : place.name ≠ "")
    (writes : Writes place.name.toList written) :
    names? (standard place written).toList =
      some [place.part.toList, place.name.toList] := by
  obtain ⟨read, noSlash, given⟩ := place.part_plain
  have nonempty : written ≠ [] := by
    rintro rfl
    have empty := decodeSegment_written writes
    exact named (String.toList_eq_nil_iff.mp empty.symm)
  have text : (standard place written).toList =
      '#' :: ([] ++ '/' :: (place.part.toList ++ '/' :: written)) := by
    simp [standard]
  rw [text, names?, splitOn_append _ List.not_mem_nil, splitOn_append _ noSlash,
    splitOn_of_not_mem (slash_not_mem_written writes (slash_not_mem_escape _))]
  simp [nonempty, given, read, decodeSegment_written writes]

theorem place_standard {written : List Char} (named : place.name ≠ "")
    (writes : Writes place.name.toList written) :
    Pointer.place (standard place written) = .ok place := by
  have names := names?_standard named writes
  unfold Pointer.place
  rw [names]
  cases place <;> simp [Place.part, Place.name]

/-- Every standard pointer of an entry leads to it, or nowhere if the entry holds no schema, and ends
in its name. Whatever pointer leads to a schema, it ends in the name of the entry that holds it. -/
theorem standard_pointers (document : Document) :
    (∀ place schema written, Entry document place schema → place.name ≠ "" →
      Writes place.name.toList written →
        lookup document (standard place written) =
          schema.elim (.error (.dangling (standard place written))) .ok ∧
        targetName (standard place written) = place.name) ∧
    ∀ pointer schema, lookup document pointer = .ok schema →
      ∃ place, Pointer.place pointer = .ok place ∧ Entry document place (some schema) ∧
        targetName pointer = place.name := by
  constructor
  · intro place schema written entry named writes
    have leads := place_standard named writes
    refine ⟨?_, targetName_of_place leads⟩
    rw [lookup, leads]
    cases schema <;> simp only [entry.schemaAt?, Option.elim]
  · intro pointer schema found
    obtain ⟨place, named, holds⟩ := schemaAt?_of_lookup found
    exact ⟨place, named, entry_of_schemaAt? holds, targetName_of_place named⟩

/-- A definition whose name needs every kind of escape. -/
def accented : Document where
  definitions := ⟨[("~1/%é", { type := some "string" })], List.nodup_singleton _⟩

theorem standard_pointers_accented :
    Entry accented (.definition "~1/%é") (some { type := some "string" }) ∧
      Writes "~1/%é".toList "~01~1%25%C3%a9".toList ∧
      lookup accented "#/definitions/~01~1%25%C3%a9" = .ok { type := some "string" } ∧
      targetName "#/definitions/~01~1%25%C3%a9" = "~1/%é" := by
  have entry : Entry accented (.definition "~1/%é") (some { type := some "string" }) :=
    .definition List.mem_cons_self
  have percent : WritesBytes (String.utf8EncodeChar '%') ['%', '2', '5'] :=
    .cons .lower .lower .nil
  have accent : WritesBytes (String.utf8EncodeChar 'é') ['%', 'C', '3', '%', 'a', '9'] :=
    .cons .upper .lower (.cons .lower .lower .nil)
  have writes : Writes "~1/%é".toList "~01~1%25%C3%a9".toList :=
    .plain (by decide) (.plain (by decide) (.plain (by decide) (.plain (by decide)
      (.plain (by decide) (.bytes percent (.bytes accent .nil))))))
  exact ⟨entry, writes, (standard_pointers accented).1 _ _ _ entry (by decide) writes⟩

end ApiCatalog.Pointer
