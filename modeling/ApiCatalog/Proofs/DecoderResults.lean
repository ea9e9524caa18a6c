import ApiCatalog.Json.Decoder
import ApiCatalog.Proofs.JsonDecoding
import Mathlib.Tactic.SplitIfs

/-!
# What decoders give

A property of everything a decoder gives, whatever tree it reads. Readers of lists, entries and
records hand such properties on from their parts. Every value taken out of a tree is well formed, by
`yields_value`: spellings and numerals that do not fit in 64 bits are refused, or become
double-precision numbers.
-/

namespace ApiCatalog

open Decoder Json

/-! ## Single steps -/

/-- Every value a decoder gives has a property. -/
def Decoder.Yields {α : Type} (decoder : Decoder α) (property : α → Prop) : Prop :=
  ∀ budget value rest, decoder budget = .ok (value, rest) → property value

section Yields

variable {α β : Type} {property : α → Prop} {other : β → Prop}

theorem yields_pure {value : α} (holds : property value) :
    (pure value : Decoder α).Yields property := by
  intro budget result rest given
  obtain ⟨rfl, rfl⟩ := Prod.mk.inj (Except.ok.inj given)
  exact holds

theorem yields_fail (cause : Cause) : (fail cause : Decoder α).Yields property := by
  rintro budget value rest ⟨⟩

theorem yields_any (decoder : Decoder α) : decoder.Yields fun _ => True :=
  fun _ _ _ _ => trivial

theorem yields_bind {decoder : Decoder α} {next : α → Decoder β}
    (first : decoder.Yields property) (second : ∀ value, property value → (next value).Yields other) :
    (decoder >>= next).Yields other := by
  intro budget result rest given
  obtain ⟨value, later, step, given⟩ := bind_eq_ok_iff.mp given
  exact second value (first budget value later step) later result rest given

theorem yields_map {decoder : Decoder α} {change : α → β}
    (given : decoder.Yields fun value => other (change value)) :
    (change <$> decoder).Yields other := by
  rw [map_eq_pure_bind]
  exact yields_bind given fun value holds => yields_pure holds

theorem yields_run {decoder : Decoder α} (yields : decoder.Yields property) {budget : Nat}
    {value : α} (run : (decoder budget).map Prod.fst = .ok value) : property value := by
  cases result : decoder budget with
  | error failure => simp [result, Except.map] at run
  | ok outcome =>
      rw [result] at run
      obtain rfl := Except.ok.inj run
      exact yields budget _ _ result

theorem yields_within {step : Step} {decoder : Decoder α} (inner : decoder.Yields property) :
    (within step decoder).Yields property :=
  fun budget value rest given => inner budget value rest (within_eq_ok_iff.mp given)

theorem yields_ofExcept {result : Except Cause α}
    (holds : ∀ value, result = .ok value → property value) :
    (ofExcept result).Yields property := by
  cases result with
  | error cause => exact yields_fail cause
  | ok value => exact yields_pure (holds value rfl)

theorem yields_mismatch (node : Node) (expected : String) :
    (node.mismatch expected : Decoder α).Yields property := by
  cases node with
  | scalar value =>
      refine yields_ofExcept fun result given => ?_
      rw [Scalar.mismatch] at given
      split at given <;> cases given
  | _ => exact yields_fail _

end Yields

/-! ## Lists and entries -/

section Readers

variable {α : Type} {property : α → Prop} (source : Source)

theorem yields_optional {read : Node → Decoder α} (back : ∀ node, (read node).Yields property)
    (node : Node) :
    (readOptional source read node).Yields fun part => ∀ content ∈ part, property content := by
  have given (target : Node) : (some <$> read target).Yields
      fun part => ∀ content ∈ part, property content :=
    yields_map (fun budget value rest result content same => by
      obtain rfl := Option.some.inj same
      exact back target budget value rest result)
  refine yields_bind (yields_any _) fun target _ => ?_
  split
  · refine yields_bind (yields_any _) fun absent _ => ?_
    split
    · exact yields_pure (by simp)
    · exact given _
  · exact given target

theorem yields_items {read : Node → Decoder α} (back : ∀ node, (read node).Yields property)
    (ending : Ending) (position : Nat) (items : List Node) :
    (readItems read ending position items).Yields
      fun values => ∀ value ∈ values, property value := by
  induction items generalizing position with
  | nil =>
      cases ending with
      | closed | unreached => exact yields_pure (List.forall_mem_nil _)
      | cut place | dangling place => exact yields_fail _
  | cons item items induction =>
      refine yields_bind (yields_within (back item)) fun value holds => ?_
      refine yields_bind (induction (position + 1)) fun values others => ?_
      exact yields_pure (List.forall_mem_cons.mpr ⟨holds, others⟩)

theorem yields_list {read : Nat → Node → Decoder α}
    (back : ∀ depth node, (read depth node).Yields property) (depth : Nat) (node : Node) :
    (readList source depth read node).Yields fun values => ∀ value ∈ values, property value := by
  refine yields_bind (yields_any _) fun target _ => ?_
  split
  · exact yields_fail _
  · exact yields_items (back _) _ 0 _
  · split
    · exact yields_pure (List.forall_mem_nil _)
    · exact yields_mismatch (.scalar _) _
  · exact yields_mismatch _ _

theorem Entries.forall_setIn {entries : List (String × α)} {name : String} {value : α}
    (holds : property value) (others : ∀ entry ∈ entries, property entry.2) :
    ∀ entry ∈ setIn name value entries, property entry.2 := by
  induction entries with
  | nil => exact List.forall_mem_singleton.mpr holds
  | cons entry rest induction =>
      obtain ⟨first, later⟩ := List.forall_mem_cons.mp others
      obtain ⟨known, old⟩ := entry
      rw [setIn]
      split
      · exact List.forall_mem_cons.mpr ⟨holds, later⟩
      · exact List.forall_mem_cons.mpr ⟨first, induction later⟩

theorem yields_entries {read : Node → Decoder α} (back : ∀ node, (read node).Yields property)
    (ending : Ending) {entries : Entries α} (known : ∀ entry ∈ entries.toList, property entry.2)
    (members : List (Node × Node)) :
    (readEntries source read ending entries members).Yields
      fun entries => ∀ entry ∈ entries.toList, property entry.2 := by
  induction members generalizing entries with
  | nil => exact yields_bind (yields_any _) fun _ _ => yields_pure known
  | cons member members induction =>
      obtain ⟨key, node⟩ := member
      refine yields_bind (yields_any _) fun name _ => ?_
      refine yields_bind (yields_within (back node)) fun value holds => ?_
      exact induction (Entries.forall_setIn holds known)

theorem yields_table {read : Nat → Node → Decoder α}
    (back : ∀ depth node, (read depth node).Yields property) (depth : Nat) (node : Node) :
    (readTable source depth read node).Yields
      fun entries => ∀ entry ∈ entries.toList, property entry.2 := by
  refine yields_bind (yields_any _) fun target _ => ?_
  split
  · exact yields_fail _
  · exact yields_entries source (back _) _ (List.forall_mem_nil _) _
  · split
    · exact yields_pure (List.forall_mem_nil _)
    · exact yields_mismatch (.scalar _) _
  · exact yields_mismatch _ _

/-! ## Records -/

/-- Reading a field keeps a property of the record. -/
def Field.Preserves (field : Field α) (property : α → Prop) : Prop :=
  ∀ node record, property record → (field.read node record).Yields property

theorem preserves_stored {β : Type} {other : β → Prop} {name : String} {read : Node → Decoder β}
    {store : β → α → α} (back : ∀ node, (read node).Yields other)
    (keeps : ∀ content record, other content → property record → property (store content record)) :
    (storedField name read store).Preserves property :=
  fun node record holds => yields_bind (back node) fun content given =>
    yields_pure (keeps content record given holds)

/-- Reading a field keeps a property that does not depend on what it stores. -/
theorem preserves_other {β : Type} {name : String} {read : Node → Decoder β} {store : β → α → α}
    (keeps : ∀ content record, property record → property (store content record)) :
    (storedField name read store).Preserves property :=
  preserves_stored (fun node => yields_any (read node)) fun content record _ => keeps content record

theorem yields_members {fields : List (Field α)}
    (keeps : ∀ field ∈ fields, field.Preserves property) (ending : Ending) (seen : List String)
    {record : α} (holds : property record)
    (members : List (Node × Node)) :
    (readMembers source fields ending seen record members).Yields property := by
  induction members generalizing seen record with
  | nil => exact yields_bind (yields_any _) fun _ _ => yields_pure holds
  | cons member members induction =>
      obtain ⟨key, node⟩ := member
      refine yields_bind (yields_any _) fun name _ => ?_
      split
      · exact yields_bind (yields_any _) fun _ _ => induction seen holds
      · rename_i field found
        split
        · exact yields_fail _
        · have kept := keeps field (List.mem_of_find?_eq_some found) node record holds
          exact yields_bind (yields_within kept) fun extended holds => induction _ holds

theorem yields_positions {fields : List (Field α)}
    (keeps : ∀ field ∈ fields, field.Preserves property) (ending : Ending) (position : Nat)
    {record : α} (holds : property record) (items : List Node) :
    (readPositions ending position fields record items).Yields property := by
  induction items generalizing position fields record with
  | nil =>
      cases ending with
      | closed | unreached => cases fields <;> exact yields_pure holds
      | cut place | dangling place => cases fields <;> exact yields_fail _
  | cons item items induction =>
      cases fields with
      | nil => exact yields_fail _
      | cons field fields =>
          obtain ⟨first, others⟩ := List.forall_mem_cons.mp keeps
          exact yields_bind (yields_within (first item record holds)) fun extended kept =>
            induction others (position + 1) kept

theorem yields_record {name : String} {empty : α} {fields : Nat → List (Field α)}
    (initially : property empty) (keeps : ∀ depth, ∀ field ∈ fields depth, field.Preserves property)
    (depth : Nat) (node : Node) :
    (readRecord source name empty fields depth node).Yields property := by
  refine yields_bind (yields_any _) fun target _ => ?_
  split
  · exact yields_fail _
  · exact yields_members source (keeps _) _ [] initially _
  · split
    · split
      · exact yields_fail _
      · exact yields_positions (keeps _) _ 0 initially _
    · exact yields_fail _
  · split
    · exact yields_pure initially
    · exact yields_mismatch (.scalar _) _
  · exact yields_mismatch _ _

end Readers

/-! ## Values -/

theorem Numeral.appendDigits_lt {digits : List Char} {significand : Nat}
    (small : significand < Nat.pow 2 64) : (appendDigits significand digits).1 < Nat.pow 2 64 := by
  induction digits generalizing significand with
  | nil => exact small
  | cons digit digits induction =>
      rw [appendDigits]
      split_ifs with fits
      · exact induction fits
      · exact small

theorem Numeral.wellFormed_number {numeral : Numeral} {value : Number}
    (written : numeral.number? = some value) : (Json.number value).WellFormed := by
  have bounded : (appendDigits 0 numeral.whole).1 < Nat.pow 2 64 := appendDigits_lt (by decide)
  simp only [number?] at written
  split_ifs at written with positive negative
  · obtain rfl := Option.some.inj written
    refine wellFormed_integer.mpr ?_
    simp only [Spelling.fits, Nat.pow_eq, Nat.reducePow] at bounded ⊢
    simp
    omega
  · obtain rfl := Option.some.inj written
    refine wellFormed_integer.mpr ?_
    simp only [Spelling.fits, Nat.pow_eq, Nat.reducePow] at bounded negative ⊢
    simp at negative ⊢
    omega
  · obtain ⟨magnitude, _, rfl⟩ := Option.map_eq_some_iff.mp written
    exact wellFormed_fractional _

theorem Spelling.wellFormed_ofFloat (value : Option Binary64) : (ofFloat value).WellFormed := by
  cases value with
  | none => exact wellFormed_null
  | some value => exact wellFormed_fractional value

theorem Spelling.wellFormed_plain {word : String} {value : Json} (spelled : plain word = .ok value) :
    value.WellFormed := by
  rw [plain] at spelled
  split at spelled
  · cases spelled
    exact wellFormed_null
  split at spelled
  · cases spelled
    exact wellFormed_boolean _
  split at spelled
  · split at spelled
    · cases spelled
      exact wellFormed_integer.mpr ‹_›
    · cases spelled
  split at spelled
  · cases spelled
    exact wellFormed_ofFloat _
  · cases spelled
    exact wellFormed_string _

theorem Spelling.wellFormed_value {word : String} {style : Style} {tag : Option Tag} {value : Json}
    (spelled : Spelling.value word style tag = .ok value) : value.WellFormed := by
  unfold Spelling.value at spelled
  split at spelled
  · split at spelled
    · exact wellFormed_plain spelled
    · cases spelled
      exact wellFormed_string word
  · split at spelled <;> cases spelled
    exact wellFormed_boolean _
  · split at spelled
    · split at spelled
      · cases spelled
        exact wellFormed_integer.mpr ‹_›
      · cases spelled
    · cases spelled
  · split at spelled <;> cases spelled
    exact wellFormed_ofFloat _
  · split at spelled <;> cases spelled
    exact wellFormed_null
  · cases spelled
  · cases spelled
    exact wellFormed_string word

theorem Scalar.wellFormed_readValue {scalar : Scalar} {value : Json}
    (read : scalar.readValue = .ok value) : value.WellFormed := by
  cases scalar with
  | null =>
      cases read
      exact wellFormed_null
  | boolean flag =>
      cases read
      exact wellFormed_boolean flag
  | numeral literal =>
      rw [readValue] at read
      split at read <;> cases read
      exact Numeral.wellFormed_number ‹_›
  | text content =>
      cases content with
      | error fault => cases read
      | ok content =>
          cases read
          exact wellFormed_string content
  | word content style tag => exact Spelling.wellFormed_value read

theorem yields_value (source : Source) (depth : Nat) (node : Node) :
    (readValue source depth node).Yields Json.WellFormed := by
  induction depth generalizing node with
  | zero =>
      refine yields_bind (yields_any _) fun target _ => ?_
      split
      · exact yields_ofExcept fun value read => Scalar.wellFormed_readValue read
      · exact yields_fail _
      · exact yields_fail _
  | succ depth induction =>
      refine yields_bind (yields_any _) fun target _ => ?_
      split
      · exact yields_ofExcept fun value read => Scalar.wellFormed_readValue read
      · exact yields_map fun budget items rest read =>
          wellFormed_array.mpr (yields_items induction _ 0 _ budget items rest read)
      · refine yields_bind (yields_entries source induction _ (List.forall_mem_nil _) _)
          fun entries sound => ?_
        exact yields_pure (wellFormed_object.mpr ⟨entries.nodup, sound⟩)
      · exact yields_fail _
      · exact yields_fail _
      · exact yields_fail _

end ApiCatalog
