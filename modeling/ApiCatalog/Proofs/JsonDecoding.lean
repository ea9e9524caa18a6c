import ApiCatalog.Document.Printer
import ApiCatalog.Proofs.JsonText

/-!
# Decoding what was written

Readers give back what the tree they read was written from. A value is read back if its numbers are
integers and it is well formed, by `readValue_toNode`. A record is read back if each field reads the
members it is written as, by `readRecord_written`: fields are written in the order of their table,
and a field that is left out has its default value.
-/

namespace ApiCatalog

open Decoder Json

/-! ## Integers -/

theorem le_ofDigitChars (digits : List Char) (significand : Nat) :
    significand ≤ Nat.ofDigitChars 10 digits significand := by
  induction digits generalizing significand with
  | nil => exact Nat.le_refl _
  | cons digit digits induction =>
      rw [Nat.ofDigitChars_cons]
      have later := induction (10 * significand + (digit.toNat - '0'.toNat))
      omega

theorem Numeral.appendDigits_eq {digits : List Char} {significand : Nat}
    (small : Nat.ofDigitChars 10 digits significand < Nat.pow 2 64) :
    appendDigits significand digits = (Nat.ofDigitChars 10 digits significand, []) := by
  induction digits generalizing significand with
  | nil => rfl
  | cons digit digits induction =>
      rw [Nat.ofDigitChars_cons, Nat.mul_comm] at small ⊢
      have bounded := Nat.lt_of_le_of_lt (le_ofDigitChars digits _) small
      rw [appendDigits, ← induction small]
      exact if_pos bounded

theorem Numeral.number?_integer {value : Int} (fits : Spelling.fits value = true) :
    (numeralOf value).number? = some (.integer value) := by
  have bounds : -9223372036854775808 ≤ value ∧ value < 18446744073709551616 := by
    simpa [Spelling.fits] using fits
  have whole : appendDigits 0 (Nat.toDigits 10 value.natAbs) = (value.natAbs, []) := by
    have digits : Nat.ofDigitChars 10 (Nat.toDigits 10 value.natAbs) 0 = value.natAbs :=
      Nat.ofDigitChars_ten_toDigits
    have small : value.natAbs < Nat.pow 2 64 := by
      simp only [Nat.pow_eq, Nat.reducePow]
      omega
    rw [appendDigits_eq (by rw [digits]; exact small), digits]
  by_cases negative : value < 0
  · have limit : 0 < value.natAbs ∧ value.natAbs ≤ Nat.pow 2 63 := by
      simp only [Nat.pow_eq, Nat.reducePow]
      omega
    have back : -(value.natAbs : Int) = value := by omega
    simp only [number?, numeralOf, whole, negative, limit, back, decide_true, List.isEmpty_nil,
      Option.isNone_none, Bool.and_self, Bool.not_true, Bool.and_false, Bool.false_eq_true,
      if_false, if_true]
  · have back : (value.natAbs : Int) = value := by omega
    simp only [number?, numeralOf, whole, negative, back, decide_false, List.isEmpty_nil,
      Option.isNone_none, Bool.and_self, Bool.not_false, if_true]

/-! ## Decoders -/

theorem within_pure {α : Type} (step : Step) (value : α) :
    within step (pure value) = pure value :=
  rfl

theorem within_eq_ok_iff {α : Type} {step : Step} {decoder : Decoder α} {budget : Nat}
    {outcome : α × Nat} :
    within step decoder budget = .ok outcome ↔ decoder budget = .ok outcome := by
  rw [within]
  cases decoder budget with
  | error failure => exact iff_of_false nofun nofun
  | ok result => rfl

theorem bind_eq_ok_iff {α β : Type} {decoder : Decoder α} {next : α → Decoder β} {budget rest : Nat}
    {result : β} :
    (decoder >>= next) budget = .ok (result, rest) ↔
      ∃ value left, decoder budget = .ok (value, left) ∧ next value left = .ok (result, rest) := by
  change (decoder budget >>= fun taken => next taken.1 taken.2) = _ ↔ _
  cases decoder budget with
  | error failure => exact iff_of_false nofun nofun
  | ok outcome =>
      obtain ⟨value, left⟩ := outcome
      constructor
      · exact fun given => ⟨value, left, rfl, given⟩
      · rintro ⟨_, _, same, given⟩
        obtain ⟨rfl, rfl⟩ := Prod.mk.inj (Except.ok.inj same)
        exact given

/-! ## Lists, entries and values -/

theorem Entries.setIn_of_not_mem {α : Type} {name : String} {value : α}
    {entries : List (String × α)} (absent : name ∉ entries.map Prod.fst) :
    setIn name value entries = entries ++ [(name, value)] := by
  induction entries with
  | nil => rfl
  | cons entry rest induction =>
      obtain ⟨other, old⟩ := entry
      simp only [List.map_cons, List.mem_cons, not_or] at absent
      have differs : (other == name) = false := by simpa using Ne.symm absent.1
      rw [setIn, differs, induction absent.2]
      rfl

section Readers

variable {α : Type} (source : Source)

/-- The tree of a name. -/
abbrev nameNode (name : String) : Node := .scalar (.text (.ok name))

theorem readText_name (name : String) : readText source (nameNode name) = pure name :=
  rfl

theorem readItems_map {read : Node → Decoder α} {tree : α → Node} {items : List α}
    (back : ∀ item ∈ items, read (tree item) = pure item) (position : Nat) :
    readItems read .closed position (items.map tree) = pure items := by
  induction items generalizing position with
  | nil => rfl
  | cons item items induction =>
      obtain ⟨first, others⟩ := List.forall_mem_cons.mp back
      simp only [List.map_cons, readItems, first, within_pure, pure_bind, induction others]

theorem readEntries_map {read : Node → Decoder α} (tree : α → Node) (known : Entries α)
    {entries : List (String × α)} (distinct : ((known.toList ++ entries).map Prod.fst).Nodup)
    (back : ∀ entry ∈ entries, read (tree entry.2) = pure entry.2) :
    readEntries source read .closed known
        (entries.map fun entry => (nameNode entry.1, tree entry.2)) =
      pure ⟨known.toList ++ entries, distinct⟩ := by
  induction entries generalizing known with
  | nil =>
      simp only [List.map_nil, List.append_nil, readEntries]
      rfl
  | cons entry entries induction =>
      obtain ⟨name, value⟩ := entry
      obtain ⟨first, others⟩ := List.forall_mem_cons.mp back
      have absent : name ∉ known.toList.map Prod.fst := by
        intro present
        rw [List.map_append, List.map_cons] at distinct
        exact (List.nodup_append.mp distinct).2.2 name present name List.mem_cons_self rfl
      -- A new name is put last, so that the order of the entries is kept.
      have extended : (known.set name value).toList = known.toList ++ [(name, value)] :=
        Entries.setIn_of_not_mem absent
      have shifted : (known.set name value).toList ++ entries =
          known.toList ++ (name, value) :: entries := by
        rw [extended, List.append_assoc, List.singleton_append]
      have rest := induction (known.set name value) (by rw [shifted]; exact distinct) others
      dsimp only at first
      simp only [List.map_cons, readEntries, readText_name, first, within_pure, pure_bind, rest,
        shifted]

theorem memberNodes_eq (members : List (String × Json)) :
    memberNodes members = members.map fun member => (nameNode member.1, member.2.toNode) := by
  induction members with
  | nil => rfl
  | cons member members induction => rw [memberNodes, induction, List.map_cons]

theorem readValue_scalar (depth : Nat) (scalar : Scalar) :
    readValue source depth (.scalar scalar) = ofExcept scalar.readValue := by
  cases depth <;> rfl

/-- A value is read back from its tree. -/
theorem readValue_toNode {value : Json} (whole : value.Whole) (sound : value.WellFormed)
    {depth : Nat} (shallow : value.nesting ≤ depth) :
    readValue source depth value.toNode = pure value := by
  induction value using induction_on_parts generalizing depth with
  | null => exact readValue_scalar source depth .null
  | boolean flag => exact readValue_scalar source depth (.boolean flag)
  | string text => exact readValue_scalar source depth (.text (.ok text))
  | number number =>
      cases number with
      | fractional fraction => exact absurd whole (not_whole_fractional fraction)
      | integer number =>
          have fits := wellFormed_integer.mp sound
          rw [toNode_integer, readValue_scalar, Scalar.readValue, Numeral.number?_integer fits]
          rfl
  | array items induction =>
      obtain ⟨below, rfl, bounded⟩ := nesting_array_le shallow
      have back : readItems (readValue source below) .closed 0 (items.map toNode) = pure items :=
        readItems_map (fun item member =>
          induction item member (whole_array.mp whole item member)
            (wellFormed_array.mp sound item member) (bounded item member)) 0
      simp only [toNode, itemNodes_eq, readValue, follow, pure_bind, back, map_pure]
  | object members induction =>
      obtain ⟨below, rfl, bounded⟩ := nesting_object_le shallow
      obtain ⟨distinct, sound⟩ := wellFormed_object.mp sound
      have back : readEntries source (readValue source below) .closed {}
          (members.map fun member => (nameNode member.1, member.2.toNode)) =
            pure ⟨members, distinct⟩ :=
        readEntries_map source toNode {} distinct fun member present =>
          induction member present (whole_object.mp whole member present) (sound member present)
            (bounded member present)
      simp only [toNode, memberNodes_eq, readValue, follow, pure_bind, back]

/-! ## Records -/

/-- The members that a field is written as: none if the record has its default value already, or one
that reads as the next record. The values of members are nested at most `depth` levels. -/
def Field.Writes (depth : Nat) (field : Field α) (members : List (String × Json))
    (record next : α) : Prop :=
  (∀ member ∈ members, member.2.nesting ≤ depth) →
    (members = [] ∧ next = record) ∨
      ∃ value, members = [(field.name, value)] ∧ field.read value.toNode record = pure next

/-- The members a record is written as, field by field. -/
inductive Written (depth : Nat) : List (Field α) → α → List (String × Json) → α → Prop
  | done (record : α) : Written depth [] record [] record
  | field {field : Field α} {fields : List (Field α)} {record next final : α}
      {members more : List (String × Json)} :
      field.Writes depth members record next → Written depth fields next more final →
      Written depth (field :: fields) record (members ++ more) final

theorem Written.last {depth : Nat} {field : Field α} {record final : α}
    {members : List (String × Json)} (writes : field.Writes depth members record final) :
    Written depth [field] record members final := by
  rw [← List.append_nil members]
  exact .field writes (.done final)

theorem find?_field {earlier later : List (Field α)} {field : Field α}
    (distinct : ((earlier ++ field :: later).map Field.name).Nodup) :
    (earlier ++ field :: later).find? (fun other => other.name == field.name) = some field := by
  rw [List.map_append, List.map_cons] at distinct
  have absent : ∀ other ∈ earlier, ¬ (other.name == field.name) = true := by
    intro other member same
    exact (List.nodup_append.mp distinct).2.2 other.name (List.mem_map_of_mem member) field.name
      List.mem_cons_self (by simpa using same)
  rw [List.find?_append, List.find?_eq_none.mpr absent]
  simp

theorem readMembers_written {depth : Nat} {fields : List (Field α)} {record final : α}
    {members : List (String × Json)} (written : Written depth fields record members final)
    (shallow : ∀ member ∈ members, member.2.nesting ≤ depth) (earlier : List (Field α))
    (distinct : ((earlier ++ fields).map Field.name).Nodup) (seen : List String)
    (past : ∀ name ∈ seen, name ∈ earlier.map Field.name) :
    readMembers source (earlier ++ fields) .closed seen record (memberNodes members) =
      pure final := by
  -- On the fields, since some of them are not written: only fields before these have been seen.
  induction written generalizing earlier seen with
  | done record => rfl
  | @field field fields record next final members more writes _ induction =>
      obtain ⟨here, later⟩ := List.forall_mem_append.mp shallow
      have shifted : earlier ++ field :: fields = (earlier ++ [field]) ++ fields := by simp
      rcases writes here with ⟨rfl, rfl⟩ | ⟨value, rfl, read⟩
      · rw [List.nil_append, shifted]
        refine induction later (earlier ++ [field]) (shifted ▸ distinct) seen fun name member => ?_
        rw [List.map_append]
        exact List.mem_append_left _ (past name member)
      · have read_past : ∀ name ∈ field.name :: seen,
            name ∈ (earlier ++ [field]).map Field.name := by
          intro name member
          rw [List.map_append]
          rcases List.mem_cons.mp member with rfl | old
          · exact List.mem_append_right _ List.mem_cons_self
          · exact List.mem_append_left _ (past name old)
        have rest := induction later (earlier ++ [field]) (shifted ▸ distinct) _ read_past
        have found := find?_field distinct
        have unseen : seen.contains field.name = false := by
          rw [List.map_append, List.map_cons] at distinct
          simp only [List.contains_eq_mem, decide_eq_false_iff_not]
          intro member
          exact (List.nodup_append.mp distinct).2.2 _ (past _ member) _ List.mem_cons_self rfl
        rw [← shifted] at rest
        simp only [List.singleton_append, memberNodes, readMembers, readText_name, within_pure,
          pure_bind, found, unseen, read, rest]
        rfl

theorem readRecord_written {name : String} {empty final : α} {fields : Nat → List (Field α)}
    {members : List (String × Json)} {depth : Nat}
    (shallow : ∀ member ∈ members, member.2.nesting ≤ depth)
    (distinct : ((fields depth).map Field.name).Nodup)
    (written : Written depth (fields depth) empty members final) :
    readRecord source name empty fields (depth + 1) (Json.object members).toNode = pure final := by
  have read := readMembers_written source written shallow [] distinct []
    (fun _ never => absurd never List.not_mem_nil)
  rw [List.nil_append] at read
  simp only [toNode, readRecord, follow, pure_bind, Node.content, read]

/-! ## Fields -/

section Fields

variable {β : Type} {depth : Nat} {name : String} {record : α}

/-- A field that stores what is read. -/
abbrev storedField (name : String) (read : Node → Decoder β) (store : β → α → α) : Field α :=
  ⟨name, fun node record => do return store (← read node) record⟩

theorem writes_always {read : Node → Decoder β} {store : β → α → α} {value : Json} {content : β}
    (back : value.nesting ≤ depth → read value.toNode = pure content) :
    (storedField name read store).Writes depth [(name, value)] record (store content record) := by
  intro shallow
  have given := back (shallow _ List.mem_cons_self)
  exact .inr ⟨value, rfl, by simp only [given, pure_bind]⟩

theorem writes_part {read : Node → Decoder (Option β)} {write : β → Json}
    {store : Option β → α → α} (unset : store none record = record) (part : Option β)
    (back : ∀ content ∈ part, (write content).nesting ≤ depth →
      read (write content).toNode = pure (some content)) :
    (storedField name read store).Writes depth (optionalPart name write part) record
      (store part record) := by
  cases part with
  | none => exact fun _ => .inl ⟨rfl, unset⟩
  | some content => exact writes_always (back content rfl)

theorem writes_text {store : Option String → α → α} (unset : store none record = record)
    (text : Option String) :
    (textField source name store).Writes depth (optionalText name text) record
      (store text record) :=
  writes_part unset text fun _ _ _ => rfl

theorem writes_flag {store : Bool → α → α} (unset : store false record = record) (flag : Bool) :
    (flagField source name store).Writes depth (optionalFlag name flag) record
      (store flag record) := by
  cases flag with
  | false => exact fun _ => .inl ⟨rfl, unset⟩
  | true => exact writes_always fun _ => rfl

theorem writes_items {read : Node → Decoder (List β)} {write : β → Json}
    {store : List β → α → α} (unset : store [] record = record) (items : List β)
    (back : (Json.array (items.map write)).nesting ≤ depth →
      read (Json.array (items.map write)).toNode = pure items) :
    (storedField name read store).Writes depth (optionalList name (items.map write)) record
      (store items record) := by
  cases items with
  | nil => exact fun _ => .inl ⟨rfl, unset⟩
  | cons item items => exact writes_always back

theorem writes_entries {read : Node → Decoder (Entries β)} {write : β → Json}
    {store : Entries β → α → α} (entries : Entries β)
    (back : (Json.object (entries.toList.map fun (key, value) => (key, write value))).nesting ≤
        depth →
      read (Json.object (entries.toList.map fun (key, value) => (key, write value))).toNode =
        pure entries) :
    (storedField name read store).Writes depth (entriesPart name write entries) record
      (store entries record) :=
  writes_always back

theorem readOptional_object {read : Node → Decoder β} {value : Json} {content : β}
    (isObject : ∃ members, value = .object members) (back : read value.toNode = pure content) :
    readOptional source read value.toNode = pure (some content) := by
  obtain ⟨members, rfl⟩ := isObject
  show some <$> read (Json.object members).toNode = _
  rw [back, map_pure]

theorem readList_array {read : Nat → Node → Decoder β} {write : β → Json} {items : List β}
    (back : ∀ below < depth, ∀ item ∈ items, (write item).nesting ≤ below →
      read below (write item).toNode = pure item)
    (shallow : (Json.array (items.map write)).nesting ≤ depth) :
    readList source depth read (Json.array (items.map write)).toNode = pure items := by
  obtain ⟨below, rfl, bounded⟩ := nesting_array_le shallow
  have read : readItems (read below) .closed 0 (items.map (toNode ∘ write)) = pure items :=
    readItems_map (fun item member => back below (Nat.lt_succ_self below) item member
      (bounded _ (List.mem_map_of_mem member))) 0
  simp only [toNode, itemNodes_eq, List.map_map, readList, follow, pure_bind, Node.content, read]

theorem readTable_object {read : Nat → Node → Decoder β} {write : β → Json}
    {entries : Entries β}
    (back : ∀ below < depth, ∀ entry ∈ entries.toList, (write entry.2).nesting ≤ below →
      read below (write entry.2).toNode = pure entry.2)
    (shallow : (Json.object (entries.toList.map fun (key, value) => (key, write value))).nesting ≤
      depth) :
    readTable source depth read
        (Json.object (entries.toList.map fun (key, value) => (key, write value))).toNode =
      pure entries := by
  obtain ⟨below, rfl, bounded⟩ := nesting_object_le shallow
  have read : readEntries source (read below) .closed {}
      (entries.toList.map fun entry => (nameNode entry.1, toNode (write entry.2))) =
        pure entries :=
    readEntries_map source (fun value => toNode (write value)) {} entries.nodup
      fun entry member =>
        back below (Nat.lt_succ_self below) entry member (bounded _ (List.mem_map_of_mem member))
  simp only [toNode, memberNodes_eq, List.map_map, readTable, follow, pure_bind, Node.content]
  exact read

end Fields

end Readers

end ApiCatalog
