import ApiCatalog.Document.Loading
import ApiCatalog.Proofs.JsonDecoding

/-!
# Whole trees

A reader of JSON takes a value only out of a tree that does not break off, and it takes the same value
whenever it is run. Readers of lists, entries and records have this from the readers of their parts.
-/

namespace ApiCatalog

open Decoder Json

/-! ## Decoders -/

section Settles

variable {α β : Type} {whole later : Prop}

/-- A decoder that gives a value gives it always, and only if something holds. -/
def Decoder.Settles (decoder : Decoder α) (whole : Prop) : Prop :=
  ∀ budget value rest, decoder budget = .ok (value, rest) → whole ∧ decoder = pure value

theorem settles_pure {value : α} (holds : whole) : (pure value : Decoder α).Settles whole := by
  intro budget result rest given
  obtain ⟨rfl, rfl⟩ := Prod.mk.inj (Except.ok.inj given)
  exact ⟨holds, rfl⟩

theorem settles_fail (cause : Cause) : (fail cause : Decoder α).Settles whole := by
  rintro budget value rest ⟨⟩

theorem Decoder.Settles.imp {decoder : Decoder α} (settles : decoder.Settles whole)
    (implies : whole → later) : decoder.Settles later :=
  fun budget value rest given => (settles budget value rest given).imp_left implies

theorem settles_bind {decoder : Decoder α} {next : α → Decoder β} (first : decoder.Settles whole)
    (second : ∀ value, (next value).Settles later) :
    (decoder >>= next).Settles (whole ∧ later) := by
  intro budget result rest given
  obtain ⟨value, left, step, given⟩ := bind_eq_ok_iff.mp given
  obtain ⟨holds, same⟩ := first budget value left step
  obtain ⟨also, settled⟩ := second value left result rest given
  exact ⟨⟨holds, also⟩, by rw [same, pure_bind, settled]⟩

theorem settles_map {decoder : Decoder α} (change : α → β) (settles : decoder.Settles whole) :
    (change <$> decoder).Settles whole := by
  rw [map_eq_pure_bind]
  exact (settles_bind settles fun value => settles_pure trivial).imp And.left

theorem settles_within {step : Step} {decoder : Decoder α} (settles : decoder.Settles whole) :
    (within step decoder).Settles whole := by
  intro budget value rest given
  obtain ⟨holds, same⟩ := settles budget value rest (within_eq_ok_iff.mp given)
  exact ⟨holds, by rw [same, within_pure]⟩

theorem settles_ofExcept {result : Except Cause α} (holds : whole) :
    (ofExcept result).Settles whole := by
  cases result with
  | error cause => exact settles_fail cause
  | ok value => exact settles_pure holds

theorem settles_mismatch (node : Node) (expected : String) :
    (node.mismatch expected : Decoder α).Settles whole := by
  cases node with
  | scalar value =>
      rw [Node.mismatch, Scalar.mismatch]
      split <;> exact settles_fail _
  | _ => exact settles_fail _

end Settles

/-! ## Readers -/

section Readers

variable {α : Type}

/-- A reader takes values out of whole trees only, and the same ones always. -/
def Settled (read : Node → Decoder α) : Prop :=
  ∀ node, (read node).Settles (node.skipFault? = none)

theorem skipFault?_content (node : Node) : node.content.skipFault? = node.skipFault? := by
  induction node using Node.content.induct with
  | case1 content induction => rw [Node.content, induction, Node.skipFault?]
  | case2 node noTag => rw [Node.content.eq_2 node noTag]

theorem settled_follow {next : Node → Decoder α} (settled : Settled next) :
    Settled fun node => follow Json.source node >>= next := by
  intro node
  by_cases named : ∃ anchor, node = .alias anchor
  · obtain ⟨anchor, rfl⟩ := named
    rintro (_ | budget) value rest given <;> cases given
  · show (follow Json.source node >>= next).Settles _
    rw [follow.eq_2 Json.source node fun anchor same => named ⟨anchor, same⟩, pure_bind]
    exact settled node

theorem settled_text : Settled (readText Json.source) := by
  refine settled_follow fun target => ?_
  rw [← skipFault?_content target]
  generalize target.content = target
  split
  · exact settles_ofExcept rfl
  · exact settles_mismatch _ _

theorem settled_flag : Settled (readFlag Json.source) := by
  refine settled_follow fun target => ?_
  rw [← skipFault?_content target]
  generalize target.content = target
  split
  · exact settles_ofExcept rfl
  · exact settles_mismatch _ _

theorem settled_optional {read : Node → Decoder α} (settled : Settled read) :
    Settled (readOptional Json.source read) := by
  refine settled_follow fun target => ?_
  split
  · refine (settles_bind (settles_ofExcept trivial) fun absent => ?_).imp And.right
    split
    · exact settles_pure rfl
    · exact settles_map some (settled _)
  · exact settles_map some (settled _)

theorem settles_skip (node : Node) : (skip node).Settles (node.skipFault? = none) := by
  rw [skip]
  split
  · exact settles_pure ‹_›
  · exact settles_fail _

theorem settles_tableEnd (ending : Ending) :
    (readTableEnd ending).Settles (ending.skipFault? = none) := by
  cases ending with
  | closed | unreached => exact settles_pure rfl
  | cut place | dangling place => exact settles_within (settles_fail _)

theorem settles_items {read : Node → Decoder α} (settled : Settled read) (ending : Ending)
    (position : Nat) (items : List Node) :
    (readItems read ending position items).Settles
      (listSkipFault? items = none ∧ ending.skipFault? = none) := by
  induction items generalizing position with
  | nil =>
      cases ending with
      | closed | unreached => exact settles_pure ⟨rfl, rfl⟩
      | cut place | dangling place => exact settles_fail _
  | cons item items induction =>
      refine (settles_bind (settles_within (settled item)) fun value =>
        settles_bind (induction (position + 1)) fun values => settles_pure trivial).imp ?_
      rintro ⟨first, ⟨others, ends⟩, -⟩
      exact ⟨by rw [listSkipFault?, first, others]; rfl, ends⟩

theorem settled_list {read : Nat → Node → Decoder α} {depth : Nat}
    (settled : ∀ below < depth, Settled (read below)) :
    Settled (readList Json.source depth read) := by
  refine settled_follow fun target => ?_
  rw [← skipFault?_content target]
  generalize target.content = target
  split
  · exact settles_fail _
  · refine (settles_items (settled _ (Nat.lt_succ_self _)) _ 0 _).imp ?_
    rintro ⟨items, ends⟩
    rw [Node.skipFault?, items, ends]
    rfl
  · split
    · exact settles_pure rfl
    · exact settles_mismatch (.scalar _) _
  · exact settles_mismatch _ _

theorem settles_entries {read : Node → Decoder α} (settled : Settled read) (ending : Ending)
    (entries : Entries α) (members : List (Node × Node)) :
    (readEntries Json.source read ending entries members).Settles
      (tableSkipFault? members = none ∧ ending.skipFault? = none) := by
  induction members generalizing entries with
  | nil =>
      refine (settles_bind (settles_tableEnd ending) fun _ => settles_pure trivial).imp ?_
      exact fun ends => ⟨rfl, ends.1⟩
  | cons member members induction =>
      obtain ⟨key, node⟩ := member
      refine (settles_bind (settles_within (settled_text key)) fun name =>
        settles_bind (settles_within (settled node)) fun value => induction _).imp ?_
      rintro ⟨named, first, others, ends⟩
      exact ⟨by rw [tableSkipFault?, named, first, others]; rfl, ends⟩

theorem settled_table {read : Nat → Node → Decoder α} {depth : Nat}
    (settled : ∀ below < depth, Settled (read below)) :
    Settled (readTable Json.source depth read) := by
  refine settled_follow fun target => ?_
  rw [← skipFault?_content target]
  generalize target.content = target
  split
  · exact settles_fail _
  · refine (settles_entries (settled _ (Nat.lt_succ_self _)) _ {} _).imp ?_
    rintro ⟨members, ends⟩
    rw [Node.skipFault?, members, ends]
    rfl
  · split
    · exact settles_pure rfl
    · exact settles_mismatch (.scalar _) _
  · exact settles_mismatch _ _

/-! ## Records -/

/-- A field stores what it reads, whatever the record. -/
def Field.Stores (field : Field α) : Prop :=
  ∃ (β : Type) (read : Node → Decoder β) (store : β → α → α), Settled read ∧
    field = storedField field.name read store

theorem Field.Stores.settles {field : Field α} (stores : field.Stores) (node : Node) (record : α) :
    (field.read node record).Settles (node.skipFault? = none) := by
  obtain ⟨β, read, store, settled, same⟩ := stores
  rw [same]
  exact (settles_bind (settled node) fun content => settles_pure trivial).imp And.left

theorem settles_members {fields : List (Field α)} (stores : ∀ field ∈ fields, field.Stores)
    (ending : Ending) (seen : List String) (record : α) (members : List (Node × Node)) :
    (readMembers Json.source fields ending seen record members).Settles
      (tableSkipFault? members = none ∧ ending.skipFault? = none) := by
  induction members generalizing seen record with
  | nil =>
      refine (settles_bind (settles_tableEnd ending) fun _ => settles_pure trivial).imp ?_
      exact fun ends => ⟨rfl, ends.1⟩
  | cons member members induction =>
      obtain ⟨key, node⟩ := member
      have whole : key.skipFault? = none ∧ node.skipFault? = none ∧
          tableSkipFault? members = none ∧ ending.skipFault? = none →
            tableSkipFault? ((key, node) :: members) = none ∧ ending.skipFault? = none := by
        rintro ⟨named, first, others, ends⟩
        exact ⟨by rw [tableSkipFault?, named, first, others]; rfl, ends⟩
      refine Decoder.Settles.imp ?_ whole
      refine settles_bind (settles_within (settled_text key)) fun name => ?_
      split
      · exact settles_bind (settles_within (settles_skip node)) fun _ => induction seen record
      · rename_i field found
        split
        · exact settles_fail _
        · have kept := (stores field (List.mem_of_find?_eq_some found)).settles node record
          exact settles_bind (settles_within kept) fun extended => induction _ extended

theorem settles_positions {fields : List (Field α)} (stores : ∀ field ∈ fields, field.Stores)
    (ending : Ending) (position : Nat) (record : α) (items : List Node) :
    (readPositions ending position fields record items).Settles
      (listSkipFault? items = none ∧ ending.skipFault? = none) := by
  induction items generalizing position fields record with
  | nil =>
      cases ending with
      | closed | unreached => cases fields <;> exact settles_pure ⟨rfl, rfl⟩
      | cut place | dangling place => cases fields <;> exact settles_fail _
  | cons item items induction =>
      cases fields with
      | nil => exact settles_fail _
      | cons field fields =>
          obtain ⟨first, others⟩ := List.forall_mem_cons.mp stores
          refine (settles_bind (settles_within (first.settles item record)) fun extended =>
            induction others (position + 1) extended).imp ?_
          rintro ⟨whole, items, ends⟩
          exact ⟨by rw [listSkipFault?, whole, items]; rfl, ends⟩

theorem settled_record {name : String} {empty : α} {fields : Nat → List (Field α)} {depth : Nat}
    (stores : ∀ below < depth, ∀ field ∈ fields below, field.Stores) :
    Settled (readRecord Json.source name empty fields depth) := by
  refine settled_follow fun target => ?_
  rw [← skipFault?_content target]
  generalize target.content = target
  split
  · exact settles_fail _
  · refine (settles_members (stores _ (Nat.lt_succ_self _)) _ [] empty _).imp ?_
    rintro ⟨members, ends⟩
    rw [Node.skipFault?, members, ends]
    rfl
  · split
    · split
      · exact settles_fail _
      · refine (settles_positions (stores _ (Nat.lt_succ_self _)) _ 0 empty _).imp ?_
        rintro ⟨items, ends⟩
        rw [Node.skipFault?, items, ends]
        rfl
    · exact settles_fail _
  · split
    · exact settles_pure rfl
    · exact settles_mismatch (.scalar _) _
  · exact settles_mismatch _ _

/-! ## Values -/

theorem settled_value (depth : Nat) : Settled (readValue Json.source depth) := by
  induction depth with
  | zero =>
      refine settled_follow fun target => ?_
      split
      · exact settles_ofExcept rfl
      · exact settles_fail _
      · exact settles_fail _
  | succ depth induction =>
      refine settled_follow fun target => ?_
      split
      · exact settles_ofExcept rfl
      · refine (settles_map _ (settles_items induction _ 0 _)).imp ?_
        rintro ⟨items, ends⟩
        rw [Node.skipFault?, items, ends]
        rfl
      · refine (settles_bind (settles_entries induction _ {} _) fun _ => settles_pure trivial).imp ?_
        rintro ⟨⟨members, ends⟩, -⟩
        rw [Node.skipFault?, members, ends]
        rfl
      · exact settles_fail _
      · exact settles_fail _
      · exact settles_fail _

theorem settled_required (depth : Nat) : Settled (readRequired Json.source depth) := by
  intro node
  have settles : (readRequired Json.source depth node).Settles (node.skipFault? = none ∧ True) := by
    refine settles_bind (settled_optional (settled_value depth) node) fun value => ?_
    cases value with
    | none => exact settles_pure trivial
    | some value => exact settles_ofExcept trivial
  exact settles.imp And.left

end Readers

end ApiCatalog
