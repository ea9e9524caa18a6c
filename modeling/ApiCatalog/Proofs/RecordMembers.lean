import ApiCatalog.Proofs.WholeTrees
import Mathlib.Data.List.Forall2
import Mathlib.Data.List.Pairwise
import Mathlib.Data.List.Perm.Basic

/-!
# Members of records

When the parts of a tree are read, and what they do to what is read. The members of a table change a
record one after the other, each in a way of its own. Fields that are stored apart change it
independently, so that members may be read in any order, by `readMembers_perm`, and one of them may
be replaced, by `exists_of_readMembers`.
-/

namespace ApiCatalog

open Decoder Json

variable {α β : Type}

/-! ## Decoders that give a value -/

theorem pure_inj {value other : α} (same : (pure value : Decoder α) = pure other) :
    value = other :=
  congrArg Prod.fst (Except.ok.inj (congrFun same 0))

theorem fail_ne_pure {cause : Cause} {value : α} : (fail cause : Decoder α) ≠ pure value := by
  intro same
  have here : (fail cause : Decoder α) 0 = .ok (value, 0) := congrFun same 0
  cases here

theorem within_eq_pure_iff {step : Step} {decoder : Decoder α} {value : α} :
    within step decoder = pure value ↔ decoder = pure value := by
  constructor
  · exact fun given => funext fun budget => within_eq_ok_iff.mp (congrFun given budget)
  · rintro rfl
    rfl

theorem bind_eq_pure_iff {whole : Prop} {decoder : Decoder α} {next : α → Decoder β} {result : β}
    (settles : decoder.Settles whole) :
    decoder >>= next = pure result ↔ ∃ value, decoder = pure value ∧ next value = pure result := by
  constructor
  · intro given
    obtain ⟨value, left, step, _⟩ := bind_eq_ok_iff.mp (congrFun given 0)
    have same := (settles 0 value left step).2
    rw [same, pure_bind] at given
    exact ⟨value, same, given⟩
  · rintro ⟨value, rfl, given⟩
    rwa [pure_bind]

theorem map_eq_pure_iff {whole : Prop} {decoder : Decoder α} {change : α → β} {result : β}
    (settles : decoder.Settles whole) :
    change <$> decoder = pure result ↔ ∃ value, decoder = pure value ∧ change value = result := by
  rw [map_eq_pure_bind, bind_eq_pure_iff settles]
  exact exists_congr fun value => and_congr_right fun _ => ⟨pure_inj, congrArg pure⟩

theorem skip_eq_pure_iff {node : Node} : skip node = pure () ↔ node.skipFault? = none := by
  rw [skip]
  split
  · simp [*]
  · rename_i fault found
    rw [found]
    exact iff_of_false fail_ne_pure (Option.some_ne_none fault)

/-! ## Lists and entries -/

theorem forall₂_append_iff {R : α → β → Prop} {left right : List α} {others : List β} :
    List.Forall₂ R (left ++ right) others ↔
      ∃ first second, List.Forall₂ R left first ∧ List.Forall₂ R right second ∧
        others = first ++ second := by
  constructor
  · intro related
    refine ⟨others.take left.length, others.drop left.length, ?_, ?_,
      (List.take_append_drop _ _).symm⟩
    · simpa using List.forall₂_take left.length related
    · simpa using List.forall₂_drop left.length related
  · rintro ⟨first, second, before, after, rfl⟩
    exact List.rel_append before after

/-- The members of a table with names as keys. -/
def named (members : List (String × Node)) : List (Node × Node) :=
  members.map fun (name, node) => (nameNode name, node)

/-- The items of a list are read one by one. -/
theorem readItems_eq_pure_iff {read : Node → Decoder α} (settled : Settled read) {position : Nat}
    {items : List Node} {values : List α} :
    readItems read .closed position items = pure values ↔
      List.Forall₂ (fun item value => read item = pure value) items values := by
  induction items generalizing position values with
  | nil =>
      rw [List.forall₂_nil_left_iff]
      exact ⟨fun same => (pure_inj same).symm, fun same => same ▸ rfl⟩
  | cons item items induction =>
      rw [readItems, bind_eq_pure_iff (settles_within (settled item)), List.forall₂_cons_left_iff]
      simp only [bind_eq_pure_iff (settles_items settled _ _ _), within_eq_pure_iff]
      refine exists_congr fun value => ⟨?_, ?_⟩
      · rintro ⟨read, others, rest, same⟩
        exact ⟨others, read, induction.mp rest, (pure_inj same).symm⟩
      · rintro ⟨others, read, rest, rfl⟩
        exact ⟨read, others, induction.mpr rest, rfl⟩

/-- Members are read into entries with the same names. -/
def ReadsEntry (read : Node → Decoder α) (member : String × Node) (entry : String × α) : Prop :=
  entry.1 = member.1 ∧ read member.2 = pure entry.2

/-- Entries are read with the names of their members. -/
theorem names_of_readsEntry {read : Node → Decoder α} {members : List (String × Node)}
    {entries : List (String × α)} (reads : List.Forall₂ (ReadsEntry read) members entries) :
    entries.map Prod.fst = members.map Prod.fst := by
  induction reads with
  | nil => rfl
  | cons here _ induction => rw [List.map_cons, List.map_cons, here.1, induction]

/-- Members with different names are read into entries one by one. -/
theorem readEntries_eq_pure_iff {read : Node → Decoder α} (settled : Settled read)
    {known final : Entries α} {members : List (String × Node)}
    (distinct : (known.toList.map Prod.fst ++ members.map Prod.fst).Nodup) :
    readEntries Json.source read .closed known (named members) = pure final ↔
      ∃ entries, List.Forall₂ (ReadsEntry read) members entries ∧
        final.toList = known.toList ++ entries := by
  induction members generalizing known with
  | nil =>
      simp only [List.forall₂_nil_left_iff, exists_eq_left, List.append_nil]
      constructor
      · intro same
        rw [← pure_inj same]
      · intro same
        obtain ⟨entries, _⟩ := known
        obtain ⟨others, _⟩ := final
        subst same
        rfl
  | cons member members induction =>
      obtain ⟨name, node⟩ := member
      have absent : name ∉ known.toList.map Prod.fst := fun present =>
        (List.nodup_append.mp distinct).2.2 name present name List.mem_cons_self rfl
      have extended (value : α) :
          (known.set name value).toList = known.toList ++ [(name, value)] :=
        Entries.setIn_of_not_mem absent
      have later (value : α) :
          ((known.set name value).toList.map Prod.fst ++ members.map Prod.fst).Nodup := by
        rw [extended, List.map_append, List.append_assoc]
        exact distinct
      rw [named, List.map_cons, readEntries, readText_name, within_pure, pure_bind,
        bind_eq_pure_iff (settles_within (settled node))]
      simp only [within_eq_pure_iff]
      constructor
      · rintro ⟨value, read, rest⟩
        obtain ⟨entries, others, same⟩ := (induction (later value)).mp rest
        refine ⟨(name, value) :: entries, .cons ⟨rfl, read⟩ others, ?_⟩
        rw [same, extended, List.append_assoc]
        rfl
      · rintro ⟨entries, related, same⟩
        obtain _ | @⟨_, entry, _, entries, ⟨named, read⟩, others⟩ := related
        obtain ⟨other, value⟩ := entry
        obtain rfl : other = name := named
        refine ⟨value, read, (induction (later value)).mpr ⟨entries, others, ?_⟩⟩
        rw [same, extended, List.append_assoc]
        rfl

/-! ## Members -/

/-- The field of a name. -/
def fieldOf (fields : List (Field α)) (name : String) : Option (Field α) :=
  fields.find? fun field => field.name == name

theorem fieldOf_eq_some {fields : List (Field α)} {name : String} {field : Field α}
    (found : fieldOf fields name = some field) : field ∈ fields ∧ field.name = name :=
  ⟨List.mem_of_find?_eq_some found, by simpa using List.find?_some found⟩

/-- Reading a tree into a field changes every record in the same way. -/
def Field.Changes (field : Field α) (node : Node) (change : α → α) : Prop :=
  ∀ record, field.read node record = pure (change record)

theorem Field.Stores.changes {field : Field α} (stores : field.Stores) {node : Node}
    {record next : α} (read : field.read node record = pure next) :
    ∃ change, field.Changes node change ∧ change record = next := by
  obtain ⟨β, reader, store, settled, same⟩ := stores
  rw [same] at read ⊢
  obtain ⟨content, got, stored⟩ := (bind_eq_pure_iff (settled node)).mp read
  refine ⟨store content, fun other => ?_, pure_inj stored⟩
  show (reader node >>= _) = _
  rw [got, pure_bind]

/-- What a member does to a record: the name of the field it gives, if there is one, and how it
changes the record. -/
structure Effect (α : Type) where
  name : Option String
  change : α → α

/-- The effect of a member that is skipped. -/
def Effect.none : Effect α := ⟨.none, id⟩

/-- The effect of a member. One that gives no field must be whole, to be skipped. -/
def Effect.Of (fields : List (Field α)) (member : String × Node) (effect : Effect α) : Prop :=
  match fieldOf fields member.1 with
  | .none => member.2.skipFault? = .none ∧ effect = .none
  | some field => field.Changes member.2 effect.change ∧ effect.name = some member.1

/-- The record that effects make of another one. -/
def applied (effects : List (Effect α)) (record : α) : α :=
  effects.foldl (fun record effect => effect.change record) record

theorem applied_append (first second : List (Effect α)) (record : α) :
    applied (first ++ second) record = applied second (applied first record) :=
  List.foldl_append

/-- The names of the fields that effects give. -/
def given (effects : List (Effect α)) : List String :=
  effects.filterMap Effect.name

theorem given_append (first second : List (Effect α)) :
    given (first ++ second) = given first ++ given second :=
  List.filterMap_append

section Members

variable {fields : List (Field α)} (stores : ∀ field ∈ fields, field.Stores)

include stores in
theorem readMembers_cons_eq_pure_iff {seen : List String} {record final : α} {name : String}
    {node : Node} {members : List (Node × Node)} :
    readMembers Json.source fields .closed seen record ((nameNode name, node) :: members) =
        pure final ↔
      match fieldOf fields name with
      | none => node.skipFault? = none ∧
          readMembers Json.source fields .closed seen record members = pure final
      | some field => name ∉ seen ∧ ∃ change, field.Changes node change ∧
          readMembers Json.source fields .closed (name :: seen) (change record) members =
            pure final := by
  rw [readMembers, readText_name, within_pure, pure_bind, ← fieldOf]
  cases found : fieldOf fields name with
  | none =>
      dsimp only
      rw [bind_eq_pure_iff (settles_within (settles_skip node))]
      simp only [within_eq_pure_iff, ← skip_eq_pure_iff]
      constructor
      · rintro ⟨_, skipped, rest⟩
        exact ⟨skipped, rest⟩
      · rintro ⟨skipped, rest⟩
        exact ⟨(), skipped, rest⟩
  | some field =>
      have kept := stores field (fieldOf_eq_some found).1
      dsimp only
      split
      · rename_i twice
        refine iff_of_false fail_ne_pure fun once => once.1 ?_
        simpa using twice
      · rename_i once
        have unseen : name ∉ seen := by simpa using once
        rw [bind_eq_pure_iff (settles_within (kept.settles node record))]
        simp only [within_eq_pure_iff, unseen, not_false_eq_true, true_and]
        constructor
        · rintro ⟨next, read, rest⟩
          obtain ⟨change, changes, rfl⟩ := kept.changes read
          exact ⟨change, changes, rest⟩
        · rintro ⟨change, changes, rest⟩
          exact ⟨change record, changes record, rest⟩

include stores in
/-- Members are read into a record if each has an effect and no field is given twice. -/
theorem readMembers_eq_pure_iff {seen : List String} {record final : α}
    {members : List (String × Node)} :
    readMembers Json.source fields .closed seen record (named members) = pure final ↔
      ∃ effects, List.Forall₂ (Effect.Of fields) members effects ∧ (given effects).Nodup ∧
        (∀ name ∈ given effects, name ∉ seen) ∧ applied effects record = final := by
  induction members generalizing seen record with
  | nil =>
      constructor
      · intro read
        exact ⟨[], .nil, List.nodup_nil, List.forall_mem_nil _, pure_inj read⟩
      · rintro ⟨effects, matched, _, _, rfl⟩
        cases matched
        rfl
  | cons member members induction =>
      obtain ⟨name, node⟩ := member
      rw [named, List.map_cons, readMembers_cons_eq_pure_iff stores, ← named]
      simp only [List.forall₂_cons_left_iff, Effect.Of]
      cases found : fieldOf fields name with
      | none =>
          dsimp only
          rw [induction]
          constructor
          · rintro ⟨whole, effects, matched, rest⟩
            exact ⟨.none :: effects, ⟨_, _, ⟨whole, rfl⟩, matched, rfl⟩, rest⟩
          · rintro ⟨_, ⟨_, effects, ⟨whole, rfl⟩, matched, rfl⟩, rest⟩
            exact ⟨whole, effects, matched, rest⟩
      | some field =>
          dsimp only
          constructor
          · rintro ⟨unseen, change, changes, rest⟩
            obtain ⟨effects, matched, distinct, fresh, result⟩ := induction.mp rest
            refine ⟨⟨some name, change⟩ :: effects, ⟨_, _, ⟨changes, rfl⟩, matched, rfl⟩,
              List.nodup_cons.mpr ⟨fun again => fresh name again List.mem_cons_self, distinct⟩,
              List.forall_mem_cons.mpr ⟨unseen, fun other member old => ?_⟩, result⟩
            exact fresh other member (List.mem_cons_of_mem _ old)
          · rintro ⟨_, ⟨⟨_, change⟩, effects, ⟨changes, rfl⟩, matched, rfl⟩, distinct, fresh, same⟩
            obtain ⟨absent, distinct⟩ := List.nodup_cons.mp distinct
            obtain ⟨unseen, fresh⟩ := List.forall_mem_cons.mp fresh
            refine ⟨unseen, change, changes, induction.mpr
              ⟨effects, matched, distinct, fun other member old => ?_, same⟩⟩
            rcases List.mem_cons.mp old with rfl | old
            · exact absent member
            · exact fresh other member old

/-! ## Any order -/

/-- Fields change different parts of a record. -/
def Field.Independent (field other : Field α) : Prop :=
  ∀ ⦃node otherNode : Node⦄ ⦃change otherChange : α → α⦄, field.Changes node change →
    other.Changes otherNode otherChange →
    ∀ record, change (otherChange record) = otherChange (change record)

instance : Std.Symm (Field.Independent (α := α)) where
  symm _ _ independent _ _ _ _ changes otherChanges record :=
    (independent otherChanges changes record).symm

/-- A change of a stored field stores a content. -/
theorem Field.Changes.stored {β : Type} {name : String} {read : Node → Decoder β}
    {store : β → α → α} {node : Node} {change : α → α}
    (changes : (storedField name read store).Changes node change) (record : α) :
    ∃ content, change = store content := by
  obtain ⟨content, left, step, _⟩ := bind_eq_ok_iff.mp (congrFun (changes record) 0)
  refine ⟨content, funext fun other => ?_⟩
  obtain ⟨_, _, again, stored⟩ := bind_eq_ok_iff.mp (congrFun (changes other) 0)
  rw [step] at again
  obtain ⟨rfl, rfl⟩ := Prod.mk.inj (Except.ok.inj again)
  exact (congrArg Prod.fst (Except.ok.inj stored)).symm

/-- Fields are independent if what they store is stored apart. -/
theorem independent_stored {β γ : Type} {name other : String} {read : Node → Decoder β}
    {otherRead : Node → Decoder γ} {store : β → α → α} {otherStore : γ → α → α}
    (apart : ∀ content otherContent record, store content (otherStore otherContent record) =
      otherStore otherContent (store content record)) :
    (storedField name read store).Independent (storedField other otherRead otherStore) := by
  intro node otherNode change otherChange changes otherChanges record
  obtain ⟨content, rfl⟩ := changes.stored record
  obtain ⟨otherContent, rfl⟩ := otherChanges.stored record
  exact apart content otherContent record

theorem Effect.of_member {members : List (String × Node)} {effects : List (Effect α)}
    (matched : List.Forall₂ (Effect.Of fields) members effects) :
    ∀ effect ∈ effects, ∃ member, Effect.Of fields member effect := by
  induction matched with
  | nil => exact List.forall_mem_nil _
  | cons here _ induction => exact List.forall_mem_cons.mpr ⟨⟨_, here⟩, induction⟩

/-- Effects with different names commute. -/
theorem Effect.Of.commute (independent : fields.Pairwise Field.Independent)
    {member otherMember : String × Node} {effect other : Effect α}
    (of : Effect.Of fields member effect) (otherOf : Effect.Of fields otherMember other)
    (differs : ∀ name, effect.name = some name → other.name ≠ some name) (record : α) :
    effect.change (other.change record) = other.change (effect.change record) := by
  rw [Effect.Of] at of otherOf
  cases found : fieldOf fields member.1 with
  | none =>
      rw [found] at of
      rw [of.2]
      rfl
  | some field =>
      rw [found] at of
      cases otherFound : fieldOf fields otherMember.1 with
      | none =>
          rw [otherFound] at otherOf
          rw [otherOf.2]
          rfl
      | some otherField =>
          rw [otherFound] at otherOf
          obtain ⟨isField, named⟩ := fieldOf_eq_some found
          obtain ⟨isOther, otherNamed⟩ := fieldOf_eq_some otherFound
          refine independent.forall isField isOther ?_ of.1 otherOf.1 record
          rintro rfl
          exact differs _ of.2 (by rw [otherOf.2, ← named, otherNamed])

/-- Effects that give different fields may be applied in any order. -/
theorem applied_perm (independent : fields.Pairwise Field.Independent)
    {effects others : List (Effect α)}
    (of : ∀ effect ∈ effects, ∃ member, Effect.Of fields member effect)
    (distinct : (given effects).Nodup) (perm : effects.Perm others) (record : α) :
    applied effects record = applied others record := by
  let Commute (effect other : Effect α) : Prop :=
    ∀ record, effect.change (other.change record) = other.change (effect.change record)
  have symmetric : Std.Symm Commute := ⟨fun _ _ commute record => (commute record).symm⟩
  have pairwise : effects.Pairwise Commute := by
    refine (List.pairwise_filterMap.mp distinct).imp_of_mem fun first second differs => ?_
    obtain ⟨member, isEffect⟩ := of _ first
    obtain ⟨otherMember, isOther⟩ := of _ second
    exact isEffect.commute independent isOther fun name named otherNamed =>
      differs name named name otherNamed rfl
  refine perm.foldl_eq' (fun effect first other second record => ?_) record
  exact pairwise.forall_of_forall (fun _ _ _ => rfl) second first record

include stores in
/-- Members may be read in any order, with more members that are skipped. -/
theorem readMembers_perm (independent : fields.Pairwise Field.Independent) {seen : List String}
    {record final : α} {members others extra : List (String × Node)}
    (perm : others.Perm (members ++ extra))
    (unknown : ∀ member ∈ extra, fieldOf fields member.1 = none ∧ member.2.skipFault? = none)
    (read : readMembers Json.source fields .closed seen record (named members) = pure final) :
    readMembers Json.source fields .closed seen record (named others) = pure final := by
  rw [readMembers_eq_pure_iff stores] at read ⊢
  obtain ⟨effects, matched, distinct, fresh, result⟩ := read
  have skipped : List.Forall₂ (Effect.Of fields) extra (extra.map fun _ => Effect.none) := by
    rw [List.forall₂_map_right_iff, List.forall₂_same]
    intro member present
    rw [Effect.Of, (unknown member present).1]
    exact ⟨(unknown member present).2, rfl⟩
  have all : List.Forall₂ (Effect.Of fields) (members ++ extra)
      (effects ++ extra.map fun _ => Effect.none) := List.rel_append matched skipped
  have sameNames : given (effects ++ extra.map fun _ => Effect.none) = given effects := by
    rw [given_append, given, given, List.filterMap_map]
    simp [Function.comp_def, Effect.none]
  have sameRecord : applied (effects ++ extra.map fun _ => Effect.none) record = final := by
    rw [applied_append, result, applied, List.foldl_map]
    exact List.foldl_fixed extra
  -- The effects of the members in the other order are the same ones, in that order.
  obtain ⟨reordered, otherMatched, permEffects⟩ := List.perm_comp_forall₂ perm all
  have permNames : (given reordered).Perm (given effects) := by
    rw [← sameNames]
    exact permEffects.filterMap Effect.name
  refine ⟨reordered, otherMatched, permNames.nodup_iff.mpr distinct, fun name member =>
    fresh name (permNames.mem_iff.mp member), ?_⟩
  rw [← sameRecord]
  exact applied_perm independent (Effect.of_member otherMatched)
    (permNames.nodup_iff.mpr distinct) permEffects record

include stores in
/-- A member that gives a field makes one change to what the other members give, whatever its place.
Another tree in its place makes its own change instead. -/
theorem exists_of_readMembers (independent : fields.Pairwise Field.Independent)
    {before after : List (String × Node)} {name : String} {node : Node} {field : Field α}
    {record final : α} (found : fieldOf fields name = some field)
    (read : readMembers Json.source fields .closed [] record
      (named (before ++ (name, node) :: after)) = pure final) :
    ∃ change rest, field.Changes node change ∧ change rest = final ∧
      ∀ other next, field.Changes other next →
        readMembers Json.source fields .closed [] record
          (named (before ++ (name, other) :: after)) = pure (next rest) := by
  have last (other : Node) : (before ++ (name, other) :: after).Perm
      ((before ++ after) ++ [(name, other)]) :=
    List.perm_middle.trans (List.perm_append_singleton _ _).symm
  have reorder {members others : List (String × Node)} (perm : others.Perm members) {final : α}
      (read : readMembers Json.source fields .closed [] record (named members) = pure final) :
      readMembers Json.source fields .closed [] record (named others) = pure final :=
    readMembers_perm stores independent ((List.append_nil members).symm ▸ perm)
      (List.forall_mem_nil _) read
  -- At the end, the member changes what all the others have made.
  have moved := reorder (last node).symm read
  obtain ⟨_, matched, distinct, fresh, result⟩ := (readMembers_eq_pure_iff stores).mp moved
  obtain ⟨effects, _, others, here, rfl⟩ := forall₂_append_iff.mp matched
  obtain ⟨⟨_, change⟩, _, of, nothing, rfl⟩ := List.forall₂_cons_left_iff.mp here
  obtain rfl := List.forall₂_nil_left_iff.mp nothing
  rw [Effect.Of, found] at of
  obtain ⟨changes, rfl⟩ := of
  rw [applied_append] at result
  refine ⟨change, applied effects record, changes, result, fun other next otherChanges => ?_⟩
  have replaced : List.Forall₂ (Effect.Of fields) ((before ++ after) ++ [(name, other)])
      (effects ++ [⟨some name, next⟩]) := by
    refine List.rel_append others (.cons ?_ .nil)
    rw [Effect.Of, found]
    exact ⟨otherChanges, rfl⟩
  have sameNames : given (effects ++ [⟨some name, next⟩]) =
      given (effects ++ [⟨some name, change⟩]) := by
    rw [given_append, given_append]
    rfl
  refine reorder (last other) ((readMembers_eq_pure_iff stores).mpr
    ⟨_, replaced, sameNames ▸ distinct, sameNames ▸ fresh, ?_⟩)
  rw [applied_append]
  rfl

/-! ## Positions -/

/-- Reading the items of a list into fields is reading members with the names of the fields. -/
theorem readPositions_eq_pure_iff {all : List (Field α)} (stores : ∀ field ∈ all, field.Stores)
    {todo : List (Field α)} (found : ∀ field ∈ todo, fieldOf all field.name = some field)
    (distinct : (todo.map Field.name).Nodup) {seen : List String}
    (fresh : ∀ field ∈ todo, field.name ∉ seen) {position : Nat} {record final : α}
    {items : List Node} :
    readPositions .closed position todo record items = pure final ↔
      items.length ≤ todo.length ∧ readMembers Json.source all .closed seen record
        (named ((todo.map Field.name).zip items)) = pure final := by
  induction items generalizing position todo seen record with
  | nil =>
      rw [List.zip_nil_right]
      cases todo <;> exact ⟨fun same => ⟨Nat.zero_le _, same⟩, And.right⟩
  | cons item items induction =>
      cases todo with
      | nil => exact iff_of_false fail_ne_pure fun short => absurd short.1 (Nat.not_succ_le_zero _)
      | cons field todo =>
          obtain ⟨here, found⟩ := List.forall_mem_cons.mp found
          obtain ⟨unseen, fresh⟩ := List.forall_mem_cons.mp fresh
          obtain ⟨absent, distinct⟩ := List.nodup_cons.mp distinct
          have kept := stores field (fieldOf_eq_some here).1
          have later : ∀ other ∈ todo, other.name ∉ field.name :: seen := by
            intro other member
            rw [List.mem_cons, not_or]
            exact ⟨fun same => absent (same ▸ List.mem_map_of_mem member), fresh other member⟩
          rw [readPositions, bind_eq_pure_iff (settles_within (kept.settles item record)),
            List.map_cons, List.zip_cons_cons, named, List.map_cons,
            readMembers_cons_eq_pure_iff stores, here, ← named]
          simp only [within_eq_pure_iff, List.length_cons, Nat.add_le_add_iff_right]
          constructor
          · rintro ⟨next, read, rest⟩
            obtain ⟨change, changes, rfl⟩ := kept.changes read
            obtain ⟨short, rest⟩ := (induction found distinct later).mp rest
            exact ⟨short, unseen, change, changes, rest⟩
          · rintro ⟨short, _, change, changes, rest⟩
            exact ⟨change record, changes record,
              (induction found distinct later).mpr ⟨short, rest⟩⟩

end Members

end ApiCatalog
