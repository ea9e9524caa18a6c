import ApiCatalog.Proofs.Reachability
import ApiCatalog.Proofs.SchemaTree
import ApiCatalog.Proofs.TextOrder
import Mathlib.Data.List.Nodup

/-!
# Circles of definitions

The reported groups are exactly the classes of definitions that lead to each other, each class and
the list of classes in order. Names on a circle with a name are found by one filter over the sorted
names, so that a group is the same list from whichever of its names it is asked for; it is listed
where its first name stands.
-/

namespace ApiCatalog

/-- A definition mentions a pointer: some schema in the tree of its schema refers to it. -/
def Document.Mentions (document : Document) (source pointer : String) : Prop :=
  ∃ schema node, (source, schema) ∈ document.definitions.toList ∧ Schema.Part node schema ∧
    node.reference = some pointer

/-- A definition refers to a name: it mentions a pointer that starts like one into the definitions
and ends in that name. -/
def Document.Refers (document : Document) (source target : String) : Prop :=
  ∃ pointer, document.Mentions source pointer ∧ "#/definitions/".toList <+: pointer.toList ∧
    Pointer.targetName pointer = target

theorem Document.mentions_iff {document : Document} {source pointer : String} :
    document.Mentions source pointer ↔
      ∃ schema, (source, schema) ∈ document.definitions.toList ∧ pointer ∈ schema.pointers := by
  simp only [Mentions, Schema.mem_pointers_iff, exists_and_left]

namespace Dependencies

/-! ## The dependencies of a document -/

theorem mem_schemaTargets_iff {schema : Schema} {target : String} :
    target ∈ schemaTargets schema ↔
      ∃ pointer ∈ schema.pointers, "#/definitions/".toList <+: pointer.toList ∧
        Pointer.targetName pointer = target := by
  simp only [schemaTargets, List.mem_map, List.mem_filter, pointsToDefinition,
    List.isPrefixOf_iff_prefix, and_assoc]

theorem names_perm (document : Document) :
    (ofDocument document).names.Perm (document.definitions.toList.map Prod.fst) := by
  rw [names, ofDocument]
  refine (List.Perm.map Prod.fst (List.mergeSort_perm _ _)).trans ?_
  simp [List.map_map, Function.comp_def]

theorem mem_names_iff {document : Document} {name : String} :
    name ∈ (ofDocument document).names ↔ name ∈ document.definitions.toList.map Prod.fst :=
  (names_perm document).mem_iff

theorem mem_targets_iff {document : Document} {name : String} {targets : List String} :
    (name, targets) ∈ (ofDocument document).targets ↔
      ∃ schema, (name, schema) ∈ document.definitions.toList ∧ schemaTargets schema = targets := by
  simp [ofDocument, List.mem_mergeSort, Prod.ext_iff]

/-- An edge of the dependencies is a reference of a definition. -/
theorem edge_iff_refers {document : Document} {source target : String} :
    (ofDocument document).Edge source target ↔ document.Refers source target := by
  have distinct : ((ofDocument document).targets.map Prod.fst).Nodup :=
    (names_perm document).nodup_iff.mpr document.definitions.nodup
  constructor
  · intro edge
    unfold Edge next at edge
    cases found : (ofDocument document).targets.lookup source with
    | none => simp [found] at edge
    | some targets =>
        rw [found, Option.getD_some] at edge
        obtain ⟨schema, declared, rfl⟩ :=
          mem_targets_iff.mp ((Entries.lookup_eq_some_iff_mem distinct).mp found)
        obtain ⟨pointer, collected, written, ends⟩ := mem_schemaTargets_iff.mp edge
        exact ⟨pointer, Document.mentions_iff.mpr ⟨schema, declared, collected⟩, written, ends⟩
  · rintro ⟨pointer, mentioned, written, ends⟩
    obtain ⟨schema, declared, collected⟩ := Document.mentions_iff.mp mentioned
    have found : (ofDocument document).targets.lookup source = some (schemaTargets schema) :=
      (Entries.lookup_eq_some_iff_mem distinct).mpr (mem_targets_iff.mpr ⟨schema, declared, rfl⟩)
    unfold Edge next
    rw [found, Option.getD_some]
    exact mem_schemaTargets_iff.mpr ⟨pointer, collected, written, ends⟩

theorem leads_iff_refers {document : Document} {source target : String} :
    (ofDocument document).Leads source target ↔
      Relation.TransGen document.Refers source target := by
  have same : (ofDocument document).Edge = document.Refers := by
    funext source target
    exact propext edge_iff_refers
  rw [Leads, same]

/-! ## Order -/

/-- The names stand in order. -/
theorem names_ascending (document : Document) :
    (ofDocument document).names.Pairwise (· < ·) := by
  have sorted : (ofDocument document).names.Pairwise (· ≤ ·) :=
    List.pairwise_map.mpr (pairwise_precedes Prod.fst _)
  exact ascending_of_sorted sorted
    ((names_perm document).nodup_iff.mpr document.definitions.nodup)

/-! ## Circles -/

variable (dependencies : Dependencies)

/-- Two names lead to each other. -/
def Mutual (left right : String) : Prop :=
  dependencies.Leads left right ∧ dependencies.Leads right left

variable {dependencies}

theorem Mutual.symm {left right : String} (joined : dependencies.Mutual left right) :
    dependencies.Mutual right left :=
  ⟨joined.2, joined.1⟩

theorem Mutual.trans {left middle right : String} (first : dependencies.Mutual left middle)
    (second : dependencies.Mutual middle right) : dependencies.Mutual left right :=
  ⟨first.1.trans second.1, second.2.trans first.2⟩

variable (dependencies)

/-- The names on a circle with a name, in order. -/
def circleOf (name : String) : List String :=
  circle dependencies.reached name (dependencies.reachable name)

theorem circleOf_eq (name : String) :
    dependencies.circleOf name = dependencies.names.filter fun other =>
      (dependencies.reachable name).contains other &&
        (dependencies.reachable other).contains name := by
  simp [circleOf, circle, reached, List.filter_map, List.map_map, Function.comp_def]

theorem mem_circleOf_iff {name other : String} :
    other ∈ dependencies.circleOf name ↔ dependencies.Mutual name other := by
  simp only [circleOf_eq, List.mem_filter, Bool.and_eq_true, List.contains_iff_mem,
    mem_reachable_iff, Mutual]
  constructor
  · exact And.right
  · intro joined
    exact ⟨dependencies.name_mem_of_leads joined.2, joined⟩

theorem circleOf_congr {left right : String} (joined : dependencies.Mutual left right) :
    dependencies.circleOf left = dependencies.circleOf right := by
  rw [circleOf_eq, circleOf_eq]
  apply List.filter_congr
  intro other _
  rw [Bool.eq_iff_iff]
  simp only [Bool.and_eq_true, List.contains_iff_mem, mem_reachable_iff]
  exact ⟨fun onLeft => joined.symm.trans onLeft, fun onRight => joined.trans onRight⟩

theorem circleOf_sublist (name : String) :
    (dependencies.circleOf name).Sublist dependencies.names := by
  rw [circleOf_eq]
  exact List.filter_sublist

/-! ## Groups -/

theorem mem_groups_iff {reached entries : List (String × List String)} {group : List String} :
    group ∈ groups reached entries ↔
      ∃ entry ∈ entries, circle reached entry.1 entry.2 = group ∧ group.head? = some entry.1 := by
  induction entries with
  | nil => simp [groups]
  | cons entry rest induction =>
      obtain ⟨name, own⟩ := entry
      simp only [groups, List.exists_mem_cons_iff]
      split
      · rename_i empty
        rw [induction, empty]
        constructor
        · exact Or.inr
        · rintro (⟨rfl, headed⟩ | later)
          · simp at headed
          · exact later
      · rename_i first others equation
        split
        · rename_i same
          rw [List.mem_cons, induction, equation, ← eq_of_beq same]
          constructor
          · rintro (rfl | later)
            · exact Or.inl ⟨rfl, rfl⟩
            · exact Or.inr later
          · rintro (⟨rfl, _⟩ | later)
            · exact Or.inl rfl
            · exact Or.inr later
        · rename_i differs
          rw [induction, equation]
          constructor
          · exact Or.inr
          · rintro (⟨rfl, headed⟩ | later)
            · exact absurd (by simpa using headed) differs
            · exact later

theorem mem_cycles_iff {group : List String} :
    group ∈ dependencies.cycles ↔
      ∃ name, dependencies.circleOf name = group ∧ group.head? = some name := by
  simp only [cycles, mem_groups_iff]
  constructor
  · rintro ⟨entry, member, onCircle, headed⟩
    obtain ⟨name, _, rfl⟩ := List.mem_map.mp member
    exact ⟨name, onCircle, headed⟩
  · rintro ⟨name, rfl, headed⟩
    have onCircle : name ∈ dependencies.circleOf name := List.mem_of_head? headed
    have named : name ∈ dependencies.names := (dependencies.circleOf_sublist name).mem onCircle
    exact ⟨_, List.mem_map_of_mem named, rfl, headed⟩

theorem circleOf_eq_of_mem {group : List String} {name : String}
    (reported : group ∈ dependencies.cycles) (member : name ∈ group) :
    dependencies.circleOf name = group := by
  obtain ⟨head, rfl, _⟩ := dependencies.mem_cycles_iff.mp reported
  exact (dependencies.circleOf_congr (dependencies.mem_circleOf_iff.mp member)).symm

theorem circleOf_mem_cycles {name : String} (circular : dependencies.Leads name name) :
    dependencies.circleOf name ∈ dependencies.cycles := by
  have onCircle : name ∈ dependencies.circleOf name :=
    dependencies.mem_circleOf_iff.mpr ⟨circular, circular⟩
  cases equation : dependencies.circleOf name with
  | nil => simp [equation] at onCircle
  | cons head rest =>
      have headOnCircle : head ∈ dependencies.circleOf name := by simp [equation]
      have joined := dependencies.mem_circleOf_iff.mp headOnCircle
      refine dependencies.mem_cycles_iff.mpr ⟨head, ?_, rfl⟩
      rw [← equation]
      exact (dependencies.circleOf_congr joined).symm

/-- Two names stand in one group exactly if they lead to each other. -/
theorem exists_group_iff {left right : String} :
    (∃ group ∈ dependencies.cycles, left ∈ group ∧ right ∈ group) ↔
      dependencies.Mutual left right := by
  constructor
  · rintro ⟨group, reported, leftMember, rightMember⟩
    rw [← dependencies.circleOf_eq_of_mem reported leftMember] at rightMember
    exact dependencies.mem_circleOf_iff.mp rightMember
  · intro joined
    have circular : dependencies.Leads left left := joined.1.trans joined.2
    exact ⟨_, dependencies.circleOf_mem_cycles circular,
      dependencies.mem_circleOf_iff.mpr ⟨circular, circular⟩,
      dependencies.mem_circleOf_iff.mpr joined⟩

theorem groups_ascending {reached entries : List (String × List String)}
    (ordered : (entries.map Prod.fst).Pairwise (· < ·)) :
    (groups reached entries).Pairwise (· < ·) := by
  induction entries with
  | nil => simp [groups]
  | cons entry rest induction =>
      obtain ⟨name, own⟩ := entry
      obtain ⟨before, ordered⟩ := List.pairwise_cons.mp ordered
      simp only [groups]
      split
      · exact induction ordered
      · rename_i first others equation
        split
        · rename_i same
          refine List.pairwise_cons.mpr ⟨?_, induction ordered⟩
          intro group reported
          obtain ⟨entry, member, _, headed⟩ := mem_groups_iff.mp reported
          obtain ⟨tail, rfl⟩ := List.head?_eq_some_iff.mp headed
          rw [eq_of_beq same]
          exact List.Lex.rel (before _ (List.mem_map_of_mem member))
        · exact induction ordered

theorem cycles_ascending (ordered : dependencies.names.Pairwise (· < ·)) :
    dependencies.cycles.Pairwise (· < ·) := by
  apply groups_ascending
  simpa [reached, List.map_map, Function.comp_def] using ordered

theorem group_ascending (ordered : dependencies.names.Pairwise (· < ·)) {group : List String}
    (reported : group ∈ dependencies.cycles) : group.Pairwise (· < ·) := by
  obtain ⟨name, rfl, _⟩ := dependencies.mem_cycles_iff.mp reported
  exact ordered.sublist (dependencies.circleOf_sublist name)

theorem cycles_disjoint (ordered : dependencies.names.Pairwise (· < ·)) :
    dependencies.cycles.Pairwise List.Disjoint := by
  refine (dependencies.cycles_ascending ordered).imp_of_mem ?_
  intro left right leftReported rightReported before name leftMember rightMember
  have same : left = right :=
    (dependencies.circleOf_eq_of_mem leftReported leftMember).symm.trans
      (dependencies.circleOf_eq_of_mem rightReported rightMember)
  exact List.lt_irrefl left (same ▸ before)

/-- The report of circles is exact: a name is reported if and only if its definition leads back to
itself, and two names stand in one group if and only if their definitions lead to each other. The
groups are disjoint and name declared definitions only. The names of a group are in order, and so
are the groups. -/
theorem cycles_exact (document : Document) :
    (∀ name, (∃ group ∈ (ofDocument document).cycles, name ∈ group) ↔
      Relation.TransGen document.Refers name name) ∧
    (∀ left right, (∃ group ∈ (ofDocument document).cycles, left ∈ group ∧ right ∈ group) ↔
      Relation.TransGen document.Refers left right ∧
        Relation.TransGen document.Refers right left) ∧
    (ofDocument document).cycles.Pairwise List.Disjoint ∧
    (ofDocument document).cycles.flatten.Nodup ∧
    (∀ group ∈ (ofDocument document).cycles, group.Pairwise (· < ·)) ∧
    (ofDocument document).cycles.Pairwise (· < ·) ∧
    ∀ group ∈ (ofDocument document).cycles, group ≠ [] ∧
      ∀ name ∈ group, name ∈ document.definitions.toList.map Prod.fst := by
  have ordered := names_ascending document
  have disjoint := (ofDocument document).cycles_disjoint ordered
  have sorted : ∀ group ∈ (ofDocument document).cycles, group.Pairwise (· < ·) :=
    fun group reported => (ofDocument document).group_ascending ordered reported
  refine ⟨?_, ?_, disjoint, ?_, sorted, (ofDocument document).cycles_ascending ordered, ?_⟩
  · intro name
    rw [← leads_iff_refers, ← and_self (Leads _ name name)]
    have joined : _ ↔ (ofDocument document).Mutual name name :=
      (ofDocument document).exists_group_iff
    simpa [Mutual] using joined
  · intro left right
    rw [← leads_iff_refers, ← leads_iff_refers]
    exact (ofDocument document).exists_group_iff
  · refine List.nodup_flatten.mpr ⟨?_, disjoint⟩
    intro group reported
    exact (sorted group reported).imp String.ne_of_lt
  · intro group reported
    obtain ⟨name, rfl, headed⟩ := (ofDocument document).mem_cycles_iff.mp reported
    refine ⟨fun empty => by simp [empty] at headed, ?_⟩
    intro other member
    exact mem_names_iff.mp (((ofDocument document).circleOf_sublist name).mem member)

end Dependencies

end ApiCatalog
