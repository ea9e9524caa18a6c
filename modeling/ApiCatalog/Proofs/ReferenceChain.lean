import ApiCatalog.Pointer
import Mathlib.Data.List.Perm.Subperm

/-!
# Chains of references

The walk from a schema goes to what its reference leads to, as long as there is a reference that
leads somewhere. Resolving a schema follows the walk to its end and reports how it ends: at a schema
without a reference, at a reference that leads nowhere, or not at all. The invariant is `Trail`: the
pointers of a chain are those of the walk, in order and without repetition. All of them but the
first are references of named entries, which bounds their number.
-/

namespace ApiCatalog.Pointer

/-- The schema that is reached from a schema by following references `count` times. -/
def walk (document : Document) (schema : Schema) : Nat → Option Schema
  | 0 => some schema
  | count + 1 =>
      (walk document schema count).bind fun node =>
        node.reference.bind fun pointer => (lookup document pointer).toOption

/-- The reference of the schema that is reached by following references `count` times. -/
def pointerAt (document : Document) (schema : Schema) (count : Nat) : Option String :=
  (walk document schema count).bind Schema.reference

variable {document : Document} {start : Schema}

theorem toOption_eq_some_iff {result : Except Failure Schema} {target : Schema} :
    result.toOption = some target ↔ result = .ok target := by
  cases result <;> simp [Except.toOption]

theorem walk_succ (count : Nat) :
    walk document start (count + 1) =
      (pointerAt document start count).bind fun pointer => (lookup document pointer).toOption := by
  rw [walk, pointerAt, Option.bind_assoc]

theorem walk_succ_of_pointerAt {count : Nat} {pointer : String}
    (met : pointerAt document start count = some pointer) :
    walk document start (count + 1) = (lookup document pointer).toOption := by
  rw [walk_succ, met, Option.bind_some]

theorem pointerAt_of_walk {count : Nat} {node : Schema} {pointer : String}
    (reached : walk document start count = some node) (refers : node.reference = some pointer) :
    pointerAt document start count = some pointer := by
  rw [pointerAt, reached, Option.bind_some, refers]

theorem walk_isSome_of_le {earlier later : Nat} (order : earlier ≤ later)
    (going : (walk document start later).isSome) : (walk document start earlier).isSome := by
  induction order with
  | refl => exact going
  | @step later _ induction =>
      apply induction
      cases stopped : walk document start later with
      | none => simp [walk, stopped] at going
      | some node => rfl

/-- The walk ends at one schema only. -/
theorem eq_of_walk_ends {left right : Nat} {leftNode rightNode : Schema}
    (leftReached : walk document start left = some leftNode)
    (leftEnd : walk document start (left + 1) = none)
    (rightReached : walk document start right = some rightNode)
    (rightEnd : walk document start (right + 1) = none) : leftNode = rightNode := by
  have same : left = right := by
    by_contra differ
    rcases Nat.lt_or_gt_of_ne differ with before | after
    · have going : (walk document start right).isSome := by simp [rightReached]
      simpa [leftEnd] using walk_isSome_of_le before going
    · have going : (walk document start left).isSome := by simp [leftReached]
      simpa [rightEnd] using walk_isSome_of_le after going
  subst same
  exact Option.some.inj (leftReached.symm.trans rightReached)

/-! ## Single lookups -/

theorem place_error {pointer : String} {failure : Failure}
    (refused : place pointer = .error failure) :
    failure = .external pointer ∨ failure = .unsupported pointer := by
  unfold place at refused
  split at refused
  · exact Or.inl (Except.error.inj refused).symm
  · split at refused
    · cases refused
    · split at refused
      · cases refused
      · split at refused
        · cases refused
        · exact Or.inr (Except.error.inj refused).symm
  · exact Or.inr (Except.error.inj refused).symm

/-- A lookup that fails names its own pointer. -/
theorem lookup_error {pointer : String} {failure : Failure}
    (failed : lookup document pointer = .error failure) :
    failure = .external pointer ∨ failure = .unsupported pointer ∨ failure = .dangling pointer := by
  unfold lookup at failed
  split at failed
  · rename_i refusal refused
    rw [← Except.error.inj failed]
    rcases place_error refused with external | unsupported
    · exact Or.inl external
    · exact Or.inr (Or.inl unsupported)
  · split at failed
    · cases failed
    · exact Or.inr (Or.inr (Except.error.inj failed).symm)

/-- The references of the named entries of a document. -/
def entryPointers (document : Document) : List String :=
  document.definitions.toList.filterMap (fun entry => entry.2.reference) ++
    document.parameters.toList.filterMap (fun entry => entry.2.schema.bind Schema.reference) ++
    document.responses.toList.filterMap (fun entry => entry.2.schema.bind Schema.reference)

theorem length_entryPointers_le : (entryPointers document).length ≤ entryCount document := by
  simp only [entryPointers, entryCount, List.length_append]
  exact Nat.add_le_add (Nat.add_le_add (List.length_filterMap_le _ _)
    (List.length_filterMap_le _ _)) (List.length_filterMap_le _ _)

theorem reference_mem_entryPointers {place : Place} {target : Schema} {pointer : String}
    (found : schemaAt? document place = some target) (refers : target.reference = some pointer) :
    pointer ∈ entryPointers document := by
  simp only [entryPointers, List.mem_append, List.mem_filterMap]
  cases place with
  | definition name =>
      exact Or.inl (Or.inl ⟨(name, target), Entries.find?_eq_some_iff.mp found, refers⟩)
  | parameter name =>
      obtain ⟨parameter, entry, schema⟩ := Option.bind_eq_some_iff.mp found
      exact Or.inl (Or.inr ⟨(name, parameter), Entries.find?_eq_some_iff.mp entry,
        by rw [schema, Option.bind_some, refers]⟩)
  | response name =>
      obtain ⟨response, entry, schema⟩ := Option.bind_eq_some_iff.mp found
      exact Or.inr ⟨(name, response), Entries.find?_eq_some_iff.mp entry,
        by rw [schema, Option.bind_some, refers]⟩

theorem schemaAt?_of_lookup {pointer : String} {target : Schema}
    (found : lookup document pointer = .ok target) :
    ∃ place, Pointer.place pointer = .ok place ∧ schemaAt? document place = some target := by
  unfold lookup at found
  split at found
  · cases found
  · rename_i place named
    split at found
    · rename_i schema present
      exact ⟨place, named, by rw [present, Except.ok.inj found]⟩
    · cases found

/-! ## Trails -/

/-- A chain of pointers that the walk meets one after the other, none of them twice. -/
structure Trail (document : Document) (start : Schema) (chain : List String) : Prop where
  /-- The walk meets the pointers in order. -/
  met : ∀ index, (bound : index < chain.length) →
    pointerAt document start index = some chain[index]
  /-- No pointer is met twice. -/
  distinct : chain.Nodup

theorem Trail.nil : Trail document start [] :=
  ⟨fun index bound => absurd bound (Nat.not_lt_zero index), List.nodup_nil⟩

theorem Trail.snoc {chain : List String} {pointer : String} (trail : Trail document start chain)
    (next : pointerAt document start chain.length = some pointer) (new : pointer ∉ chain) :
    Trail document start (chain ++ [pointer]) := by
  constructor
  · intro index bound
    by_cases earlier : index < chain.length
    · rw [List.getElem_append_left earlier]
      exact trail.met index earlier
    · have last : index = chain.length := by
        simp only [List.length_append, List.length_singleton] at bound
        omega
      subst last
      simpa using next
  · refine List.nodup_append.mpr ⟨trail.distinct, by simp, ?_⟩
    intro other member last isLast equal
    rw [List.mem_singleton.mp isLast] at equal
    exact new (equal ▸ member)

/-- Every pointer of a trail but the first is the reference of a named entry. -/
theorem Trail.tail_subset {chain : List String} (trail : Trail document start chain) :
    chain.tail ⊆ entryPointers document := by
  intro pointer member
  obtain ⟨index, bound, rfl⟩ := List.mem_iff_getElem.mp member
  rw [List.length_tail] at bound
  rw [List.getElem_tail]
  have here := trail.met (index + 1) (by omega)
  obtain ⟨target, reached, refers⟩ := Option.bind_eq_some_iff.mp here
  rw [walk_succ_of_pointerAt (trail.met index (by omega)), toOption_eq_some_iff] at reached
  obtain ⟨place, _, found⟩ := schemaAt?_of_lookup reached
  exact reference_mem_entryPointers found refers

theorem Trail.length_le {chain : List String} (trail : Trail document start chain) :
    chain.length ≤ entryCount document + 1 := by
  have fits := (List.subperm_of_subset (trail.distinct.sublist (List.tail_sublist chain))
    trail.tail_subset).length_le
  have entries : (entryPointers document).length ≤ entryCount document :=
    length_entryPointers_le
  rw [List.length_tail] at fits
  omega

/-- A trail followed by one of its own pointers shows that the walk never ends. -/
theorem Trail.endless {chain : List String} {last : String} (trail : Trail document start chain)
    (next : pointerAt document start chain.length = some last) (repeated : last ∈ chain)
    (count : Nat) : (walk document start count).isSome := by
  obtain ⟨index, bound, same⟩ := List.mem_iff_getElem.mp repeated
  have earlier : pointerAt document start index = some last := by
    rw [trail.met index bound, same]
  have going : (walk document start chain.length).isSome := by
    obtain ⟨node, reached, _⟩ := Option.bind_eq_some_iff.mp next
    rw [reached, Option.isSome_some]
  -- Once the pointer is met again, the walk goes on as it went on the first time.
  have periodic : ∀ more, walk document start (chain.length + 1 + more) =
      walk document start (index + 1 + more) := by
    intro more
    induction more with
    | zero => exact (walk_succ_of_pointerAt next).trans (walk_succ_of_pointerAt earlier).symm
    | succ more induction =>
        rw [← Nat.add_assoc, ← Nat.add_assoc, walk, walk, induction]
  induction count using Nat.strongRecOn with
  | ind count induction =>
      by_cases within : count ≤ chain.length
      · exact walk_isSome_of_le within going
      · obtain ⟨more, rfl⟩ := Nat.exists_eq_add_of_le (Nat.lt_of_not_le within)
        have shifted := periodic more
        rw [Nat.succ_eq_add_one, shifted]
        exact induction _ (by omega)

/-! ## How following ends -/

/-- What may come of following references from a schema. -/
inductive Outcome (document : Document) (start : Schema) : Except Failure Schema → Prop
  | found {count : Nat} {target : Schema} :
      walk document start count = some target → target.reference = none →
      Outcome document start (.ok target)
  | failed {count : Nat} {node : Schema} {pointer : String} {failure : Failure} :
      walk document start count = some node → node.reference = some pointer →
      lookup document pointer = .error failure → Outcome document start (.error failure)
  | looped {chain : List String} {last : String} :
      Trail document start chain → pointerAt document start chain.length = some last →
      last ∈ chain → Outcome document start (.error (.cyclic (chain ++ [last])))

/-- Following references from a schema on, after the pointers of a chain. -/
def follow (document : Document) (steps : Nat) (chain : List String) (schema : Schema) :
    Except Failure Schema :=
  Id.run (followWith (fun pointer => pure (lookup document pointer)) steps chain schema)

theorem resolve_eq_follow (schema : Schema) :
    resolve document schema = follow document (entryCount document + 3) [] schema := rfl

theorem follow_succ (steps : Nat) (chain : List String) (schema : Schema) :
    follow document (steps + 1) chain schema =
      match schema.reference with
      | none => .ok schema
      | some pointer =>
          if chain.contains pointer then .error (.cyclic (chain ++ [pointer]))
          else
            match lookup document pointer with
            | .ok target => follow document steps (chain ++ [pointer]) target
            | .error failure => .error failure := by
  simp only [follow, followWith]
  cases schema.reference with
  | none => rfl
  | some pointer =>
      simp only
      split
      · rfl
      · simp only [pure_bind]
        cases lookup document pointer <;> rfl

/-- As long as more steps are left than a trail can still grow, following ends as the walk does. -/
theorem outcome_follow {steps : Nat} {chain : List String} {node : Schema}
    (trail : Trail document start chain)
    (reached : walk document start chain.length = some node)
    (enough : entryCount document + 1 < steps + chain.length) :
    Outcome document start (follow document steps chain node) := by
  induction steps generalizing chain node with
  | zero =>
      have bound := trail.length_le
      omega
  | succ steps induction =>
      rw [follow_succ]
      cases refers : node.reference with
      | none => exact .found reached refers
      | some pointer =>
          have next := pointerAt_of_walk reached refers
          by_cases repeated : pointer ∈ chain
          · simp only [List.contains_iff_mem.mpr repeated, if_true]
            exact .looped trail next repeated
          · have new : chain.contains pointer = false := by simpa using repeated
            simp only [new, Bool.false_eq_true, if_false]
            cases found : lookup document pointer with
            | error failure => exact .failed reached refers found
            | ok target =>
                apply induction (trail.snoc next repeated)
                · rw [List.length_append, List.length_singleton, walk_succ_of_pointerAt next,
                    found]
                  rfl
                · simp only [List.length_append, List.length_singleton]
                  omega

theorem outcome_resolve (document : Document) (schema : Schema) :
    Outcome document schema (resolve document schema) := by
  rw [resolve_eq_follow]
  exact outcome_follow .nil rfl (by simp)

theorem walk_end_of_found {count : Nat} {target : Schema}
    (reached : walk document start count = some target) (inline : target.reference = none) :
    walk document start (count + 1) = none := by
  rw [walk, reached, Option.bind_some, inline, Option.bind_none]

theorem walk_end_of_failed {count : Nat} {node : Schema} {pointer : String} {failure : Failure}
    (reached : walk document start count = some node) (refers : node.reference = some pointer)
    (failed : lookup document pointer = .error failure) :
    walk document start (count + 1) = none := by
  rw [walk_succ_of_pointerAt (pointerAt_of_walk reached refers), failed]
  rfl

/-- A walk that never ends comes to no schema and fails at no pointer. -/
theorem Trail.walk_ne_none {chain : List String} {last : String}
    (trail : Trail document start chain)
    (next : pointerAt document start chain.length = some last) (repeated : last ∈ chain)
    {count : Nat} : walk document start count ≠ none := by
  intro ended
  have going := trail.endless next repeated count
  simp [ended] at going

/-- What the schema at the end of a walk amounts to. -/
def verdict (document : Document) (node : Schema) : Except Failure Schema :=
  match node.reference with
  | none => .ok node
  | some pointer => lookup document pointer

/-- If the walk ends, its last schema decides what a schema stands for. -/
theorem resolve_of_walk_ends {schema node : Schema} {count : Nat}
    (reached : walk document schema count = some node)
    (ended : walk document schema (count + 1) = none) :
    resolve document schema = verdict document node := by
  have outcome := outcome_resolve document schema
  generalize resolve document schema = result at outcome
  cases outcome with
  | found otherReached inline =>
      have same := eq_of_walk_ends reached ended otherReached
        (walk_end_of_found otherReached inline)
      rw [same, verdict, inline]
  | failed otherReached refers failed =>
      have same := eq_of_walk_ends reached ended otherReached
        (walk_end_of_failed otherReached refers failed)
      rw [same, verdict, refers]
      exact failed.symm
  | looped trail next repeated => exact absurd ended (trail.walk_ne_none next repeated)

theorem resolve_eq_ok_iff {schema target : Schema} :
    resolve document schema = .ok target ↔
      ∃ count, walk document schema count = some target ∧ target.reference = none := by
  constructor
  · intro resolved
    have outcome := outcome_resolve document schema
    rw [resolved] at outcome
    cases outcome with
    | found reached inline => exact ⟨_, reached, inline⟩
  · rintro ⟨count, reached, inline⟩
    rw [resolve_of_walk_ends reached (walk_end_of_found reached inline), verdict, inline]

theorem resolve_eq_error_iff {schema : Schema} {pointer : String} {failure : Failure}
    (own : failure ∈ [Failure.external pointer, .unsupported pointer, .dangling pointer]) :
    resolve document schema = .error failure ↔
      ∃ count node, walk document schema count = some node ∧ node.reference = some pointer ∧
        lookup document pointer = .error failure := by
  constructor
  · intro resolved
    have outcome := outcome_resolve document schema
    rw [resolved] at outcome
    cases outcome with
    | @failed count node other _ reached refers failed =>
        have same : other = pointer := by
          rcases lookup_error failed with rfl | rfl | rfl <;> simpa using own
        subst same
        exact ⟨count, node, reached, refers, failed⟩
    | looped => simp at own
  · rintro ⟨count, node, reached, refers, failed⟩
    rw [resolve_of_walk_ends reached (walk_end_of_failed reached refers failed), verdict, refers]
    exact failed

theorem trail_of_cyclic {schema : Schema} {chain : List String}
    (resolved : resolve document schema = .error (.cyclic chain)) :
    ∃ front last, chain = front ++ [last] ∧ last ∈ front ∧ Trail document schema front ∧
      pointerAt document schema front.length = some last := by
  have outcome := outcome_resolve document schema
  rw [resolved] at outcome
  cases outcome with
  | failed _ _ failed => rcases lookup_error failed with impossible | impossible | impossible <;>
      cases impossible
  | looped trail next repeated => exact ⟨_, _, rfl, repeated, trail, next⟩

theorem exists_cyclic_iff {schema : Schema} :
    (∃ chain, resolve document schema = .error (.cyclic chain)) ↔
      ∀ count, (walk document schema count).isSome := by
  constructor
  · rintro ⟨chain, resolved⟩ count
    obtain ⟨front, last, _, repeated, trail, next⟩ := trail_of_cyclic resolved
    exact trail.endless next repeated count
  · intro endless
    have outcome := outcome_resolve document schema
    generalize resolve document schema = result at outcome
    cases outcome with
    | @found count _ reached inline =>
        have going := endless (count + 1)
        simp [walk_end_of_found reached inline] at going
    | @failed count _ _ _ reached refers failed =>
        have going := endless (count + 1)
        simp [walk_end_of_failed reached refers failed] at going
    | @looped chain last => exact ⟨chain ++ [last], rfl⟩

/-! ## Lookups -/

/-- Looks one pointer up and counts it. -/
def countedLookup (document : Document) (pointer : String) :
    StateM Nat (Except Failure Schema) := do
  modify (· + 1)
  return lookup document pointer

/-- What a schema stands for, with the number of pointers looked up to find it. -/
def resolveCounted (document : Document) (schema : Schema) : Except Failure Schema × Nat :=
  Id.run ((resolveWith document (countedLookup document) schema).run 0)

/-- The pointers looked up are those of a trail. -/
theorem run_followWith_counted {steps : Nat} {chain : List String} {node : Schema}
    (trail : Trail document start chain)
    (reached : walk document start chain.length = some node) :
    ∃ lookups ≤ entryCount document + 1,
      Id.run ((followWith (countedLookup document) steps chain node).run chain.length) =
        (follow document steps chain node, lookups) := by
  induction steps generalizing chain node with
  | zero => exact ⟨chain.length, trail.length_le, rfl⟩
  | succ steps induction =>
      rw [follow_succ, followWith]
      cases refers : node.reference with
      | none => exact ⟨chain.length, trail.length_le, rfl⟩
      | some pointer =>
          have next := pointerAt_of_walk reached refers
          by_cases repeated : pointer ∈ chain
          · simp only [List.contains_iff_mem.mpr repeated, if_true]
            exact ⟨chain.length, trail.length_le, rfl⟩
          · have new : chain.contains pointer = false := by simpa using repeated
            have longer := trail.snoc next repeated
            simp only [new, Bool.false_eq_true, if_false]
            cases found : lookup document pointer with
            | error failure =>
                refine ⟨(chain ++ [pointer]).length, longer.length_le, ?_⟩
                simp [countedLookup, found]
            | ok target =>
                have onward : walk document start (chain ++ [pointer]).length = some target := by
                  rw [List.length_append, List.length_singleton, walk_succ_of_pointerAt next,
                    found]
                  rfl
                obtain ⟨lookups, bound, run⟩ := induction longer onward
                refine ⟨lookups, bound, ?_⟩
                rw [← run]
                simp [countedLookup, found]

theorem resolveCounted_eq (document : Document) (schema : Schema) :
    ∃ lookups ≤ entryCount document + 1,
      resolveCounted document schema = (resolve document schema, lookups) :=
  run_followWith_counted .nil (walk.eq_1 document schema)

/-- References are followed exactly as far as they lead. Resolving a schema gives the schema without
a reference that the walk reaches, or the failure of the lookup that the walk reaches, or, if and
only if the walk never ends, the chain of its pointers up to the first one that is met again. It
looks up one pointer more than there are named entries at most. -/
theorem resolve_exact (document : Document) (schema : Schema) :
    (∀ target, resolve document schema = .ok target ↔
      ∃ count, walk document schema count = some target ∧ target.reference = none) ∧
    (∀ pointer, ∀ failure ∈ [Failure.external pointer, .unsupported pointer, .dangling pointer],
      resolve document schema = .error failure ↔
        ∃ count node, walk document schema count = some node ∧ node.reference = some pointer ∧
          lookup document pointer = .error failure) ∧
    ((∃ chain, resolve document schema = .error (.cyclic chain)) ↔
      ∀ count, (walk document schema count).isSome) ∧
    (∀ chain, resolve document schema = .error (.cyclic chain) →
      (∀ count, (bound : count < chain.length) →
        pointerAt document schema count = some chain[count]) ∧
      ∃ front last, chain = front ++ [last] ∧ front.Nodup ∧ front.count last = 1) ∧
    (resolveCounted document schema).1 = resolve document schema ∧
    (resolveCounted document schema).2 ≤ entryCount document + 1 := by
  obtain ⟨lookups, bound, counted⟩ := resolveCounted_eq document schema
  refine ⟨fun target => resolve_eq_ok_iff, fun pointer failure own => resolve_eq_error_iff own,
    exists_cyclic_iff, ?_, by rw [counted], by rw [counted]; exact bound⟩
  intro chain resolved
  obtain ⟨front, last, rfl, repeated, trail, next⟩ := trail_of_cyclic resolved
  refine ⟨?_, front, last, rfl, trail.distinct, by simp [trail.distinct.count, repeated]⟩
  intro count bound
  by_cases earlier : count < front.length
  · rw [List.getElem_append_left earlier]
    exact trail.met count earlier
  · have final : count = front.length := by
      simp only [List.length_append, List.length_singleton] at bound
      omega
    subst final
    simpa using next

end ApiCatalog.Pointer
