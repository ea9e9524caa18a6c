import ApiCatalog.Proofs.PointerReading
import ApiCatalog.Proofs.ReferenceChain

/-!
# Loops of references

A chain of references that never ends runs into a loop. If the pointers of the loop are written as
ones into the definitions, then each of them leads to the definition it ends in, and that definition
refers to the next one on the loop. So the loop is a circle of definitions, and the report of circles
has all of it in one group.
-/

namespace ApiCatalog

namespace Pointer

/-- The closed part of a chain of pointers: from the first place of its last pointer on. -/
def loop (chain : List String) : List String :=
  chain.drop (chain.idxOf (chain.getLastD ""))

variable {document : Document} {schema : Schema} {chain : List String}

/-- The walk meets every pointer of the chain it is reported with. -/
theorem pointerAt_of_cyclic (resolved : resolve document schema = .error (.cyclic chain))
    {index : Nat} (bound : index < chain.length) :
    pointerAt document schema index = some chain[index] := by
  obtain ⟨front, last, rfl, _, trail, next⟩ := trail_of_cyclic resolved
  by_cases earlier : index < front.length
  · rw [List.getElem_append_left earlier]
    exact trail.met index earlier
  -- The last pointer is not on the trail any more: there the walk stops, as it has met it before.
  · have final : index = front.length := by
      simp only [List.length_append, List.length_singleton] at bound
      omega
    subst final
    simpa using next

/-- A loop starts and ends with the same pointer. -/
theorem loop_of_cyclic (resolved : resolve document schema = .error (.cyclic chain)) :
    ∃ pointer middle, loop chain = pointer :: middle ++ [pointer] := by
  obtain ⟨front, last, rfl, repeated, _, _⟩ := trail_of_cyclic resolved
  have within : front.idxOf last < front.length := List.idxOf_lt_length_of_mem repeated
  refine ⟨last, front.drop (front.idxOf last + 1), ?_⟩
  rw [loop, List.getLastD_concat, List.idxOf_append_of_mem repeated,
    List.drop_append_of_le_length (Nat.le_of_lt within), List.drop_eq_getElem_cons within,
    List.getElem_idxOf within]

/-- One step of the walk between pointers into the definitions follows a reference of a
definition. -/
theorem refers_of_pointerAt {count : Nat} {first second : String}
    (met : pointerAt document schema count = some first)
    (next : pointerAt document schema (count + 1) = some second)
    (written : "#/definitions/".toList <+: first.toList)
    (writtenNext : "#/definitions/".toList <+: second.toList) :
    document.Refers (targetName first) (targetName second) := by
  obtain ⟨node, reached, refers⟩ := Option.bind_eq_some_iff.mp next
  rw [walk_succ_of_pointerAt met, toOption_eq_some_iff] at reached
  obtain ⟨place, named, found⟩ := schemaAt?_of_lookup reached
  have isDefinition : place = .definition (targetName first) := by
    rcases place_of_prefix written with same | unsupported
    · exact Except.ok.inj (named.symm.trans same)
    · rw [named] at unsupported
      cases unsupported
  subst isDefinition
  have declared : (targetName first, node) ∈ document.definitions.toList :=
    Entries.find?_eq_some_iff.mp found
  exact ⟨second, ⟨node, node, declared, .self, refers⟩, writtenNext, rfl⟩

/-- On a loop over the definitions, every definition leads to every later one. -/
theorem pairwise_loop (resolved : resolve document schema = .error (.cyclic chain))
    (written : ∀ pointer ∈ loop chain, "#/definitions/".toList <+: pointer.toList) :
    (loop chain).Pairwise fun first second =>
      Relation.TransGen document.Refers (targetName first) (targetName second) := by
  have steps : (loop chain).IsChain fun first second =>
      Relation.TransGen document.Refers (targetName first) (targetName second) := by
    refine List.isChain_iff_getElem.mpr fun index bound => .single ?_
    have here := written _ (List.getElem_mem (Nat.lt_of_succ_lt bound))
    have there := written _ (List.getElem_mem bound)
    simp only [loop, List.getElem_drop, List.length_drop] at here there bound ⊢
    exact refers_of_pointerAt (pointerAt_of_cyclic resolved (by omega))
      (pointerAt_of_cyclic resolved (by omega)) here there
  exact steps.pairwise

end Pointer

namespace Dependencies

open Pointer

/-- Loops of references are reported as circles. If a reference leads into a loop of pointers that
all start like ones into the definitions, then the names they end in are declared and stand in one
and the same group. -/
theorem loop_in_one_group {document : Document} {pointer : String} {chain : List String}
    (resolved : Pointer.resolve document (Schema.refer pointer) = .error (.cyclic chain))
    (written : ∀ target ∈ loop chain, "#/definitions/".toList <+: target.toList) :
    ∃ group ∈ (ofDocument document).cycles, ∀ target ∈ loop chain,
      targetName target ∈ document.definitions.toList.map Prod.fst ∧
        targetName target ∈ group := by
  -- The loop starts and ends with one pointer: each target leads to the end, and the start to it.
  have ordered := pairwise_loop resolved written
  obtain ⟨first, middle, closed⟩ := loop_of_cyclic resolved
  rw [closed] at ordered ⊢
  obtain ⟨_, _, toEnd⟩ := List.pairwise_append.mp ordered
  obtain ⟨fromStart, _⟩ := List.pairwise_cons.mp ordered
  have back : ∀ target ∈ first :: middle,
      (ofDocument document).Leads (targetName target) (targetName first) := fun target member =>
    leads_iff_refers.mpr (toEnd target member first List.mem_cons_self)
  have forth : ∀ target ∈ middle ++ [first],
      (ofDocument document).Leads (targetName first) (targetName target) := fun target member =>
    leads_iff_refers.mpr (fromStart target member)
  have circular : (ofDocument document).Leads (targetName first) (targetName first) :=
    back first List.mem_cons_self
  refine ⟨_, (ofDocument document).circleOf_mem_cycles circular, fun target member => ?_⟩
  have joined : (ofDocument document).Mutual (targetName first) (targetName target) := by
    rcases List.mem_append.mp member with early | final
    · rcases List.mem_cons.mp early with rfl | inside
      · exact ⟨circular, circular⟩
      · exact ⟨forth target (List.mem_append_left _ inside), back target early⟩
    · rw [List.mem_singleton.mp final]
      exact ⟨circular, circular⟩
  exact ⟨mem_names_iff.mp ((ofDocument document).name_mem_of_leads joined.2),
    (ofDocument document).mem_circleOf_iff.mpr joined⟩

/-- The document in which `Order` refers to `Client` and `Client` and `Address` to each other. -/
def circular : Document where
  definitions := ⟨[("Order", Schema.refer "#/definitions/Client"),
    ("Client", Schema.refer "#/definitions/Address"),
    ("Address", Schema.refer "#/definitions/Client")], by decide⟩

/-- The chain of the reference to `Order` in that document. -/
def circularChain : List String :=
  ["#/definitions/Order", "#/definitions/Client", "#/definitions/Address", "#/definitions/Client"]

theorem loop_in_one_group_circular :
    Pointer.resolve circular (Schema.refer "#/definitions/Order") =
        .error (.cyclic circularChain) ∧
      (∀ target ∈ loop circularChain, "#/definitions/".toList <+: target.toList) ∧
      ∃ group ∈ (ofDocument circular).cycles, ∀ target ∈ loop circularChain,
        targetName target ∈ circular.definitions.toList.map Prod.fst ∧
          targetName target ∈ group := by
  have resolved : Pointer.resolve circular (Schema.refer "#/definitions/Order") =
      .error (.cyclic circularChain) := by rfl
  have written : ∀ target ∈ loop circularChain, "#/definitions/".toList <+: target.toList := by
    decide
  exact ⟨resolved, written, loop_in_one_group resolved written⟩

end Dependencies

end ApiCatalog
