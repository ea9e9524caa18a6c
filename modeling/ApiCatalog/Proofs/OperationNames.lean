import ApiCatalog.Proofs.Audit
import ApiCatalog.Proofs.DistinctNames

/-!
# Names of operations

Every operation of a description gets one name, and no two get the same one. The operations stand in
the order of their paths and, on one path, in the order of their methods. The central result
`operation_names_exact` says which name each of them gets, and that exactly those are reported whose
name is not the one they ask for.
-/

namespace ApiCatalog

theorem Method.name_injective : Function.Injective Method.name := by
  intro left right same
  cases left <;> cases right <;> first | rfl | simp [Method.name] at same

theorem Method.nodup_all : Method.all.Nodup := by
  decide

/-- The methods of the operations behind a path. -/
theorem PathItem.methods_eq (item : PathItem) :
    item.operations.map Prod.fst =
      Method.all.filter fun method => (item.operation? method).isSome := by
  rw [operations, List.map_filterMap, ← List.filterMap_eq_filter]
  refine List.filterMap_congr fun method _ => ?_
  cases given : item.operation? method <;> simp [Option.guard, given]

namespace Document

/-- The operations of a description, by path, and by method within a path. -/
theorem map_endpoints {α : Type} (document : Document) (view : Endpoint → α) :
    document.endpoints.map view =
      document.paths.toList.flatMap fun (path, item) =>
        Method.all.filterMap fun method =>
          (item.operation? method).map fun operation => view ⟨path, method, operation⟩ := by
  simp only [endpoints, PathItem.operations, List.map_flatMap, List.map_filterMap, Option.map_map,
    Function.comp_def]

/-- No two operations are declared at the same place. -/
theorem nodup_places (document : Document) :
    (document.endpoints.map fun endpoint => (endpoint.path, endpoint.method.name)).Nodup := by
  simp only [endpoints, List.map_flatMap, List.map_map, Function.comp_def]
  refine List.nodup_flatMap.mpr ⟨fun (path, item) _ => ?_, ?_⟩
  -- On one path the methods differ, and the paths differ as keys of their table.
  · have distinct : (item.operations.map Prod.fst).Nodup := by
      rw [PathItem.methods_eq]
      exact Method.nodup_all.sublist List.filter_sublist
    have places := distinct.map (f := fun method => (path, method.name))
      fun left right same => Method.name_injective (Prod.ext_iff.mp same).2
    rwa [List.map_map] at places
  · refine (List.pairwise_map.mp document.paths.nodup).imp ?_
    intro left right differ place leftMember rightMember
    obtain ⟨_, _, rfl⟩ := List.mem_map.mp leftMember
    obtain ⟨_, _, same⟩ := List.mem_map.mp rightMember
    exact differ (Prod.ext_iff.mp same).1.symm

end Document

namespace Catalog

theorem zip_zip_map {α β γ : Type} (make : α → β) (items : List α) (others : List γ) :
    items.zip ((items.map make).zip others) =
      (items.zip others).map fun (item, other) => (item, make item, other) := by
  induction items generalizing others with
  | nil => rfl
  | cons item rest induction =>
      cases others with
      | nil => rfl
      | cons other others => simp [induction]

variable [Transliteration] (document : Document) (naming : Naming)

/-- The names that the operations of a description get. -/
def assignedNames : List String :=
  Identifier.distinguishAll [] (document.endpoints.map (requestedName naming))

/-- The name that an operation asks for. -/
def asksFor (operation : NamedOperation) : String :=
  OperationName.requested naming operation.path operation.method operation.operationId

/-- The warning about an operation, if it does not get the name it asks for. -/
def renaming? (operation : NamedOperation) : Option Warning :=
  if operation.name = asksFor naming operation then none
  else some (.operationRenamed operation.method operation.path (asksFor naming operation)
    operation.name)

theorem length_assignedNames :
    (assignedNames document naming).length = document.endpoints.length := by
  rw [assignedNames, Identifier.length_distinguishAll, List.length_map]

theorem assignments_eq :
    assignments document naming =
      (document.endpoints.zip (assignedNames document naming)).map fun (endpoint, assigned) =>
        (endpoint, requestedName naming endpoint, assigned) :=
  zip_zip_map _ _ _

theorem nameOperations_eq :
    nameOperations document naming =
      (document.endpoints.zip (assignedNames document naming)).map fun (endpoint, assigned) =>
        nameOperation endpoint assigned := by
  rw [nameOperations, assignments_eq, List.map_map]
  rfl

/-- Named operations, apart from their names, are the declared ones. -/
theorem map_nameOperations {α : Type} (view : NamedOperation → α)
    (blind : ∀ endpoint left right,
      view (nameOperation endpoint left) = view (nameOperation endpoint right)) :
    (nameOperations document naming).map view =
      document.endpoints.map fun endpoint => view (nameOperation endpoint "") := by
  have paired : (document.endpoints.zip (assignedNames document naming)).map Prod.fst =
      document.endpoints :=
    List.map_fst_zip (Nat.le_of_eq (length_assignedNames document naming).symm)
  conv_rhs => rw [← paired]
  rw [nameOperations_eq, List.map_map, List.map_map]
  exact List.map_congr_left fun (endpoint, assigned) _ => blind endpoint assigned ""

theorem names_nameOperations :
    (nameOperations document naming).map NamedOperation.name = assignedNames document naming := by
  rw [nameOperations_eq, List.map_map]
  exact List.map_snd_zip (Nat.le_of_eq (length_assignedNames document naming))

/-- The operations with the names they ask for and the names they get. -/
theorem zip_nameOperations :
    (nameOperations document naming).map (fun operation =>
        (asksFor naming operation, operation.name)) =
      (document.endpoints.map (requestedName naming)).zip (assignedNames document naming) := by
  rw [nameOperations_eq, List.map_map, List.zip_map_left]
  rfl

theorem operationWarnings_eq :
    operationWarnings document naming =
      (nameOperations document naming).filterMap (renaming? naming) := by
  rw [operationWarnings, assignments_eq, nameOperations_eq, List.filterMap_map, List.filterMap_map]
  refine List.filterMap_congr fun (endpoint, assigned) _ => ?_
  simp only [Function.comp_apply, renaming?, asksFor, nameOperation, requestedName, bne_iff_ne]
  split <;> simp_all

/-- The naming of operations is exact. There is one named operation for every declared one, in the
order of the paths and, on one path, of the methods, and none is named twice. The names are distinct:
an operation gets the name it asks for if no earlier operation has it, and otherwise that name with
the least number from two on that no earlier operation has. The search for that number ends whatever
names are used. The warnings about operations, which follow those about definitions, are about those
that do not get the name they ask for, in order. -/
theorem operation_names_exact (only : Option (List String)) :
    (nameOperations document naming).map (fun operation =>
        (operation.path, operation.method, operation.operationId, operation.summary)) =
      (document.paths.toList.flatMap fun (path, item) =>
        [.get, .put, .post, .delete, .options, .head, .patch].filterMap fun method =>
          (item.operation? method).map fun operation =>
            (path, method.name, operation.operationId, operation.summary)) ∧
    ((nameOperations document naming).map fun operation =>
      (operation.path, operation.method)).Nodup ∧
    ((nameOperations document naming).map NamedOperation.name).Nodup ∧
    (∀ earlier operation later, nameOperations document naming = earlier ++ operation :: later →
      Identifier.Distinguished (asksFor naming operation) (earlier.map NamedOperation.name)
        operation.name) ∧
    (generate document ⟨naming, only⟩).statistics.warnings =
      modelWarnings document ⟨naming, only⟩ ++
        (nameOperations document naming).filterMap (renaming? naming) ∧
    ∀ base used, Identifier.Distinguished base used (Identifier.distinguish base used) := by
  refine ⟨?_, ?_, ?_, ?_, ?_, Identifier.distinguished_distinguish⟩
  · rw [map_nameOperations document naming _ fun _ _ _ => rfl]
    exact document.map_endpoints _
  · rw [map_nameOperations document naming _ fun _ _ _ => rfl]
    exact document.nodup_places
  · rw [names_nameOperations]
    exact Identifier.nodup_distinguishAll _ _
  · intro earlier operation later split
    have pairs := zip_nameOperations document naming
    rw [split, List.map_append, List.map_cons] at pairs
    simpa [Function.comp_def] using Identifier.distinguished_of_zip pairs.symm
  · rw [warnings_generate, operationWarnings_eq]

end Catalog

end ApiCatalog
