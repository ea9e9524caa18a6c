import ApiCatalog.Command.Actions
import ApiCatalog.Proofs.OperationNames
import ApiCatalog.Proofs.TextOrder
import ApiCatalog.Terminal.PlainDrawing
import ApiCatalog.Text.Spellings

/-!
# The listing of operations

The table of operations has one row for every operation, and the names of the rows ascend, as no two
operations have the same name. If no two operations ask for the same name either, each one gets the
name it asks for, and the order of the paths does not show in the table: `operations_canonical`.
-/

namespace ApiCatalog

namespace Identifier

/-- Names that differ from each other and from the used ones are handed out as they are. -/
theorem distinguishAll_of_nodup {used names : List String} (distinct : names.Nodup)
    (free : ∀ name ∈ names, name ∉ used) : distinguishAll used names = names := by
  induction names generalizing used with
  | nil => rfl
  | cons name rest induction =>
      obtain ⟨new, distinct⟩ := List.nodup_cons.mp distinct
      obtain ⟨freeName, freeRest⟩ := List.forall_mem_cons.mp free
      have assigned : distinguish name used = name :=
        if_neg (mt List.contains_iff_mem.mp freeName)
      rw [distinguishAll, assigned, induction distinct]
      intro other member old
      rcases List.mem_cons.mp old with rfl | old
      · exact new member
      · exact freeRest other member old

end Identifier

namespace Catalog

variable {document : Document} {naming : Naming}

/-- The order of the paths is that of their operations, and makes no other difference to them. -/
theorem endpoints_perm {paths : Entries PathItem}
    (reordered : paths.toList.Perm document.paths.toList) :
    ({ document with paths } : Document).endpoints.Perm document.endpoints :=
  reordered.flatMap_right _

variable [Transliteration]

/-- No two operations of a description ask for the same name. -/
def AsksDistinctly (document : Document) (naming : Naming) : Prop :=
  (document.endpoints.map (requestedName naming)).Nodup

/-- Where no name is asked for twice, every operation gets the name it asks for. -/
theorem nameOperations_of_asksDistinctly (distinct : AsksDistinctly document naming) :
    nameOperations document naming = document.endpoints.map fun endpoint =>
      nameOperation endpoint (requestedName naming endpoint) := by
  have assigned : assignedNames document naming =
      document.endpoints.map (requestedName naming) :=
    Identifier.distinguishAll_of_nodup distinct fun _ _ => List.not_mem_nil
  rw [nameOperations_eq, assigned, List.map_zip_eq_zipWith, List.zipWith_map_right,
    List.zipWith_self]
  rfl

theorem AsksDistinctly.of_perm {paths : Entries PathItem}
    (reordered : paths.toList.Perm document.paths.toList)
    (distinct : AsksDistinctly document naming) : AsksDistinctly { document with paths } naming :=
  ((endpoints_perm reordered).map _).nodup_iff.mpr distinct

theorem nameOperations_perm {paths : Entries PathItem}
    (reordered : paths.toList.Perm document.paths.toList)
    (distinct : AsksDistinctly document naming) :
    (nameOperations { document with paths } naming).Perm (nameOperations document naming) := by
  rw [nameOperations_of_asksDistinctly distinct,
    nameOperations_of_asksDistinctly (distinct.of_perm reordered)]
  exact (endpoints_perm reordered).map _

end Catalog

namespace Listing

open Catalog

section

variable [Transliteration] (document : Document) (naming : Naming)

theorem sortedOperations_perm :
    (sortedOperations document naming).Perm (nameOperations document naming) :=
  List.mergeSort_perm _ _

/-- No two operations have the same name, so that the sorted names ascend. -/
theorem sortedOperations_ascending :
    (sortedOperations document naming).Pairwise fun earlier later => earlier.name < later.name := by
  have sorted : ((sortedOperations document naming).map NamedOperation.name).Pairwise (· ≤ ·) :=
    List.pairwise_map.mpr (Dependencies.pairwise_precedes NamedOperation.name _)
  have distinct : ((sortedOperations document naming).map NamedOperation.name).Nodup := by
    rw [((sortedOperations_perm document naming).map _).nodup_iff, names_nameOperations]
    exact Identifier.nodup_distinguishAll _ _
  exact List.pairwise_map.mp (Dependencies.ascending_of_sorted sorted distinct)

variable {document naming}

theorem sortedOperations_repathed {paths : Entries PathItem}
    (reordered : paths.toList.Perm document.paths.toList)
    (distinct : AsksDistinctly document naming) :
    sortedOperations { document with paths } naming = sortedOperations document naming := by
  refine Dependencies.eq_of_ascending NamedOperation.name ?_ (sortedOperations_ascending _ _)
    (sortedOperations_ascending _ _)
  exact (sortedOperations_perm _ _).trans
    ((nameOperations_perm reordered distinct).trans (sortedOperations_perm _ _).symm)

/-- What listing operations writes is the drawn table of the operations of the description. -/
theorem run_listOperations [Drawing] {files : FileTree} {input : String} {bytes : List UInt8}
    (found : files.read? input = some bytes)
    (loaded : Document.load (Format.ofPath input) bytes = .ok document)
    (screen : Screen) (palette : Palette) (time : String) :
    ((Command.listOperations input naming).script screen palette).run time files =
      ⟨[Drawing.draw screen palette (operations document naming)], [], files, none⟩ := by
  simp only [Command.script, Script.load, Script.run, found, loaded, say]
  rfl

/-- The listing of operations is canonical. Its rows are the operations of the catalog, one row for
each, with ascending names in the order of bytes. Where no two operations ask for the same name, the
order of the paths makes no difference to the table. This table is what the command writes, drawn on
whatever screen in whatever way. -/
theorem operations_canonical [Drawing] (document : Document) (naming : Naming) :
    (∀ only, ∃ listed : List NamedOperation,
      listed.Perm (generate document ⟨naming, only⟩).catalog.operations ∧
      (operations document naming).rows = listed.map (fun operation =>
        [operation.name, operation.method, operation.path]) ∧
      listed.Pairwise fun earlier later => Text.bytes earlier.name < Text.bytes later.name) ∧
    (∀ paths : Entries PathItem, paths.toList.Perm document.paths.toList →
      AsksDistinctly document naming →
        operations { document with paths } naming = operations document naming) ∧
    ∀ screen palette time files input bytes, files.read? input = some bytes →
      Document.load (Format.ofPath input) bytes = .ok document →
        ((Command.listOperations input naming).script screen palette).run time files =
          ⟨[Drawing.draw screen palette (operations document naming)], [], files, none⟩ := by
  refine ⟨?_, ?_, ?_⟩
  · intro only
    refine ⟨sortedOperations document naming, sortedOperations_perm document naming, rfl, ?_⟩
    exact (sortedOperations_ascending document naming).imp Text.bytes_lt_of_lt
  · intro paths reordered distinct
    rw [operations, sortedOperations_repathed reordered distinct, operations]
  · intro screen palette time files input bytes found loaded
    exact run_listOperations found loaded screen palette time

end

attribute [local instance] Text.tabulated Table.plainDrawing

/-- A description of pets and their owners. -/
def kennel : Document where
  paths := ⟨[("/pets", { get := some {}, post := some {} }),
    ("/owners/{id}", { get := some { operationId := some "findOwner" } })], by decide⟩

/-- Its paths the other way round. -/
def kennelPaths : Entries PathItem :=
  ⟨[("/owners/{id}", { get := some { operationId := some "findOwner" } }),
    ("/pets", { get := some {}, post := some {} })], by decide⟩

theorem operations_canonical_kennel :
    kennelPaths.toList.Perm kennel.paths.toList ∧ AsksDistinctly kennel .preferOperationId ∧
      operations { kennel with paths := kennelPaths } .preferOperationId =
        operations kennel .preferOperationId := by
  have reordered : kennelPaths.toList.Perm kennel.paths.toList := .swap _ _ _
  have distinct : AsksDistinctly kennel .preferOperationId := by
    unfold AsksDistinctly
    decide
  exact ⟨reordered, distinct, (operations_canonical kennel _).2.1 _ reordered distinct⟩

end Listing

end ApiCatalog
