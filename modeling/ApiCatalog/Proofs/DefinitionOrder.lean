import ApiCatalog.Proofs.Accounting
import ApiCatalog.Proofs.Circles
import ApiCatalog.Text.Spellings

/-!
# The order of definitions

Definitions, parameters and responses are found by their names, and dependencies are sorted by them.
So the order of entries shows in two places only: models stand in the order of the definitions, and
so do the warnings about them. The central result is `generate_reordered`.
-/

namespace ApiCatalog

/-- Two descriptions that differ in the order of definitions, parameters and responses only. -/
structure Document.Reordered (left right : Document) : Prop where
  swagger : left.swagger = right.swagger
  info : left.info = right.info
  basePath : left.basePath = right.basePath
  paths : left.paths = right.paths
  definitions : left.definitions.toList.Perm right.definitions.toList
  parameters : left.parameters.toList.Perm right.parameters.toList
  responses : left.responses.toList.Perm right.responses.toList

theorem Entries.find?_of_perm {α : Type} {left right : Entries α}
    (reordered : left.toList.Perm right.toList) (name : String) :
    left.find? name = right.find? name := by
  apply Option.ext
  intro value
  rw [find?_eq_some_iff, find?_eq_some_iff, reordered.mem_iff]

namespace Document.Reordered

variable {left right : Document}

/-! ## References -/

theorem schemaAt? (reordered : left.Reordered right) (place : Pointer.Place) :
    Pointer.schemaAt? left place = Pointer.schemaAt? right place := by
  cases place with
  | definition name => exact Entries.find?_of_perm reordered.definitions name
  | parameter name =>
      rw [Pointer.schemaAt?, Entries.find?_of_perm reordered.parameters, Pointer.schemaAt?]
  | response name =>
      rw [Pointer.schemaAt?, Entries.find?_of_perm reordered.responses, Pointer.schemaAt?]

theorem lookup (reordered : left.Reordered right) (pointer : String) :
    Pointer.lookup left pointer = Pointer.lookup right pointer := by
  simp only [Pointer.lookup, reordered.schemaAt?]

theorem entryCount (reordered : left.Reordered right) :
    Pointer.entryCount left = Pointer.entryCount right := by
  rw [Pointer.entryCount, reordered.definitions.length_eq, reordered.parameters.length_eq,
    reordered.responses.length_eq, Pointer.entryCount]

theorem resolve (reordered : left.Reordered right) (schema : Schema) :
    Pointer.resolve left schema = Pointer.resolve right schema := by
  simp only [Pointer.resolve, Pointer.resolveWith, reordered.entryCount, reordered.lookup]

/-! ## Circles -/

/-- Names in ascending order leave one order only for the dependencies. -/
theorem dependencies (reordered : left.Reordered right) :
    Dependencies.ofDocument left = Dependencies.ofDocument right := by
  have sorted : ∀ document : Document,
      (Dependencies.ofDocument document).targets.Pairwise fun first second =>
        first.1 < second.1 := fun document =>
    List.pairwise_map.mp (Dependencies.names_ascending document)
  have permuted : (Dependencies.ofDocument left).targets.Perm
      (Dependencies.ofDocument right).targets := by
    refine (List.mergeSort_perm _ _).trans (List.Perm.trans ?_ (List.mergeSort_perm _ _).symm)
    exact reordered.definitions.map _
  have same : (Dependencies.ofDocument left).targets = (Dependencies.ofDocument right).targets :=
    Dependencies.eq_of_ascending Prod.fst permuted (sorted left) (sorted right)
  exact congrArg Dependencies.mk same

/-! ## Selected definitions -/

theorem selected (reordered : left.Reordered right) (request : Request) :
    (Catalog.selected left request).Perm (Catalog.selected right request) :=
  reordered.definitions.filter _

/-! ## Operations -/

variable [Transliteration]

theorem assignments (reordered : left.Reordered right) (naming : Naming) :
    Catalog.assignments left naming = Catalog.assignments right naming := by
  have endpoints : left.endpoints = right.endpoints := by
    rw [Document.endpoints, reordered.paths, Document.endpoints]
  rw [Catalog.assignments, endpoints, Catalog.assignments]

theorem nameOperations (reordered : left.Reordered right) (naming : Naming) :
    Catalog.nameOperations left naming = Catalog.nameOperations right naming := by
  rw [Catalog.nameOperations, reordered.assignments, Catalog.nameOperations]

theorem operationWarnings (reordered : left.Reordered right) (naming : Naming) :
    Catalog.operationWarnings left naming = Catalog.operationWarnings right naming := by
  rw [Catalog.operationWarnings, reordered.assignments, Catalog.operationWarnings]

/-! ## Definitions -/

theorem definitionWarnings (reordered : left.Reordered right) (name : String) (schema : Schema) :
    Catalog.definitionWarnings left name schema = Catalog.definitionWarnings right name schema := by
  have failures : Catalog.referenceWarning? left name = Catalog.referenceWarning? right name := by
    funext pointer
    rw [Catalog.referenceWarning?, reordered.resolve, Catalog.referenceWarning?]
  rw [Catalog.definitionWarnings_eq, Catalog.definitionWarnings_eq, failures]

theorem resolveModels (reordered : left.Reordered right) (request : Request) :
    (Catalog.resolveModels left request).Perm (Catalog.resolveModels right request) := by
  simp only [Catalog.resolveModels, Schema.resolveIn_eq]
  exact (reordered.selected request).map _

end Document.Reordered

namespace Catalog

section

variable [Transliteration]

/-- The generations of two descriptions differ in the order of definitions only. -/
structure SameButOrder (left right : Document) (request : Request) : Prop where
  title : (generate left request).catalog.title = (generate right request).catalog.title
  version : (generate left request).catalog.version = (generate right request).catalog.version
  operations :
    (generate left request).catalog.operations = (generate right request).catalog.operations
  /-- The circles are the same, in the same order. -/
  cycleDetails : (generate left request).statistics.cycleDetails =
    (generate right request).statistics.cycleDetails
  /-- All numbers are the same. -/
  numbers : { (generate left request).statistics with warnings := [] } =
    { (generate right request).statistics with warnings := [] }
  /-- The same definitions are resolved, each description's in its own order. -/
  definitions : (selected left request).Perm (selected right request)
  /-- Each definition has one model under both descriptions. -/
  models : ∀ document ∈ [left, right], (generate document request).catalog.models =
    (selected document request).map fun (name, schema) => schema.resolve name
  /-- Each definition has one block of warnings under both descriptions. The warnings about
  operations follow the blocks. -/
  warnings : ∀ document ∈ [left, right], (generate document request).statistics.warnings =
    (selected document request).flatMap (fun (name, schema) =>
      definitionWarnings left name schema) ++ operationWarnings left request.naming

theorem statistics_reordered {left right : Document} (reordered : left.Reordered right)
    (request : Request) :
    { (generate left request).statistics with warnings := [] } =
      { (generate right request).statistics with warnings := [] } := by
  have permuted := reordered.resolveModels request
  simp only [statistics_generate, permuted.length_eq, permuted.countP_eq, reordered.dependencies,
    reordered.nameOperations]

/-- The order of definitions, parameters and responses shows in the order of the models and of the
blocks of warnings about them, and nowhere else. -/
theorem generate_reordered {left right : Document} (reordered : left.Reordered right)
    (request : Request) : SameButOrder left right request := by
  have numbers := statistics_reordered reordered request
  constructor
  case title => exact congrArg Info.title reordered.info
  case version => exact congrArg Info.version reordered.info
  case operations => exact reordered.nameOperations request.naming
  case cycleDetails =>
    simp only [statistics_generate, reordered.dependencies]
  case numbers => exact numbers
  case definitions => exact reordered.selected request
  case models =>
    intro document _
    simp only [generate, resolveModels, Schema.resolveIn_eq]
  case warnings =>
    intro document either
    rw [warnings_generate]
    rcases List.mem_pair.mp either with rfl | rfl
    · rfl
    · simp only [modelWarnings, reordered.definitionWarnings, reordered.operationWarnings]

end

attribute [local instance] Text.tabulated

/-- A description with a circle, a chain of references through all three tables that leads nowhere,
and an operation. -/
def listed : Document where
  paths := ⟨[("/pets", { get := some {} })], by decide⟩
  definitions := ⟨[("Pet", Schema.refer "#/definitions/Owner"),
    ("Owner", Schema.refer "#/definitions/Pet"), ("Code", Schema.refer "#/parameters/code")],
    by decide⟩
  parameters := ⟨[("code", { schema := some (Schema.refer "#/responses/Code") }), ("limit", {})],
    by decide⟩
  responses := ⟨[("Code", { schema := some (Schema.refer "#/definitions/Lost") }), ("Done", {})],
    by decide⟩

/-- That description with all its entries the other way round. -/
def relisted : Document where
  paths := ⟨[("/pets", { get := some {} })], by decide⟩
  definitions := ⟨[("Code", Schema.refer "#/parameters/code"),
    ("Owner", Schema.refer "#/definitions/Pet"), ("Pet", Schema.refer "#/definitions/Owner")],
    by decide⟩
  parameters := ⟨[("limit", {}), ("code", { schema := some (Schema.refer "#/responses/Code") })],
    by decide⟩
  responses := ⟨[("Done", {}), ("Code", { schema := some (Schema.refer "#/definitions/Lost") })],
    by decide⟩

theorem generate_reordered_relisted :
    listed.Reordered relisted ∧
      SameButOrder listed relisted ⟨.pathDerived, some ["Pet", "Code"]⟩ := by
  have reordered : listed.Reordered relisted :=
    ⟨rfl, rfl, rfl, rfl, (List.reverse_perm _).symm, (List.reverse_perm _).symm,
      (List.reverse_perm _).symm⟩
  exact ⟨reordered, generate_reordered reordered _⟩

end Catalog

end ApiCatalog
