import ApiCatalog.Proofs.OperationNames
import Mathlib.Data.List.Induction

/-!
# The accounts of a generation

Statistics arise from records of models, operations, circles and warnings. The central result is
`statistics_account`: the numbers of a generation are those of the models, operations, circles and
warnings that it holds. Some numbers agree whatever is recorded, by `Balanced.record`; a whole run
of records is summed up by `ofRecords_eq`.
-/

namespace ApiCatalog

namespace Statistics

/-- Something that statistics keep account of. -/
inductive Record where
  /-- A model. -/
  | model (model : Model)
  /-- An operation, and whether it did not get the name it asked for. -/
  | operation (renamed : Bool)
  /-- A circle of definitions. -/
  | cycle (names : List String)
  /-- A warning. -/
  | warning (warning : Warning)

/-- Takes one record into account. -/
def record (statistics : Statistics) : Record → Statistics
  | .model model => statistics.recordModel model
  | .operation renamed => statistics.recordOperation renamed
  | .cycle names => statistics.recordCycle names
  | .warning warning => statistics.recordWarning warning

/-- The statistics of records taken into account one after the other. -/
def ofRecords (records : List Record) : Statistics :=
  records.foldl record {}

/-! ## Numbers that always agree -/

/-- The models of all kinds add up, and no more is counted than there is. -/
structure Balanced (statistics : Statistics) : Prop where
  /-- Every model is of one kind. -/
  kinds : statistics.interfaces + statistics.enumerations + statistics.arrays +
    statistics.primitives + statistics.untyped = statistics.models
  /-- Operations with another name than they asked for are operations. -/
  renamed : statistics.renamed ≤ statistics.operations
  /-- Every circle is kept. -/
  cycles : statistics.cycles = statistics.cycleDetails.length

theorem balanced_empty : ({} : Statistics).Balanced :=
  ⟨rfl, Nat.le_refl 0, rfl⟩

theorem Balanced.record {statistics : Statistics} (balanced : statistics.Balanced)
    (record : Record) : (statistics.record record).Balanced := by
  obtain ⟨kinds, renamed, cycles⟩ := balanced
  cases record with
  | model model =>
      rw [Statistics.record, recordModel]
      -- The kind of the model decides which of the summands grows with their sum.
      cases model.kind <;> refine ⟨?_, renamed, cycles⟩ <;> simp only <;> omega
  | operation flag =>
      refine ⟨kinds, ?_, cycles⟩
      cases flag
      · exact Nat.le_succ_of_le renamed
      · exact Nat.succ_le_succ renamed
  | cycle names =>
      refine ⟨kinds, renamed, ?_⟩
      rw [Statistics.record, recordCycle, List.length_append, ← cycles, List.length_singleton]
  | warning warning => exact ⟨kinds, renamed, cycles⟩

theorem Balanced.run {statistics : Statistics} (balanced : statistics.Balanced)
    (records : List Record) : (records.foldl Statistics.record statistics).Balanced := by
  induction records generalizing statistics with
  | nil => exact balanced
  | cons record rest induction => exact induction (balanced.record record)

/-! ## What records add up to -/

/-- Whether a record is one of a model whose kind passes a test. -/
@[simp]
def Record.hasKind (test : Kind → Bool) : Record → Bool
  | .model recorded => test recorded.kind
  | _ => false

/-- Whether a record is one of an operation that did not get the name it asked for. -/
@[simp]
def Record.isRenaming : Record → Bool
  | .operation renamed => renamed
  | _ => false

/-- The names of a recorded circle. -/
@[simp]
def Record.cycle? : Record → Option (List String)
  | .cycle names => some names
  | _ => none

/-- A recorded warning. -/
@[simp]
def Record.warning? : Record → Option Warning
  | .warning reported => some reported
  | _ => none

theorem ofRecords_concat (records : List Record) (last : Record) :
    ofRecords (records ++ [last]) = (ofRecords records).record last := by
  rw [ofRecords, List.foldl_append, ofRecords]
  rfl

/-- Every number counts the records of one sort, and details are kept in order. -/
theorem ofRecords_eq (records : List Record) :
    ofRecords records =
      { models := records.countP (· matches .model _)
        interfaces := records.countP (Record.hasKind (· matches .interface ..))
        enumerations := records.countP (Record.hasKind (· matches .enumeration ..))
        arrays := records.countP (Record.hasKind (· matches .array ..))
        primitives := records.countP (Record.hasKind (· matches .primitive ..))
        untyped := records.countP (Record.hasKind (· matches .untyped))
        operations := records.countP (· matches .operation _)
        renamed := records.countP Record.isRenaming
        cycles := records.countP (· matches .cycle _)
        cycleDetails := records.filterMap Record.cycle?
        warnings := records.filterMap Record.warning? } := by
  induction records using List.reverseRecOn with
  | nil => rfl
  | append_singleton records last induction =>
      simp only [ofRecords_concat, induction, List.countP_append, List.countP_singleton,
        List.filterMap_append]
      cases last with
      | model model =>
          obtain ⟨name, description, imports, kind⟩ := model
          cases kind <;> simp [record, recordModel]
      | operation renamed => cases renamed <;> simp [record, recordOperation]
      | cycle names => simp [record, recordCycle]
      | warning warning => simp [record, recordWarning]

end Statistics

/-- The definition that a warning is about. -/
def Warning.schema? : Warning → Option String
  | .referenceFailed schema _ | .compositionIgnored schema | .untypedFallback schema => some schema
  | .operationRenamed .. => none

namespace Catalog

theorem countP_flatMap_of_one {α β : Type} {list : α → List β} {counts : β → Bool}
    {chosen : α → Bool} (one : ∀ item, (list item).countP counts = if chosen item then 1 else 0)
    (items : List α) : (items.flatMap list).countP counts = items.countP chosen := by
  induction items with
  | nil => rfl
  | cons item rest induction =>
      rw [List.flatMap_cons, List.countP_append, induction, one, List.countP_cons, Nat.add_comm]

variable [Transliteration] (document : Document) (request : Request) (naming : Naming)

/-! ## The warnings of each sort -/

/-- Warnings about a definition name it. -/
theorem schema?_of_mem_definitionWarnings {name : String} {schema : Schema} {warning : Warning}
    (reported : warning ∈ definitionWarnings document name schema) :
    warning.schema? = some name := by
  simp only [definitionWarnings_eq, List.mem_append, List.mem_filterMap] at reported
  rcases reported with (composed | ⟨pointer, _, failed⟩) | untyped
  · split at composed <;> simp_all [Warning.schema?]
  · unfold referenceWarning? at failed
    split at failed
    · cases failed
    · cases failed
      rfl
  · split at untyped <;> simp_all [Warning.schema?]

theorem schema?_of_mem_operationWarnings {warning : Warning}
    (reported : warning ∈ operationWarnings document naming) : warning.schema? = none := by
  obtain ⟨method, path, requested, assigned, rfl⟩ := renamed_of_mem_operationWarnings reported
  rfl

/-- An untyped model comes with one warning that says so. -/
theorem countP_untyped_definitionWarnings (name : String) (schema : Schema) :
    (definitionWarnings document name schema).countP (· matches .untypedFallback _) =
      if (schema.resolveIn document name).kind matches .untyped then 1 else 0 := by
  have silent : (audit document name schema).countP (· matches .untypedFallback _) = 0 := by
    rw [List.countP_eq_zero]
    intro warning audited
    simp only [audit, List.mem_append, List.mem_filterMap] at audited
    rcases audited with composed | ⟨pointer, _, failed⟩
    · split at composed <;> simp_all
    · unfold referenceWarning? at failed
      split at failed
      · cases failed
      · cases failed
        simp
  rw [definitionWarnings, List.countP_append, silent, Nat.zero_add, Model.isUntyped]
  cases (schema.resolveIn document name).kind <;> rfl

theorem countP_untyped_warnings :
    (modelWarnings document request ++ operationWarnings document naming).countP
        (· matches .untypedFallback _) =
      (resolveModels document request).countP (·.kind matches .untyped) := by
  have none : (operationWarnings document naming).countP (· matches .untypedFallback _) = 0 := by
    rw [List.countP_eq_zero]
    intro warning reported
    obtain ⟨method, path, requested, assigned, rfl⟩ := renamed_of_mem_operationWarnings reported
    simp
  rw [List.countP_append, none, Nat.add_zero, resolveModels, List.countP_map]
  exact countP_flatMap_of_one (fun (name, schema) =>
    countP_untyped_definitionWarnings document name schema) (selected document request)

theorem countP_renamed_warnings :
    (modelWarnings document request ++ operationWarnings document naming).countP
        (· matches .operationRenamed ..) =
      (nameOperations document naming).countP fun operation =>
        operation.name != asksFor naming operation := by
  have none : (modelWarnings document request).countP (· matches .operationRenamed ..) = 0 := by
    rw [List.countP_eq_zero]
    intro warning reported
    obtain ⟨⟨name, schema⟩, _, listed⟩ := List.mem_flatMap.mp reported
    have named := schema?_of_mem_definitionWarnings document listed
    cases warning <;> simp_all [Warning.schema?]
  rw [List.countP_append, none, Nat.zero_add, operationWarnings_eq, List.countP_filterMap]
  refine List.countP_congr fun operation _ => ?_
  unfold renaming?
  split <;> simp_all

/-! ## Generations -/

/-- What is recorded of a generation. -/
def records : List Statistics.Record :=
  (resolveModels document request).map .model ++
    (modelWarnings document request ++ operationWarnings document request.naming).map .warning ++
    (assignments document request.naming).map (fun (_, requested, assigned) =>
      .operation (assigned != requested)) ++
    (Dependencies.ofDocument document).cycles.map .cycle

theorem statistics_eq_ofRecords :
    (generate document request).statistics = Statistics.ofRecords (records document request) := by
  simp only [generate, records, Statistics.ofRecords, List.foldl_append, List.foldl_map]
  rfl

theorem countP_renamed_assignments :
    (assignments document naming).countP (fun (_, requested, assigned) => assigned != requested) =
      (nameOperations document naming).countP fun operation =>
        operation.name != asksFor naming operation := by
  rw [assignments_eq, nameOperations_eq, List.countP_map, List.countP_map]
  rfl

theorem length_assignments :
    (assignments document naming).length = (nameOperations document naming).length := by
  rw [nameOperations, List.length_map]

theorem statistics_generate :
    (generate document request).statistics =
      { models := (resolveModels document request).length
        interfaces := (resolveModels document request).countP (·.kind matches .interface ..)
        enumerations := (resolveModels document request).countP (·.kind matches .enumeration ..)
        arrays := (resolveModels document request).countP (·.kind matches .array ..)
        primitives := (resolveModels document request).countP (·.kind matches .primitive ..)
        untyped := (resolveModels document request).countP (·.kind matches .untyped)
        operations := (nameOperations document request.naming).length
        renamed := (nameOperations document request.naming).countP fun operation =>
          operation.name != asksFor request.naming operation
        cycles := (Dependencies.ofDocument document).cycles.length
        cycleDetails := (Dependencies.ofDocument document).cycles
        warnings := modelWarnings document request ++
          operationWarnings document request.naming } := by
  rw [statistics_eq_ofRecords, Statistics.ofRecords_eq, ← length_assignments,
    ← countP_renamed_assignments]
  simp [records, Function.comp_def]

end Catalog

/-- The numbers of a generation are those of what it holds. -/
structure Generation.Accounted [Transliteration] (generation : Generation) (naming : Naming) :
    Prop where
  models : generation.statistics.models = generation.catalog.models.length
  interfaces : generation.statistics.interfaces =
    generation.catalog.models.countP (·.kind matches .interface ..)
  enumerations : generation.statistics.enumerations =
    generation.catalog.models.countP (·.kind matches .enumeration ..)
  arrays : generation.statistics.arrays =
    generation.catalog.models.countP (·.kind matches .array ..)
  primitives : generation.statistics.primitives =
    generation.catalog.models.countP (·.kind matches .primitive ..)
  untyped : generation.statistics.untyped =
    generation.catalog.models.countP (·.kind matches .untyped)
  /-- Every untyped model comes with a warning. -/
  untypedWarnings : generation.statistics.untyped =
    generation.statistics.warnings.countP (· matches .untypedFallback _)
  operations : generation.statistics.operations = generation.catalog.operations.length
  /-- The operations counted are those that do not get the name they ask for. -/
  renamed : generation.statistics.renamed =
    generation.catalog.operations.countP fun operation =>
      operation.name != Catalog.asksFor naming operation
  /-- Every such operation comes with a warning. -/
  renamedWarnings : generation.statistics.renamed =
    generation.statistics.warnings.countP (· matches .operationRenamed ..)
  balanced : generation.statistics.Balanced

namespace Catalog

/-- Statistics account for their catalog: each number is that of the models, operations, circles or
warnings it stands for. The numbers agree with each other after any records. -/
theorem statistics_account [Transliteration] (document : Document) (request : Request) :
    (generate document request).Accounted request.naming ∧
      ∀ records, (Statistics.ofRecords records).Balanced := by
  have always : ∀ records, (Statistics.ofRecords records).Balanced :=
    Statistics.balanced_empty.run
  have balanced : (generate document request).statistics.Balanced := by
    rw [statistics_eq_ofRecords]
    exact always _
  refine ⟨?_, always⟩
  constructor
  case untypedWarnings =>
    rw [statistics_generate]
    exact (countP_untyped_warnings document request request.naming).symm
  case renamedWarnings =>
    rw [statistics_generate]
    exact (countP_renamed_warnings document request request.naming).symm
  case balanced => exact balanced
  all_goals
    rw [statistics_generate]
    rfl

end Catalog

end ApiCatalog
