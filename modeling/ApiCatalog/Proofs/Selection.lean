import ApiCatalog.Proofs.Accounting
import ApiCatalog.Proofs.SchemaAlone

/-!
# Selected definitions

A request may name the definitions to resolve. The central result `generate_only` compares its
generation with that of all definitions: the models are those of the named definitions, the warnings
are those about them and about operations, and nothing else differs. Every model and every warning
about a definition carries its name, so that both can be selected after the fact.
-/

namespace ApiCatalog

/-- Whether a warning is about one of the named definitions or about no definition at all. -/
def Warning.concerns (names : List String) (warning : Warning) : Bool :=
  warning.schema?.all names.contains

/-- A generation is what another one holds of the named definitions, and the same in everything that
is not about definitions one by one. -/
structure Generation.RestrictedTo (part whole : Generation) (names : List String) : Prop where
  /-- The models of the named definitions are kept as they are, in their order. -/
  models : part.catalog.models =
    whole.catalog.models.filter fun model => names.contains model.name
  /-- The warnings about the named definitions and about operations are kept, in their order. -/
  warnings : part.statistics.warnings = whole.statistics.warnings.filter (Warning.concerns names)
  title : part.catalog.title = whole.catalog.title
  version : part.catalog.version = whole.catalog.version
  operations : part.catalog.operations = whole.catalog.operations
  operationCount : part.statistics.operations = whole.statistics.operations
  renamedCount : part.statistics.renamed = whole.statistics.renamed
  cycleCount : part.statistics.cycles = whole.statistics.cycles
  cycleDetails : part.statistics.cycleDetails = whole.statistics.cycleDetails

theorem Schema.name_resolveIn [Transliteration] (document : Document) (name : String)
    (schema : Schema) :
    (schema.resolveIn document name).name = name := by
  obtain ⟨description, imports, kind, callee, arguments, shape⟩ := nameOnly_resolve schema
  rw [resolveIn_eq]
  exact congrArg Model.name (shape name)

namespace Catalog

theorem filter_flatMap_of_uniform {α β : Type} {items : List α} {list : α → List β}
    {keep : β → Bool} {choose : α → Bool}
    (uniform : ∀ item ∈ items, ∀ listed ∈ list item, keep listed = choose item) :
    (items.flatMap list).filter keep = (items.filter choose).flatMap list := by
  induction items with
  | nil => rfl
  | cons item rest induction =>
      obtain ⟨here, later⟩ := List.forall_mem_cons.mp uniform
      rw [List.flatMap_cons, List.filter_append, induction later, List.filter_cons]
      cases chosen : choose item with
      | true =>
          have all : (list item).filter keep = list item :=
            List.filter_eq_self.mpr fun listed member => (here listed member).trans chosen
          rw [if_pos rfl, List.flatMap_cons, all]
      | false =>
          have none : (list item).filter keep = [] :=
            List.filter_eq_nil_iff.mpr fun listed member => by simp [here listed member, chosen]
          rw [if_neg Bool.false_ne_true, none, List.nil_append]

variable (document : Document) (naming : Naming) (names : List String)

theorem selected_only :
    selected document ⟨naming, some names⟩ =
      (selected document ⟨naming, none⟩).filter fun (name, _) => names.contains name := by
  have everything : selected document ⟨naming, none⟩ = document.definitions.toList :=
    List.filter_eq_self.mpr fun _ _ => rfl
  rw [everything]
  rfl

/-- Names that no definition has select nothing. -/
theorem selected_declared :
    selected document
        ⟨naming, some (names.filter fun name => (document.definitions.find? name).isSome)⟩ =
      selected document ⟨naming, some names⟩ := by
  refine List.filter_congr fun (name, schema) declared => ?_
  have found : document.definitions.find? name = some schema :=
    Entries.find?_eq_some_iff.mpr declared
  simp [Request.selects, found]

variable [Transliteration]

theorem resolveModels_only :
    resolveModels document ⟨naming, some names⟩ =
      (resolveModels document ⟨naming, none⟩).filter fun model => names.contains model.name := by
  simp only [resolveModels, selected_only, List.filter_map, Function.comp_def,
    Schema.name_resolveIn]

theorem modelWarnings_only :
    modelWarnings document ⟨naming, some names⟩ =
      (modelWarnings document ⟨naming, none⟩).filter (Warning.concerns names) := by
  rw [modelWarnings, selected_only]
  symm
  apply filter_flatMap_of_uniform
  rintro ⟨name, schema⟩ _ warning reported
  rw [Warning.concerns, schema?_of_mem_definitionWarnings document reported, Option.all_some]

theorem operationWarnings_concern :
    (operationWarnings document naming).filter (Warning.concerns names) =
      operationWarnings document naming := by
  refine List.filter_eq_self.mpr fun warning reported => ?_
  rw [Warning.concerns, schema?_of_mem_operationWarnings document naming reported, Option.all_none]

/-- Naming definitions selects them and changes nothing else. Names that no definition has are
without effect. -/
theorem generate_only :
    (generate document ⟨naming, some names⟩).RestrictedTo (generate document ⟨naming, none⟩)
        names ∧
      generate document
          ⟨naming, some (names.filter fun name => (document.definitions.find? name).isSome)⟩ =
        generate document ⟨naming, some names⟩ := by
  constructor
  · constructor
    case models => exact resolveModels_only document naming names
    case warnings =>
      rw [warnings_generate, warnings_generate, List.filter_append, operationWarnings_concern,
        modelWarnings_only]
    case title => rfl
    case version => rfl
    case operations => rfl
    all_goals
      rw [statistics_generate, statistics_generate]
  · simp only [generate, resolveModels, modelWarnings, selected_declared]

end Catalog

end ApiCatalog
