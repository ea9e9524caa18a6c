import ApiCatalog.Catalog
import ApiCatalog.Proofs.ReferenceChain
import ApiCatalog.Proofs.Repetitions
import ApiCatalog.Proofs.SchemaForm
import ApiCatalog.Proofs.TextOrder
import Mathlib.Logic.Function.Basic

/-!
# The audit of definitions

The warnings of a generation are those about the selected definitions, in their order, and those
about renamed operations after them. The central result `warnings_exact` says which warnings there
are about a definition. It also says that no broken reference gets into a model unnoticed: the model
of a schema varies with the type of a reference only if the reference is audited.
-/

namespace ApiCatalog

/-! ## Rendered references -/

namespace Schema

open Resolution

variable {typeOf other : String → TypeExpression}

theorem pointers_subset_of_child {child schema : Schema} (member : child ∈ schema.children) :
    child.pointers ⊆ schema.pointers := by
  intro pointer collected
  rw [pointers_eq]
  exact List.mem_append_right _ (List.mem_flatMap.mpr ⟨child, member, collected⟩)

theorem expression_congr {schema : Schema} {model : Model}
    (agree : ∀ pointer ∈ schema.pointers, typeOf pointer = other pointer) :
    expression typeOf schema model = expression other schema model := by
  unfold expression
  split
  · rename_i pointer refers
    exact agree pointer (mem_pointers_iff.mpr ⟨schema, .self, refers⟩)
  · rfl

variable [Transliteration]

/-- The model of a schema depends on the types of the references in its tree only. -/
theorem resolveWith_congr (schema : Schema)
    (agree : ∀ pointer ∈ schema.pointers, typeOf pointer = other pointer) (name : String) :
    schema.resolveWith typeOf name = schema.resolveWith other name := by
  induction schema using induction_on_children generalizing name with
  | step schema induction =>
      rw [resolveWith_eq, resolveWith_eq]
      refine assemble_congr (fun child member name => ?_) name
      have agreeBelow : ∀ pointer ∈ child.pointers, typeOf pointer = other pointer :=
        fun pointer collected => agree pointer (pointers_subset_of_child member collected)
      rw [induction child member agreeBelow, expression_congr agreeBelow]

/-- The model of a schema shows the type of a pointer: it varies with that type. -/
def Renders (schema : Schema) (name pointer : String) : Prop :=
  ∃ typeOf type, schema.resolveWith (Function.update typeOf pointer type) name ≠
    schema.resolveWith typeOf name

theorem Renders.mem_pointers {schema : Schema} {name pointer : String}
    (rendered : schema.Renders name pointer) : pointer ∈ schema.pointers := by
  obtain ⟨typeOf, type, differ⟩ := rendered
  by_contra absent
  apply differ
  apply resolveWith_congr
  intro collected member
  have apart : collected ≠ pointer := fun equal => absent (equal ▸ member)
  rw [Function.update_of_ne apart]

/-- The type of a reference is shown where the items of a list refer to it. -/
theorem renders_items {schema items : Schema} {name pointer : String}
    (unlisted : symbols? schema = none) (isArray : schema.isArray = true)
    (given : schema.items = some items) (refers : items.reference = some pointer) :
    schema.Renders name pointer := by
  have imported : ∀ typeOf,
      (schema.resolveWith typeOf name).imports = (typeOf pointer).imports := by
    intro typeOf
    rw [resolveWith_eq, assemble, given, Option.map_some]
    simp only [combine, enumerated?, unlisted, Option.bind_none, isArray, given, expression, refers,
      array]
  refine ⟨fun _ => ⟨"", "", none, []⟩, ⟨"", "", none, [pointer]⟩, ?_⟩
  intro same
  have sameImports := congrArg Model.imports same
  rw [imported, imported, Function.update_self] at sameImports
  cases sameImports

/-! ## Untyped models -/

theorem isUntyped_resolve_iff {schema : Schema} {name : String} :
    (schema.resolve name).isUntyped = true ↔ schema.form = .unknown := by
  rw [resolve_of_form]
  cases schema.form with
  | unknown => exact iff_of_true rfl rfl
  | symbols | list | object | declared => exact iff_of_false nofun nofun

/-- A model is untyped exactly if the literals of its schema give no symbols and no type is
declared. -/
theorem isUntyped_resolveIn_iff {document : Document} {schema : Schema} {name : String} :
    (schema.resolveIn document name).isUntyped = true ↔
      Enumeration.ofLiterals schema.enumeration = [] ∧ schema.type = none := by
  rw [resolveIn_eq, isUntyped_resolve_iff, form_eq_unknown_iff]
  refine and_congr_left fun undeclared => ?_
  have noNumber : schema.isInteger = false := by simp [isInteger, isType, undeclared]
  simp [Resolution.symbols?, noNumber]

end Schema

namespace Catalog

/-! ## Recorded warnings -/

theorem warnings_foldl_of_keeps {α : Type} {record : Statistics → α → Statistics}
    (keeps : ∀ statistics item, (record statistics item).warnings = statistics.warnings)
    (items : List α) (statistics : Statistics) :
    (items.foldl record statistics).warnings = statistics.warnings := by
  induction items generalizing statistics with
  | nil => rfl
  | cons item rest induction => rw [List.foldl_cons, induction, keeps]

theorem warnings_foldl_recordWarning (warnings : List Warning) (statistics : Statistics) :
    (warnings.foldl Statistics.recordWarning statistics).warnings =
      statistics.warnings ++ warnings := by
  induction warnings generalizing statistics with
  | nil => exact (List.append_nil _).symm
  | cons warning rest induction =>
      rw [List.foldl_cons, induction, Statistics.recordWarning, List.append_assoc,
        List.singleton_append]

theorem warnings_recordModel (statistics : Statistics) (model : Model) :
    (statistics.recordModel model).warnings = statistics.warnings := by
  unfold Statistics.recordModel
  cases model.kind <;> rfl

/-! ## Audited references -/

theorem mem_distinctPointers_iff {schema : Schema} {pointer : String} :
    pointer ∈ distinctPointers schema ↔ pointer ∈ schema.pointers := by
  rw [distinctPointers, List.mem_mergeSort, List.mem_eraseDups]

theorem distinctPointers_ascending (schema : Schema) :
    (distinctPointers schema).Pairwise fun left right => Text.bytes left < Text.bytes right := by
  have sorted : (distinctPointers schema).Pairwise (· ≤ ·) :=
    Dependencies.pairwise_precedes id schema.pointers.eraseDups
  have distinct : (distinctPointers schema).Nodup :=
    (List.mergeSort_perm _ _).nodup_iff.mpr (Text.nodup_eraseDups schema.pointers)
  exact (Dependencies.ascending_of_sorted sorted distinct).imp Text.bytes_lt_of_lt

/-! ## Warnings of a generation -/

variable [Transliteration]

theorem definitionWarnings_eq (document : Document) (name : String) (schema : Schema) :
    definitionWarnings document name schema =
      (if schema.Composed then [.compositionIgnored name] else []) ++
      (distinctPointers schema).filterMap (referenceWarning? document name) ++
      (if Enumeration.ofLiterals schema.enumeration = [] ∧ schema.type = none then
        [.untypedFallback name] else []) := by
  simp only [definitionWarnings, audit, Schema.isComposed_iff, Schema.isUntyped_resolveIn_iff]

theorem warnings_generate (document : Document) (request : Request) :
    (generate document request).statistics.warnings =
      modelWarnings document request ++ operationWarnings document request.naming := by
  have cycleKeeps : ∀ (statistics : Statistics) cycle,
      (statistics.recordCycle cycle).warnings = statistics.warnings := fun _ _ => rfl
  have operationKeeps : ∀ (statistics : Statistics) (assignment : Endpoint × String × String),
      (statistics.recordOperation (assignment.2.2 != assignment.2.1)).warnings =
        statistics.warnings := fun _ _ => rfl
  simp only [generate]
  rw [warnings_foldl_of_keeps cycleKeeps, warnings_foldl_of_keeps operationKeeps,
    warnings_foldl_recordWarning, warnings_foldl_of_keeps warnings_recordModel, List.nil_append]

theorem renamed_of_mem_operationWarnings {document : Document} {naming : Naming}
    {warning : Warning} (reported : warning ∈ operationWarnings document naming) :
    ∃ method path requested assigned,
      warning = .operationRenamed method path requested assigned := by
  obtain ⟨⟨endpoint, requested, assigned⟩, _, made⟩ := List.mem_filterMap.mp reported
  by_cases renamed : (assigned != requested) = true
  · simp only [renamed, if_true] at made
    exact ⟨_, _, _, _, (Option.some.inj made).symm⟩
  · simp [renamed] at made

/-- A definition about which no failed reference is reported has audited references only that lead
to a schema without a reference. -/
theorem resolve_of_unreported {document : Document} {name pointer : String} {schema : Schema}
    (unreported : ∀ failure,
      .referenceFailed name failure ∉ definitionWarnings document name schema)
    (audited : pointer ∈ distinctPointers schema) :
    ∃ target, Pointer.resolve document (Schema.refer pointer) = .ok target ∧
      target.reference = none := by
  cases resolved : Pointer.resolve document (Schema.refer pointer) with
  | ok target =>
      obtain ⟨_, _, inline⟩ := Pointer.resolve_eq_ok_iff.mp resolved
      exact ⟨target, rfl, inline⟩
  | error failure =>
      apply absurd _ (unreported failure.describe)
      rw [definitionWarnings_eq]
      apply List.mem_append_left
      apply List.mem_append_right
      exact List.mem_filterMap.mpr ⟨pointer, audited, by simp [referenceWarning?, resolved]⟩

/-- The audit is exact. The warnings are those about the selected definitions, in document order,
and those about renamed operations after them. About a definition they say whether its tree holds
composition, then which of its references fail, and then whether nothing is known of it. The
audited references are those in its tree, each once and in the order of their bytes, and every
reference that its model shows, as a list shows that of its items, is among them. If none is
reported, every reference that the model shows leads to a schema without a reference. -/
theorem warnings_exact (document : Document) (request : Request) :
    (generate document request).statistics.warnings =
      (document.definitions.toList.filter fun (name, _) => request.selects name).flatMap
        (fun (name, schema) =>
          (if schema.Composed then [.compositionIgnored name] else []) ++
          (distinctPointers schema).filterMap (referenceWarning? document name) ++
          (if Enumeration.ofLiterals schema.enumeration = [] ∧ schema.type = none then
            [.untypedFallback name] else [])) ++
      operationWarnings document request.naming ∧
    (∀ warning ∈ operationWarnings document request.naming, ∃ method path requested assigned,
      warning = .operationRenamed method path requested assigned) ∧
    ∀ name schema, (name, schema) ∈ document.definitions.toList → request.selects name →
      (distinctPointers schema).Pairwise
        (fun left right => Text.bytes left < Text.bytes right) ∧
      (∀ pointer, pointer ∈ distinctPointers schema ↔
        ∃ node, Schema.Part node schema ∧ node.reference = some pointer) ∧
      (∀ pointer, schema.Renders name pointer → pointer ∈ distinctPointers schema) ∧
      ((∀ failure,
          .referenceFailed name failure ∉ (generate document request).statistics.warnings) →
        ∀ pointer, schema.Renders name pointer →
          ∃ target, Pointer.resolve document (Schema.refer pointer) = .ok target ∧
            target.reference = none) := by
  have recorded := warnings_generate document request
  refine ⟨?_, fun _ => renamed_of_mem_operationWarnings, ?_⟩
  · rw [recorded]
    simp only [modelWarnings, selected, definitionWarnings_eq]
  · intro name schema declared chosen
    have audited : ∀ pointer, schema.Renders name pointer → pointer ∈ distinctPointers schema :=
      fun pointer rendered => mem_distinctPointers_iff.mpr rendered.mem_pointers
    refine ⟨distinctPointers_ascending schema,
      fun pointer => mem_distinctPointers_iff.trans Schema.mem_pointers_iff, audited, ?_⟩
    intro unreported pointer rendered
    have member : (name, schema) ∈ selected document request :=
      List.mem_filter.mpr ⟨declared, chosen⟩
    have silent : ∀ failure,
        .referenceFailed name failure ∉ definitionWarnings document name schema := by
      intro failure reported
      apply unreported failure
      rw [recorded]
      exact List.mem_append_left _ (List.mem_flatMap.mpr ⟨(name, schema), member, reported⟩)
    exact resolve_of_unreported silent (audited pointer rendered)

/-- A list of pets shows the reference to them. -/
example :
    Schema.Renders { type := some "array", items := some (Schema.refer "#/definitions/Pet") }
      "Pets" "#/definitions/Pet" :=
  Schema.renders_items rfl rfl rfl rfl

end Catalog

end ApiCatalog
