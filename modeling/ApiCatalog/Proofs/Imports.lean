import ApiCatalog.Proofs.ReferenceTypes
import ApiCatalog.Proofs.SchemaForm
import ApiCatalog.Proofs.Selection
import ApiCatalog.Text.Spellings

/-!
# Imported names

An import of a model comes from a reference or a declared type in the tree of its schema. Declared
types that are built in import nothing. A reference that is not reported leads somewhere, and unless
it leads astray the name it imports is that of a definition: `imports_closed`. A reference leads
astray to a shared parameter or response, and to a definition whose name is not read as one name.
-/

namespace ApiCatalog

/-! ## Imports of a model -/

namespace Schema

open Resolution

/-- An import comes from a reference or a declared type in the tree of a schema. -/
def Brings (schema : Schema) (imported : String) : Prop :=
  (∃ pointer ∈ schema.pointers, imported ∈ (TypeExpression.ofPointer pointer).imports) ∨
    ∃ node type, Part node schema ∧ node.type = some type ∧
      imported ∈ (TypeExpression.ofName type).imports

theorem Brings.inside {child schema : Schema} {imported : String}
    (member : child ∈ schema.children) (brings : child.Brings imported) :
    schema.Brings imported := by
  rcases brings with ⟨pointer, collected, mentioned⟩ | ⟨node, type, part, declared, mentioned⟩
  · exact Or.inl ⟨pointer, pointers_subset_of_child member collected, mentioned⟩
  · exact Or.inr ⟨node, type, .inside member part, declared, mentioned⟩

variable [Transliteration]

theorem brings_of_mem_imports_inline {schema : Schema} {name imported : String}
    (whole : imported ∈ (schema.resolve name).imports → schema.Brings imported)
    (mentioned : imported ∈ (schema.resolveInline name).imports) : schema.Brings imported := by
  cases refers : schema.reference with
  | some pointer =>
      rw [resolveInline_of_reference refers] at mentioned
      exact Or.inl ⟨pointer, mem_pointers_iff.mpr ⟨schema, .self, refers⟩, mentioned⟩
  | none =>
      rw [resolveInline, expression, refers] at mentioned
      exact whole mentioned

/-- Every import of a model comes from the tree of its schema. -/
theorem brings_of_mem_imports {schema : Schema} {name imported : String}
    (mentioned : imported ∈ (schema.resolve name).imports) : schema.Brings imported := by
  induction schema using induction_on_children generalizing name with
  | step schema induction =>
      rw [resolve_of_form] at mentioned
      cases form : schema.form with
      | list items =>
          rw [form] at mentioned
          have member : items ∈ schema.children := mem_children_of_list form
          exact (brings_of_mem_imports_inline (induction items member) mentioned).inside member
      | object properties =>
          rw [form] at mentioned
          simp only [ofForm, interface, List.flatMap_map, List.mem_flatMap] at mentioned
          obtain ⟨property, declared, inside⟩ := mentioned
          have member : property.2 ∈ schema.children := mem_children_of_object form declared
          exact (brings_of_mem_imports_inline (induction property.2 member) inside).inside member
      | declared type =>
          rw [form] at mentioned
          exact Or.inr ⟨schema, type, .self, (form_eq_declared_iff.mp form).2.1, mentioned⟩
      | symbols | unknown =>
          rw [form] at mentioned
          cases mentioned

end Schema

/-! ## References that lead astray -/

namespace Pointer

/-- The name at a place is not imported as the name of a definition. -/
def Place.Astray : Place → Prop
  | .definition name => ¬ Text.Bare name.toList ∨ TypeExpression.IsGeneric name.toList
  | .parameter _ | .response _ => True

theorem Place.not_astray {name : String} (simple : TypeExpression.Simple name.toList) :
    ¬ (Place.definition name).Astray := by
  rintro (blank | generic)
  · exact blank simple.bare
  · exact simple.not_isGeneric generic

theorem exists_place_of_resolve {document : Document} {pointer : String} {target : Schema}
    (resolved : resolve document (Schema.refer pointer) = .ok target) :
    ∃ place, Pointer.place pointer = .ok place ∧ (schemaAt? document place).isSome := by
  obtain ⟨count, reached, inline⟩ := resolve_eq_ok_iff.mp resolved
  cases count with
  | zero =>
      rw [walk] at reached
      cases reached
      cases inline
  | succ count =>
      have going : (walk document (Schema.refer pointer) 1).isSome :=
        walk_isSome_of_le (Nat.succ_le_succ (Nat.zero_le count)) (Option.isSome_of_eq_some reached)
      obtain ⟨next, first⟩ := Option.isSome_iff_exists.mp going
      have met : pointerAt document (Schema.refer pointer) 0 = some pointer := rfl
      rw [walk_succ_of_pointerAt met, toOption_eq_some_iff] at first
      obtain ⟨place, named, found⟩ := schemaAt?_of_lookup first
      exact ⟨place, named, Option.isSome_of_eq_some found⟩

end Pointer

namespace TypeExpression

/-- A name without blanks around it that is not generic imports itself or nothing. -/
theorem eq_of_mem_imports_ofName {name imported : String} (bare : Text.Bare name.toList)
    (plain : ¬ IsGeneric name.toList) (mentioned : imported ∈ (ofName name).imports) :
    imported = name := by
  by_cases empty : name.toList = []
  · rw [ofName, ofCharacters_eq, empty] at mentioned
    cases mentioned
  · have whole : ofName name = ofPlainName name := by
      rw [ofName, ofCharacters_of_bare bare empty plain, String.ofList_toList]
    rw [whole, ofPlainName] at mentioned
    split at mentioned
    · cases mentioned
    · exact List.mem_singleton.mp mentioned

end TypeExpression

/-- Every type that is declared in a definition is built in. -/
def Document.DeclaresBuiltIns (document : Document) : Prop :=
  ∀ name schema node type, (name, schema) ∈ document.definitions.toList →
    Schema.Part node schema → node.type = some type →
      (TypeExpression.primitive? type).isSome = true

/-- No reference is reported. -/
def Statistics.Clean (statistics : Statistics) : Prop :=
  ∀ name failure, .referenceFailed name failure ∉ statistics.warnings

namespace Catalog

/-! ## Orders -/

/-- An order with a reference, another definition, and a shared parameter. -/
def ordering (pointer other : String) (apart : "Order" ≠ other) : Document where
  definitions := ⟨[
    ("Order", { type := some "object", properties := some [("body", Schema.refer pointer)] }),
    (other, { type := some "string" })], by simpa using apart⟩
  parameters := ⟨[("Body", { schema := some { type := some "string" } })], List.nodup_singleton _⟩

variable {pointer other : String} {apart : "Order" ≠ other}

theorem declaresBuiltIns_ordering : (ordering pointer other apart).DeclaresBuiltIns := by
  intro name schema node type declared part declares
  rcases List.mem_pair.mp declared with same | same <;> cases same
  · cases part with
    | self =>
        cases declares
        rfl
    | inside member below =>
        obtain rfl : _ = Schema.refer pointer := by
          simpa [Schema.children, Schema.declaredProperties] using member
        cases below with
        | self => cases declares
        | inside member _ =>
            simp [Schema.children, Schema.declaredProperties, Schema.refer] at member
  · cases part with
    | self =>
        cases declares
        rfl
    | inside member _ => simp [Schema.children, Schema.declaredProperties] at member

theorem pointer_of_mem_ordering {name collected : String} {schema : Schema}
    (declared : (name, schema) ∈ (ordering pointer other apart).definitions.toList)
    (member : collected ∈ schema.pointers) : collected = pointer := by
  rcases List.mem_pair.mp declared with same | same <;> cases same
  · simpa [Schema.pointers_eq, Schema.children, Schema.declaredProperties, Schema.refer]
      using member
  · simp [Schema.pointers_eq, Schema.children, Schema.declaredProperties] at member

/-! ## Models -/

variable {document : Document} {request : Request}

theorem selects_of_everything (everything : request.only = none) {name : String} :
    request.selects name = true := by
  unfold Request.selects
  rw [everything]

section

variable [Transliteration]

theorem mem_models_iff (everything : request.only = none) {model : Model} :
    model ∈ (generate document request).catalog.models ↔
      ∃ name schema, (name, schema) ∈ document.definitions.toList ∧
        schema.resolveIn document name = model := by
  have all : selected document request = document.definitions.toList :=
    List.filter_eq_self.mpr fun _ _ => selects_of_everything everything
  change model ∈ resolveModels document request ↔ _
  rw [resolveModels, all, List.mem_map, Prod.exists]

theorem failed_of_mem_definitionWarnings {name other failure : String} {schema : Schema}
    (reported : .referenceFailed other failure ∈ definitionWarnings document name schema) :
    ∃ pointer ∈ distinctPointers schema,
      referenceWarning? document name pointer = some (.referenceFailed other failure) := by
  rw [definitionWarnings_eq, List.mem_append, List.mem_append] at reported
  rcases reported with (composed | failed) | untyped
  · split at composed <;> simp at composed
  · exact List.mem_filterMap.mp failed
  · split at untyped <;> simp at untyped

/-- No reference is reported exactly if every reference inside a definition leads to a schema. -/
theorem clean_iff (everything : request.only = none) :
    (generate document request).statistics.Clean ↔
      ∀ name schema pointer, (name, schema) ∈ document.definitions.toList →
        pointer ∈ schema.pointers →
          ∃ target, Pointer.resolve document (Schema.refer pointer) = .ok target := by
  constructor
  · intro clean name schema pointer declared collected
    have chosen : (name, schema) ∈ selected document request :=
      List.mem_filter.mpr ⟨declared, selects_of_everything everything⟩
    have unreported : ∀ failure,
        .referenceFailed name failure ∉ definitionWarnings document name schema := by
      intro failure reported
      apply clean name failure
      rw [warnings_generate]
      exact List.mem_append_left _ (List.mem_flatMap.mpr ⟨(name, schema), chosen, reported⟩)
    obtain ⟨target, resolved, _⟩ :=
      resolve_of_unreported unreported (mem_distinctPointers_iff.mpr collected)
    exact ⟨target, resolved⟩
  · intro resolves name failure reported
    rw [warnings_generate] at reported
    rcases List.mem_append.mp reported with ofModels | ofOperations
    · obtain ⟨⟨name, schema⟩, chosen, inside⟩ := List.mem_flatMap.mp ofModels
      obtain ⟨pointer, audited, failed⟩ := failed_of_mem_definitionWarnings inside
      obtain ⟨target, resolved⟩ := resolves name schema pointer (List.mem_filter.mp chosen).1
        (mem_distinctPointers_iff.mp audited)
      simp [referenceWarning?, resolved] at failed
    · obtain ⟨_, _, _, _, renamed⟩ := renamed_of_mem_operationWarnings ofOperations
      cases renamed

theorem clean_ordering {target : Schema}
    (resolved :
      Pointer.resolve (ordering pointer other apart) (Schema.refer pointer) = .ok target) :
    (generate (ordering pointer other apart) {}).statistics.Clean := by
  apply (clean_iff rfl).mpr
  intro name schema collected declared member
  rw [pointer_of_mem_ordering declared member]
  exact ⟨target, resolved⟩

theorem models_ordering : ∃ order definition : Model,
    (generate (ordering pointer other apart) {}).catalog.models = [order, definition] ∧
      order.imports = (TypeExpression.ofPointer pointer).imports ∧
      order.name = "Order" ∧ definition.name = other := by
  refine ⟨_, _, rfl, ?_, Schema.name_resolveIn _ _ _, Schema.name_resolveIn _ _ _⟩
  change (Schema.resolveIn _ "Order" _).imports = _
  rw [Schema.resolveIn_eq]
  exact List.append_nil _

/-- An import is the name of no model, although declared types are built in and no reference is
reported. -/
def Dangles (document : Document) (imported : String) : Prop :=
  document.DeclaresBuiltIns ∧ (generate document {}).statistics.Clean ∧
    (∃ model ∈ (generate document {}).catalog.models, imported ∈ model.imports) ∧
    ∀ model ∈ (generate document {}).catalog.models, model.name ≠ imported

theorem dangles_ordering {imported : String} {target : Schema}
    (resolved : Pointer.resolve (ordering pointer other apart) (Schema.refer pointer) = .ok target)
    (brought : imported ∈ (TypeExpression.ofPointer pointer).imports)
    (missing : "Order" ≠ imported ∧ other ≠ imported) :
    Dangles (ordering pointer other apart) imported := by
  obtain ⟨order, definition, models, imports, isOrder, isOther⟩ :=
    @models_ordering pointer other apart _
  refine ⟨declaresBuiltIns_ordering, clean_ordering resolved, ?_, ?_⟩
  · refine ⟨order, ?_, ?_⟩
    · rw [models]
      exact List.mem_cons_self
    · rw [imports]
      exact brought
  · intro model member
    rw [models] at member
    rcases List.mem_pair.mp member with rfl | rfl
    · rw [isOrder]
      exact missing.1
    · rw [isOther]
      exact missing.2

/-- If declared types are built in and no reference is reported, the models are closed under imports
up to references that lead astray: every import is the name of a model, or a reference in the
definition brings it that leads astray. -/
theorem imports_closed (everything : request.only = none) (builtIns : document.DeclaresBuiltIns)
    (clean : (generate document request).statistics.Clean) {model : Model}
    (made : model ∈ (generate document request).catalog.models) {imported : String}
    (mentioned : imported ∈ model.imports) :
    (∃ other ∈ (generate document request).catalog.models, other.name = imported) ∨
      ∃ schema pointer place, (model.name, schema) ∈ document.definitions.toList ∧
        pointer ∈ schema.pointers ∧ imported ∈ (TypeExpression.ofPointer pointer).imports ∧
        Pointer.place pointer = .ok place ∧ place.Astray := by
  obtain ⟨name, schema, declared, rfl⟩ := (mem_models_iff everything).mp made
  rw [Schema.resolveIn_eq] at mentioned
  rcases Schema.brings_of_mem_imports mentioned with ⟨pointer, collected, brought⟩ |
    ⟨node, type, part, declares, brought⟩
  · -- The audit only tells that the reference leads somewhere, not to what kind of place.
    obtain ⟨target, resolved⟩ :=
      (clean_iff everything).mp clean name schema pointer declared collected
    obtain ⟨place, named, found⟩ := Pointer.exists_place_of_resolve resolved
    by_cases astray : place.Astray
    · refine Or.inr ⟨schema, pointer, place, ?_, collected, brought, named, astray⟩
      rw [Schema.name_resolveIn]
      exact declared
    · left
      cases place with
      | parameter target => exact absurd trivial astray
      | response target => exact absurd trivial astray
      | definition target =>
          have plain := not_or.mp astray
          rw [TypeExpression.ofPointer_of_place named] at brought
          have same : imported = target :=
            TypeExpression.eq_of_mem_imports_ofName (not_not.mp plain.1) plain.2 brought
          obtain ⟨definition, isDefinition⟩ := Option.isSome_iff_exists.mp found
          refine ⟨definition.resolveIn document target, (mem_models_iff everything).mpr
            ⟨target, definition, Entries.find?_eq_some_iff.mp isDefinition, rfl⟩, ?_⟩
          rw [Schema.name_resolveIn, same]
  · obtain ⟨builtIn, listed⟩ :=
      Option.isSome_iff_exists.mp (builtIns name schema node type declared part declares)
    rw [TypeExpression.ofName_of_primitive? listed] at brought
    cases brought

end

attribute [local instance] Text.tabulated

/-- An order that holds a pet. -/
def petOrder : Document :=
  ordering "#/definitions/Pet" "Pet" (by decide)

theorem imports_closed_petOrder :
    petOrder.DeclaresBuiltIns ∧ (generate petOrder {}).statistics.Clean ∧
      ∃ order ∈ (generate petOrder {}).catalog.models, "Pet" ∈ order.imports ∧
        ∃ other ∈ (generate petOrder {}).catalog.models, other.name = "Pet" := by
  have builtIns : petOrder.DeclaresBuiltIns := declaresBuiltIns_ordering
  have clean : (generate petOrder {}).statistics.Clean := clean_ordering rfl
  obtain ⟨order, definition, models, imports, _, _⟩ :=
    @models_ordering "#/definitions/Pet" "Pet" (by decide) _
  have made : order ∈ (generate petOrder {}).catalog.models := by
    rw [petOrder, models]
    exact List.mem_cons_self
  have mentioned : "Pet" ∈ order.imports := by
    have brought : (TypeExpression.ofPointer "#/definitions/Pet").imports = ["Pet"] := by cbv
    rw [imports, brought]
    exact List.mem_cons_self
  refine ⟨builtIns, clean, order, made, mentioned, ?_⟩
  rcases imports_closed rfl builtIns clean made mentioned with closed |
    ⟨schema, pointer, place, declared, collected, _, named, astray⟩
  · exact closed
  · have leads : Pointer.place "#/definitions/Pet" = .ok (.definition "Pet") := rfl
    rw [pointer_of_mem_ordering declared collected, leads] at named
    obtain rfl := Except.ok.inj named
    exact absurd astray (Pointer.Place.not_astray (TypeExpression.simple_of_isPlain rfl))

/-- References to shared parameters, to definitions with generic names and to definitions with
blanks around their names import names that no model has. -/
theorem astray_imports_dangle :
    Dangles (ordering "#/parameters/Body" "Pet" (by decide)) "Body" ∧
      Dangles (ordering "#/definitions/Page%C2%ABPet%C2%BB" "Page«Pet»" (by decide)) "Page" ∧
      Dangles (ordering "#/definitions/ Pet" " Pet" (by decide)) "Pet" := by
  have shared : (TypeExpression.ofPointer "#/parameters/Body").imports = ["Body"] := by cbv
  have generic : (TypeExpression.ofPointer "#/definitions/Page%C2%ABPet%C2%BB").imports =
      ["Page", "Pet"] := by cbv
  have blank : (TypeExpression.ofPointer "#/definitions/ Pet").imports = ["Pet"] := by cbv
  refine ⟨dangles_ordering rfl ?_ (by decide), dangles_ordering rfl ?_ (by decide),
    dangles_ordering rfl ?_ (by decide)⟩
  · rw [shared]
    exact List.mem_cons_self
  · rw [generic]
    exact List.mem_cons_self
  · rw [blank]
    exact List.mem_cons_self

end Catalog

end ApiCatalog
