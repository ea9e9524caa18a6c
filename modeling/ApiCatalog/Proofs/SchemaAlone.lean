import ApiCatalog.Proofs.SchemaForm

/-!
# Resolution depends on the schema alone

Neither the document nor the name under which a schema is resolved gets into the type expression of a
schema without a declaration of its own. Into a model only the name gets, in two places: as the name
of the model and as an argument of the expression that checks its values. So the parts of a schema
that only name it or describe it to readers can be erased without effect on its model:
`resolve_erased`.
-/

namespace ApiCatalog

/-- A kind with another expression that checks values, if it has one. -/
def Kind.checkedBy (validation : String) : Kind → Kind
  | .enumeration symbols rendered base _ => .enumeration symbols rendered base validation
  | .array rendered base template _ => .array rendered base template validation
  | .interface properties parents => .interface properties parents
  | .primitive rendered base template => .primitive rendered base template
  | .untyped => .untyped

/-- Models for every name that differ in the name only, as their name and as an argument of the
expression that checks their values. -/
def NameOnly (model : String → Model) : Prop :=
  ∃ description imports kind callee arguments, ∀ name,
    model name = ⟨name, description, imports,
      Kind.checkedBy (callee ++ "<" ++ name ++ ">" ++ arguments) kind⟩

namespace Resolution

/-! ## Names -/

theorem nameOnly_enumeration (description : Option String) (symbols : List Symbol)
    (base : String) : NameOnly fun name =>
      ⟨name, description, [], .enumeration symbols (Enumeration.unionType symbols) base
        (Validator.oneOf name (Enumeration.allowedValues symbols)).render⟩ := by
  refine ⟨description, [], .enumeration symbols (Enumeration.unionType symbols) base "",
    "yup.mixed", "().oneOf([" ++ ", ".intercalate (Enumeration.allowedValues symbols) ++ "])",
    fun name => ?_⟩
  simp only [Kind.checkedBy, Validator.render, String.append_assoc]
  rfl

theorem nameOnly_array (description : Option String) (items : Schema) (element : TypeExpression) :
    NameOnly fun name => array name description items element := by
  refine ⟨description, element.imports, (array "" description items element).kind, "yup.array",
    "().of(" ++ (ItemCheck.ofBase
      (if items.reference.isSome then element.base else element.rendered)).render ++ ")",
    fun name => ?_⟩
  simp only [array, Kind.checkedBy, Validator.render, String.append_assoc]
  rfl

theorem nameOnly_interface (description : Option String) (schema : Schema)
    (members : List (String × Schema × TypeExpression)) :
    NameOnly fun name => interface name description schema members :=
  ⟨description, _, (interface "" description schema members).kind, "", "", fun _ => rfl⟩

theorem nameOnly_declared (description type : Option String) :
    NameOnly fun name => declared name description type := by
  cases type with
  | none => exact ⟨description, [], .untyped, "", "", fun _ => rfl⟩
  | some type =>
      exact ⟨description, _, (declared "" description (some type)).kind, "", "", fun _ => rfl⟩

/-- The type expression of a model without a declaration does not tell the name. -/
theorem inlineType_eq_of_nameOnly {model : String → Model} (nameOnly : NameOnly model)
    (left right : String) : inlineType (model left) = inlineType (model right) := by
  obtain ⟨description, imports, kind, callee, arguments, shape⟩ := nameOnly
  rw [shape left, shape right]
  cases kind <;> rfl

end Resolution

namespace Schema

open Resolution

/-! ## Erasure -/

/-- The bare reference if a schema is one, and otherwise the schema that takes its place. -/
def bareOr (schema other : Schema) : Schema :=
  match schema.reference with
  | some pointer => refer pointer
  | none => other

mutual

/-- A schema without format, title and composition at any of its nodes, in which items and
properties that are references are bare ones. -/
def erased : Schema → Schema
  | ⟨reference, type, _, _, description, enumeration, items, properties, required, readOnly, _⟩ =>
      ⟨reference, type, none, none, description, enumeration, erasedItems items,
        erasedProperties properties, required, readOnly, []⟩

/-- The erased schema of items. -/
def erasedItems : Option Schema → Option Schema
  | none => none
  | some items => some (items.bareOr items.erased)

/-- The erased schemas of properties. -/
def erasedProperties : Option (List (String × Schema)) → Option (List (String × Schema))
  | none => none
  | some properties => some (erasedMembers properties)

/-- The erased schemas of properties. -/
def erasedMembers : List (String × Schema) → List (String × Schema)
  | [] => []
  | (name, property) :: rest => (name, property.bareOr property.erased) :: erasedMembers rest

end

/-- The erased schema of items or of a property. -/
def erasedPart (schema : Schema) : Schema :=
  schema.bareOr schema.erased

theorem erasedMembers_eq (properties : List (String × Schema)) :
    erasedMembers properties = properties.map fun (name, property) =>
      (name, property.erasedPart) := by
  induction properties with
  | nil => rfl
  | cons property rest induction =>
      simp only [erasedMembers, induction, List.map_cons, erasedPart]

theorem erased_eq (schema : Schema) :
    schema.erased =
      { schema with
        format := none
        title := none
        items := schema.items.map erasedPart
        properties := schema.properties.map fun properties =>
          properties.map fun (name, property) => (name, property.erasedPart)
        composition := [] } := by
  obtain ⟨reference, type, format, title, description, enumeration, items, properties, required,
    readOnly, composition⟩ := schema
  cases items <;> cases properties <;>
    simp [erased, erasedItems, erasedProperties, erasedMembers_eq, erasedPart]

theorem erasedPart_of_inline {schema : Schema} (inline : schema.reference = none) :
    schema.erasedPart = schema.erased := by
  rw [erasedPart, bareOr, inline]

theorem reference_erasedPart (schema : Schema) :
    schema.erasedPart.reference = schema.reference := by
  cases refers : schema.reference with
  | some pointer => simp only [erasedPart, bareOr, refers, refer]
  | none => rw [erasedPart_of_inline refers, erased_eq, refers]

theorem array_erasedPart (name : String) (description : Option String) (items : Schema)
    (element : TypeExpression) :
    array name description items.erasedPart element = array name description items element := by
  rw [array, reference_erasedPart, array]

theorem property_erased (schema member : Schema) (name : String) (type : TypeExpression) :
    Resolution.property schema.erased name member.erasedPart type =
      Resolution.property schema name member type := by
  have sameRequired : schema.erased.requires name = schema.requires name := by
    rw [erased_eq, requires, requires]
  cases refers : member.reference with
  | some pointer =>
      simp only [Resolution.property, sameRequired, reference_erasedPart, refers,
        Option.isNone_some, Bool.false_and, Option.isSome_some, if_true]
  | none =>
      simp only [Resolution.property, sameRequired, refers, erasedPart_of_inline refers,
        erased_eq member]

theorem interface_erased (name : String) (description : Option String) (schema : Schema)
    (entries : List (String × Schema × TypeExpression)) :
    interface name description schema.erased (entries.map fun (key, property, type) =>
        (key, property.erasedPart, type)) =
      interface name description schema entries := by
  simp only [interface, List.flatMap_map, List.map_map, Function.comp_def, property_erased]

/-! ## Models -/

variable [Transliteration]

theorem nameOnly_resolve (schema : Schema) : NameOnly fun name => schema.resolve name := by
  simp only [resolve_of_form]
  cases schema.form with
  | symbols symbols base => exact nameOnly_enumeration _ symbols base
  | list items => exact nameOnly_array _ items _
  | object properties => exact nameOnly_interface _ schema _
  | declared type => exact nameOnly_declared _ (some type)
  | unknown => exact nameOnly_declared _ none

/-- The type expression of a schema without a declaration does not tell the name. -/
theorem resolveInline_congr (schema : Schema) (left right : String) :
    schema.resolveInline left = schema.resolveInline right := by
  unfold resolveInline expression
  cases schema.reference with
  | some pointer => rfl
  | none => exact inlineType_eq_of_nameOnly (nameOnly_resolve schema) left right

theorem form_erased (schema : Schema) : schema.erased.form = schema.form.map erasedPart := by
  have sameSymbols : symbols? schema.erased = symbols? schema := by
    rw [erased_eq]
    rfl
  have sameType : schema.erased.type = schema.type := by rw [erased_eq]
  have sameItems : schema.erased.items = schema.items.map erasedPart := by rw [erased_eq]
  have sameProperties : schema.erased.properties = schema.properties.map fun properties =>
      properties.map fun (name, property) => (name, property.erasedPart) := by
    rw [erased_eq]
  cases form : schema.form with
  | symbols symbols base =>
      have decided := form_eq_symbols_iff.mp form
      exact form_eq_symbols_iff.mpr (sameSymbols.trans decided)
  | list items =>
      obtain ⟨undecided, isArray, given⟩ := form_eq_list_iff.mp form
      refine form_eq_list_iff.mpr ⟨sameSymbols.trans undecided, sameType.trans isArray, ?_⟩
      rw [sameItems, given, Option.map_some]
  | object properties =>
      obtain ⟨undecided, isObject, given⟩ := form_eq_object_iff.mp form
      refine form_eq_object_iff.mpr ⟨sameSymbols.trans undecided, sameType.trans isObject, ?_⟩
      rw [sameProperties, given, Option.map_some]
  | declared type =>
      obtain ⟨undecided, declares, noItems, noProperties⟩ := form_eq_declared_iff.mp form
      refine form_eq_declared_iff.mpr ⟨sameSymbols.trans undecided, sameType.trans declares,
        fun items given => ?_, fun properties given => ?_⟩
      · obtain ⟨other, isOther, _⟩ := Option.map_eq_some_iff.mp (sameItems.symm.trans given)
        exact noItems other isOther
      · obtain ⟨other, isOther, _⟩ := Option.map_eq_some_iff.mp (sameProperties.symm.trans given)
        exact noProperties other isOther
  | unknown =>
      obtain ⟨undecided, undeclared⟩ := form_eq_unknown_iff.mp form
      exact form_eq_unknown_iff.mpr ⟨sameSymbols.trans undecided, sameType.trans undeclared⟩

theorem resolveInline_erasedPart (schema : Schema) (name : String)
    (same : ∀ name, schema.erased.resolve name = schema.resolve name) :
    schema.erasedPart.resolveInline name = schema.resolveInline name := by
  unfold resolveInline expression
  rw [reference_erasedPart]
  cases refers : schema.reference with
  | some pointer => rfl
  | none => simp only [erasedPart_of_inline refers, same]

/-- What is erased from a schema has no part in its model. -/
theorem resolve_erased (schema : Schema) (name : String) :
    schema.erased.resolve name = schema.resolve name := by
  induction schema using induction_on_children generalizing name with
  | step schema induction =>
      -- For two names, since the title that items are resolved under is erased with the rest.
      have same : ∀ child ∈ schema.children, ∀ left right,
          child.erasedPart.resolveInline left = child.resolveInline right := by
        intro child member left right
        rw [resolveInline_erasedPart child left (induction child member)]
        exact resolveInline_congr child left right
      have sameDescription : schema.erased.description = schema.description := by rw [erased_eq]
      rw [resolve_of_form, form_erased, resolve_of_form]
      cases form : schema.form with
      | list items =>
          simp only [Form.map, ofForm, sameDescription, array_erasedPart]
          rw [same items (mem_children_of_list form)]
      | object properties =>
          have members : (properties.map fun (key, property) => (key, property.erasedPart)).map
                (fun (key, property) => (key, property, property.resolveInline key)) =
              (properties.map fun (key, property) =>
                (key, property, property.resolveInline key)).map
                fun (key, property, type) => (key, property.erasedPart, type) := by
            simp only [List.map_map]
            refine List.map_congr_left fun property declared => ?_
            have member : property.2 ∈ schema.children := mem_children_of_object form declared
            simp only [Function.comp_apply, same property.2 member property.1 property.1]
          simp only [Form.map, ofForm, sameDescription]
          rw [members, interface_erased]
      | symbols | declared | unknown => simp only [Form.map, ofForm, sameDescription]

/-- Resolution depends on the schema alone. The type expression of a schema without a declaration
does not change with the document or the name. The model does not change with the document, and with
the name only in its name and in the argument of the expression that checks its values. Erasing
format, title and composition everywhere, and all of a reference but its pointer, changes nothing.
The model in a document is the one that recursion over the schema gives, without a document: whenever
the document is asked what a property stands for, the answer is the property itself. -/
theorem resolution_by_schema_alone (schema : Schema) :
    (∀ (left right : Document) (name other : String),
      schema.resolveInlineIn left name = schema.resolveInlineIn right other) ∧
    (∀ (left right : Document) (name : String),
      schema.resolveIn left name = schema.resolveIn right name) ∧
    (∃ description imports kind callee arguments, ∀ (document : Document) (name : String),
      schema.resolveIn document name = ⟨name, description, imports,
        Kind.checkedBy (callee ++ "<" ++ name ++ ">" ++ arguments) kind⟩) ∧
    (∀ (document : Document) (name : String),
      schema.erased.resolveIn document name = schema.resolveIn document name) ∧
    (∀ (document : Document) (name : String),
      schema.resolveIn document name = schema.resolve name) ∧
    ∀ (document : Document) (node : Schema), Part node schema →
      ∀ property ∈ node.declaredProperties, property.2.reference = none →
        Pointer.resolve document property.2 = .ok property.2 := by
  refine ⟨fun left right name other => ?_, fun left right name => ?_, ?_,
    fun document name => ?_, fun document name => resolveIn_eq document name schema,
    fun document _ _ _ _ inline => resolve_of_inline document inline⟩
  · rw [resolveInlineIn_eq, resolveInlineIn_eq, resolveInline_congr]
  · rw [resolveIn_eq, resolveIn_eq]
  · obtain ⟨description, imports, kind, callee, arguments, shape⟩ := nameOnly_resolve schema
    exact ⟨description, imports, kind, callee, arguments, fun document name =>
      (resolveIn_eq document name schema).trans (shape name)⟩
  · rw [resolveIn_eq, resolveIn_eq, resolve_erased]

end Schema

end ApiCatalog
