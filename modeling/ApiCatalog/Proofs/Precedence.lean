import ApiCatalog.Proofs.SchemaForm
import ApiCatalog.Proofs.SymbolNames
import ApiCatalog.Text.Spellings

/-!
# Precedence of the fields of a schema

One field of a schema decides its model: its literals if one of them is a value, else the codes in
the description of a whole number, else the items of a list, else the properties of an object, else
the declared type. The other fields have no part in it: schemas that agree in what counts have the
same model, `resolve_congr`. What is decided, and by what alone, is said by
`resolveIn_precedence`.
-/

namespace ApiCatalog

theorem Enumeration.ofLiterals_eq_nil_iff [Transliteration] {literals : List Json} :
    ofLiterals literals = [] ↔ ∀ literal ∈ literals, Literal.ofJson? literal = none := by
  have values := values_ofLiterals literals
  constructor
  · intro none literal member
    rw [none, List.map_nil] at values
    rw [Option.eq_none_iff_forall_ne_some]
    intro value stands
    have listed : value ∈ (literals.filterMap Literal.ofJson?).eraseDups :=
      List.mem_eraseDups.mpr (List.mem_filterMap.mpr ⟨literal, member, stands⟩)
    rw [← values] at listed
    cases listed
  · intro none
    rw [List.filterMap_eq_nil_iff.mpr none] at values
    exact List.map_eq_nil_iff.mp values

namespace Schema

open Resolution Enumeration

/-! ## What decides -/

/-- Whether a value of an enumeration is listed: a text, a truth value or a number. -/
def ListsValue (schema : Schema) : Prop :=
  ∃ literal ∈ schema.enumeration, (∃ content, literal = .string content) ∨
    (∃ flag, literal = .boolean flag) ∨ ∃ number, literal = .number number

theorem isInteger_iff {schema : Schema} :
    schema.isInteger = true ↔ schema.type = some "integer" ∨ schema.type = some "int" := by
  rw [isInteger, Bool.or_eq_true, isType, isType, beq_iff_eq, beq_iff_eq]

section

variable [Transliteration]

/-- Whether a text is the description of a whole number, and lists codes. -/
def ListsCodes (schema : Schema) (text : String) : Prop :=
  (schema.type = some "integer" ∨ schema.type = some "int") ∧ schema.description = some text ∧
    ofDescription text ≠ []

/-- The model of an enumeration. -/
def enumerationOf (name : String) (description : Option String) (symbols : List Symbol)
    (base : String) : Model :=
  ⟨name, description.bind Comment.ofDescription?, [],
    .enumeration symbols (unionType symbols) base
      (Validator.oneOf name (allowedValues symbols)).render⟩

/-- Whether a property of an interface is the one for a declared one: under its name, required if
its name is, never null, and read only and described as a schema in place says, but as no reference
says. -/
structure Describes (document : Document) (schema : Schema) (declared : String × Schema)
    (property : Property) : Prop where
  name : property.name = declared.1
  type : property.type = (declared.2.resolveInlineIn document declared.1).rendered
  required : property.required = true ↔ declared.1 ∈ schema.required
  nullable : property.nullable = false
  inline : declared.2.reference = none → property.readOnly = declared.2.readOnly ∧
    property.description = declared.2.description.bind Comment.ofDescription?
  refers : declared.2.reference ≠ none → property.readOnly = false ∧ property.description = none

variable {schema other : Schema}

theorem ofLiterals_ne_nil_iff : ofLiterals schema.enumeration ≠ [] ↔ schema.ListsValue := by
  rw [Ne, ofLiterals_eq_nil_iff, ListsValue]
  push Not
  refine exists_congr fun literal => and_congr_right fun _ => ?_
  cases literal with
  | boolean flag => cases flag <;> simp [Literal.ofJson?]
  | null | string | number | array | object => simp [Literal.ofJson?]

theorem symbols?_of_listsValue (lists : schema.ListsValue) :
    symbols? schema = some (ofLiterals schema.enumeration, "string") := by
  have listed := List.isEmpty_eq_false_iff.mpr (ofLiterals_ne_nil_iff.mpr lists)
  simp only [symbols?, listed, Bool.not_false, if_true]

/-- Without a listed value, the symbols are those of the description of a whole number. -/
theorem symbols?_of_not_listsValue (lists : ¬ schema.ListsValue) :
    symbols? schema =
      if schema.isInteger then
        let codes := (schema.description.map ofDescription).getD []
        if codes.isEmpty then none else some (codes, "number")
      else none := by
  have empty : ofLiterals schema.enumeration = [] := of_not_not (mt ofLiterals_ne_nil_iff.mp lists)
  simp only [symbols?, empty, List.isEmpty_nil, Bool.not_true, Bool.false_eq_true, if_false]

theorem symbols?_of_listsCodes (lists : ¬ schema.ListsValue) {text : String}
    (codes : schema.ListsCodes text) : symbols? schema = some (ofDescription text, "number") := by
  obtain ⟨whole, described, nonempty⟩ := codes
  have listed := List.isEmpty_eq_false_iff.mpr nonempty
  rw [symbols?_of_not_listsValue lists, if_pos (isInteger_iff.mpr whole), described]
  simp only [Option.map_some, Option.getD_some, listed, Bool.false_eq_true, if_false]

theorem symbols?_eq_none (lists : ¬ schema.ListsValue)
    (codes : ∀ text, ¬ schema.ListsCodes text) : symbols? schema = none := by
  rw [symbols?_of_not_listsValue lists]
  split
  · rename_i whole
    cases described : schema.description with
    | none => rfl
    | some text =>
        have empty : ofDescription text = [] := by
          by_contra nonempty
          exact codes text ⟨isInteger_iff.mp whole, described, nonempty⟩
        simp only [Option.map_some, Option.getD_some, empty, List.isEmpty_nil, if_true]
  · rfl

/-! ## What counts -/

/-- Schemas with the same symbols, type and description have the same model if they have the same
items, should they be lists, and the same properties, should they be objects. -/
theorem resolve_congr (name : String) (symbols : symbols? other = symbols? schema)
    (described : other.description = schema.description) (declares : other.type = schema.type)
    (listed : schema.type = some "array" → other.items = schema.items)
    (shaped : schema.type = some "object" →
      other.properties = schema.properties ∧ other.required = schema.required) :
    other.resolve name = schema.resolve name := by
  rw [resolve_of_form, resolve_of_form]
  cases form : schema.form with
  | symbols chosen base =>
      rw [form_eq_symbols_iff.mpr (symbols.trans (form_eq_symbols_iff.mp form))]
      simp only [ofForm, described]
  | list items =>
      obtain ⟨none, isArray, given⟩ := form_eq_list_iff.mp form
      rw [form_eq_list_iff.mpr
        ⟨symbols.trans none, declares.trans isArray, (listed isArray).trans given⟩]
      simp only [ofForm, described]
  | object properties =>
      obtain ⟨none, isObject, given⟩ := form_eq_object_iff.mp form
      obtain ⟨sameProperties, sameRequired⟩ := shaped isObject
      rw [form_eq_object_iff.mpr
        ⟨symbols.trans none, declares.trans isObject, sameProperties.trans given⟩]
      simp only [ofForm, described, interface, property, requires, sameRequired]
  | declared type =>
      obtain ⟨none, typed, noItems, noProperties⟩ := form_eq_declared_iff.mp form
      have noOtherItems : ∀ items, other.items = some items → type ≠ "array" := by
        rintro items given rfl
        exact noItems items ((listed typed).symm.trans given) rfl
      have noOtherProperties : ∀ properties, other.properties = some properties →
          type ≠ "object" := by
        rintro properties given rfl
        exact noProperties properties ((shaped typed).1.symm.trans given) rfl
      rw [form_eq_declared_iff.mpr
        ⟨symbols.trans none, declares.trans typed, noOtherItems, noOtherProperties⟩]
      simp only [ofForm, described]
  | unknown =>
      obtain ⟨none, untyped⟩ := form_eq_unknown_iff.mp form
      rw [form_eq_unknown_iff.mpr ⟨symbols.trans none, declares.trans untyped⟩]
      simp only [ofForm, described]

/-! ## Models -/

theorem resolve_of_symbols? (name : String) {symbols : List Symbol} {base : String}
    (decided : symbols? schema = some (symbols, base)) :
    schema.resolve name = enumerationOf name schema.description symbols base := by
  rw [resolve_of_form, form_eq_symbols_iff.mpr decided]
  rfl

theorem describes_property (document : Document) (schema : Schema) (declared : String × Schema) :
    Describes document schema declared
      (Resolution.property schema declared.1 declared.2 (declared.2.resolveInline declared.1)) where
  name := rfl
  type := by rw [resolveInlineIn_eq]; rfl
  required := List.contains_iff_mem
  nullable := rfl
  inline := fun inline => by simp [Resolution.property, inline]
  refers := fun refers => by
    obtain ⟨pointer, refers⟩ := Option.ne_none_iff_exists'.mp refers
    simp [Resolution.property, refers]

/-- The properties of the model of an object are its declared ones, one for one and in order. -/
theorem kind_of_object (document : Document) (name : String) {declared : List (String × Schema)}
    (object : schema.form = .object declared) :
    ∃ properties, (schema.resolve name).kind = .interface properties [] ∧
      List.Forall₂ (Describes document schema) declared properties := by
  rw [resolve_of_form, object]
  refine ⟨_, rfl, ?_⟩
  rw [List.map_map]
  exact List.forall₂_map_right_iff.mpr
    (List.forall₂_same.mpr fun member _ => describes_property document schema member)

/-- Which field decides the model of a schema, and that the others have no part in it. A listed
value decides it with the description and the name alone; if there is none, the literals have no
part. Then the codes of a whole number decide it with the name alone. Otherwise the items of a list,
the properties of an object or the declared type do. Items count for lists only, and properties with
their requirements for objects only. -/
theorem resolveIn_precedence (document : Document) (name : String) (schema : Schema) :
    let model := schema.resolveIn document name
    (schema.ListsValue →
      model = enumerationOf name schema.description (ofLiterals schema.enumeration) "string") ∧
    (¬ schema.ListsValue →
      ({ schema with enumeration := [] } : Schema).resolveIn document name = model ∧
      ∀ text, schema.ListsCodes text →
        model = enumerationOf name (some text) (ofDescription text) "number") ∧
    (¬ schema.ListsValue → (∀ text, ¬ schema.ListsCodes text) →
      (∀ items, schema.type = some "array" → schema.items = some items →
        ∃ base template validation, model.kind =
          .array ((items.resolveInlineIn document (items.title.getD unknownItem)).rendered ++ "[]")
            base template validation) ∧
      (∀ declared, schema.type = some "object" → schema.properties = some declared →
        ∃ properties, model.kind = .interface properties [] ∧
          List.Forall₂ (Describes document schema) declared properties) ∧
      (∀ type, schema.type = some type → (type = "array" → schema.items = none) →
        (type = "object" → schema.properties = none) →
        ∃ rendered base template, model.kind = .primitive rendered base template) ∧
      (schema.type = none → model.kind = .untyped)) ∧
    (schema.type ≠ some "array" →
      ∀ items, ({ schema with items } : Schema).resolveIn document name = model) ∧
    (schema.type ≠ some "object" → ∀ properties required,
      ({ schema with properties, required } : Schema).resolveIn document name = model) ∧
    ∀ reference format title readOnly composition,
      ({ schema with reference, format, title, readOnly, composition } : Schema).resolveIn document
        name = model := by
  simp only [resolveIn_eq]
  refine ⟨fun lists => resolve_of_symbols? name (symbols?_of_listsValue lists),
    fun lists => ⟨?_, fun text codes => ?_⟩, fun lists codes => ?_, fun noArray items => ?_,
    fun noObject properties required => ?_, fun _ _ _ _ _ => ?_⟩
  · have emptied : symbols? { schema with enumeration := [] } = symbols? schema := by
      have none : ¬ ListsValue { schema with enumeration := [] } := by simp [ListsValue]
      rw [symbols?_of_not_listsValue none, symbols?_of_not_listsValue lists]
      rfl
    exact resolve_congr name emptied rfl rfl (fun _ => rfl) fun _ => ⟨rfl, rfl⟩
  · have described := codes.2.1
    rw [resolve_of_symbols? name (symbols?_of_listsCodes lists codes), described]
  · have none := symbols?_eq_none lists codes
    refine ⟨fun items isArray given => ?_, fun declared isObject given => ?_,
      fun type typed noItems noProperties => ?_, fun untyped => ?_⟩
    · rw [resolve_of_form, form_eq_list_iff.mpr ⟨none, isArray, given⟩, resolveInlineIn_eq]
      exact ⟨_, _, _, rfl⟩
    · exact kind_of_object document name (form_eq_object_iff.mpr ⟨none, isObject, given⟩)
    · have declares : schema.form = .declared type := by
        refine form_eq_declared_iff.mpr ⟨none, typed, ?_, ?_⟩
        · rintro items given isArray
          rw [noItems isArray] at given
          cases given
        · rintro properties given isObject
          rw [noProperties isObject] at given
          cases given
      rw [resolve_of_form, declares]
      exact ⟨_, _, _, rfl⟩
    · rw [resolve_of_form, form_eq_unknown_iff.mpr ⟨none, untyped⟩]
      rfl
  · exact resolve_congr name rfl rfl rfl (fun isArray => absurd isArray noArray) fun _ => ⟨rfl, rfl⟩
  · exact resolve_congr name rfl rfl rfl (fun _ => rfl) fun isObject => absurd isObject noObject
  · exact resolve_congr name rfl rfl rfl (fun _ => rfl) fun _ => ⟨rfl, rfl⟩

end

attribute [local instance] Text.tabulated

/-- A list of nulls gives way to the codes of the description, and these to no items. -/
example :
    ({ type := some "integer", description := some "0 = Off, 1 = On", enumeration := [.null]
       items := some {} } : Schema).resolve "Power" =
      enumerationOf "Power" (some "0 = Off, 1 = On")
        [⟨"OFF", .number "0"⟩, ⟨"ON", .number "1"⟩] "number" := by
  decide +kernel

end Schema

end ApiCatalog
