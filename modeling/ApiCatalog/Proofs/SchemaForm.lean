import ApiCatalog.Proofs.SchemaResolution

/-!
# Forms of schemas

What a schema resolves to is decided by its symbols, its items, its properties and its declared type,
in this order. The form of a schema says which of them it is, and `resolve_of_form` which model the
form gives.
-/

namespace ApiCatalog

namespace Schema

open Resolution

theorem isArray_iff {schema : Schema} : schema.isArray = true ↔ schema.type = some "array" :=
  beq_iff_eq

theorem isObject_iff {schema : Schema} : schema.isObject = true ↔ schema.type = some "object" :=
  beq_iff_eq

/-- What decides the model of a schema. -/
inductive Form where
  /-- Its symbols, with the type they are based on. -/
  | symbols (symbols : List Symbol) (base : String)
  /-- The items of a list. -/
  | list (items : Schema)
  /-- The properties of an object. -/
  | object (properties : List (String × Schema))
  /-- A declared type. -/
  | declared (type : String)
  /-- Nothing. -/
  | unknown

variable [Transliteration]

/-- The form of a schema. Items count for a list only, and properties for an object only. -/
def form (schema : Schema) : Form :=
  match symbols? schema with
  | some (symbols, base) => .symbols symbols base
  | none =>
      match schema.type, schema.items, schema.properties with
      | some "array", some items, _ => .list items
      | some "object", _, some properties => .object properties
      | some type, _, _ => .declared type
      | none, _, _ => .unknown

/-- A form with other schemas in the place of those that it holds. -/
def Form.map (change : Schema → Schema) : Form → Form
  | .list items => .list (change items)
  | .object properties => .object (properties.map fun (name, property) => (name, change property))
  | other => other

/-- The model that a form gives. -/
def ofForm (name : String) (schema : Schema) : Form → Model
  | .symbols symbols base =>
      ⟨name, schema.description.bind Comment.ofDescription?, [],
        .enumeration symbols (Enumeration.unionType symbols) base
          (Validator.oneOf name (Enumeration.allowedValues symbols)).render⟩
  | .list items =>
      array name (schema.description.bind Comment.ofDescription?) items
        (items.resolveInline (items.title.getD unknownItem))
  | .object properties =>
      interface name (schema.description.bind Comment.ofDescription?) schema
        (properties.map fun (key, property) => (key, property, property.resolveInline key))
  | .declared type =>
      declared name (schema.description.bind Comment.ofDescription?) (some type)
  | .unknown => declared name (schema.description.bind Comment.ofDescription?) none

theorem ne_nil_of_symbols? {schema : Schema} {symbols : List Symbol} {base : String}
    (decided : symbols? schema = some (symbols, base)) : symbols ≠ [] := by
  simp only [symbols?] at decided
  split at decided
  · rename_i literals
    cases decided
    simpa using literals
  · split at decided
    · split at decided
      · cases decided
      · rename_i codes
        cases decided
        simpa using codes
    · cases decided

theorem resolve_of_form (name : String) (schema : Schema) :
    schema.resolve name = ofForm name schema schema.form := by
  rw [resolve_eq, assemble]
  cases decided : symbols? schema with
  | some choice =>
      obtain ⟨symbols, base⟩ := choice
      have listed : symbols.isEmpty = false :=
        List.isEmpty_eq_false_iff.mpr (ne_nil_of_symbols? decided)
      simp only [form, decided]
      apply combine_of_decided
      simp only [enumerated?, decided, Option.bind_some, enumeration?, listed, Bool.false_eq_true,
        if_false, ofForm]
  | none =>
      have undecided : Undecided name schema := by
        simp only [Undecided, enumerated?, decided, Option.bind_none]
      simp only [form, decided]
      split
      · rename_i items isArray given
        rw [given, Option.map_some]
        exact combine_of_list undecided (isArray_iff.mpr isArray) given
      · rename_i properties isObject given
        rw [given, Option.map_some]
        refine combine_of_object undecided ?_ (isObject_iff.mpr isObject)
        rintro ⟨isArray, _⟩
        rw [isArray_iff, isObject] at isArray
        exact absurd isArray (by decide)
      · rename_i type declares noItems noProperties
        rw [combine_of_type undecided, declares]
        · rfl
        · rintro ⟨isArray, hasItems, _⟩
          obtain ⟨items, given⟩ := Option.isSome_iff_exists.mp hasItems
          rw [isArray_iff, declares] at isArray
          exact noItems items given (Option.some.inj isArray)
        · rintro ⟨isObject, hasProperties⟩
          rw [Option.isSome_map] at hasProperties
          obtain ⟨properties, given⟩ := Option.isSome_iff_exists.mp hasProperties
          rw [isObject_iff, declares] at isObject
          exact noProperties properties given (Option.some.inj isObject)
      · rename_i undeclared
        rw [combine_of_type undecided, undeclared]
        · rfl
        · rintro ⟨isArray, _⟩
          rw [isArray_iff, undeclared] at isArray
          cases isArray
        · rintro ⟨isObject, _⟩
          rw [isObject_iff, undeclared] at isObject
          cases isObject

/-! ## Schemas in place -/

section

variable {schema : Schema}

theorem resolveInline_of_reference {pointer : String} (refers : schema.reference = some pointer)
    (name : String) : schema.resolveInline name = TypeExpression.ofPointer pointer := by
  rw [resolveInline, expression, refers]

theorem resolveInline_of_inline (inline : schema.reference = none) (name : String) :
    schema.resolveInline name = inlineType (ofForm name schema schema.form) := by
  rw [resolveInline, expression, inline, resolve_of_form]

theorem form_eq_symbols_iff {symbols : List Symbol} {base : String} :
    schema.form = .symbols symbols base ↔ symbols? schema = some (symbols, base) := by
  unfold form
  cases symbols? schema with
  | some choice => simp [Prod.ext_iff]
  | none =>
      dsimp only
      split <;> simp

theorem form_eq_list_iff {items : Schema} :
    schema.form = .list items ↔
      symbols? schema = none ∧ schema.type = some "array" ∧ schema.items = some items := by
  unfold form
  cases symbols? schema with
  | some choice => simp
  | none =>
      dsimp only
      split <;> grind

theorem form_eq_object_iff {properties : List (String × Schema)} :
    schema.form = .object properties ↔
      symbols? schema = none ∧ schema.type = some "object" ∧
        schema.properties = some properties := by
  unfold form
  cases symbols? schema with
  | some choice => simp
  | none =>
      dsimp only
      split <;> grind

theorem form_eq_declared_iff {type : String} :
    schema.form = .declared type ↔
      symbols? schema = none ∧ schema.type = some type ∧
        (∀ items, schema.items = some items → type ≠ "array") ∧
        ∀ properties, schema.properties = some properties → type ≠ "object" := by
  unfold form
  cases symbols? schema with
  | some choice => simp
  | none =>
      dsimp only
      split <;> grind

theorem form_eq_unknown_iff :
    schema.form = .unknown ↔ symbols? schema = none ∧ schema.type = none := by
  unfold form
  cases symbols? schema with
  | some choice => simp
  | none =>
      dsimp only
      split <;> grind

theorem mem_children_of_list {items : Schema} (list : schema.form = .list items) :
    items ∈ schema.children :=
  items_mem_children (form_eq_list_iff.mp list).2.2

theorem mem_children_of_object {properties : List (String × Schema)} {property : String × Schema}
    (object : schema.form = .object properties) (declared : property ∈ properties) :
    property.2 ∈ schema.children := by
  apply property_mem_children
  rw [declaredProperties, (form_eq_object_iff.mp object).2.2]
  exact declared

end

end Schema

end ApiCatalog
