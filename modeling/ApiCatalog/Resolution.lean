import ApiCatalog.Comment
import ApiCatalog.Model

/-!
# Resolution of schemas

Every schema resolves to a model. The first of these that applies decides its kind: listed literals,
codes in the description of a whole number, the items of a list, the properties of an object, any
other declared type. Composition is not applied.
-/

namespace ApiCatalog

namespace Resolution

/-- The name of items without a title. -/
def unknownItem : String := "unknown"

/-- The model of an enumeration, if it has symbols. -/
def enumeration? (name : String) (description : Option String) (symbols : List Symbol)
    (base : String) : Option Model :=
  if symbols.isEmpty then none
  else
    let validator := Validator.oneOf name (Enumeration.allowedValues symbols)
    some ⟨name, description, [],
      .enumeration symbols (Enumeration.unionType symbols) base validator.render⟩

variable [Transliteration]

/-- The symbols that decide a schema, and the type they are based on: those of its literals, else
those that the description of a whole number lists. -/
def symbols? (schema : Schema) : Option (List Symbol × String) :=
  let literals := Enumeration.ofLiterals schema.enumeration
  if !literals.isEmpty then some (literals, "string")
  else if schema.isInteger then
    let codes := (schema.description.map Enumeration.ofDescription).getD []
    if codes.isEmpty then none else some (codes, "number")
  else none

/-- The enumeration that a schema resolves to, if symbols decide it. -/
def enumerated? (name : String) (description : Option String) (schema : Schema) : Option Model :=
  (symbols? schema).bind fun (symbols, base) => enumeration? name description symbols base

/-- The key of a member in an inline object type. -/
def memberKey (name : String) : List Char :=
  if Identifier.isPlain name.toList then name.toList
  else
    '\'' :: (name.toList.flatMap fun character =>
      if character == '\'' then ['\\', '\''] else [character]) ++ ['\'']

/-- A member of an inline object type. -/
def inlineMember (property : Property) : String :=
  (if property.readOnly then "readonly " else "") ++ String.ofList (memberKey property.name) ++
    (if property.required then "" else "?") ++ ": " ++ property.type

/-- An inline object type. -/
def inlineObject (properties : List Property) : String :=
  if properties.isEmpty then "\x7b\x7d"
  else "\x7b " ++ "; ".intercalate (properties.map inlineMember) ++ " \x7d"

/-- The type expression of a model that has no declaration of its own. -/
def inlineType (model : Model) : TypeExpression :=
  let rendered := match model.kind with
    | .interface properties _ => inlineObject properties
    | _ => model.rendered
  ⟨rendered, model.base, model.template, model.imports⟩

/-- The type expression of a schema without a declaration of its own, given the types of references
and its model: a reference stands for what it refers to. -/
def expression (typeOf : String → TypeExpression) (schema : Schema) (model : Model) :
    TypeExpression :=
  match schema.reference with
  | some pointer => typeOf pointer
  | none => inlineType model

/-- The model of a list, given its items and their type expression. -/
def array (name : String) (description : Option String) (items : Schema)
    (element : TypeExpression) : Model :=
  let base := if items.reference.isSome then element.base else element.rendered
  let template := if items.reference.isSome then element.template else none
  let validator := Validator.arrayOf name (ItemCheck.ofBase base)
  ⟨name, description, element.imports,
    .array (element.rendered ++ "[]") base template validator.render⟩

/-- A property with its type expression. What a reference stands for is not consulted. -/
def property (schema : Schema) (name : String) (member : Schema) (type : TypeExpression) :
    Property :=
  { name
    type := type.rendered
    required := schema.requires name
    readOnly := member.reference.isNone && member.readOnly
    description := if member.reference.isSome then none
      else member.description.bind Comment.ofDescription? }

/-- The model of an object, given its properties with their type expressions. -/
def interface (name : String) (description : Option String) (schema : Schema)
    (members : List (String × Schema × TypeExpression)) : Model :=
  ⟨name, description, members.flatMap fun (_, _, type) => type.imports,
    .interface (members.map fun (key, member, type) => property schema key member type) []⟩

/-- The model of a schema that only declares a type, or nothing. -/
def declared (name : String) (description : Option String) (type : Option String) : Model :=
  match type with
  | some type =>
      let expression := TypeExpression.ofName type
      ⟨name, description, expression.imports,
        .primitive expression.rendered expression.base expression.template⟩
  | none => ⟨name, description, [], .untyped⟩

/-- The model of a schema, given the type expressions of its items and its properties. -/
def combine (name : String) (schema : Schema) (element : Option TypeExpression)
    (members : Option (List (String × Schema × TypeExpression))) : Model :=
  let description := schema.description.bind Comment.ofDescription?
  match enumerated? name description schema with
  | some model => model
  | none =>
      match schema.isArray, schema.items, element, schema.isObject, members with
      | true, some items, some element, _, _ => array name description items element
      | _, _, _, true, some members => interface name description schema members
      | _, _, _, _, _ => declared name description schema.type

end Resolution

namespace Schema

open Resolution

section

variable [Transliteration] (typeOf : String → TypeExpression)

mutual

/-- The model of a schema, given the types of references. -/
def resolveWith (name : String) : Schema → Model
  | ⟨reference, type, format, title, description, enumeration, items, properties, required,
      readOnly, composition⟩ =>
      combine name
        ⟨reference, type, format, title, description, enumeration, items, properties, required,
          readOnly, composition⟩
        (resolveItems items) (resolveProperties properties)

/-- The type expression of the items of a list. -/
def resolveItems : Option Schema → Option TypeExpression
  | none => none
  | some items =>
      some (expression typeOf items (resolveWith (items.title.getD unknownItem) items))

/-- The properties of an object with their type expressions. -/
def resolveProperties :
    Option (List (String × Schema)) → Option (List (String × Schema × TypeExpression))
  | none => none
  | some properties => some (resolveMembers properties)

/-- Properties with their type expressions. -/
def resolveMembers : List (String × Schema) → List (String × Schema × TypeExpression)
  | [] => []
  | (name, schema) :: rest =>
      (name, schema, expression typeOf schema (resolveWith name schema)) :: resolveMembers rest

end

end

section

variable (document : Document)

/-- The schema that a property stands for: the one its references lead to, or itself if they lead
nowhere. -/
def referent (property : Schema) : Schema :=
  match Pointer.resolve document property with
  | .ok target => target
  | .error _ => property

theorem resolve_of_inline {property : Schema} (inline : property.reference = none) :
    Pointer.resolve document property = .ok property := by
  simp [Pointer.resolve, Pointer.resolveWith, Pointer.followWith, inline]

theorem referent_of_inline {property : Schema} (inline : property.reference = none) :
    referent document property = property := by
  rw [referent, resolve_of_inline document inline]

variable [Transliteration]

mutual

/-- The model of a schema of a document. -/
def resolveIn (name : String) : Schema → Model
  | ⟨reference, type, format, title, description, enumeration, items, properties, required,
      readOnly, composition⟩ =>
      combine name
        ⟨reference, type, format, title, description, enumeration, items, properties, required,
          readOnly, composition⟩
        (itemsIn items) (propertiesIn properties)
termination_by schema => sizeOf schema

/-- The type expression of the items of a list in a document. -/
def itemsIn : Option Schema → Option TypeExpression
  | none => none
  | some items =>
      some (expression TypeExpression.ofPointer items
        (resolveIn (items.title.getD unknownItem) items))
termination_by items => sizeOf items

/-- The properties of an object of a document with their type expressions. -/
def propertiesIn :
    Option (List (String × Schema)) → Option (List (String × Schema × TypeExpression))
  | none => none
  | some properties => some (membersIn properties)
termination_by properties => sizeOf properties

/-- Properties with their type expressions. A reference is rendered as such; anything else is
rendered as the schema it stands for. -/
def membersIn : List (String × Schema) → List (String × Schema × TypeExpression)
  | [] => []
  | (name, property) :: rest =>
      match _inline : property.reference with
      | some pointer => (name, property, TypeExpression.ofPointer pointer) :: membersIn rest
      | none =>
          let definition := referent document property
          (name, definition, expression TypeExpression.ofPointer definition
            (resolveIn name definition)) :: membersIn rest
termination_by properties => sizeOf properties
decreasing_by
  · simp only [List.cons.sizeOf_spec, Prod.mk.sizeOf_spec]
    omega
  · simp only [referent_of_inline document _inline, List.cons.sizeOf_spec, Prod.mk.sizeOf_spec]
    omega
  · simp only [List.cons.sizeOf_spec, Prod.mk.sizeOf_spec]
    omega

end

end

variable [Transliteration]

/-- The model of a schema, with no document to look references up in. -/
def resolve (name : String) (schema : Schema) : Model :=
  schema.resolveWith TypeExpression.ofPointer name

/-- The type expression of a schema of a document that has no declaration of its own. -/
def resolveInlineIn (document : Document) (name : String) (schema : Schema) : TypeExpression :=
  expression TypeExpression.ofPointer schema (schema.resolveIn document name)

/-- The type expression of a schema that has no declaration of its own, with no document. -/
def resolveInline (name : String) (schema : Schema) : TypeExpression :=
  expression TypeExpression.ofPointer schema (schema.resolve name)

end Schema

end ApiCatalog
