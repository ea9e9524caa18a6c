import ApiCatalog.Enumeration
import ApiCatalog.TypeExpression
import ApiCatalog.Validator

/-!
# Models

What the catalog holds for a schema: an enumeration, a list, an interface, a name for another type,
or a value of which nothing is known.
-/

namespace ApiCatalog

/-- A property of an interface. -/
structure Property where
  /-- The name. -/
  name : String
  /-- The rendered type. -/
  type : String
  /-- Whether the property must be present. -/
  required : Bool := false
  /-- Whether the property may be null. Descriptions have no way to say so. -/
  nullable : Bool := false
  /-- Whether the property is only read. -/
  readOnly : Bool := false
  /-- The comment. -/
  description : Option String := none
  deriving DecidableEq, Repr

/-- The kind of a model, with what belongs to it. -/
inductive Kind where
  /-- One of several values. -/
  | enumeration (symbols : List Symbol) (rendered base validation : String)
  /-- A list. -/
  | array (rendered base : String) (template : Option String) (validation : String)
  /-- An object with named properties, and the models it extends. -/
  | interface (properties : List Property) (parents : List String)
  /-- A name for another type. -/
  | primitive (rendered base : String) (template : Option String)
  /-- Anything. -/
  | untyped
  deriving DecidableEq, Repr

/-- A model of the catalog. -/
structure Model where
  /-- The name. -/
  name : String
  /-- The comment. -/
  description : Option String
  /-- The declared types it mentions. -/
  imports : List String
  /-- What it is. -/
  kind : Kind
  deriving DecidableEq, Repr

namespace Model

/-- Whether the model is an enumeration. -/
def isEnumeration (model : Model) : Bool :=
  match model.kind with
  | .enumeration .. => true
  | _ => false

/-- Whether the model is an interface. -/
def isInterface (model : Model) : Bool :=
  match model.kind with
  | .interface .. => true
  | _ => false

/-- Whether the model is a list or a name for another type. -/
def isType (model : Model) : Bool :=
  match model.kind with
  | .array .. | .primitive .. => true
  | _ => false

/-- Whether nothing is known of the model. -/
def isUntyped (model : Model) : Bool :=
  match model.kind with
  | .untyped => true
  | _ => false

/-- The rendered type. An interface is known by its name. -/
def rendered (model : Model) : String :=
  match model.kind with
  | .enumeration _ rendered _ _ | .array rendered _ _ _ | .primitive rendered _ _ => rendered
  | .interface .. => model.name
  | .untyped => "any"

/-- The base of the type. -/
def base (model : Model) : String :=
  match model.kind with
  | .enumeration _ _ base _ | .array _ base _ _ | .primitive _ base _ => base
  | .interface .. => "interface"
  | .untyped => "any"

/-- The rendered arguments of the type. -/
def template (model : Model) : Option String :=
  match model.kind with
  | .array _ _ template _ | .primitive _ _ template => template
  | _ => none

/-- The expression that checks values. -/
def validation (model : Model) : Option String :=
  match model.kind with
  | .enumeration _ _ _ validation | .array _ _ _ validation => some validation
  | _ => none

/-- The symbols of an enumeration. -/
def symbols (model : Model) : List Symbol :=
  match model.kind with
  | .enumeration symbols _ _ _ => symbols
  | _ => []

/-- The properties of an interface. -/
def properties (model : Model) : List Property :=
  match model.kind with
  | .interface properties _ => properties
  | _ => []

/-- The models an interface extends. -/
def parents (model : Model) : List String :=
  match model.kind with
  | .interface _ parents => parents
  | _ => []

end Model

/-- A member of an object for texts in order. -/
def textsMember (name : String) (texts : List String) : List (String × Json) :=
  [(name, .array (texts.map .string))]

/-- The value a type expression is written as. -/
def TypeExpression.toJson (type : TypeExpression) : Json :=
  .object <|
    [("renderedType", .string type.rendered), ("baseType", .string type.base)] ++
    optionalText "template" type.template ++ textsMember "imports" type.imports

/-- The value a symbol is written as. -/
def Symbol.toJson (symbol : Symbol) : Json :=
  .object [("name", .string symbol.name), ("value", .string symbol.value.content)]

/-- The value a property is written as. -/
def Property.toJson (property : Property) : Json :=
  .object <|
    [("name", .string property.name), ("type", .string property.type),
      ("required", .boolean property.required), ("nullable", .boolean property.nullable),
      ("readOnly", .boolean property.readOnly)] ++
    optionalText "description" property.description

/-- The members for a kind: its name, and what belongs to it. -/
def Kind.members : Kind → List (String × Json)
  | .enumeration symbols rendered base validation =>
      [("kind", .string "enum"), ("symbols", .array (symbols.map Symbol.toJson)),
        ("renderedType", .string rendered), ("baseType", .string base),
        ("validation", .string validation)]
  | .array rendered base template validation =>
      [("kind", .string "array"), ("renderedType", .string rendered), ("baseType", .string base)] ++
        optionalText "template" template ++ [("validation", .string validation)]
  | .interface properties parents =>
      [("kind", .string "interface"), ("properties", .array (properties.map Property.toJson))] ++
        textsMember "extends" parents
  | .primitive rendered base template =>
      [("kind", .string "primitive"), ("renderedType", .string rendered),
        ("baseType", .string base)] ++
        optionalText "template" template
  | .untyped => [("kind", .string "untyped")]

/-- The value a model is written as. -/
def Model.toJson (model : Model) : Json :=
  .object <|
    [("name", .string model.name)] ++ optionalText "description" model.description ++
    textsMember "imports" model.imports ++ model.kind.members

end ApiCatalog
