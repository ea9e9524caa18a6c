import ApiCatalog.Json.Decoder

/-!
# Schemas

The schema of a value in an API description. Any schema may refer to another one instead of
describing the value itself.
-/

namespace ApiCatalog

/-- A schema. -/
structure Schema where
  /-- The schema this one stands for. -/
  reference : Option String := none
  /-- The name of the type. -/
  type : Option String := none
  /-- The format of the type. -/
  format : Option String := none
  /-- The title. -/
  title : Option String := none
  /-- The description. -/
  description : Option String := none
  /-- The literals the value is one of. -/
  enumeration : List Json := []
  /-- The schema of the items of a list. -/
  items : Option Schema := none
  /-- The schemas of the properties of an object, in order. -/
  properties : Option (List (String × Schema)) := none
  /-- The names of the properties that must be present. -/
  required : List String := []
  /-- Whether the value is only read. -/
  readOnly : Bool := false
  /-- The schemas this one is composed of. -/
  composition : List Schema := []
  deriving Repr

namespace Schema

/-- The schema that only refers to another one. -/
def refer (pointer : String) : Schema :=
  { reference := some pointer }

/-- Whether the schema declares a type. -/
def isType (schema : Schema) (name : String) : Bool :=
  schema.type == some name

/-- Whether the schema describes a list. -/
def isArray (schema : Schema) : Bool :=
  schema.isType "array"

/-- Whether the schema describes an object. -/
def isObject (schema : Schema) : Bool :=
  schema.isType "object"

/-- Whether the schema describes a whole number, under either of its two names. -/
def isInteger (schema : Schema) : Bool :=
  schema.isType "integer" || schema.isType "int"

/-- The declared properties, in order. -/
def declaredProperties (schema : Schema) : List (String × Schema) :=
  schema.properties.getD []

/-- Whether a property must be present. -/
def requires (schema : Schema) (name : String) : Bool :=
  schema.required.contains name

mutual

/-- Every pointer inside a schema, in document order. -/
def pointers : Schema → List String
  | ⟨reference, _, _, _, _, _, items, properties, _, _, composition⟩ =>
      reference.toList ++ optionPointers items ++ propertiesPointers properties ++
        listPointers composition

/-- Every pointer inside a schema that may be missing. -/
def optionPointers : Option Schema → List String
  | none => []
  | some schema => schema.pointers

/-- Every pointer inside properties that may be missing. -/
def propertiesPointers : Option (List (String × Schema)) → List String
  | none => []
  | some properties => entriesPointers properties

/-- Every pointer inside properties. -/
def entriesPointers : List (String × Schema) → List String
  | [] => []
  | (_, schema) :: rest => schema.pointers ++ entriesPointers rest

/-- Every pointer inside schemas. -/
def listPointers : List Schema → List String
  | [] => []
  | schema :: rest => schema.pointers ++ listPointers rest

end

mutual

/-- Whether some schema reached through items and properties is composed of others. -/
def isComposed : Schema → Bool
  | ⟨_, _, _, _, _, _, items, properties, _, _, composition⟩ =>
      !composition.isEmpty || isOptionComposed items || isPropertiesComposed properties

/-- Whether a schema that may be missing is composed of others. -/
def isOptionComposed : Option Schema → Bool
  | none => false
  | some schema => schema.isComposed

/-- Whether properties that may be missing are composed of others. -/
def isPropertiesComposed : Option (List (String × Schema)) → Bool
  | none => false
  | some properties => isEntriesComposed properties

/-- Whether some property is composed of others. -/
def isEntriesComposed : List (String × Schema) → Bool
  | [] => false
  | (_, schema) :: rest => schema.isComposed || isEntriesComposed rest

end

end Schema

/-- A member of an object for a text that may be missing. -/
def optionalText (name : String) (text : Option String) : List (String × Json) :=
  text.toList.map fun content => (name, .string content)

/-- A member of an object for a list that is left out when it is empty. -/
def optionalList (name : String) (items : List Json) : List (String × Json) :=
  if items.isEmpty then [] else [(name, .array items)]

/-- A member of an object for a flag that is left out when it is not set. -/
def optionalFlag (name : String) (flag : Bool) : List (String × Json) :=
  if flag then [(name, .boolean true)] else []

namespace Schema

mutual

/-- The value a schema is written as. -/
def toJson : Schema → Json
  | ⟨reference, type, format, title, description, enumeration, items, properties, required,
      readOnly, composition⟩ =>
      .object <|
        optionalText "$ref" reference ++ optionalText "type" type ++
        optionalText "format" format ++ optionalText "title" title ++
        optionalText "description" description ++ optionalList "enum" enumeration ++
        optionMember items ++ propertiesMember properties ++
        optionalList "required" (required.map .string) ++ optionalFlag "readOnly" readOnly ++
        optionalList "allOf" (listToJson composition)

/-- The member for the schema of items. -/
def optionMember : Option Schema → List (String × Json)
  | none => []
  | some schema => [("items", schema.toJson)]

/-- The member for properties. -/
def propertiesMember : Option (List (String × Schema)) → List (String × Json)
  | none => []
  | some properties => [("properties", .object (entriesToJson properties))]

/-- The members for the properties themselves. -/
def entriesToJson : List (String × Schema) → List (String × Json)
  | [] => []
  | (name, schema) :: rest => (name, schema.toJson) :: entriesToJson rest

/-- The values schemas are written as. -/
def listToJson : List Schema → List Json
  | [] => []
  | schema :: rest => schema.toJson :: listToJson rest

end

end Schema

section Readers

open Decoder

/-- A field that holds a text which may be missing. -/
def textField {α : Type} (source : Source) (name : String)
    (store : Option String → α → α) : Field α :=
  ⟨name, fun node record => do
    return store (← readOptional source (readText source) node) record⟩

/-- A field that holds a flag. -/
def flagField {α : Type} (source : Source) (name : String) (store : Bool → α → α) : Field α :=
  ⟨name, fun node record => do return store (← readFlag source node) record⟩

/-- The names of a value that lists them. A flag in their place names none. -/
def requiredNames : Json → Except Cause (List String)
  | .array items =>
      match items.mapM fun | .string name => some name | _ => none with
      | some names => .ok names
      | none => .error (.unknownForm "Required")
  | .boolean _ => .ok []
  | _ => .error (.unknownForm "Required")

/-- Reads the names of required properties. -/
def readRequired (source : Source) (depth : Nat) (node : Node) : Decoder (List String) := do
  match ← readOptional source (readValue source depth) node with
  | none => return []
  | some value => ofExcept (requiredNames value)

/-- The fields of a schema whose parts are nested at most `depth` levels deep, given how to read a
schema among them. -/
def schemaFields (source : Source) (read : Nat → Node → Decoder Schema) (depth : Nat) :
    List (Field Schema) := [
  textField source "$ref" fun text schema => { schema with reference := text },
  textField source "type" fun text schema => { schema with type := text },
  textField source "format" fun text schema => { schema with format := text },
  textField source "title" fun text schema => { schema with title := text },
  textField source "description" fun text schema => { schema with description := text },
  ⟨"enum", fun node schema => do
    return { schema with enumeration := ← readList source depth (readValue source) node }⟩,
  ⟨"items", fun node schema => do
    return { schema with items := ← readOptional source (read depth) node }⟩,
  ⟨"properties", fun node schema => do
    let properties ← readOptional source (readTable source depth read) node
    return { schema with properties := properties.map Entries.toList }⟩,
  ⟨"required", fun node schema => do
    return { schema with required := ← readRequired source depth node }⟩,
  flagField source "readOnly" fun flag schema => { schema with readOnly := flag },
  ⟨"allOf", fun node schema => do
    return { schema with composition := ← readList source depth read node }⟩]

/-- Reads a schema that is nested at most as many levels deep as the fuel and the depth allow. -/
def readSchemaWith (source : Source) : Nat → Nat → Node → Decoder Schema
  | 0, _, _ => fail (.fault .malformed)
  | fuel + 1, depth, node =>
      readRecord source "Schema" {} (schemaFields source (readSchemaWith source fuel)) depth node

/-- Reads a schema that is nested at most `depth` levels deep. -/
def readSchema (source : Source) (depth : Nat) (node : Node) : Decoder Schema :=
  readSchemaWith source (depth + 1) depth node

end Readers

end ApiCatalog
