import ApiCatalog.Document
import ApiCatalog.Json.Printer

/-!
# Writing API descriptions

The value an API description is written as. Fields have a fixed order, and most are left out when
they are empty.
-/

namespace ApiCatalog

/-- A member of an object for a part that may be missing. -/
def optionalPart {α : Type} (name : String) (write : α → Json) (part : Option α) :
    List (String × Json) :=
  part.toList.map fun content => (name, write content)

/-- A member of an object for entries, in order. -/
def entriesPart {α : Type} (name : String) (write : α → Json) (entries : Entries α) :
    List (String × Json) :=
  [(name, .object (entries.toList.map fun (key, value) => (key, write value)))]

/-- The value the name and version of an API are written as. -/
def Info.toJson (info : Info) : Json :=
  .object <|
    [("title", .string info.title), ("version", .string info.version)] ++
    optionalText "description" info.description

/-- The value a parameter is written as. -/
def Parameter.toJson (parameter : Parameter) : Json :=
  .object <|
    optionalText "$ref" parameter.reference ++ optionalText "name" parameter.name ++
    optionalText "in" parameter.location ++ optionalText "description" parameter.description ++
    [("required", .boolean parameter.required)] ++
    optionalPart "schema" Schema.toJson parameter.schema ++ optionalText "type" parameter.type

/-- The value a response is written as. -/
def Response.toJson (response : Response) : Json :=
  .object <|
    optionalText "$ref" response.reference ++ [("description", .string response.description)] ++
    optionalPart "schema" Schema.toJson response.schema

/-- The value an operation is written as. -/
def Operation.toJson (operation : Operation) : Json :=
  .object <|
    optionalText "operationId" operation.operationId ++ optionalText "summary" operation.summary ++
    optionalText "description" operation.description ++
    optionalList "tags" (operation.tags.map .string) ++
    optionalList "parameters" (operation.parameters.map Parameter.toJson) ++
    entriesPart "responses" Response.toJson operation.responses ++
    optionalFlag "deprecated" operation.deprecated

/-- The value the operations behind a path are written as. -/
def PathItem.toJson (item : PathItem) : Json :=
  .object <|
    optionalPart "get" Operation.toJson item.get ++ optionalPart "put" Operation.toJson item.put ++
    optionalPart "post" Operation.toJson item.post ++
    optionalPart "delete" Operation.toJson item.delete ++
    optionalPart "options" Operation.toJson item.options ++
    optionalPart "head" Operation.toJson item.head ++
    optionalPart "patch" Operation.toJson item.patch ++
    optionalList "parameters" (item.parameters.map Parameter.toJson)

/-- The value an API description is written as. -/
def Document.toJson (document : Document) : Json :=
  .object <|
    [("swagger", .string document.swagger), ("info", document.info.toJson)] ++
    optionalText "basePath" document.basePath ++
    entriesPart "paths" PathItem.toJson document.paths ++
    entriesPart "definitions" Schema.toJson document.definitions ++
    entriesPart "parameters" Parameter.toJson document.parameters ++
    entriesPart "responses" Response.toJson document.responses

end ApiCatalog
