import ApiCatalog.Schema

/-!
# API descriptions

An API description in version 2.0 of its format: the operations behind each path, the definitions of
named schemas, and the parameters and responses that operations share.
-/

namespace ApiCatalog

/-- The name and version of the described API. -/
structure Info where
  /-- The title. -/
  title : String := ""
  /-- The version of the API. -/
  version : String := ""
  /-- The description. -/
  description : Option String := none
  deriving Repr

/-- A method of a request. -/
inductive Method where
  | get
  | put
  | post
  | delete
  | options
  | head
  | patch
  deriving DecidableEq, Repr

/-- The methods in the order in which operations of one path are listed. -/
def Method.all : List Method := [.get, .put, .post, .delete, .options, .head, .patch]

/-- The name of a method. -/
def Method.name : Method → String
  | .get => "GET"
  | .put => "PUT"
  | .post => "POST"
  | .delete => "DELETE"
  | .options => "OPTIONS"
  | .head => "HEAD"
  | .patch => "PATCH"

/-- A parameter of an operation. -/
structure Parameter where
  /-- The shared parameter this one stands for. -/
  reference : Option String := none
  /-- The name. -/
  name : Option String := none
  /-- The part of the request that holds the parameter. -/
  location : Option String := none
  /-- The description. -/
  description : Option String := none
  /-- Whether the parameter must be given. -/
  required : Bool := false
  /-- The schema of the value. -/
  schema : Option Schema := none
  /-- The name of the type of the value. -/
  type : Option String := none
  deriving Repr

/-- A response of an operation. -/
structure Response where
  /-- The shared response this one stands for. -/
  reference : Option String := none
  /-- The description. -/
  description : String := ""
  /-- The schema of the content. -/
  schema : Option Schema := none
  deriving Repr

/-- An operation of the API. -/
structure Operation where
  /-- The name its authors gave it. -/
  operationId : Option String := none
  /-- A short description. -/
  summary : Option String := none
  /-- The description. -/
  description : Option String := none
  /-- The groups it belongs to. -/
  tags : List String := []
  /-- Its parameters. -/
  parameters : List Parameter := []
  /-- Its responses by status. -/
  responses : Entries Response := {}
  /-- Whether it should no longer be used. -/
  deprecated : Bool := false
  deriving Repr

/-- The operations behind one path. -/
structure PathItem where
  /-- The operation of method `get`. -/
  get : Option Operation := none
  /-- The operation of method `put`. -/
  put : Option Operation := none
  /-- The operation of method `post`. -/
  post : Option Operation := none
  /-- The operation of method `delete`. -/
  delete : Option Operation := none
  /-- The operation of method `options`. -/
  options : Option Operation := none
  /-- The operation of method `head`. -/
  head : Option Operation := none
  /-- The operation of method `patch`. -/
  patch : Option Operation := none
  /-- Parameters that all of them have. -/
  parameters : List Parameter := []
  deriving Repr

/-- An API description. -/
structure Document where
  /-- The version of the format. -/
  swagger : String := "2.0"
  /-- The name and version of the API. -/
  info : Info := {}
  /-- The path before all paths. -/
  basePath : Option String := none
  /-- The paths, in order. -/
  paths : Entries PathItem := {}
  /-- The definitions, in order. -/
  definitions : Entries Schema := {}
  /-- The shared parameters. -/
  parameters : Entries Parameter := {}
  /-- The shared responses. -/
  responses : Entries Response := {}
  deriving Repr

/-- The operation of a method. -/
def PathItem.operation? (item : PathItem) : Method → Option Operation
  | .get => item.get
  | .put => item.put
  | .post => item.post
  | .delete => item.delete
  | .options => item.options
  | .head => item.head
  | .patch => item.patch

/-- The operations of a path item, in the order of their methods. -/
def PathItem.operations (item : PathItem) : List (Method × Operation) :=
  Method.all.filterMap fun method => (item.operation? method).map (method, ·)

/-- An operation with the place where it is declared. -/
structure Endpoint where
  /-- The path. -/
  path : String
  /-- The method. -/
  method : Method
  /-- The operation. -/
  operation : Operation
  deriving Repr

/-- Every operation of a description: by path, and by method within a path. -/
def Document.endpoints (document : Document) : List Endpoint :=
  document.paths.toList.flatMap fun (path, item) =>
    item.operations.map fun (method, operation) => ⟨path, method, operation⟩

end ApiCatalog
