import ApiCatalog.Dependencies
import ApiCatalog.OperationName
import ApiCatalog.Resolution
import ApiCatalog.Statistics

/-!
# Catalogs

The catalog of a description holds a model for every selected definition and a name for every
operation. Making it also audits the references of the definitions.
-/

namespace ApiCatalog

/-- How a catalog is made. -/
structure Request where
  /-- Where the names of operations come from. -/
  naming : Naming := .pathDerived
  /-- The definitions to resolve, all of them if none are named. -/
  only : Option (List String) := none
  deriving DecidableEq, Repr

/-- Whether a definition is to be resolved. -/
def Request.selects (request : Request) (name : String) : Bool :=
  match request.only with
  | none => true
  | some names => names.contains name

/-- The models and operations of a description. -/
structure Catalog where
  /-- The title of the API. -/
  title : String
  /-- The version of the API. -/
  version : String
  /-- The models, in the order of the definitions. -/
  models : List Model
  /-- The operations, in the order of the paths. -/
  operations : List NamedOperation
  deriving DecidableEq, Repr

/-- A catalog with the statistics of its making. -/
structure Generation where
  /-- The catalog. -/
  catalog : Catalog
  /-- The statistics. -/
  statistics : Statistics
  deriving DecidableEq, Repr

/-- The value a catalog is written as. -/
def Catalog.toJson (catalog : Catalog) : Json :=
  .object [("title", .string catalog.title), ("version", .string catalog.version),
    ("models", .array (catalog.models.map Model.toJson)),
    ("operations", .array (catalog.operations.map NamedOperation.toJson))]

namespace Catalog

/-- The distinct pointers inside a schema, in order. -/
def distinctPointers (schema : Schema) : List String :=
  schema.pointers.eraseDups.mergeSort Dependencies.precedes

/-- The warning about a reference inside a definition, if it leads to no schema. -/
def referenceWarning? (document : Document) (name pointer : String) : Option Warning :=
  match Pointer.resolve document (Schema.refer pointer) with
  | .ok _ => none
  | .error failure => some (.referenceFailed name failure.describe)

/-- The warnings about the parts of a definition: whether its composition is ignored, and which of
its references lead to no schema. -/
def audit (document : Document) (name : String) (schema : Schema) : List Warning :=
  (if schema.isComposed then [.compositionIgnored name] else []) ++
    (distinctPointers schema).filterMap (referenceWarning? document name)

variable [Transliteration]

/-- The warnings about a definition: those of its parts, and whether nothing is known of it. -/
def definitionWarnings (document : Document) (name : String) (schema : Schema) : List Warning :=
  audit document name schema ++
    if (schema.resolveIn document name).isUntyped then [.untypedFallback name] else []

/-- The definitions that are resolved. -/
def selected (document : Document) (request : Request) : List (String × Schema) :=
  document.definitions.toList.filter fun (name, _) => request.selects name

/-- The models of the selected definitions. -/
def resolveModels (document : Document) (request : Request) : List Model :=
  (selected document request).map fun (name, schema) => schema.resolveIn document name

/-- The warnings about the selected definitions. -/
def modelWarnings (document : Document) (request : Request) : List Warning :=
  (selected document request).flatMap fun (name, schema) =>
    definitionWarnings document name schema

/-- The name an operation asks for. -/
def requestedName (naming : Naming) (endpoint : Endpoint) : String :=
  OperationName.requested naming endpoint.path endpoint.method.name endpoint.operation.operationId

/-- An operation with its name. -/
def nameOperation (endpoint : Endpoint) (assigned : String) : NamedOperation :=
  ⟨assigned, endpoint.method.name, endpoint.path, endpoint.operation.operationId,
    endpoint.operation.summary⟩

/-- The operations of a document, each with the name it asks for and the name it gets. -/
def assignments (document : Document) (naming : Naming) : List (Endpoint × String × String) :=
  let requested := document.endpoints.map (requestedName naming)
  document.endpoints.zip (requested.zip (Identifier.distinguishAll [] requested))

/-- The operations of a document with their names. -/
def nameOperations (document : Document) (naming : Naming) : List NamedOperation :=
  (assignments document naming).map fun (endpoint, _, assigned) => nameOperation endpoint assigned

/-- The warnings about operations that did not get the names they asked for. -/
def operationWarnings (document : Document) (naming : Naming) : List Warning :=
  (assignments document naming).filterMap fun (endpoint, requested, assigned) =>
    if assigned != requested then
      some (.operationRenamed endpoint.method.name endpoint.path requested assigned)
    else none

/-- Makes the catalog of a document. -/
def generate (document : Document) (request : Request) : Generation :=
  let models := resolveModels document request
  let counted := models.foldl Statistics.recordModel {}
  let warned := (modelWarnings document request ++ operationWarnings document request.naming).foldl
    Statistics.recordWarning counted
  let named := (assignments document request.naming).foldl
    (fun statistics (_, requested, assigned) => statistics.recordOperation (assigned != requested))
    warned
  let statistics := (Dependencies.ofDocument document).cycles.foldl Statistics.recordCycle named
  ⟨⟨document.info.title, document.info.version, models,
    nameOperations document request.naming⟩, statistics⟩

end Catalog

end ApiCatalog
