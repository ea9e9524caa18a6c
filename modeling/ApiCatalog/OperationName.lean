import ApiCatalog.Document
import ApiCatalog.Identifier
import ApiCatalog.Pointer

/-!
# Operation names

Every operation gets the name of a method. It is made of the method and the path, or of the name the
authors of the description gave the operation. Within one description names are distinct.
-/

namespace ApiCatalog

/-- Where the names of operations come from. -/
inductive Naming where
  /-- From the path and the method. -/
  | pathDerived
  /-- From the name the authors gave, where there is one. -/
  | preferOperationId
  deriving DecidableEq, Repr

namespace OperationName

/-- A segment of a path. -/
inductive Segment where
  /-- A fixed part. -/
  | literal (text : List Char)
  /-- A place for a value. -/
  | parameter (name : List Char)
  deriving DecidableEq, Repr

/-- What a path segment is: a name between braces is a parameter. -/
def Segment.ofText (text : List Char) : Segment :=
  match text with
  | '\x7b' :: rest =>
      if rest.getLast? == some '\x7d' then .parameter rest.dropLast else .literal text
  | _ => .literal text

/-- The segments of a path. -/
def segments (path : List Char) : List Segment :=
  ((Text.splitOn '/' path).filter (!·.isEmpty)).map Segment.ofText

variable [Transliteration]

/-- The camel-case words of the literal segments that have any. -/
def literals (path : List Char) : List (List Char) :=
  (segments path).filterMap fun
    | .literal text => some (Identifier.camelCase text) |>.filter (!·.isEmpty)
    | .parameter _ => none

/-- The camel-case words of the parameters that have any. -/
def parameters (path : List Char) : List (List Char) :=
  (segments path).filterMap fun
    | .literal _ => none
    | .parameter name => some (Identifier.camelCase name) |>.filter (!·.isEmpty)

/-- The literals that go into a name: all but the first, unless it is the only one. -/
def significant : List (List Char) → List (List Char)
  | _ :: second :: rest => second :: rest
  | short => short

/-- The end of a name that lists parameters. -/
def parameterSuffix (parameters : List (List Char)) : List Char :=
  if parameters.isEmpty then []
  else ['B', 'y'] ++ ['A', 'n', 'd'].intercalate (parameters.map Text.capitalize)

/-- The name made of a method and a path. -/
def ofPath (path method : String) : String :=
  String.ofList <|
    Text.lowerCase method.toList ++
    (significant (literals path.toList)).flatMap Text.capitalize ++
    parameterSuffix (parameters path.toList)

/-- The name an operation asks for. -/
def requested (naming : Naming) (path method : String) (operationId : Option String) : String :=
  match naming, operationId.map fun name => Identifier.camelCase name.toList with
  | .preferOperationId, some (first :: rest) => String.ofList (first :: rest)
  | _, _ => ofPath path method

end OperationName

/-- An operation with its name. -/
structure NamedOperation where
  /-- The name. -/
  name : String
  /-- The method. -/
  method : String
  /-- The path. -/
  path : String
  /-- The name its authors gave it. -/
  operationId : Option String
  /-- A short description. -/
  summary : Option String
  deriving DecidableEq, Repr

/-- The value an operation is written as. -/
def NamedOperation.toJson (operation : NamedOperation) : Json :=
  .object <|
    [("name", .string operation.name), ("method", .string operation.method),
      ("path", .string operation.path)] ++
    optionalText "operationId" operation.operationId ++ optionalText "summary" operation.summary

end ApiCatalog
