import ApiCatalog.Node

/-!
# Failures of decoding

A document tree that does not have the shape a value needs fails at a path, for a cause.
-/

namespace ApiCatalog

/-- What stands where something else was expected. -/
inductive Found where
  /-- The null value. -/
  | null
  /-- A truth value. -/
  | boolean (flag : Bool)
  /-- A number. -/
  | number (value : Number)
  /-- A text. -/
  | text (content : String)
  /-- A list. -/
  | list
  /-- A table. -/
  | table
  deriving DecidableEq, Repr

/-- Why a tree cannot be decoded. -/
inductive Cause where
  /-- The text is faulty. -/
  | fault (fault : Fault)
  /-- A value of another kind was expected. -/
  | mismatch (found : Found) (expected : String)
  /-- A field is given twice. -/
  | duplicateField (name : String)
  /-- The value fits none of the forms it may take. -/
  | unknownForm (name : String)
  /-- The value is not what its spelling or its tag announces, or aliases repeat too much. -/
  | unusable
  deriving DecidableEq, Repr

/-- One step from a value to a part of it. -/
inductive Step where
  /-- To the value of a key. -/
  | key (name : String)
  /-- To an item of a list. -/
  | index (position : Nat)
  /-- To a part whose key is not known. -/
  | unknown
  deriving DecidableEq, Repr

/-- A failure of decoding. -/
structure Failure where
  /-- The steps from the root to the place of the failure. -/
  path : List Step
  /-- The reason. -/
  cause : Cause
  deriving DecidableEq, Repr

/-- What stands where something else was expected, in words. -/
def Found.describe : Found → String
  | .null => "null"
  | .boolean flag => "boolean `" ++ toString flag ++ "`"
  | .number value =>
      let kind := match value with
        | .integer _ => "integer"
        | .fractional _ => "floating point"
      kind ++ " `" ++ String.ofList value.render ++ "`"
  | .text content => "string " ++ Text.quote content
  | .list => "sequence"
  | .table => "map"

/-- A cause in words. -/
def Cause.describe : Cause → String
  | .fault .malformed => "syntax"
  | .fault .truncated => "eof"
  | .mismatch found expected => "invalid type: " ++ found.describe ++ ", expected " ++ expected
  | .duplicateField name => "duplicate field `" ++ name ++ "`"
  | .unknownForm name => "data did not match any variant of untagged enum " ++ name
  | .unusable => "unusable value"

/-- One step in words. -/
def Step.describe : Step → String
  | .key name => name
  | .index position => "[" ++ toString position ++ "]"
  | .unknown => "?"

/-- The steps after others in words: a point stands before every step but an index. -/
def describeMoreSteps : List Step → String
  | [] => ""
  | step :: rest =>
      let point := match step with
        | .index _ => ""
        | _ => "."
      point ++ step.describe ++ describeMoreSteps rest

/-- A path in words. The root is a point. -/
def describePath : List Step → String
  | [] => "."
  | step :: rest => step.describe ++ describeMoreSteps rest

end ApiCatalog
