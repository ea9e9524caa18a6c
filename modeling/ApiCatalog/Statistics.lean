import ApiCatalog.Model

/-!
# Statistics

What happened while a catalog was made: how many models of each kind there are, how many operations
were named and renamed, which definitions form circles, and the warnings.
-/

namespace ApiCatalog

/-- Something about a description that the catalog cannot express as it stands. -/
inductive Warning where
  /-- A reference leads to no schema. -/
  | referenceFailed (schema failure : String)
  /-- The composition of a schema is not applied. -/
  | compositionIgnored (schema : String)
  /-- Nothing is known of the values of a schema. -/
  | untypedFallback (schema : String)
  /-- The name an operation asked for was taken. -/
  | operationRenamed (method path requested assigned : String)
  deriving DecidableEq, Repr

namespace Warning

/-- A warning in words. -/
def describe : Warning → String
  | .referenceFailed schema failure => "Schema '" ++ schema ++ "': " ++ failure
  | .compositionIgnored schema => "Schema '" ++ schema ++ "': allOf composition is not applied"
  | .untypedFallback schema => "Schema '" ++ schema ++ "' resolved to an untyped model"
  | .operationRenamed method path requested assigned =>
      "Operation '" ++ method ++ " " ++ path ++ "': name '" ++ requested ++
        "' already taken, using '" ++ assigned ++ "'"

/-- Whether a warning is about a reference, which is never hidden. -/
def isReferenceFailure : Warning → Bool
  | .referenceFailed .. => true
  | _ => false

end Warning

/-- Counts and notes about the making of a catalog. -/
structure Statistics where
  /-- How many models there are. -/
  models : Nat := 0
  /-- How many of them are interfaces. -/
  interfaces : Nat := 0
  /-- How many of them are enumerations. -/
  enumerations : Nat := 0
  /-- How many of them are lists. -/
  arrays : Nat := 0
  /-- How many of them are names for other types. -/
  primitives : Nat := 0
  /-- Of how many of them nothing is known. -/
  untyped : Nat := 0
  /-- How many operations were named. -/
  operations : Nat := 0
  /-- How many of them did not get the name they asked for. -/
  renamed : Nat := 0
  /-- How many circles of definitions there are. -/
  cycles : Nat := 0
  /-- The names on each circle. -/
  cycleDetails : List (List String) := []
  /-- The warnings in the order in which they came up. -/
  warnings : List Warning := []
  deriving DecidableEq, Repr

namespace Statistics

/-- Counts a model. -/
def recordModel (statistics : Statistics) (model : Model) : Statistics :=
  let counted := { statistics with models := statistics.models + 1 }
  match model.kind with
  | .interface .. => { counted with interfaces := statistics.interfaces + 1 }
  | .enumeration .. => { counted with enumerations := statistics.enumerations + 1 }
  | .array .. => { counted with arrays := statistics.arrays + 1 }
  | .primitive .. => { counted with primitives := statistics.primitives + 1 }
  | .untyped => { counted with untyped := statistics.untyped + 1 }

/-- Counts an operation. -/
def recordOperation (statistics : Statistics) (renamed : Bool) : Statistics :=
  { statistics with
    operations := statistics.operations + 1
    renamed := statistics.renamed + if renamed then 1 else 0 }

/-- Counts a circle and keeps its names. -/
def recordCycle (statistics : Statistics) (cycle : List String) : Statistics :=
  { statistics with
    cycles := statistics.cycles + 1
    cycleDetails := statistics.cycleDetails ++ [cycle] }

/-- Keeps a warning. -/
def recordWarning (statistics : Statistics) (warning : Warning) : Statistics :=
  { statistics with warnings := statistics.warnings ++ [warning] }

end Statistics

end ApiCatalog
