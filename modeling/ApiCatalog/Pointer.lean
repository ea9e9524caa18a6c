import ApiCatalog.Document
import ApiCatalog.Text.Hexadecimal
import ApiCatalog.Text.Split
import ApiCatalog.Text.Utf8

/-!
# Reference pointers

A pointer names a definition, parameter or response of its document. Its segments stand between
slashes, with `~1` for a slash, `~0` for a tilde and `%` before the two hexadecimal digits of a byte.
-/

namespace ApiCatalog.Pointer

open Text

/-- Why a reference leads to no schema. -/
inductive Failure where
  /-- The pointer leads out of the document. -/
  | external (pointer : String)
  /-- The pointer leads to a part of the document that holds no named schemas. -/
  | unsupported (pointer : String)
  /-- Nothing has the name, or what has it holds no schema. -/
  | dangling (pointer : String)
  /-- References lead back to a pointer followed before. The pointers are given in order. -/
  | cyclic (chain : List String)
  deriving DecidableEq, Repr

/-- A failure in words. -/
def Failure.describe : Failure → String
  | .external pointer =>
      "external reference '" ++ pointer ++ "' cannot be resolved within the document"
  | .unsupported pointer =>
      "reference '" ++ pointer ++ "' does not point into definitions, parameters or responses"
  | .dangling pointer => "reference '" ++ pointer ++ "' points to nothing"
  | .cyclic chain => "cyclic schema reference: " ++ " -> ".intercalate chain

/-- The byte two hexadecimal digits write. -/
def escapedByte? (first second : Char) : Option UInt8 := do
  return UInt8.ofNat ((← hexValue? first) * 16 + (← hexValue? second))

/-- The bytes of a text in which a percent sign with two hexadecimal digits stands for a byte. -/
def percentDecode : List Char → List UInt8
  | [] => []
  | '%' :: first :: second :: rest =>
      match escapedByte? first second with
      | some byte => byte :: percentDecode rest
      | none => String.utf8EncodeChar '%' ++ percentDecode (first :: second :: rest)
  | character :: rest => String.utf8EncodeChar character ++ percentDecode rest

/-- A text in which `~1` stands for a slash and `~0` for a tilde. -/
def unescapeTildes : List Char → List Char
  | [] => []
  | '~' :: '1' :: rest => '/' :: unescapeTildes rest
  | '~' :: '0' :: rest => '~' :: unescapeTildes rest
  | character :: rest => character :: unescapeTildes rest

/-- The name that a segment writes. -/
def decodeSegment (segment : List Char) : List Char :=
  unescapeTildes (decodeLossy (percentDecode segment))

/-- The names in a pointer. A pointer into the document starts with a number sign. -/
def names? (pointer : List Char) : Option (List (List Char)) :=
  match pointer with
  | '#' :: rest => some (((splitOn '/' rest).filter (!·.isEmpty)).map decodeSegment)
  | _ => none

/-- The name a reference ends in. -/
def targetName (pointer : String) : String :=
  match names? pointer.toList with
  | some names => String.ofList (names.getLastD [])
  | none => String.ofList ((splitOn '/' pointer.toList).getLastD [])

/-- A place in a document that may hold a schema. -/
inductive Place where
  /-- A definition. -/
  | definition (name : String)
  /-- A shared parameter. -/
  | parameter (name : String)
  /-- A shared response. -/
  | response (name : String)
  deriving DecidableEq, Repr

/-- The place that a pointer names. -/
def place (pointer : String) : Except Failure Place :=
  match names? pointer.toList with
  | none => .error (.external pointer)
  | some [part, name] =>
      if String.ofList part = "definitions" then .ok (.definition (String.ofList name))
      else if String.ofList part = "parameters" then .ok (.parameter (String.ofList name))
      else if String.ofList part = "responses" then .ok (.response (String.ofList name))
      else .error (.unsupported pointer)
  | some _ => .error (.unsupported pointer)

/-- The schema at a place. -/
def schemaAt? (document : Document) : Place → Option Schema
  | .definition name => document.definitions.find? name
  | .parameter name => (document.parameters.find? name).bind Parameter.schema
  | .response name => (document.responses.find? name).bind Response.schema

/-- The schema one pointer leads to. -/
def lookup (document : Document) (pointer : String) : Except Failure Schema :=
  match place pointer with
  | .error failure => .error failure
  | .ok place =>
      match schemaAt? document place with
      | some schema => .ok schema
      | none => .error (.dangling pointer)

/-- Follows references from a schema on, after the pointers of a chain, given how to look one pointer
up. Each step looks up one. -/
def followWith {m : Type → Type} [Monad m] (look : String → m (Except Failure Schema)) :
    Nat → List String → Schema → m (Except Failure Schema)
  | 0, chain, _ => return .error (.cyclic chain)
  | steps + 1, chain, schema =>
      match schema.reference with
      | none => return .ok schema
      | some pointer =>
          if chain.contains pointer then return .error (.cyclic (chain ++ [pointer]))
          else do
            match ← look pointer with
            | .ok target => followWith look steps (chain ++ [pointer]) target
            | .error failure => return .error failure

/-- How many named entries a document has. -/
def entryCount (document : Document) : Nat :=
  document.definitions.toList.length + document.parameters.toList.length +
    document.responses.toList.length

/-- The schema that a schema stands for, given how to look one pointer up: itself, or the end of its
chain of references. A chain that does not repeat a pointer follows at most one more reference than
there are entries. -/
def resolveWith {m : Type → Type} [Monad m] (document : Document)
    (look : String → m (Except Failure Schema)) (schema : Schema) : m (Except Failure Schema) :=
  followWith look (entryCount document + 3) [] schema

/-- The schema that a schema stands for. -/
def resolve (document : Document) (schema : Schema) : Except Failure Schema :=
  Id.run (resolveWith document (fun pointer => pure (lookup document pointer)) schema)

end ApiCatalog.Pointer
