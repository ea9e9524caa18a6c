import ApiCatalog.Document.Decoder
import ApiCatalog.Json.Text
import ApiCatalog.Text.Split
import ApiCatalog.Yaml.Text

/-!
# Loading API descriptions

An API description is a text in one of two formats, which the name of its file tells.
-/

namespace ApiCatalog

/-- The format of a text. -/
inductive Format where
  /-- JSON, the format of every file whose name does not tell another one. -/
  | json
  /-- YAML. -/
  | yaml
  deriving DecidableEq, Repr

/-- The format with a file name extension. -/
def Format.ofExtension (extension : List Char) : Format :=
  if extension = ['y', 'a', 'm', 'l'] ∨ extension = ['y', 'm', 'l'] then .yaml else .json

/-- The part of a file name after its last point. A name that starts with its only point has none. -/
def nameExtension (name : List Char) : List Char :=
  match Text.splitOn '.' name with
  | [] | [_] | [[], _] => []
  | _ :: parts => parts.getLastD []

/-- The last part of a path that is the name of a file. -/
def fileName (path : List Char) : List Char :=
  ((Text.splitOn '/' path).filter fun part => !part.isEmpty && part ≠ ['.']).getLastD []

/-- The format of the file at a path. -/
def Format.ofPath (path : String) : Format :=
  Format.ofExtension (nameExtension (fileName path.toList))

/-- Why an API description is refused. -/
inductive LoadFailure where
  /-- The text cannot be decoded. -/
  | invalid (format : Format) (failure : Failure)
  /-- The description is in another version of its format. -/
  | unsupportedVersion (version : String)
  deriving DecidableEq, Repr

/-- The version of the format that is understood. -/
def supportedVersion : String := "2.0"

/-- A refusal in words. -/
def LoadFailure.describe : LoadFailure → String
  | .invalid _ failure => "invalid Swagger document at '" ++ describePath failure.path ++ "'"
  | .unsupportedVersion version =>
      "unsupported swagger version '" ++ version ++ "', expected '" ++ supportedVersion ++ "'"

namespace Document

/-- Decodes an API description. -/
def decode (format : Format) (bytes : List UInt8) : Except Failure Document :=
  match format with
  | .json => Json.decodeFirst readDocument (Text.glyphs bytes)
  | .yaml => Yaml.decode readDocument bytes

/-- Reads an API description of the supported version. -/
def load (format : Format) (bytes : List UInt8) : Except LoadFailure Document :=
  match decode format bytes with
  | .error failure => .error (.invalid format failure)
  | .ok document =>
      if document.swagger = supportedVersion then .ok document
      else .error (.unsupportedVersion document.swagger)

end Document

end ApiCatalog
