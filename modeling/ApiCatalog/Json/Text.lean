import ApiCatalog.Json.Decoder
import ApiCatalog.Json.Reader

/-!
# Decoding JSON texts

A JSON text holds one value. A careless reader stops after it, a careful one wants nothing more than
blanks to follow.
-/

namespace ApiCatalog.Json

open Text

/-- JSON has no aliases, and a record may be written as the list of its fields. -/
def source : Source := ⟨[], true⟩

/-- How many levels deep lists and tables may be nested. -/
def maxDepth : Nat := 127

/-- Decodes the value of an outcome. -/
def Outcome.decode {α : Type} (read : Source → Nat → Node → Decoder α) (outcome : Outcome) :
    Except Failure α :=
  (read source maxDepth outcome.node 0).map Prod.fst

/-- Decodes the first value of a text. -/
def decodeFirst {α : Type} (read : Source → Nat → Node → Decoder α) (text : List Glyph) :
    Except Failure α :=
  (readText text).decode read

/-- Decodes the only value of a text. -/
def decodeOnly {α : Type} (read : Source → Nat → Node → Decoder α) (text : List Char) :
    Except Failure α := do
  let outcome := readText (text.map Glyph.char)
  let value ← outcome.decode read
  if outcome.hasMore then throw ⟨[], .fault .malformed⟩ else return value

end ApiCatalog.Json
