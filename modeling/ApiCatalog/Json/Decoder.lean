import ApiCatalog.Node.Spelling

/-!
# Decoding of untyped values

Values of any kind taken out of a document tree.
-/

namespace ApiCatalog

open Decoder

/-- The value of a scalar. -/
def Scalar.readValue : Scalar → Except Cause Json
  | .null => .ok .null
  | .boolean flag => .ok (.boolean flag)
  | .numeral literal =>
      match literal.number? with
      | some value => .ok (.number value)
      | none => .error (.fault .malformed)
  | .text (.ok content) => .ok (.string content)
  | .text (.error fault) => .error (.fault fault)
  | .word content style tag => Spelling.value content style tag

/-- Reads a value of any kind that is nested at most `depth` levels deep. -/
def readValue (source : Source) : Nat → Node → Decoder Json
  | 0, node => do
      match ← follow source node with
      | .scalar scalar => ofExcept scalar.readValue
      | .broken place => fail (.fault place.needed)
      | _ => fail (.fault .malformed)
  | depth + 1, node => do
      match ← follow source node with
      | .scalar scalar => ofExcept scalar.readValue
      | .list items ending => .array <$> readItems (readValue source depth) ending 0 items
      | .table members ending =>
          return .object
            (← readEntries source (readValue source depth) ending {} members).toList
      | .broken place => fail (.fault place.needed)
      | .tagged _ | .alias _ => fail .unusable

end ApiCatalog
