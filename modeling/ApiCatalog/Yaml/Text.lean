import ApiCatalog.Node.Decoder
import ApiCatalog.Yaml.Encoding
import ApiCatalog.Yaml.Tree

/-!
# Decoding YAML texts

A YAML text holds one document and must be readable to its end. Aliases may be followed only so often,
which keeps short texts from describing huge trees.
-/

namespace ApiCatalog

namespace Node

/-- How many marks delimit a list or table. -/
def markCount (ending : Ending) : Nat :=
  match ending with
  | .closed => 2
  | .cut _ | .dangling _ | .unreached => 1

mutual

/-- How many words, aliases and marks a tree is written with. -/
def eventCount : Node → Nat
  | .scalar _ | .alias _ => 1
  | .list items ending => listEventCount items + markCount ending
  | .table members ending => tableEventCount members + markCount ending
  | .tagged content => content.eventCount
  | .broken _ => 0

/-- How many words, aliases and marks items are written with. -/
def listEventCount : List Node → Nat
  | [] => 0
  | item :: rest => item.eventCount + listEventCount rest

/-- How many words, aliases and marks members are written with. -/
def tableEventCount : List (Node × Node) → Nat
  | [] => 0
  | (key, value) :: rest => key.eventCount + value.eventCount + tableEventCount rest

end

end Node

namespace Yaml

/-- How many levels deep lists and tables may be nested. -/
def maxDepth : Nat := 128

/-- How often the aliases of a document may be followed. -/
def Stream.aliasBudget (stream : Stream) : Nat :=
  100 * stream.node.eventCount

/-- Decodes the only document of a text. -/
def decode {α : Type} (read : Source → Nat → Node → Decoder α) (bytes : List UInt8) :
    Except Failure α :=
  let malformed : Failure := ⟨[], .fault .malformed⟩
  match characters? bytes with
  | none => .error malformed
  | some text => do
      let stream := Stream.ofTokens (tokens text)
      let (value, _) ← read ⟨stream.anchors, false⟩ maxDepth stream.node stream.aliasBudget
      if stream.isComplete then return value else throw malformed

end Yaml

end ApiCatalog
