import ApiCatalog.Node.Failure

/-!
# Decoding of document trees

Readers that take typed values out of a document tree. They visit the tree in document order and
stop at the first failure. Records take their fields in any order and skip members they do not know.
-/

namespace ApiCatalog

/-- What a tree needs beside itself to be decoded. -/
structure Source where
  /-- The places that aliases refer to, by number, the latest first. -/
  anchors : List (Nat × Node)
  /-- Whether a record may be written as the list of its fields. -/
  positional : Bool

/-- A computation that counts the aliases it may still follow and fails with a path and a cause. -/
abbrev Decoder (α : Type) := StateT Nat (Except Failure) α

namespace Decoder

/-- Fails at the present place. -/
def fail {α : Type} (cause : Cause) : Decoder α :=
  fun _ => .error ⟨[], cause⟩

/-- Decodes a part one step away. -/
def within {α : Type} (step : Step) (decoder : Decoder α) : Decoder α := fun budget =>
  match decoder budget with
  | .ok result => .ok result
  | .error failure => .error { failure with path := step :: failure.path }

/-- A result that holds, or a failure at the present place. -/
def ofExcept {α : Type} : Except Cause α → Decoder α
  | .ok value => pure value
  | .error cause => fail cause

end Decoder

open Decoder

namespace Scalar

/-- Spellings of the null value. -/
def nullWords : List String := ["null", "Null", "NULL", "~"]

/-- The truth value a word spells. -/
def boolean? (word : String) : Option Bool :=
  if ["true", "True", "TRUE"].contains word then some true
  else if ["false", "False", "FALSE"].contains word then some false
  else none

/-- What a scalar is, for a message. Numbers out of range and ill-formed texts are faults. -/
def found : Scalar → Except Cause Found
  | .null => .ok .null
  | .boolean flag => .ok (.boolean flag)
  | .numeral literal =>
      match literal.number? with
      | some value => .ok (.number value)
      | none => .error (.fault .malformed)
  | .text (.ok content) => .ok (.text content)
  | .text (.error fault) => .error (.fault fault)
  | .word content _ _ => .ok (.text content)

/-- The failure to be something expected. -/
def mismatch {α : Type} (scalar : Scalar) (expected : String) : Except Cause α :=
  match scalar.found with
  | .ok found => .error (.mismatch found expected)
  | .error cause => .error cause

/-- The text of a scalar. A word is a text whatever it spells. -/
def readText : Scalar → Except Cause String
  | .text (.ok content) => .ok content
  | .word content _ _ => .ok content
  | other => other.mismatch "a string"

/-- The truth value of a scalar. -/
def readFlag : Scalar → Except Cause Bool
  | .boolean flag => .ok flag
  | .word content style tag =>
      let spelled := style == .plain || (style == .literal && tag == some .boolean)
      match if spelled then boolean? content else none with
      | some flag => .ok flag
      | none => .error (.mismatch (.text content) "a boolean")
  | other => other.mismatch "a boolean"

/-- Whether a scalar stands for a value that is not given. -/
def isAbsent : Scalar → Except Cause Bool
  | .null => .ok true
  | .word content .plain (some .null) =>
      if nullWords.contains content then .ok true else .error .unusable
  | .word content .plain none => .ok (content.isEmpty || nullWords.contains content)
  | _ => .ok false

/-- Whether a scalar is nothing at all, which also stands for an empty list or table. -/
def isNothing : Scalar → Bool
  | .word content .plain _ => content.isEmpty
  | _ => false

end Scalar

section Readers

variable (source : Source)

/-- The node itself, or the place it is an alias of. -/
def follow : Node → Decoder Node
  | .alias anchor => fun budget =>
      match budget, source.anchors.lookup anchor with
      | budget + 1, some node => .ok (node, budget)
      | _, _ => .error ⟨[], .unusable⟩
  | node => pure node

/-- The node without a tag of the document's own. -/
def Node.content : Node → Node
  | .tagged content => content.content
  | node => node

/-- The failure of a node to be something expected. -/
def Node.mismatch {α : Type} (expected : String) : Node → Decoder α
  | .scalar value => ofExcept (value.mismatch expected)
  | .list _ _ => fail (.mismatch .list expected)
  | .table _ _ => fail (.mismatch .table expected)
  | .broken place => fail (.fault place.needed)
  | .tagged _ | .alias _ => fail .unusable

/-- Reads a text. -/
def readText (node : Node) : Decoder String := do
  match (← follow source node).content with
  | .scalar scalar => ofExcept scalar.readText
  | other => other.mismatch "a string"

/-- Reads a truth value. -/
def readFlag (node : Node) : Decoder Bool := do
  match (← follow source node).content with
  | .scalar scalar => ofExcept scalar.readFlag
  | other => other.mismatch "a boolean"

/-- Reads a value that may be absent. -/
def readOptional {α : Type} (read : Node → Decoder α) (node : Node) : Decoder (Option α) := do
  let target ← follow source node
  match target with
  | .scalar scalar =>
      if ← ofExcept scalar.isAbsent then pure none else some <$> read target
  | _ => some <$> read target

/-- Skips a value that is not needed. -/
def skip (node : Node) : Decoder Unit :=
  match node.skipFault? with
  | none => pure ()
  | some fault => fail (.fault fault)

/-- Reads the items of a list from a position on. -/
def readItems {α : Type} (read : Node → Decoder α) (ending : Ending) :
    Nat → List Node → Decoder (List α)
  | _, [] =>
      match ending with
      | .cut place | .dangling place => fail (.fault place.needed)
      | .closed | .unreached => pure []
  | position, item :: rest => do
      let value ← within (.index position) (read item)
      return value :: (← readItems read ending (position + 1) rest)

/-- Reads a list whose items are nested at most `depth` levels deep, itself included. -/
def readList {α : Type} (depth : Nat) (read : Nat → Node → Decoder α) (node : Node) :
    Decoder (List α) := do
  match (← follow source node).content, depth with
  | .list _ _, 0 => fail (.fault .malformed)
  | .list items ending, depth + 1 => readItems (read depth) ending 0 items
  | .scalar scalar, _ =>
      if scalar.isNothing then pure [] else ofExcept (scalar.mismatch "a sequence")
  | other, _ => other.mismatch "a sequence"

/-- Fails if a table breaks off where its next key should stand. -/
def readTableEnd (ending : Ending) : Decoder Unit :=
  match ending with
  | .cut place | .dangling place => within .unknown (fail (.fault place.needed))
  | .closed | .unreached => pure ()

/-- Reads the members of a table into entries. -/
def readEntries {α : Type} (read : Node → Decoder α) (ending : Ending) :
    Entries α → List (Node × Node) → Decoder (Entries α)
  | entries, [] => do readTableEnd ending; return entries
  | entries, (key, node) :: rest => do
      let name ← within .unknown (readText source key)
      let value ← within (.key name) (read node)
      readEntries read ending (entries.set name value) rest

/-- Reads named entries whose values are nested at most `depth` levels deep, itself included. -/
def readTable {α : Type} (depth : Nat) (read : Nat → Node → Decoder α) (node : Node) :
    Decoder (Entries α) := do
  match (← follow source node).content, depth with
  | .table _ _, 0 => fail (.fault .malformed)
  | .table members ending, depth + 1 => readEntries source (read depth) ending {} members
  | .scalar scalar, _ =>
      if scalar.isNothing then pure {} else ofExcept (scalar.mismatch "a map")
  | other, _ => other.mismatch "a map"

/-- A field of a record. -/
structure Field (α : Type) where
  /-- The name of the field. -/
  name : String
  /-- Reads the field and stores it in the record. -/
  read : Node → α → Decoder α

/-- Reads the members of a table into a record. `seen` names the fields that are already read. -/
def readMembers {α : Type} (fields : List (Field α)) (ending : Ending) :
    List String → α → List (Node × Node) → Decoder α
  | _, record, [] => do readTableEnd ending; return record
  | seen, record, (key, node) :: rest => do
      let name ← within .unknown (readText source key)
      match fields.find? fun field => field.name == name with
      | none =>
          within (.key name) (skip node)
          readMembers fields ending seen record rest
      | some field =>
          if seen.contains name then fail (.duplicateField name)
          else
            let extended ← within (.key name) (field.read node record)
            readMembers fields ending (name :: seen) extended rest

/-- Reads the items of a list into the fields of a record, in their order. Fields at the end may be
missing, but nothing may follow the last one, not even a separator. -/
def readPositions {α : Type} (ending : Ending) :
    Nat → List (Field α) → α → List Node → Decoder α
  | position, field :: fields, record, item :: rest => do
      let extended ← within (.index position) (field.read item record)
      readPositions ending (position + 1) fields extended rest
  | _, [], _, _ :: _ => fail (.fault .malformed)
  | _, fields, record, [] =>
      match ending with
      | .cut place => fail (.fault place.needed)
      | .dangling place => fail (.fault (if fields.isEmpty then .malformed else place.needed))
      | .closed | .unreached => pure record

/-- Reads a record that is nested at most `depth` levels deep, itself included. -/
def readRecord {α : Type} (name : String) (empty : α) (fields : Nat → List (Field α))
    (depth : Nat) (node : Node) : Decoder α := do
  match (← follow source node).content, depth with
  | .table _ _, 0 => fail (.fault .malformed)
  | .table members ending, depth + 1 => readMembers source (fields depth) ending [] empty members
  | .list items ending, depth =>
      if source.positional then
        match depth with
        | 0 => fail (.fault .malformed)
        | depth + 1 => readPositions ending 0 (fields depth) empty items
      else
        fail (.mismatch .list ("struct " ++ name))
  | .scalar scalar, _ =>
      if scalar.isNothing then pure empty else ofExcept (scalar.mismatch ("struct " ++ name))
  | other, _ => other.mismatch ("struct " ++ name)

end Readers

end ApiCatalog
