import ApiCatalog.Yaml.Tag

/-!
# Tokens

The tokens of a YAML text. Blocks, which indentation delimits in the text, are delimited by tokens.
-/

namespace ApiCatalog.Yaml

/-- What stands before a document. -/
inductive Directive where
  /-- The version of the format. -/
  | version (major minor : Nat)
  /-- What a handle stands for. -/
  | handle (name : String) (expansion : TagText)
  deriving DecidableEq, Repr

/-- A token. -/
inductive Token where
  /-- A line for the reader of the document. -/
  | directive (directive : Directive)
  /-- The mark before a document. -/
  | documentStart
  /-- The mark after a document. -/
  | documentEnd
  /-- The end of the text. -/
  | streamEnd
  /-- The start of an indented list. -/
  | blockListStart
  /-- The start of an indented table. -/
  | blockTableStart
  /-- The end of an indented list or table. -/
  | blockEnd
  /-- An opening square bracket. -/
  | flowListStart
  /-- A closing square bracket. -/
  | flowListEnd
  /-- An opening brace. -/
  | flowTableStart
  /-- A closing brace. -/
  | flowTableEnd
  /-- The dash before an item. -/
  | blockEntry
  /-- A comma. -/
  | flowEntry
  /-- The start of a key, written or not. -/
  | key
  /-- The colon before a value. -/
  | value
  /-- A reference to an anchor. -/
  | alias (name : String)
  /-- A name for the node that follows. -/
  | anchor (name : String)
  /-- The tag of the node that follows. -/
  | tag (tag : WrittenTag)
  /-- A word. -/
  | word (content : String) (style : Style)
  deriving DecidableEq, Repr

namespace Cursor

/-- A number of at most nine digits. -/
def readNumber? (cursor : Cursor) : Option (Nat × Cursor) :=
  let (digits, next) := cursor.span Char.isDigit
  if digits.isEmpty || 9 < digits.length then none
  else some (digitsValue 10 digitValue digits, next)

/-- The version a directive gives. -/
def readVersion? (cursor : Cursor) : Option (Directive × Cursor) := do
  let (major, next) ← (cursor.skipWhile isGap).readNumber?
  if next.sees '.' then
    let (minor, last) ← (next.skip 1).readNumber?
    return (.version major minor, last)
  else none

/-- The handle a directive gives, and what it stands for. -/
def readHandleDirective? (cursor : Cursor) : Option (Directive × Cursor) := do
  let (handle, next) ← (cursor.skipWhile isGap).readHandle?
  if (handle = ['!'] ∨ (1 < handle.length ∧ handle.getLast? = some '!')) ∧ next.atGap then
    let (expansion, last) ← (next.skipWhile isGap).readSomeTagText? true
    if last.stopsAt 0 then return (.handle (String.ofList handle) expansion, last) else none
  else none

/-- A directive with its line. -/
def readDirective? (cursor : Cursor) : Option (Directive × Cursor) := do
  let (name, next) := (cursor.skip 1).span isNamePart
  let (directive, last) ←
    if !next.stopsAt 0 then none
    else if name = ['Y', 'A', 'M', 'L'] then next.readVersion?
    else if name = ['T', 'A', 'G'] then next.readHandleDirective?
    else none
  let rest := last.skipComment
  if rest.atLineEnd then return (directive, rest.skipBreak) else none

end Cursor

end ApiCatalog.Yaml
