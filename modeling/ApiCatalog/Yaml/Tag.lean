import ApiCatalog.Node
import ApiCatalog.Text.Hexadecimal
import ApiCatalog.Text.Utf8
import ApiCatalog.Yaml.Cursor

/-!
# Tags

A tag names the type of a node. It is written out between angle brackets, or as a handle with a
suffix, and a directive says what a handle stands for.
-/

namespace ApiCatalog.Yaml

open Text

/-- The bytes of a tag, or of a part of one. -/
abbrev TagText := List UInt8

/-- How a tag is written. -/
structure WrittenTag where
  /-- The handle, none if the suffix is the whole tag. -/
  handle : String
  /-- The suffix. -/
  suffix : TagText
  deriving DecidableEq, Repr

namespace TagText

/-- The start of the tags of common types. -/
def common : TagText :=
  encode "tag:yaml.org,2002:".toList

/-- The type that a tag asks for. -/
def type (tag : TagText) : Tag :=
  if tag.head? == some 0x21 && (glyphs tag).all fun | .char _ => true | .stray _ => false then
    .application
  else if tag == common ++ encode "bool".toList then .boolean
  else if tag == common ++ encode "int".toList then .integer
  else if tag == common ++ encode "float".toList then .float
  else if tag == common ++ encode "null".toList then .null
  else .other

end TagText

/-- What handles stand for. -/
abbrev Handles := List (String × TagText)

/-- The handles that need no directive. -/
def Handles.common : Handles :=
  [("!", encode ['!']), ("!!", TagText.common)]

/-- The tag that is written, unless its handle stands for nothing. -/
def WrittenTag.expand? (handles : Handles) (tag : WrittenTag) : Option TagText :=
  if tag.handle.isEmpty then some tag.suffix
  else (handles.lookup tag.handle).map (· ++ tag.suffix)

namespace Cursor

/-- A handle. It starts with an exclamation mark and may end in another one. -/
def readHandle? (cursor : Cursor) : Option (List Char × Cursor) :=
  if cursor.sees '!' then
    let (name, next) := (cursor.skip 1).span isNamePart
    if next.sees '!' then some ('!' :: name ++ ['!'], next.skip 1) else some ('!' :: name, next)
  else none

/-- The byte of an escape. -/
def readEscape? (cursor : Cursor) : Option (UInt8 × Cursor) :=
  match cursor.rest with
  | '%' :: first :: second :: _ => do
      let value := (← hexValue? first) * 16 + (← hexValue? second)
      return (UInt8.ofNat value, cursor.skip 3)
  | _ => none

/-- How many bytes a character takes that starts with a byte. -/
def escapeLength? (byte : UInt8) : Option Nat :=
  if byte < 0x80 then some 1
  else if byte < 0xC0 then none
  else if byte < 0xE0 then some 2
  else if byte < 0xF0 then some 3
  else if byte < 0xF8 then some 4
  else none

/-- The bytes after the first one of an escaped character. -/
def readTrailing? : Nat → Cursor → Option (List UInt8 × Cursor)
  | 0, cursor => some ([], cursor)
  | count + 1, cursor => do
      let (byte, next) ← cursor.readEscape?
      if 0x80 ≤ byte ∧ byte < 0xC0 then
        let (bytes, last) ← readTrailing? count next
        return (byte :: bytes, last)
      else none

/-- The bytes of an escaped character. -/
def readEscapes? (cursor : Cursor) : Option (List UInt8 × Cursor) := do
  let (byte, next) ← cursor.readEscape?
  let length ← escapeLength? byte
  let (bytes, last) ← readTrailing? (length - 1) next
  return (byte :: bytes, last)

/-- Whether a character may stand in a tag. Commas and square brackets may not everywhere. -/
def isTagPart (everywhere : Bool) (character : Char) : Bool :=
  isNamePart character || ";/?:@&=+$.%!~*'()".toList.contains character ||
    (everywhere && [',', '[', ']'].contains character)

/-- The bytes of a part of a tag. Every step reads a character, so that as many steps as there are
characters suffice. -/
def readTagParts? (everywhere : Bool) : Nat → Cursor → Option (TagText × Cursor)
  | 0, cursor => some ([], cursor)
  | steps + 1, cursor =>
      match cursor.rest with
      | '%' :: _ => do
          let (bytes, next) ← cursor.readEscapes?
          let (more, last) ← readTagParts? everywhere steps next
          return (bytes ++ more, last)
      | character :: _ =>
          if isTagPart everywhere character then do
            let (more, last) ← readTagParts? everywhere steps (cursor.skip 1)
            return (String.utf8EncodeChar character ++ more, last)
          else some ([], cursor)
      | [] => some ([], cursor)

/-- A part of a tag. It ends before an escaped null character. -/
def readTagText? (everywhere : Bool) (cursor : Cursor) : Option (TagText × Cursor) := do
  let (bytes, next) ← readTagParts? everywhere cursor.rest.length cursor
  return (bytes.takeWhile (· ≠ 0), next)

/-- A part of a tag of which something must be written. -/
def readSomeTagText? (everywhere : Bool) (cursor : Cursor) : Option (TagText × Cursor) := do
  let (text, next) ← cursor.readTagText? everywhere
  if next.place.index = cursor.place.index then none else return (text, next)

/-- A tag between angle brackets. -/
def readVerbatimTag? (cursor : Cursor) : Option (WrittenTag × Cursor) := do
  let (suffix, next) ← (cursor.skip 2).readSomeTagText? true
  if next.sees '>' then return (⟨"", suffix⟩, next.skip 1) else none

/-- A tag with a handle. What looks like the name of a handle but is not closed by an exclamation
mark belongs to the suffix, and an exclamation mark alone is the whole tag. -/
def readShorthandTag? (cursor : Cursor) : Option (WrittenTag × Cursor) := do
  let (handle, next) ← cursor.readHandle?
  if 1 < handle.length ∧ handle.getLast? = some '!' then
    let (suffix, last) ← next.readSomeTagText? false
    return (⟨String.ofList handle, suffix⟩, last)
  else
    let (text, last) ← next.readTagText? false
    let suffix := encode (handle.drop 1) ++ text
    return (if suffix.isEmpty then ⟨"", encode ['!']⟩ else ⟨"!", suffix⟩, last)

/-- A tag. Inside a flow collection a comma may follow it at once. -/
def readTag? (inFlow : Bool) (cursor : Cursor) : Option (WrittenTag × Cursor) := do
  let (tag, next) ←
    if cursor.seesAt 1 (· == '<') then cursor.readVerbatimTag? else cursor.readShorthandTag?
  if next.stopsAt 0 || (inFlow && next.sees ',') then return (tag, next) else none

/-- The name of an anchor or an alias, after its mark. -/
def readAnchorName? (cursor : Cursor) : Option (String × Cursor) :=
  let (name, next) := (cursor.skip 1).span isNamePart
  let closed := next.stopsAt 0 || next.seesAt 0 fun character => "?:,]\x7d%@`".toList.contains character
  if !name.isEmpty && closed then some (String.ofList name, next) else none

end Cursor

end ApiCatalog.Yaml
