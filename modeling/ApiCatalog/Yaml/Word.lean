import ApiCatalog.Text.Hexadecimal
import ApiCatalog.Yaml.Cursor

/-!
# Words between quotes and without them

A word may go on over several lines. One line break inside it stands for a space, and of several the
first one is dropped.
-/

namespace ApiCatalog.Yaml

open Text

/-- What stands between two pieces of a word. -/
structure Spacing where
  /-- Whether the line was broken, so that gaps do not count. -/
  broken : Bool := false
  /-- The gaps before the first break. -/
  gaps : List Char := []
  /-- The first break. -/
  first : List Char := []
  /-- The other breaks. -/
  others : List Char := []
  deriving DecidableEq, Repr

namespace Spacing

/-- What spacing stands for inside a word. -/
def fold (spacing : Spacing) : List Char :=
  if spacing.broken then
    if spacing.first = ['\n'] then
      if spacing.others.isEmpty then [' '] else spacing.others
    else spacing.first ++ spacing.others
  else spacing.gaps

/-- Spacing with a further gap. -/
def addGap (spacing : Spacing) (gap : Char) : Spacing :=
  if spacing.broken then spacing else { spacing with gaps := spacing.gaps ++ [gap] }

/-- Spacing with a further break. -/
def addBreak (spacing : Spacing) (text : List Char) : Spacing :=
  if spacing.broken then { spacing with others := spacing.others ++ text }
  else { spacing with broken := true, gaps := [], first := text }

end Spacing

namespace Cursor

/-- The spacing that is next, after some that has been read. Where a least column is given, a tab
before it on a new line is refused. Every step reads a character, so that as many steps as there are
characters suffice. -/
def readSpacing? (leastColumn : Nat) :
    Nat → Spacing → Cursor → Option (Spacing × Cursor)
  | 0, spacing, cursor => some (spacing, cursor)
  | steps + 1, spacing, cursor =>
      match cursor.rest with
      | character :: _ =>
          if isGap character then
            if spacing.broken && cursor.column < leastColumn && character == '\t' then none
            else readSpacing? leastColumn steps (spacing.addGap character) (cursor.skip 1)
          else if isBreak character then
            let (text, next) := cursor.readBreak
            readSpacing? leastColumn steps (spacing.addBreak text) next
          else some (spacing, cursor)
      | [] => some (spacing, cursor)

/-! ## Quoted words -/

/-- The character of an escape of one letter. -/
def escaped? : Char → Option Char
  | '0' => some '\x00'
  | 'a' => some '\x07'
  | 'b' => some '\x08'
  | 't' | '\t' => some '\t'
  | 'n' => some '\n'
  | 'v' => some '\x0b'
  | 'f' => some '\x0c'
  | 'r' => some '\r'
  | 'e' => some '\x1b'
  | ' ' => some ' '
  | '"' => some '"'
  | '/' => some '/'
  | '\\' => some '\\'
  | 'N' => some '\x85'
  | '_' => some '\u00a0'
  | 'L' => some '\u2028'
  | 'P' => some '\u2029'
  | _ => none

/-- How many hexadecimal digits follow the letter of an escape. -/
def escapeDigits? : Char → Option Nat
  | 'x' => some 2
  | 'u' => some 4
  | 'U' => some 8
  | _ => none

/-- The character with a code. -/
def character? (code : Nat) : Option Char :=
  if 0xD800 ≤ code ∧ code ≤ 0xDFFF ∨ 0x10FFFF < code then none else some (Char.ofNat code)

/-- The character an escape stands for. -/
def readEscapedCharacter? (cursor : Cursor) : Option (Char × Cursor) :=
  match cursor.rest with
  | _ :: letter :: rest =>
      match escaped? letter with
      | some character => some (character, cursor.skip 2)
      | none => do
          let count ← escapeDigits? letter
          let digits := rest.take count
          if digits.length < count then none
          else
            let code ← digits.foldlM (fun total digit => (hexValue? digit).map (total * 16 + ·)) 0
            return (← character? code, cursor.skip (2 + count))
  | _ => none

/-- What ends a run of characters inside quotes. -/
inductive QuotedStop where
  /-- The closing quote. -/
  | quote
  /-- A gap, a line break or the end of the text. -/
  | spacing
  /-- An escaped line break. -/
  | joined
  deriving DecidableEq, Repr

/-- The characters that are next inside quotes, and what ends them. -/
def readQuotedRun? (quote : Char) : Nat → Cursor → Option (List Char × QuotedStop × Cursor)
  | 0, cursor => some ([], .spacing, cursor)
  | steps + 1, cursor =>
      let add (character : Char) (next : Cursor) := do
        let (rest, stop, last) ← readQuotedRun? quote steps next
        return (character :: rest, stop, last)
      match cursor.rest with
      | [] => some ([], .spacing, cursor)
      | character :: rest =>
          if isGap character || isBreak character then some ([], .spacing, cursor)
          else if character == quote then
            if quote == '\'' && rest.head? == some '\'' then add '\'' (cursor.skip 2)
            else some ([], .quote, cursor)
          else if character == '\\' && quote == '"' then
            if cursor.seesAt 1 isBreak then some ([], .joined, (cursor.skip 1).skipBreak)
            else do
              let (meant, next) ← cursor.readEscapedCharacter?
              add meant next
          else add character (cursor.skip 1)

/-- The characters inside quotes, after the opening one, and the cursor after the closing one. -/
def readQuotedFrom? (quote : Char) : Nat → Cursor → Option (List Char × Cursor)
  | 0, _ => none
  | steps + 1, cursor =>
      if cursor.atDocumentMark || cursor.atEnd then none
      else do
        let (run, stop, next) ← readQuotedRun? quote (cursor.rest.length + 1) cursor
        if next.sees quote then return (run, next.skip 1)
        else
          let (spacing, after) ←
            next.readSpacing? 0 next.rest.length { broken := stop == .joined }
          let (more, last) ← readQuotedFrom? quote steps after
          return (run ++ spacing.fold ++ more, last)

/-- A word between quotes. -/
def readQuoted? (quote : Char) (cursor : Cursor) : Option (String × Cursor) := do
  let (text, next) ← readQuotedFrom? quote (cursor.rest.length + 1) (cursor.skip 1)
  return (String.ofList text, next)

/-! ## Plain words -/

/-- Whether a colon is next that a flow collection does not allow inside a word. -/
def atMisplacedColon (cursor : Cursor) : Bool :=
  cursor.sees ':' && cursor.seesAt 1 fun character => ",?[]\x7b\x7d".toList.contains character

/-- Whether a plain word ends here: at a colon with nothing behind it, or at an indicator of a flow
collection. -/
def endsPlain (inFlow : Bool) (cursor : Cursor) : Bool :=
  cursor.stopsAt 0 || (cursor.sees ':' && cursor.stopsAt 1) ||
    (inFlow && cursor.seesAt 0 fun character => ",[]\x7b\x7d".toList.contains character)

/-- The characters of a plain word that are next. -/
def readPlainRun? (inFlow : Bool) : Nat → Cursor → Option (List Char × Cursor)
  | 0, cursor => some ([], cursor)
  | steps + 1, cursor =>
      match cursor.rest with
      | [] => some ([], cursor)
      | character :: _ =>
          if inFlow && cursor.atMisplacedColon then none
          else if cursor.endsPlain inFlow then some ([], cursor)
          else do
            let (rest, last) ← readPlainRun? inFlow steps (cursor.skip 1)
            return (character :: rest, last)

/-- A plain word after some of its characters, the cursor after it, and whether the spacing after it
broke the line. Outside flow collections its lines start at a least column. -/
def readPlainFrom? (inFlow : Bool) (leastColumn : Nat) :
    Nat → List Char → Spacing → Cursor → Option (List Char × Bool × Cursor)
  | 0, text, spacing, cursor => some (text, spacing.broken, cursor)
  | steps + 1, text, spacing, cursor =>
      if cursor.atDocumentMark || cursor.sees '#' then some (text, spacing.broken, cursor)
      else do
        let (run, next) ← readPlainRun? inFlow cursor.rest.length cursor
        let joined := if run.isEmpty then text else text ++ spacing.fold ++ run
        let before := if run.isEmpty then spacing else {}
        if next.atGap || next.atBreak then
          let (after, last) ← next.readSpacing? leastColumn next.rest.length before
          if !inFlow && last.column < leastColumn then return (joined, after.broken, last)
          else readPlainFrom? inFlow leastColumn steps joined after last
        else return (joined, before.broken, next)

/-- A plain word, the cursor after it and the spacing that follows, and whether that spacing broke
the line. -/
def readPlain? (inFlow : Bool) (leastColumn : Nat) (cursor : Cursor) :
    Option (String × Bool × Cursor) := do
  let (text, broken, next) ← readPlainFrom? inFlow leastColumn (cursor.rest.length + 1) [] {} cursor
  return (String.ofList text, broken, next)

end Cursor

end ApiCatalog.Yaml
