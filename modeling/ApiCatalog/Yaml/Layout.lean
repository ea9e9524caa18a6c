import ApiCatalog.Yaml.BlockWord
import ApiCatalog.Yaml.Token
import ApiCatalog.Yaml.Word

/-!
# Layout

The tokens of a text in order. Indentation opens and closes blocks. That a node was a key is only
known at the colon after it, so that tokens wait until no place before them can still turn into the
start of a key.
-/

namespace ApiCatalog.Yaml

/-- A place where a key may start. -/
structure KeyCandidate where
  /-- Whether nothing but a key can stand there. -/
  required : Bool
  /-- The number of the token that starts there. -/
  token : Nat
  /-- The place. -/
  place : Place
  deriving DecidableEq, Repr

/-- Whether a key that starts at a candidate must have ended before a place. A key stands on one line
and is not longer than 1024 characters. -/
def KeyCandidate.isStale (candidate : KeyCandidate) (place : Place) : Bool :=
  candidate.place.line < place.line || candidate.place.index + 1024 < place.index

/-- What is known at a place of a text. -/
structure Layout where
  /-- The rest of the text. -/
  cursor : Cursor
  /-- The tokens that wait. -/
  waiting : List Token := []
  /-- How many tokens no longer wait. -/
  released : Nat := 0
  /-- Whether a key may start here. -/
  keyAllowed : Bool := true
  /-- Where a key may have started. -/
  candidate : Option KeyCandidate := none
  /-- Where keys may have started around each open flow collection, the innermost first. -/
  outer : List (Option KeyCandidate) := []
  /-- The columns of the open blocks, the innermost first. -/
  indents : List Nat := []
  deriving DecidableEq, Repr

namespace Layout

/-- Whether a flow collection is open. -/
def inFlow (layout : Layout) : Bool :=
  !layout.outer.isEmpty

/-- The column of the next character. -/
def column (layout : Layout) : Nat :=
  layout.cursor.column

/-- The first column inside the innermost block. -/
def leastColumn (layout : Layout) : Nat :=
  match layout.indents with
  | [] => 0
  | indent :: _ => indent + 1

/-- The layout after a number of characters. -/
def skip (count : Nat) (layout : Layout) : Layout :=
  { layout with cursor := layout.cursor.skip count }

/-- Adds a token. -/
def add (token : Token) (layout : Layout) : Layout :=
  { layout with waiting := layout.waiting ++ [token] }

/-- Adds a token before the one with a number. -/
def addAt (number : Nat) (token : Token) (layout : Layout) : Layout :=
  { layout with waiting := layout.waiting.insertIdx (number - layout.released) token }

/-- Says whether a key may start here. -/
def allowKey (allowed : Bool) (layout : Layout) : Layout :=
  { layout with keyAllowed := allowed }

/-! ## Places of keys -/

/-- A candidate, unless it is stale. A required one must not be. -/
def fresh? (place : Place) : Option KeyCandidate → Option (Option KeyCandidate)
  | none => some none
  | some candidate =>
      if !candidate.isStale place then some (some candidate)
      else if candidate.required then none
      else some none

/-- Drops the candidates that are stale. -/
def dropStale? (layout : Layout) : Option Layout := do
  let candidate ← fresh? layout.cursor.place layout.candidate
  let outer ← layout.outer.mapM (fresh? layout.cursor.place)
  return { layout with candidate, outer }

/-- Drops the candidate. A required one cannot be dropped. -/
def dropCandidate? (layout : Layout) : Option Layout :=
  if layout.candidate.any KeyCandidate.required then none
  else some { layout with candidate := none }

/-- Notes that a key may start here. In a block it must, at the column of the block. -/
def noteCandidate? (layout : Layout) : Option Layout :=
  if layout.keyAllowed then do
    let next ← layout.dropCandidate?
    let required := !layout.inFlow && layout.leastColumn == layout.column + 1
    let token := layout.released + layout.waiting.length
    return { next with candidate := some ⟨required, token, layout.cursor.place⟩ }
  else some layout

/-! ## Blocks -/

/-- Opens a block at a column that is inside the innermost block. Its token goes before the one with
a number, or to the end. -/
def openBlock (column : Nat) (before : Option Nat) (token : Token) (layout : Layout) : Layout :=
  if layout.inFlow || column < layout.leastColumn then layout
  else
    let opened := { layout with indents := column :: layout.indents }
    match before with
    | some number => opened.addAt number token
    | none => opened.add token

/-- Closes the blocks that start behind a column, all of them if there is no column. -/
def closeBlocks (column : Option Nat) (layout : Layout) : Layout :=
  if layout.inFlow then layout
  else
    let closed := layout.indents.takeWhile fun indent => column.all (· < indent)
    { layout with
      waiting := layout.waiting ++ closed.map fun _ => .blockEnd
      indents := layout.indents.drop closed.length }

/-! ## Tokens -/

/-- The end of the text, which also ends its line. -/
def readEnd? (layout : Layout) : Option Layout := do
  let place := layout.cursor.place
  let last : Place := if place.column = 0 then place else ⟨place.index, place.line + 1, 0⟩
  let ended := { layout with cursor := { layout.cursor with place := last } }
  return ((← (ended.closeBlocks none).dropCandidate?).allowKey false).add .streamEnd

/-- A token that stands outside all blocks. -/
def readOutside? (token : Token) (after : Cursor) (layout : Layout) : Option Layout := do
  let next := (← (layout.closeBlocks none).dropCandidate?).allowKey false
  return { next with cursor := after }.add token

/-- The start of a flow collection. -/
def readFlowStart? (token : Token) (layout : Layout) : Option Layout := do
  let next ← layout.noteCandidate?
  let opened := { next with candidate := none, outer := next.candidate :: next.outer }
  return ((opened.allowKey true).skip 1).add token

/-- The end of a flow collection. -/
def readFlowEnd? (token : Token) (layout : Layout) : Option Layout := do
  let next ← layout.dropCandidate?
  let closed :=
    match next.outer with
    | [] => next
    | candidate :: outer => { next with candidate, outer }
  return ((closed.allowKey false).skip 1).add token

/-- A comma. -/
def readFlowEntry? (layout : Layout) : Option Layout := do
  return (((← layout.dropCandidate?).allowKey true).skip 1).add .flowEntry

/-- The dash before an item of a block. -/
def readBlockEntry? (layout : Layout) : Option Layout := do
  if !layout.inFlow && !layout.keyAllowed then none
  else
    let opened := layout.openBlock layout.column none .blockListStart
    return (((← opened.dropCandidate?).allowKey true).skip 1).add .blockEntry

/-- The mark before a key that is not simple. -/
def readKey? (layout : Layout) : Option Layout := do
  if !layout.inFlow && !layout.keyAllowed then none
  else
    let opened := layout.openBlock layout.column none .blockTableStart
    return (((← opened.dropCandidate?).allowKey (!layout.inFlow)).skip 1).add .key

/-- The colon before a value. If a key may have started, it did. -/
def readValue? (layout : Layout) : Option Layout :=
  match layout.candidate with
  | some candidate =>
      let keyed := (layout.addAt candidate.token .key).openBlock candidate.place.column
        (some candidate.token) .blockTableStart
      some (({ keyed with candidate := none, keyAllowed := false }.skip 1).add .value)
  | none =>
      if !layout.inFlow && !layout.keyAllowed then none
      else
        let opened := layout.openBlock layout.column none .blockTableStart
        some (((opened.allowKey (!layout.inFlow)).skip 1).add .value)

/-- A token with which a key may start. -/
def readSimple? (read : Cursor → Option (Token × Cursor)) (layout : Layout) : Option Layout := do
  let next := (← layout.noteCandidate?).allowKey false
  let (token, after) ← read layout.cursor
  return { next with cursor := after }.add token

/-- A block word. -/
def readBlockWord? (literal : Bool) (layout : Layout) : Option Layout := do
  let next := (← layout.dropCandidate?).allowKey true
  let (content, after) ← layout.cursor.readBlock? literal layout.leastColumn
  return { next with cursor := after }.add (.word content (if literal then .literal else .quoted))

/-- A word without quotes. A key may start on the line after it. -/
def readPlainWord? (layout : Layout) : Option Layout := do
  let next := (← layout.noteCandidate?).allowKey false
  let (content, broken, after) ← layout.cursor.readPlain? layout.inFlow layout.leastColumn
  return { next with cursor := after, keyAllowed := broken }.add (.word content .plain)

/-- Whether a word without quotes may start here. -/
def startsPlainWord (layout : Layout) : Bool :=
  let cursor := layout.cursor
  let isIndicator (character : Char) : Bool :=
    "-?:,[]\x7b\x7d#&*!|>'\"%@`".toList.contains character
  (!cursor.stopsAt 0 && !cursor.seesAt 0 isIndicator) ||
    (cursor.sees '-' && !cursor.seesAt 1 isGap) ||
    (!layout.inFlow && (cursor.sees '?' || cursor.sees ':') && !cursor.stopsAt 1)

/-- Skips what stands before the next token: gaps, comments and line breaks. A tab does not count as
a gap where it would indent a key. A new line of a block may start a key. -/
def skipBlanks : Nat → Layout → Layout
  | 0, layout => layout
  | steps + 1, layout =>
      let marked := if layout.cursor.place.index == 0 && layout.cursor.sees '\uFEFF' then 1 else 0
      let start := layout.cursor.skip marked
      let tabs := layout.inFlow || !layout.keyAllowed
      let spaced := start.skipWhile fun character => character == ' ' || (tabs && character == '\t')
      let cursor := if spaced.sees '#' then spaced.skipLine else spaced
      if cursor.atBreak then
        skipBlanks steps { layout with
          cursor := cursor.skipBreak, keyAllowed := layout.keyAllowed || !layout.inFlow }
      else { layout with cursor }

/-- Adds the token that starts with the next character, which is not a blank. -/
def readToken? (layout : Layout) : Option Layout :=
  let cursor := layout.cursor
  let isolated := layout.inFlow || cursor.stopsAt 1
  let blockOnly (read : Option Layout) : Option Layout := if layout.inFlow then none else read
  match cursor.rest with
  | [] => layout.readEnd?
  | character :: _ =>
      if cursor.column == 0 && character == '%' then do
        let (directive, after) ← cursor.readDirective?
        layout.readOutside? (.directive directive) after
      else if cursor.atDocumentMark then
        layout.readOutside? (if character == '-' then .documentStart else .documentEnd)
          (cursor.skip 3)
      else if character == '-' && cursor.stopsAt 1 then layout.readBlockEntry?
      else if character == '?' && isolated then layout.readKey?
      else if character == ':' && isolated then layout.readValue?
      else match character with
        | '[' => layout.readFlowStart? .flowListStart
        | '\x7b' => layout.readFlowStart? .flowTableStart
        | ']' => layout.readFlowEnd? .flowListEnd
        | '\x7d' => layout.readFlowEnd? .flowTableEnd
        | ',' => layout.readFlowEntry?
        | '*' => layout.readSimple? fun cursor => do
            let (name, after) ← cursor.readAnchorName?
            return (.alias name, after)
        | '&' => layout.readSimple? fun cursor => do
            let (name, after) ← cursor.readAnchorName?
            return (.anchor name, after)
        | '!' => layout.readSimple? fun cursor => do
            let (tag, after) ← cursor.readTag? layout.inFlow
            return (.tag tag, after)
        | '|' => blockOnly (layout.readBlockWord? true)
        | '>' => blockOnly (layout.readBlockWord? false)
        | '\'' | '"' => layout.readSimple? fun cursor => do
            let (content, after) ← cursor.readQuoted? character
            return (.word content .quoted, after)
        | _ => if layout.startsPlainWord then layout.readPlainWord? else none

/-- Goes on to the next token. -/
def advance? (layout : Layout) : Option Layout := do
  let next ← (layout.skipBlanks (layout.cursor.rest.length + 1)).dropStale?
  (next.closeBlocks (some next.column)).readToken?

/-- Whether the first token that waits may still have to wait. -/
def mustWait (layout : Layout) : Bool :=
  (layout.candidate :: layout.outer).any fun candidate =>
    candidate.any fun candidate => candidate.token == layout.released

/-- The tokens from a layout on. Where the text cannot be read on, they break off before the end of
the text. -/
def tokensFrom : Nat → Layout → List Token
  | 0, _ => []
  | steps + 1, layout =>
      match layout.waiting with
      | [] =>
          match layout.advance? with
          | some next => tokensFrom steps next
          | none => []
      | first :: rest =>
          match layout.dropStale? with
          | none => []
          | some layout =>
              if layout.mustWait then
                match layout.advance? with
                | some next => tokensFrom steps next
                | none => []
              else if first == .streamEnd then [.streamEnd]
              else
                first ::
                  tokensFrom steps { layout with waiting := rest, released := layout.released + 1 }

end Layout

/-- The tokens of a text. For every character, at most one is read, and it opens at most one block
and starts at most one key. Every token is added and released, and every block is closed. -/
def tokens (text : List Char) : List Token :=
  Layout.tokensFrom (8 * (text.length + 2)) { cursor := ⟨text, {}⟩ }

end ApiCatalog.Yaml
