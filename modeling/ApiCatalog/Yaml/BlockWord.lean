import ApiCatalog.Yaml.Cursor

/-!
# Block words

A word written over indented lines. A literal word keeps its line breaks; in a folded one a break
between two lines that both start with other than a gap stands for a space. The header of the word
says what becomes of the breaks at its end.
-/

namespace ApiCatalog.Yaml

/-- What becomes of the breaks at the end of a block word. -/
inductive Chomping where
  /-- They are dropped. -/
  | strip
  /-- The first one is kept. -/
  | clip
  /-- They are all kept. -/
  | keep
  deriving DecidableEq, Repr

/-- What the header of a block word says. -/
structure BlockHeader where
  /-- What becomes of the breaks at the end. -/
  chomping : Chomping := .clip
  /-- How much deeper than its surroundings the word is indented. -/
  indentation : Option Nat := none
  deriving DecidableEq, Repr

namespace Cursor

/-- The chomping a character asks for. -/
def chomping? (cursor : Cursor) : Option Chomping :=
  if cursor.sees '+' then some .keep else if cursor.sees '-' then some .strip else none

/-- The indentation a digit asks for, if there is one. It must not be zero. -/
def readIndentation? (cursor : Cursor) : Option (Option Nat × Cursor) :=
  match cursor.rest with
  | digit :: _ =>
      if digit.isDigit then
        if digit == '0' then none else some (some (digit.toNat - '0'.toNat), cursor.skip 1)
      else some (none, cursor)
  | [] => some (none, cursor)

/-- The header of a block word: chomping and indentation in either order. -/
def readBlockHeader? (cursor : Cursor) : Option (BlockHeader × Cursor) := do
  match cursor.chomping? with
  | some chomping =>
      let (indentation, next) ← (cursor.skip 1).readIndentation?
      return (⟨chomping, indentation⟩, next)
  | none =>
      let (indentation, next) ← cursor.readIndentation?
      match indentation, next.chomping? with
      | some _, some chomping => return (⟨chomping, indentation⟩, next.skip 1)
      | _, _ => return (⟨.clip, indentation⟩, next)

/-- The cursor after the spaces of an indentation that is known, or after all spaces. -/
def skipIndentation (indent : Option Nat) (cursor : Cursor) : Cursor :=
  let spaces := (cursor.rest.takeWhile (· == ' ')).length
  cursor.skip <|
    match indent with
    | some indent => min spaces (indent - cursor.column)
    | none => spaces

/-- The breaks of the blank lines that are next, the greatest column reached, and the cursor at the
first line that is not blank. A tab in place of indentation is refused. -/
def readBlankLines? (indent : Option Nat) :
    Nat → Nat → Cursor → Option (List Char × Nat × Cursor)
  | 0, deepest, cursor => some ([], deepest, cursor)
  | steps + 1, deepest, cursor =>
      let next := cursor.skipIndentation indent
      let reached := max deepest next.column
      if (indent.all fun indent => next.column < indent) && next.sees '\t' then none
      else if next.atBreak then do
        let (text, line) := next.readBreak
        let (more, last) ← readBlankLines? indent steps reached line
        return (text ++ more, last)
      else some ([], reached, next)

/-- What stands before a line of a block word. -/
structure Joint where
  /-- Whether the line before starts with a gap. -/
  afterGap : Bool := false
  /-- The break after the line before. -/
  first : List Char := []
  /-- The breaks of the blank lines between. -/
  others : List Char := []
  deriving DecidableEq, Repr

/-- What the breaks before a line of a block word stand for. -/
def Joint.fold (literal beforeGap : Bool) (joint : Joint) : List Char :=
  if !literal && joint.first == ['\n'] && !joint.afterGap && !beforeGap then
    if joint.others.isEmpty then [' '] else joint.others
  else joint.first ++ joint.others

/-- What the breaks at the end of a block word stand for. -/
def Joint.chomp (chomping : Chomping) (joint : Joint) : List Char :=
  match chomping with
  | .strip => []
  | .clip => joint.first
  | .keep => joint.first ++ joint.others

/-- The lines of a block word with a known indentation, after what stands before the first one. -/
def readBlockLines? (literal : Bool) (chomping : Chomping) (indent : Nat) :
    Nat → Joint → Cursor → Option (List Char × Cursor)
  | 0, joint, cursor => some (joint.chomp chomping, cursor)
  | steps + 1, joint, cursor =>
      if cursor.column == indent && !cursor.atEnd then do
        let (line, lineEnd) := cursor.span fun character => !isBreak character
        let (first, next) := lineEnd.readBreak
        let (others, _, after) ← next.readBlankLines? (some indent) (next.rest.length + 1) 0
        let (more, last) ←
          readBlockLines? literal chomping indent steps ⟨cursor.atGap, first, others⟩ after
        return (joint.fold literal cursor.atGap ++ line ++ more, last)
      else some (joint.chomp chomping, cursor)

/-- A block word. Its surroundings end before a least column. Without a word in the header, the
first line that is not blank tells the indentation. -/
def readBlock? (literal : Bool) (leastColumn : Nat) (cursor : Cursor) :
    Option (String × Cursor) := do
  let (header, next) ← (cursor.skip 1).readBlockHeader?
  let lineEnd := next.skipComment
  if !lineEnd.atLineEnd then none
  else
    let given := header.indentation.map fun depth =>
      if leastColumn = 0 then depth else leastColumn - 1 + depth
    let body := lineEnd.skipBreak
    let (others, deepest, first) ← body.readBlankLines? given (body.rest.length + 1) 0
    let indent := given.getD (max deepest (max leastColumn 1))
    let (text, last) ←
      readBlockLines? literal header.chomping indent (first.rest.length + 1) ⟨false, [], others⟩ first
    return (String.ofList text, last)

end Cursor

end ApiCatalog.Yaml
