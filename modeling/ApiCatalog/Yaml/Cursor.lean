/-!
# Reading positions

The rest of a text with the place where it starts. Five characters break a line; a carriage return
and the line feed after it are one break.
-/

namespace ApiCatalog.Yaml

/-- Whether a character breaks the line. -/
def isBreak (character : Char) : Bool :=
  ['\n', '\r', '\x85', '\u2028', '\u2029'].contains character

/-- Whether a character is a space or a tab. -/
def isGap (character : Char) : Bool :=
  character == ' ' || character == '\t'

/-- Whether a character may stand in a name. -/
def isNamePart (character : Char) : Bool :=
  character.isAlphanum || character == '_' || character == '-'

/-- A place in a text. -/
structure Place where
  /-- How many characters are before it. -/
  index : Nat := 0
  /-- How many line breaks are before it. -/
  line : Nat := 0
  /-- How many characters of its line are before it. -/
  column : Nat := 0
  deriving DecidableEq, Repr

/-- The rest of a text. -/
structure Cursor where
  /-- The characters. -/
  rest : List Char
  /-- The place of the first of them. -/
  place : Place := {}
  deriving DecidableEq, Repr

namespace Cursor

/-- The column of the next character. -/
def column (cursor : Cursor) : Nat :=
  cursor.place.column

/-- Whether a character is next. -/
def sees (cursor : Cursor) (character : Char) : Bool :=
  cursor.rest.head? == some character

/-- Whether a character some way ahead is of a class. -/
def seesAt (cursor : Cursor) (distance : Nat) (holds : Char → Bool) : Bool :=
  cursor.rest[distance]?.any holds

/-- Whether nothing is left. -/
def atEnd (cursor : Cursor) : Bool :=
  cursor.rest.isEmpty

/-- Whether a space or a tab is next. -/
def atGap (cursor : Cursor) : Bool :=
  cursor.seesAt 0 isGap

/-- Whether a line break is next. -/
def atBreak (cursor : Cursor) : Bool :=
  cursor.seesAt 0 isBreak

/-- Whether a word cannot go on some way ahead: a gap, a line break or the end is there. -/
def stopsAt (cursor : Cursor) (distance : Nat) : Bool :=
  cursor.rest[distance]?.all fun character => isGap character || isBreak character

/-- Whether the line ends here. -/
def atLineEnd (cursor : Cursor) : Bool :=
  cursor.atEnd || cursor.atBreak

/-- The cursor after a number of characters that do not break the line. -/
def skip (count : Nat) (cursor : Cursor) : Cursor :=
  let skipped := (cursor.rest.take count).length
  ⟨cursor.rest.drop count,
    { cursor.place with
      index := cursor.place.index + skipped, column := cursor.place.column + skipped }⟩

/-- The characters of a class that are next, and the cursor after them. They must not break the
line. -/
def span (cursor : Cursor) (holds : Char → Bool) : List Char × Cursor :=
  let taken := cursor.rest.takeWhile holds
  (taken, cursor.skip taken.length)

/-- The cursor after the characters of a class that are next. -/
def skipWhile (cursor : Cursor) (holds : Char → Bool) : Cursor :=
  (cursor.span holds).2

/-- The cursor at the end of its line. -/
def skipLine (cursor : Cursor) : Cursor :=
  cursor.skipWhile fun character => !isBreak character

/-- The cursor after gaps and a comment. -/
def skipComment (cursor : Cursor) : Cursor :=
  let next := cursor.skipWhile isGap
  if next.sees '#' then next.skipLine else next

/-- The text that a line break stands for, and the cursor after it. Only separators of lines and
paragraphs keep their own character. Where there is no break, the text is empty. -/
def readBreak (cursor : Cursor) : List Char × Cursor :=
  let after (count : Nat) : Cursor :=
    ⟨cursor.rest.drop count, ⟨cursor.place.index + count, cursor.place.line + 1, 0⟩⟩
  match cursor.rest with
  | '\r' :: '\n' :: _ => (['\n'], after 2)
  | '\u2028' :: _ => (['\u2028'], after 1)
  | '\u2029' :: _ => (['\u2029'], after 1)
  | character :: _ => if isBreak character then (['\n'], after 1) else ([], cursor)
  | [] => ([], cursor)

/-- The cursor after a line break, if one is next. -/
def skipBreak (cursor : Cursor) : Cursor :=
  cursor.readBreak.2

/-- Whether a mark that starts or ends a document is next. -/
def atDocumentMark (cursor : Cursor) : Bool :=
  cursor.column == 0 && cursor.stopsAt 3 &&
    (cursor.rest.take 3 == ['-', '-', '-'] || cursor.rest.take 3 == ['.', '.', '.'])

end Cursor

end ApiCatalog.Yaml
