import ApiCatalog.Text.Blank
import ApiCatalog.Text.Split

/-!
# Comments

A description becomes a comment line by line: line breaks of every spelling end a line, lines are
trimmed, and blank lines at the two ends are dropped.
-/

namespace ApiCatalog.Comment

open Text

/-- A text with one spelling of the line break. A carriage return, alone or before a line feed,
and the two characters of an escaped line feed break the line as well. -/
def unifyBreaks : List Char → List Char
  | '\r' :: '\n' :: rest => '\n' :: unifyBreaks rest
  | '\r' :: rest => '\n' :: unifyBreaks rest
  | '\\' :: 'n' :: rest => '\n' :: unifyBreaks rest
  | character :: rest => character :: unifyBreaks rest
  | [] => []

/-- Lines without the empty ones at the two ends. -/
def dropOuterEmpty (lines : List (List Char)) : List (List Char) :=
  ((lines.dropWhile List.isEmpty).reverse.dropWhile List.isEmpty).reverse

/-- The trimmed lines of a text, from its first line that is not blank to its last. -/
def bodyLines (text : List Char) : List (List Char) :=
  dropOuterEmpty ((splitOn '\n' (unifyBreaks text)).map trim)

/-- The lines of the comment a description becomes. -/
def lines (description : String) : List String :=
  (bodyLines description.toList).map String.ofList

/-- The comment a description becomes, unless all of it is blank. -/
def ofDescription? (description : String) : Option String :=
  match bodyLines description.toList with
  | [] => none
  | body => some (String.ofList (['\n'].intercalate body))

end ApiCatalog.Comment
