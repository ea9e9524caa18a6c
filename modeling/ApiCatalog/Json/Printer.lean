import ApiCatalog.Json
import ApiCatalog.Text.Hexadecimal

/-!
# JSON text

The compact text of a value, and its text over indented lines. Only quotes, backslashes and control
characters are escaped.
-/

namespace ApiCatalog.Json

open Text

/-- One character of a string. -/
def escape (character : Char) : List Char :=
  match character with
  | '"' => ['\\', '"']
  | '\\' => ['\\', '\\']
  | '\x08' => ['\\', 'b']
  | '\x0c' => ['\\', 'f']
  | '\n' => ['\\', 'n']
  | '\r' => ['\\', 'r']
  | '\t' => ['\\', 't']
  | other =>
      if other.toNat < 0x20 then
        ['\\', 'u', '0', '0', hexDigit (other.toNat / 16), hexDigit (other.toNat % 16)]
      else
        [other]

/-- The text of a string. -/
def printString (text : String) : List Char :=
  '"' :: text.toList.flatMap escape ++ ['"']

mutual

/-- The compact text of a value. -/
def print : Json → List Char
  | .null => ['n', 'u', 'l', 'l']
  | .boolean true => ['t', 'r', 'u', 'e']
  | .boolean false => ['f', 'a', 'l', 's', 'e']
  | .number value => value.render
  | .string text => printString text
  | .array items => '[' :: printItems items
  | .object members => '{' :: printMembers members

/-- The compact text of the items of a list, with its end. -/
def printItems : List Json → List Char
  | [] => [']']
  | item :: rest => item.print ++ printMoreItems rest

/-- The compact text of the items that follow others, with the end of the list. -/
def printMoreItems : List Json → List Char
  | [] => [']']
  | item :: rest => ',' :: item.print ++ printMoreItems rest

/-- The compact text of the members of an object, with its end. -/
def printMembers : List (String × Json) → List Char
  | [] => ['}']
  | (name, value) :: rest => printString name ++ ':' :: value.print ++ printMoreMembers rest

/-- The compact text of the members that follow others, with the end of the object. -/
def printMoreMembers : List (String × Json) → List Char
  | [] => ['}']
  | (name, value) :: rest =>
      ',' :: printString name ++ ':' :: value.print ++ printMoreMembers rest

end

/-- A new line with two spaces for every level. -/
def newLine (level : Nat) : List Char :=
  '\n' :: List.replicate (2 * level) ' '

mutual

/-- The text of a value over lines indented from a level on. -/
def printLines (level : Nat) : Json → List Char
  | .array [] => ['[', ']']
  | .array (item :: rest) =>
      '[' :: newLine (level + 1) ++ item.printLines (level + 1) ++ printMoreItemLines level rest
  | .object [] => ['{', '}']
  | .object ((name, value) :: rest) =>
      '{' :: newLine (level + 1) ++ printString name ++ ':' :: ' ' ::
        value.printLines (level + 1) ++ printMoreMemberLines level rest
  | .null => ['n', 'u', 'l', 'l']
  | .boolean true => ['t', 'r', 'u', 'e']
  | .boolean false => ['f', 'a', 'l', 's', 'e']
  | .number value => value.render
  | .string text => printString text

/-- The lines of the items that follow others, with the end of the list. -/
def printMoreItemLines (level : Nat) : List Json → List Char
  | [] => newLine level ++ [']']
  | item :: rest =>
      ',' :: newLine (level + 1) ++ item.printLines (level + 1) ++ printMoreItemLines level rest

/-- The lines of the members that follow others, with the end of the object. -/
def printMoreMemberLines (level : Nat) : List (String × Json) → List Char
  | [] => newLine level ++ ['}']
  | (name, value) :: rest =>
      ',' :: newLine (level + 1) ++ printString name ++ ':' :: ' ' ::
        value.printLines (level + 1) ++ printMoreMemberLines level rest

end

/-- The compact text of a value. -/
def compact (value : Json) : String :=
  String.ofList value.print

/-- The text of a value over indented lines. -/
def pretty (value : Json) : String :=
  String.ofList (value.printLines 0)

end ApiCatalog.Json
