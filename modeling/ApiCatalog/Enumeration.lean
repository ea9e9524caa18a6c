import ApiCatalog.Identifier
import ApiCatalog.Json
import ApiCatalog.Text.Blank
import ApiCatalog.Text.DecimalDigit
import ApiCatalog.Text.WordCharacter

/-!
# Enumerations

The symbols of an enumeration come from a list of literals, or from the codes that a description
lists with their meanings. A value counts once, and symbols have different names.
-/

namespace ApiCatalog

/-- A value of an enumeration. -/
inductive Literal where
  /-- A text. -/
  | text (content : String)
  /-- A number, as it is written. -/
  | number (numeral : String)
  deriving DecidableEq, Repr

/-- A named value of an enumeration. -/
structure Symbol where
  /-- The name. -/
  name : String
  /-- The value. -/
  value : Literal
  deriving DecidableEq, Repr

namespace Literal

/-- The text or numeral itself. -/
def content : Literal → String
  | .text content => content
  | .number numeral => numeral

/-- Whether the value is a number. -/
def isNumber : Literal → Bool
  | .text _ => false
  | .number _ => true

/-- One character of a rendered text: quotes and backslashes are escaped. -/
def escape (character : Char) : List Char :=
  if character == '\\' || character == '\'' then ['\\', character] else [character]

/-- The value as it is rendered in a type or in a list of allowed values. -/
def render : Literal → String
  | .text content => String.ofList ('\'' :: content.toList.flatMap escape ++ ['\''])
  | .number numeral => numeral

end Literal

namespace Enumeration

/-- Symbols with one symbol for each value, the first, and with different names. -/
def distinguish : List Literal → List String → List Symbol → List Symbol
  | _, _, [] => []
  | values, names, symbol :: rest =>
      if values.contains symbol.value then distinguish values names rest
      else
        let name := Identifier.distinguish symbol.name names
        ⟨name, symbol.value⟩ :: distinguish (symbol.value :: values) (name :: names) rest

variable [Transliteration]

/-- The name of a number. -/
def numberName (numeral : List Char) : String :=
  match numeral with
  | '-' :: size => "NUM_MINUS_" ++ String.ofList (Identifier.sanitize size)
  | size => "NUM_" ++ String.ofList (Identifier.sanitize size)

/-- The symbol of a text. -/
def textSymbol (content : String) : Symbol :=
  ⟨String.ofList (Identifier.symbolName content.toList), .text content⟩

/-- The symbol of a literal. Truth values count as texts; null, lists and objects have none. -/
def literalSymbol? : Json → Option Symbol
  | .string content => some (textSymbol content)
  | .boolean flag => some (textSymbol (if flag then "true" else "false"))
  | .number value => some ⟨numberName value.render, .number (String.ofList value.render)⟩
  | .null | .array _ | .object _ => none

/-- The symbols of a list of literals. -/
def ofLiterals (literals : List Json) : List Symbol :=
  distinguish [] [] (literals.filterMap literalSymbol?)

/-- A code that a description gives a meaning, as it is written. -/
structure Entry where
  /-- The code: digits, after a minus sign if it is negative. -/
  code : List Char
  /-- The first word of the meaning. -/
  meaning : List Char
  deriving DecidableEq, Repr

/-- Whether a character stands between a code and its meaning. -/
def isSeparator (character : Char) : Bool :=
  ['=', ':', '-', '–', '—'].contains character

/-- Whether a character opens an entry. -/
def isOpener (character : Char) : Bool :=
  [',', ';', ':', '\n'].contains character

/-- Whether a character starts the meaning of a code. -/
def isMeaningStart (character : Char) : Bool :=
  character.isAlpha || character == '_'

/-- The sign of a code, and what follows it. -/
def takeMinus : List Char → List Char × List Char
  | '-' :: rest => (['-'], rest)
  | rest => ([], rest)

/-- The entry at the start of a text, after blanks, and what follows it. -/
def entry? (text : List Char) : Option (Entry × List Char) :=
  let (sign, unsigned) := takeMinus (text.dropWhile Text.isBlank)
  let digits := unsigned.takeWhile Text.isDecimalDigit
  let afterDigits := unsigned.dropWhile Text.isDecimalDigit
  if digits.isEmpty then none
  else
    match afterDigits.dropWhile Text.isBlank with
    | [] => none
    | separator :: afterSeparator =>
        if !isSeparator separator then none
        else
          match afterSeparator.dropWhile Text.isBlank with
          | [] => none
          | first :: rest =>
              if !isMeaningStart first then none
              else
                some (⟨sign ++ digits, first :: rest.takeWhile Text.isWordCharacter⟩,
                  rest.dropWhile Text.isWordCharacter)

/-- The entries of a text, each of which follows an opener. The fuel bounds the characters. -/
def entriesAfter : Nat → List Char → List Entry
  | 0, _ | _, [] => []
  | fuel + 1, character :: rest =>
      if isOpener character then
        match entry? rest with
        | some (entry, remaining) => entry :: entriesAfter fuel remaining
        | none => entriesAfter fuel rest
      else
        entriesAfter fuel rest

/-- The entries of a description: one may open it, the others follow an opener. -/
def entries (description : List Char) : List Entry :=
  match entry? description with
  | some (entry, remaining) => entry :: entriesAfter remaining.length remaining
  | none => entriesAfter description.length description

/-- The number a code writes, if it has ASCII digits and fits in 64 bits. -/
def codeValue? (code : List Char) : Option Int :=
  let (sign, digits) := takeMinus code
  if digits.all Char.isDigit then
    let size : Int := digitsValue 10 digitValue digits
    let value := if sign.isEmpty then size else -size
    if -(Nat.pow 2 63 : Int) ≤ value ∧ value < (Nat.pow 2 63 : Int) then some value else none
  else
    none

/-- The symbol of an entry. -/
def entrySymbol? (entry : Entry) : Option Symbol :=
  (codeValue? entry.code).map fun value =>
    ⟨String.ofList (Identifier.symbolName entry.meaning),
      .number (String.ofList (Number.integer value).render)⟩

/-- The symbols of the codes that a description lists. -/
def ofDescription (description : String) : List Symbol :=
  distinguish [] [] ((entries description.toList).filterMap entrySymbol?)

/-- The values that symbols allow, as they are rendered. -/
def allowedValues (symbols : List Symbol) : List String :=
  (symbols.map fun symbol => symbol.value.render).eraseDups

/-- The type of the values that symbols allow. -/
def unionType (symbols : List Symbol) : String :=
  " | ".intercalate (allowedValues symbols)

end Enumeration

end ApiCatalog
