import ApiCatalog.Text.LetterCase
import ApiCatalog.Text.Transliteration

/-!
# Identifiers

How free text becomes an identifier: a constant name for an enumeration symbol, a camel-case name
for an operation, and a name that no earlier one has taken.
-/

namespace ApiCatalog.Identifier

open Text

/-- Whether a character is an ASCII letter or digit. -/
def isAlphanumeric (character : Char) : Bool :=
  character.isAlpha || character.isDigit

/-- The maximal runs of characters with a property. -/
def runsOf (keep : Char → Bool) : List Char → List (List Char)
  | [] => []
  | character :: rest =>
      if keep character then
        match rest, runsOf keep rest with
        | next :: _, run :: runs =>
            if keep next then (character :: run) :: runs else [character] :: run :: runs
        | _, runs => [character] :: runs
      else
        runsOf keep rest

/-- The maximal runs of ASCII letters and digits in the transliteration of a text. -/
def runs [Transliteration] (text : List Char) : List (List Char) :=
  runsOf isAlphanumeric (transliterate text)

/-- The runs of a text joined by single underscores. -/
def sanitize [Transliteration] (text : List Char) : List Char :=
  ['_'].intercalate (runs text)

/-- A text with an underscore between a lower-case letter or digit and a capital after it. -/
def markCapitals : List Char → List Char
  | first :: second :: rest =>
      if (first.isLower || first.isDigit) && second.isUpper then
        first :: '_' :: markCapitals (second :: rest)
      else
        first :: markCapitals (second :: rest)
  | short => short

/-- The constant-case name of an enumeration symbol. A text without letters and digits is named
`EMPTY`, and a name that would start with a digit gets a leading underscore. -/
def symbolName [Transliteration] (text : List Char) : List Char :=
  match (markCapitals (sanitize text)).map Char.toUpper with
  | [] => ['E', 'M', 'P', 'T', 'Y']
  | first :: rest => if first.isDigit then '_' :: first :: rest else first :: rest

/-- Whether a character may start a plain identifier. -/
def isPlainStart (character : Char) : Bool :=
  character.isAlpha || character == '_' || character == '$'

/-- Whether a character may stand in a plain identifier. -/
def isPlainPart (character : Char) : Bool :=
  isPlainStart character || character.isDigit

/-- Whether a text can be used unquoted as a member name or type name. -/
def isPlain : List Char → Bool
  | [] => false
  | first :: rest => isPlainStart first && rest.all isPlainPart

theorem isPlainPart_of_isPlain {name : List Char} (plain : isPlain name = true) :
    ∀ character ∈ name, isPlainPart character = true := by
  cases name with
  | nil => exact List.forall_mem_nil _
  | cons first rest =>
      obtain ⟨start, parts⟩ := Bool.and_eq_true_iff.mp plain
      have startPart : isPlainPart first = true := by rw [isPlainPart, start, Bool.true_or]
      exact List.forall_mem_cons.mpr ⟨startPart, List.all_eq_true.mp parts⟩

theorem not_isPlain_of_mem {name : List Char} {mark : Char} (member : mark ∈ name)
    (unpart : isPlainPart mark = false) : ¬ isPlain name = true := by
  intro plain
  rw [isPlainPart_of_isPlain plain mark member] at unpart
  cases unpart

/-- Whether a word ends between two characters of a run, given the character after them. -/
def isWordEdge (previous current : Char) (next : Option Char) : Bool :=
  current.isDigit != previous.isDigit
    || (current.isUpper && previous.isLower)
    || (current.isUpper && previous.isUpper && next.any Char.isLower)

/-- The words of one run: it is cut at the edges of digits, before a capital after a lower-case
letter, and before the last capital of an acronym when a lower-case letter follows. -/
def wordsOfRun : List Char → List (List Char)
  | [] => []
  | [last] => [[last]]
  | previous :: current :: rest =>
      match wordsOfRun (current :: rest) with
      | [] => [[previous]]
      | word :: words =>
          if isWordEdge previous current rest.head? then [previous] :: word :: words
          else (previous :: word) :: words

/-- The words of a text. -/
def words [Transliteration] (text : List Char) : List (List Char) :=
  (runs text).flatMap wordsOfRun

/-- The words of a text as one camel-case identifier. -/
def camelCase [Transliteration] (text : List Char) : List Char :=
  match (words text).map (·.map Char.toLower) with
  | [] => []
  | first :: rest => first ++ rest.flatMap capitalize

/-- The first name free among a base followed by a number, from `number` on, that is not used.
The tries bound how many numbers may be taken. -/
def firstFree (base : String) (used : List String) : Nat → Nat → String
  | 0, number => base ++ toString number
  | tries + 1, number =>
      if used.contains (base ++ toString number) then firstFree base used tries (number + 1)
      else base ++ toString number

/-- The name itself when it is not used, else the name followed by the least number from two on
that frees it. Each used name takes at most one number, so their count bounds the search. -/
def distinguish (base : String) (used : List String) : String :=
  if used.contains base then firstFree base used used.length 2 else base

/-- Hands out names in turn, each distinguished from those handed out before. -/
def distinguishAll : List String → List String → List String
  | _, [] => []
  | used, name :: rest =>
      let assigned := distinguish name used
      assigned :: distinguishAll (assigned :: used) rest

end ApiCatalog.Identifier
