import ApiCatalog.Node
import ApiCatalog.Text.Hexadecimal
import ApiCatalog.Text.Utf8

/-!
# Reading JSON

A JSON text as a document tree. The reader never fails: where the text cannot be read on, the tree
breaks off. What follows the value is left over.
-/

namespace ApiCatalog.Json

open Text

/-- A text without the blanks before its first token. -/
def skipBlanks : List Glyph → List Glyph
  | .char ' ' :: rest | .char '\n' :: rest | .char '\t' :: rest | .char '\r' :: rest =>
      skipBlanks rest
  | rest => rest

/-- A piece of the inside of a string. -/
inductive Piece where
  /-- A character. -/
  | char (character : Char)
  /-- A code unit given by its number. -/
  | unit (code : Nat)
  /-- Bytes that form no character. -/
  | stray
  deriving DecidableEq, Repr

/-- The code unit of four hexadecimal digits. -/
def unit? : Glyph → Glyph → Glyph → Glyph → Option Nat
  | .char first, .char second, .char third, .char fourth => do
      return ((← hexValue? first) * 16 + (← hexValue? second)) * 256 +
        ((← hexValue? third) * 16 + (← hexValue? fourth))
  | _, _, _, _ => none

/-- The character of a short escape. -/
def unescape? : Char → Option Char
  | '"' => some '"'
  | '\\' => some '\\'
  | '/' => some '/'
  | 'b' => some '\x08'
  | 'f' => some '\x0c'
  | 'n' => some '\n'
  | 'r' => some '\r'
  | 't' => some '\t'
  | _ => none

/-- How a sequence of parts ends: what follows it, or the fault that breaks it off. -/
abbrev Rest := Except Fault (List Glyph)

/-- The pieces of a string after its opening quote. -/
def readPieces : List Glyph → List Piece × Rest
  | [] => ([], .error .truncated)
  | .char '"' :: rest => ([], .ok rest)
  | .char '\\' :: .char 'u' :: first :: second :: third :: fourth :: rest =>
      match unit? first second third fourth with
      | some code =>
          let (pieces, ending) := readPieces rest
          (.unit code :: pieces, ending)
      | none => ([], .error .malformed)
  | .char '\\' :: .char 'u' :: rest =>
      let bytes := rest.foldl (fun bytes glyph => bytes + glyph.size) 0
      ([], .error (if bytes < 4 then .truncated else .malformed))
  | .char '\\' :: .char character :: rest =>
      match unescape? character with
      | some escaped =>
          let (pieces, ending) := readPieces rest
          (.char escaped :: pieces, ending)
      | none => ([], .error .malformed)
  | [.char '\\'] => ([], .error .truncated)
  | .char '\\' :: .stray _ :: _ => ([], .error .malformed)
  | .char character :: rest =>
      if character.toNat < 0x20 then ([], .error .malformed)
      else
        let (pieces, ending) := readPieces rest
        (.char character :: pieces, ending)
  | .stray _ :: rest =>
      let (pieces, ending) := readPieces rest
      (.stray :: pieces, ending)

/-- Whether a code unit opens a surrogate pair. -/
def isHigh (code : Nat) : Bool := 0xD800 ≤ code && code ≤ 0xDBFF

/-- Whether a code unit closes a surrogate pair. -/
def isLow (code : Nat) : Bool := 0xDC00 ≤ code && code ≤ 0xDFFF

/-- The character of a surrogate pair. -/
def pair (high low : Nat) : Char :=
  Char.ofNat (0x10000 + (high - 0xD800) * 0x400 + (low - 0xDC00))

/-- The characters of pieces. Surrogates must come in pairs, and `ending` is the fault after the last
piece if there is one. Stray bytes count last, after every other fault. -/
def joinPieces (ending : Option Fault) : List Piece → Except Fault (List Char)
  | [] =>
      match ending with
      | none => .ok []
      | some fault => .error fault
  | .char character :: rest => (character :: ·) <$> joinPieces ending rest
  | .stray :: rest => joinPieces ending rest >>= fun _ => .error .malformed
  | .unit code :: rest =>
      if isLow code then .error .malformed
      else if isHigh code then
        match rest with
        | [] => .error (ending.getD .malformed)
        | .unit next :: rest =>
            if isLow next then (pair code next :: ·) <$> joinPieces ending rest
            else .error .malformed
        | _ => .error .malformed
      else (Char.ofNat code :: ·) <$> joinPieces ending rest

/-- A string after its opening quote: the text with what follows it, or the place where the string
breaks off. -/
def readString (text : List Glyph) : Except Break (Scalar × List Glyph) :=
  match readPieces text with
  | (pieces, .ok rest) => .ok (.text (String.ofList <$> joinPieces none pieces), rest)
  | (pieces, .error fault) =>
      match joinPieces (some fault) pieces with
      | .ok _ => .error ⟨fault, fault⟩
      | .error needed => .error ⟨needed, fault⟩

/-- The decimal digits at the start of a text, and what follows them. -/
def takeDigits : List Glyph → List Char × List Glyph
  | .char character :: rest =>
      if character.isDigit then
        let (digits, rest) := takeDigits rest
        (character :: digits, rest)
      else
        ([], .char character :: rest)
  | rest => ([], rest)

/-- The break of a numeral that lacks a digit: only who needs it sees that the text ends there. -/
def lacksDigit : List Glyph → Break
  | [] => ⟨.truncated, .malformed⟩
  | _ => .ofFault .malformed

/-- The digits at the start of a text, of which there must be one. -/
def needDigits (text : List Glyph) : Except Break (List Char × List Glyph) :=
  match takeDigits text with
  | ([], rest) => .error (lacksDigit rest)
  | digits => .ok digits

/-- The digits before the point of a numeral. No other digit follows a zero at the start. -/
def readWhole : List Glyph → Except Break (List Char × List Glyph)
  | .char '0' :: rest =>
      match takeDigits rest with
      | ([], rest) => .ok (['0'], rest)
      | _ => .error (.ofFault .malformed)
  | text => needDigits text

/-- The digits after the point of a numeral, none if there is no point. -/
def readFraction : List Glyph → Except Break (List Char × List Glyph)
  | .char '.' :: rest => needDigits rest
  | rest => .ok ([], rest)

/-- A sign, whether it is a minus sign, and what follows. -/
def takeSign : List Glyph → Bool × List Glyph
  | .char '+' :: rest => (false, rest)
  | .char '-' :: rest => (true, rest)
  | rest => (false, rest)

/-- The exponent of a numeral. -/
def readExponent : List Glyph → Except Break (Option (Bool × List Char) × List Glyph)
  | .char 'e' :: rest | .char 'E' :: rest => do
      let (negative, rest) := takeSign rest
      let (digits, rest) ← needDigits rest
      return (some (negative, digits), rest)
  | rest => .ok (none, rest)

/-- A numeral after its minus sign, if it has one. -/
def readNumeral (negative : Bool) (text : List Glyph) : Except Break (Scalar × List Glyph) := do
  let (whole, rest) ← readWhole text
  let (fraction, rest) ← readFraction rest
  let (exponent, rest) ← readExponent rest
  return (.numeral ⟨negative, whole, fraction, exponent⟩, rest)

/-- The rest of a literal whose first letter has been read. -/
def readLiteral (scalar : Scalar) : List Char → List Glyph → Except Break (Scalar × List Glyph)
  | [], rest => .ok (scalar, rest)
  | _ :: _, [] => .error (.ofFault .truncated)
  | letter :: letters, glyph :: rest =>
      if glyph = .char letter then readLiteral scalar letters rest
      else .error (.ofFault .malformed)

/-- A value without parts that starts with a given character. -/
def readScalar (first : Char) (rest : List Glyph) : Except Break (Scalar × List Glyph) :=
  match first with
  | 'n' => readLiteral .null ['u', 'l', 'l'] rest
  | 't' => readLiteral (.boolean true) ['r', 'u', 'e'] rest
  | 'f' => readLiteral (.boolean false) ['a', 'l', 's', 'e'] rest
  | '"' => readString rest
  | '-' => readNumeral true rest
  | other =>
      if other.isDigit then readNumeral false (.char other :: rest)
      else .error (.ofFault .malformed)

/-- A value read from a text: the tree with what follows it, or a tree that breaks off. -/
inductive Outcome where
  /-- The whole tree and what follows. -/
  | done (node : Node) (rest : List Glyph)
  /-- A tree that breaks off. -/
  | cut (node : Node)

/-- The parts of a list or table read from a text, and what follows its closing mark or how it
breaks off. -/
structure Parts (α : Type) where
  /-- The parts. -/
  parts : List α
  /-- What follows, or how the list or table breaks off. -/
  ending : Except Ending (List Glyph)

/-- Parts that start with one more. -/
def Parts.cons {α : Type} (part : α) (parts : Parts α) : Parts α :=
  { parts with parts := part :: parts.parts }

/-- Parts that break off at a fault. -/
def Parts.cut {α : Type} (fault : Fault) : Parts α :=
  ⟨[], .error (.cut (.ofFault fault))⟩

/-- Parts that break off after a separator. -/
def Parts.dangling {α : Type} (fault : Fault) : Parts α :=
  ⟨[], .error (.dangling (.ofFault fault))⟩

/-- A list or table made of parts. -/
def Parts.finish {α : Type} (build : List α → Ending → Node) (parts : Parts α) : Outcome :=
  match parts.ending with
  | .ok rest => .done (build parts.parts .closed) rest
  | .error ending => .cut (build parts.parts ending)

mutual

/-- Reads a value. The fuel bounds the steps, of which no more than three are taken for a glyph. -/
def readNode : Nat → List Glyph → Outcome
  | 0, _ => .cut (.broken (.ofFault .truncated))
  | fuel + 1, text =>
      match skipBlanks text with
      | [] => .cut (.broken (.ofFault .truncated))
      | .stray _ :: _ => .cut (.broken (.ofFault .malformed))
      | .char '[' :: rest => (readItems fuel rest).finish .list
      | .char '{' :: rest => (readMembers fuel rest).finish .table
      | .char first :: rest =>
          match readScalar first rest with
          | .ok (scalar, rest) => .done (.scalar scalar) rest
          | .error place => .cut (.broken place)

/-- Reads the items of a list after its opening bracket. -/
def readItems : Nat → List Glyph → Parts Node
  | 0, _ => .cut .truncated
  | fuel + 1, text =>
      match skipBlanks text with
      | [] => .cut .truncated
      | .char ']' :: rest => ⟨[], .ok rest⟩
      | text => readItem fuel text

/-- Reads an item of a list and those that follow it. -/
def readItem : Nat → List Glyph → Parts Node
  | 0, _ => .cut .truncated
  | fuel + 1, text =>
      match readNode fuel text with
      | .cut node => ⟨[node], .error .unreached⟩
      | .done node rest =>
          .cons node
            (match skipBlanks rest with
            | [] => .cut .truncated
            | .char ']' :: rest => ⟨[], .ok rest⟩
            | .char ',' :: rest =>
                match skipBlanks rest with
                | [] => .dangling .truncated
                | .char ']' :: _ => .dangling .malformed
                | text => readItem fuel text
            | _ => .cut .malformed)

/-- Reads the members of a table after its opening brace. -/
def readMembers : Nat → List Glyph → Parts (Node × Node)
  | 0, _ => .cut .truncated
  | fuel + 1, text =>
      match skipBlanks text with
      | [] => .cut .truncated
      | .char '}' :: rest => ⟨[], .ok rest⟩
      | .char '"' :: rest => readMember fuel rest
      | _ => .cut .malformed

/-- Reads a member of a table, after the opening quote of its key, and those that follow it. -/
def readMember : Nat → List Glyph → Parts (Node × Node)
  | 0, _ => .cut .truncated
  | fuel + 1, text =>
      match readString text with
      | .error place => ⟨[], .error (.cut place)⟩
      | .ok (key, rest) =>
          match skipBlanks rest with
          | [] => ⟨[(.scalar key, .broken (.ofFault .truncated))], .error .unreached⟩
          | .char ':' :: rest =>
              match readNode fuel rest with
              | .cut node => ⟨[(.scalar key, node)], .error .unreached⟩
              | .done node rest =>
                  .cons (.scalar key, node)
                    (match skipBlanks rest with
                    | [] => .cut .truncated
                    | .char '}' :: rest => ⟨[], .ok rest⟩
                    | .char ',' :: rest =>
                        match skipBlanks rest with
                        | [] => .dangling .truncated
                        | .char '"' :: rest => readMember fuel rest
                        | _ => .dangling .malformed
                    | _ => .cut .malformed)
          | _ => ⟨[(.scalar key, .broken (.ofFault .malformed))], .error .unreached⟩

end

/-- Reads the first value of a text. -/
def readText (text : List Glyph) : Outcome :=
  readNode (3 * text.length + 1) text

/-- The tree of an outcome. -/
def Outcome.node : Outcome → Node
  | .done node _ => node
  | .cut node => node

/-- Whether something other than blanks follows the value. -/
def Outcome.hasMore : Outcome → Bool
  | .done _ rest => !(skipBlanks rest).isEmpty
  | .cut _ => false

end ApiCatalog.Json
