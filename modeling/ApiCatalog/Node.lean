import ApiCatalog.Json
import ApiCatalog.Text.Quoted

/-!
# Document trees

The tree a text describes, before any meaning is given to it. A text that cannot be read to its end
still gives the tree up to the place where it breaks off, so that whoever takes values out of the
tree meets the fault exactly when they come to that place.
-/

namespace ApiCatalog

/-- Why a text cannot be read on. -/
inductive Fault where
  /-- The text is not well formed. -/
  | malformed
  /-- The text ends too early. -/
  | truncated
  deriving DecidableEq, Repr

/-- The place where a text breaks off. A careless reader, who only skips a value, may see another
fault there than one who needs it. -/
structure Break where
  /-- The fault for a reader who needs the value. -/
  needed : Fault
  /-- The fault for a reader who skips the value. -/
  skipped : Fault
  deriving DecidableEq, Repr

/-- A break with the same fault for every reader. -/
def Break.ofFault (fault : Fault) : Break := ⟨fault, fault⟩

/-- The type a tag asks for. -/
inductive Tag where
  /-- A truth value. -/
  | boolean
  /-- A whole number. -/
  | integer
  /-- A double-precision number. -/
  | float
  /-- The null value. -/
  | null
  /-- A type of the document's own. -/
  | application
  /-- Any other type. -/
  | other
  deriving DecidableEq, Repr

/-- How a word is written. -/
inductive Style where
  /-- Without quotes. -/
  | plain
  /-- As a block with its line breaks. -/
  | literal
  /-- Between quotes or as a folded block. -/
  | quoted
  deriving DecidableEq, Repr

/-- A value without parts. -/
inductive Scalar where
  /-- The null value. -/
  | null
  /-- A truth value. -/
  | boolean (flag : Bool)
  /-- A number. -/
  | numeral (numeral : Numeral)
  /-- A text, or the fault that keeps its characters from forming one. -/
  | text (content : Except Fault String)
  /-- A word whose type follows from its spelling, its style and its tag. -/
  | word (content : String) (style : Style) (tag : Option Tag)

/-- How a list or table ends. -/
inductive Ending where
  /-- With its closing mark. -/
  | closed
  /-- It breaks off where a separator or the closing mark should stand. -/
  | cut (place : Break)
  /-- It breaks off after a separator. -/
  | dangling (place : Break)
  /-- The last part breaks off before the end is reached. -/
  | unreached
  deriving DecidableEq, Repr

/-- A document tree. -/
inductive Node where
  /-- A value without parts. -/
  | scalar (value : Scalar)
  /-- A list of values. -/
  | list (items : List Node) (ending : Ending)
  /-- Pairs of a key and a value. -/
  | table (members : List (Node × Node)) (ending : Ending)
  /-- A list or table of a type of the document's own. -/
  | tagged (content : Node)
  /-- Another place of the document, by its number. -/
  | alias (anchor : Nat)
  /-- The place where the text breaks off. -/
  | broken (place : Break)

/-- The fault met at the end of a list or table that is skipped. -/
def Ending.skipFault? : Ending → Option Fault
  | .cut place | .dangling place => some place.skipped
  | .closed | .unreached => none

mutual

/-- The fault met when a tree is skipped. -/
def Node.skipFault? : Node → Option Fault
  | .list items ending => (listSkipFault? items).or ending.skipFault?
  | .table members ending => (tableSkipFault? members).or ending.skipFault?
  | .tagged content => content.skipFault?
  | .broken place => some place.skipped
  | .scalar _ | .alias _ => none

/-- The fault met when the items of a list are skipped. -/
def listSkipFault? : List Node → Option Fault
  | [] => none
  | item :: rest => item.skipFault?.or (listSkipFault? rest)

/-- The fault met when the members of a table are skipped. -/
def tableSkipFault? : List (Node × Node) → Option Fault
  | [] => none
  | (key, value) :: rest => key.skipFault?.or (value.skipFault?.or (tableSkipFault? rest))

end

end ApiCatalog
