import ApiCatalog.Terminal.Palette

/-!
# Tables of the terminal

What a table holds and how it is set off: a header and a role for every column, and a cell for every
column in every row. How a table is drawn on a screen of some width is left open.
-/

namespace ApiCatalog

/-- A column of a table. Its header is a heading. -/
structure Column where
  /-- The header. -/
  header : String
  /-- What the cells are. -/
  role : Role
  /-- Whether the cells are bold. -/
  isBold : Bool := false
  /-- Whether the cells stand at the right end of the column. The header never does. -/
  alignsRight : Bool := false
  deriving DecidableEq, Repr

/-- A table. -/
structure Table where
  /-- The columns. -/
  columns : List Column
  /-- The rows, with a cell for every column. -/
  rows : List (List String)
  deriving DecidableEq, Repr

/-- Where tables are shown. -/
structure Screen where
  /-- Whether it is a terminal. -/
  isTerminal : Bool
  /-- How many characters fit on a line. -/
  width : Nat
  deriving DecidableEq, Repr

/-- A way to draw tables. -/
class Drawing where
  /-- The text of a table on a screen, in the colors of a palette. -/
  draw : Screen → Palette → Table → String

end ApiCatalog
