import ApiCatalog.OperationName
import ApiCatalog.Terminal.Palette

/-!
# Commands

What the program can be asked to do, and how it is to show its results.
-/

namespace ApiCatalog

/-- When the program uses color. -/
inductive ColorMode where
  /-- Always. -/
  | always
  /-- If the output goes to a terminal. -/
  | auto
  /-- Never. -/
  | never
  deriving DecidableEq, Repr

/-- Which theme the program uses. -/
inductive ThemeMode where
  /-- The dark one. -/
  | dark
  /-- The light one. -/
  | light
  /-- The one that the terminal tells. -/
  | auto
  deriving DecidableEq, Repr

/-- The order to make a catalog. -/
structure CatalogOrder where
  /-- The path of the API description. -/
  input : String
  /-- The path of the catalog. -/
  output : String
  /-- Where the names of operations come from. -/
  naming : Naming := .pathDerived
  /-- The definitions to resolve, as they are given. -/
  only : Option (List String) := none
  /-- Whether to report details. -/
  verbose : Bool := false
  /-- Whether to report nothing. -/
  quiet : Bool := false
  deriving DecidableEq, Repr

/-- What the program is asked to do. -/
inductive Command where
  /-- List the operations of the description at a path. -/
  | listOperations (input : String) (naming : Naming)
  /-- List the models of the description at a path. -/
  | listModels (input : String)
  /-- Make a catalog. -/
  | makeCatalog (order : CatalogOrder)
  deriving DecidableEq, Repr

/-- A command, and how to show its results. -/
structure Invocation where
  /-- When to use color. -/
  color : ColorMode := .auto
  /-- Which theme to use. -/
  theme : ThemeMode := .auto
  /-- The command. -/
  command : Command
  deriving DecidableEq, Repr

/-- The colors for an invocation, given whether the output goes to a terminal and what the terminal
tells of its colors. -/
def Invocation.palette (invocation : Invocation) (onTerminal : Bool) (setting : Option String) :
    Palette where
  enabled :=
    match invocation.color with
    | .always => true
    | .never => false
    | .auto => onTerminal
  theme :=
    match invocation.theme with
    | .dark => .dark
    | .light => .light
    | .auto => Theme.ofSetting setting

end ApiCatalog
