import ApiCatalog.Command.Arguments
import ApiCatalog.Command.Listing
import ApiCatalog.Command.Making

/-!
# What commands do

The script of every command, and that of an invocation, for any transliteration and any drawing of
tables.
-/

namespace ApiCatalog

variable [Transliteration] [Drawing]

/-- What a command does. -/
def Command.script (screen : Screen) (palette : Palette) : Command → Script
  | .listOperations input naming =>
      .load input fun document => Listing.say screen palette (Listing.operations document naming)
  | .listModels input =>
      .load input fun document => Listing.say screen palette (Listing.models document)
  | .makeCatalog order => order.script palette

/-- The width of a screen that does not tell it. -/
def usualWidth : Nat := 80

/-- What an invocation does, given whether the output goes to a terminal, what the terminal tells of
its colors, and how wide it is. -/
def Invocation.script (invocation : Invocation) (onTerminal : Bool) (setting : Option String)
    (width : Nat := usualWidth) : Script :=
  invocation.command.script ⟨onTerminal, width⟩ (invocation.palette onTerminal setting)

end ApiCatalog
