import ApiCatalog.Command.Actions
import ApiCatalog.Terminal.PlainDrawing
import ApiCatalog.Text.Spellings

/-!
# Running commands

The program runs with a table of spellings and with plain drawings. Nothing else depends on them.
-/

namespace ApiCatalog

instance : Transliteration := Text.tabulated

instance : Drawing := Table.plainDrawing

end ApiCatalog
