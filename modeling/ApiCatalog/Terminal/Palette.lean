import ApiCatalog.Number.Numeral
import ApiCatalog.Text.Split

/-!
# Colors of the terminal

Every styled text has a role, and the theme of the terminal gives each role a color. Styled texts are
set off by control sequences even where color is off.
-/

namespace ApiCatalog

/-- The background of a terminal. -/
inductive Theme where
  /-- A dark background. -/
  | dark
  /-- A light background. -/
  | light
  deriving DecidableEq, Repr

namespace Theme

/-- The index of the background color that the last part of a terminal setting gives. -/
def background? (setting : List Char) : Option Nat :=
  let part := (Text.splitOn ';' setting).getLastD []
  let digits :=
    match part with
    | '+' :: rest => rest
    | other => other
  let index := digitsValue 10 digitValue digits
  if !digits.isEmpty && digits.all Char.isDigit && index < 256 then some index else none

/-- The theme that a terminal setting tells. It is light if the background color is one of the bright
ones. -/
def ofSetting (setting : Option String) : Theme :=
  match setting.bind fun text => background? text.toList with
  | some index => if 8 ≤ index then .light else .dark
  | none => .dark

end Theme

/-- What a styled text is. -/
inductive Role where
  /-- The time of a message. -/
  | timestamp
  /-- The label of a number. -/
  | heading
  /-- A name or a number. -/
  | name
  /-- The label of a detail. -/
  | method
  /-- A message. -/
  | text
  /-- A detail. -/
  | muted
  /-- The label of a warning. -/
  | warning
  /-- The message of a success. -/
  | success
  deriving DecidableEq, Repr

/-- A mixture of red, green and blue. -/
structure Shade where
  /-- The amount of red. -/
  red : Nat
  /-- The amount of green. -/
  green : Nat
  /-- The amount of blue. -/
  blue : Nat
  deriving DecidableEq, Repr

/-- The color of a role in a theme. -/
def Role.shade : Theme → Role → Shade
  | .dark, .timestamp => ⟨118, 166, 166⟩
  | .dark, .heading => ⟨217, 164, 4⟩
  | .dark, .name => ⟨242, 211, 56⟩
  | .dark, .method => ⟨166, 84, 55⟩
  | .dark, .text => ⟨191, 126, 4⟩
  | .dark, .muted => ⟨118, 166, 166⟩
  | .dark, .warning => ⟨214, 93, 72⟩
  | .dark, .success => ⟨118, 166, 166⟩
  | .light, .timestamp => ⟨92, 62, 38⟩
  | .light, .heading => ⟨176, 103, 66⟩
  | .light, .name => ⟨199, 146, 76⟩
  | .light, .method => ⟨211, 99, 70⟩
  | .light, .text => ⟨70, 42, 25⟩
  | .light, .muted => ⟨40, 111, 170⟩
  | .light, .warning => ⟨178, 48, 36⟩
  | .light, .success => ⟨34, 142, 90⟩

/-- The colors of a terminal. -/
structure Palette where
  /-- Whether color is on. -/
  enabled : Bool
  /-- The theme. -/
  theme : Theme
  deriving DecidableEq, Repr

namespace Palette

/-- The control sequence that sets the color of the text to the usual one. -/
def reset : String := "\x1b[39m"

/-- The control sequence that sets the color of the text to that of a role. -/
def start (palette : Palette) (role : Role) : String :=
  if palette.enabled then
    let shade := role.shade palette.theme
    "\x1b[38;2;" ++ toString shade.red ++ ";" ++ toString shade.green ++ ";" ++
      toString shade.blue ++ "m"
  else reset

/-- A styled text. -/
def paint (palette : Palette) (role : Role) (text : String) : String :=
  palette.start role ++ text ++ reset

end Palette

end ApiCatalog
