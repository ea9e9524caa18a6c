/-!
# Hexadecimal digits

The digits of base sixteen. Main statement: a written digit reads back as its value, in either case.
-/

namespace ApiCatalog.Text

/-- The value of a hexadecimal digit. -/
def hexValue? (character : Char) : Option Nat :=
  if character.isDigit then some (character.toNat - 48)
  else if 'a' ≤ character ∧ character ≤ 'f' then some (character.toNat - 87)
  else if 'A' ≤ character ∧ character ≤ 'F' then some (character.toNat - 55)
  else none

/-- A hexadecimal digit in lower case. -/
def hexDigit (value : Nat) : Char :=
  if value < 10 then Char.ofNat (48 + value) else Char.ofNat (87 + value)

theorem hexValue?_hexDigit : ∀ value < 16, hexValue? (hexDigit value) = some value := by
  decide

theorem hexValue?_toUpper_hexDigit :
    ∀ value < 16, hexValue? (hexDigit value).toUpper = some value := by
  decide

end ApiCatalog.Text
