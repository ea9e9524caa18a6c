import ApiCatalog.Text.Utf8

/-!
# Encodings

The characters of a YAML text. A mark at its start tells one of three encodings; without it, the text
is in UTF-8. Control characters may not stand in a text.
-/

namespace ApiCatalog.Yaml

open Text

/-- Whether a character may stand in a text. -/
def isPrintable (character : Char) : Bool :=
  let code := character.toNat
  code == 0x09 || code == 0x0A || code == 0x0D || (0x20 ≤ code && code ≤ 0x7E) || code == 0x85 ||
    (0xA0 ≤ code && code ≤ 0xFFFD) || 0x10000 ≤ code

/-- The characters of bytes in UTF-8. -/
def utf8? (bytes : List UInt8) : Option (List Char) :=
  (glyphs bytes).mapM fun
    | .char character => some character
    | .stray _ => none

/-- The code units of bytes in UTF-16. -/
def units? (bigEndian : Bool) : List UInt8 → Option (List Nat)
  | [] => some []
  | [_] => none
  | first :: second :: rest => do
      let (high, low) := if bigEndian then (first, second) else (second, first)
      return (high.toNat * 256 + low.toNat) :: (← units? bigEndian rest)

/-- The characters of code units in UTF-16. -/
def ofUnits? : List Nat → Option (List Char)
  | [] => some []
  | unit :: rest =>
      if 0xDC00 ≤ unit ∧ unit < 0xE000 then none
      else if 0xD800 ≤ unit ∧ unit < 0xDC00 then
        match rest with
        | low :: rest => do
            if 0xDC00 ≤ low ∧ low < 0xE000 then
              let code := 0x10000 + (unit - 0xD800) * 0x400 + (low - 0xDC00)
              return Char.ofNat code :: (← ofUnits? rest)
            else none
        | [] => none
      else do return Char.ofNat unit :: (← ofUnits? rest)

/-- The characters of a text, if all of them may stand in one. -/
def characters? (bytes : List UInt8) : Option (List Char) := do
  let characters ←
    match bytes with
    | 0xFF :: 0xFE :: rest => units? false rest >>= ofUnits?
    | 0xFE :: 0xFF :: rest => units? true rest >>= ofUnits?
    | 0xEF :: 0xBB :: 0xBF :: rest => utf8? rest
    | _ => utf8? bytes
  if characters.all isPrintable then return characters else none

end ApiCatalog.Yaml
