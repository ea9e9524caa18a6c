/-!
# UTF-8

Bytes as characters. Bytes that form no character are kept apart as strays, each the longest start
of a character that the bytes after it do not complete, so that what follows is read undisturbed.
-/

namespace ApiCatalog.Text

/-- What bytes stand for. -/
inductive Glyph where
  /-- A character. -/
  | char (character : Char)
  /-- Bytes that form no character, and how many they are. -/
  | stray (bytes : Nat)
  deriving DecidableEq, Repr

/-- How many bytes a glyph takes. -/
def Glyph.size : Glyph → Nat
  | .char character => character.utf8Size
  | .stray bytes => bytes

/-- A character whose first bytes have been read. -/
structure Pending where
  /-- The bits read so far. -/
  code : Nat
  /-- The least byte that may come next. -/
  low : UInt8
  /-- The greatest byte that may come next. -/
  high : UInt8
  /-- How many bytes are needed after the next one. -/
  more : Nat
  /-- How many bytes have been read. -/
  read : Nat
  deriving DecidableEq

/-- The glyph a byte completes on its own, or the character it starts. -/
def startGlyph (byte : UInt8) : Glyph ⊕ Pending :=
  let code := byte.toNat
  if byte < 0x80 then .inl (.char (Char.ofNat code))
  else if byte < 0xC2 then .inl (.stray 1)
  else if byte < 0xE0 then .inr ⟨code - 0xC0, 0x80, 0xBF, 0, 1⟩
  else if byte = 0xE0 then .inr ⟨0, 0xA0, 0xBF, 1, 1⟩
  else if byte = 0xED then .inr ⟨0xD, 0x80, 0x9F, 1, 1⟩
  else if byte < 0xF0 then .inr ⟨code - 0xE0, 0x80, 0xBF, 1, 1⟩
  else if byte = 0xF0 then .inr ⟨0, 0x90, 0xBF, 2, 1⟩
  else if byte < 0xF4 then .inr ⟨code - 0xF0, 0x80, 0xBF, 2, 1⟩
  else if byte = 0xF4 then .inr ⟨4, 0x80, 0x8F, 2, 1⟩
  else .inl (.stray 1)

/-- The glyphs of bytes, after the first bytes of a character if one is pending. -/
def glyphsFrom : Option Pending → List UInt8 → List Glyph
  | none, [] => []
  | some pending, [] => [.stray pending.read]
  | none, byte :: rest =>
      match startGlyph byte with
      | .inl glyph => glyph :: glyphsFrom none rest
      | .inr pending => glyphsFrom (some pending) rest
  | some pending, byte :: rest =>
      if pending.low ≤ byte ∧ byte ≤ pending.high then
        let code := pending.code * 64 + (byte.toNat - 0x80)
        match pending.more with
        | 0 => .char (Char.ofNat code) :: glyphsFrom none rest
        | more + 1 => glyphsFrom (some ⟨code, 0x80, 0xBF, more, pending.read + 1⟩) rest
      else
        .stray pending.read ::
          match startGlyph byte with
          | .inl glyph => glyph :: glyphsFrom none rest
          | .inr next => glyphsFrom (some next) rest

/-- The glyphs of bytes. -/
def glyphs (bytes : List UInt8) : List Glyph :=
  glyphsFrom none bytes

/-- The characters of bytes, with a replacement character for every stray. -/
def decodeLossy (bytes : List UInt8) : List Char :=
  (glyphs bytes).map fun
    | .char character => character
    | .stray _ => '\uFFFD'

/-- The bytes of a text. -/
def encode (text : List Char) : List UInt8 :=
  text.flatMap String.utf8EncodeChar

end ApiCatalog.Text
