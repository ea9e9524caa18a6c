import ApiCatalog.Proofs.TextOrder

/-!
# Bytes of characters

The bytes of a text are read as its characters, by `glyphs_encode`. The first byte of a character
says how many follow and bounds the next one, and every byte that follows adds six bits. Bytes that
end with a character are read alike whatever follows them, by `glyphs_append`.
-/

namespace ApiCatalog.Text

/-! ## First bytes -/

theorem startGlyph_one : ∀ code < 0x80,
    startGlyph (UInt8.ofNat code) = .inl (.char (Char.ofNat code)) := by
  decide

theorem startGlyph_two : ∀ bits < 32, 2 ≤ bits →
    startGlyph (UInt8.ofNat (bits + 0xC0)) = .inr ⟨bits, 0x80, 0xBF, 0, 1⟩ := by
  decide

theorem startGlyph_three : ∀ bits < 16, startGlyph (UInt8.ofNat (bits + 0xE0)) =
    .inr ⟨bits, if bits = 0 then 0xA0 else 0x80, if bits = 0xD then 0x9F else 0xBF, 1, 1⟩ := by
  decide

theorem startGlyph_four : ∀ bits < 5, startGlyph (UInt8.ofNat (bits + 0xF0)) =
    .inr ⟨bits, if bits = 0 then 0x90 else 0x80, if bits = 4 then 0x8F else 0xBF, 2, 1⟩ := by
  decide

/-! ## Bytes that follow -/

/-- The byte that carries six further bits of a character. -/
def continuation (bits : Nat) : UInt8 :=
  UInt8.ofNat (bits % 64 + 0x80)

theorem toNat_continuation (bits : Nat) : (continuation bits).toNat = bits % 64 + 0x80 :=
  toNat_byte (by omega)

/-- A byte in the bounds of a pending character carries six of its bits. -/
theorem glyphsFrom_continuation {pending : Pending} {bits : Nat} (rest : List UInt8)
    (low : pending.low.toNat ≤ bits % 64 + 0x80) (high : bits % 64 + 0x80 ≤ pending.high.toNat) :
    glyphsFrom (some pending) (continuation bits :: rest) =
      match pending.more with
      | 0 => .char (Char.ofNat (pending.code * 64 + bits % 64)) :: glyphsFrom none rest
      | more + 1 =>
          glyphsFrom (some ⟨pending.code * 64 + bits % 64, 0x80, 0xBF, more, pending.read + 1⟩)
            rest := by
  have inside : pending.low ≤ continuation bits ∧ continuation bits ≤ pending.high := by
    rw [UInt8.le_iff_toNat_le, UInt8.le_iff_toNat_le, toNat_continuation]
    exact ⟨low, high⟩
  obtain ⟨code, lowest, highest, more, read⟩ := pending
  cases more with
  | zero =>
      rw [glyphsFrom, if_pos inside]
      dsimp only
      rw [toNat_continuation, Nat.add_sub_cancel]
  | succ more =>
      rw [glyphsFrom, if_pos inside]
      dsimp only
      rw [toNat_continuation, Nat.add_sub_cancel]

/-- Most bytes that follow are bounded only by having six bits. -/
theorem glyphsFrom_unbounded {code bits more read : Nat} (rest : List UInt8) :
    glyphsFrom (some ⟨code, 0x80, 0xBF, more, read⟩) (continuation bits :: rest) =
      match more with
      | 0 => .char (Char.ofNat (code * 64 + bits % 64)) :: glyphsFrom none rest
      | more + 1 =>
          glyphsFrom (some ⟨code * 64 + bits % 64, 0x80, 0xBF, more, read + 1⟩) rest := by
  have low : 0x80 ≤ bits % 64 + 0x80 := Nat.le_add_left _ _
  have high : bits % 64 + 0x80 ≤ 0xBF := by omega
  exact glyphsFrom_continuation rest low high

theorem glyphsFrom_two {code : Nat} (low : 0x80 ≤ code) (high : code < 0x800)
    (rest : List UInt8) :
    glyphsFrom none (UInt8.ofNat (code / 64 + 0xC0) :: continuation code :: rest) =
      .char (Char.ofNat code) :: glyphsFrom none rest := by
  rw [glyphsFrom, startGlyph_two (code / 64) (by omega) (by omega)]
  dsimp only
  rw [glyphsFrom_unbounded rest, Nat.div_add_mod']

theorem glyphsFrom_three {code : Nat} (low : 0x800 ≤ code) (high : code < 0x10000)
    (noSurrogate : code < 0xD800 ∨ 0xDFFF < code) (rest : List UInt8) :
    glyphsFrom none (UInt8.ofNat (code / 4096 + 0xE0) :: continuation (code / 64) ::
        continuation code :: rest) =
      .char (Char.ofNat code) :: glyphsFrom none rest := by
  have above : (if code / 4096 = 0 then 0xA0 else 0x80 : UInt8).toNat ≤
      code / 64 % 64 + 0x80 := by
    split
    · show 0xA0 ≤ _
      omega
    · show 0x80 ≤ _
      omega
  have below : code / 64 % 64 + 0x80 ≤
      (if code / 4096 = 0xD then 0x9F else 0xBF : UInt8).toNat := by
    split
    · show _ ≤ 0x9F
      omega
    · show _ ≤ 0xBF
      omega
  rw [glyphsFrom, startGlyph_three (code / 4096) (by omega)]
  dsimp only
  rw [glyphsFrom_continuation _ above below]
  dsimp only
  rw [glyphsFrom_unbounded rest]
  dsimp only
  congr 3
  omega

theorem glyphsFrom_four {code : Nat} (low : 0x10000 ≤ code) (high : code < 0x110000)
    (rest : List UInt8) :
    glyphsFrom none (UInt8.ofNat (code / 262144 + 0xF0) :: continuation (code / 4096) ::
        continuation (code / 64) :: continuation code :: rest) =
      .char (Char.ofNat code) :: glyphsFrom none rest := by
  have above : (if code / 262144 = 0 then 0x90 else 0x80 : UInt8).toNat ≤
      code / 4096 % 64 + 0x80 := by
    split
    · show 0x90 ≤ _
      omega
    · show 0x80 ≤ _
      omega
  have below : code / 4096 % 64 + 0x80 ≤
      (if code / 262144 = 4 then 0x8F else 0xBF : UInt8).toNat := by
    split
    · show _ ≤ 0x8F
      omega
    · show _ ≤ 0xBF
      omega
  rw [glyphsFrom, startGlyph_four (code / 262144) (by omega)]
  dsimp only
  rw [glyphsFrom_continuation _ above below]
  dsimp only
  rw [glyphsFrom_unbounded]
  dsimp only
  rw [glyphsFrom_unbounded rest]
  dsimp only
  congr 3
  omega

/-! ## Whole characters -/

/-- The bytes of a character are read as this character. -/
theorem glyphsFrom_utf8EncodeChar (character : Char) (rest : List UInt8) :
    glyphsFrom none (String.utf8EncodeChar character ++ rest) =
      .char character :: glyphsFrom none rest := by
  have same : Char.ofNat character.val.toNat = character := Char.ofNat_toNat character
  have valid := character.valid
  simp only [UInt32.isValidChar, Nat.isValidChar] at valid
  unfold String.utf8EncodeChar
  generalize character.val.toNat = code at *
  subst same
  dsimp only
  split
  · rw [List.singleton_append, glyphsFrom, startGlyph_one code (by omega)]
  -- The encoder masks the bits of a first byte, which has no effect in the range of each length.
  split
  · have leading : code / 64 % 32 = code / 64 := by omega
    rw [leading]
    exact glyphsFrom_two (by omega) (by omega) rest
  split
  · have leading : code / 4096 % 16 = code / 4096 := by omega
    rw [leading]
    exact glyphsFrom_three (by omega) (by omega) (by omega) rest
  · have leading : code / 262144 % 8 = code / 262144 := by omega
    rw [leading]
    exact glyphsFrom_four (by omega) (by omega) rest

/-- The bytes of a text are read as its characters. -/
theorem glyphs_encode (text : List Char) : glyphs (encode text) = text.map Glyph.char := by
  induction text with
  | nil => rfl
  | cons character rest induction =>
      rw [encode, List.flatMap_cons, glyphs, glyphsFrom_utf8EncodeChar]
      exact congrArg (_ :: ·) induction

theorem decodeLossy_encode (text : List Char) : decodeLossy (encode text) = text := by
  rw [decodeLossy, glyphs_encode, List.map_map]
  exact List.map_id text

/-! ## Bytes before others -/

/-- What a byte completes: nothing if it starts or continues a character, or strays with a glyph
after them, and nothing is pending after a character. -/
inductive Completed : List Glyph → Option Pending → Prop
  | nothing (pending : Pending) : Completed [] (some pending)
  | glyph (character : Char) : Completed [.char character] none
  | stray (bytes : Nat) (next : Option Pending) : Completed [.stray bytes] next
  | both (bytes : Nat) (glyph : Glyph) : Completed [.stray bytes, glyph] none

theorem exists_completed (pending : Option Pending) (byte : UInt8) :
    ∃ out next, Completed out next ∧
      ∀ rest, glyphsFrom pending (byte :: rest) = out ++ glyphsFrom next rest := by
  cases pending with
  | none =>
      cases start : startGlyph byte with
      | inl glyph =>
          refine ⟨[glyph], none, ?_, fun rest => by rw [glyphsFrom, start]; rfl⟩
          cases glyph with
          | char character => exact .glyph character
          | stray bytes => exact .stray bytes none
      | inr next => exact ⟨[], some next, .nothing next, fun rest => by rw [glyphsFrom, start]; rfl⟩
  | some pending =>
      by_cases inside : pending.low ≤ byte ∧ byte ≤ pending.high
      · cases more : pending.more with
        | zero => exact ⟨_, none, .glyph _, fun rest => by rw [glyphsFrom, if_pos inside, more]; rfl⟩
        | succ more' =>
            exact ⟨[], _, .nothing _, fun rest => by rw [glyphsFrom, if_pos inside, more]; rfl⟩
      · cases start : startGlyph byte with
        | inl glyph =>
            exact ⟨_, none, .both _ glyph, fun rest => by
              rw [glyphsFrom, if_neg inside, start]; rfl⟩
        | inr next =>
            exact ⟨_, some next, .stray _ _, fun rest => by
              rw [glyphsFrom, if_neg inside, start]; rfl⟩

theorem glyphsFrom_eq_nil {pending : Option Pending} {bytes : List UInt8}
    (nothing : glyphsFrom pending bytes = []) : pending = none ∧ bytes = [] := by
  induction bytes generalizing pending with
  | nil =>
      cases pending with
      | none => exact ⟨rfl, rfl⟩
      | some pending => cases nothing
  | cons byte bytes induction =>
      obtain ⟨out, next, completed, step⟩ := exists_completed pending byte
      rw [step] at nothing
      obtain ⟨rfl, later⟩ := List.append_eq_nil_iff.mp nothing
      obtain ⟨rfl, _⟩ := induction later
      cases completed

/-- Up to a character that bytes complete, their glyphs do not depend on the bytes that follow. -/
theorem exists_append_of_glyphsFrom {pending : Option Pending} {bytes : List UInt8}
    {before after : List Glyph} {character : Char}
    (split : glyphsFrom pending bytes = before ++ .char character :: after) :
    ∃ first second, bytes = first ++ second ∧
      ∀ more, glyphsFrom pending (first ++ more) = before ++ .char character :: glyphs more := by
  induction bytes generalizing pending before with
  | nil =>
      cases pending with
      | none => simp [glyphsFrom] at split
      | some pending =>
          rw [glyphsFrom] at split
          cases before <;> simp at split
  | cons byte bytes induction =>
      obtain ⟨out, next, completed, step⟩ := exists_completed pending byte
      have later {front : List Glyph} (same : before = out ++ front)
          (split : glyphsFrom next bytes = front ++ .char character :: after) :
          ∃ first second, byte :: bytes = first ++ second ∧
            ∀ more, glyphsFrom pending (first ++ more) =
              before ++ .char character :: glyphs more := by
        obtain ⟨first, second, rfl, front⟩ := induction split
        exact ⟨byte :: first, second, rfl, fun more => by
          rw [List.cons_append, step, front, same, List.append_assoc]⟩
      have here (same : out = before ++ [.char character]) (complete : next = none) :
          ∃ first second, byte :: bytes = first ++ second ∧
            ∀ more, glyphsFrom pending (first ++ more) =
              before ++ .char character :: glyphs more :=
        ⟨[byte], bytes, rfl, fun more => by
          rw [List.singleton_append, step, complete, same, glyphs, List.append_assoc]
          rfl⟩
      rw [step] at split
      cases completed with
      | nothing next => exact later rfl split
      | glyph other =>
          cases before with
          | nil =>
              obtain ⟨rfl, _⟩ : other = character ∧ _ := by simpa using split
              exact here rfl rfl
          | cons glyph before =>
              obtain ⟨rfl, others⟩ := List.cons.inj split
              exact later rfl others
      | stray bytes next =>
          cases before with
          | nil => simp at split
          | cons glyph before =>
              obtain ⟨rfl, others⟩ := List.cons.inj split
              exact later rfl others
      | both bytes glyph =>
          rcases before with _ | ⟨first, _ | ⟨second, before⟩⟩
          · simp at split
          · obtain ⟨rfl, rfl, _⟩ : _ ∧ glyph = _ ∧ _ := by simpa using split
            exact here rfl rfl
          · obtain ⟨rfl, rfl, others⟩ : _ ∧ glyph = _ ∧ _ := by simpa using split
            exact later rfl others

/-- Bytes that end with a character are followed by the glyphs of further bytes. -/
theorem glyphs_append {bytes : List UInt8} {before : List Glyph} {character : Char}
    (ends : glyphs bytes = before ++ [.char character]) (more : List UInt8) :
    glyphs (bytes ++ more) = glyphs bytes ++ glyphs more := by
  obtain ⟨first, second, rfl, front⟩ := exists_append_of_glyphsFrom ends
  have nothing : glyphs second = [] := by
    have whole := front second
    rw [← glyphs, ends] at whole
    simpa using whole.symm
  obtain ⟨_, rfl⟩ := glyphsFrom_eq_nil nothing
  rw [List.append_nil] at ends ⊢
  rw [glyphs, front, ends, List.append_assoc]
  rfl

end ApiCatalog.Text
