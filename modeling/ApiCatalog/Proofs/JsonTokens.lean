import ApiCatalog.Json.Reader

/-!
# Tokens of JSON

How the values without parts are written: the four kinds of literals, numerals and strings. The
reader takes from a text such a token and no other text, by `exists_token`, and it takes every token
if what follows does not continue a numeral, by `Token.readScalar`.
-/

namespace ApiCatalog.Json

open Text

/-- The glyphs of characters. -/
abbrev typed (text : List Char) : List Glyph := text.map Glyph.char

/-- The characters skipped between tokens. -/
def blanks : List Char := [' ', '\n', '\t', '\r']

/-! ## Strings -/

/-- The inside of a string, with the pieces it is written of. -/
inductive Inside : List Glyph → List Piece → Prop
  | empty : Inside [] []
  | plain {character : Char} {rest : List Glyph} {pieces : List Piece} :
      character ≠ '"' → character ≠ '\\' → 0x20 ≤ character.toNat → Inside rest pieces →
      Inside (.char character :: rest) (.char character :: pieces)
  | escape {mark character : Char} {rest : List Glyph} {pieces : List Piece} :
      unescape? mark = some character → Inside rest pieces →
      Inside (.char '\\' :: .char mark :: rest) (.char character :: pieces)
  | unit {first second third fourth : Glyph} {code : Nat} {rest : List Glyph}
      {pieces : List Piece} :
      unit? first second third fourth = some code → Inside rest pieces →
      Inside (.char '\\' :: .char 'u' :: first :: second :: third :: fourth :: rest)
        (.unit code :: pieces)
  | stray {bytes : Nat} {rest : List Glyph} {pieces : List Piece} :
      Inside rest pieces → Inside (.stray bytes :: rest) (.stray :: pieces)

/-- The text that pieces spell, or the fault that keeps them from spelling one. -/
def spelled (pieces : List Piece) : Scalar := .text (String.ofList <$> joinPieces none pieces)

theorem Inside.readPieces {inside : List Glyph} {pieces : List Piece}
    (written : Inside inside pieces) (rest : List Glyph) :
    readPieces (inside ++ .char '"' :: rest) = (pieces, .ok rest) := by
  induction written with
  | empty => rfl
  | plain noQuote noEscape printable _ induction =>
      rw [List.cons_append, readPieces.eq_def]
      split <;> simp_all
  | @escape mark character inside pieces escaped _ induction =>
      have noUnit : mark ≠ 'u' := by
        rintro rfl
        cases escaped
      simp [Json.readPieces, noUnit, escaped, induction]
  | unit code _ induction => simp only [List.cons_append, Json.readPieces, code, induction]
  | stray _ induction => simp only [List.cons_append, Json.readPieces, induction]

theorem exists_inside {text rest : List Glyph} {pieces : List Piece}
    (read : readPieces text = (pieces, .ok rest)) :
    ∃ inside, Inside inside pieces ∧ text = inside ++ .char '"' :: rest := by
  induction text using readPieces.induct generalizing pieces with
  | case2 after =>
      obtain ⟨rfl, same⟩ := Prod.mk.inj read
      obtain rfl := Except.ok.inj same
      exact ⟨[], .empty, rfl⟩
  | case3 first second third fourth after code found others ending step induction =>
      simp only [Json.readPieces, found, step, Prod.mk.injEq] at read
      obtain ⟨rfl, rfl⟩ := read
      obtain ⟨inside, written, rfl⟩ := induction step
      exact ⟨_, .unit found written, rfl⟩
  | case6 mark after _ noUnit character found others ending step induction =>
      simp only [Json.readPieces, found, step, Prod.mk.injEq] at read
      obtain ⟨rfl, rfl⟩ := read
      obtain ⟨inside, written, rfl⟩ := induction step
      exact ⟨_, .escape found written, rfl⟩
  | case11 character after noQuote _ _ escapes atEnd strays printable others ending step induction =>
      have noEscape : character ≠ '\\' := by
        rintro rfl
        rcases after with _ | ⟨next | bytes, after⟩
        · exact atEnd rfl rfl
        · exact escapes next after rfl rfl
        · exact strays bytes after rfl rfl
      rw [readPieces.eq_8 _ _ ‹_› ‹_› ‹_› ‹_› ‹_› ‹_›, if_neg printable, step] at read
      obtain ⟨rfl, rfl⟩ := Prod.mk.inj read
      obtain ⟨inside, written, rfl⟩ := induction step
      exact ⟨_, .plain noQuote noEscape (Nat.le_of_not_lt printable) written, rfl⟩
  | case12 bytes after others ending step induction =>
      simp only [Json.readPieces, step, Prod.mk.injEq] at read
      obtain ⟨rfl, rfl⟩ := read
      obtain ⟨inside, written, rfl⟩ := induction step
      exact ⟨_, .stray written, rfl⟩
  | _ => simp_all [Json.readPieces]

theorem Inside.readString {inside : List Glyph} {pieces : List Piece}
    (written : Inside inside pieces) (rest : List Glyph) :
    readString (inside ++ .char '"' :: rest) = .ok (spelled pieces, rest) := by
  simp only [Json.readString, written.readPieces, spelled]

theorem exists_readString {text rest : List Glyph} {scalar : Scalar}
    (read : readString text = .ok (scalar, rest)) :
    ∃ inside pieces, Inside inside pieces ∧ scalar = spelled pieces ∧
      text = inside ++ .char '"' :: rest := by
  unfold readString at read
  split at read
  · rename_i pieces after step
    obtain ⟨rfl, rfl⟩ := Prod.mk.inj (Except.ok.inj read)
    obtain ⟨inside, written, rfl⟩ := exists_inside step
    exact ⟨inside, pieces, written, rfl, rfl⟩
  · split at read <;> cases read

/-! ## Numerals -/

/-- Digits, of which there is one at least. -/
structure Digits (digits : List Char) : Prop where
  nonempty : digits ≠ []
  decimal : ∀ digit ∈ digits, digit.isDigit = true

/-- The text of the digits after a point. -/
inductive FractionText : List Char → List Char → Prop
  | absent : FractionText [] []
  | present {digits : List Char} : Digits digits → FractionText ('.' :: digits) digits

/-- The text of a sign, and whether it is a minus sign. -/
inductive SignText : List Char → Bool → Prop
  | absent : SignText [] false
  | plus : SignText ['+'] false
  | minus : SignText ['-'] true

/-- The text of an exponent, with its sign and its digits. -/
inductive ExponentText : List Char → Option (Bool × List Char) → Prop
  | absent : ExponentText [] none
  | present {mark : Char} {sign digits : List Char} {negative : Bool} :
      mark = 'e' ∨ mark = 'E' → SignText sign negative → Digits digits →
      ExponentText (mark :: sign ++ digits) (some (negative, digits))

/-- The text of a numeral after its minus sign. No digit follows a zero at its start. -/
inductive NumeralText : List Char → Numeral → Prop
  | parts {negative : Bool} {whole fraction power digits : List Char}
      {exponent : Option (Bool × List Char)} :
      Digits whole → (whole.head? = some '0' → whole = ['0']) → FractionText fraction digits →
      ExponentText power exponent →
      NumeralText (whole ++ fraction ++ power) ⟨negative, whole, digits, exponent⟩

/-- A text that does not continue a numeral. -/
structure EndsNumeral (rest : List Glyph) : Prop where
  noDigit : takeDigits rest = ([], rest)
  noFraction : readFraction rest = .ok ([], rest)
  noExponent : readExponent rest = .ok (none, rest)

theorem endsNumeral_nil : EndsNumeral [] :=
  ⟨rfl, rfl, rfl⟩

theorem endsNumeral_comma (rest : List Glyph) : EndsNumeral (.char ',' :: rest) :=
  ⟨rfl, rfl, rfl⟩

theorem endsNumeral_bracket (rest : List Glyph) : EndsNumeral (.char ']' :: rest) :=
  ⟨rfl, rfl, rfl⟩

theorem endsNumeral_brace (rest : List Glyph) : EndsNumeral (.char '}' :: rest) :=
  ⟨rfl, rfl, rfl⟩

theorem takeDigits_append {digits : List Char} {rest : List Glyph}
    (decimal : ∀ digit ∈ digits, digit.isDigit = true) (ends : takeDigits rest = ([], rest)) :
    takeDigits (typed digits ++ rest) = (digits, rest) := by
  induction digits with
  | nil => exact ends
  | cons digit digits induction =>
      have read := induction fun other member => decimal other (List.mem_cons_of_mem _ member)
      simp only [typed, List.map_cons, List.cons_append, takeDigits, read, if_true,
        decimal digit List.mem_cons_self]

theorem exists_takeDigits {text rest : List Glyph} {digits : List Char}
    (taken : takeDigits text = (digits, rest)) :
    text = typed digits ++ rest ∧ ∀ digit ∈ digits, digit.isDigit = true := by
  induction text using takeDigits.induct generalizing digits with
  | case1 character text decimal others after step induction =>
      rw [takeDigits, if_pos decimal, step] at taken
      obtain ⟨rfl, rfl⟩ := Prod.mk.inj taken
      obtain ⟨rfl, others⟩ := induction step
      exact ⟨rfl, List.forall_mem_cons.mpr ⟨decimal, others⟩⟩
  | case2 character text decimal =>
      rw [takeDigits, if_neg decimal] at taken
      obtain ⟨rfl, rfl⟩ := Prod.mk.inj taken
      exact ⟨rfl, List.forall_mem_nil _⟩
  | case3 text noChar =>
      rw [takeDigits.eq_2 _ noChar] at taken
      obtain ⟨rfl, rfl⟩ := Prod.mk.inj taken
      exact ⟨rfl, List.forall_mem_nil _⟩

theorem exists_needDigits {text rest : List Glyph} {digits : List Char}
    (read : needDigits text = .ok (digits, rest)) : text = typed digits ++ rest ∧ Digits digits := by
  unfold needDigits at read
  split at read
  · cases read
  · rename_i nonempty
    obtain ⟨written, decimal⟩ := exists_takeDigits (Except.ok.inj read)
    refine ⟨written, ?_, decimal⟩
    rintro rfl
    exact nonempty rest (Except.ok.inj read)

theorem Digits.needDigits {digits : List Char} (number : Digits digits) {rest : List Glyph}
    (ends : takeDigits rest = ([], rest)) :
    needDigits (typed digits ++ rest) = .ok (digits, rest) := by
  unfold Json.needDigits
  rw [takeDigits_append number.decimal ends]
  split
  · simp_all [number.nonempty]
  · rfl

theorem exists_readWhole {text rest : List Glyph} {digits : List Char}
    (read : readWhole text = .ok (digits, rest)) :
    text = typed digits ++ rest ∧ Digits digits ∧ (digits.head? = some '0' → digits = ['0']) := by
  unfold readWhole at read
  split at read
  · rename_i after
    split at read
    · rename_i taken
      obtain ⟨rfl, rfl⟩ := Prod.mk.inj (Except.ok.inj read)
      obtain ⟨rfl, _⟩ := exists_takeDigits taken
      exact ⟨rfl, ⟨by simp, by simp⟩, fun _ => rfl⟩
    · cases read
  · rename_i nonzero
    obtain ⟨written, number⟩ := exists_needDigits read
    refine ⟨written, number, fun zero => ?_⟩
    obtain ⟨others, rfl⟩ := List.head?_eq_some_iff.mp zero
    exact absurd written (nonzero _)

theorem exists_readFraction {text rest : List Glyph} {digits : List Char}
    (read : readFraction text = .ok (digits, rest)) :
    ∃ fraction, FractionText fraction digits ∧ text = typed fraction ++ rest := by
  unfold readFraction at read
  split at read
  · obtain ⟨rfl, number⟩ := exists_needDigits read
    exact ⟨_, .present number, rfl⟩
  · obtain ⟨rfl, rfl⟩ := Prod.mk.inj (Except.ok.inj read)
    exact ⟨[], .absent, rfl⟩

theorem exists_takeSign (text : List Glyph) :
    ∃ sign, SignText sign (takeSign text).1 ∧ text = typed sign ++ (takeSign text).2 := by
  unfold takeSign
  split
  · exact ⟨_, .plus, rfl⟩
  · exact ⟨_, .minus, rfl⟩
  · exact ⟨[], .absent, rfl⟩

theorem exists_readExponent {text rest : List Glyph} {exponent : Option (Bool × List Char)}
    (read : readExponent text = .ok (exponent, rest)) :
    ∃ written, ExponentText written exponent ∧ text = typed written ++ rest := by
  have marked {mark : Char} (isMark : mark = 'e' ∨ mark = 'E') {after : List Glyph}
      (read : (needDigits (takeSign after).2 >>= fun taken =>
        pure (some ((takeSign after).1, taken.1), taken.2)) = .ok (exponent, rest)) :
      ∃ written, ExponentText written exponent ∧
        .char mark :: after = typed written ++ rest := by
    cases needed : needDigits (takeSign after).2 with
    | error place =>
        rw [needed] at read
        cases read
    | ok taken =>
        rw [needed] at read
        obtain ⟨rfl, rfl⟩ := Prod.mk.inj (Except.ok.inj read)
        obtain ⟨sign, signed, split⟩ := exists_takeSign after
        obtain ⟨digits, number⟩ := exists_needDigits needed
        refine ⟨_, .present isMark signed number, ?_⟩
        rw [split, digits]
        simp [typed]
  unfold readExponent at read
  split at read
  · exact marked (.inl rfl) read
  · exact marked (.inr rfl) read
  · obtain ⟨rfl, rfl⟩ := Prod.mk.inj (Except.ok.inj read)
    exact ⟨[], .absent, rfl⟩

theorem exists_readNumeral {negative : Bool} {text rest : List Glyph} {scalar : Scalar}
    (read : readNumeral negative text = .ok (scalar, rest)) :
    ∃ written numeral, NumeralText written numeral ∧ numeral.negative = negative ∧
      scalar = .numeral numeral ∧ text = typed written ++ rest := by
  unfold readNumeral at read
  cases first : readWhole text with
  | error place => simp [first, bind, Except.bind] at read
  | ok whole =>
  obtain ⟨whole, text⟩ := whole
  cases second : readFraction text with
  | error place => simp [first, second, bind, Except.bind] at read
  | ok fraction =>
  obtain ⟨digits, text⟩ := fraction
  cases third : readExponent text with
  | error place => simp [first, second, third, bind, Except.bind] at read
  | ok exponent =>
  obtain ⟨exponent, text⟩ := exponent
  simp only [first, second, third, bind, Except.bind, pure, Except.pure] at read
  obtain ⟨rfl, rfl⟩ := Prod.mk.inj (Except.ok.inj read)
  obtain ⟨rfl, number, nonzero⟩ := exists_readWhole first
  obtain ⟨fraction, isFraction, rfl⟩ := exists_readFraction second
  obtain ⟨written, isExponent, rfl⟩ := exists_readExponent third
  exact ⟨_, _, .parts number nonzero isFraction isExponent, rfl, rfl, by simp [typed]⟩

theorem readLiteral_eq_ok {scalar result : Scalar} {letters : List Char} {text rest : List Glyph}
    (read : readLiteral scalar letters text = .ok (result, rest)) :
    result = scalar ∧ text = typed letters ++ rest := by
  induction letters generalizing text with
  | nil =>
      rw [readLiteral] at read
      obtain ⟨rfl, rfl⟩ := Prod.mk.inj (Except.ok.inj read)
      exact ⟨rfl, rfl⟩
  | cons letter letters induction =>
      cases text with
      | nil => cases read
      | cons glyph text =>
          rw [readLiteral] at read
          split at read
          · obtain ⟨rfl, rfl⟩ := induction read
            rename_i same
            exact ⟨rfl, by rw [same]; rfl⟩
          · cases read

theorem SignText.takeSign {sign digits : List Char} {negative : Bool}
    (signed : SignText sign negative) (number : Digits digits) (rest : List Glyph) :
    takeSign (typed sign ++ (typed digits ++ rest)) = (negative, typed digits ++ rest) := by
  cases signed with
  | plus => rfl
  | minus => rfl
  | absent =>
      obtain ⟨first, others, rfl⟩ := List.exists_cons_of_ne_nil number.nonempty
      have decimal := number.decimal first List.mem_cons_self
      rw [typed, List.map_nil, List.nil_append, typed, List.map_cons, List.cons_append,
        takeSign.eq_def]
      split <;> simp_all

theorem ExponentText.ends {power : List Char} {exponent : Option (Bool × List Char)}
    (text : ExponentText power exponent) {rest : List Glyph} (ends : EndsNumeral rest) :
    takeDigits (typed power ++ rest) = ([], typed power ++ rest) ∧
      readFraction (typed power ++ rest) = .ok ([], typed power ++ rest) ∧
      readExponent (typed power ++ rest) = .ok (exponent, rest) := by
  cases text with
  | absent => exact ⟨ends.noDigit, ends.noFraction, ends.noExponent⟩
  | @present mark sign digits negative isMark signed number =>
      have split : typed (mark :: sign ++ digits) ++ rest =
          .char mark :: (typed sign ++ (typed digits ++ rest)) := by simp [typed]
      have digits_read := number.needDigits ends.noDigit
      rw [split]
      rcases isMark with rfl | rfl <;> refine ⟨rfl, rfl, ?_⟩ <;>
        · simp only [readExponent, signed.takeSign number, digits_read]
          rfl

theorem NumeralText.readNumeral {written : List Char} {numeral : Numeral}
    (text : NumeralText written numeral) {rest : List Glyph} (ends : EndsNumeral rest) :
    readNumeral numeral.negative (typed written ++ rest) = .ok (.numeral numeral, rest) := by
  obtain @⟨negative, whole, fraction, power, digits, exponent, number, nonzero, isFraction,
    isExponent⟩ := text
  obtain ⟨noDigit, noFraction, exponent_read⟩ := isExponent.ends ends
  have fraction_read : takeDigits (typed fraction ++ (typed power ++ rest)) =
        ([], typed fraction ++ (typed power ++ rest)) ∧
      readFraction (typed fraction ++ (typed power ++ rest)) =
        .ok (digits, typed power ++ rest) := by
    cases isFraction with
    | absent => exact ⟨noDigit, noFraction⟩
    | present number => exact ⟨rfl, number.needDigits noDigit⟩
  have whole_read : readWhole (typed whole ++ (typed fraction ++ (typed power ++ rest))) =
      .ok (whole, typed fraction ++ (typed power ++ rest)) := by
    by_cases zero : whole.head? = some '0'
    · rw [nonzero zero, typed, List.map_singleton, List.singleton_append, readWhole,
        fraction_read.1]
    · have needed := number.needDigits fraction_read.1
      obtain ⟨first, others, rfl⟩ := List.exists_cons_of_ne_nil number.nonempty
      rw [List.head?_cons, Option.some.injEq] at zero
      rw [readWhole.eq_def]
      split
      · simp_all
      · exact needed
  have split : typed (whole ++ fraction ++ power) ++ rest =
      typed whole ++ (typed fraction ++ (typed power ++ rest)) := by simp [typed]
  simp only [Json.readNumeral, split, whole_read, fraction_read.2, exponent_read, bind,
    Except.bind, pure, Except.pure]

/-! ## Tokens -/

/-- The text of a value without parts. -/
inductive Token : List Glyph → Scalar → Prop
  | null : Token (typed ['n', 'u', 'l', 'l']) .null
  | isTrue : Token (typed ['t', 'r', 'u', 'e']) (.boolean true)
  | isFalse : Token (typed ['f', 'a', 'l', 's', 'e']) (.boolean false)
  | string {inside : List Glyph} {pieces : List Piece} : Inside inside pieces →
      Token (.char '"' :: inside ++ [.char '"']) (spelled pieces)
  | numeral {text : List Char} {numeral : Numeral} : NumeralText text numeral →
      Token (typed ((if numeral.negative then ['-'] else []) ++ text)) (.numeral numeral)

theorem plain_of_isDigit {first : Char} (digit : first.isDigit = true) :
    first ∉ ']' :: '[' :: '{' :: blanks := by
  intro member
  have others : (']' :: '[' :: '{' :: blanks).all (fun other => !other.isDigit) = true := by decide
  have noDigit := List.all_eq_true.mp others first member
  rw [digit] at noDigit
  exact Bool.false_ne_true noDigit

theorem readScalar_of_isDigit {first : Char} (digit : first.isDigit = true) (rest : List Glyph) :
    readScalar first rest = readNumeral false (.char first :: rest) := by
  rw [readScalar.eq_def]
  split
  case h_6 => rw [if_pos digit]
  all_goals exact absurd digit (by decide)

/-- The text of a token starts with a visible mark, by which the kind of the token is told. -/
theorem Token.readScalar {text : List Glyph} {scalar : Scalar} (token : Token text scalar)
    {rest : List Glyph} (ends : EndsNumeral rest) :
    ∃ first more, text = .char first :: more ∧ first ∉ ']' :: '[' :: '{' :: blanks ∧
      readScalar first (more ++ rest) = .ok (scalar, rest) := by
  cases token with
  | null => exact ⟨_, _, rfl, by decide, rfl⟩
  | isTrue => exact ⟨_, _, rfl, by decide, rfl⟩
  | isFalse => exact ⟨_, _, rfl, by decide, rfl⟩
  | @string inside pieces written =>
      refine ⟨'"', inside ++ [.char '"'], rfl, by decide, ?_⟩
      rw [List.append_assoc]
      exact written.readString rest
  | @numeral written numeral text =>
      have read := text.readNumeral ends
      cases negative : numeral.negative with
      | true =>
          rw [negative] at read
          exact ⟨'-', typed written, rfl, by decide, read⟩
      | false =>
          rw [negative] at read
          cases text with
          | @parts _ whole fraction power digits exponent number _ _ _ =>
          obtain ⟨first, others, rfl⟩ := List.exists_cons_of_ne_nil number.nonempty
          have decimal := number.decimal first List.mem_cons_self
          exact ⟨first, _, rfl, plain_of_isDigit decimal,
            (readScalar_of_isDigit decimal _).trans read⟩

theorem exists_token {first : Char} {text rest : List Glyph} {scalar : Scalar}
    (read : readScalar first text = .ok (scalar, rest)) :
    ∃ token, Token token scalar ∧ .char first :: text = token ++ rest := by
  unfold readScalar at read
  split at read
  · obtain ⟨rfl, rfl⟩ := readLiteral_eq_ok read
    exact ⟨_, .null, rfl⟩
  · obtain ⟨rfl, rfl⟩ := readLiteral_eq_ok read
    exact ⟨_, .isTrue, rfl⟩
  · obtain ⟨rfl, rfl⟩ := readLiteral_eq_ok read
    exact ⟨_, .isFalse, rfl⟩
  · obtain ⟨inside, pieces, written, rfl, rfl⟩ := exists_readString read
    exact ⟨_, .string written, by simp⟩
  · obtain ⟨written, numeral, text, negative, rfl, rfl⟩ := exists_readNumeral read
    exact ⟨_, .numeral text, by rw [negative]; rfl⟩
  · split at read
    · obtain ⟨written, numeral, text, negative, rfl, split⟩ := exists_readNumeral read
      exact ⟨_, .numeral text, by rw [negative, split]; rfl⟩
    · cases read

end ApiCatalog.Json
