import ApiCatalog.Node.Decoder
import ApiCatalog.Text.Hexadecimal

/-!
# Values by spelling

The value a plain word spells: null, a truth value, a number, or else the word itself as a text.
Whole numbers may carry a sign and may be written in base ten, sixteen, eight or two; digits after a
leading zero are a text.
-/

namespace ApiCatalog.Spelling

/-- The value of a digit in bases up to sixteen. -/
def digit? (base : Nat) (character : Char) : Option Nat :=
  (Text.hexValue? character).filter (· < base)

/-- The number that digits write in a base. There must be at least one. -/
def natural? (base : Nat) (digits : List Char) : Option Nat :=
  if digits.isEmpty then none
  else digits.foldlM (fun total character => (digit? base character).map (total * base + ·)) 0

/-- A word without a plus sign at its start. -/
def withoutPlus : List Char → List Char
  | '+' :: rest => rest
  | word => word

/-- Whether a word starts with a sign. -/
def isSigned : List Char → Bool
  | '+' :: _ | '-' :: _ => true
  | _ => false

/-- Whether a word is a leading zero with digits after it, which is a text and not a number. -/
def hasLeadingZero (word : List Char) : Bool :=
  let digits := if isSigned word then word.drop 1 else word
  match digits with
  | '0' :: next :: rest => (next :: rest).all Char.isDigit
  | _ => false

/-- The whole number a word writes with a base mark. -/
def marked? : List Char → Option Nat
  | '0' :: 'x' :: digits => natural? 16 digits
  | '0' :: 'o' :: digits => natural? 8 digits
  | '0' :: 'b' :: digits => natural? 2 digits
  | _ => none

/-- The whole number a word writes without a minus sign. -/
def unsigned? (word : List Char) : Option Nat :=
  let bare := withoutPlus word
  (marked? bare).or (if hasLeadingZero word then none else natural? 10 bare)

/-- The size of the whole number a word writes with a minus sign. -/
def negated? : List Char → Option Nat
  | '-' :: bare =>
      (marked? bare).or (if hasLeadingZero ('-' :: bare) then none else natural? 10 bare)
  | _ => none

/-- The whole number a word writes, if it writes one of at most 128 bits. -/
def whole? (word : List Char) : Option Int :=
  match unsigned? word, negated? word with
  | some value, _ => if value < Nat.pow 2 128 then some value else none
  | none, some size => if size ≤ Nat.pow 2 127 then some (-(size : Int)) else none
  | none, none => none

/-- Whether a whole number fits in 64 bits. -/
def fits (value : Int) : Bool :=
  -(Nat.pow 2 63 : Int) ≤ value && value < (Nat.pow 2 64 : Int)

/-- The parts of a decimal fraction: the digits before and after its point, and its exponent. -/
def decimalParts? (word : List Char) : Option (List Char × List Char × Int) := do
  let whole := word.takeWhile Char.isDigit
  let afterWhole := word.dropWhile Char.isDigit
  let (fraction, afterFraction) := match afterWhole with
    | '.' :: rest => (rest.takeWhile Char.isDigit, rest.dropWhile Char.isDigit)
    | rest => ([], rest)
  if whole.isEmpty && fraction.isEmpty then none
  else match afterFraction with
    | [] => some (whole, fraction, 0)
    | mark :: rest =>
        if mark != 'e' && mark != 'E' then none
        else
          let size ← natural? 10 (if isSigned rest then rest.drop 1 else rest)
          some (whole, fraction, if rest.head? == some '-' then -(size : Int) else size)

/-- The magnitude nearest to a decimal number. Exponents beyond a thousand decide by themselves:
such a number is zero or too large. -/
def nearest? (significand : Nat) (exponent : Int) (digits : Nat) : Option Magnitude :=
  if significand = 0 then some .zero
  else if exponent + digits < -1000 then some .zero
  else if exponent > 1000 then none
  else Magnitude.ofRatio? (significand * Nat.pow 10 exponent.toNat)
    (Nat.pow 10 (-exponent).toNat)

/-- A word as a double-precision number. `some none` is an infinity or no number. -/
def float? (word : List Char) : Option (Option Binary64) :=
  let bare := withoutPlus word
  if isSigned bare && bare.length < word.length then none
  else if [".inf", ".Inf", ".INF", "-.inf", "-.Inf", "-.INF"].contains (String.ofList bare)
      || [".nan", ".NaN", ".NAN"].contains (String.ofList word) then
    some none
  else do
    let (whole, fraction, exponent) ← decimalParts? (if isSigned bare then bare.drop 1 else bare)
    let digits := whole ++ fraction
    let significand := digitsValue 10 digitValue digits
    let magnitude ← nearest? significand (exponent - fraction.length) digits.length
    some (some ⟨bare.head? == some '-', magnitude⟩)

/-- A double-precision number as a value. An infinity, or no number, is null. -/
def ofFloat : Option Binary64 → Json
  | some value => .number (.fractional value)
  | none => .null

/-- The value a plain word spells. Whole numbers of more than 64 bits are unusable. -/
def plain (word : String) : Except Cause Json :=
  if word.isEmpty || Scalar.nullWords.contains word then .ok .null
  else match Scalar.boolean? word with
    | some flag => .ok (.boolean flag)
    | none =>
        match whole? word.toList with
        | some value =>
            if fits value then .ok (.number (.integer value)) else .error .unusable
        | none =>
            match if hasLeadingZero word.toList then none else float? word.toList with
            | some value => .ok (ofFloat value)
            | none => .ok (.string word)

/-- The value of a word, which must be what its tag announces. -/
def value (word : String) (style : Style) : Option Tag → Except Cause Json
  | none => if style == .plain then plain word else .ok (.string word)
  | some .boolean =>
      match Scalar.boolean? word with
      | some flag => .ok (.boolean flag)
      | none => .error .unusable
  | some .integer =>
      match whole? word.toList with
      | some value => if fits value then .ok (.number (.integer value)) else .error .unusable
      | none => .error .unusable
  | some .float =>
      match float? word.toList with
      | some value => .ok (ofFloat value)
      | none => .error .unusable
  | some .null => if Scalar.nullWords.contains word then .ok .null else .error .unusable
  | some .application => .error .unusable
  | some .other => .ok (.string word)

end ApiCatalog.Spelling
