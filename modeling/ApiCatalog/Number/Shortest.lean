import ApiCatalog.Number.Binary64

/-!
# Shortest decimal digits

A double-precision number is written with the fewest decimal digits that read back as the same
number, and of those with the digits nearest to it. Small and large numbers use an exponent.
-/

namespace ApiCatalog

/-- A decimal number: `digits * 10 ^ exponent`. -/
structure Decimal where
  /-- The digits, as one number. -/
  digits : Nat
  /-- The weight of the last digit, as a power of ten. -/
  exponent : Int
  deriving DecidableEq, Repr

namespace Magnitude

/-- Numbers that read back as a magnitude, in quarters of its last bit. -/
structure Neighbourhood where
  /-- The lower end. -/
  low : Nat
  /-- The magnitude itself. -/
  centre : Nat
  /-- The upper end. -/
  high : Nat
  /-- Whether the ends themselves read back as the magnitude. -/
  closed : Bool

/-- The numbers that read back as a magnitude reach half way to its neighbours. The neighbour below
a power of two is only half as far away as the one above. -/
def neighbourhood (magnitude : Magnitude) : Neighbourhood :=
  let centre := 4 * magnitude.significand
  let narrow := magnitude.significand = Nat.pow 2 52 ∧ magnitude.exponent > leastExponent
  ⟨if narrow then centre - 1 else centre - 2, centre, centre + 2, magnitude.significand % 2 == 0⟩

/-- How many decimal digits a number has. -/
def digitCount (number : Nat) : Nat :=
  (Nat.toDigits 10 number).length

/-- The least power of ten above a positive ratio. -/
def decimalScale (numerator denominator : Nat) : Int :=
  if denominator ≤ numerator then digitCount (numerator / denominator)
  else
    let count := digitCount (denominator / numerator)
    if denominator = numerator * Nat.pow 10 (count - 1) then 2 - (count : Int)
    else 1 - (count : Int)

/-- The decimal of a given exponent that reads back as the magnitude and is nearest to it. -/
def decimalAt? (magnitude : Magnitude) (exponent : Int) : Option Decimal :=
  let bounds := magnitude.neighbourhood
  let quarter := magnitude.exponent - 2
  let unit := Nat.pow 2 quarter.toNat * Nat.pow 10 (-exponent).toNat
  let step := Nat.pow 2 (-quarter).toNat * Nat.pow 10 exponent.toNat
  let readsBack (digits : Nat) : Bool :=
    if bounds.closed then
      bounds.low * unit ≤ digits * step && digits * step ≤ bounds.high * unit
    else
      bounds.low * unit < digits * step && digits * step < bounds.high * unit
  let below := bounds.centre * unit / step
  let above := below + 1
  match readsBack below, readsBack above with
  | false, false => none
  | true, false => some ⟨below, exponent⟩
  | false, true => some ⟨above, exponent⟩
  | true, true =>
      let middle := (below + above) * step
      let twice := 2 * bounds.centre * unit
      if twice < middle || (twice == middle && below % 2 == 0) then some ⟨below, exponent⟩
      else some ⟨above, exponent⟩

/-- The shortest decimal that reads back as a magnitude. Seventeen digits always suffice. -/
def shortest (magnitude : Magnitude) : Decimal :=
  let scale := decimalScale magnitude.numerator magnitude.denominator
  ((List.range 17).findSome? fun (count : Nat) => magnitude.decimalAt? (scale - (count + 1))).getD
    ⟨magnitude.numerator, 0⟩

end Magnitude

namespace Decimal

/-- Removes the zeros at the end of digits, at most as many as the fuel. -/
def stripZeros : Nat → Decimal → Decimal
  | 0, decimal => decimal
  | fuel + 1, decimal =>
      if decimal.digits % 10 = 0 then stripZeros fuel ⟨decimal.digits / 10, decimal.exponent + 1⟩
      else decimal

/-- The text of a decimal. It is written out when it is at least `1e-5` and below `1e16`, with at
least one digit after the point, and with an exponent otherwise, whose sign is always written. -/
def render (decimal : Decimal) : List Char :=
  let digits := Nat.toDigits 10 decimal.digits
  let point : Int := digits.length + decimal.exponent
  if 0 < point ∧ point ≤ 16 then
    let zeros := List.replicate decimal.exponent.toNat '0'
    let whole := (digits ++ zeros).take point.toNat
    let fraction := (digits ++ zeros).drop point.toNat
    whole ++ '.' :: (if fraction.isEmpty then ['0'] else fraction)
  else if -5 < point ∧ point ≤ 0 then
    '0' :: '.' :: List.replicate (-point).toNat '0' ++ digits
  else
    let exponent := point - 1
    let sign := if exponent < 0 then '-' else '+'
    let fraction := if digits.length = 1 then [] else '.' :: digits.drop 1
    digits.take 1 ++ fraction ++ 'e' :: sign :: Nat.toDigits 10 exponent.natAbs

end Decimal

namespace Binary64

/-- The shortest text of a double-precision number. -/
def render (number : Binary64) : List Char :=
  let magnitude :=
    if number.magnitude.significand = 0 then ['0', '.', '0']
    else (Decimal.stripZeros 17 number.magnitude.shortest).render
  if number.negative then '-' :: magnitude else magnitude

end Binary64

end ApiCatalog
