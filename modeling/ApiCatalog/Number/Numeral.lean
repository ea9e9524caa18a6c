import ApiCatalog.Number.Shortest

/-!
# Numerals

A decimal numeral becomes an integer when it is written as one and fits in 64 bits, and a
double-precision number otherwise.
-/

namespace ApiCatalog

/-- A number of a document. -/
inductive Number where
  /-- A whole number. -/
  | integer (value : Int)
  /-- A double-precision number. -/
  | fractional (value : Binary64)
  deriving DecidableEq, Repr

/-- The text of a number. -/
def Number.render : Number → List Char
  | .integer value =>
      if value < 0 then '-' :: Nat.toDigits 10 value.natAbs else Nat.toDigits 10 value.natAbs
  | .fractional value => value.render

/-- A decimal numeral, part by part. -/
structure Numeral where
  /-- Whether the numeral starts with a minus sign. -/
  negative : Bool
  /-- The digits before the point. -/
  whole : List Char
  /-- The digits after the point, none if there is no point. -/
  fraction : List Char
  /-- The exponent: whether it is negative, and its digits. -/
  exponent : Option (Bool × List Char)
  deriving DecidableEq, Repr

/-- The value of a decimal digit. -/
def digitValue (character : Char) : Nat :=
  character.toNat - '0'.toNat

/-- The number that digits write in a base. -/
def digitsValue (base : Nat) (value : Char → Nat) (digits : List Char) : Nat :=
  digits.foldl (fun total digit => total * base + value digit) 0

namespace Numeral

/-- Appends digits to a significand while it fits in 64 bits, and returns it with the digits that
are left. -/
def appendDigits (significand : Nat) : List Char → Nat × List Char
  | [] => (significand, [])
  | digit :: rest =>
      let extended := significand * 10 + digitValue digit
      if extended < Nat.pow 2 64 then appendDigits extended rest else (significand, digit :: rest)

/-- The power of ten of an exponent. -/
def power : Option (Bool × List Char) → Int
  | none => 0
  | some (negative, digits) =>
      let size : Int := digitsValue 10 digitValue digits
      if negative then -size else size

/-- A significand divided by a power of ten, in steps that each divide by a representable power.
Two steps take every significand to zero. -/
def divideByTens : Nat → Magnitude → Nat → Option Magnitude
  | 0, _, _ => some .zero
  | steps + 1, magnitude, tens =>
      if magnitude.significand = 0 then some .zero
      else if tens ≤ 308 then do
        magnitude.divide? (← Magnitude.ofRatio? (Nat.pow 10 tens) 1)
      else do
        let shorter ← magnitude.divide? (← Magnitude.ofRatio? (Nat.pow 10 308) 1)
        divideByTens steps shorter (tens - 308)

/-- The magnitude of a significand times a power of ten: both are rounded before they are multiplied
or divided. Numbers too large to be finite have none. -/
def scale? (significand : Nat) (tens : Int) : Option Magnitude := do
  let magnitude ← Magnitude.ofRatio? significand 1
  if magnitude.significand = 0 then some .zero
  else if tens < 0 then divideByTens 4 magnitude (-tens).toNat
  else if tens > 308 then none
  else magnitude.multiply? (← Magnitude.ofRatio? (Nat.pow 10 tens.toNat) 1)

/-- The number a numeral writes, unless it is too large to be finite. A negative zero is a
double-precision number. -/
def number? (numeral : Numeral) : Option Number :=
  let (whole, dropped) := appendDigits 0 numeral.whole
  let plain := numeral.fraction.isEmpty && numeral.exponent.isNone && dropped.isEmpty
  if plain && !numeral.negative then some (.integer whole)
  else if plain && 0 < whole && whole ≤ Nat.pow 2 63 then some (.integer (-(whole : Int)))
  else
    let (significand, left) := appendDigits whole numeral.fraction
    let kept := numeral.fraction.length - left.length
    let tens := (dropped.length : Int) - kept + power numeral.exponent
    (scale? significand tens).map fun magnitude => .fractional ⟨numeral.negative, magnitude⟩

end Numeral

end ApiCatalog
