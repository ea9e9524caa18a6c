/-!
# Double-precision numbers

Finite binary numbers with 53 significant bits, as exact integers. Quotients are rounded to the
nearest such number, a tie to the even one, so that every operation here is an exact computation
followed by one rounding.
-/

namespace ApiCatalog

/-- The magnitude of a finite double-precision number: `significand * 2 ^ exponent`. The
significand has 53 bits unless the exponent is the least one. -/
structure Magnitude where
  /-- The significant bits. -/
  significand : Nat
  /-- The weight of the last significant bit, as a power of two. -/
  exponent : Int
  deriving DecidableEq, Repr

/-- A finite double-precision number. -/
structure Binary64 where
  /-- Whether the number carries a minus sign. -/
  negative : Bool
  /-- The number without its sign. -/
  magnitude : Magnitude
  deriving DecidableEq, Repr

namespace Magnitude

/-- The least exponent of a magnitude. -/
def leastExponent : Int := -1074

/-- The greatest exponent of a magnitude. -/
def greatestExponent : Int := 971

/-- The magnitude of zero. -/
def zero : Magnitude := ⟨0, leastExponent⟩

/-- The numerator of a magnitude as a ratio. -/
def numerator (magnitude : Magnitude) : Nat :=
  magnitude.significand * Nat.pow 2 magnitude.exponent.toNat

/-- The denominator of a magnitude as a ratio. -/
def denominator (magnitude : Magnitude) : Nat :=
  Nat.pow 2 (-magnitude.exponent).toNat

/-- A quotient rounded to the nearest integer, a tie to the even one. -/
def roundQuotient (numerator denominator : Nat) : Nat :=
  let quotient := numerator / denominator
  let twice := 2 * (numerator % denominator)
  if twice < denominator then quotient
  else if twice = denominator then quotient + quotient % 2
  else quotient + 1

/-- Whether a ratio is at least a power of two. -/
def reachesPower (numerator denominator : Nat) (power : Int) : Bool :=
  denominator * Nat.pow 2 power.toNat ≤ numerator * Nat.pow 2 (-power).toNat

/-- The exponent at which a ratio has 53 significant bits, if that is not below the least one. -/
def ratioExponent (numerator denominator : Nat) : Int :=
  let leading : Int := (numerator.log2 : Int) - denominator.log2
  let exact := if reachesPower numerator denominator leading then leading else leading - 1
  max (exact - 52) leastExponent

/-- The magnitude nearest to a ratio, unless the ratio is too large for a finite one. -/
def ofRatio? (numerator denominator : Nat) : Option Magnitude :=
  if numerator = 0 then some zero
  else
    let exponent := ratioExponent numerator denominator
    let rounded :=
      roundQuotient (numerator * Nat.pow 2 (-exponent).toNat)
        (denominator * Nat.pow 2 exponent.toNat)
    let result : Magnitude :=
      if rounded = Nat.pow 2 53 then ⟨Nat.pow 2 52, exponent + 1⟩ else ⟨rounded, exponent⟩
    if result.exponent > greatestExponent then none else some result

/-- The rounded product of two magnitudes. -/
def multiply? (left right : Magnitude) : Option Magnitude :=
  ofRatio? (left.numerator * right.numerator) (left.denominator * right.denominator)

/-- The rounded quotient of two magnitudes. -/
def divide? (left right : Magnitude) : Option Magnitude :=
  ofRatio? (left.numerator * right.denominator) (left.denominator * right.numerator)

end Magnitude

end ApiCatalog
