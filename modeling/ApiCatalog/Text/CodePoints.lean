/-!
# Sets of code points

A set of characters given by the ranges of its code points, as standards list them.
-/

namespace ApiCatalog.Text

/-- Inclusive ranges of code points, in ascending order. -/
abbrev CodePoints := List (Nat × Nat)

/-- Whether one of the ranges holds a code point. -/
def CodePoints.covers : CodePoints → Nat → Bool
  | [], _ => false
  | (first, last) :: rest, code =>
      if code < first then false
      else code ≤ last || CodePoints.covers rest code

end ApiCatalog.Text
