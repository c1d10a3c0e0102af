import Dramaturg.Stage.Coordinate
import Mathlib.Algebra.Order.Field.Rat

set_option autoImplicit false

/-! # Exact coordinates

Sums and quotients of doubles are rounded, and what is no number is not the same as itself. None of
this happens to places that are computed in fractions. Only what is written into a command is a
double. -/

namespace Dramaturg

namespace Coordinate

/-- Coordinates of which two are the same only if they are equal. -/
class Exact (α : Type) [Coordinate α] : Prop where
  same_iff (x y : α) : same x y = true ↔ x = y

/-- A fraction as a double: its numerator divided by its denominator. -/
def quotient (x : ℚ) : Float :=
  Number.toDouble (Number.ofInt x.num) / Number.toDouble (Number.ofInt x.den)

instance : Coordinate ℚ where
  ofNat n := n
  lesser := min
  magnitude := abs
  same x y := decide (x = y)
  double := quotient
  text x := Number.plainText (quotient x)

instance : Exact ℚ where
  same_iff _ _ := decide_eq_true_iff

end Coordinate

end Dramaturg
