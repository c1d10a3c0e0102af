set_option autoImplicit false

/-! # Powers

The powers that bound fixed-width numbers and scale decimals. -/

namespace Dramaturg.Number

/-- A power of two: how many numbers `n` bits can hold. -/
def twoTo (n : Nat) : Nat := Nat.pow 2 n

/-- A power of five. -/
def fiveTo (n : Nat) : Nat := Nat.pow 5 n

/-- A power of ten. -/
def tenTo (n : Nat) : Nat := Nat.pow 10 n

end Dramaturg.Number
