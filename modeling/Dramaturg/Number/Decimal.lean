import Dramaturg.Number.Power

set_option autoImplicit false

/-! # Decimal numbers

A decimal number of any size is compared with the doubles in exact arithmetic. -/

namespace Dramaturg.Number

/-- The least number that is nearer to infinity than to any double: half a place beyond the largest
    of them. -/
def doubleLimit : Nat := twoTo 1024 - twoTo 970

/-- Whether the number with these digits, the last of them worth `10 ^ exponent`, is rounded to
    infinity. The limit has 309 digits; no power is computed for a number with fewer or more. -/
def exceedsDoubles (digits : List Nat) (exponent : Int) : Bool :=
  let digits := digits.dropWhile (· == 0)
  let places : Int := digits.length + exponent
  if digits.isEmpty || places < 309 then false
  else if 309 < places then true
  else
    let n := digits.foldl (fun n d => 10 * n + d) 0
    if 0 ≤ exponent then doubleLimit ≤ n * tenTo exponent.toNat
    else doubleLimit * tenTo exponent.natAbs ≤ n

end Dramaturg.Number
