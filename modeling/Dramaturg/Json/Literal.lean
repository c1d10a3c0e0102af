import Dramaturg.Json.Basic

set_option autoImplicit false

/-! # Number literals

A number is read from its digits in two steps. As many digits as fit into 64 bits are taken as a
significand; digits of the whole part that no longer fit raise the exponent, and digits of the
fraction that no longer fit are dropped. The significand is then scaled by a power of ten in double
arithmetic, at most one rounding for each step. A value beyond the largest double is refused. -/

namespace Dramaturg.Json

/-- A number as it stands in a text: sign, whole part, fraction and exponent. -/
structure NumberLiteral where
  negative : Bool
  whole : List Nat
  fraction : Option (List Nat)
  exponent : Option (Bool × List Nat)

/-- The significand after taking as many digits as stay below `limit`, and the digits left. -/
def absorb (limit : Nat) (significand : Nat) : List Nat → Nat × List Nat
  | [] => (significand, [])
  | d :: ds =>
    if significand * 10 + d < limit then absorb limit (significand * 10 + d) ds
    else (significand, d :: ds)

/-- A power of ten up to `10 ^ 308`, rounded to a double. -/
def powerOfTen (n : Nat) : Float :=
  Float.ofScientific 1 false n

/-- The quotient of `x` and `10 ^ n`, the division cut into factors that are doubles. -/
def scaleDown (x : Float) (n : Nat) : Float :=
  if n ≤ 308 then x / powerOfTen n
  else if x == 0 then x
  else scaleDown (x / powerOfTen 308) (n - 308)
termination_by n

/-- The value `significand · 10 ^ exponent` as a double, unless it is too large. -/
def scaled? (significand : Nat) (exponent : Int) : Option Float :=
  let x := Number.toDouble (Number.ofInt significand)
  if exponent < 0 then some (scaleDown x exponent.natAbs)
  else if exponent ≤ 308 then
    let y := x * powerOfTen exponent.toNat
    if y.isInf then none else some y
  else if significand = 0 then some x
  else none

/-- The value of a literal that has a fraction or an exponent, or whose digits do not fit. -/
def NumberLiteral.real? (l : NumberLiteral) : Option Float :=
  let (whole, beyond) := absorb (Number.twoTo 64) 0 l.whole
  let (significand, dropped) := absorb (Number.twoTo 64) whole (l.fraction.getD [])
  let places := (l.fraction.getD []).length - dropped.length
  let start : Int := beyond.length - places
  match l.exponent with
  | none => scaled? significand start
  | some (falling, digits) =>
    let (amount, unread) := absorb (Number.twoTo 31) 0 digits
    if unread.isEmpty then
      scaled? significand (if falling then start - amount else start + amount)
    else if significand = 0 ∨ falling then some 0
    else none

/-- The value of a literal. Whole numbers of 64 bits are integers, but `-0` is not one. -/
def NumberLiteral.value? (l : NumberLiteral) : Option Number :=
  let (whole, beyond) := absorb (Number.twoTo 64) 0 l.whole
  if l.fraction.isNone ∧ l.exponent.isNone ∧ beyond.isEmpty
      ∧ (l.negative → 0 < whole ∧ whole ≤ Number.twoTo 63) then
    some (.integer (if l.negative then -whole else whole))
  else
    l.real?.map fun x => .real (if l.negative then -x else x)

end Dramaturg.Json
