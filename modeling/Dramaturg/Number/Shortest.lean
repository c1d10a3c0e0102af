import Dramaturg.Number.Binary

set_option autoImplicit false

/-! # Shortest decimals

`Magnitude.shortest` gives the decimal with the fewest digits that rounds to a given magnitude, and
of those the one nearest to it. The reals that round to a magnitude form an interval, from halfway
to the number below to halfway to the number above, whose ends belong to it exactly when the
mantissa is even. On the grid of `n` digits only the two neighbours of the value can be nearest, so
the search looks at them for `n = 1, 2, …` and takes the first grid with a hit. -/

namespace Dramaturg.Number

/-- The decimal `digits · 10 ^ exponent`. -/
structure Decimal where
  digits : Nat
  exponent : Int
deriving DecidableEq

/-- Which of two equally near neighbours is taken. -/
inductive Tie where
  | toEven
  | upward

/-- Compares `a · 10 ^ i` with `n · 2 ^ j`. -/
def compareScaled (a : Nat) (i : Int) (n : Nat) (j : Int) : Ordering :=
  compare (a * tenTo i.toNat * twoTo (-j).toNat) (n * twoTo j.toNat * tenTo (-i).toNat)

namespace Magnitude

/-- Whether `d` lies among the reals that round to `x`. -/
def readsBack (x : Magnitude) (d : Decimal) : Bool :=
  let low := if x.narrowBelow then 4 * x.mantissa - 1 else 4 * x.mantissa - 2
  let high := 4 * x.mantissa + 2
  let closed := x.mantissa % 2 == 0
  let atLow := compareScaled d.digits d.exponent low (x.exponent - 2)
  let atHigh := compareScaled d.digits d.exponent high (x.exponent - 2)
  (atLow == .gt || (closed && atLow == .eq)) && (atHigh == .lt || (closed && atHigh == .eq))

/-- Raises an estimate `k` until `x < 10 ^ k`, in at most `steps` steps. -/
def raiseScale (x : Magnitude) : Nat → Int → Int
  | 0, k => k
  | steps + 1, k =>
    if compareScaled 1 k x.mantissa x.exponent == .gt then k else raiseScale x steps (k + 1)

/-- The least `k` with `x < 10 ^ k`, for a mantissa that is not zero. The estimate is one to three
    below it, since `1233 / 4096` is just below the decimal logarithm of two. -/
def scale (x : Magnitude) : Int :=
  let leading := (x.mantissa.log2 : Int) + x.exponent
  let estimate := if 0 ≤ leading then leading * 1233 / 4096 - 1 else leading * 1234 / 4096 - 1
  x.raiseScale 8 estimate

/-- The value divided by `10 ^ e`, rounded down. -/
def unitsOf (x : Magnitude) (e : Int) : Nat :=
  (x.mantissa * twoTo x.exponent.toNat * tenTo (-e).toNat) /
    (twoTo (-x.exponent).toNat * tenTo e.toNat)

/-- The nearer of the two neighbours of `x` on the grid `10 ^ e` that reads back, if one does. -/
def onGrid? (x : Magnitude) (tie : Tie) (e : Int) : Option Decimal :=
  let below := x.unitsOf e
  let down : Decimal := ⟨below, e⟩
  let up : Decimal := ⟨below + 1, e⟩
  match x.readsBack down, x.readsBack up with
  | false, false => none
  | true, false => some down
  | false, true => some up
  | true, true =>
    match compareScaled (2 * below + 1) e (2 * x.mantissa) x.exponent with
    | .gt => some down
    | .lt => some up
    | .eq =>
      match tie with
      | .upward => some up
      | .toEven => some (if below % 2 = 0 then down else up)

end Magnitude

/-- Moves the zeros at the end of the digits into the exponent, at most `steps` of them. -/
def Decimal.stripZeros : Nat → Decimal → Decimal
  | 0, d => d
  | steps + 1, d =>
    if d.digits % 10 = 0 then stripZeros steps ⟨d.digits / 10, d.exponent + 1⟩ else d

/-- The value of a magnitude with all its digits. -/
def Magnitude.exact (x : Magnitude) : Decimal :=
  if 0 ≤ x.exponent then ⟨x.mantissa * twoTo x.exponent.toNat, 0⟩
  else ⟨x.mantissa * fiveTo (-x.exponent).toNat, x.exponent⟩

/-- The decimal with the fewest digits that rounds to `x`, and the nearest of those. Seventeen
    digits are enough for a double; were they not, the exact value would be given. -/
def Magnitude.shortest (x : Magnitude) (tie : Tie) : Decimal :=
  if x.mantissa = 0 then ⟨0, 0⟩
  else
    let k := x.scale
    let found := (List.range 17).findSome? fun n => x.onGrid? tie (k - (n + 1 : Nat))
    (found.getD x.exact).stripZeros 400

end Dramaturg.Number
