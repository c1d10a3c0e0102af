import Dramaturg.Number.Layout

set_option autoImplicit false

/-! # Coordinates

Places on the stage are computed in any type of numbers with the operations of `Coordinate`. The
program runs on doubles. -/

namespace Dramaturg

/-- Numbers in which places on the stage are computed. -/
class Coordinate (α : Type) extends Add α, Sub α, Mul α, Div α where
  ofNat : Nat → α
  /-- The smaller of two numbers. -/
  lesser : α → α → α
  /-- The number without its sign. -/
  magnitude : α → α
  /-- Whether two numbers are equal as numbers. -/
  same : α → α → Bool
  /-- The number as the argument of a command. -/
  double : α → Float
  /-- The number as it stands in a transform. -/
  text : α → String

/-- The smaller of two doubles; of a number and none, the number. -/
def lesserDouble (x y : Float) : Float :=
  if y.isNaN then x else if x ≤ y then x else y

instance : Coordinate Float where
  ofNat n := Number.toDouble (Number.ofInt n)
  lesser := lesserDouble
  magnitude := Float.abs
  same x y := x == y
  double x := x
  text := Number.plainText

/-- A place on the stage. -/
structure Point (α : Type) where
  x : α
  y : α
deriving DecidableEq

namespace Point

variable {α : Type} [Coordinate α]

/-- The place where a figure stands before it has been given one. -/
def origin : Point α := ⟨Coordinate.ofNat 0, Coordinate.ofNat 0⟩

/-- The transform that puts a figure at a place. -/
def transform (p : Point α) : String :=
  "\x7b\"position\":\x7b\"x\":" ++ Coordinate.text p.x ++ ",\"y\":" ++ Coordinate.text p.y
    ++ "\x7d\x7d"

end Point

end Dramaturg
