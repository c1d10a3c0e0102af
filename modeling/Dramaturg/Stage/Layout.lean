import Dramaturg.Stage.Coordinate

set_option autoImplicit false

/-! # Layout

Figures stand on one line between two borders, centred, as far apart as the layout asks for or as
the borders allow. Borders may be the wrong way round; the figures then stand from right to left. -/

namespace Dramaturg

/-- The bounds of the stage. -/
structure Layout (α : Type) where
  borderLeft : α
  borderRight : α
  /-- The distance between neighbours where there is room for it. -/
  characterGap : α
  /-- How long a figure takes for a move of length one. -/
  positionChangeFactor : α

namespace Layout

variable {α : Type} [Coordinate α]

/-- The distance between the borders. -/
def width (l : Layout α) : α := l.borderRight - l.borderLeft

/-- The distance between neighbours among `n` figures; none for a single one. -/
def spacing (l : Layout α) (n : Nat) : α :=
  if 1 < n then Coordinate.lesser l.characterGap (l.width / Coordinate.ofNat (n - 1))
  else Coordinate.ofNat 0

/-- Where the first of `n` figures stands. -/
def start (l : Layout α) (n : Nat) : α :=
  l.borderLeft + (l.width - Coordinate.ofNat (n - 1) * l.spacing n) / Coordinate.ofNat 2

/-- Where figure `i` of `n` stands. -/
def place (l : Layout α) (n i : Nat) : Point α :=
  ⟨if n = 1 then l.borderLeft + l.width / Coordinate.ofNat 2
    else l.start n + Coordinate.ofNat i * l.spacing n,
    Coordinate.ofNat 0⟩

end Layout

end Dramaturg
