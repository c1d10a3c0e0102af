import Dramaturg.Fault
import Dramaturg.Stage.Layout

set_option autoImplicit false

/-! # The roster

Which figures stand on the stage, from left to right, and the number by which the renderer knows
each of them. A figure keeps its number as long as it stays, and a new one takes the smallest number
that is free. New figures are put at places that a source of slots chooses. -/

namespace Dramaturg

/-- A figure on the stage. -/
structure Figure (α : Type) where
  id : Nat
  path : String
  position : Point α
  /-- Where the renderer last put the figure. -/
  lastPosition : Point α
deriving DecidableEq

/-- The figures on the stage, from left to right. -/
structure Roster (α : Type) where
  figures : List (Figure α) := []
deriving DecidableEq

/-- Chooses one of `n + 1` slots among `n` figures. -/
abbrev Slots (σ : Type) : Type := (n : Nat) → σ → Fin (n + 1) × σ

namespace Roster

/-- Numbers are taken from those below this one. -/
def idLimit : Nat := 1000

section

variable {α : Type}

/-- How many figures there are. -/
def size (r : Roster α) : Nat := r.figures.length

/-- The figure of a path. -/
def find? (r : Roster α) (path : String) : Option (Figure α) :=
  r.figures.find? (·.path == path)

/-- Whether a figure of a path is on the stage. -/
def has (r : Roster α) (path : String) : Bool := (r.find? path).isSome

/-- Whether a number is in use. -/
def usesId (r : Roster α) (id : Nat) : Bool := r.figures.any (·.id == id)

/-- The smallest number that is free. -/
def nextFreeId? (r : Roster α) : Option Nat :=
  (List.range idLimit).find? fun id => !r.usesId id

/-- The figures whose paths are not wanted, each with its place in the row. -/
def absent (r : Roster α) (keep : List String) : List (Figure α × Nat) :=
  r.figures.zipIdx.filter fun placed => !keep.contains placed.1.path

/-- The numbers of the figures whose paths are not wanted. -/
def absentIds (r : Roster α) (keep : List String) : List Nat :=
  (r.absent keep).map (·.1.id)

/-- The roster without the figures whose paths are not wanted. They are taken out by their places,
    the last one first, so that the places of the others still hold. -/
def removeAbsent (r : Roster α) (keep : List String) : Roster α :=
  ⟨(r.absent keep).foldr (fun placed figures => figures.eraseIdx placed.2) r.figures⟩

/-- Puts a figure in front of the one at a slot. -/
def insert (r : Roster α) (slot : Nat) (f : Figure α) : Roster α :=
  ⟨r.figures.insertIdx slot f⟩

/-- Notes that the renderer has put the figure of a path where it now stands. -/
def settle (r : Roster α) (path : String) : Roster α :=
  ⟨r.figures.map fun f => if f.path == path then { f with lastPosition := f.position } else f⟩

end

variable {α : Type} [Coordinate α]

/-- Adds a figure for every path that is not on the stage, and gives their numbers. When no number
    is free, the work stops, and the figures added until then stay. -/
def addMissing {σ : Type} (slots : Slots σ) :
    List String → Roster α → σ → Except Fault (List Nat) × Roster α × σ
  | [], r, s => (.ok [], r, s)
  | path :: paths, r, s =>
    if r.has path then addMissing slots paths r s
    else
      match r.nextFreeId? with
      | none => (.error (.idsExhausted r.size), r, s)
      | some id =>
        let (slot, s) := slots r.size s
        let (added, r, s) :=
          addMissing slots paths (r.insert slot ⟨id, path, Point.origin, Point.origin⟩) s
        (added.map (id :: ·), r, s)

/-- Gives every figure its place. -/
def layOut (r : Roster α) (l : Layout α) : Roster α :=
  ⟨r.figures.mapIdx fun i f => { f with position := l.place r.size i }⟩

end Roster

end Dramaturg
