import Dramaturg.Stage.Basic
import Dramaturg.Table.Figure

set_option autoImplicit false

/-! # Showing figures

A paragraph names the figures that are to be seen. Those not named leave, new ones come in, all are
laid out again, and each one named is shown in its pose and moved if it does not stand where the
renderer last put it. -/

namespace Dramaturg

namespace Stage

variable {α : Type}

/-- Takes a figure off the stage. -/
def hideCommand (id : Nat) : Command :=
  ⟨.changeFigure, "", [⟨"id", .ofNat id⟩, ⟨"next", .flag true⟩]⟩

variable [Coordinate α]

/-- Shows a figure in a pose. -/
def showCommand (feature : Feature) (f : Figure α) : Command :=
  ⟨.changeFigure, feature.content f.path,
    [⟨"motion", .text feature.motion⟩, ⟨"expression", .text feature.expression⟩,
      ⟨"next", .flag true⟩, ⟨"transform", .text f.position.transform⟩, ⟨"id", .ofNat f.id⟩]⟩

/-- How long a figure takes to its place. -/
def moveDuration (factor : α) (f : Figure α) : α :=
  factor * Coordinate.magnitude (f.lastPosition.x - f.position.x)

/-- Moves a figure to its place. -/
def moveCommand (factor : α) (f : Figure α) : Command :=
  ⟨.setTransform, f.position.transform,
    [⟨"target", .ofNat f.id⟩, ⟨"next", .flag true⟩,
      ⟨"duration", .number (Coordinate.double (moveDuration factor f))⟩]⟩

/-- Whether a figure stands elsewhere than the renderer last put it. -/
def hasMoved (f : Figure α) : Bool :=
  !Coordinate.same f.lastPosition.x f.position.x

/-- Shows one figure, if it is on the stage. -/
def showOne (factor : α) (feature : Feature) (path : String) (r : Roster α) :
    List Command × Roster α :=
  match r.find? path with
  | none => ([], r)
  | some f =>
    if hasMoved f then ([showCommand feature f, moveCommand factor f], r.settle path)
    else ([showCommand feature f], r)

/-- Shows figures one after the other. -/
def showAll (factor : α) : List (Feature × String) → Roster α → List Command × Roster α
  | [], r => ([], r)
  | (feature, path) :: rest, r =>
    let (shown, r) := showOne factor feature path r
    let (more, r) := showAll factor rest r
    (shown ++ more, r)

/-- Shows the figures of a paragraph: the feature at a place is that of the model at the same place.
    Without a feature or a model the stage stays as it is. When no number is free for a new figure
    the work stops half done: who is not named has left, and no command is given. -/
def figures (features : List Feature) (paths : List String) (s : Stage α) :
    Except Fault (List Command) × Stage α :=
  if features.isEmpty || paths.isEmpty then (.ok [], s)
  else
    let hidden := (s.roster.absentIds paths).map hideCommand
    match Roster.addMissing Random.Source.index paths (s.roster.removeAbsent paths) s.random with
    | (.error fault, roster, random) =>
      (.error fault, { s with roster := roster, random := random })
    | (.ok _, roster, random) =>
      let (shown, roster) :=
        showAll s.rules.layout.positionChangeFactor (features.zip paths)
          (roster.layOut s.rules.layout)
      (.ok (hidden ++ shown), { s with roster := roster, random := random })

end Stage

end Dramaturg
