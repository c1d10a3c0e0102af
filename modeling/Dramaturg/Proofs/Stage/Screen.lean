import Dramaturg.Stage.Figures
import Dramaturg.Proofs.Number.Whole
import Mathlib.Logic.Function.Basic

set_option autoImplicit false

/-! # The screen

A renderer shows models under numbers, and does to them what the commands say, one after the other.
All it knows of a figure is what it reads out of a command: the number back from the double, and the
transform from its argument. A command to change a figure takes it off if it names no model. -/

namespace Dramaturg

/-- What is seen under a number: the model and its transform. -/
structure Shown where
  content : String
  transform : String
deriving DecidableEq

/-- What is seen under each number. -/
abbrev Screen : Type := Nat → Option Shown

/-- What a command does to a screen. -/
inductive ScreenChange where
  | hide (id : Nat)
  | show (id : Nat) (shown : Shown)
  | move (id : Nat) (transform : String)

namespace Command

/-- The natural number in an argument. -/
def whole? (c : Command) (key : String) : Option Nat :=
  match c.get? key with
  | some (.number x) => (Number.ofDouble x).whole?
  | _ => none

/-- The text in an argument. -/
def text? (c : Command) (key : String) : Option String :=
  match c.get? key with
  | some (.text s) => some s
  | _ => none

/-- What a command says about the figures, if anything. -/
def change? (c : Command) : Option ScreenChange :=
  match c.kind with
  | .changeFigure =>
    (c.whole? "id").map fun id =>
      if c.content.isEmpty then .hide id
      else .show id ⟨c.content, (c.text? "transform").getD ""⟩
  | .setTransform => (c.whole? "target").map fun id => .move id c.content
  | _ => none

end Command

namespace Screen

/-- The screen after a change. Nothing comes of moving what is not there. -/
def change (s : Screen) : ScreenChange → Screen
  | .hide id => Function.update s id none
  | .show id shown => Function.update s id (some shown)
  | .move id transform =>
    Function.update s id ((s id).map fun shown => { shown with transform := transform })

/-- The screen after a command. -/
def step (s : Screen) (c : Command) : Screen :=
  match c.change? with
  | some change => s.change change
  | none => s

/-- A screen on which nothing is seen. -/
def blank : Screen := fun _ => none

/-- The screen after commands. -/
def replay (commands : List Command) : Screen := commands.foldl step blank

end Screen

/-! ## Reading the commands of the stage -/

namespace Stage

variable {α : Type}

theorem change?_hideCommand {id : Nat} (hid : id < 2 ^ 53) :
    (hideCommand id).change? = some (.hide id) := by
  have hwhole : (hideCommand id).whole? "id" = some id := Number.whole?_ofDouble_toDouble hid
  show ((hideCommand id).whole? "id").map _ = _
  rw [hwhole]
  rfl

variable [Coordinate α]

theorem change?_showCommand (feature : Feature) {f : Figure α} (hid : f.id < 2 ^ 53)
    (hcontent : feature.content f.path ≠ "") :
    (showCommand feature f).change?
      = some (.show f.id ⟨feature.content f.path, f.position.transform⟩) := by
  have hwhole : (showCommand feature f).whole? "id" = some f.id :=
    Number.whole?_ofDouble_toDouble hid
  have hnonempty : (showCommand feature f).content.isEmpty = false := by
    simpa [showCommand] using hcontent
  show ((showCommand feature f).whole? "id").map _ = _
  rw [hwhole, Option.map_some, hnonempty]
  rfl

theorem change?_moveCommand (factor : α) {f : Figure α} (hid : f.id < 2 ^ 53) :
    (moveCommand factor f).change? = some (.move f.id f.position.transform) := by
  have hwhole : (moveCommand factor f).whole? "target" = some f.id :=
    Number.whole?_ofDouble_toDouble hid
  show ((moveCommand factor f).whole? "target").map _ = _
  rw [hwhole]
  rfl

end Stage

end Dramaturg
