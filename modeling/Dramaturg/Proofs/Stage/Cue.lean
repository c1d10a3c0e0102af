import Dramaturg.Proofs.Stage.Direction
import Dramaturg.Proofs.Stage.Screen

set_option autoImplicit false

/-! # Cues

A command does not tell for which path a figure is shown. A cue is a command with the figure that it
is about, and a ledger is a screen on which the path of each figure is noted, too. A ledger allows a
cue that takes off or moves only what is there, and shows no figure in place of another one. If it
allows all of several cues, then what is shown under a number is shown for one path until the number
is taken off. -/

namespace Dramaturg

variable {α : Type}

/-- A command with the figure that it is about. -/
inductive Cue (α : Type) where
  | hide (id : Nat)
  | show (feature : Feature) (figure : Figure α)
  | move (factor : α) (figure : Figure α)
  /-- A command that is about no figure. -/
  | other (command : Command)

/-- The command of a cue. -/
def Cue.command [Coordinate α] : Cue α → Command
  | .hide id => Stage.hideCommand id
  | .show feature f => Stage.showCommand feature f
  | .move factor f => Stage.moveCommand factor f
  | .other command => command

/-- Whether a renderer can read off the command what the cue is. -/
def Cue.Legible : Cue α → Prop
  | .hide id => id < Roster.idLimit
  | .show feature f => f.id < Roster.idLimit ∧ feature.content f.path ≠ ""
  | .move _ f => f.id < Roster.idLimit
  | .other command => command.kind ≠ .changeFigure ∧ command.kind ≠ .setTransform

/-- What a cue does to the screen. -/
def Cue.change? [Coordinate α] : Cue α → Option ScreenChange
  | .hide id => some (.hide id)
  | .show feature f => some (.show f.id ⟨feature.content f.path, f.position.transform⟩)
  | .move _ f => some (.move f.id f.position.transform)
  | .other _ => none

theorem Cue.change?_command [Coordinate α] {c : Cue α} (h : c.Legible) :
    c.command.change? = c.change? := by
  have hlimit : Roster.idLimit ≤ 2 ^ 53 := by decide
  cases c with
  | hide id => exact Stage.change?_hideCommand (Nat.lt_of_lt_of_le h hlimit)
  | «show» feature f =>
    exact Stage.change?_showCommand feature (Nat.lt_of_lt_of_le h.1 hlimit) h.2
  | move factor f => exact Stage.change?_moveCommand factor (Nat.lt_of_lt_of_le h hlimit)
  | other command =>
    obtain ⟨hfigure, htransform⟩ := h
    show command.change? = none
    unfold Command.change?
    cases hkind : command.kind with
    | changeFigure => exact absurd hkind hfigure
    | setTransform => exact absurd hkind htransform
    | say | changeBackground | bgm | changeScene => rfl

/-! ## Ledgers -/

/-- What is seen under each number, with the path for which it is shown. -/
abbrev Ledger : Type := Nat → Option (String × Shown)

namespace Ledger

/-- The screen of a ledger. -/
def screen (l : Ledger) : Screen := fun id => (l id).map (·.2)

variable [Coordinate α]

/-- The ledger after a cue. -/
def step (l : Ledger) : Cue α → Ledger
  | .hide id => Function.update l id none
  | .show feature f =>
    Function.update l f.id (some (f.path, ⟨feature.content f.path, f.position.transform⟩))
  | .move _ f =>
    Function.update l f.id
      ((l f.id).map fun entry => (entry.1, { entry.2 with transform := f.position.transform }))
  | .other _ => l

/-- The ledger after cues. -/
def after (l : Ledger) (cues : List (Cue α)) : Ledger := cues.foldl step l

/-- Whether a cue is in order: it takes off or moves what is there, or shows a figure under a number
    that is free or its own. -/
def Allows (l : Ledger) : Cue α → Prop
  | .hide id => (l id).isSome
  | .show _ f => ∀ entry, l f.id = some entry → entry.1 = f.path
  | .move _ f => (l f.id).isSome
  | .other _ => True

/-- Whether each of several cues is in order when its turn comes. -/
def AllowsAll (l : Ledger) : List (Cue α) → Prop
  | [] => True
  | c :: cues => l.Allows c ∧ (l.step c).AllowsAll cues

theorem after_append (l : Ledger) (cues more : List (Cue α)) :
    l.after (cues ++ more) = (l.after cues).after more := List.foldl_append

theorem allowsAll_append (l : Ledger) (cues more : List (Cue α)) :
    l.AllowsAll (cues ++ more) ↔ l.AllowsAll cues ∧ (l.after cues).AllowsAll more := by
  induction cues generalizing l with
  | nil => exact ⟨fun h => ⟨trivial, h⟩, And.right⟩
  | cons c cues ih =>
    show l.Allows c ∧ (l.step c).AllowsAll (cues ++ more) ↔ _
    rw [ih, ← and_assoc]
    rfl

/-- The renderer keeps up: what a legible cue does to a ledger, its command does to the screen. -/
theorem screen_step (l : Ledger) {c : Cue α} (h : c.Legible) :
    (l.step c).screen = l.screen.step c.command := by
  have hupdate (id : Nat) (entry : Option (String × Shown)) :
      Ledger.screen (Function.update l id entry)
        = Function.update l.screen id (entry.map (·.2)) := by
    funext other
    unfold screen
    by_cases heq : other = id
    · subst heq
      rw [Function.update_self, Function.update_self]
    · rw [Function.update_of_ne heq, Function.update_of_ne heq]
  unfold Screen.step
  rw [Cue.change?_command h]
  cases c with
  | hide id => exact hupdate id none
  | «show» feature f => exact hupdate f.id _
  | move factor f =>
    refine (hupdate f.id _).trans ?_
    show _ = Function.update l.screen f.id ((l.screen f.id).map _)
    unfold screen
    rw [Option.map_map, Option.map_map]
    rfl
  | other command => rfl

theorem screen_after (l : Ledger) {cues : List (Cue α)} (h : ∀ c ∈ cues, c.Legible) :
    (l.after cues).screen = (cues.map Cue.command).foldl Screen.step l.screen := by
  induction cues generalizing l with
  | nil => rfl
  | cons c cues ih =>
    rw [List.map_cons, List.foldl_cons, ← l.screen_step (h c List.mem_cons_self)]
    exact ih (l.step c) fun d hd => h d (List.mem_cons_of_mem c hd)

/-- Each cue is in order after those before it. -/
theorem allows_of_append {l : Ledger} {before after : List (Cue α)} {c : Cue α}
    (h : l.AllowsAll (before ++ c :: after)) : (l.after before).Allows c :=
  ((allowsAll_append l before (c :: after)).1 h).2.1

/-- As long as a number is not taken off, all that is shown under it is shown for one path. -/
theorem path_after {l : Ledger} {cues : List (Cue α)} (h : l.AllowsAll cues) {id : Nat}
    (hkept : Cue.hide id ∉ cues) {path : String} {shown : Shown} (hl : l id = some (path, shown)) :
    ∃ shown', l.after cues id = some (path, shown') := by
  induction cues generalizing l shown with
  | nil => exact ⟨shown, hl⟩
  | cons c cues ih =>
    obtain ⟨hallows, hrest⟩ := h
    obtain ⟨hother, hkept⟩ := not_or.1 (mt List.mem_cons.2 hkept)
    -- It is enough that one cue keeps the path. What is seen may change: the place, or the content.
    suffices hstep : ∃ shown', l.step c id = some (path, shown') by
      obtain ⟨shown', hstep⟩ := hstep
      exact ih hrest hkept hstep
    cases c with
    | hide other =>
      have hne : id ≠ other := fun heq => hother (heq ▸ rfl)
      exact ⟨shown, by rw [step, Function.update_of_ne hne, hl]⟩
    | «show» feature f =>
      by_cases heq : id = f.id
      · subst heq
        -- A figure is shown under a number that is in use only if the path is its own.
        have hpath : path = f.path := hallows _ hl
        exact ⟨_, by rw [step, Function.update_self, hpath]⟩
      · exact ⟨shown, by rw [step, Function.update_of_ne heq, hl]⟩
    | move factor f =>
      by_cases heq : id = f.id
      · subst heq
        exact ⟨_, by rw [step, Function.update_self, hl, Option.map_some]⟩
      · exact ⟨shown, by rw [step, Function.update_of_ne heq, hl]⟩
    | other command => exact ⟨shown, hl⟩

/-- Two figures that are shown under one number, which is not taken off in between, are shown for
    one path. -/
theorem path_eq_of_allowsAll {l : Ledger} {before between after : List (Cue α)}
    {feature feature' : Feature} {f f' : Figure α}
    (h : l.AllowsAll (before ++ .show feature f :: between ++ .show feature' f' :: after))
    (hid : f.id = f'.id) (hkept : Cue.hide f.id ∉ between) : f.path = f'.path := by
  -- The second figure is allowed after the first one and all that came in between.
  have hsecond := allows_of_append h
  rw [after_append] at hsecond
  obtain ⟨hfirst, -⟩ := (allowsAll_append _ _ _).1 h
  obtain ⟨-, -, hbetween⟩ := (allowsAll_append _ _ _).1 hfirst
  obtain ⟨shown, hshown⟩ := path_after hbetween hkept (Function.update_self f.id _ _)
  exact hsecond _ (hid ▸ hshown)

end Ledger

end Dramaturg
