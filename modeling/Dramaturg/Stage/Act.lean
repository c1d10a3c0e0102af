import Dramaturg.Stage.Figures

set_option autoImplicit false

/-! # Acts

An act changes the stage and gives commands, or is stopped by a fault. Acts are done in order: the
commands of the first come first, and after a fault nothing more is done, though what was changed
until then stays changed. -/

namespace Dramaturg

/-- A change of the stage with its commands. -/
abbrev Act (α : Type) : Type := Stage α → Except Fault (List Command) × Stage α

namespace Act

variable {α : Type}

/-- The act that does nothing. -/
def idle : Act α := fun s => (.ok [], s)

/-- The act that is stopped at once. -/
def stopped (fault : Fault) : Act α := fun s => (.error fault, s)

/-- An act that gives no command. -/
def silent (change : Stage α → Stage α) : Act α := fun s => (.ok [], change s)

/-- An act that gives one command. -/
def single (act : Stage α → Command × Stage α) : Act α := fun s =>
  let (command, s) := act s
  (.ok [command], s)

/-- An act that gives one command at most. -/
def optional (act : Stage α → Option Command × Stage α) : Act α := fun s =>
  let (command, s) := act s
  (.ok command.toList, s)

/-- An act that is done on a condition. -/
def when (condition : Bool) (act : Act α) : Act α := if condition then act else idle

/-- One act after the other. -/
def andThen (first second : Act α) : Act α := fun s =>
  match first s with
  | (.error fault, s) => (.error fault, s)
  | (.ok commands, s) =>
    match second s with
    | (.error fault, s) => (.error fault, s)
    | (.ok more, s) => (.ok (commands ++ more), s)

/-- Acts in order. -/
def inOrder : List (Act α) → Act α
  | [] => idle
  | act :: rest => act.andThen (inOrder rest)

end Act

end Dramaturg
