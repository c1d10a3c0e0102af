set_option autoImplicit false

/-! # Faults

A fault stops the work at hand for want of room: of figure ids, of positions in a text, or of places
in a list that a setting asks for. It is no answer of the story or the model. -/

namespace Dramaturg

/-- Why the work at hand was stopped. -/
inductive Fault where
  /-- All figure ids were in use, with this many figures on stage. -/
  | idsExhausted (figures : Nat)
  /-- The end of a page window lay beyond the last position of 64 bits. -/
  | windowTooWide
  /-- More history messages were asked for than a list can have. -/
  | historyTooLong
deriving DecidableEq

/-- What is told about a fault; nothing about those that no setting of a story should reach. -/
def Fault.message? : Fault → Option String
  | .idsExhausted figures =>
    some ("screen figure ids exhausted: " ++ toString figures ++ " figures on stage")
  | .windowTooWide => none
  | .historyTooLong => none

end Dramaturg
