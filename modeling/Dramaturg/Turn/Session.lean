set_option autoImplicit false

/-! # Sessions

A turn notes the generation of the session before it asks the model. A host that loads a save in the
meantime begins a new generation, and the turn then knows its reply to be stale. Generations are
counted in 64 bits. -/

namespace Dramaturg

/-- A generation of the session. -/
structure SessionToken where
  generation : UInt64
deriving DecidableEq

/-- The clock that counts generations. -/
structure SessionClock where
  generation : UInt64 := 0
deriving DecidableEq

namespace SessionClock

/-- The present generation. -/
def token (c : SessionClock) : SessionToken := ⟨c.generation⟩

/-- Begins a new generation. -/
def invalidate (c : SessionClock) : SessionClock := ⟨c.generation + 1⟩

/-- Begins `n` new generations, one after the other. -/
def invalidateTimes (c : SessionClock) : Nat → SessionClock
  | 0 => c
  | n + 1 => (c.invalidateTimes n).invalidate

/-- Whether a token names the present generation. -/
def isCurrent (c : SessionClock) (t : SessionToken) : Bool := c.token == t

end SessionClock

end Dramaturg
