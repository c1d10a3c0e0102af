import Dramaturg.Chat.Failure
import Dramaturg.Chat.Request

set_option autoImplicit false

/-! # Asking a model

A model is what answers requests; what it keeps between calls is a state of any type. A model that
sometimes answers with nothing is asked again: `askAgain` repeats the same request until an answer
is not empty, a call fails, or the attempts are used up. -/

namespace Dramaturg

/-- What came of a call: the answer, and how many new sessions the host began while it was out. -/
structure Exchange where
  answer : Except ProviderFailure ChatResponse
  interruptions : Nat := 0

/-- Something that answers requests. -/
abbrev Model (σ : Type) : Type := ChatRequest → σ → Exchange × σ

namespace Model

variable {σ : Type}

/-- The model that no call reaches. -/
def unreachable (reason : String) : Model σ :=
  fun _ s => ({ answer := .error (.unreachable reason) }, s)

/-- How many attempts a limit on repetitions allows; attempts are counted in 32 bits. -/
def attempts (limit : Nat) : Nat := min (limit + 1) (Number.twoTo 32 - 1)

/-- Whether a call has to be repeated: the model answered, but with nothing. -/
def isEmptyAnswer : Except ProviderFailure ChatResponse → Bool
  | .ok response => response.isEmpty
  | .error _ => false

/-- Asks once, and again at most `more` times as long as the answer is empty. -/
def askUpTo (ask : Model σ) (request : ChatRequest) : Nat → σ → Exchange × σ
  | 0, s => ask request s
  | more + 1, s =>
    let (exchange, s) := ask request s
    if isEmptyAnswer exchange.answer then
      let (later, s) := askUpTo ask request more s
      ({ later with interruptions := exchange.interruptions + later.interruptions }, s)
    else (exchange, s)

/-- The model that repeats empty answers. -/
def askAgain (limit : Nat) (ask : Model σ) : Model σ :=
  fun request => askUpTo ask request (attempts limit - 1)

end Model

end Dramaturg
