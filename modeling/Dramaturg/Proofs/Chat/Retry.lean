import Dramaturg.Chat.Model
import Mathlib.Algebra.Group.Nat.Defs

set_option autoImplicit false

/-! # The calls behind an answer

A model that repeats empty answers gives one exchange for a whole run of calls. `Model.exchanges`
lists what came of each of these calls, in order, and `askAgain_eq` says how the one exchange is
made of them: it has the answer of the last call, and the host's interruptions of all of them.

How many calls there are is told by what comes of them. `Model.EndsAfter` says it for a script of
everything that would come: every call before the last one brings an empty answer, and the last one
does not, or is the last that is allowed. `askAgain_scripted` finds such a number of calls for every
script; it is the number of times that the request has been sent. -/

namespace Dramaturg

/-! ## Lists of exchanges -/

namespace Exchange

/-- How many sessions the host began during some calls. -/
def interruptionsOf (calls : List Exchange) : Nat :=
  calls.foldr (fun call n => call.interruptions + n) 0

@[simp] theorem interruptionsOf_nil : interruptionsOf [] = 0 := rfl

@[simp] theorem interruptionsOf_cons (call : Exchange) (calls : List Exchange) :
    interruptionsOf (call :: calls) = call.interruptions + interruptionsOf calls := rfl

theorem interruptionsOf_eq_zero_iff (calls : List Exchange) :
    interruptionsOf calls = 0 ↔ ∀ call ∈ calls, call.interruptions = 0 := by
  induction calls with
  | nil => simp
  | cons call calls ih => simp [ih]

end Exchange

/-! ## The calls of a model that asks again -/

namespace Model

variable {σ : Type}

/-- What came of each call that `askUpTo` makes. -/
def exchangesUpTo (ask : Model σ) (request : ChatRequest) : Nat → σ → List Exchange
  | 0, s => [(ask request s).1]
  | more + 1, s =>
    let (exchange, s) := ask request s
    if isEmptyAnswer exchange.answer then exchange :: exchangesUpTo ask request more s
    else [exchange]

/-- What came of each call that `askAgain` makes. -/
def exchanges (limit : Nat) (ask : Model σ) (request : ChatRequest) (s : σ) : List Exchange :=
  exchangesUpTo ask request (attempts limit - 1) s

/-- The exchange is made of its calls: the answer is that of the last one. -/
theorem askUpTo_eq (ask : Model σ) (request : ChatRequest) (more : Nat) (s : σ) :
    ∃ last, (exchangesUpTo ask request more s).getLast? = some last ∧
      (askUpTo ask request more s).1 =
        ⟨last.answer, Exchange.interruptionsOf (exchangesUpTo ask request more s)⟩ := by
  induction more generalizing s with
  | zero => exact ⟨(ask request s).1, by simp [exchangesUpTo], by simp [exchangesUpTo, askUpTo]⟩
  | succ more ih =>
    rcases hask : ask request s with ⟨exchange, s'⟩
    obtain ⟨last, hlast, heq⟩ := ih s'
    by_cases hempty : isEmptyAnswer exchange.answer
    · refine ⟨last, ?_, ?_⟩
      · simp [exchangesUpTo, hask, hempty, List.getLast?_cons, hlast]
      · simp [exchangesUpTo, askUpTo, hask, hempty, heq]
    · refine ⟨exchange, ?_, ?_⟩
      · simp [exchangesUpTo, hask, hempty]
      · simp [exchangesUpTo, askUpTo, hask, hempty]

theorem askAgain_eq (limit : Nat) (ask : Model σ) (request : ChatRequest) (s : σ) :
    ∃ last, (exchanges limit ask request s).getLast? = some last ∧
      (askAgain limit ask request s).1 =
        ⟨last.answer, Exchange.interruptionsOf (exchanges limit ask request s)⟩ :=
  askUpTo_eq ask request _ s

/-! ## The last call -/

/-- The model whose calls come to what a script says, the first one to `script 1`. It keeps the
    requests that it was sent. -/
def scripted (script : Nat → Exchange) : Model (List ChatRequest) :=
  fun request sent => (script (sent.length + 1), sent ++ [request])

theorem scripted_apply (script : Nat → Exchange) (request : ChatRequest)
    (sent : List ChatRequest) :
    scripted script request sent = (script (sent.length + 1), sent ++ [request]) := rfl

/-- A call that succeeded, but brought an empty answer. -/
def CameToNothing (exchange : Exchange) : Prop :=
  ∃ response, exchange.answer = .ok response ∧ response.content = ""

/-- Of a script, `calls` calls are made where at most `most` are allowed. -/
structure EndsAfter (script : Nat → Exchange) (most calls : Nat) : Prop where
  pos : 0 < calls
  le : calls ≤ most
  before : ∀ n, 0 < n → n < calls → CameToNothing (script n)
  last : calls = most ∨ ¬ CameToNothing (script calls)

theorem isEmptyAnswer_iff (exchange : Exchange) :
    isEmptyAnswer exchange.answer = true ↔ CameToNothing exchange := by
  rcases exchange with ⟨answer, interruptions⟩
  cases answer with
  | error failure => simp [isEmptyAnswer, CameToNothing]
  | ok response => simp [isEmptyAnswer, CameToNothing, ChatResponse.isEmpty]

theorem EndsAfter.one {script : Nat → Exchange} {most : Nat} (hmost : 0 < most)
    (hlast : most = 1 ∨ ¬ CameToNothing (script 1)) : EndsAfter script most 1 where
  pos := Nat.one_pos
  le := hmost
  before := by
    intro n hpos hlt
    omega
  last := hlast.imp Eq.symm id

/-- An empty answer in front is one call more. -/
theorem EndsAfter.succ {script : Nat → Exchange} {most calls : Nat}
    (hfirst : CameToNothing (script 1))
    (h : EndsAfter (fun n => script (n + 1)) most calls) :
    EndsAfter script (most + 1) (calls + 1) where
  pos := Nat.succ_pos calls
  le := Nat.succ_le_succ h.le
  before := by
    intro n hpos hlt
    obtain ⟨n, rfl⟩ : ∃ m, n = m + 1 := ⟨n - 1, by omega⟩
    rcases Nat.eq_zero_or_pos n with rfl | hn
    · exact hfirst
    · exact h.before n hn (Nat.lt_of_succ_lt_succ hlt)
  last := h.last.imp (congrArg (· + 1)) id

/-- The calls that are still to come after some were made, where the script goes on. -/
theorem askUpTo_scripted (script : Nat → Exchange) (request : ChatRequest) (more : Nat)
    (sent : List ChatRequest) :
    ∃ calls, EndsAfter (fun n => script (sent.length + n)) (more + 1) calls ∧
      (askUpTo (scripted script) request more sent).2 = sent ++ List.replicate calls request ∧
      (askUpTo (scripted script) request more sent).1.answer
        = (script (sent.length + calls)).answer := by
  induction more generalizing sent with
  | zero => exact ⟨1, .one Nat.one_pos (.inl rfl), rfl, rfl⟩
  | succ more ih =>
    by_cases hempty : isEmptyAnswer (script (sent.length + 1)).answer
    · have hfirst := (isEmptyAnswer_iff _).1 hempty
      obtain ⟨calls, hends, hsent, hanswer⟩ := ih (sent ++ [request])
      have hlater (n : Nat) : (sent ++ [request]).length + n = sent.length + (n + 1) := by
        rw [List.length_append, List.length_singleton]
        omega
      simp only [hlater] at hends hanswer
      refine ⟨calls + 1, .succ hfirst hends, ?_, ?_⟩
      · simp [askUpTo, scripted_apply, hempty, hsent, List.replicate_succ]
      · simp [askUpTo, scripted_apply, hempty, hanswer]
    · have hlast := mt (isEmptyAnswer_iff _).2 hempty
      refine ⟨1, .one (Nat.succ_pos _) (.inr hlast), ?_, ?_⟩
      · simp [askUpTo, scripted_apply, hempty]
      · simp [askUpTo, scripted_apply, hempty]

theorem attempts_eq (limit : Nat) : attempts limit = min (limit + 1) (2 ^ 32 - 1) := rfl

/-- Whatever the calls come to, the same request is sent until one of them fails or brings an
    answer that is not empty, and at most as often as the limit allows; what the last call came to
    is the answer. -/
theorem askAgain_scripted (limit : Nat) (script : Nat → Exchange) (request : ChatRequest) :
    ∃ calls, EndsAfter script (min (limit + 1) (2 ^ 32 - 1)) calls ∧
      (askAgain limit (scripted script) request []).2 = List.replicate calls request ∧
      (askAgain limit (scripted script) request []).1.answer = (script calls).answer := by
  obtain ⟨calls, hends, hsent, hanswer⟩ :=
    askUpTo_scripted script request (attempts limit - 1) []
  have hmost : attempts limit - 1 + 1 = min (limit + 1) (2 ^ 32 - 1) := by
    rw [attempts_eq]
    omega
  simp only [List.length_nil, Nat.zero_add, List.nil_append, hmost] at hends hsent hanswer
  exact ⟨calls, hends, hsent, hanswer⟩

end Model

end Dramaturg
