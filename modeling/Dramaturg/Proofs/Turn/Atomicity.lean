import Dramaturg.Turn.Runner
import Dramaturg.Proofs.Chat.Retry
import Dramaturg.Proofs.Prompt.Window
import Mathlib.Algebra.Group.Nat.Defs

set_option autoImplicit false

/-! # Turns happen whole or not at all

A turn ends in one of three ways that are no fault: it fails since the model does, it is dropped
since the host began another session while the model was out, or it is acted out. Which of them it
is depends on the calls of the turn alone: on the answer of the last one, and on whether the host
interrupted any of them. Only a turn that is acted out changes the runner. -/

namespace Dramaturg

/-! ## Sessions that the host begins -/

namespace SessionClock

theorem generation_invalidateTimes (c : SessionClock) (n : Nat) :
    (c.invalidateTimes n).generation = c.generation + UInt64.ofNat n := by
  induction n with
  | zero => simp [invalidateTimes]
  | succ n ih => simp [invalidateTimes, invalidate, ih, UInt64.ofNat_add, UInt64.add_assoc]

/-- A token is out of date after other sessions, unless they are so many that the count returns to
    where it was. -/
theorem isCurrent_invalidateTimes (c : SessionClock) (n : Nat) :
    (c.invalidateTimes n).isCurrent c.token = true ↔ n % 2 ^ 64 = 0 := by
  unfold isCurrent token
  rw [beq_iff_eq, SessionToken.mk.injEq, generation_invalidateTimes, UInt64.add_eq_left,
    ← UInt64.toNat_inj, UInt64.toNat_ofNat']
  rfl

end SessionClock

/-! ## The prompt of a turn -/

/-- A prompt that is not built was stopped by a fault: assembling never fails. -/
theorem Story.buildPrompt_ne_failure (s : Story) (c : Compactor) (utterance : String)
    (transcript : List TranscriptEntry) (failure : Failure) :
    s.buildPrompt c utterance transcript ≠ .error (.failure failure) := by
  unfold Story.buildPrompt
  cases s.promptInput c utterance transcript with
  | error fault => simp
  | ok built =>
    obtain ⟨input, c'⟩ := built
    simp [Prompt.assemble_eq_pieces]

/-! ## The calls of a turn -/

namespace Runner

variable {σ : Type}

/-- What came of each call that a turn makes; there is none if the prompt cannot be built. -/
def calls (model : Model σ) (request : TurnRequest) (transcript : List TranscriptEntry) (r : Runner)
    (s : σ) : List Exchange :=
  match r.story.buildPrompt r.compactor request.prompt transcript with
  | .error _ => []
  | .ok (messages, _) =>
    Model.exchanges r.story.settings.model.retryLimit model (r.chatRequest request messages) s

/-- The runner after the host began `n` sessions. -/
def interrupted (r : Runner) (n : Nat) : Runner := { r with clock := r.clock.invalidateTimes n }

/-- The commands that a turn gives. -/
def commandsOf : Except Stop TurnOutcome → List Command
  | .ok (.completed _ commands _) => commands
  | _ => []

/-- What a turn comes to whose reply is acted out. -/
def replyOutcome (request : TurnRequest) (reply currentScene : String) (r : Runner) :
    Except Stop TurnOutcome :=
  match (r.replyAct request.channels reply currentScene r.stage).1 with
  | .error fault => .error (.fault fault)
  | .ok commands => .ok (.completed reply commands (!request.showAfterPoint))

variable (model : Model σ) (request : TurnRequest) (transcript : List TranscriptEntry)
  (currentScene : String) (r : Runner) (s : σ)

/-- A turn without a call is stopped by a fault before it asks. -/
theorem run_of_calls_eq_nil (h : r.calls model request transcript s = []) :
    ∃ fault, (r.run model request transcript currentScene s).1 = .error (.fault fault) := by
  unfold calls at h
  unfold run
  cases hprompt : r.story.buildPrompt r.compactor request.prompt transcript with
  | error stop =>
    cases stop with
    | failure failure => exact absurd hprompt (r.story.buildPrompt_ne_failure _ _ _ failure)
    | fault fault => exact ⟨fault, rfl⟩
  | ok prompt =>
    obtain ⟨messages, compactor⟩ := prompt
    obtain ⟨last, hlast, -⟩ := Model.askAgain_eq r.story.settings.model.retryLimit model
      (r.chatRequest request messages) s
    simp only [hprompt] at h
    rw [h] at hlast
    cases hlast

/-- A turn with a call got its prompt, and acts on the answer of the last call. -/
theorem run_of_getLast? {last : Exchange}
    (hlast : (r.calls model request transcript s).getLast? = some last) :
    ∃ compactor,
      let interruptions := Exchange.interruptionsOf (r.calls model request transcript s)
      let after := r.interrupted interruptions
      let ran := r.run model request transcript currentScene s
      (ran.1, ran.2.1) =
        match last.answer with
        | .error reason => (.error (.failure (.provider reason)), after)
        | .ok response =>
          if interruptions % 2 ^ 64 = 0 then
            (r.replyOutcome request response.content currentScene,
              { after with
                compactor := compactor
                stage := (r.replyAct request.channels response.content currentScene r.stage).2 })
          else (.ok .stale, after) := by
  unfold calls at *
  cases hprompt : r.story.buildPrompt r.compactor request.prompt transcript with
  | error stop =>
    rw [hprompt] at hlast
    cases hlast
  | ok prompt =>
    obtain ⟨messages, compactor⟩ := prompt
    obtain ⟨last', hlast', hask⟩ := Model.askAgain_eq r.story.settings.model.retryLimit model
      (r.chatRequest request messages) s
    rw [hprompt] at hlast
    obtain rfl : last' = last := Option.some.inj (hlast'.symm.trans hlast)
    refine ⟨compactor, ?_⟩
    unfold run
    simp only [hprompt, hask]
    cases last'.answer with
    | error reason => rfl
    | ok response =>
      -- The token is from before the calls, so only their interruptions can make it out of date.
      have hcurrent := r.clock.isCurrent_invalidateTimes (Exchange.interruptionsOf
        (Model.exchanges r.story.settings.model.retryLimit model (r.chatRequest request messages) s))
      by_cases hkept : Exchange.interruptionsOf
          (Model.exchanges r.story.settings.model.retryLimit model (r.chatRequest request messages) s)
            % 2 ^ 64 = 0
      · simp only [hkept, hcurrent.2 hkept, if_true, Bool.not_true, Bool.false_eq_true, if_false]
        unfold replyOutcome
        rcases r.replyAct request.channels response.content currentScene r.stage with
          ⟨fault | commands, stage⟩
        · rfl
        · rfl
      · have hstale := Bool.eq_false_iff.2 (mt hcurrent.1 hkept)
        simp only [hkept, hstale, Bool.not_false, if_true, if_false]
        rfl

/-- The three ways in which a turn ends that is not stopped by a fault. -/
theorem run_cases {last : Exchange}
    (hlast : (r.calls model request transcript s).getLast? = some last)
    (hreturns : ∀ fault, (r.run model request transcript currentScene s).1 ≠ .error (.fault fault))
    (hfew : Exchange.interruptionsOf (r.calls model request transcript s) < 2 ^ 64) :
    let interruptions := Exchange.interruptionsOf (r.calls model request transcript s)
    let ran := r.run model request transcript currentScene s
    (∃ reason, last.answer = .error reason ∧ ran.1 = .error (.failure (.provider reason)) ∧
        ran.2.1 = r.interrupted interruptions) ∨
      (∃ response, last.answer = .ok response ∧ interruptions ≠ 0 ∧ ran.1 = .ok .stale ∧
        ran.2.1 = r.interrupted interruptions) ∨
      ∃ response commands, last.answer = .ok response ∧ interruptions = 0 ∧
        ran.1 = .ok (.completed response.content commands (!request.showAfterPoint)) := by
  intro interruptions ran
  obtain ⟨compactor, hran⟩ := r.run_of_getLast? model request transcript currentScene s hlast
  change (ran.1, ran.2.1) = _ at hran
  cases hanswer : last.answer with
  | error reason =>
    rw [hanswer] at hran
    obtain ⟨houtcome, hafter⟩ := Prod.mk.inj hran
    exact .inl ⟨reason, rfl, houtcome, hafter⟩
  | ok response =>
    rw [hanswer] at hran
    right
    by_cases hnone : interruptions = 0
    · right
      have hkept : interruptions % 2 ^ 64 = 0 := by rw [hnone, Nat.zero_mod]
      simp only [interruptions] at hkept
      simp only [hkept, if_true] at hran
      have houtcome : ran.1 = r.replyOutcome request response.content currentScene :=
        (Prod.mk.inj hran).1
      unfold replyOutcome at houtcome
      cases hacted : (r.replyAct request.channels response.content currentScene r.stage).1 with
      | error fault =>
        rw [hacted] at houtcome
        exact absurd houtcome (hreturns fault)
      | ok commands =>
        rw [hacted] at houtcome
        exact ⟨response, commands, rfl, hnone, houtcome⟩
    · left
      -- The count cannot have come round to the token again.
      have hstale : ¬ interruptions % 2 ^ 64 = 0 := by rwa [Nat.mod_eq_of_lt hfew]
      simp only [interruptions] at hstale
      simp only [hstale, if_false] at hran
      obtain ⟨houtcome, hafter⟩ := Prod.mk.inj hran
      exact ⟨response, rfl, hnone, houtcome, hafter⟩

/-- What a turn comes to does not depend on sessions that were begun before it. -/
theorem run_interrupted (earlier : Nat)
    (hreturns : ∀ fault, (r.run model request transcript currentScene s).1 ≠ .error (.fault fault)) :
    ((r.interrupted earlier).run model request transcript currentScene s).1
      = (r.run model request transcript currentScene s).1 := by
  -- Neither the prompt nor the calls look at the clock.
  have hcalls : (r.interrupted earlier).calls model request transcript s
      = r.calls model request transcript s := rfl
  cases hlast : (r.calls model request transcript s).getLast? with
  | none =>
    obtain ⟨fault, hfault⟩ := r.run_of_calls_eq_nil model request transcript currentScene s
      (List.getLast?_eq_none_iff.1 hlast)
    exact absurd hfault (hreturns fault)
  | some last =>
    obtain ⟨_, hran⟩ := r.run_of_getLast? model request transcript currentScene s hlast
    obtain ⟨_, hran'⟩ :=
      (r.interrupted earlier).run_of_getLast? model request transcript currentScene s hlast
    have houtcome := congrArg Prod.fst hran
    have houtcome' := congrArg Prod.fst hran'
    rw [houtcome, houtcome', hcalls]
    cases last.answer with
    | error reason => rfl
    | ok response =>
      by_cases hkept : Exchange.interruptionsOf (r.calls model request transcript s) % 2 ^ 64 = 0
      · simp only [hkept, if_true]
        rfl
      · simp only [hkept, if_false]

/-- **A turn happens whole or not at all.** A turn that is not stopped by a fault fails exactly if
    its last call does. Otherwise it is stale exactly if the host began a session during one of its
    calls, and is acted out if not. A turn that is not acted out gives no command and leaves all of
    the runner as it was, except that its clock counts the sessions that the host began. Sessions
    from before the turn change nothing. -/
theorem run_whole_or_not_at_all
    (hreturns : ∀ fault, (r.run model request transcript currentScene s).1 ≠ .error (.fault fault))
    (hfew : Exchange.interruptionsOf (r.calls model request transcript s) < 2 ^ 64) :
    let calls := r.calls model request transcript s
    let outcome := (r.run model request transcript currentScene s).1
    let after := (r.run model request transcript currentScene s).2.1
    ∃ last, calls.getLast? = some last ∧
      (∀ failure, outcome = .error (.failure failure) ↔
        ∃ reason, last.answer = .error reason ∧ failure = .provider reason) ∧
      (outcome = .ok .stale ↔
        (∃ response, last.answer = .ok response) ∧ ∃ call ∈ calls, 0 < call.interruptions) ∧
      (∀ reply, (∃ commands, outcome = .ok (.completed reply commands (!request.showAfterPoint))) ↔
        (∃ response, last.answer = .ok response ∧ response.content = reply) ∧
          ∀ call ∈ calls, call.interruptions = 0) ∧
      ((∀ reply commands autoAdvance, outcome ≠ .ok (.completed reply commands autoAdvance)) →
        after = r.interrupted (Exchange.interruptionsOf calls) ∧ commandsOf outcome = []) ∧
      ∀ earlier, ((r.interrupted earlier).run model request transcript currentScene s).1
        = outcome := by
  intro calls outcome after
  cases hlast : calls.getLast? with
  | none =>
    obtain ⟨fault, hfault⟩ := r.run_of_calls_eq_nil model request transcript currentScene s
      (List.getLast?_eq_none_iff.1 hlast)
    exact absurd hfault (hreturns fault)
  | some last =>
    -- Both conditions on the calls are conditions on the sum of their interruptions.
    have hsome : (∃ call ∈ calls, 0 < call.interruptions) ↔
        Exchange.interruptionsOf calls ≠ 0 := by
      rw [Ne, Exchange.interruptionsOf_eq_zero_iff]
      simp [Nat.pos_iff_ne_zero]
    have hnone := Exchange.interruptionsOf_eq_zero_iff calls
    refine ⟨last, rfl, ?_⟩
    rw [hsome, ← hnone]
    have hearlier (earlier : Nat) :
        ((r.interrupted earlier).run model request transcript currentScene s).1 = outcome :=
      r.run_interrupted model request transcript currentScene s earlier hreturns
    rcases r.run_cases model request transcript currentScene s hlast hreturns hfew with
      ⟨reason, hanswer, houtcome, hafter⟩ | ⟨response, hanswer, hhost, houtcome, hafter⟩ |
        ⟨response, commands, hanswer, hhost, houtcome⟩
    · have houtcome : outcome = .error (.failure (.provider reason)) := houtcome
      rw [houtcome] at hearlier ⊢
      exact ⟨by simp [hanswer, eq_comm], by simp [hanswer], by simp [hanswer],
        fun _ => ⟨hafter, rfl⟩, hearlier⟩
    · have houtcome : outcome = .ok .stale := houtcome
      have hhost : Exchange.interruptionsOf calls ≠ 0 := hhost
      rw [houtcome] at hearlier ⊢
      exact ⟨by simp [hanswer], by simp [hanswer, hhost], by simp [hhost],
        fun _ => ⟨hafter, rfl⟩, hearlier⟩
    · have houtcome :
          outcome = .ok (.completed response.content commands (!request.showAfterPoint)) := houtcome
      have hhost : Exchange.interruptionsOf calls = 0 := hhost
      rw [houtcome] at hearlier ⊢
      exact ⟨by simp [hanswer], by simp [hhost], by simp [hanswer, hhost],
        fun hnot => absurd rfl (hnot _ _ _), hearlier⟩

/-- A model that answers with nothing at first, and then while the host begins a session. -/
def lateModel : Model Nat := fun _ answered =>
  if answered = 0 then ({ answer := .ok ⟨"", "", none⟩ }, 1)
  else ({ answer := .ok ⟨"Hello.", "", none⟩, interruptions := 1 }, answered + 1)

/-- A runner of a story without documents. -/
def newcomer : Runner := new (Story.new {}) ⟨fun _ => 0, 0⟩ ⟨fun _ => "", 0⟩

/-- A request for a first turn. -/
def greeting : TurnRequest := ⟨.zero, "Hi", none, {}, false⟩

theorem calls_newcomer : newcomer.calls lateModel greeting [] 0 =
    [⟨.ok ⟨"", "", none⟩, 0⟩, ⟨.ok ⟨"Hello.", "", none⟩, 1⟩] := by
  obtain ⟨prompt, hprompt⟩ := newcomer.story.exists_buildPrompt_eq newcomer.compactor greeting.prompt
    [] (by decide) (by decide)
  unfold calls
  rw [hprompt]
  rfl

/-- The second call of a first turn is interrupted, and nothing of the turn is kept. -/
theorem run_newcomer_stale :
    (∀ fault, (newcomer.run lateModel greeting [] "" 0).1 ≠ .error (.fault fault)) ∧
      Exchange.interruptionsOf (newcomer.calls lateModel greeting [] 0) < 2 ^ 64 ∧
      (newcomer.run lateModel greeting [] "" 0).1 = .ok .stale ∧
      (newcomer.run lateModel greeting [] "" 0).2.1 = newcomer.interrupted 1 := by
  have hlast : (newcomer.calls lateModel greeting [] 0).getLast?
      = some ⟨.ok ⟨"Hello.", "", none⟩, 1⟩ := by
    rw [calls_newcomer]
    rfl
  have hreturns (fault : Fault) :
      (newcomer.run lateModel greeting [] "" 0).1 ≠ .error (.fault fault) := by
    obtain ⟨_, hran⟩ := newcomer.run_of_getLast? lateModel greeting [] "" 0 hlast
    rw [congrArg Prod.fst hran, calls_newcomer]
    simp
  have hfew : Exchange.interruptionsOf (newcomer.calls lateModel greeting [] 0) < 2 ^ 64 := by
    rw [calls_newcomer]
    decide
  obtain ⟨last, hlast', -, hstale, -, hkept, -⟩ :=
    newcomer.run_whole_or_not_at_all lateModel greeting [] "" 0 hreturns hfew
  obtain rfl : _ = last := Option.some.inj (hlast.symm.trans hlast')
  have houtcome := hstale.2 ⟨⟨_, rfl⟩, by rw [calls_newcomer]; simp⟩
  refine ⟨hreturns, hfew, houtcome, ?_⟩
  have hafter := (hkept (by rw [houtcome]; simp)).1
  rw [hafter, calls_newcomer]
  rfl

end Runner

end Dramaturg
