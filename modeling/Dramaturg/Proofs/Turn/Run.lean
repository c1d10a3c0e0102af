import Dramaturg.Turn.Runner

set_option autoImplicit false

/-! # Runs

A runner is asked for turns, and now and then to read its story again. `Runner.runAll` gives what
each turn comes to, in order, up to the first fault. What is on the stage changes only in turns that
are acted out: `Runner.performed` lists them. -/

namespace Dramaturg

/-- What a runner can be asked for. -/
inductive Occasion where
  | turn (request : TurnRequest) (transcript : List TranscriptEntry) (currentScene : String)
  | reload (disk : String → Listing)

/-- Whether a turn was stopped by a fault, so that no turn can follow. -/
def isFault : Except Stop TurnOutcome → Bool
  | .error (.fault _) => true
  | .error (.failure _) => false
  | .ok _ => false

/-- A turn that was acted out. -/
structure Performed where
  /-- The runner before the turn. -/
  runner : Runner
  channels : Channels
  reply : String
  commands : List Command

namespace Runner

variable {σ : Type}

/-- What the turns on some occasions come to, with the runner and the state of the model afterwards.
    A fault ends them. -/
def runAll (model : Model σ) :
    List Occasion → Runner → σ → List (Except Stop TurnOutcome) × Runner × σ
  | [], r, s => ([], r, s)
  | .reload disk :: rest, r, s => runAll model rest (r.reload disk).2 s
  | .turn request transcript currentScene :: rest, r, s =>
    let (outcome, after, s) := r.run model request transcript currentScene s
    if isFault outcome then ([outcome], after, s)
    else
      let (more, last, s) := runAll model rest after s
      (outcome :: more, last, s)

/-- The turns that are acted out on some occasions. A fault ends them. -/
def performed (model : Model σ) : List Occasion → Runner → σ → List Performed
  | [], _, _ => []
  | .reload disk :: rest, r, s => performed model rest (r.reload disk).2 s
  | .turn request transcript currentScene :: rest, r, s =>
    match r.run model request transcript currentScene s with
    | (.ok (.completed reply commands _), after, s) =>
      ⟨r, request.channels, reply, commands⟩ :: performed model rest after s
    | (.ok .stale, after, s) => performed model rest after s
    | (.error (.failure _), after, s) => performed model rest after s
    | (.error (.fault _), _, _) => []

variable {model : Model σ} {request : TurnRequest} {transcript : List TranscriptEntry}
  {currentScene : String} {r after : Runner} {s s' : σ}

/-- The stage after a turn: that of the acted reply, or else that before the turn. -/
theorem stage_of_run {outcome : Except Stop TurnOutcome}
    (h : r.run model request transcript currentScene s = (outcome, after, s')) :
    (∃ reply commands, outcome = .ok (.completed reply commands (!request.showAfterPoint)) ∧
        r.replyAct request.channels reply currentScene r.stage = (.ok commands, after.stage)) ∨
      (∃ fault, outcome = .error (.fault fault)) ∨
      ((outcome = .ok .stale ∨ ∃ failure, outcome = .error (.failure failure)) ∧
        after.stage = r.stage) := by
  unfold run at h
  cases hprompt : r.story.buildPrompt r.compactor request.prompt transcript with
  | error stop =>
    rw [hprompt] at h
    obtain ⟨rfl, rfl, -⟩ : .error stop = outcome ∧ r = after ∧ s = s' := by simpa using h
    cases stop with
    | fault fault => exact .inr (.inl ⟨fault, rfl⟩)
    | failure failure => exact .inr (.inr ⟨.inr ⟨failure, rfl⟩, rfl⟩)
  | ok prompt =>
    obtain ⟨messages, compactor⟩ := prompt
    rw [hprompt] at h
    rcases hask : Model.askAgain r.story.settings.model.retryLimit model
      (r.chatRequest request messages) s with ⟨exchange, s₁⟩
    simp only [hask] at h
    cases hanswer : exchange.answer with
    | error reason =>
      simp only [hanswer] at h
      obtain ⟨rfl, rfl, -⟩ := h
      exact .inr (.inr ⟨.inr ⟨_, rfl⟩, rfl⟩)
    | ok response =>
      simp only [hanswer] at h
      split at h
      · obtain ⟨rfl, rfl, -⟩ := h
        exact .inr (.inr ⟨.inl rfl, rfl⟩)
      · rcases hact : r.replyAct request.channels response.content currentScene r.stage with
          ⟨fault | commands, stage⟩
        · rw [hact] at h
          obtain ⟨rfl, rfl, -⟩ := h
          exact .inr (.inl ⟨fault, rfl⟩)
        · rw [hact] at h
          obtain ⟨rfl, rfl, -⟩ := h
          exact .inl ⟨_, _, rfl, hact⟩

/-- Reading the story again leaves the last speaker alone. -/
theorem lastSpeaker_reload (disk : String → Listing) (r : Runner) :
    (r.reload disk).2.stage.lastSpeaker = r.stage.lastSpeaker := by
  unfold reload
  rcases r.story.reload disk with ⟨failure | loaded, story⟩
  · rfl
  · rfl

end Runner

end Dramaturg
