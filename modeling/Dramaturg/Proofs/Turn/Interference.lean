import Dramaturg.Proofs.Turn.Atomicity
import Dramaturg.Proofs.Turn.Paragraph
import Dramaturg.Proofs.Turn.Run

set_option autoImplicit false

/-! # Turns with channels switched off

A run in which some channels are switched off is compared with the same run in which they are not.
Whether a reply is acted out, and which, depends neither on the channels nor on the stage, so the
runs differ only in how it is acted out, and there the one is restricted to what the other has on
the channels that are on. -/

namespace Dramaturg

variable {m : Channels}

/-! ## Turns -/

/-- A request for other channels. -/
def TurnRequest.on (channels : Channels) (request : TurnRequest) : TurnRequest :=
  { request with channels := channels }

/-- A request with some channels switched off. -/
def TurnRequest.within (m : Channels) (request : TurnRequest) : TurnRequest :=
  request.on (request.channels.both m)

/-- What a turn came to, with the commands on channels that are on. -/
def TurnOutcome.within (m : Channels) : TurnOutcome → TurnOutcome
  | .completed reply commands autoAdvance =>
    .completed reply (Command.within m commands) autoAdvance
  | .stale => .stale

/-- An occasion with some channels switched off. -/
def Occasion.within (m : Channels) : Occasion → Occasion
  | .turn request transcript currentScene => .turn (request.within m) transcript currentScene
  | .reload disk => .reload disk

namespace Runner

/-- The runner with another stage. -/
def withStage (stage : Stage Float) (r : Runner) : Runner := { r with stage := stage }

/-- The runner with another compactor. -/
def withCompactor (compactor : Compactor) (r : Runner) : Runner := { r with compactor := compactor }

/-- Whether two runners are the same but for the stage, and their stages agree. -/
structure Agree (m : Channels) (r r' : Runner) : Prop where
  rest : r' = r.withStage r'.stage
  stage : r.stage.Agree m r'.stage

theorem Agree.refl (r : Runner) : Agree m r r := ⟨rfl, .refl r.stage⟩

theorem restricts_paragraphAct (r : Runner) (channels : Channels)
    (reply currentScene paragraph : String) :
    (r.paragraphAct channels reply currentScene paragraph).Restricts m
      (r.paragraphAct (channels.both m) reply currentScene paragraph) where
  untouched s' k hoff := by
    have hlooked := Resolution.sameOn_ofBundle r.story channels currentScene
      (r.directives.read paragraph) s' hoff
    -- What is left alone does not depend on the other run, so it may be that of the same stage.
    obtain ⟨hfound, -⟩ := Resolution.agree_ofBundle r.story channels currentScene
      (r.directives.read paragraph) (Stage.Agree.refl (m := m) s')
    exact hlooked.trans ((Resolution.restricts_act hfound channels reply _).untouched _ k hoff)
  agrees s s' hagree := by
    obtain ⟨hfound, hstage⟩ := Resolution.agree_ofBundle r.story channels currentScene
      (r.directives.read paragraph) hagree
    exact (Resolution.restricts_act hfound channels reply _).agrees _ _ hstage

theorem restricts_replyAct (r : Runner) (channels : Channels) (reply currentScene : String) :
    (r.replyAct channels reply currentScene).Restricts m
      (r.replyAct (channels.both m) reply currentScene) := by
  apply Act.restricts_inOrder
  refine .cons Act.restricts_beginParagraph ?_
  rw [List.forall₂_map_left_iff, List.forall₂_map_right_iff, List.forall₂_same]
  exact fun paragraph _ => r.restricts_paragraphAct channels reply currentScene paragraph

/-- The runner when a reply has been acted out. -/
def acted (channels : Channels) (reply currentScene : String) (compactor : Compactor)
    (clock : SessionClock) (r : Runner) : Runner :=
  { r with
    stage := (r.replyAct channels reply currentScene r.stage).2
    compactor := compactor
    clock := clock }

variable {σ : Type} (model : Model σ) (request : TurnRequest) (transcript : List TranscriptEntry)
  (currentScene : String) (r : Runner) (s : σ)

theorem replyOutcome_eq (reply : String) :
    r.replyOutcome request reply currentScene
      = ((r.replyAct request.channels reply currentScene r.stage).1.mapError .fault).map
          fun commands => .completed reply commands (!request.showAfterPoint) := by
  unfold replyOutcome
  cases (r.replyAct request.channels reply currentScene r.stage).1 with
  | error fault => rfl
  | ok commands => rfl

/-- What a turn comes to that acts out a reply, and the runner afterwards. -/
theorem run_of_answer {messages : List Message} {compactor : Compactor} {exchange : Exchange}
    {s₁ : σ} {response : ChatResponse}
    (hprompt : r.story.buildPrompt r.compactor request.prompt transcript
      = .ok (messages, compactor))
    (hask : Model.askAgain r.story.settings.model.retryLimit model
      (r.chatRequest request messages) s = (exchange, s₁))
    (hanswer : exchange.answer = .ok response)
    (hcurrent : (r.clock.invalidateTimes exchange.interruptions).isCurrent r.clock.token = true) :
    r.run model request transcript currentScene s
      = (r.replyOutcome request response.content currentScene,
          r.acted request.channels response.content currentScene compactor
            (r.clock.invalidateTimes exchange.interruptions), s₁) := by
  simp only [run, hprompt, hask, hanswer, hcurrent, Bool.not_true, Bool.false_eq_true, if_false]
  unfold replyOutcome acted
  rcases r.replyAct request.channels response.content currentScene r.stage with
    ⟨fault | commands, stage⟩
  · rfl
  · rfl

/-- Whether a reply is acted out, and which, depends on the messages that are sent, but neither on
    the channels nor on the stage nor on how the compactor came by these messages. -/
theorem run_cases_of_prompt (messages : List Message) :
    (∃ outcome clock s₁,
        (∀ reply commands autoAdvance, outcome ≠ .ok (.completed reply commands autoAdvance)) ∧
        ∀ channels stage c c',
          r.story.buildPrompt c request.prompt transcript = .ok (messages, c') →
          ((r.withStage stage).withCompactor c).run model (request.on channels) transcript
              currentScene s
            = (outcome, { (r.withStage stage).withCompactor c with clock := clock }, s₁)) ∨
      ∃ reply clock s₁, ∀ channels stage c c',
        r.story.buildPrompt c request.prompt transcript = .ok (messages, c') →
        ((r.withStage stage).withCompactor c).run model (request.on channels) transcript
            currentScene s
          = (((r.withStage stage).withCompactor c).replyOutcome (request.on channels) reply
                currentScene,
              ((r.withStage stage).withCompactor c).acted channels reply currentScene c' clock,
              s₁) := by
  rcases hask : Model.askAgain r.story.settings.model.retryLimit model
    (r.chatRequest request messages) s with ⟨exchange, s₁⟩
  -- The model is asked before the stage or the channels are looked at.
  have hask' (channels : Channels) (stage : Stage Float) (c : Compactor) :
      let r' := (r.withStage stage).withCompactor c
      Model.askAgain r'.story.settings.model.retryLimit model
        (r'.chatRequest (request.on channels) messages) s = (exchange, s₁) := hask
  have hprompt' (channels : Channels) (stage : Stage Float) {c c' : Compactor}
      (hprompt : r.story.buildPrompt c request.prompt transcript = .ok (messages, c')) :
      let r' := (r.withStage stage).withCompactor c
      r'.story.buildPrompt r'.compactor (request.on channels).prompt transcript
        = .ok (messages, c') := hprompt
  let clock := r.clock.invalidateTimes exchange.interruptions
  cases hanswer : exchange.answer with
  | error reason =>
    refine .inl ⟨.error (.failure (.provider reason)), clock, s₁, nofun, ?_⟩
    intro channels stage c c' hprompt
    simp only [run, hprompt' channels stage hprompt, hask', hanswer]
    rfl
  | ok response =>
    by_cases hcurrent : clock.isCurrent r.clock.token = true
    · refine .inr ⟨response.content, clock, s₁, ?_⟩
      intro channels stage c c' hprompt
      exact run_of_answer model (request.on channels) transcript currentScene
        ((r.withStage stage).withCompactor c) s (hprompt' channels stage hprompt)
        (hask' channels stage c) hanswer hcurrent
    · refine .inl ⟨.ok .stale, clock, s₁, nofun, ?_⟩
      intro channels stage c c' hprompt
      simp only [run, hprompt' channels stage hprompt, hask', hanswer]
      apply if_pos
      rw [Bool.not_eq_true']
      exact Bool.eq_false_iff.2 hcurrent

/-- Whether a reply is acted out, and which, depends neither on the channels nor on the stage. -/
theorem run_cases_of_channels :
    (∃ outcome clock s₁,
        (∀ reply commands autoAdvance, outcome ≠ .ok (.completed reply commands autoAdvance)) ∧
        ∀ channels stage,
          (r.withStage stage).run model (request.on channels) transcript currentScene s
            = (outcome, { r.withStage stage with clock := clock }, s₁)) ∨
      ∃ reply compactor clock s₁, ∀ channels stage,
        (r.withStage stage).run model (request.on channels) transcript currentScene s
          = ((r.withStage stage).replyOutcome (request.on channels) reply currentScene,
              (r.withStage stage).acted channels reply currentScene compactor clock, s₁) := by
  cases hprompt : r.story.buildPrompt r.compactor request.prompt transcript with
  | error stop =>
    refine .inl ⟨.error stop, r.clock, s, nofun, ?_⟩
    intro channels stage
    simp only [run, withStage, TurnRequest.on, hprompt]
  | ok prompt =>
    obtain ⟨messages, compactor⟩ := prompt
    rcases run_cases_of_prompt model request transcript currentScene r s messages with
      ⟨outcome, clock, s₁, hnone, hrun⟩ | ⟨reply, clock, s₁, hrun⟩
    · exact .inl ⟨outcome, clock, s₁, hnone,
        fun channels stage => hrun channels stage r.compactor compactor hprompt⟩
    · exact .inr ⟨reply, compactor, clock, s₁,
        fun channels stage => hrun channels stage r.compactor compactor hprompt⟩

/-- A turn with some channels off comes to what the turn comes to on the others, or else the turn
    wants numbers for figures. -/
theorem run_within {r r' : Runner} (h : r.Agree m r') :
    let full := r.run model request transcript currentScene s
    let less := r'.run model (request.within m) transcript currentScene s
    (∃ count, full.1 = .error (.fault (.idsExhausted count))) ∨
      less.1 = full.1.map (TurnOutcome.within m) ∧ full.2.1.Agree m less.2.1 ∧
        less.2.2 = full.2.2 := by
  intro full less
  obtain ⟨stage', rfl⟩ : ∃ stage', r' = r.withStage stage' := ⟨_, h.rest⟩
  have hstage : r.stage.Agree m stage' := h.stage
  rcases run_cases_of_channels model request transcript currentScene r s with
    ⟨outcome, clock, s₁, hnone, hrun⟩ | ⟨reply, compactor, clock, s₁, hrun⟩
  · have hfull : full = (outcome, { r with clock := clock }, s₁) := hrun request.channels r.stage
    have hless : less = (outcome, { r.withStage stage' with clock := clock }, s₁) := hrun _ stage'
    rw [hfull, hless]
    refine .inr ⟨?_, ⟨rfl, hstage⟩, rfl⟩
    rcases outcome with stop | ⟨reply, commands, autoAdvance⟩ | _
    · rfl
    · exact absurd rfl (hnone reply commands autoAdvance)
    · rfl
  · have hfull : full = (r.replyOutcome request reply currentScene,
        r.acted request.channels reply currentScene compactor clock, s₁) :=
      hrun request.channels r.stage
    have hless : less = ((r.withStage stage').replyOutcome (request.within m) reply currentScene,
        (r.withStage stage').acted (request.channels.both m) reply currentScene compactor clock,
        s₁) := hrun _ stage'
    have hreply : (r.withStage stage').replyOutcome (request.within m) reply currentScene
        = ((r.replyAct (request.channels.both m) reply currentScene stage').1.mapError .fault).map
            fun commands => .completed reply commands (!request.showAfterPoint) :=
      replyOutcome_eq (request.within m) currentScene (r.withStage stage') reply
    rw [hfull, hless, hreply, replyOutcome_eq]
    rcases (r.restricts_replyAct request.channels reply currentScene).agrees r.stage stage' hstage
      with ⟨count, hcount⟩ | ⟨hresult, hagree⟩
    · exact .inl ⟨count, by rw [hcount]; rfl⟩
    · refine .inr ⟨?_, ⟨rfl, hagree⟩, rfl⟩
      rw [hresult]
      cases (r.replyAct request.channels reply currentScene r.stage).1 with
      | error fault => rfl
      | ok commands => rfl

/-- What the stage keeps for a channel that a request switches off stays as it was. -/
theorem sameOn_run {k : Channel} (hoff : ¬ request.channels.isOn k = true) :
    r.stage.SameOn (r.run model request transcript currentScene s).2.1.stage k := by
  rcases run_cases_of_channels model request transcript currentScene r s with
    ⟨outcome, clock, s₁, -, hrun⟩ | ⟨reply, compactor, clock, s₁, hrun⟩
  · have hran : r.run model request transcript currentScene s
        = (outcome, { r with clock := clock }, s₁) := hrun request.channels r.stage
    rw [hran]
    exact .refl r.stage k
  · have hran : r.run model request transcript currentScene s
        = (r.replyOutcome request reply currentScene,
            r.acted request.channels reply currentScene compactor clock, s₁) :=
      hrun request.channels r.stage
    have huntouched :=
      (r.restricts_replyAct request.channels reply currentScene).untouched r.stage k hoff
    rw [Channels.both_self] at huntouched
    rw [hran]
    exact huntouched

theorem sameOn_reload (disk : String → Listing) (r : Runner) (k : Channel) :
    r.stage.SameOn (r.reload disk).2.stage k := by
  unfold reload
  rcases r.story.reload disk with ⟨failure | loaded, story⟩
  · exact .refl r.stage k
  · exact .refl r.stage k

theorem Agree.reload {r r' : Runner} (h : r.Agree m r') (disk : String → Listing) :
    (r.reload disk).2.Agree m (r'.reload disk).2 := by
  obtain ⟨stage', rfl⟩ : ∃ stage', r' = r.withStage stage' := ⟨_, h.rest⟩
  have hstage : r.stage.Agree m stage' := h.stage
  unfold Runner.reload
  simp only [withStage]
  rcases r.story.reload disk with ⟨failure | loaded, story⟩
  · exact ⟨rfl, hstage⟩
  · obtain ⟨⟨-, hparagraph, hsentence, hids⟩, hsame⟩ := hstage
    exact ⟨rfl, ⟨rfl, hparagraph, hsentence, hids⟩, hsame⟩

/-! ## Runs -/

theorem runAll_within (model : Model σ) (m : Channels) (occasions : List Occasion) {r r' : Runner}
    (h : r.Agree m r') (s : σ) :
    let full := runAll model occasions r s
    let less := runAll model (occasions.map (Occasion.within m)) r' s
    (∃ count, .error (.fault (.idsExhausted count)) ∈ full.1) ∨
      less.1 = full.1.map (Except.map (TurnOutcome.within m)) ∧ full.2.1.Agree m less.2.1 ∧
        less.2.2 = full.2.2 := by
  induction occasions generalizing r r' s with
  | nil => exact .inr ⟨rfl, h, rfl⟩
  | cons occasion rest ih =>
    cases occasion with
    | reload disk => exact ih (h.reload disk) s
    | turn request transcript currentScene =>
      have hstep := run_within model request transcript currentScene s h
      rcases hfull : r.run model request transcript currentScene s with ⟨outcome, after, s₁⟩
      rcases hless : r'.run model (request.within m) transcript currentScene s with
        ⟨outcome', after', s₁'⟩
      simp only [hfull, hless] at hstep
      simp only [List.map_cons, Occasion.within, runAll, hfull, hless]
      rcases hstep with ⟨count, rfl⟩ | ⟨rfl, hagree, rfl⟩
      · exact .inl ⟨count, by simp [isFault]⟩
      · -- The two runs end at the same turn.
        have hfault : isFault (outcome.map (TurnOutcome.within m)) = isFault outcome := by
          rcases outcome with (failure | fault) | outcome <;> rfl
        rw [hfault]
        by_cases hends : isFault outcome = true
        · rw [if_pos hends, if_pos hends]
          exact .inr ⟨rfl, hagree, rfl⟩
        · rw [if_neg hends, if_neg hends]
          rcases ih hagree s₁' with ⟨count, hcount⟩ | ⟨hmore, hlast, hmodel⟩
          · exact .inl ⟨count, List.mem_cons_of_mem _ hcount⟩
          · exact .inr ⟨congrArg (List.cons _) hmore, hlast, hmodel⟩

theorem sameOn_runAll (model : Model σ) (occasions : List Occasion) (r : Runner) (s : σ)
    {k : Channel} (hoff : ¬ m.isOn k = true) :
    r.stage.SameOn (runAll model (occasions.map (Occasion.within m)) r s).2.1.stage k := by
  induction occasions generalizing r s with
  | nil => exact .refl r.stage k
  | cons occasion rest ih =>
    cases occasion with
    | reload disk => exact (sameOn_reload disk r k).trans (ih (r.reload disk).2 s)
    | turn request transcript currentScene =>
      have hoff' : ¬ (request.within m).channels.isOn k = true := by
        simp [TurnRequest.within, TurnRequest.on, hoff]
      have hturn := sameOn_run model (request.within m) transcript currentScene r s hoff'
      rcases hrun : r.run model (request.within m) transcript currentScene s with
        ⟨outcome, after, s₁⟩
      simp only [hrun] at hturn
      simp only [List.map_cons, Occasion.within, runAll, hrun]
      by_cases hends : isFault outcome = true
      · rw [if_pos hends]
        exact hturn
      · rw [if_neg hends]
        exact hturn.trans (ih after s₁)

/-- **Channels do not interfere.** A run in which there are numbers for all figures is repeated with
    some channels switched off. Turn by turn it comes to the same, less the commands on these
    channels. The model is asked the same, and the rest of the runner and of the stage is the same
    in the end. In any run what the stage keeps for a channel that is switched off stays as it was,
    be it switched off throughout or by the request of one turn. -/
theorem channels_do_not_interfere (model : Model σ) (m : Channels) (occasions : List Occasion)
    (r : Runner) (s : σ) :
    let full := runAll model occasions r s
    let less := runAll model (occasions.map (Occasion.within m)) r s
    ((∀ count, .error (.fault (.idsExhausted count)) ∉ full.1) →
        less.1 = full.1.map (Except.map (TurnOutcome.within m)) ∧ full.2.1.Agree m less.2.1 ∧
          less.2.2 = full.2.2) ∧
      (∀ k, ¬ m.isOn k = true → r.stage.SameOn less.2.1.stage k) ∧
      ∀ request transcript currentScene k, ¬ request.channels.isOn k = true →
        r.stage.SameOn (r.run model request transcript currentScene s).2.1.stage k := by
  intro full less
  refine ⟨?_, ?_, ?_⟩
  · intro henough
    rcases runAll_within model m occasions (Agree.refl r) s with ⟨count, hcount⟩ | hsame
    · exact absurd hcount (henough count)
    · exact hsame
  · intro k hoff
    exact sameOn_runAll model occasions r s hoff
  · intro request transcript currentScene k hoff
    exact sameOn_run model request transcript currentScene r s hoff

/-- A story in which a name brings a figure, and music. -/
def teaParty : Story where
  base := {}
  settings := { paragraphSplitter := "\n\n" }
  tables :=
    { bgm := ⟨[⟨"Alice", "waltz.mp3"⟩]⟩
      figures := ⟨[⟨"Alice", "alice.json", [⟨"smile", [⟨"wave", "smile", ""⟩]⟩]⟩]⟩ }

/-- A model that lets Alice greet with a smile. -/
def hostess : Model Unit :=
  fun _ s => ({ answer := .ok ⟨"<<<Alice:smile>>>Hello.", "", none⟩ }, s)

/-- Without figures the music and the words are those of the run with figures. -/
theorem runAll_teaParty :
    let r := new teaParty ⟨fun _ => 0, 0⟩ ⟨toString, 0⟩
    let occasions := [.turn greeting [] "", .turn greeting [] ""]
    let m : Channels := { figure := false }
    let full := runAll hostess occasions r ()
    let less := runAll hostess (occasions.map (Occasion.within m)) r ()
    (∀ count, .error (.fault (.idsExhausted count)) ∉ full.1) ∧ full.2.1.stage.roster.size = 1 ∧
      less.1 = full.1.map (Except.map (TurnOutcome.within m)) ∧
      less.1.map (fun outcome => (commandsOf outcome).map (·.kind)) = [[.bgm, .say], [.say]] ∧
      less.2.1.stage.roster.size = 0 := by
  intro r occasions m full less
  have henough : ∀ count, .error (.fault (.idsExhausted count)) ∉ full.1 := by
    have hreturns : full.1.all (fun outcome => !isFault outcome) = true := by decide +kernel
    intro count hmem
    exact absurd (List.all_eq_true.1 hreturns _ hmem) (by simp [isFault])
  obtain ⟨hsame, huntouched, -⟩ := channels_do_not_interfere hostess m occasions r ()
  have hroster : r.stage.roster = less.2.1.stage.roster := (huntouched .figure (by decide)).1
  refine ⟨henough, ?_, (hsame henough).1, ?_, ?_⟩
  · decide +kernel
  · decide +kernel
  · rw [← hroster]
    rfl

end Runner

end Dramaturg
