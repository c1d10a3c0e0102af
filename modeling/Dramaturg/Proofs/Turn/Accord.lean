import Dramaturg.Proofs.Prompt.Cursor
import Dramaturg.Proofs.Story.Afresh
import Dramaturg.Proofs.Turn.Course
import Dramaturg.Proofs.Turn.Interference

set_option autoImplicit false

/-! # A runner in accord with its story

A runner keeps copies of what the settings of its story say: the rules of the directives, the pager,
two texts of the compactor and the rules of the stage. Turns change neither the settings nor the
copies. Reading the story again renews all of them if its directory can be listed. If not, the story
falls back to the settings from before its documents, and the copies stay. -/

namespace Dramaturg

/-! ## Acts that keep the rules -/

/-- Whether an act leaves the rules of the stage alone. -/
def Act.KeepsRules {α : Type} (act : Act α) : Prop := ∀ s, (act s).2.rules = s.rules

theorem Stage.lasts_rules {α : Type} : Stage.Lasts fun s s' : Stage α => s'.rules = s.rules where
  trans h h' := h'.trans h
  frame h := h.rules.symm
  beginParagraph _ := rfl
  beginSentence _ := rfl

namespace Runner

theorem keepsRules_replyAct (r : Runner) (channels : Channels) (reply currentScene : String) :
    (r.replyAct channels reply currentScene).KeepsRules :=
  r.keeps_replyAct Stage.lasts_rules channels reply currentScene

/-! ## What can happen to a runner -/

/-- What can happen to a runner. In a turn the model may be in any state. -/
inductive Event (σ : Type) where
  | seeded (seed : UInt64)
  | clocked (clock : SessionClock)
  | turn (request : TurnRequest) (transcript : List TranscriptEntry) (currentScene : String) (s : σ)
  | reload (disk : String → Listing)

variable {σ : Type} (model : Model σ)

/-- The runner after an event, whatever a turn or reading the story again comes to. -/
def after (r : Runner) : Event σ → Runner
  | .seeded seed => r.withSeed seed
  | .clocked clock => r.withClock clock
  | .turn request transcript currentScene s => (r.run model request transcript currentScene s).2.1
  | .reload disk => (r.reload disk).2

/-- The runner after events, one after the other. -/
def afterAll (r : Runner) (events : List (Event σ)) : Runner := events.foldl (after model) r

/-- Whether a runner reads replies and transcripts by some settings. -/
structure ReadsBy (r : Runner) (s : Settings) : Prop where
  directives : r.directives = s.directives
  pager : r.pager = Pager.ofSettings s
  userName : r.compactor.userName = s.userName
  waitingInfo : r.compactor.waitingInfo = s.waitingInfo

/-- Whether all that a runner has copied from settings is copied from those of its story. -/
structure InAccord (r : Runner) : Prop where
  reads : r.ReadsBy r.story.settings
  rules : r.stage.rules = r.story.settings.stageRules

/-- Whether a runner has still the story and the copies of another one, but for those on the
    stage. -/
structure Follows (r r' : Runner) : Prop where
  story : r'.story = r.story
  directives : r'.directives = r.directives
  pager : r'.pager = r.pager
  compactor : r'.compactor.forget = r.compactor.forget

variable {r r' r'' : Runner}

theorem Follows.refl (r : Runner) : r.Follows r := ⟨rfl, rfl, rfl, rfl⟩

theorem Follows.trans (h : r.Follows r') (h' : r'.Follows r'') : r.Follows r'' :=
  ⟨h'.story.trans h.story, h'.directives.trans h.directives, h'.pager.trans h.pager,
    h'.compactor.trans h.compactor⟩

theorem Follows.readsBy_iff (h : r.Follows r') (s : Settings) : r'.ReadsBy s ↔ r.ReadsBy s := by
  obtain ⟨huser, hwaiting, -⟩ := Compactor.mk.inj h.compactor
  constructor
  · rintro ⟨hdirectives, hpager, huser', hwaiting'⟩
    exact ⟨h.directives ▸ hdirectives, h.pager ▸ hpager, huser ▸ huser', hwaiting ▸ hwaiting'⟩
  · rintro ⟨hdirectives, hpager, huser', hwaiting'⟩
    exact ⟨h.directives.trans hdirectives, h.pager.trans hpager, huser.trans huser',
      hwaiting.trans hwaiting'⟩

theorem inAccord_new (story : Story) (random : Random.Source) (ids : IdSupply) :
    (new story random ids).InAccord :=
  ⟨⟨rfl, rfl, rfl, rfl⟩, rfl⟩

/-! ## Turns -/

/-- A turn changes neither the story nor a copy of its settings. -/
theorem follows_run (r : Runner) (request : TurnRequest) (transcript : List TranscriptEntry)
    (currentScene : String) (s : σ) :
    let after := (r.run model request transcript currentScene s).2.1
    r.Follows after ∧ after.stage.rules = r.stage.rules := by
  intro after
  cases hprompt : r.story.buildPrompt r.compactor request.prompt transcript with
  | error stop =>
    have hafter : after = r := by simp only [after, run, hprompt]
    rw [hafter]
    exact ⟨.refl r, rfl⟩
  | ok prompt =>
    obtain ⟨messages, compactor⟩ := prompt
    rcases run_cases_of_prompt model request transcript currentScene r s messages with
      ⟨outcome, clock, s₁, -, hrun⟩ | ⟨reply, clock, s₁, hrun⟩
    · have hrun := hrun request.channels r.stage r.compactor compactor hprompt
      have hafter : after = { r with clock := clock } :=
        congrArg (fun ran => ran.2.1) hrun
      rw [hafter]
      exact ⟨⟨rfl, rfl, rfl, rfl⟩, rfl⟩
    · have hrun := hrun request.channels r.stage r.compactor compactor hprompt
      have hafter : after = r.acted request.channels reply currentScene compactor clock :=
        congrArg (fun ran => ran.2.1) hrun
      rw [hafter]
      exact ⟨⟨rfl, rfl, rfl, r.story.forget_of_buildPrompt request.prompt transcript hprompt⟩,
        r.keepsRules_replyAct request.channels reply currentScene r.stage⟩

/-! ## Events between readings of the story -/

variable {events : List (Event σ)}

theorem follows_afterAll (r : Runner) (h : ∀ disk, .reload disk ∉ events) :
    r.Follows (r.afterAll model events) := by
  unfold afterAll
  induction events generalizing r with
  | nil => exact .refl r
  | cons event events ih =>
    have hrest := ih (r.after model event)
      fun disk hdisk => h disk (List.mem_cons_of_mem event hdisk)
    refine Follows.trans ?_ hrest
    cases event with
    | seeded seed => exact ⟨rfl, rfl, rfl, rfl⟩
    | clocked clock => exact ⟨rfl, rfl, rfl, rfl⟩
    | turn request transcript currentScene s =>
      exact (follows_run model _ request transcript currentScene s).1
    | reload disk => exact absurd List.mem_cons_self (h disk)

/-- The stage goes by the rules of the story if it did before, or was set up anew in between. -/
theorem rules_afterAll_iff (r : Runner) (h : ∀ disk, .reload disk ∉ events) :
    (r.afterAll model events).stage.rules = r.story.settings.stageRules ↔
      r.stage.rules = r.story.settings.stageRules ∨ ∃ seed, .seeded seed ∈ events := by
  unfold afterAll
  induction events generalizing r with
  | nil => simp
  | cons event events ih =>
    have hrest := ih (r.after model event)
      fun disk hdisk => h disk (List.mem_cons_of_mem event hdisk)
    rw [List.foldl_cons]
    cases event with
    | seeded seed =>
      have hset : (r.after model (.seeded seed)).stage.rules = r.story.settings.stageRules := rfl
      exact iff_of_true (hrest.2 (.inl hset)) (.inr ⟨seed, List.mem_cons_self⟩)
    | clocked clock =>
      have hsame : r.after model (.clocked clock) = r.withClock clock := rfl
      rw [hsame] at hrest ⊢
      simpa [withClock] using hrest
    | turn request transcript currentScene s =>
      obtain ⟨hfollows, hrules⟩ := r.follows_run model request transcript currentScene s
      have hran : r.after model (.turn request transcript currentScene s)
        = (r.run model request transcript currentScene s).2.1 := rfl
      rw [hran] at hrest ⊢
      rw [hfollows.story, hrules] at hrest
      simpa using hrest
    | reload disk => exact absurd List.mem_cons_self (h disk)

theorem inAccord_afterAll_iff (r : Runner) (h : ∀ disk, .reload disk ∉ events) :
    (r.afterAll model events).InAccord ↔
      r.ReadsBy r.story.settings ∧
        (r.stage.rules = r.story.settings.stageRules ∨ ∃ seed, .seeded seed ∈ events) := by
  have hfollows := follows_afterAll model r h
  rw [← rules_afterAll_iff model r h, ← hfollows.readsBy_iff]
  constructor
  · rintro ⟨hreads, hrules⟩
    rw [hfollows.story] at hreads hrules
    exact ⟨hreads, hrules⟩
  · rintro ⟨hreads, hrules⟩
    rw [← hfollows.story] at hreads hrules
    exact ⟨hreads, hrules⟩

/-! ## Reading the story again -/

theorem inAccord_reload_of_ok {disk : String → Listing} {loaded : Nat}
    (h : (r.reload disk).1 = .ok loaded) : (r.reload disk).2.InAccord := by
  unfold reload at *
  rcases hstory : r.story.reload disk with ⟨failure | count, story⟩
  · rw [hstory] at h
    cases h
  · exact ⟨⟨rfl, rfl, rfl, rfl⟩, rfl⟩

/-- If the directory cannot be listed, the settings change, and nothing else does. -/
theorem reload_of_error {disk : String → Listing} {failure : Failure}
    (h : (r.reload disk).1 = .error failure) :
    (r.reload disk).2 = { r with story := (Story.new r.story.base).withSource r.story.source } := by
  have hreload := r.story.reload_eq disk
  unfold reload at *
  cases hsource : r.story.source with
  | none =>
    rw [hsource] at hreload
    rw [hreload] at h
    cases h
  | some dir =>
    rw [hsource] at hreload
    dsimp only at hreload
    cases hfresh : Story.ofDirectory r.story.base dir (disk dir) with
    | error reason =>
      rw [hfresh] at hreload
      rw [hreload]
    | ok fresh =>
      rw [hfresh] at hreload
      rw [hreload] at h
      cases h

theorem base_after (event : Event σ) : (r.after model event).story.base = r.story.base := by
  cases event with
  | seeded seed => rfl
  | clocked clock => rfl
  | turn request transcript currentScene s =>
    exact congrArg Story.base (follows_run model r request transcript currentScene s).1.story
  | reload disk =>
    have hbase := r.story.base_reload disk
    show (r.reload disk).2.story.base = r.story.base
    unfold reload
    rcases hstory : r.story.reload disk with ⟨failure | loaded, story⟩
    · rwa [hstory] at hbase
    · rwa [hstory] at hbase

theorem base_afterAll (r : Runner) (events : List (Event σ)) :
    (r.afterAll model events).story.base = r.story.base := by
  unfold afterAll
  induction events generalizing r with
  | nil => rfl
  | cons event events ih => rw [List.foldl_cons, ih, base_after]

/-- What has to be said of a reading of the story for the runner to be in accord after it. -/
theorem inAccord_afterAll_reload_iff (r : Runner) (disk : String → Listing)
    (h : ∀ disk', .reload disk' ∉ events) :
    ((r.reload disk).2.afterAll model events).InAccord ↔
      (∃ loaded, (r.reload disk).1 = .ok loaded) ∨
        r.ReadsBy r.story.base ∧
          (r.stage.rules = r.story.base.stageRules ∨ ∃ seed, .seeded seed ∈ events) := by
  rw [inAccord_afterAll_iff model _ h]
  cases hreload : (r.reload disk).1 with
  | ok loaded =>
    obtain ⟨hreads, hrules⟩ := inAccord_reload_of_ok hreload
    exact iff_of_true ⟨hreads, .inl hrules⟩ (.inl ⟨loaded, rfl⟩)
  | error failure =>
    rw [reload_of_error hreload]
    constructor
    · rintro ⟨⟨hdirectives, hpager, huser, hwaiting⟩, hrules⟩
      exact .inr ⟨⟨hdirectives, hpager, huser, hwaiting⟩, hrules⟩
    · rintro (⟨loaded, hloaded⟩ | ⟨⟨hdirectives, hpager, huser, hwaiting⟩, hrules⟩)
      · cases hloaded
      · exact ⟨⟨hdirectives, hpager, huser, hwaiting⟩, hrules⟩

/-- In events the last reading of the story can be found, if there is one. -/
theorem exists_last_reload (events : List (Event σ)) :
    (∀ disk, .reload disk ∉ events) ∨
      ∃ earlier disk later, events = earlier ++ .reload disk :: later ∧
        ∀ disk', .reload disk' ∉ later := by
  induction events with
  | nil => exact .inl nofun
  | cons event events ih =>
    rcases ih with hnone | ⟨earlier, disk, later, rfl, hlater⟩
    · cases event with
      | reload disk => exact .inr ⟨[], disk, events, rfl, hnone⟩
      | seeded | clocked | turn =>
        refine .inl fun disk hdisk => ?_
        rcases List.mem_cons.1 hdisk with heq | hdisk
        · cases heq
        · exact hnone disk hdisk
    · exact .inr ⟨event :: earlier, disk, later, rfl, hlater⟩

/-- A runner in accord acts out replies as a new runner of its story does. -/
theorem InAccord.replyAct_eq (h : r.InAccord) (random : Random.Source) (ids : IdSupply) :
    r.replyAct = (new r.story random ids).replyAct := by
  have hparagraph : r.paragraphAct = (new r.story random ids).paragraphAct := by
    funext channels reply currentScene paragraph s
    unfold paragraphAct
    rw [h.reads.directives, h.reads.pager]
    rfl
  funext channels reply currentScene
  unfold replyAct
  rw [hparagraph]
  rfl

/-- **Accord.** After any events the copies of a new runner are those of its settings, if and only if
    the last reading of its story, if there was one, succeeded, or else left settings behind with
    which the copies agreed already: those from before the first document. The rules of the stage may
    also have been set up anew since then. A runner in accord acts out replies by the directives,
    the pages and the tables of one and the same story. -/
theorem inAccord_afterAll_new_iff (story : Story) (random : Random.Source) (ids : IdSupply)
    (events : List (Event σ)) :
    let start := new story random ids
    let r := start.afterAll model events
    (r.InAccord ↔
      ∀ earlier disk later, events = earlier ++ .reload disk :: later →
        (∀ disk', .reload disk' ∉ later) →
        let old := start.afterAll model earlier
        (∃ loaded, (old.reload disk).1 = .ok loaded) ∨
          old.ReadsBy story.base ∧
            (old.stage.rules = story.base.stageRules ∨ ∃ seed, .seeded seed ∈ later)) ∧
    (r.InAccord → ∀ random ids, r.replyAct = (new r.story random ids).replyAct) := by
  intro start r
  refine ⟨?_, InAccord.replyAct_eq⟩
  have hlast (earlier : List (Event σ)) (disk : String → Listing) (later : List (Event σ))
      (hevents : events = earlier ++ .reload disk :: later) :
      r = ((start.afterAll model earlier).reload disk).2.afterAll model later := by
    simp only [r, afterAll, hevents, List.foldl_append, List.foldl_cons]
    rfl
  have hbase (earlier : List (Event σ)) : (start.afterAll model earlier).story.base = story.base :=
    base_afterAll model start earlier
  rcases exists_last_reload events with hnone | ⟨earlier, disk, later, hevents, hlater⟩
  · have hstart := inAccord_new story random ids
    refine iff_of_true ((inAccord_afterAll_iff model start hnone).2 ⟨hstart.1, .inl hstart.2⟩) ?_
    rintro earlier disk later rfl -
    exact absurd (List.mem_append_right _ List.mem_cons_self) (hnone disk)
  · constructor
    · intro haccord earlier disk later hevents hlater
      rw [hlast earlier disk later hevents, inAccord_afterAll_reload_iff model _ disk hlater,
        hbase] at haccord
      exact haccord
    · intro hall
      rw [hlast earlier disk later hevents, inAccord_afterAll_reload_iff model _ disk hlater, hbase]
      exact hall earlier disk later hevents hlater

/-! ## A directory that is gone -/

/-- A story that was read from a directory without documents, and then given other marks for
    memories. -/
def marked : Story :=
  (Story.new {}).afterAll [.directory "story" (.ok []),
    .document "controls" (.object [("memory_front_match", .string "\x7b\x7b"),
      ("memory_back_match", .string "\x7d\x7d")])]

/-- Why a directory that is gone cannot be listed. -/
def gone : Failure := .io "No such file or directory (os error 2)"

/-- A runner that has missed the directory is in accord again when it has read it. -/
theorem inAccord_afterAll_marked :
    let start := new marked ⟨fun _ => 0, 0⟩ ⟨fun _ => "", 0⟩
    let events := [.reload fun _ => .error gone, .seeded 1, .reload fun _ => .ok []]
    let r := start.afterAll hostess events
    r.InAccord ∧ r.replyAct = (new r.story ⟨fun _ => 1, 0⟩ ⟨toString, 0⟩).replyAct := by
  intro start events r
  obtain ⟨hiff, hacts⟩ :=
    inAccord_afterAll_new_iff hostess marked ⟨fun _ => 0, 0⟩ ⟨fun _ => "", 0⟩ events
  have haccord : r.InAccord := by
    refine hiff.2 fun earlier disk later hevents hlater => ?_
    have hloaded (old : Runner) (hsource : old.story.source = some "story") :
        ∃ loaded, (old.reload fun _ => .ok []).1 = .ok loaded := by
      unfold reload
      rw [Story.reload_eq, hsource]
      exact ⟨_, rfl⟩
    -- The last reading is the third event, since none follows it.
    rcases earlier with _ | ⟨first, _ | ⟨second, earlier⟩⟩
    · simp only [events, List.nil_append, List.cons.injEq] at hevents
      obtain ⟨-, rfl⟩ := hevents
      exact absurd (.tail _ List.mem_cons_self) (hlater fun _ => .ok [])
    · simp [events] at hevents
    · simp only [events, List.cons_append, List.cons.injEq] at hevents
      obtain ⟨rfl, rfl, hevents⟩ := hevents
      rcases earlier with _ | ⟨third, earlier⟩
      · simp only [List.nil_append, List.cons.injEq, Event.reload.injEq] at hevents
        obtain ⟨rfl, -⟩ := hevents
        exact .inl (hloaded _ rfl)
      · simp at hevents
  exact ⟨haccord, hacts haccord _ _⟩

/-- When the directory is gone, the story falls back to its first marks for memories, and the runner
    goes on to look for the others: it says a memory that a new runner of the story does not. -/
theorem not_inAccord_marked :
    let start := new marked ⟨fun _ => 0, 0⟩ ⟨fun _ => "", 0⟩
    let r := start.afterAll hostess [.reload fun _ => .error gone]
    let reply := "[[[She likes tea.]]]Hello."
    let said (r : Runner) :=
      (r.replyAct {} reply "" r.stage).1.toOption.map (·.map fun c => (c.kind, c.content))
    ¬ r.InAccord ∧ r.directives.memory.front = "\x7b\x7b" ∧
      r.story.settings.directives.memory.front = "[[[" ∧
      said r = some [(.say, reply)] ∧
      said (new r.story r.stage.random r.stage.ids) = some [(.say, "Hello.")] := by
  intro start r reply said
  have hmarks : r.directives.memory.front = "\x7b\x7b" := by decide +kernel
  have hfirst : r.story.settings.directives.memory.front = "[[[" := by decide +kernel
  refine ⟨fun haccord => ?_, hmarks, hfirst, by decide +kernel, by decide +kernel⟩
  rw [haccord.reads.directives, hfirst] at hmarks
  exact absurd hmarks (by decide)

end Runner

end Dramaturg
