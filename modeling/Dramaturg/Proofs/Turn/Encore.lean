import Dramaturg.Proofs.Turn.Accord

set_option autoImplicit false

/-! # Reading a story again that has not changed

A runner in accord with its story loses one thing when it reads the same documents again: which
reply its compactor met last. Two runs, with and without such a reading, are compared turn by turn.
They are the same up to the first turn whose prompt comes back to that reply; and from a turn that
sends another reply, or from the next reading, they are the same for good. -/

namespace Dramaturg

/-- A prompt without lore. -/
theorem Prompt.assemble_of_lore_eq_nil {input : PromptInput} (h : input.lore = []) :
    assemble input
      = .ok ([.system input.front, .system input.format] ++ input.characters ++ input.history
          ++ [.user input.utterance, .user input.back]) := by
  simp [assemble, sortLore, anchor, messagesAt, h]

namespace Runner

/-- The runner that has met no reply. -/
def forgetful (r : Runner) : Runner := r.withCompactor r.compactor.forget

/-- The lines of a transcript that the prompt of a turn draws on. -/
def drawn (r : Runner) (transcript : List TranscriptEntry) : List TranscriptEntry :=
  r.compactor.window transcript r.story.lookback

/-- Whether a runner that had forgotten the reply met last would come back to it, and to no other
    reply before it. -/
def resurfaces (r : Runner) (transcript : List TranscriptEntry) : Bool :=
  r.compactor.meetsAgain (r.forgetful.drawn transcript).reverse

variable {σ : Type} (model : Model σ) {r : Runner}

/-- What a turn draws on shows whether the reply is forgotten, exactly if it resurfaces. -/
theorem drawn_forgetful_iff (r : Runner) (transcript : List TranscriptEntry) :
    r.forgetful.drawn transcript = r.drawn transcript ↔ r.resurfaces transcript = false :=
  r.compactor.window_forget_iff transcript r.story.lookback

/-! ## One turn, or one reading -/

/-- A turn in which the reply does not resurface is the same. Afterwards the runners are the same,
    or else they still differ in the same way. -/
theorem run_forgetful (request : TurnRequest) (transcript : List TranscriptEntry)
    (currentScene : String) (s : σ) (h : r.resurfaces transcript = false) :
    let ran := r.run model request transcript currentScene s
    let ran' := r.forgetful.run model request transcript currentScene s
    ran'.1 = ran.1 ∧ ran'.2.2 = ran.2.2 ∧
      (ran'.2.1 = ran.2.1 ∨ ran'.2.1 = ran.2.1.forgetful ∧ ran.2.1.compactor = r.compactor) := by
  intro ran ran'
  have hwindow := (r.drawn_forgetful_iff transcript).2 h
  rcases r.story.buildPrompt_forget request.prompt transcript r.compactor hwindow with
    ⟨fault, hprompt, hprompt'⟩ | ⟨messages, after, after', hprompt, hprompt', hafter⟩
  · have hran : ran = (.error (.fault fault), r, s) := by simp only [ran, run, hprompt]
    have hran' : ran' = (.error (.fault fault), r.forgetful, s) := by
      simp only [ran', run, forgetful, withCompactor, hprompt']
    rw [hran, hran']
    exact ⟨rfl, rfl, .inr ⟨rfl, rfl⟩⟩
  · rcases run_cases_of_prompt model request transcript currentScene r s messages with
      ⟨outcome, clock, s₁, -, hrun⟩ | ⟨reply, clock, s₁, hrun⟩
    · have hran : ran = (outcome, { r with clock := clock }, s₁) :=
        hrun request.channels r.stage r.compactor after hprompt
      have hran' : ran' = (outcome, { r.forgetful with clock := clock }, s₁) :=
        hrun request.channels r.stage r.compactor.forget after' hprompt'
      rw [hran, hran']
      exact ⟨rfl, rfl, .inr ⟨rfl, rfl⟩⟩
    · have hran : ran = (r.replyOutcome request reply currentScene,
          r.acted request.channels reply currentScene after clock, s₁) :=
        hrun request.channels r.stage r.compactor after hprompt
      have hran' : ran' = (r.replyOutcome request reply currentScene,
          r.acted request.channels reply currentScene after' clock, s₁) :=
        hrun request.channels r.stage r.compactor.forget after' hprompt'
      rw [hran, hran']
      refine ⟨rfl, rfl, ?_⟩
      rcases hafter with rfl | ⟨rfl, rfl⟩
      · exact .inl rfl
      · exact .inr ⟨rfl, rfl⟩

theorem reload_forgetful (r : Runner) (disk : String → Listing) :
    (r.forgetful.reload disk).2 = (r.reload disk).2 ∨
      (r.forgetful.reload disk).2 = (r.reload disk).2.forgetful ∧
        (r.reload disk).2.compactor = r.compactor := by
  unfold reload forgetful withCompactor
  rcases r.story.reload disk with ⟨failure | loaded, story⟩
  · exact .inr ⟨rfl, rfl⟩
  · exact .inl rfl

/-! ## Runs -/

/-- Whether occasions come to a turn in which the reply resurfaces that was met last before all of
    them. Up to that turn the runs with and without the reply are the same. -/
def ComesBack (occasions : List Occasion) (r : Runner) (s : σ) : Prop :=
  ∃ earlier request transcript currentScene later,
    occasions = earlier ++ .turn request transcript currentScene :: later ∧
    let reached := runAll model earlier r s
    runAll model earlier r.forgetful s = (reached.1, reached.2.1.forgetful, reached.2.2) ∧
      (∀ outcome ∈ reached.1, isFault outcome = false) ∧
      reached.2.1.compactor = r.compactor ∧ reached.2.1.resurfaces transcript = true

variable {model} {rest : List Occasion} {request : TurnRequest} {transcript : List TranscriptEntry}
  {currentScene : String} {s s₁ : σ}

theorem ComesBack.now (h : r.resurfaces transcript = true) :
    ComesBack model (.turn request transcript currentScene :: rest) r s :=
  ⟨[], request, transcript, currentScene, rest, rfl, rfl,
    fun _ hmem => absurd hmem List.not_mem_nil, rfl, h⟩

theorem ComesBack.after_reload {disk : String → Listing}
    (hforgetful : (r.forgetful.reload disk).2 = (r.reload disk).2.forgetful)
    (hcompactor : (r.reload disk).2.compactor = r.compactor)
    (h : ComesBack model rest (r.reload disk).2 s) :
    ComesBack model (.reload disk :: rest) r s := by
  obtain ⟨earlier, request, transcript, currentScene, later, rfl, hreached, hreturns, hkept,
    hresurfaces⟩ := h
  refine ⟨.reload disk :: earlier, request, transcript, currentScene, later, rfl, ?_⟩
  simp only [runAll, hforgetful]
  exact ⟨hreached, hreturns, hkept.trans hcompactor, hresurfaces⟩

theorem ComesBack.after_turn {outcome : Except Stop TurnOutcome} {after : Runner}
    (hran : r.run model request transcript currentScene s = (outcome, after, s₁))
    (hran' : r.forgetful.run model request transcript currentScene s
      = (outcome, after.forgetful, s₁))
    (hgoes : ¬ isFault outcome = true) (hcompactor : after.compactor = r.compactor)
    (h : ComesBack model rest after s₁) :
    ComesBack model (.turn request transcript currentScene :: rest) r s := by
  obtain ⟨earlier, request', transcript', currentScene', later, rfl, hreached, hreturns, hkept,
    hresurfaces⟩ := h
  refine ⟨.turn request transcript currentScene :: earlier, request', transcript', currentScene',
    later, rfl, ?_⟩
  simp only [runAll, hran, hran', if_neg hgoes, hreached]
  exact ⟨trivial, List.forall_mem_cons.2 ⟨Bool.eq_false_iff.2 hgoes, hreturns⟩,
    hkept.trans hcompactor, hresurfaces⟩

variable (model)

/-- A run in which the reply does not come back is the same when it is forgotten. -/
theorem runAll_forgetful (occasions : List Occasion) (r : Runner) (s : σ) :
    let remembered := runAll model occasions r s
    let forgotten := runAll model occasions r.forgetful s
    (forgotten.1 = remembered.1 ∧ forgotten.2.1.forgetful = remembered.2.1.forgetful ∧
        forgotten.2.2 = remembered.2.2) ∨ ComesBack model occasions r s := by
  induction occasions generalizing r s with
  | nil => exact .inl ⟨rfl, rfl, rfl⟩
  | cons occasion rest ih =>
    cases occasion with
    | reload disk =>
      rcases r.reload_forgetful disk with hsame | ⟨hforgetful, hcompactor⟩
      · simp only [runAll, hsame, true_and, true_or]
      · have hrest := ih (r.reload disk).2 s
        simp only [runAll, hforgetful]
        exact hrest.imp_right (.after_reload hforgetful hcompactor)
    | turn request transcript currentScene =>
      cases hresurfaces : r.resurfaces transcript with
      | true => exact .inr (.now hresurfaces)
      | false =>
        have hturn := run_forgetful model request transcript currentScene s hresurfaces
        rcases hran : r.run model request transcript currentScene s with ⟨outcome, after, s₁⟩
        rcases hran' : r.forgetful.run model request transcript currentScene s with
          ⟨outcome', after', s₁'⟩
        simp only [hran, hran'] at hturn
        obtain ⟨rfl, rfl, hafter⟩ := hturn
        simp only [runAll, hran, hran']
        by_cases hends : isFault outcome' = true
        · rw [if_pos hends, if_pos hends]
          refine .inl ⟨rfl, ?_, rfl⟩
          rcases hafter with rfl | ⟨rfl, -⟩
          · rfl
          · rfl
        · rw [if_neg hends, if_neg hends]
          rcases hafter with rfl | ⟨rfl, hcompactor⟩
          · exact .inl ⟨rfl, rfl, rfl⟩
          · rcases ih after s₁' with ⟨hmore, hlast, hmodel⟩ | hback
            · exact .inl ⟨congrArg (List.cons _) hmore, hlast, hmodel⟩
            · exact .inr (.after_turn hran hran' hends hcompactor hback)

/-! ## Directories that have not changed -/

/-- Whether a directory still lists the same files, in some order. -/
def Unchanged (dir : String) (files : List StoryFile) (disk : String → Listing) : Prop :=
  ∃ files', disk dir = .ok files' ∧ files'.Perm files

variable {base : Settings} {dir : String} {files : List StoryFile} {loaded : Nat} {story : Story}

theorem source_of_ofDirectory (h : Story.ofDirectory base dir (.ok files) = .ok (loaded, story)) :
    story.source = some dir := by
  obtain ⟨-, rfl⟩ := Prod.mk.inj (Except.ok.inj h)
  rfl

/-- A story whose directory has not changed is read as what it is. -/
theorem reload_of_unchanged (hfiles : (files.map (·.name)).Nodup)
    (hstory : Story.ofDirectory base dir (.ok files) = .ok (loaded, story))
    {disk : String → Listing} (hdisk : Unchanged dir files disk) :
    story.reload disk = (.ok loaded, story) := by
  obtain ⟨files', hlists, hperm⟩ := hdisk
  have hnames : (files'.map (·.name)).Nodup := (hperm.map (·.name)).nodup_iff.2 hfiles
  have hreadable : Story.readable files' = Story.readable files :=
    Story.readable_congr hnames hfiles fun name doc => by simp only [hperm.mem_iff]
  have hagain : Story.ofDirectory base dir (.ok files') = .ok (loaded, story) := by
    rw [← hstory, Story.ofDirectory, Story.ofDirectory, Story.loadDirectory_ok,
      Story.loadDirectory_ok, hreadable]
  rw [Story.reload_eq, source_of_ofDirectory hstory, Story.base_ofDirectory hstory]
  simp only [hlists, hagain]

/-- A runner in accord that reads its story again as what it is forgets the reply met last, and
    nothing else. -/
theorem InAccord.reload_eq (h : r.InAccord) {disk : String → Listing}
    (hstory : r.story.reload disk = (.ok loaded, r.story)) :
    r.reload disk = (.ok loaded, r.forgetful) := by
  have hcompactor : Compactor.ofSettings r.story.settings = r.compactor.forget := by
    rw [Compactor.ofSettings, ← h.reads.userName, ← h.reads.waitingInfo]
    rfl
  have hstage : r.stage.reconfigure r.story.settings.stageRules = r.stage := by
    rw [← h.rules]
    rfl
  simp only [reload, hstory]
  rw [hcompactor, hstage, ← h.reads.directives, ← h.reads.pager]
  rfl

theorem InAccord.forgetful (h : r.InAccord) : r.forgetful.InAccord :=
  ⟨⟨h.reads.directives, h.reads.pager, h.reads.userName, h.reads.waitingInfo⟩, h.rules⟩

/-- A runner in accord stays so with the same story, as long as that is read as what it is. -/
theorem InAccord.after (h : r.InAccord) (event : Event σ)
    (hevent : ∀ disk, event = .reload disk →
      ∃ loaded, r.story.reload disk = (.ok loaded, r.story)) :
    (r.after model event).story = r.story ∧ (r.after model event).InAccord := by
  by_cases hreload : ∃ disk, event = .reload disk
  · obtain ⟨disk, rfl⟩ := hreload
    obtain ⟨loaded, hstory⟩ := hevent disk rfl
    have hafter : r.after model (.reload disk) = r.forgetful :=
      congrArg Prod.snd (h.reload_eq hstory)
    rw [hafter]
    exact ⟨rfl, h.forgetful⟩
  · have hnone : ∀ disk, .reload disk ∉ [event] := fun disk hdisk =>
      hreload ⟨disk, (List.mem_singleton.1 hdisk).symm⟩
    exact ⟨(follows_afterAll model r hnone).story,
      (inAccord_afterAll_iff model r hnone).2 ⟨h.reads, .inl h.rules⟩⟩

/-- While the directory does not change, a runner keeps its story and stays in accord with it. -/
theorem inAccord_afterAll_of_unchanged (hfiles : (files.map (·.name)).Nodup)
    (hstory : Story.ofDirectory base dir (.ok files) = .ok (loaded, story))
    (events : List (Event σ)) (hevents : ∀ disk, .reload disk ∈ events → Unchanged dir files disk)
    (r : Runner) (hr : r.story = story) (h : r.InAccord) :
    (r.afterAll model events).story = story ∧ (r.afterAll model events).InAccord := by
  unfold afterAll
  induction events generalizing r with
  | nil => exact ⟨hr, h⟩
  | cons event events ih =>
    obtain ⟨hkept, haccord⟩ := h.after model event fun disk hevent => by
      have hdisk := hevents disk (hevent ▸ List.mem_cons_self)
      exact ⟨loaded, hr ▸ reload_of_unchanged hfiles hstory hdisk⟩
    exact ih (fun disk hdisk => hevents disk (List.mem_cons_of_mem event hdisk))
      (r.after model event) (hkept.trans hr) haccord

/-- **Reading again what has not changed.** Of a runner whose story is that of a directory, however
    it came to be where it is, reading the unchanged directory again gives the same number of
    documents and changes nothing but that it forgets which reply it met last. Whatever follows, the
    runs with and without the reading come to the same, turn by turn, and leave the same behind,
    also with the model, which may keep there all that it was asked: or else they do so up to a turn
    in which that reply resurfaces, while no other has been met. Exactly in such a turn a runner that
    has forgotten the reply draws on other lines of the transcript. -/
theorem reload_unchanged (hfiles : (files.map (·.name)).Nodup)
    (hstory : Story.ofDirectory base dir (.ok files) = .ok (loaded, story))
    (random : Random.Source) (ids : IdSupply) (before : List (Event σ))
    (hbefore : ∀ disk, .reload disk ∈ before → Unchanged dir files disk)
    (disk : String → Listing) (hdisk : Unchanged dir files disk) :
    let r := (new story random ids).afterAll model before
    r.reload disk = (.ok loaded, r.forgetful) ∧
    (∀ (later : List Occasion) (s : σ),
      let remembered := runAll model later r s
      let reread := runAll model (.reload disk :: later) r s
      (reread.1 = remembered.1 ∧ reread.2.1.forgetful = remembered.2.1.forgetful ∧
          reread.2.2 = remembered.2.2) ∨ ComesBack model later r s) ∧
    ∀ (reached : Runner) (transcript : List TranscriptEntry),
      reached.forgetful.drawn transcript = reached.drawn transcript ↔
        reached.resurfaces transcript = false := by
  intro r
  obtain ⟨hkept, haccord⟩ := inAccord_afterAll_of_unchanged model hfiles hstory before hbefore
    (new story random ids) rfl (inAccord_new story random ids)
  have hsame : r.story.reload disk = (.ok loaded, r.story) := by
    rw [show r.story = story from hkept]
    exact reload_of_unchanged hfiles hstory hdisk
  have hreload : r.reload disk = (.ok loaded, r.forgetful) := haccord.reload_eq hsame
  refine ⟨hreload, fun later s => ?_, drawn_forgetful_iff⟩
  simp only [runAll, hreload]
  exact runAll_forgetful model later r s

/-! ## A greeting -/

/-- A model that keeps what it is asked. -/
def scribe : Model (List (List Message)) := fun request asked =>
  ({ answer := .ok ⟨"Hello.", "", none⟩ }, asked ++ [request.messages])

/-- A new runner of a story that was read from a directory without documents. -/
def freshman : Runner :=
  new ((Story.new {}).withSource (some "story")) ⟨fun _ => 0, 0⟩ ⟨fun _ => "", 0⟩

/-- A transcript that ends with a reply. -/
def greeted : List TranscriptEntry := [.generated "Alice" "Hi!" "p1" "Hi!"]

theorem ofDirectory_freshman :
    Story.ofDirectory {} "story" (.ok []) = .ok (0, freshman.story) := by
  have hreadable : Story.readable [] = [] := by simp [Story.readable, Story.documentsOf]
  rw [Story.ofDirectory, Story.loadDirectory_ok, hreadable]
  rfl

theorem unchanged_freshman : Unchanged "story" [] fun _ => .ok [] := ⟨[], rfl, .refl []⟩

theorem buildPrompt_freshman {c after : Compactor} {sent : List Message}
    (hsent : c.recent greeted 10 = .ok (sent, after)) :
    freshman.story.buildPrompt c "Hi" greeted
      = .ok ([.system "", .system ""] ++ sent ++ [.user "Hi", .user ""], after) := by
  have hlore : Compactor.HasRoom freshman.story.settings.loreSearchLength := by decide
  have hcontext : Compactor.HasRoom freshman.story.settings.contextItemLength := by decide
  obtain ⟨rfl, rfl⟩ := Prod.mk.inj
    (Except.ok.inj ((c.recent_eq greeted hcontext).symm.trans hsent))
  have hnone (window : List Message) : activeLore freshman.story.catalog.lore window = [] := by
    have hempty : freshman.story.catalog.lore = [] := rfl
    simp [activeLore, hempty]
  rw [Story.buildPrompt, Story.promptInput_eq _ _ _ _ hlore hcontext]
  dsimp only
  rw [Prompt.assemble_of_lore_eq_nil (hnone _)]
  rfl

/-- What the model is asked in a turn of the first story, and the compactor afterwards. -/
theorem run_freshman {r : Runner} (hstory : r.story = freshman.story) {sent : List Message}
    {after : Compactor} (hsent : r.compactor.recent greeted 10 = .ok (sent, after)) :
    let ran := r.run scribe greeting greeted "" []
    ran.2.2 = [[.system "", .system ""] ++ sent ++ [.user "Hi", .user ""]] ∧
      ran.2.1.story = freshman.story ∧ ran.2.1.compactor = after := by
  have hprompt := buildPrompt_freshman hsent
  rw [← hstory] at hprompt
  have hask (request : ChatRequest) :
      Model.askAgain r.story.settings.model.retryLimit scribe request []
        = ({ answer := .ok ⟨"Hello.", "", none⟩ }, [request.messages]) := by
    rw [hstory]
    rfl
  have hcurrent : (r.clock.invalidateTimes 0).isCurrent r.clock.token = true := by
    simp [SessionClock.invalidateTimes, SessionClock.isCurrent]
  rw [run_of_answer scribe greeting greeted "" r [] hprompt (hask _) rfl hcurrent]
  exact ⟨rfl, hstory, rfl⟩

/-- The compactor that has met the reply. -/
def hasGreeted : Compactor := freshman.compactor.met "p1"

theorem recent_freshman :
    freshman.compactor.recent greeted 10 = .ok ([.assistant "Hi!"], hasGreeted) := by
  decide

/-- The drawer may be listed in another order the next time. When there is a newer reply, it does
    not matter that the one met last is forgotten. -/
theorem reload_unchanged_freshman :
    (∃ story, Story.ofDirectory {} "story" (.ok Story.drawer) = .ok (2, story) ∧
      let r := new story ⟨fun _ => 0, 0⟩ ⟨fun _ => "", 0⟩
      r.reload (fun _ => .ok Story.drawer.reverse) = (.ok 2, r.forgetful)) ∧
    let disk : String → Listing := fun _ => .ok []
    let newer := greeted ++ [.generated "Alice" "Tea?" "p2" "Tea?"]
    let r := freshman.afterAll scribe [.turn greeting greeted "" []]
    let later := [.turn greeting newer ""]
    Story.ofDirectory {} "story" (.ok []) = .ok (0, freshman.story) ∧
      Unchanged "story" [] disk ∧ r.compactor.lastParagraph = some "p1" ∧
      r.reload disk = (.ok 0, r.forgetful) ∧ r.resurfaces greeted = true ∧
      r.resurfaces newer = false ∧
      (runAll scribe (.reload disk :: later) r []).1 = (runAll scribe later r []).1 ∧
      (runAll scribe (.reload disk :: later) r []).2.2 = (runAll scribe later r []).2.2 := by
  constructor
  · have hdrawer := Story.loadDirectory_ok "story" Story.drawer (Story.new {})
    rw [Story.length_readable_drawer] at hdrawer
    have hreverse : Unchanged "story" Story.drawer fun _ => .ok Story.drawer.reverse :=
      ⟨_, rfl, List.reverse_perm Story.drawer⟩
    exact ⟨_, hdrawer, (reload_unchanged scribe (by decide) hdrawer ⟨fun _ => 0, 0⟩
      ⟨fun _ => "", 0⟩ [] (by simp) _ hreverse).1⟩
  intro disk newer r later
  obtain ⟨-, hstory, hcompactor⟩ := run_freshman (r := freshman) rfl recent_freshman
  have hstory : r.story = freshman.story := hstory
  have hcompactor : r.compactor = hasGreeted := hcompactor
  have hresurfaces (transcript : List TranscriptEntry) : r.resurfaces transcript
      = hasGreeted.meetsAgain (hasGreeted.forget.window transcript 10).reverse := by
    unfold resurfaces drawn forgetful withCompactor
    rw [hstory, hcompactor]
    rfl
  have hnewer : r.resurfaces newer = false := by
    rw [hresurfaces]
    decide
  obtain ⟨hreload, hruns, -⟩ := reload_unchanged scribe (by decide) ofDirectory_freshman
    ⟨fun _ => 0, 0⟩ ⟨fun _ => "", 0⟩ [.turn greeting greeted "" []]
    (fun _ hmem => nomatch List.mem_singleton.1 hmem) disk unchanged_freshman
  refine ⟨ofDirectory_freshman, unchanged_freshman, by rw [hcompactor]; rfl, hreload,
    by rw [hresurfaces]; decide, hnewer, ?_⟩
  rcases hruns later [] with ⟨hsame, -, hasked⟩ |
    ⟨earlier, request, transcript, currentScene, rest, hlater, -, -, -, hagain⟩
  · exact ⟨hsame, hasked⟩
  · rcases earlier with _ | ⟨first, earlier⟩
    · obtain ⟨hturn, -⟩ := List.cons.inj hlater
      obtain ⟨-, rfl, -⟩ := Occasion.turn.inj hturn
      exact absurd (hnewer.symm.trans hagain) Bool.false_ne_true
    · simp [later] at hlater

/-- A reply that was sent once is sent again after the story was read again. -/
theorem asked_freshman :
    let met := (freshman.run scribe greeting greeted "" []).2.1
    let reread := (met.reload fun _ => .ok []).2
    (met.reload fun _ => .ok []).1 = .ok 0 ∧
      (met.run scribe greeting greeted "" []).2.2
        = [[.system "", .system "", .user "Hi", .user ""]] ∧
      (reread.run scribe greeting greeted "" []).2.2
        = [[.system "", .system "", .assistant "Hi!", .user "Hi", .user ""]] := by
  intro met reread
  obtain ⟨-, hstory, hcompactor⟩ := run_freshman (r := freshman) rfl recent_freshman
  obtain ⟨hkept, haccord⟩ := inAccord_afterAll_of_unchanged scribe (by decide) ofDirectory_freshman
    [.turn greeting greeted "" []] (fun _ hmem => nomatch List.mem_singleton.1 hmem) freshman rfl
    (inAccord_new _ _ _)
  have hreload : met.reload (fun _ => .ok []) = (.ok 0, met.forgetful) := by
    apply haccord.reload_eq
    rw [hkept]
    exact reload_of_unchanged (by decide) ofDirectory_freshman unchanged_freshman
  have hmet : met.compactor.recent greeted 10 = .ok ([], hasGreeted) := by
    rw [hcompactor]
    decide
  have hreread : met.forgetful.compactor.recent greeted 10
      = .ok ([.assistant "Hi!"], hasGreeted) := by
    rw [show met.forgetful.compactor = hasGreeted.forget from congrArg Compactor.forget hcompactor]
    exact recent_freshman
  refine ⟨congrArg Prod.fst hreload, (run_freshman hstory hmet).1, ?_⟩
  rw [show reread = met.forgetful from congrArg Prod.snd hreload]
  exact (run_freshman (r := met.forgetful) hstory hreread).1

end Runner

end Dramaturg
