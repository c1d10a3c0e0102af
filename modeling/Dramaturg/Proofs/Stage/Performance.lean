import Dramaturg.Turn.Paragraph
import Dramaturg.Proofs.Stage.Mirror
import Dramaturg.Proofs.Table.Lookup

set_option autoImplicit false

/-! # Performances

A performance is a stage that follows directions from its opening on, as long as no fault stops it.
Whatever is directed, a renderer that does what the commands say sees exactly the figures on the
stage, where they stand. It needs two things, which paragraphs grant: that there are as many features
as paths, and that no path is empty. -/

namespace Dramaturg

variable {α : Type}

/-! ## Acts in order -/

namespace Act

theorem andThen_eq_ok {first second : Act α} {s s' : Stage α} {commands : List Command}
    (h : first.andThen second s = (.ok commands, s')) :
    ∃ before between after, first s = (.ok before, between) ∧
      second between = (.ok after, s') ∧ commands = before ++ after := by
  unfold andThen at h
  rcases hfirst : first s with ⟨fault | before, between⟩
  · rw [hfirst] at h
    cases h
  · rw [hfirst] at h
    rcases hsecond : second between with ⟨fault | after, s''⟩
    · simp only [hsecond] at h
      cases h
    · simp only [hsecond] at h
      obtain ⟨hcommands, rfl⟩ := Prod.mk.inj h
      exact ⟨before, between, after, rfl, hsecond, (Except.ok.inj hcommands).symm⟩

end Act

variable [Coordinate α]

namespace Direction

/-- Whether a direction to show figures gives a feature for each path, and a model for each. -/
def Paired : Direction α → Prop
  | .figures features paths => features.length = paths.length ∧ "" ∉ paths
  | _ => True

/-- The cues of a direction that is followed without a fault. -/
def cues : Direction α → Stage α → List (Cue α)
  | .figures features paths, s => s.figureCues features paths
  | d, s =>
    match (d.act s).1 with
    | .ok commands => commands.map .other
    | .error _ => []

theorem cues_of_ne_figures {d : Direction α}
    (hother : ∀ features paths, d ≠ .figures features paths) {s : Stage α}
    {commands : List Command} (hact : (d.act s).1 = .ok commands) :
    d.cues s = commands.map .other := by
  have hcues : d.cues s =
      match (d.act s).1 with
      | .ok commands => commands.map .other
      | .error _ => [] := by
    cases d with
    | figures features paths => exact absurd rfl (hother features paths)
    | say | background | bgm | scene | choose | reconfigure | beginParagraph | beginSentence => rfl
  rw [hcues, hact]

/-- A direction gives the commands of its cues, which can be read and are in order, and keeps the
    screen in step with the roster. -/
theorem cues_mirror {d : Direction α} (hpaired : d.Paired) {l : Ledger} {s s' : Stage α}
    (h : s.roster.WellFormed) (hl : l.Mirrors s.roster) {commands : List Command}
    (hact : d.act s = (.ok commands, s')) :
    (d.cues s).map Cue.command = commands ∧ (∀ c ∈ d.cues s, c.Legible) ∧
      l.AllowsAll (d.cues s) ∧ (l.after (d.cues s)).Mirrors s'.roster := by
  by_cases hfigures : ∃ features paths, d = .figures features paths
  · obtain ⟨features, paths, rfl⟩ := hfigures
    obtain ⟨hlength, hnonempty⟩ := hpaired
    obtain ⟨hallows, hafter⟩ := Ledger.figures_mirrors h hl hlength hact
    exact ⟨Stage.map_command_figureCues hact, Stage.legible_figureCues h hnonempty hact, hallows,
      hafter⟩
  · have hother (features : List Feature) (paths : List String) : d ≠ .figures features paths :=
      fun heq => hfigures ⟨features, paths, heq⟩
    -- All other directions leave the roster alone, and the ledger too.
    obtain ⟨hroster, given, hgiven, hkind⟩ := quiet_of_ne_figures hother s
    rw [hact] at hroster hgiven
    obtain rfl := Except.ok.inj hgiven
    have hquiet (cues : List Command) :
        l.AllowsAll (cues.map (Cue.other (α := α))) ∧
          l.after (cues.map (Cue.other (α := α))) = l := by
      induction cues with
      | nil => exact ⟨trivial, rfl⟩
      | cons c cues ih => exact ⟨⟨trivial, ih.1⟩, ih.2⟩
    rw [cues_of_ne_figures hother (congrArg Prod.fst hact), (hquiet commands).2, List.map_map]
    refine ⟨List.map_id _, ?_, (hquiet commands).1, hroster ▸ hl⟩
    intro c hc
    obtain ⟨command, hcommand, rfl⟩ := List.mem_map.1 hc
    exact hkind command hcommand

end Direction

namespace Stage

/-- The cues of directions that are followed without a fault. -/
def cues : List (Direction α) → Stage α → List (Cue α)
  | [], _ => []
  | d :: directions, s => d.cues s ++ cues directions (d.act s).2

/-- The run of a performance: what one direction preserves, all of them do. -/
theorem cues_mirror {directions : List (Direction α)} (hpaired : ∀ d ∈ directions, d.Paired)
    {l : Ledger} {s s' : Stage α} (h : s.roster.WellFormed) (hl : l.Mirrors s.roster)
    {commands : List Command}
    (hrun : Act.inOrder (directions.map Direction.act) s = (.ok commands, s')) :
    (cues directions s).map Cue.command = commands ∧ (∀ c ∈ cues directions s, c.Legible) ∧
      l.AllowsAll (cues directions s) ∧ (l.after (cues directions s)).Mirrors s'.roster := by
  induction directions generalizing l s commands with
  | nil =>
    obtain ⟨hcommands, rfl⟩ := Prod.mk.inj hrun
    exact ⟨Except.ok.inj hcommands, fun c hc => absurd hc List.not_mem_nil, trivial, hl⟩
  | cons d directions ih =>
    obtain ⟨before, between, after, hfirst, hrest, rfl⟩ := Act.andThen_eq_ok hrun
    obtain ⟨hcommands, hlegible, hallows, hmirrors⟩ :=
      d.cues_mirror (hpaired d List.mem_cons_self) h hl hfirst
    have hstage : (d.act s).2 = between := congrArg Prod.snd hfirst
    have hwell : between.roster.WellFormed := hstage ▸ wellFormed_act d h
    obtain ⟨hcommands', hlegible', hallows', hmirrors'⟩ :=
      ih (fun e he => hpaired e (List.mem_cons_of_mem d he)) hwell hmirrors hrest
    rw [cues, hstage, List.map_append, hcommands, hcommands', Ledger.allowsAll_append,
      Ledger.after_append]
    refine ⟨rfl, ?_, ⟨hallows, hallows'⟩, hmirrors'⟩
    intro c hc
    rcases List.mem_append.1 hc with hc | hc
    · exact hlegible c hc
    · exact hlegible' c hc

/-- The commands that change figures can be read, and take off and move only what is seen. -/
theorem commands_of_allowsAll {l : Ledger} {cues : List (Cue α)}
    (hlegible : ∀ c ∈ cues, c.Legible) (hallows : l.AllowsAll cues) {before after : List Command}
    {c : Command} (hsplit : cues.map Cue.command = before ++ c :: after) :
    ((c.kind = .changeFigure ∨ c.kind = .setTransform) → c.change?.isSome) ∧
      ∀ id, (c.change? = some (.hide id) ∨ ∃ transform, c.change? = some (.move id transform)) →
        (before.foldl Screen.step l.screen id).isSome := by
  obtain ⟨cuesBefore, rest, rfl, rfl, hrest⟩ := List.map_eq_append_iff.1 hsplit
  obtain ⟨cue, cuesAfter, rfl, rfl, -⟩ := List.map_eq_cons_iff.1 hrest
  have hcue : cue.Legible := hlegible cue (by simp)
  have hallowed := Ledger.allows_of_append hallows
  rw [Cue.change?_command hcue,
    ← l.screen_after fun d hd => hlegible d (List.mem_append_left _ hd)]
  cases cue with
  | hide shown =>
    refine ⟨fun _ => rfl, ?_⟩
    rintro id (heq | ⟨transform, heq⟩)
    · cases heq
      exact Option.isSome_map.trans hallowed
    · cases heq
  | «show» feature f =>
    refine ⟨fun _ => rfl, ?_⟩
    rintro id (heq | ⟨transform, heq⟩)
    · cases heq
    · cases heq
  | move factor f =>
    refine ⟨fun _ => rfl, ?_⟩
    rintro id (heq | ⟨transform, heq⟩)
    · cases heq
    · cases heq
      exact Option.isSome_map.trans hallowed
  | other command =>
    refine ⟨?_, ?_⟩
    · rintro (hkind | hkind)
      · exact absurd hkind hcue.1
      · exact absurd hkind hcue.2
    · rintro id (heq | ⟨transform, heq⟩)
      · cases heq
      · cases heq

/-- **The screen mirrors the stage.** When directions have been followed without a fault, a renderer
    that did what the commands say sees something under exactly the numbers of the figures on the
    stage, and each figure where it stands. All commands that change figures can be read, and none
    takes off or moves what is not seen. Between two commands that take off a number, all that is
    shown under it is shown for one path. -/
theorem replay_mirrors_roster (rules : StageRules α) (random : Random.Source) (ids : IdSupply)
    {directions : List (Direction α)} (hpaired : ∀ d ∈ directions, d.Paired)
    {commands : List Command} {s : Stage α}
    (hrun : Act.inOrder (directions.map Direction.act) (opening rules random ids)
      = (.ok commands, s)) :
    (∀ id, (Screen.replay commands id).isSome ↔ id ∈ s.roster.ids) ∧
      (∀ f ∈ s.roster.figures,
        ∃ content, Screen.replay commands f.id = some ⟨content, f.position.transform⟩) ∧
      (∀ (before after : List Command) (c : Command), commands = before ++ c :: after →
        ((c.kind = .changeFigure ∨ c.kind = .setTransform) → c.change?.isSome) ∧
        ∀ id, (c.change? = some (.hide id) ∨ ∃ transform, c.change? = some (.move id transform)) →
          (Screen.replay before id).isSome) ∧
      (cues directions (opening rules random ids)).map Cue.command = commands ∧
      ∀ (before between after : List (Cue α)) (feature feature' : Feature) (f f' : Figure α),
        cues directions (opening rules random ids)
          = before ++ Cue.show feature f :: between ++ Cue.show feature' f' :: after →
        f.id = f'.id → (∀ c ∈ between, c.command.change? ≠ some (.hide f.id)) →
        f.path = f'.path := by
  -- Before the first direction nothing is seen, and nobody is on the stage.
  let empty : Ledger := fun _ => none
  have hempty : empty.Mirrors (opening rules random ids).roster := by
    constructor
    · intro id entry hentry
      cases hentry
    · intro id path position hmem
      cases hmem
  obtain ⟨hcommands, hlegible, hallows, hmirrors⟩ :=
    cues_mirror hpaired Roster.wellFormed_empty hempty hrun
  have hreplay : (empty.after (cues directions (opening rules random ids))).screen
      = Screen.replay commands := by
    rw [empty.screen_after hlegible, hcommands]
    rfl
  have hplaced : ∀ f ∈ s.roster.figures,
      ∃ content, Screen.replay commands f.id = some ⟨content, f.position.transform⟩ := by
    intro f hf
    obtain ⟨content, hentry⟩ :=
      hmirrors.places f.id f.path f.position (Roster.mem_placings.2 ⟨f, hf, rfl, rfl, rfl⟩)
    refine ⟨content, ?_⟩
    rw [← hreplay]
    show Option.map _ _ = _
    rw [hentry]
    rfl
  refine ⟨?_, hplaced, ?_, hcommands, ?_⟩
  · intro id
    constructor
    · intro hseen
      rw [← hreplay] at hseen
      obtain ⟨entry, hentry⟩ := Option.isSome_iff_exists.1 (Option.isSome_map.symm.trans hseen)
      exact List.mem_map_of_mem (f := Prod.fst) (hmirrors.within id entry hentry)
    · intro hid
      obtain ⟨f, hf, rfl⟩ := Roster.mem_ids.1 hid
      obtain ⟨content, hentry⟩ := hplaced f hf
      rw [hentry]
      rfl
  · intro before after c hsplit
    exact commands_of_allowsAll hlegible hallows (hcommands.trans hsplit)
  · intro before between after feature feature' f f' hsplit hid hkept
    rw [hsplit] at hallows hlegible
    apply Ledger.path_eq_of_allowsAll hallows hid
    intro hhide
    have hread := Cue.change?_command (hlegible (.hide f.id) (by simp [hhide]))
    exact hkept _ hhide hread

/-- Three figures come in, and then two of them leave for another one. -/
def recast : List (Direction ℚ) := [trio, .beginSentence, .figures [{}, {}] ["c", "d"]]

/-- After the recast exactly two figures are seen, where they stand. The newcomer has a number under
    which another one was seen until it was taken off. -/
theorem exists_replay_of_recast :
    (∀ d ∈ recast, d.Paired) ∧
      ∃ commands s, Act.inOrder (recast.map Direction.act) bareStage = (.ok commands, s) ∧
        s.roster.placings = [(0, "d", ⟨-200, 0⟩), (2, "c", ⟨200, 0⟩)] ∧
        (∀ id, (Screen.replay commands id).isSome ↔ id = 0 ∨ id = 2) ∧
        (∀ id path position, (id, path, position) ∈ s.roster.placings →
          ∃ content, Screen.replay commands id = some ⟨content, position.transform⟩) ∧
        ∃ before after, commands = before ++ hideCommand 0 :: after ∧
          (hideCommand 0).change? = some (.hide 0) ∧ (Screen.replay before 0).isSome := by
  have hpaired : ∀ d ∈ recast, d.Paired := by
    intro d hd
    simp only [recast, List.mem_cons, List.not_mem_nil, or_false] at hd
    rcases hd with rfl | rfl | rfl
    · exact ⟨rfl, by decide⟩
    · trivial
    · exact ⟨rfl, by decide⟩
  have hreturns : (Act.inOrder (recast.map Direction.act) bareStage).1.toOption.isSome := by
    decide +kernel
  have hplacings : (Act.inOrder (recast.map Direction.act) bareStage).2.roster.placings
      = [(0, "d", ⟨-200, 0⟩), (2, "c", ⟨200, 0⟩)] := by
    decide +kernel
  have hids : (Act.inOrder (recast.map Direction.act) bareStage).2.roster.ids = [0, 2] := by
    decide +kernel
  rcases hrun : Act.inOrder (recast.map Direction.act) bareStage with ⟨fault | commands, s⟩
  · rw [hrun] at hreturns
    cases hreturns
  rw [hrun] at hplacings hids
  obtain ⟨hseen, hplaced, hread, -⟩ :=
    replay_mirrors_roster bareStage.rules bareStage.random bareStage.ids hpaired hrun
  refine ⟨hpaired, commands, s, rfl, hplacings, ?_, ?_, ?_⟩
  · intro id
    rw [hseen, hids]
    simp
  · intro id path position hmem
    obtain ⟨f, hf, rfl, -, rfl⟩ := Roster.mem_placings.1 hmem
    exact hplaced f hf
  · -- The second call begins with taking off whom it does not name.
    obtain ⟨called, first, _, hfirst, hlater, rfl⟩ := Act.andThen_eq_ok hrun
    obtain ⟨silence, between, _, hbetween, hlast, rfl⟩ := Act.andThen_eq_ok hlater
    obtain ⟨recalled, _, rest, hsecond, -, rfl⟩ := Act.andThen_eq_ok hlast
    obtain ⟨-, hrecalled, -⟩ := admits_of_figures_eq_ok (by simp) (by simp) hsecond
    have habsent : between.roster.absentIds ["c", "d"] = [1, 0] := by
      obtain rfl : first.beginSentence = between := congrArg Prod.snd hbetween
      obtain rfl : (trio.act bareStage).2 = first := congrArg Prod.snd hfirst
      decide +kernel
    have hhide : (hideCommand 0).change? = some (.hide 0) := change?_hideCommand (by decide)
    have hsplit : called ++ (silence ++ (recalled ++ rest))
        = (called ++ (silence ++ [hideCommand 1])) ++ hideCommand 0 ::
          ((between.shown [{}, {}] ["c", "d"]).1 ++ rest) := by
      rw [hrecalled, habsent]
      simp
    exact ⟨_, _, hsplit, hhide, (hread _ _ _ hsplit).2 0 (.inl hhide)⟩

end Stage

/-! ## Paragraphs -/

namespace Resolution

omit [Coordinate α] in
theorem ne_empty_of_mem_chooseFigures (d : DirectiveRules) (t : Tables)
    (poses : List Directive.Pose) (s : Stage α) :
    ∀ entry ∈ (chooseFigures d t poses s).1, entry.2 ≠ "" := by
  induction poses generalizing s with
  | nil =>
    intro entry hentry
    cases hentry
  | cons p rest ih =>
    intro entry hentry
    rw [chooseFigures] at hentry
    cases hcandidates : candidates? d t p with
    | none =>
      rw [hcandidates] at hentry
      exact ih s entry hentry
    | some candidates =>
      obtain ⟨path, features⟩ := candidates
      simp only [hcandidates] at hentry
      rcases List.mem_append.1 hentry with hentry | hentry
      · obtain ⟨feature, -, rfl⟩ := Option.map_eq_some_iff.1 (Option.mem_toList.1 hentry)
        unfold candidates? at hcandidates
        split at hcandidates
        · next hpath _ =>
          obtain ⟨rfl, -⟩ := Prod.mk.inj (Option.some.inj hcandidates)
          exact FigureTable.ne_empty_of_defaultPath?_eq_some hpath
        · cases hcandidates
      · exact ih _ entry hentry

omit [Coordinate α] in
/-- What a paragraph shows has a feature for each path, and no path is empty. -/
theorem paired_ofBundle (story : Story) (channels : Channels) (currentScene : String) (b : Bundle)
    (s : Stage α) :
    let figures := (ofBundle story channels currentScene b s).1.figures
    (Direction.figures (α := α) (figures.map (·.1)) (figures.map (·.2))).Paired := by
  intro figures
  refine ⟨by rw [List.length_map, List.length_map], ?_⟩
  intro hmem
  obtain ⟨entry, hentry, hpath⟩ := List.mem_map.1 hmem
  have hfigures : entry ∈ (if channels.figure then
      chooseFigures story.settings.directives story.tables b.poses s else ([], s)).1 := hentry
  by_cases hon : channels.figure = true
  · rw [if_pos hon] at hfigures
    exact ne_empty_of_mem_chooseFigures _ _ _ _ entry hfigures hpath
  · rw [if_neg hon] at hfigures
    cases hfigures

end Resolution

end Dramaturg
