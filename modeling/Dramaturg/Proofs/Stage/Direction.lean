import Dramaturg.Proofs.Stage.Channel
import Dramaturg.Proofs.Stage.Exact

set_option autoImplicit false

/-! # Directions

All that can be asked of a stage is a direction. A stage follows directions one after the other from
its opening on, also those after a fault. Only showing figures touches the roster, and so a roster
is well formed in every state, and the numbers of its figures are what they should be. -/

namespace Dramaturg

/-- What can be asked of a stage. -/
inductive Direction (α : Type) where
  | figures (features : List Feature) (paths : List String)
  | say (speaker reply page : String)
  | background (found : Option String)
  | bgm (found : Option String)
  | scene (found : Option String)
  | choose (features : List Feature)
  | reconfigure (rules : StageRules α)
  | beginParagraph
  | beginSentence

variable {α : Type}

/-- Whether an act returns and leaves the figures alone, on the stage and in its commands. -/
def Act.Quiet (act : Act α) : Prop :=
  ∀ s, (act s).2.roster = s.roster ∧
    ∃ commands, (act s).1 = .ok commands ∧
      ∀ c ∈ commands, c.kind ≠ .changeFigure ∧ c.kind ≠ .setTransform

theorem Act.quiet_silent {change : Stage α → Stage α} (h : ∀ s, (change s).roster = s.roster) :
    (Act.silent change).Quiet := by
  intro s
  exact ⟨h s, [], rfl, fun c hc => absurd hc List.not_mem_nil⟩

/-- Whatever keeps to another channel than that of the figures is quiet, if it returns. -/
theorem Act.KeepsTo.quiet {act : Act α} {k : Channel} (h : act.KeepsTo k) (hk : k ≠ .figure)
    (hreturns : ∀ s, ∃ commands, (act s).1 = .ok commands) : act.Quiet := by
  intro s
  obtain ⟨commands, hcommands⟩ := hreturns s
  obtain ⟨hroster, -⟩ := h.others s .figure hk.symm
  refine ⟨hroster.symm, commands, hcommands, ?_⟩
  intro c hc
  have hchannel := h.channel s commands hcommands c hc
  constructor
  · intro hkind
    rw [hkind] at hchannel
    exact hk hchannel.symm
  · intro hkind
    rw [hkind] at hchannel
    exact hk hchannel.symm

theorem Ambience.quiet_act (a : Ambience) (found : Option String) : (a.act (α := α) found).Quiet :=
  (a.keepsTo_act found).quiet (by cases a <;> nofun) (a.exists_act_eq_ok found)

variable [Coordinate α]

/-- The act of a direction. A feature that is chosen stays with the one who asked. -/
def Direction.act : Direction α → Act α
  | .figures features paths => Stage.figures features paths
  | .say speaker reply page => Act.single (Stage.say speaker reply page)
  | .background found => Act.optional (Stage.background found)
  | .bgm found => Act.optional (Stage.bgm found)
  | .scene found => Act.optional (Stage.scene found)
  | .choose features => Act.silent fun s => (s.choose features).2
  | .reconfigure rules => Act.silent (Stage.reconfigure rules)
  | .beginParagraph => Act.silent Stage.beginParagraph
  | .beginSentence => Act.silent Stage.beginSentence

/-- Whatever does not ask for figures leaves them alone. -/
theorem Direction.quiet_of_ne_figures {d : Direction α}
    (hother : ∀ features paths, d ≠ .figures features paths) : d.act.Quiet := by
  cases d with
  | figures features paths => exact absurd rfl (hother features paths)
  | say speaker reply page =>
    exact (Act.keepsTo_say speaker reply page).quiet nofun fun s => ⟨_, rfl⟩
  | background found => exact Ambience.quiet_act .background found
  | bgm found => exact Ambience.quiet_act .music found
  | scene found => exact Ambience.quiet_act .scene found
  | choose | reconfigure | beginParagraph | beginSentence => exact Act.quiet_silent fun _ => rfl

namespace Stage

/-- A new stage. -/
def opening (rules : StageRules α) (random : Random.Source) (ids : IdSupply) : Stage α where
  rules := rules
  random := random
  ids := ids

/-- The stage after directions. -/
def follow (s : Stage α) (directions : List (Direction α)) : Stage α :=
  directions.foldl (fun s d => (d.act s).2) s

/-! ## What a direction does to the roster -/

/-- Showing leaves everyone at their place. -/
theorem placings_showOne (factor : α) (feature : Feature) (path : String) (r : Roster α) :
    (showOne factor feature path r).2.placings = r.placings := by
  unfold showOne
  cases r.find? path with
  | none => rfl
  | some f =>
    by_cases hmoved : hasMoved f = true
    · simp only [hmoved, if_true, Roster.placings_settle]
    · simp only [hmoved, Bool.false_eq_true, if_false]

theorem placings_showAll (factor : α) (cast : List (Feature × String)) (r : Roster α) :
    (showAll factor cast r).2.placings = r.placings := by
  induction cast generalizing r with
  | nil => rfl
  | cons first rest ih =>
    obtain ⟨feature, path⟩ := first
    exact (ih _).trans (placings_showOne factor feature path r)

/-- The roster of a call when those who are wanted have come in. -/
def admitted (paths : List String) (s : Stage α) : Roster α :=
  (Roster.addMissing Random.Source.index paths (s.roster.removeAbsent paths) s.random).2.1

/-- What a call shows, of the figures as they are laid out. -/
def shown (features : List Feature) (paths : List String) (s : Stage α) :
    List Command × Roster α :=
  showAll s.rules.layout.positionChangeFactor (features.zip paths)
    ((s.admitted paths).layOut s.rules.layout)

/-- A call that wants figures adds those who are not there, and what has become of that decides
    what has become of the call. -/
theorem figures_of_addMissing {features : List Feature} {paths : List String}
    (hfeatures : features ≠ []) (hpaths : paths ≠ []) (s : Stage α) :
    ∃ outcome random, Roster.addMissing Random.Source.index paths (s.roster.removeAbsent paths)
        s.random = (outcome, s.admitted paths, random) ∧
      ((∃ fault, outcome = .error fault ∧ s.figures features paths
          = (.error fault, { s with roster := s.admitted paths, random := random })) ∨
        ∃ added, outcome = .ok added ∧ s.figures features paths
          = (.ok ((s.roster.absentIds paths).map hideCommand ++ (s.shown features paths).1),
              { s with roster := (s.shown features paths).2, random := random })) := by
  have hnonempty : ¬ (features.isEmpty || paths.isEmpty) = true := by simp [hfeatures, hpaths]
  unfold figures shown admitted
  rw [if_neg hnonempty]
  rcases Roster.addMissing Random.Source.index paths (s.roster.removeAbsent paths) s.random
    with ⟨fault | added, roster, random⟩
  · exact ⟨_, random, rfl, .inl ⟨fault, rfl, rfl⟩⟩
  · exact ⟨_, random, rfl, .inr ⟨added, rfl, rfl⟩⟩

/-- Showing figures adds figures for the first paths, and either it stops there or these are all,
    which are then laid out and shown. -/
theorem figures_cases {features : List Feature} {paths : List String} (hfeatures : features ≠ [])
    (hpaths : paths ≠ []) (s : Stage α) :
    ∃ seen rest random, paths = seen ++ rest ∧
      Roster.Admits seen (s.roster.removeAbsent paths) (s.admitted paths) ∧
      ((∃ fault, s.figures features paths
          = (.error fault, { s with roster := s.admitted paths, random := random })) ∨
        rest = [] ∧ s.figures features paths
          = (.ok ((s.roster.absentIds paths).map hideCommand ++ (s.shown features paths).1),
              { s with roster := (s.shown features paths).2, random := random })) := by
  obtain ⟨seen, rest, hsplit, hadmits, hall⟩ := Roster.exists_admits_addMissing
    Random.Source.index paths (s.roster.removeAbsent paths) s.random
  obtain ⟨outcome, random, hadded, ⟨fault, -, hcall⟩ | ⟨added, rfl, hcall⟩⟩ :=
    figures_of_addMissing hfeatures hpaths s
  · exact ⟨seen, rest, random, hsplit, hadmits, .inl ⟨fault, hcall⟩⟩
  · exact ⟨seen, rest, random, hsplit, hadmits, .inr ⟨hall added (by rw [hadded]), hcall⟩⟩

/-- Without a feature or a path nothing happens. -/
theorem figures_of_empty {features : List Feature} {paths : List String}
    (hempty : features = [] ∨ paths = []) (s : Stage α) :
    s.figures features paths = (.ok [], s) := by
  unfold figures
  rcases hempty with rfl | rfl <;> simp

/-- A call that returns has added figures for all paths. -/
theorem admits_of_figures_eq_ok {features : List Feature} {paths : List String}
    (hfeatures : features ≠ []) (hpaths : paths ≠ []) {s s' : Stage α} {commands : List Command}
    (hcall : s.figures features paths = (.ok commands, s')) :
    Roster.Admits paths (s.roster.removeAbsent paths) (s.admitted paths) ∧
      commands = (s.roster.absentIds paths).map hideCommand ++ (s.shown features paths).1 ∧
      s'.roster = (s.shown features paths).2 := by
  obtain ⟨seen, rest, random, hsplit, hadmits, ⟨fault, hfault⟩ | ⟨rfl, hok⟩⟩ :=
    figures_cases hfeatures hpaths s
  · rw [hfault] at hcall
    cases hcall
  · rw [List.append_nil] at hsplit
    subst hsplit
    rw [hok] at hcall
    obtain ⟨hcommands, hstage⟩ := Prod.mk.inj hcall
    exact ⟨hadmits, (Except.ok.inj hcommands).symm, hstage ▸ rfl⟩

theorem billing_shown (features : List Feature) (paths : List String) (s : Stage α) :
    (s.shown features paths).2.billing = (s.admitted paths).billing :=
  (Roster.billing_eq_of_placings_eq (placings_showAll _ _ _)).trans (Roster.billing_layOut _ _)

/-- Those are on the stage after a call who have come in or stayed, whether it returns or not. -/
theorem billing_of_figures {features : List Feature} {paths : List String}
    (hfeatures : features ≠ []) (hpaths : paths ≠ []) (s : Stage α) :
    (s.figures features paths).2.roster.billing = (s.admitted paths).billing := by
  obtain ⟨_, _, -, ⟨_, -, hcall⟩ | ⟨_, -, hcall⟩⟩ := figures_of_addMissing hfeatures hpaths s
  · rw [hcall]
  · rw [hcall]
    exact billing_shown features paths s

/-- A call returns if there are numbers for all who may come in. -/
theorem exists_figures_eq_ok (features : List Feature) (paths : List String) {s : Stage α}
    (hfew : s.roster.size + paths.length ≤ Roster.idLimit) :
    ∃ commands s', s.figures features paths = (.ok commands, s') := by
  by_cases hempty : features = [] ∨ paths = []
  · exact ⟨[], s, figures_of_empty hempty s⟩
  · -- Taking out leaves no more figures than there were.
    have hleft : (s.roster.removeAbsent paths).size ≤ s.roster.size := by
      rw [← Roster.length_billing, ← Roster.length_billing, Roster.billing_removeAbsent]
      exact List.length_filter_le _ _
    obtain ⟨added, hadded⟩ := Roster.exists_addMissing_eq_ok Random.Source.index
      (s.roster.removeAbsent paths) s.random paths (by omega)
    obtain ⟨hfeatures, hpaths⟩ := not_or.1 hempty
    obtain ⟨outcome, random, hrun, ⟨fault, rfl, -⟩ | ⟨_, -, hcall⟩⟩ :=
      figures_of_addMissing hfeatures hpaths s
    · rw [hrun] at hadded
      cases hadded
    · exact ⟨_, _, hcall⟩

theorem wellFormed_layOut {s : Stage α} (h : s.roster.WellFormed) {seen paths : List String}
    (hadmits : Roster.Admits seen (s.roster.removeAbsent paths) (s.admitted paths)) :
    ((s.admitted paths).layOut s.rules.layout).WellFormed :=
  (hadmits.wellFormed (h.removeAbsent paths)).of_billing_eq (Roster.billing_layOut _ _)

/-- The roster stays well formed, whether the call returns or not. -/
theorem wellFormed_figures (features : List Feature) (paths : List String) {s : Stage α}
    (h : s.roster.WellFormed) : (s.figures features paths).2.roster.WellFormed := by
  by_cases hempty : features = [] ∨ paths = []
  · rw [figures_of_empty hempty]
    exact h
  · obtain ⟨hfeatures, hpaths⟩ := not_or.1 hempty
    obtain ⟨_, _, _, -, hadmits, -⟩ := figures_cases hfeatures hpaths s
    exact (hadmits.wellFormed (h.removeAbsent paths)).of_billing_eq
      (billing_of_figures hfeatures hpaths s)

section

variable {motive : Roster α → Prop} (hfigures : ∀ features paths {s : Stage α}, motive s.roster →
  motive (s.figures features paths).2.roster)

include hfigures

/-- What showing figures preserves of the roster, every direction does. -/
theorem act_preserves (d : Direction α) {s : Stage α} (h : motive s.roster) :
    motive (d.act s).2.roster := by
  by_cases hshows : ∃ features paths, d = .figures features paths
  · obtain ⟨features, paths, rfl⟩ := hshows
    exact hfigures features paths h
  · have hquiet := Direction.quiet_of_ne_figures
      fun features paths heq => hshows ⟨features, paths, heq⟩
    rw [(hquiet s).1]
    exact h

theorem follow_preserves (directions : List (Direction α)) {s : Stage α} (h : motive s.roster) :
    motive (s.follow directions).roster := by
  induction directions generalizing s with
  | nil => exact h
  | cons d directions ih => exact ih (act_preserves hfigures d h)

end

theorem wellFormed_act (d : Direction α) {s : Stage α} (h : s.roster.WellFormed) :
    (d.act s).2.roster.WellFormed :=
  act_preserves wellFormed_figures d h

theorem wellFormed_follow (directions : List (Direction α)) {s : Stage α}
    (h : s.roster.WellFormed) : (s.follow directions).roster.WellFormed :=
  follow_preserves wellFormed_figures directions h

/-! ## The figures after a call -/

/-- The billing after a call that returns: of those who were there exactly those remain who are
    wanted, in their order, and all who are wanted are there. -/
theorem billing_figures {features : List Feature} {paths : List String} (hfeatures : features ≠ [])
    (hpaths : paths ≠ []) {s s' : Stage α} {commands : List Command}
    (hcall : s.figures features paths = (.ok commands, s')) :
    (∀ path, path ∈ s'.roster.paths ↔ path ∈ paths) ∧
      s'.roster.billing.filter (fun entry => decide (entry.2 ∈ s.roster.paths))
        = s.roster.billing.filter (fun entry => decide (entry.2 ∈ paths)) := by
  obtain ⟨hadmits, -, hroster⟩ := admits_of_figures_eq_ok hfeatures hpaths hcall
  have hbilling : s'.roster.billing = (s.admitted paths).billing := by
    rw [hroster, billing_shown]
  have hthere (path : String) : path ∈ (s.admitted paths).paths ↔ path ∈ paths := by
    rw [hadmits.mem_paths, Roster.mem_paths_removeAbsent]
    constructor
    · rintro (⟨-, hwanted⟩ | hwanted)
      · exact hwanted
      · exact hwanted
    · exact .inr
  constructor
  · intro path
    rw [← hthere, Roster.paths, hbilling, Roster.paths]
  · rw [hbilling]
    -- Who was there before the call and is there now has been there throughout.
    have hstayed : (s.admitted paths).billing.filter (fun entry => decide (entry.2 ∈ s.roster.paths))
        = (s.admitted paths).billing.filter
            (fun entry => decide (entry.2 ∈ (s.roster.removeAbsent paths).paths)) := by
      apply List.filter_congr
      intro entry hentry
      have hwanted : entry.2 ∈ paths := (hthere entry.2).1 (List.mem_map_of_mem hentry)
      rw [decide_eq_decide, Roster.mem_paths_removeAbsent]
      exact ⟨fun h => ⟨h, hwanted⟩, And.left⟩
    rw [hstayed, hadmits.filter_billing, Roster.billing_removeAbsent]
    apply List.filter_congr
    intro entry _
    rw [List.contains_eq_mem]

/-- **In every state the roster is well formed, and the figures are those asked for under the
    numbers they should have.** After a call that returns, with features and paths, the paths on the
    stage are exactly those asked for. Who was there and is wanted keeps number and order. The numbers
    of the others are taken off the screen first, in the order in which they stood. Each newcomer has
    the smallest number that neither those who stayed have, nor the newcomers before it. -/
theorem roster_follow_opening (rules : StageRules α) (random : Random.Source) (ids : IdSupply)
    (directions : List (Direction α)) :
    let s := (opening rules random ids).follow directions
    s.roster.WellFormed ∧
      ∀ features paths commands s', features ≠ [] → paths ≠ [] →
        s.figures features paths = (.ok commands, s') →
        (∀ path, path ∈ s'.roster.paths ↔ path ∈ paths) ∧
        s'.roster.billing.filter (fun entry => decide (entry.2 ∈ s.roster.paths))
          = s.roster.billing.filter (fun entry => decide (entry.2 ∈ paths)) ∧
        s.roster.absentIds paths
          = (s.roster.billing.filter fun entry => decide (entry.2 ∉ paths)).map (·.1) ∧
        (s.roster.absentIds paths).map hideCommand <+: commands ∧
        ∀ earlier path later, paths = earlier ++ path :: later → path ∉ earlier →
          path ∉ s.roster.paths →
          ∃ id, (id, path) ∈ s'.roster.billing ∧
            IsLeast {n | ∀ entry ∈ s'.roster.billing,
              entry.2 ∈ s.roster.paths ∨ entry.2 ∈ earlier → entry.1 ≠ n} id := by
  intro s
  refine ⟨wellFormed_follow directions Roster.wellFormed_empty, ?_⟩
  intro features paths commands s' hfeatures hpaths hcall
  obtain ⟨hthere, hstayed⟩ := billing_figures hfeatures hpaths hcall
  obtain ⟨hadmits, hcommands, hroster⟩ := admits_of_figures_eq_ok hfeatures hpaths hcall
  refine ⟨hthere, hstayed, ?_, ?_, ?_⟩
  · rw [Roster.absentIds_eq]
    congr 1
    apply List.filter_congr
    intro entry _
    rw [List.contains_eq_mem, decide_not]
  · rw [hcommands]
    exact List.prefix_append _ _
  · intro earlier path later hsplit hfirst hnew
    subst hsplit
    have habsent : path ∉ (s.roster.removeAbsent (earlier ++ path :: later)).paths :=
      fun hmem => hnew (Roster.mem_paths_removeAbsent.1 hmem).1
    obtain ⟨id, hid, hleast⟩ := hadmits.exists_newcomer habsent hfirst
    rw [← s.billing_shown features, ← hroster] at hid hleast
    refine ⟨id, hid, ?_⟩
    -- Whoever is on the stage now was not taken off.
    have hsame : {n | ∀ entry ∈ s'.roster.billing,
          entry.2 ∈ (s.roster.removeAbsent (earlier ++ path :: later)).paths ∨ entry.2 ∈ earlier →
            entry.1 ≠ n}
        = {n | ∀ entry ∈ s'.roster.billing,
          entry.2 ∈ s.roster.paths ∨ entry.2 ∈ earlier → entry.1 ≠ n} := by
      ext n
      apply forall₂_congr
      intro entry hentry
      have hwanted : entry.2 ∈ earlier ++ path :: later :=
        (hthere entry.2).1 (List.mem_map_of_mem hentry)
      rw [Roster.mem_paths_removeAbsent, and_iff_left hwanted]
    exact hsame ▸ hleast

/-- An empty stage in fractions, on which figures stand four hundred apart. -/
def bareStage : Stage ℚ :=
  opening ⟨⟨-600, 600, 400, 1⟩, false, false, false⟩ ⟨fun _ => 0, 0⟩ ⟨fun _ => "", 0⟩

/-- Three figures are asked for, and each that comes in is put before the others. -/
def trio : Direction ℚ := .figures [{}, {}, {}] ["a", "b", "c"]

/-- Of three figures two are taken off, in the order in which they stood. The third stays as it was,
    and the newcomer has the number of the one that came first. -/
theorem exists_figures_of_trio :
    let s := bareStage.follow [trio]
    s.roster.billing = [(2, "c"), (1, "b"), (0, "a")] ∧
      ∃ commands s', s.figures [{}, {}] ["c", "d"] = (.ok commands, s') ∧
        (∀ path, path ∈ s'.roster.paths ↔ path ∈ ["c", "d"]) ∧
        s'.roster.billing.filter (fun entry => decide (entry.2 ∈ s.roster.paths)) = [(2, "c")] ∧
        s.roster.absentIds ["c", "d"] = [1, 0] ∧
        [hideCommand 1, hideCommand 0] <+: commands ∧ (0, "d") ∈ s'.roster.billing := by
  intro s
  have hbilling : s.roster.billing = [(2, "c"), (1, "b"), (0, "a")] := by decide +kernel
  obtain ⟨commands, s', hcall⟩ :=
    exists_figures_eq_ok (s := s) [{}, {}] ["c", "d"] (by decide +kernel)
  obtain ⟨-, hfigures⟩ :=
    roster_follow_opening bareStage.rules bareStage.random bareStage.ids [trio]
  have hstage : (opening bareStage.rules bareStage.random bareStage.ids).follow [trio] = s := rfl
  rw [hstage] at hfigures
  obtain ⟨hthere, hstayed, habsent, hhidden, hnewcomer⟩ :=
    hfigures _ _ commands s' (by simp) (by simp) hcall
  have hstayed : s'.roster.billing.filter (fun entry => decide (entry.2 ∈ s.roster.paths))
      = [(2, "c")] := by
    rw [hstayed, hbilling]
    decide
  have habsent : s.roster.absentIds ["c", "d"] = [1, 0] := by
    rw [habsent, hbilling]
    decide
  rw [habsent] at hhidden
  refine ⟨hbilling, commands, s', hcall, hthere, hstayed, habsent, hhidden, ?_⟩
  have hnew : "d" ∉ s.roster.paths := by
    rw [Roster.paths, hbilling]
    decide
  obtain ⟨id, hid, hleast⟩ := hnewcomer ["c"] "d" [] rfl (by decide) hnew
  have hzero : id = 0 := by
    apply Nat.le_zero.1
    apply hleast.2
    -- The only one with a number from before is the third figure.
    intro entry hentry hbefore
    have hpath : entry.2 ∈ s.roster.paths := by
      rcases hbefore with hthere | hasked
      · exact hthere
      · rw [List.mem_singleton.1 hasked, Roster.paths, hbilling]
        decide
    have hthird : entry ∈ [(2, "c")] := by
      rw [← hstayed]
      exact List.mem_filter.2 ⟨hentry, by simpa using hpath⟩
    rw [List.mem_singleton.1 hthird]
    decide
  exact hzero ▸ hid

end Stage

end Dramaturg
