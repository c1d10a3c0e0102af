import Dramaturg.Turn.Paragraph
import Dramaturg.Proofs.Stage.Performance
import Dramaturg.Proofs.Stage.Settled

set_option autoImplicit false

/-! # Pages on which nobody moves

Each page of a paragraph asks for the same figures, and what stands between two pages leaves the
figures alone. So with exact coordinates all that happens to them happens on the first page. Acts
that move nobody can be done one after the other (`Act.Calm.andThen`), and this carries over from a
single call to whole pages. -/

namespace Dramaturg

variable {α : Type}

/-! ## Acts that move nobody -/

/-- Whether a command moves a figure or takes it off the stage. -/
def Command.Moves (c : Command) : Prop := c.kind = .setTransform ∨ ∃ id, c = Stage.hideCommand id

theorem Command.not_moves_of_channel {c : Command} (h : c.kind.channel ≠ .figure) : ¬ c.Moves := by
  rintro (hkind | ⟨id, rfl⟩)
  · rw [hkind] at h
    exact h rfl
  · exact h rfl

namespace Stage

/-- Whether two stages have the same figures under the same rules, and will draw the same. -/
structure SameFigures (s s' : Stage α) : Prop where
  rules : s.rules = s'.rules
  figure : s.SameOn s' .figure

theorem SameFigures.refl (s : Stage α) : s.SameFigures s := ⟨rfl, .refl s .figure⟩

theorem sameFigures_beginSentence (s : Stage α) : s.SameFigures s.beginSentence :=
  ⟨rfl, rfl, rfl⟩

theorem SameFigures.trans {s s' s'' : Stage α} (h : s.SameFigures s') (h' : s'.SameFigures s'') :
    s.SameFigures s'' :=
  ⟨h.rules.trans h'.rules, h.figure.trans h'.figure⟩

end Stage

namespace Act

/-- Whether an act is done on a stage without a fault and moves nobody. -/
def Calm (act : Act α) (s : Stage α) : Prop :=
  ∃ commands s', act s = (.ok commands, s') ∧ s.SameFigures s' ∧ ∀ c ∈ commands, ¬ c.Moves

theorem calm_silent {change : Stage α → Stage α} {s : Stage α} (h : s.SameFigures (change s)) :
    (silent change).Calm s :=
  ⟨[], change s, rfl, h, fun _ hc => absurd hc List.not_mem_nil⟩

theorem calm_idle (s : Stage α) : idle.Calm s := calm_silent (.refl s)

/-- Whatever keeps to another channel than that of the figures is calm, if it returns. -/
theorem KeepsTo.calm {act : Act α} {k : Channel} (h : act.KeepsTo k) (hk : k ≠ .figure)
    (hreturns : ∀ s, ∃ commands, (act s).1 = .ok commands) (s : Stage α) : act.Calm s := by
  obtain ⟨commands, hcommands⟩ := hreturns s
  have hsame : s.SameFigures (act s).2 := ⟨(h.frame s).rules, h.others s .figure hk.symm⟩
  refine ⟨commands, (act s).2, Prod.ext hcommands rfl, hsame, ?_⟩
  intro c hc
  apply Command.not_moves_of_channel
  rw [h.channel s commands hcommands c hc]
  exact hk

theorem Calm.when {act : Act α} {s : Stage α} (h : act.Calm s) (condition : Bool) :
    (Act.when condition act).Calm s := by
  cases condition with
  | true => exact h
  | false => exact calm_idle s

theorem Calm.andThen {first second : Act α} {s : Stage α} (h : first.Calm s)
    (h' : ∀ s', s.SameFigures s' → second.Calm s') : (first.andThen second).Calm s := by
  obtain ⟨before, between, hfirst, hsame, hbefore⟩ := h
  obtain ⟨after, s', hsecond, hsame', hafter⟩ := h' between hsame
  refine ⟨before ++ after, s', ?_, hsame.trans hsame', ?_⟩
  · simp only [Act.andThen, hfirst, hsecond]
  · exact List.forall_mem_append.2 ⟨hbefore, hafter⟩

theorem calm_inOrder {acts : List (Act α)} {s : Stage α}
    (h : ∀ act ∈ acts, ∀ s', s.SameFigures s' → act.Calm s') : (inOrder acts).Calm s := by
  induction acts generalizing s with
  | nil => exact calm_idle s
  | cons act acts ih =>
    refine (h act List.mem_cons_self s (.refl s)).andThen ?_
    intro between hsame
    exact ih fun other hother s' hsame' =>
      h other (List.mem_cons_of_mem act hother) s' (hsame.trans hsame')

theorem calm_say (speaker reply page : String) (s : Stage α) :
    (single (Stage.say speaker reply page)).Calm s :=
  (keepsTo_say speaker reply page).calm nofun (fun _ => ⟨_, rfl⟩) s

theorem calm_ambience (a : Ambience) (found : Option String) (s : Stage α) :
    (a.act found).Calm s :=
  (a.keepsTo_act found).calm (by cases a <;> nofun) (a.exists_act_eq_ok found) s

end Act

variable [Coordinate α]

namespace Stage

theorem not_moves_showCommand (feature : Feature) (f : Figure α) :
    ¬ (showCommand feature f).Moves := by
  rintro (hkind | ⟨id, hhide⟩)
  · cases hkind
  · have hcount := congrArg (·.arguments.length) hhide
    simp [showCommand, hideCommand] at hcount

theorem Shows.not_moves {r : Roster α} {cast : List (Feature × String)} {commands : List Command}
    (h : Shows r cast commands) : ∀ c ∈ commands, ¬ c.Moves := by
  induction h with
  | nil => exact fun _ hc => absurd hc List.not_mem_nil
  | cons hfirst _ ih =>
    obtain ⟨f, -, -, rfl⟩ := hfirst
    exact List.forall_mem_cons.2 ⟨not_moves_showCommand _ f, ih⟩

/-- Asking again for figures that have been shown moves nobody. -/
theorem calm_figures [Coordinate.Exact α] {features : List Feature} {paths : List String}
    (hlength : features.length = paths.length) {s s' : Stage α} (hwell : s.roster.WellFormed)
    (hlevel : s.roster.Level) {commands : List Command}
    (hcall : s.figures features paths = (.ok commands, s')) {later : Stage α}
    (hlater : s'.SameFigures later) : Act.Calm (figures features paths) later := by
  by_cases hempty : features = [] ∨ paths = []
  · exact ⟨[], later, figures_of_empty hempty later, .refl later,
      fun _ hc => absurd hc List.not_mem_nil⟩
  · obtain ⟨hfeatures, hpaths⟩ := not_or.1 hempty
    have hsettled := settled_figures hfeatures hpaths hlength hwell hlevel hcall
    obtain ⟨hthere, -⟩ := billing_figures hfeatures hpaths hcall
    rw [hlater.rules, hlater.figure.1] at hsettled
    rw [hlater.figure.1] at hthere
    obtain ⟨commands', hagain, hshows⟩ := figures_of_settled hsettled hfeatures hpaths hthere
    exact ⟨commands', later, hagain, .refl later, hshows.not_moves⟩

end Stage

/-! ## Pages -/

namespace Resolution

variable (r : Resolution) (channels : Channels) (reply : String)

/-- Without a page there is nothing that moves anyone. -/
theorem calm_act_nil (s : Stage α) : (r.act channels reply (.ok [])).Calm s := by
  apply Act.calm_inOrder
  intro part hpart later _
  simp only [List.mem_cons, List.not_mem_nil, or_false] at hpart
  rcases hpart with rfl | rfl | rfl | rfl | rfl
  · exact Act.calm_silent (Stage.sameFigures_beginSentence later)
  · exact (Act.calm_ambience .music r.bgm later).when channels.music
  · exact (Act.calm_ambience .background r.background later).when channels.background
  · exact Act.calm_idle later
  · exact (Act.calm_ambience .scene r.scene later).when channels.scene

variable [Coordinate.Exact α]

/-- After the first page of a paragraph the other pages move nobody. -/
theorem calm_pages {s s' : Stage α} (hwell : s.roster.WellFormed) (hlevel : s.roster.Level)
    {page : String} {commands : List Command}
    (hpage : r.pageAct channels reply page s = (.ok commands, s')) (pages : List String) :
    (Act.inOrder (pages.map (r.pageAct channels reply))).Calm s' := by
  obtain ⟨_, shown, _, hfigures, hsay, -⟩ := Act.andThen_eq_ok hpage
  have hlength : (r.figures.map (·.1)).length = (r.figures.map (·.2)).length := by
    rw [List.length_map, List.length_map]
  have hagain : ∀ later, shown.SameFigures later →
      (Act.when channels.figure
        (Stage.figures (r.figures.map (·.1)) (r.figures.map (·.2)))).Calm later := by
    intro later hlater
    cases hon : channels.figure with
    | false => exact Act.calm_idle later
    | true =>
      rw [hon] at hfigures
      exact Stage.calm_figures hlength hwell hlevel hfigures hlater
  have hsaying (page : String) (s : Stage α) :
      (Act.inOrder [Act.when channels.dialogue
        (Act.single (Stage.say r.speaker reply page))]).Calm s :=
    ((Act.calm_say r.speaker reply page s).when channels.dialogue).andThen
      fun said _ => Act.calm_idle said
  -- The words of the first page leave the figures as they have been shown.
  have hsame : shown.SameFigures s' := by
    obtain ⟨_, _, hsaid, hsame, -⟩ := hsaying page shown
    obtain ⟨-, rfl⟩ := Prod.mk.inj (hsay.symm.trans hsaid)
    exact hsame
  apply Act.calm_inOrder
  intro act hact later hlater
  obtain ⟨next, -, rfl⟩ := List.mem_map.1 hact
  exact (hagain later (hsame.trans hlater)).andThen fun said _ => hsaying next said

/-- A paragraph is its opening, the first page, and what comes after it. It stops only if the first
    page does, and nobody moves but on this page. -/
theorem act_moves_on_first_page {s : Stage α} (hwell : s.roster.WellFormed)
    (hlevel : s.roster.Level) (page : String) (pages : List String) :
    ∃ before opened, s.SameFigures opened ∧ (∀ c ∈ before, ¬ c.Moves) ∧
      ((∃ fault stopped, r.pageAct channels reply page opened = (.error fault, stopped) ∧
          r.act channels reply (.ok (page :: pages)) s = (.error fault, stopped)) ∨
        ∃ first between after s', r.pageAct channels reply page opened = (.ok first, between) ∧
          r.act channels reply (.ok (page :: pages)) s = (.ok (before ++ first ++ after), s') ∧
          between.SameFigures s' ∧ ∀ c ∈ after, ¬ c.Moves) := by
  obtain ⟨music, played, hmusic, hsame, hstill⟩ :=
    (Act.calm_ambience .music r.bgm s.beginSentence).when channels.music
  obtain ⟨background, opened, hbackground, hsame', hstill'⟩ :=
    (Act.calm_ambience .background r.background played).when channels.background
  have hopened : s.SameFigures opened :=
    (Stage.sameFigures_beginSentence s).trans (hsame.trans hsame')
  simp only [Ambience.act] at hmusic hbackground
  refine ⟨music ++ background, opened, hopened, List.forall_mem_append.2 ⟨hstill, hstill'⟩, ?_⟩
  rcases hpage : r.pageAct channels reply page opened with ⟨fault | first, between⟩
  · refine .inl ⟨fault, between, rfl, ?_⟩
    simp only [act, pagesAct, List.map_cons, Act.inOrder, Act.andThen, Act.silent, hmusic,
      hbackground, hpage]
  · rw [hopened.figure.1] at hwell hlevel
    obtain ⟨more, turned, hmore, hsame, hstill⟩ :=
      r.calm_pages channels reply hwell hlevel hpage pages
    obtain ⟨scene, s', hscene, hsame', hstill'⟩ :=
      (Act.calm_ambience .scene r.scene turned).when channels.scene
    simp only [Ambience.act] at hscene
    refine .inr ⟨first, between, more ++ scene, s', rfl, ?_, hsame.trans hsame',
      List.forall_mem_append.2 ⟨hstill, hstill'⟩⟩
    simp only [act, pagesAct, List.map_cons, Act.inOrder, Act.andThen, Act.silent, Act.idle, hmusic,
      hbackground, hpage, hmore, hscene, List.nil_append, List.append_nil, List.append_assoc]

end Resolution

namespace Stage

/-- **Asking again for the same figures moves nobody.** In every state, after a call that returns,
    each figure was last put where it stands. As long as the roster and the layout stay as they are,
    a call for the same paths gives exactly one command for each of them, in order, which shows the
    figure as it stands, and changes nothing of the stage. So in a paragraph figures move and leave
    on the first page only, and it is stopped on no page but this. -/
theorem figures_again (rules : StageRules ℚ) (random : Random.Source) (ids : IdSupply)
    (directions : List (Direction ℚ)) :
    let s := (opening rules random ids).follow directions
    (∀ features paths commands s', features ≠ [] → paths ≠ [] → features.length = paths.length →
      s.figures features paths = (.ok commands, s') →
      (∀ f ∈ s'.roster.figures, f.lastPosition = f.position) ∧
      ∀ (later : Stage ℚ) features' paths', later.roster = s'.roster →
        later.rules.layout = s'.rules.layout → features'.length = paths'.length →
        (∀ path, path ∈ paths' ↔ path ∈ paths) →
        ∃ commands', later.figures features' paths' = (.ok commands', later) ∧
          Shows later.roster (features'.zip paths') commands' ∧ ∀ c ∈ commands', ¬ c.Moves) ∧
    (∀ (r : Resolution) channels reply, (r.act channels reply (.ok [])).Calm s) ∧
    ∀ (r : Resolution) channels reply page pages,
      ∃ before opened, s.SameFigures opened ∧ (∀ c ∈ before, ¬ c.Moves) ∧
        ((∃ fault stopped, r.pageAct channels reply page opened = (.error fault, stopped) ∧
            r.act channels reply (.ok (page :: pages)) s = (.error fault, stopped)) ∨
          ∃ first between after s', r.pageAct channels reply page opened = (.ok first, between) ∧
            r.act channels reply (.ok (page :: pages)) s = (.ok (before ++ first ++ after), s') ∧
            between.SameFigures s' ∧ ∀ c ∈ after, ¬ c.Moves) := by
  intro s
  have hwell : s.roster.WellFormed := wellFormed_follow directions Roster.wellFormed_empty
  have hlevel : s.roster.Level := level_follow directions Roster.level_empty
  refine ⟨?_, fun r channels reply => r.calm_act_nil channels reply s, ?_⟩
  · intro features paths commands s' hfeatures hpaths hlength hcall
    have hsettled := settled_figures hfeatures hpaths hlength hwell hlevel hcall
    obtain ⟨hthere, -⟩ := billing_figures hfeatures hpaths hcall
    refine ⟨hsettled.at_rest, ?_⟩
    intro later features' paths' hroster hlayout hlength' hsame
    rw [← hlayout, ← hroster] at hsettled
    have hpaths' : paths' ≠ [] := by
      obtain ⟨path, hpath⟩ := List.exists_mem_of_ne_nil paths hpaths
      exact List.ne_nil_of_mem ((hsame path).2 hpath)
    have hfeatures' : features' ≠ [] := by
      rw [← List.length_pos_iff, hlength', List.length_pos_iff]
      exact hpaths'
    obtain ⟨commands', hagain, hshows⟩ := figures_of_settled hsettled hfeatures' hpaths'
      fun path => by rw [hroster, hthere, hsame]
    exact ⟨commands', hagain, hshows, hshows.not_moves⟩
  · intro r channels reply page pages
    exact r.act_moves_on_first_page channels reply hwell hlevel page pages

/-- Two figures that are asked for again, in the other order. -/
theorem figures_again_duet :
    let start : Stage ℚ :=
      opening ⟨⟨-300, 300, 150, 1⟩, false, false, false⟩ ⟨fun _ => 0, 0⟩ ⟨fun _ => "", 0⟩
    ∃ commands s' commands', start.figures [{}, {}] ["a", "b"] = (.ok commands, s') ∧
      s'.figures [{}, {}] ["b", "a"] = (.ok commands', s') ∧ commands'.length = 2 ∧
      ∀ c ∈ commands', ¬ c.Moves := by
  intro start
  obtain ⟨hcalls, -⟩ := figures_again start.rules start.random start.ids []
  obtain ⟨commands, s', hcall⟩ :=
    exists_figures_eq_ok (s := start) [{}, {}] ["a", "b"] (Nat.le_of_ble_eq_true rfl)
  obtain ⟨-, hagain⟩ := hcalls _ _ commands s' (by simp) (by simp) rfl hcall
  have hsame (path : String) : path ∈ ["b", "a"] ↔ path ∈ ["a", "b"] := by
    simp [or_comm]
  obtain ⟨commands', hshown, hshows, hstill⟩ := hagain s' [{}, {}] ["b", "a"] rfl rfl rfl hsame
  exact ⟨commands, s', commands', hcall, hshown, hshows.length_eq.symm, hstill⟩

end Stage

end Dramaturg
