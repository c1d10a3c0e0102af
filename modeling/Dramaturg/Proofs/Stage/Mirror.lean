import Dramaturg.Proofs.Stage.Cue

set_option autoImplicit false

/-! # The screen mirrors the stage

`Stage.figureCues` are the cues of a call, with the commands that the call gives. If the ledger
mirrors the roster before the call, then it allows each cue in its turn, and mirrors the roster
again after the call. In between, when the figures are laid out and only some of them are shown, the
ledger stays within the roster. -/

namespace Dramaturg

variable {α : Type}

/-! ## The cues of a call -/

variable [Coordinate α]

namespace Stage

/-- The cues with which one figure is shown. -/
def showOneCues (factor : α) (feature : Feature) (path : String) (r : Roster α) : List (Cue α) :=
  match r.find? path with
  | none => []
  | some f => .show feature f :: if hasMoved f then [.move factor f] else []

/-- The cues with which figures are shown one after the other. -/
def showAllCues (factor : α) : List (Feature × String) → Roster α → List (Cue α)
  | [], _ => []
  | (feature, path) :: rest, r =>
    showOneCues factor feature path r ++
      showAllCues factor rest (showOne factor feature path r).2

/-- The cues of a call that returns. -/
def figureCues (features : List Feature) (paths : List String) (s : Stage α) : List (Cue α) :=
  if features.isEmpty || paths.isEmpty then []
  else
    (s.roster.absentIds paths).map .hide ++
      showAllCues s.rules.layout.positionChangeFactor (features.zip paths)
        ((s.admitted paths).layOut s.rules.layout)

theorem figureCues_of_empty {features : List Feature} {paths : List String}
    (hempty : features = [] ∨ paths = []) (s : Stage α) : s.figureCues features paths = [] := by
  unfold figureCues
  rw [if_pos (by simpa using hempty)]

theorem figureCues_of_ne_nil {features : List Feature} {paths : List String}
    (hfeatures : features ≠ []) (hpaths : paths ≠ []) (s : Stage α) :
    s.figureCues features paths = (s.roster.absentIds paths).map .hide ++
      showAllCues s.rules.layout.positionChangeFactor (features.zip paths)
        ((s.admitted paths).layOut s.rules.layout) := by
  unfold figureCues
  rw [if_neg (by simp [hfeatures, hpaths])]

theorem map_command_showOneCues (factor : α) (feature : Feature) (path : String) (r : Roster α) :
    (showOneCues factor feature path r).map Cue.command = (showOne factor feature path r).1 := by
  unfold showOneCues showOne
  cases r.find? path with
  | none => rfl
  | some f =>
    by_cases hmoved : hasMoved f = true
    · simp only [hmoved, if_true]
      rfl
    · simp only [hmoved, Bool.false_eq_true, if_false]
      rfl

theorem map_command_showAllCues (factor : α) (cast : List (Feature × String)) (r : Roster α) :
    (showAllCues factor cast r).map Cue.command = (showAll factor cast r).1 := by
  induction cast generalizing r with
  | nil => rfl
  | cons first rest ih =>
    obtain ⟨feature, path⟩ := first
    rw [showAllCues, List.map_append, map_command_showOneCues, ih]
    rfl

theorem map_command_figureCues {features : List Feature} {paths : List String} {s s' : Stage α}
    {commands : List Command} (hcall : s.figures features paths = (.ok commands, s')) :
    (s.figureCues features paths).map Cue.command = commands := by
  by_cases hempty : features = [] ∨ paths = []
  · rw [figures_of_empty hempty] at hcall
    obtain ⟨hcommands, -⟩ := Prod.mk.inj hcall
    rw [figureCues_of_empty hempty, ← Except.ok.inj hcommands]
    rfl
  · obtain ⟨hfeatures, hpaths⟩ := not_or.1 hempty
    obtain ⟨-, hcommands, -⟩ := admits_of_figures_eq_ok hfeatures hpaths hcall
    rw [figureCues_of_ne_nil hfeatures hpaths, hcommands, List.map_append,
      map_command_showAllCues, List.map_map]
    rfl

end Stage

namespace Ledger

/-- Whether a path is seen under a number, at a place. -/
def Places (l : Ledger) (id : Nat) (path : String) (position : Point α) : Prop :=
  ∃ content, l id = some (path, ⟨content, position.transform⟩)

/-- Whether all that is seen is on the roster. -/
def Within (l : Ledger) (r : Roster α) : Prop :=
  ∀ id entry, l id = some entry → (id, entry.1) ∈ r.billing

/-- Whether exactly the roster is seen, and everyone where they are placed. -/
structure Mirrors (l : Ledger) (r : Roster α) : Prop where
  within : l.Within r
  places : ∀ id path position, (id, path, position) ∈ r.placings → l.Places id path position

/-! ### Taking off -/

theorem after_hide (l : Ledger) (ids : List Nat) (id : Nat) :
    l.after (ids.map (Cue.hide (α := α))) id = if id ∈ ids then none else l id := by
  induction ids generalizing l with
  | nil => simp [after]
  | cons first ids ih =>
    rw [List.map_cons, after, List.foldl_cons]
    refine (ih _).trans ?_
    rw [step]
    by_cases heq : id = first
    · subst heq
      simp
    · simp [heq]

theorem allowsAll_hide {l : Ledger} {ids : List Nat} (hnodup : ids.Nodup)
    (hthere : ∀ id ∈ ids, (l id).isSome) : l.AllowsAll (ids.map (Cue.hide (α := α))) := by
  induction ids generalizing l with
  | nil => trivial
  | cons first ids ih =>
    obtain ⟨hfirst, hnodup⟩ := List.nodup_cons.1 hnodup
    refine ⟨hthere first List.mem_cons_self, ih hnodup ?_⟩
    intro id hid
    have hne : id ≠ first := fun heq => hfirst (heq ▸ hid)
    rw [step, Function.update_of_ne hne]
    exact hthere id (List.mem_cons_of_mem first hid)

/-! ### Showing -/

open Stage

section

variable {l : Ledger} {r : Roster α}

theorem after_showOneCues (l : Ledger) (factor : α) (feature : Feature) {path : String}
    {f : Figure α} (hfind : r.find? path = some f) :
    l.after (showOneCues factor feature path r)
      = Function.update l f.id
          (some (f.path, ⟨feature.content f.path, f.position.transform⟩)) := by
  unfold showOneCues
  rw [hfind]
  by_cases hmoved : hasMoved f = true
  · simp only [hmoved, if_true, after, List.foldl_cons, List.foldl_nil, step]
    rw [Function.update_idem, Function.update_self]
    rfl
  · simp only [hmoved, Bool.false_eq_true, if_false]
    rfl

theorem allowsAll_showOneCues (h : r.WellFormed) (hl : l.Within r) (factor : α)
    (feature : Feature) (path : String) : l.AllowsAll (showOneCues factor feature path r) := by
  unfold showOneCues
  cases hfind : r.find? path with
  | none => trivial
  | some f =>
    obtain ⟨hf, -⟩ := Roster.mem_and_path_eq_of_find?_eq_some hfind
    refine ⟨?_, ?_⟩
    · -- What is seen under the number is on the roster, which has one figure for it.
      intro entry hentry
      obtain ⟨g, hg, hentry⟩ := List.mem_map.1 (hl f.id entry hentry)
      obtain ⟨hid, hpath⟩ := Prod.mk.inj hentry
      rw [← hpath, h.eq_of_id_eq hg hf hid]
    · by_cases hmoved : hasMoved f = true
      · simp only [hmoved, if_true]
        refine ⟨?_, trivial⟩
        show (step l _ f.id).isSome
        rw [step, Function.update_self]
        rfl
      · simp only [hmoved, Bool.false_eq_true, if_false]
        trivial

theorem within_showOneCues (hl : l.Within r) (factor : α) (feature : Feature) (path : String) :
    (l.after (showOneCues factor feature path r)).Within r := by
  cases hfind : r.find? path with
  | none =>
    unfold showOneCues
    rw [hfind]
    exact hl
  | some f =>
    rw [after_showOneCues l factor feature hfind]
    intro id entry hentry
    by_cases heq : id = f.id
    · subst heq
      rw [Function.update_self] at hentry
      obtain ⟨hf, -⟩ := Roster.mem_and_path_eq_of_find?_eq_some hfind
      rw [← Option.some.inj hentry]
      exact List.mem_map_of_mem hf
    · rw [Function.update_of_ne heq] at hentry
      exact hl id entry hentry

/-- The figure that is shown is placed, and all who were placed before still are. -/
theorem places_showOneCues (h : r.WellFormed) (factor : α) (feature : Feature) {path shown : String}
    {id : Nat} {position : Point α} (hmem : (id, path, position) ∈ r.placings)
    (hplaced : path = shown ∨ l.Places id path position) :
    (l.after (showOneCues factor feature shown r)).Places id path position := by
  obtain ⟨f, hf, rfl, rfl, rfl⟩ := Roster.mem_placings.1 hmem
  cases hfind : r.find? shown with
  | none =>
    have hnone : r.has shown ≠ true := by simp [Roster.has, hfind]
    rcases hplaced with rfl | hplaced
    · exact absurd ((r.has_iff _).2 (Roster.mem_paths.2 ⟨f, hf, rfl⟩)) hnone
    · unfold showOneCues
      rw [hfind]
      exact hplaced
  | some g =>
    obtain ⟨hg, hpath⟩ := Roster.mem_and_path_eq_of_find?_eq_some hfind
    rw [after_showOneCues l factor feature hfind]
    -- Only the entry of the figure that is shown is written.
    by_cases heq : f.id = g.id
    · rw [h.eq_of_id_eq hf hg heq]
      exact ⟨feature.content g.path, Function.update_self _ _ _⟩
    · rcases hplaced with rfl | ⟨content, hplaced⟩
      · exact absurd (congrArg Figure.id (h.eq_of_path_eq hf hg hpath.symm)) heq
      · exact ⟨content, by rw [Function.update_of_ne heq, hplaced]⟩

end

/-- Showing figures one after the other is in order, keeps within the roster, and places everyone who
    is shown. -/
theorem showAllCues_mirrors {l : Ledger} {r : Roster α} (h : r.WellFormed) (hl : l.Within r)
    (factor : α) (cast : List (Feature × String)) :
    l.AllowsAll (showAllCues factor cast r) ∧
      (l.after (showAllCues factor cast r)).Within r ∧
      ∀ id path position, (id, path, position) ∈ r.placings →
        path ∈ cast.map (·.2) ∨ l.Places id path position →
        (l.after (showAllCues factor cast r)).Places id path position := by
  induction cast generalizing l r with
  | nil =>
    refine ⟨trivial, hl, ?_⟩
    rintro id path position - (hnone | hplaced)
    · exact absurd hnone List.not_mem_nil
    · exact hplaced
  | cons first rest ih =>
    obtain ⟨feature, shown⟩ := first
    -- Showing a figure changes neither the places of the roster nor its billing.
    have hplacings := placings_showOne factor feature shown r
    have hbilling := Roster.billing_eq_of_placings_eq hplacings
    have hwithin (l' : Ledger) : l'.Within (showOne factor feature shown r).2 ↔ l'.Within r := by
      unfold Within
      rw [hbilling]
    obtain ⟨hallows, hafter, hplaces⟩ := ih (h.of_billing_eq hbilling)
      ((hwithin _).2 (within_showOneCues hl factor feature shown))
    rw [hwithin] at hafter
    rw [hplacings] at hplaces
    rw [showAllCues, allowsAll_append, after_append]
    refine ⟨⟨allowsAll_showOneCues h hl factor feature shown, hallows⟩, hafter, ?_⟩
    intro id path position hmem hplaced
    apply hplaces id path position hmem
    rw [List.map_cons, List.mem_cons, or_assoc] at hplaced
    rcases hplaced with heq | hlater | hplaced
    · exact .inr (places_showOneCues h factor feature hmem (.inl heq))
    · exact .inl hlater
    · exact .inr (places_showOneCues h factor feature hmem (.inr hplaced))

/-! ### A whole call -/

/-- What is left after taking off those who are not wanted is on the roster when the others have
    come in. -/
theorem within_admitted {l : Ledger} {s : Stage α} (hl : l.Within s.roster) {paths : List String}
    (hadmits : Roster.Admits paths (s.roster.removeAbsent paths) (s.admitted paths)) :
    (l.after ((s.roster.absentIds paths).map (Cue.hide (α := α)))).Within
      ((s.admitted paths).layOut s.rules.layout) := by
  intro id entry hentry
  rw [after_hide] at hentry
  by_cases habsent : id ∈ s.roster.absentIds paths
  · rw [if_pos habsent] at hentry
    cases hentry
  · rw [if_neg habsent] at hentry
    have hbefore := hl id entry hentry
    have hwanted : paths.contains entry.1 = true := by
      by_contra hunwanted
      apply habsent
      rw [Roster.absentIds_eq]
      exact List.mem_map.2
        ⟨(id, entry.1), List.mem_filter.2 ⟨hbefore, by simpa using hunwanted⟩, rfl⟩
    rw [Roster.billing_layOut]
    apply List.mem_of_mem_filter
    rw [hadmits.filter_billing, Roster.billing_removeAbsent]
    exact List.mem_filter.2 ⟨hbefore, hwanted⟩

/-- **A call keeps the screen in step with the roster.** If it shows as many features as paths, then
    each of its cues is in order, and the ledger mirrors the roster after it if it did before. -/
theorem figures_mirrors {l : Ledger} {s s' : Stage α} (h : s.roster.WellFormed)
    (hl : l.Mirrors s.roster) {features : List Feature} {paths : List String}
    (hlength : features.length = paths.length) {commands : List Command}
    (hcall : s.figures features paths = (.ok commands, s')) :
    l.AllowsAll (s.figureCues features paths) ∧
      (l.after (s.figureCues features paths)).Mirrors s'.roster := by
  by_cases hempty : features = [] ∨ paths = []
  · rw [figures_of_empty hempty] at hcall
    obtain ⟨-, rfl⟩ := Prod.mk.inj hcall
    rw [figureCues_of_empty hempty]
    exact ⟨trivial, hl⟩
  · obtain ⟨hfeatures, hpaths⟩ := not_or.1 hempty
    obtain ⟨hadmits, -, hroster⟩ := admits_of_figures_eq_ok hfeatures hpaths hcall
    obtain ⟨hthere, -⟩ := billing_figures hfeatures hpaths hcall
    rw [figureCues_of_ne_nil hfeatures hpaths, allowsAll_append, after_append]
    have habsent := s.roster.sublist_absentIds paths
    -- Who leaves was on the roster, and therefore is seen.
    have hseen : ∀ id ∈ s.roster.absentIds paths, (l id).isSome := by
      intro id hid
      obtain ⟨f, hf, rfl⟩ := Roster.mem_ids.1 (habsent.subset hid)
      obtain ⟨content, hplaced⟩ :=
        hl.places f.id f.path f.position (Roster.mem_placings.2 ⟨f, hf, rfl, rfl, rfl⟩)
      rw [hplaced]
      rfl
    obtain ⟨hallows, hwithin, hplaces⟩ := showAllCues_mirrors (wellFormed_layOut h hadmits)
      (within_admitted hl.within hadmits) s.rules.layout.positionChangeFactor (features.zip paths)
    refine ⟨⟨allowsAll_hide (habsent.nodup h.ids_nodup) hseen, hallows⟩, ?_, ?_⟩
    · unfold Within at hwithin ⊢
      rwa [hroster, billing_shown, ← Roster.billing_layOut (s.admitted paths) s.rules.layout]
    · intro id path position hmem
      apply hplaces
      · rwa [hroster, shown, placings_showAll] at hmem
      · -- Everyone on the stage is wanted, and with a feature for each path everyone is shown.
        left
        obtain ⟨f, hf, -, rfl, -⟩ := Roster.mem_placings.1 hmem
        rw [List.map_snd_zip (Nat.le_of_eq hlength.symm)]
        exact (hthere f.path).1 (Roster.mem_paths.2 ⟨f, hf, rfl⟩)

end Ledger

/-! ## What a renderer can read -/

theorem Feature.content_ne_empty (feature : Feature) {path : String} (hpath : path ≠ "") :
    feature.content path ≠ "" := by
  unfold content
  by_cases hdefault : feature.overridePath.isEmpty = true
  · rwa [if_pos hdefault]
  · rw [if_neg hdefault]
    simpa using hdefault

namespace Stage

theorem legible_showAllCues (factor : α) {cast : List (Feature × String)}
    (hcast : ∀ path ∈ cast.map (·.2), path ≠ "") {r : Roster α} (h : r.WellFormed) :
    ∀ c ∈ showAllCues factor cast r, c.Legible := by
  induction cast generalizing r with
  | nil =>
    intro c hc
    cases hc
  | cons first rest ih =>
    obtain ⟨feature, path⟩ := first
    intro c hc
    rw [showAllCues, List.mem_append] at hc
    rcases hc with hc | hc
    · unfold showOneCues at hc
      cases hfind : r.find? path with
      | none =>
        rw [hfind] at hc
        cases hc
      | some f =>
        obtain ⟨hf, hpath⟩ := Roster.mem_and_path_eq_of_find?_eq_some hfind
        have hid : f.id < Roster.idLimit := h.ids_lt f.id (Roster.mem_ids.2 ⟨f, hf, rfl⟩)
        have hnonempty : f.path ≠ "" := hpath ▸ hcast path List.mem_cons_self
        rw [hfind] at hc
        rcases List.mem_cons.1 hc with rfl | hc
        · exact ⟨hid, feature.content_ne_empty hnonempty⟩
        · by_cases hmoved : hasMoved f = true
          · rw [if_pos hmoved] at hc
            obtain rfl := List.mem_singleton.1 hc
            exact hid
          · rw [if_neg hmoved] at hc
            cases hc
    · have hbilling := Roster.billing_eq_of_placings_eq (placings_showOne factor feature path r)
      exact ih (fun p hp => hcast p (List.mem_cons_of_mem _ hp)) (h.of_billing_eq hbilling) c hc

theorem legible_figureCues {s s' : Stage α} (h : s.roster.WellFormed) {features : List Feature}
    {paths : List String} (hnonempty : "" ∉ paths) {commands : List Command}
    (hcall : s.figures features paths = (.ok commands, s')) :
    ∀ c ∈ s.figureCues features paths, c.Legible := by
  intro c hc
  by_cases hempty : features = [] ∨ paths = []
  · rw [figureCues_of_empty hempty] at hc
    cases hc
  · obtain ⟨hfeatures, hpaths⟩ := not_or.1 hempty
    obtain ⟨hadmits, -, -⟩ := admits_of_figures_eq_ok hfeatures hpaths hcall
    rw [figureCues_of_ne_nil hfeatures hpaths, List.mem_append] at hc
    rcases hc with hc | hc
    · obtain ⟨id, hid, rfl⟩ := List.mem_map.1 hc
      exact h.ids_lt id ((s.roster.sublist_absentIds paths).subset hid)
    · refine legible_showAllCues _ ?_ (wellFormed_layOut h hadmits) c hc
      intro path hpath
      obtain ⟨entry, hentry, rfl⟩ := List.mem_map.1 hpath
      exact fun heq => hnonempty (heq ▸ (List.of_mem_zip hentry).2)

end Stage

end Dramaturg
