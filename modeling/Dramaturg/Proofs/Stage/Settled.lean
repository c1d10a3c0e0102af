import Dramaturg.Proofs.Stage.Direction
import Dramaturg.Proofs.Stage.Exact

set_option autoImplicit false

/-! # Figures that are asked for again

With exact coordinates a call for figures leaves all of them where the layout puts them, and noted as
put there. From then on there is nobody to take off or to add, laying out changes no place, and
nobody has moved. So a call for the same paths shows the figures as they stand, and leaves the stage
as it is.

A figure counts as moved only if it is to stand further to the left or to the right. That nothing is
missed by this takes an invariant of all stages: whatever is noted of a figure, it is on one line
with the others (`Roster.Level`). -/

namespace Dramaturg

variable {α : Type} [Coordinate α]

namespace Roster

/-! ## Places on one line -/

/-- Whether all figures stand on the line of the stage, and did so when they were put last. -/
def Level (r : Roster α) : Prop :=
  ∀ f ∈ r.figures, f.position.y = Coordinate.ofNat 0 ∧ f.lastPosition.y = Coordinate.ofNat 0

theorem level_empty : (⟨[]⟩ : Roster α).Level := fun _ hf => absurd hf List.not_mem_nil

theorem Level.removeAbsent {r : Roster α} (h : r.Level) (keep : List String) :
    (r.removeAbsent keep).Level := by
  intro f hf
  rw [figures_removeAbsent] at hf
  exact h f (List.mem_of_mem_filter hf)

theorem Admits.level {paths : List String} {r r' : Roster α} (h : Admits paths r r')
    (hr : r.Level) : r'.Level := by
  induction h with
  | done r => exact hr
  | present _ _ ih => exact ih hr
  | newcomer _ _ hslot _ ih =>
    apply ih
    intro f hf
    rcases (List.mem_insertIdx hslot).1 hf with rfl | hf
    · exact ⟨rfl, rfl⟩
    · exact hr f hf

theorem Level.layOut {r : Roster α} (h : r.Level) (l : Layout α) : (r.layOut l).Level := by
  intro f hf
  obtain ⟨i, hi, rfl⟩ := mem_layOut.1 hf
  exact ⟨rfl, (h _ (List.getElem_mem hi)).2⟩

theorem Level.settle {r : Roster α} (h : r.Level) (path : String) : (r.settle path).Level := by
  intro f hf
  obtain ⟨g, hg, rfl⟩ := List.mem_map.1 hf
  obtain ⟨hposition, hlast⟩ := h g hg
  split
  · exact ⟨hposition, hposition⟩
  · exact ⟨hposition, hlast⟩

/-! ## Rosters that stay as they are -/

/-- Whether a roster stands as a layout puts it, and the renderer has put everyone there. -/
structure Settled (r : Roster α) (l : Layout α) : Prop where
  laid_out : r.layOut l = r
  at_rest : ∀ f ∈ r.figures, f.lastPosition = f.position

theorem layOut_eq_self {r : Roster α} {l : Layout α}
    (h : ∀ i, ∀ hi : i < r.figures.length, r.figures[i].position = l.place r.size i) :
    r.layOut l = r := by
  suffices hfigures : (r.layOut l).figures = r.figures from congrArg Roster.mk hfigures
  apply List.ext_getElem
  · simp [layOut]
  · intro i _ hi
    simp only [layOut, List.getElem_mapIdx, ← h i hi]

/-- Who stands where a layout has put them is put there again. -/
theorem layOut_eq_self_of_placings_eq {r r' : Roster α} {l : Layout α}
    (h : r'.placings = (r.layOut l).placings) : r'.layOut l = r' := by
  have hlength : r'.figures.length = r.figures.length := by
    simpa [placings, layOut] using congrArg List.length h
  apply layOut_eq_self
  intro i hi
  have hi' : i < r.figures.length := hlength ▸ hi
  have hplaced : (r'.placings[i]?).map (·.2.2) = ((r.layOut l).placings[i]?).map (·.2.2) := by
    rw [h]
  simp only [placings, layOut, List.getElem?_map, List.getElem?_mapIdx, List.getElem?_eq_getElem hi,
    List.getElem?_eq_getElem hi', Option.map_some, Option.some.injEq] at hplaced
  rw [hplaced, size, size, hlength]

omit [Coordinate α] in
theorem removeAbsent_eq_self {r : Roster α} {keep : List String}
    (h : ∀ path ∈ r.paths, path ∈ keep) : r.removeAbsent keep = r := by
  suffices hfigures : (r.removeAbsent keep).figures = r.figures from congrArg Roster.mk hfigures
  rw [figures_removeAbsent, List.filter_eq_self]
  intro f hf
  exact List.contains_iff_mem.2 (h _ (mem_paths.2 ⟨f, hf, rfl⟩))

omit [Coordinate α] in
theorem absentIds_eq_nil {r : Roster α} {keep : List String} (h : ∀ path ∈ r.paths, path ∈ keep) :
    r.absentIds keep = [] := by
  have hnobody : (r.billing.filter fun entry => !keep.contains entry.2) = [] := by
    rw [List.filter_eq_nil_iff]
    intro entry hentry
    have hkept : entry.2 ∈ keep := h _ (List.mem_map_of_mem hentry)
    simp [hkept]
  rw [absentIds_eq, hnobody, List.map_nil]

theorem addMissing_eq_self {σ : Type} (slots : Slots σ) {paths : List String} {r : Roster α}
    (h : ∀ path ∈ paths, path ∈ r.paths) (s : σ) : addMissing slots paths r s = (.ok [], r, s) := by
  induction paths with
  | nil => rfl
  | cons path paths ih =>
    rw [addMissing_cons_of_mem slots r s (h path List.mem_cons_self)]
    exact ih fun other hother => h other (List.mem_cons_of_mem path hother)

end Roster

namespace Stage

/-! ## Showing -/

theorem level_showOne (factor : α) (feature : Feature) (path : String) {r : Roster α}
    (h : r.Level) : (showOne factor feature path r).2.Level := by
  unfold showOne
  cases r.find? path with
  | none => exact h
  | some f =>
    by_cases hmoved : hasMoved f = true
    · simp only [hmoved, if_true]
      exact h.settle path
    · simp only [hmoved, Bool.false_eq_true, if_false]
      exact h

theorem level_showAll (factor : α) (cast : List (Feature × String)) {r : Roster α} (h : r.Level) :
    (showAll factor cast r).2.Level := by
  induction cast generalizing r with
  | nil => exact h
  | cons first rest ih =>
    obtain ⟨feature, path⟩ := first
    exact ih (level_showOne factor feature path h)

theorem level_figures (features : List Feature) (paths : List String) {s : Stage α}
    (h : s.roster.Level) : (s.figures features paths).2.roster.Level := by
  by_cases hempty : features = [] ∨ paths = []
  · rw [figures_of_empty hempty]
    exact h
  · obtain ⟨hfeatures, hpaths⟩ := not_or.1 hempty
    obtain ⟨_, _, _, -, hadmits, hcall⟩ := figures_cases hfeatures hpaths s
    have hlevel : (s.admitted paths).Level := hadmits.level (h.removeAbsent paths)
    rcases hcall with ⟨fault, hcall⟩ | ⟨-, hcall⟩
    · rw [hcall]
      exact hlevel
    · rw [hcall]
      exact level_showAll _ _ (hlevel.layOut _)

theorem level_follow (directions : List (Direction α)) {s : Stage α} (h : s.roster.Level) :
    (s.follow directions).roster.Level :=
  follow_preserves level_figures directions h

/-- Who is at rest is shown and nothing else. -/
theorem showOne_of_at_rest [Coordinate.Exact α] {r : Roster α}
    (hrest : ∀ f ∈ r.figures, f.lastPosition = f.position) {path : String} (hpath : path ∈ r.paths)
    (factor : α) (feature : Feature) :
    ∃ f ∈ r.figures, f.path = path ∧
      showOne factor feature path r = ([showCommand feature f], r) := by
  obtain ⟨f, hfind⟩ := Option.isSome_iff_exists.1 ((r.has_iff path).2 hpath)
  obtain ⟨hf, hname⟩ := Roster.mem_and_path_eq_of_find?_eq_some hfind
  have hstays : hasMoved f = false := by
    rw [hasMoved, Bool.not_eq_false', Coordinate.Exact.same_iff, hrest f hf]
  refine ⟨f, hf, hname, ?_⟩
  simp only [showOne, hfind, hstays, Bool.false_eq_true, if_false]

/-- Whether commands show each of a cast in turn, as its figure stands, and do nothing else. -/
abbrev Shows (r : Roster α) : List (Feature × String) → List Command → Prop :=
  List.Forall₂ fun wanted c => ∃ f ∈ r.figures, f.path = wanted.2 ∧ c = showCommand wanted.1 f

theorem showAll_of_at_rest [Coordinate.Exact α] {r : Roster α}
    (hrest : ∀ f ∈ r.figures, f.lastPosition = f.position) (factor : α)
    {cast : List (Feature × String)} (hcast : ∀ wanted ∈ cast, wanted.2 ∈ r.paths) :
    ∃ commands, showAll factor cast r = (commands, r) ∧ Shows r cast commands := by
  induction cast with
  | nil => exact ⟨[], rfl, .nil⟩
  | cons first rest ih =>
    obtain ⟨feature, path⟩ := first
    obtain ⟨f, hf, hname, hone⟩ :=
      showOne_of_at_rest hrest (hcast (feature, path) List.mem_cons_self) factor feature
    obtain ⟨more, hmore, hshows⟩ :=
      ih fun wanted hwanted => hcast wanted (List.mem_cons_of_mem _ hwanted)
    refine ⟨showCommand feature f :: more, ?_, .cons ⟨f, hf, hname, rfl⟩ hshows⟩
    simp only [showAll, hone, hmore, List.singleton_append]

/-- Whoever is shown is at rest afterwards, as those are who have been shown before. -/
theorem at_rest_showOne [Coordinate.Exact α] {r : Roster α} (hwell : r.WellFormed)
    (hlevel : r.Level) {shown : List String}
    (hrest : ∀ f ∈ r.figures, f.path ∈ shown → f.lastPosition = f.position) (factor : α)
    (feature : Feature) (path : String) :
    ∀ f ∈ (showOne factor feature path r).2.figures, f.path ∈ path :: shown →
      f.lastPosition = f.position := by
  cases hfind : r.find? path with
  | none =>
    intro f hf hshown
    simp only [showOne, hfind] at hf
    rcases List.mem_cons.1 hshown with rfl | hshown
    · have hnobody := List.find?_eq_none.1 hfind f hf
      simp at hnobody
    · exact hrest f hf hshown
  | some g =>
    obtain ⟨hg, hname⟩ := Roster.mem_and_path_eq_of_find?_eq_some hfind
    cases hmoved : hasMoved g with
    | true =>
      intro f hf hshown
      simp only [showOne, hfind, hmoved, if_true] at hf
      obtain ⟨before, hbefore, rfl⟩ := List.mem_map.1 hf
      by_cases heq : (before.path == path) = true
      · rw [if_pos heq]
      · rw [if_neg heq] at hshown ⊢
        rcases List.mem_cons.1 hshown with hthis | hshown
        · exact absurd (beq_iff_eq.2 hthis) heq
        · exact hrest before hbefore hshown
    | false =>
      intro f hf hshown
      simp only [showOne, hfind, hmoved, Bool.false_eq_true, if_false] at hf
      rcases List.mem_cons.1 hshown with heq | hshown
      · obtain rfl : f = g := hwell.eq_of_path_eq hf hg (heq.trans hname.symm)
        obtain ⟨hposition, hlast⟩ := hlevel f hf
        rw [hasMoved, Bool.not_eq_false', Coordinate.Exact.same_iff] at hmoved
        show Point.mk _ _ = Point.mk _ _
        rw [hmoved, hlast, hposition]
      · exact hrest f hf hshown

theorem at_rest_showAll [Coordinate.Exact α] {r : Roster α} (hwell : r.WellFormed)
    (hlevel : r.Level) {shown : List String}
    (hrest : ∀ f ∈ r.figures, f.path ∈ shown → f.lastPosition = f.position) (factor : α)
    (cast : List (Feature × String)) :
    ∀ f ∈ (showAll factor cast r).2.figures, f.path ∈ shown ∨ f.path ∈ cast.map (·.2) →
      f.lastPosition = f.position := by
  induction cast generalizing r shown with
  | nil =>
    rintro f hf (hshown | hshown)
    · exact hrest f hf hshown
    · cases hshown
  | cons first rest ih =>
    obtain ⟨feature, path⟩ := first
    have hwell' : (showOne factor feature path r).2.WellFormed :=
      hwell.of_billing_eq (Roster.billing_eq_of_placings_eq (placings_showOne _ _ _ _))
    intro f hf hshown
    apply ih hwell' (level_showOne factor feature path hlevel)
      (at_rest_showOne hwell hlevel hrest factor feature path) f hf
    rcases hshown with hshown | hshown
    · exact .inl (List.mem_cons_of_mem path hshown)
    · rcases List.mem_cons.1 hshown with heq | hshown
      · exact .inl (List.mem_cons.2 (.inl heq))
      · exact .inr hshown

/-! ## Calls -/

/-- After a call that returns everyone is settled. -/
theorem settled_figures [Coordinate.Exact α] {features : List Feature} {paths : List String}
    (hfeatures : features ≠ []) (hpaths : paths ≠ []) (hlength : features.length = paths.length)
    {s s' : Stage α} (hwell : s.roster.WellFormed) (hlevel : s.roster.Level)
    {commands : List Command} (hcall : s.figures features paths = (.ok commands, s')) :
    s'.roster.Settled s'.rules.layout := by
  obtain ⟨hadmits, -, hroster⟩ := admits_of_figures_eq_ok hfeatures hpaths hcall
  have hrules : s.rules = s'.rules := by
    have hframe := (Act.keepsTo_figures features paths).frame s
    rw [hcall] at hframe
    exact hframe.rules
  obtain ⟨hthere, -⟩ := billing_figures hfeatures hpaths hcall
  constructor
  · rw [hroster, ← hrules]
    exact Roster.layOut_eq_self_of_placings_eq (placings_showAll _ _ _)
  · intro f hf
    -- All on the stage are asked for, and all who are asked for are shown.
    have hshown : f.path ∈ (features.zip paths).map (·.2) := by
      rw [List.map_snd_zip hlength.ge]
      exact (hthere f.path).1 (Roster.mem_paths.2 ⟨f, hf, rfl⟩)
    have hlevel' : ((s.admitted paths).layOut s.rules.layout).Level :=
      (hadmits.level (hlevel.removeAbsent paths)).layOut _
    have hnone : ∀ f ∈ ((s.admitted paths).layOut s.rules.layout).figures,
        f.path ∈ ([] : List String) → f.lastPosition = f.position :=
      fun _ _ hpath => absurd hpath List.not_mem_nil
    rw [hroster] at hf
    exact at_rest_showAll (wellFormed_layOut hwell hadmits) hlevel' hnone _ _ f hf (.inr hshown)

/-- Asking for the paths that are there shows them and changes nothing. -/
theorem figures_of_settled [Coordinate.Exact α] {s : Stage α}
    (h : s.roster.Settled s.rules.layout) {features : List Feature} {paths : List String}
    (hfeatures : features ≠ []) (hpaths : paths ≠ [])
    (hthere : ∀ path, path ∈ s.roster.paths ↔ path ∈ paths) :
    ∃ commands, s.figures features paths = (.ok commands, s) ∧
      Shows s.roster (features.zip paths) commands := by
  have hcast : ∀ wanted ∈ features.zip paths, wanted.2 ∈ s.roster.paths :=
    fun wanted hwanted => (hthere _).2 (List.of_mem_zip hwanted).2
  obtain ⟨commands, hcommands, hshows⟩ :=
    showAll_of_at_rest h.at_rest s.rules.layout.positionChangeFactor hcast
  refine ⟨commands, ?_, hshows⟩
  have hkept : ∀ path ∈ s.roster.paths, path ∈ paths := fun path => (hthere path).1
  have hnonempty : ¬ (features.isEmpty || paths.isEmpty) = true := by simp [hfeatures, hpaths]
  unfold figures
  rw [if_neg hnonempty, Roster.absentIds_eq_nil hkept, Roster.removeAbsent_eq_self hkept,
    Roster.addMissing_eq_self _ (fun path => (hthere path).2)]
  simp only [h.laid_out, hcommands, List.map_nil, List.nil_append]

end Stage

end Dramaturg
