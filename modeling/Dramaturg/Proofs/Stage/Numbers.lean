import Dramaturg.Proofs.Stage.Direction
import Mathlib.Data.List.Dedup

set_option autoImplicit false

/-! # Enough numbers for everyone

There are a thousand numbers. Whoever is not wanted leaves before anyone comes in, so that the
figures on the stage are always some of those who are wanted, and a call stops exactly if more than a
thousand different paths are wanted (`numbers_of_opening`). Among the numbers up to the count of the
figures one is always free. So no number is as large as the largest count of figures that there has
been, however the numbers were scattered by those who left. -/

namespace Dramaturg

namespace Roster

variable {α : Type}

/-! ## Counting -/

theorem length_ids (r : Roster α) : r.ids.length = r.size := by
  rw [ids, List.length_map, length_billing]

theorem length_paths (r : Roster α) : r.paths.length = r.size := by
  rw [paths, List.length_map, length_billing]

theorem mem_ids_insert {r : Roster α} {slot : Nat} (hslot : slot ≤ r.size) (f : Figure α)
    (id : Nat) : id ∈ (r.insert slot f).ids ↔ id ∈ r.ids ∨ id = f.id := by
  obtain ⟨left, right, hbefore, hafter⟩ := exists_billing_insert hslot f
  unfold ids
  rw [hbefore, hafter]
  simp only [List.map_append, List.map_cons, List.mem_append, List.mem_cons]
  tauto

theorem mem_ids_of_mem_removeAbsent {r : Roster α} {keep : List String} {id : Nat}
    (hid : id ∈ (r.removeAbsent keep).ids) : id ∈ r.ids := by
  rw [ids, billing_removeAbsent] at hid
  exact (List.filter_sublist.map _).subset hid

/-- There are no more figures than numbers. -/
theorem WellFormed.size_le {r : Roster α} (h : r.WellFormed) : r.size ≤ idLimit := by
  have hlow : r.ids ⊆ List.range idLimit := by
    intro id hid
    exact List.mem_range.2 (h.ids_lt id hid)
  have hlength := h.ids_nodup.length_le_of_subset hlow
  rwa [length_ids, List.length_range] at hlength

/-- No number is free only if there are as many figures as numbers. -/
theorem WellFormed.size_eq_of_nextFreeId?_eq_none {r : Roster α} (h : r.WellFormed)
    (hnone : r.nextFreeId? = none) : r.size = idLimit := by
  refine Nat.le_antisymm h.size_le ?_
  by_contra hfew
  obtain ⟨id, hid⟩ := exists_nextFreeId? (Nat.lt_of_not_le hfew)
  rw [hnone] at hid
  cases hid

/-- The smallest number that is free is not above the count of the figures, who cannot have all the
    numbers up to there. -/
theorem le_size_of_nextFreeId? {r : Roster α} {id : Nat} (hid : r.nextFreeId? = some id) :
    id ≤ r.size := by
  obtain ⟨-, -, hleast⟩ := (nextFreeId?_eq_some_iff r id).1 hid
  by_contra habove
  have hused : List.range (r.size + 1) ⊆ r.ids := by
    intro n hn
    by_contra hfree
    have hle : id ≤ n := hleast hfree
    rw [List.mem_range] at hn
    omega
  have hlength := List.nodup_range.length_le_of_subset hused
  rw [List.length_range, length_ids] at hlength
  omega

variable [Coordinate α]

namespace Admits

variable {paths : List String} {r r' : Roster α}

theorem size_le (h : Admits paths r r') : r.size ≤ r'.size := by
  induction h with
  | done r => exact Nat.le_refl _
  | present _ _ ih => exact ih
  | newcomer _ _ hslot _ ih =>
    rw [size_insert _ hslot] at ih
    omega

/-- Newcomers have numbers below the count of the figures that are there in the end. -/
theorem mem_ids_or_lt (h : Admits paths r r') {id : Nat} (hid : id ∈ r'.ids) :
    id ∈ r.ids ∨ id < r'.size := by
  induction h with
  | done r => exact .inl hid
  | present _ _ ih => exact ih hid
  | @newcomer path paths r r' number slot _ hnumber hslot rest ih =>
    have hcount : r.size + 1 ≤ r'.size := by
      rw [← size_insert r hslot]
      exact rest.size_le
    have hle : number ≤ r.size := le_size_of_nextFreeId? hnumber
    rcases ih hid with hid | hlow
    · rcases (mem_ids_insert hslot _ id).1 hid with hold | hnew
      · exact .inl hold
      · right
        change id = number at hnew
        omega
    · exact .inr hlow

end Admits

/-! ## When adding stops -/

section

variable {σ : Type} (slots : Slots σ)

/-- Adding that returns has added for the first paths and then for the others. -/
theorem exists_of_addMissing_append {earlier later : List String} {r r' : Roster α} {s s' : σ}
    {added : List Nat} (h : addMissing slots (earlier ++ later) r s = (.ok added, r', s')) :
    ∃ some between t more, addMissing slots earlier r s = (.ok some, between, t) ∧
      addMissing slots later between t = (.ok more, r', s') := by
  induction earlier generalizing r s added with
  | nil => exact ⟨[], r, s, added, rfl, h⟩
  | cons path earlier ih =>
    rw [List.cons_append] at h
    by_cases hpath : path ∈ r.paths
    · rw [addMissing_cons_of_mem slots r s hpath] at h ⊢
      exact ih h
    · cases hid : r.nextFreeId? with
      | none =>
        rw [addMissing_cons_of_none slots r s hpath hid] at h
        cases h
      | some id =>
        rw [addMissing_cons_of_some slots r s hpath hid] at h ⊢
        rcases hrest : addMissing slots (earlier ++ later)
          (r.insert (slots r.size s).1 ⟨id, path, Point.origin, Point.origin⟩) (slots r.size s).2
          with ⟨fault | rest, r'', s''⟩
        · simp only [hrest] at h
          cases h
        · simp only [hrest] at h
          cases h
          obtain ⟨some, between, t, more, hearlier, hlater⟩ := ih hrest
          exact ⟨id :: some, between, t, more, by simp only [hearlier]; rfl, hlater⟩

/-- Where only those are on the stage who are asked for, adding stops exactly if more paths are asked
    for than there are numbers, and then all numbers are in use. -/
theorem addMissing_cases {paths : List String} {r : Roster α} (s : σ) (hr : r.WellFormed)
    (hasked : ∀ path ∈ r.paths, path ∈ paths) :
    (idLimit < paths.dedup.length ∧
        (addMissing slots paths r s).1 = .error (.idsExhausted idLimit)) ∨
      (paths.dedup.length ≤ idLimit ∧ ∃ added, (addMissing slots paths r s).1 = .ok added) := by
  rcases hadded : addMissing slots paths r s with ⟨fault | added, r', s'⟩
  · obtain ⟨seen, path, rest, rfl, hadmits, hnew, hnone, rfl⟩ :=
      exists_of_addMissing_eq_error hadded
    have hr' : r'.WellFormed := hadmits.wellFormed hr
    have hsize : r'.size = idLimit := hr'.size_eq_of_nextFreeId?_eq_none hnone
    -- Those who are there now and the one for whom there is no number are all asked for.
    have hsome : path :: r'.paths ⊆ (seen ++ path :: rest).dedup := by
      intro other hother
      rw [List.mem_dedup]
      rcases List.mem_cons.1 hother with rfl | hother
      · exact List.mem_append_right _ List.mem_cons_self
      · rcases (hadmits.mem_paths other).1 hother with hthere | hseen
        · exact hasked other hthere
        · exact List.mem_append_left _ hseen
    have hnodup : (path :: r'.paths).Nodup := List.nodup_cons.2 ⟨hnew, hr'.paths_nodup⟩
    have hlength := hnodup.length_le_of_subset hsome
    rw [List.length_cons, length_paths, hsize] at hlength
    exact .inl ⟨hlength, by rw [hsize]⟩
  · have hadmits : Admits paths r r' := admits_of_addMissing_eq_ok hadded
    -- Everyone who is asked for is there.
    have hthere : paths.dedup ⊆ r'.paths := by
      intro path hpath
      exact (hadmits.mem_paths path).2 (.inr (List.mem_dedup.1 hpath))
    have hlength := (List.nodup_dedup paths).length_le_of_subset hthere
    rw [length_paths] at hlength
    exact .inr ⟨Nat.le_trans hlength (hadmits.wellFormed hr).size_le, added, rfl⟩

end

end Roster

namespace Stage

variable {α : Type} [Coordinate α]

/-! ## One call -/

/-- The roster of a call when of those who are wanted only the first have been asked in. -/
def askedIn (earlier paths : List String) (s : Stage α) : Roster α :=
  (Roster.addMissing Random.Source.index earlier (s.roster.removeAbsent paths) s.random).2.1

/-- A call stops exactly if more different paths are wanted than there are numbers, whoever was
    there before. -/
theorem figures_stop_or_return {features : List Feature} {paths : List String}
    (hfeatures : features ≠ []) (hpaths : paths ≠ []) {s : Stage α} (h : s.roster.WellFormed) :
    (Roster.idLimit < paths.dedup.length ∧
        (s.figures features paths).1 = .error (.idsExhausted Roster.idLimit)) ∨
      (paths.dedup.length ≤ Roster.idLimit ∧
        ∃ commands, (s.figures features paths).1 = .ok commands) := by
  have hcases := Roster.addMissing_cases Random.Source.index s.random (h.removeAbsent paths)
    fun path hpath => (Roster.mem_paths_removeAbsent.1 hpath).2
  obtain ⟨outcome, random, hadded, ⟨fault, rfl, hcall⟩ | ⟨added, rfl, hcall⟩⟩ :=
    figures_of_addMissing hfeatures hpaths s
  · rw [hadded] at hcases
    rcases hcases with ⟨hmany, hfault⟩ | ⟨-, added, hnone⟩
    · cases hfault
      exact .inl ⟨hmany, by rw [hcall]⟩
    · cases hnone
  · rw [hadded] at hcases
    rcases hcases with ⟨-, hfault⟩ | ⟨hfew, -⟩
    · cases hfault
    · exact .inr ⟨hfew, _, by rw [hcall]⟩

theorem exists_addMissing_of_figures_eq_ok {features : List Feature} {paths : List String}
    (hfeatures : features ≠ []) (hpaths : paths ≠ []) {s s' : Stage α} {commands : List Command}
    (hcall : s.figures features paths = (.ok commands, s')) :
    ∃ added random, Roster.addMissing Random.Source.index paths (s.roster.removeAbsent paths)
      s.random = (.ok added, s.admitted paths, random) := by
  obtain ⟨outcome, random, hadded, ⟨fault, -, hfault⟩ | ⟨added, rfl, -⟩⟩ :=
    figures_of_addMissing hfeatures hpaths s
  · rw [hfault] at hcall
    cases hcall
  · exact ⟨added, random, hadded⟩

/-- A newcomer's number is at most the count of the figures just before it came in. -/
theorem exists_newcomer_le {features : List Feature} {paths earlier later : List String}
    {path : String} (hfeatures : features ≠ []) {s s' : Stage α} {commands : List Command}
    (hcall : s.figures features paths = (.ok commands, s'))
    (hsplit : paths = earlier ++ path :: later) (hfirst : path ∉ earlier)
    (hnew : path ∉ s.roster.paths) :
    ∃ id, (id, path) ∈ s'.roster.billing ∧ id ≤ (s.askedIn earlier paths).size := by
  have hpaths : paths ≠ [] := by simp [hsplit]
  obtain ⟨-, -, hroster⟩ := admits_of_figures_eq_ok hfeatures hpaths hcall
  obtain ⟨added, random, hadded⟩ := exists_addMissing_of_figures_eq_ok hfeatures hpaths hcall
  have hadded' : Roster.addMissing Random.Source.index (earlier ++ path :: later)
      (s.roster.removeAbsent paths) s.random = (.ok added, s.admitted paths, random) := by
    rw [← hsplit]
    exact hadded
  obtain ⟨some, between, t, more, hearlier, hlater⟩ := Roster.exists_of_addMissing_append _ hadded'
  have hbetween : s.askedIn earlier paths = between := by
    unfold askedIn
    rw [hearlier]
  have hstill : path ∉ between.paths := by
    rw [(Roster.admits_of_addMissing_eq_ok hearlier).mem_paths, Roster.mem_paths_removeAbsent]
    rintro (⟨hthere, -⟩ | hasked)
    · exact hnew hthere
    · exact hfirst hasked
  have hlast := Roster.admits_of_addMissing_eq_ok hlater
  cases hlast with
  | present hthere _ => exact absurd hthere hstill
  | @newcomer _ _ _ _ id slot _ hid hslot rest =>
    refine ⟨id, ?_, hbetween ▸ Roster.le_size_of_nextFreeId? hid⟩
    -- What came in stays when others come in after it.
    obtain ⟨left, right, -, hafter⟩ :=
      Roster.exists_billing_insert hslot ⟨id, path, Point.origin, Point.origin⟩
    rw [hroster, billing_shown]
    apply List.mem_of_mem_filter
    rw [rest.filter_billing, hafter]
    exact List.mem_append_right _ List.mem_cons_self

/-! ## Whole runs -/

/-- After any direction the numbers are those of before and some below the count of the figures. -/
theorem mem_ids_act (d : Direction α) {s : Stage α} {id : Nat}
    (hid : id ∈ (d.act s).2.roster.ids) :
    id ∈ s.roster.ids ∨ id < (d.act s).2.roster.size := by
  by_cases hfigures : ∃ features paths, d = .figures features paths
  · obtain ⟨features, paths, rfl⟩ := hfigures
    change id ∈ (s.figures features paths).2.roster.ids at hid
    change _ ∨ id < (s.figures features paths).2.roster.size
    by_cases hempty : features = [] ∨ paths = []
    · rw [figures_of_empty hempty] at hid
      exact .inl hid
    · obtain ⟨hfeatures, hpaths⟩ := not_or.1 hempty
      obtain ⟨_, _, _, -, hadmits, -⟩ := figures_cases hfeatures hpaths s
      have hbilling := billing_of_figures hfeatures hpaths s
      rw [Roster.ids, hbilling] at hid
      rw [← Roster.length_billing, hbilling, Roster.length_billing]
      rcases hadmits.mem_ids_or_lt hid with hold | hlow
      · exact .inl (Roster.mem_ids_of_mem_removeAbsent hold)
      · exact .inr hlow
  · have hquiet := Direction.quiet_of_ne_figures
      fun features paths heq => hfigures ⟨features, paths, heq⟩
    rw [(hquiet s).1] at hid
    exact .inl hid

/-- After directions every number that was not in use before them is below the count of the figures
    after some of them. -/
theorem mem_ids_follow (directions : List (Direction α)) {s : Stage α} {id : Nat}
    (hid : id ∈ (s.follow directions).roster.ids) :
    id ∈ s.roster.ids ∨
      ∃ before, before <+: directions ∧ id < (s.follow before).roster.size := by
  induction directions generalizing s with
  | nil => exact .inl hid
  | cons d directions ih =>
    rcases ih hid with hid | ⟨before, hbefore, hlow⟩
    · rcases mem_ids_act d hid with hold | hlow
      · exact .inl hold
      · exact .inr ⟨[d], by simp, hlow⟩
    · exact .inr ⟨d :: before, (List.prefix_cons_inj d).2 hbefore, hlow⟩

/-- **Numbers run out exactly when more figures are wanted than there are numbers.** In every state a
    call with features and paths stops if and only if it asks for more than a thousand different
    paths, whoever is on the stage and whatever numbers those have who leave. In a call that returns
    the number of each newcomer is at most the count of the figures just before it came in. So every
    number on the stage is below the count of the figures at some time, and below the largest. -/
theorem numbers_of_opening (rules : StageRules α) (random : Random.Source) (ids : IdSupply)
    (directions : List (Direction α)) :
    let start := opening rules random ids
    let s := start.follow directions
    (∀ features paths, features ≠ [] → paths ≠ [] →
      ((s.figures features paths).1 = .error (.idsExhausted 1000) ↔ 1000 < paths.dedup.length) ∧
      ((∃ commands, (s.figures features paths).1 = .ok commands) ↔
        paths.dedup.length ≤ 1000)) ∧
    (∀ features paths commands s', features ≠ [] → s.figures features paths = (.ok commands, s') →
      ∀ earlier path later, paths = earlier ++ path :: later → path ∉ earlier →
        path ∉ s.roster.paths →
        ∃ id, (id, path) ∈ s'.roster.billing ∧ id ≤ (s.askedIn earlier paths).size) ∧
    ∀ id ∈ s.roster.ids,
      ∃ before, before <+: directions ∧ id < (start.follow before).roster.size := by
  intro start s
  have hwell : s.roster.WellFormed := wellFormed_follow directions Roster.wellFormed_empty
  refine ⟨?_, ?_, ?_⟩
  · intro features paths hfeatures hpaths
    rcases figures_stop_or_return hfeatures hpaths hwell with
      ⟨hmany, hfault⟩ | ⟨hfew, commands, hok⟩
    · change 1000 < paths.dedup.length at hmany
      refine ⟨iff_of_true hfault hmany, iff_of_false ?_ (by omega)⟩
      rintro ⟨commands, hok⟩
      rw [hfault] at hok
      cases hok
    · change paths.dedup.length ≤ 1000 at hfew
      refine ⟨iff_of_false ?_ (by omega), iff_of_true ⟨commands, hok⟩ hfew⟩
      intro hfault
      rw [hfault] at hok
      cases hok
  · intro features paths commands s' hfeatures hcall earlier path later hsplit hfirst hnew
    exact exists_newcomer_le hfeatures hcall hsplit hfirst hnew
  · intro id hid
    rcases mem_ids_follow directions hid with hold | hlow
    · exact absurd hold List.not_mem_nil
    · exact hlow

/-- As many paths as are asked for, told apart by their lengths. -/
def crowd (n : Nat) : List String := (List.range n).map fun k => String.ofList (List.replicate k 'x')

theorem length_dedup_crowd (n : Nat) : (crowd n).dedup.length = n := by
  have hnodup : (crowd n).Nodup := by
    refine List.nodup_range.map fun k m hkm => ?_
    have hlength := congrArg String.length hkm
    simpa using hlength
  rw [hnodup.dedup, crowd, List.length_map, List.length_range]

/-- A stage has numbers for a thousand figures and none for one more. The first newcomer has the
    number zero, and at some time there was a figure. -/
theorem figures_crowd :
    let s : Stage Float :=
      opening ⟨⟨0, 0, 0, 0⟩, false, false, false⟩ ⟨fun _ => 0, 0⟩ ⟨fun _ => "", 0⟩
    let call : Direction Float := .figures [{}] ["a", "b"]
    (crowd 1001 ≠ [] ∧ (s.figures [{}] (crowd 1001)).1 = .error (.idsExhausted 1000)) ∧
      (crowd 1000 ≠ [] ∧ ∃ commands, (s.figures [{}] (crowd 1000)).1 = .ok commands) ∧
      (∃ commands s', s.figures [{}] ["a", "b"] = (.ok commands, s') ∧
        (0, "a") ∈ s'.roster.billing) ∧
      0 ∈ (s.follow [call]).roster.ids ∧
      ∃ before, before <+: [call] ∧ 0 < (s.follow before).roster.size := by
  intro s call
  have hnonempty {n : Nat} : crowd (n + 1) ≠ [] := by simp [crowd]
  obtain ⟨hcalls, hnewcomers, -⟩ := numbers_of_opening s.rules s.random s.ids []
  obtain ⟨hstops, -⟩ := hcalls [{}] (crowd 1001) (by simp) hnonempty
  obtain ⟨-, hreturns⟩ := hcalls [{}] (crowd 1000) (by simp) hnonempty
  obtain ⟨commands, s', hcall⟩ :=
    exists_figures_eq_ok (s := s) [{}] ["a", "b"] (Nat.le_of_ble_eq_true rfl)
  obtain ⟨id, hid, hle⟩ := hnewcomers [{}] ["a", "b"] commands s' (by simp) hcall [] "a" ["b"] rfl
    (by simp) List.not_mem_nil
  have hnobody : (s.askedIn [] ["a", "b"]).size = 0 := rfl
  have hzero : id = 0 := Nat.le_zero.1 (hnobody ▸ hle)
  obtain ⟨-, -, hbelow⟩ := numbers_of_opening s.rules s.random s.ids [call]
  have hfollow : s.follow [call] = s' := congrArg Prod.snd hcall
  have hthere : 0 ∈ (s.follow [call]).roster.ids := by
    rw [hfollow]
    exact List.mem_map.2 ⟨_, hid, hzero⟩
  refine ⟨⟨hnonempty, ?_⟩, ⟨hnonempty, ?_⟩, ⟨commands, s', hcall, hzero ▸ hid⟩, hthere,
    hbelow 0 hthere⟩
  · exact hstops.2 (Nat.lt_of_lt_of_eq (by decide) (length_dedup_crowd 1001).symm)
  · exact hreturns.2 (Nat.le_of_eq (length_dedup_crowd 1000))

end Stage

end Dramaturg
