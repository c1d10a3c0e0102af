import Dramaturg.Stage.Roster
import Dramaturg.Proofs.Row
import Mathlib.Data.List.Nodup
import Mathlib.Order.Bounds.Defs
import Mathlib.Tactic.Tauto

set_option autoImplicit false

/-! # Who is on the stage

What matters to the renderer of a roster is its billing: the numbers and paths of the figures, from
left to right. A roster is well formed if the billing names no number and no path twice, and only
numbers below the limit. Laying out and settling leave the billing alone. Taking out leaves a part
of it, and adding is a sequence of insertions, each of a path that was not there under the smallest
number that was not in use. -/

namespace Dramaturg

namespace Roster

variable {α : Type}

/-- The numbers and paths of the figures, from left to right. -/
def billing (r : Roster α) : List (Nat × String) := r.figures.map fun f => (f.id, f.path)

/-- Who stands where, from left to right. -/
def placings (r : Roster α) : List (Nat × String × Point α) :=
  r.figures.map fun f => (f.id, f.path, f.position)

/-- The numbers in use, from left to right. -/
def ids (r : Roster α) : List Nat := r.billing.map (·.1)

/-- The paths on the stage, from left to right. -/
def paths (r : Roster α) : List String := r.billing.map (·.2)

/-- A roster that knows each figure by one number and by one path. -/
structure WellFormed (r : Roster α) : Prop where
  ids_nodup : r.ids.Nodup
  ids_lt : ∀ id ∈ r.ids, id < idLimit
  paths_nodup : r.paths.Nodup

theorem mem_ids {r : Roster α} {id : Nat} : id ∈ r.ids ↔ ∃ f ∈ r.figures, f.id = id := by
  simp [ids, billing]

theorem mem_paths {r : Roster α} {path : String} :
    path ∈ r.paths ↔ ∃ f ∈ r.figures, f.path = path := by
  simp [paths, billing]

theorem mem_placings {r : Roster α} {id : Nat} {path : String} {position : Point α} :
    (id, path, position) ∈ r.placings ↔
      ∃ f ∈ r.figures, f.id = id ∧ f.path = path ∧ f.position = position := by
  simp [placings]

theorem billing_eq_of_placings_eq {r r' : Roster α} (h : r'.placings = r.placings) :
    r'.billing = r.billing := by
  have hpart (r : Roster α) :
      r.billing = r.placings.map fun placing => (placing.1, placing.2.1) := by
    rw [placings, List.map_map]
    rfl
  rw [hpart, h, ← hpart]

theorem length_billing (r : Roster α) : r.billing.length = r.size := List.length_map _

theorem wellFormed_empty : (⟨[]⟩ : Roster α).WellFormed :=
  ⟨List.nodup_nil, fun _ hid => absurd hid List.not_mem_nil, List.nodup_nil⟩

/-- Well-formedness is a matter of the billing. -/
theorem WellFormed.of_billing_eq {r r' : Roster α} (h : r.WellFormed)
    (hbilling : r'.billing = r.billing) : r'.WellFormed := by
  obtain ⟨hids, hlt, hpaths⟩ := h
  unfold ids paths at *
  rw [← hbilling] at hids hlt hpaths
  exact ⟨hids, hlt, hpaths⟩

namespace WellFormed

variable {r : Roster α} (h : r.WellFormed)

include h in
theorem eq_of_id_eq {f g : Figure α} (hf : f ∈ r.figures) (hg : g ∈ r.figures)
    (heq : f.id = g.id) : f = g := by
  have hnodup := h.ids_nodup
  rw [ids, billing, List.map_map] at hnodup
  exact List.inj_on_of_nodup_map hnodup hf hg heq

include h in
theorem eq_of_path_eq {f g : Figure α} (hf : f ∈ r.figures) (hg : g ∈ r.figures)
    (heq : f.path = g.path) : f = g := by
  have hnodup := h.paths_nodup
  rw [paths, billing, List.map_map] at hnodup
  exact List.inj_on_of_nodup_map hnodup hf hg heq

end WellFormed

/-! ## Looking up -/

theorem has_iff (r : Roster α) (path : String) : r.has path = true ↔ path ∈ r.paths := by
  rw [has, find?, List.find?_isSome, mem_paths]
  simp only [beq_iff_eq]

theorem usesId_iff (r : Roster α) (id : Nat) : r.usesId id = true ↔ id ∈ r.ids := by
  rw [usesId, List.any_eq_true, mem_ids]
  simp only [beq_iff_eq]

/-- The number found for a new figure is the least of all that are not in use. -/
theorem nextFreeId?_eq_some_iff (r : Roster α) (id : Nat) :
    r.nextFreeId? = some id ↔ id < idLimit ∧ IsLeast {n | n ∉ r.ids} id := by
  rw [nextFreeId?, List.find?_range_eq_some]
  simp only [Bool.not_not, usesId_iff, Bool.not_eq_true', ← Bool.not_eq_true, List.mem_range]
  constructor
  · rintro ⟨hfree, hlt, hleast⟩
    refine ⟨hlt, hfree, ?_⟩
    intro n hn
    by_contra hlow
    exact hn (hleast n (Nat.lt_of_not_le hlow))
  · rintro ⟨hlt, hfree, hleast⟩
    refine ⟨hfree, hlt, ?_⟩
    intro n hn
    by_contra hunused
    exact absurd (hleast hunused) (Nat.not_le_of_lt hn)

/-- A number is free as long as there are fewer figures than numbers. -/
theorem exists_nextFreeId? {r : Roster α} (hfew : r.size < idLimit) :
    ∃ id, r.nextFreeId? = some id := by
  by_contra hnone
  -- If none is free, then all are in use, and there are at least as many figures as numbers.
  have hused : List.range idLimit ⊆ r.ids := by
    intro id hid
    have hnext : r.nextFreeId? = none := Option.eq_none_iff_forall_ne_some.2 (not_exists.1 hnone)
    have husing := List.find?_eq_none.1 hnext id hid
    rwa [Bool.not_eq_true', Bool.not_eq_false, usesId_iff] at husing
  have hlength := List.Nodup.length_le_of_subset List.nodup_range hused
  rw [List.length_range, ids, List.length_map, length_billing] at hlength
  exact absurd hlength (Nat.not_le_of_lt hfew)

theorem mem_and_path_eq_of_find?_eq_some {r : Roster α} {path : String} {f : Figure α}
    (hfind : r.find? path = some f) : f ∈ r.figures ∧ f.path = path := by
  rw [find?] at hfind
  exact ⟨List.mem_of_find?_eq_some hfind, by simpa using List.find?_some hfind⟩

/-! ## Laying out and settling -/

theorem placings_settle (r : Roster α) (path : String) :
    (r.settle path).placings = r.placings := by
  unfold settle placings
  rw [List.map_map]
  apply List.map_congr_left
  intro f _
  rw [Function.comp_apply]
  split <;> rfl

theorem mem_layOut [Coordinate α] {r : Roster α} {l : Layout α} {f : Figure α} :
    f ∈ (r.layOut l).figures ↔
      ∃ i, ∃ h : i < r.figures.length, { r.figures[i] with position := l.place r.size i } = f :=
  List.mem_mapIdx

theorem billing_layOut [Coordinate α] (r : Roster α) (l : Layout α) :
    (r.layOut l).billing = r.billing := by
  unfold layOut billing
  apply List.ext_getElem
  · simp
  · intro i _ _
    simp

/-! ## Taking out -/

theorem figures_removeAbsent (r : Roster α) (keep : List String) :
    (r.removeAbsent keep).figures = r.figures.filter fun f => keep.contains f.path :=
  Row.foldr_eraseIdx_zipIdx (fun f : Figure α => keep.contains f.path) r.figures

theorem billing_removeAbsent (r : Roster α) (keep : List String) :
    (r.removeAbsent keep).billing = r.billing.filter fun entry => keep.contains entry.2 := by
  unfold billing
  rw [figures_removeAbsent, List.filter_map]
  rfl

/-- The numbers of those who leave, in the order in which they stood. -/
theorem absentIds_eq (r : Roster α) (keep : List String) :
    r.absentIds keep = (r.billing.filter fun entry => !keep.contains entry.2).map (·.1) := by
  have hfirst : (r.absent keep).map (·.1) = r.figures.filter fun f => !keep.contains f.path := by
    unfold absent
    conv_rhs => rw [← List.zipIdx_map_fst 0 r.figures, List.filter_map]
    rfl
  have hids : r.absentIds keep = ((r.absent keep).map (·.1)).map (·.id) := by
    rw [List.map_map]
    rfl
  rw [hids, hfirst, billing, List.filter_map, List.map_map]
  rfl

theorem sublist_absentIds (r : Roster α) (keep : List String) :
    (r.absentIds keep).Sublist r.ids := by
  rw [absentIds_eq]
  exact List.filter_sublist.map _

theorem mem_paths_removeAbsent {r : Roster α} {keep : List String} {path : String} :
    path ∈ (r.removeAbsent keep).paths ↔ path ∈ r.paths ∧ path ∈ keep := by
  rw [paths, billing_removeAbsent, paths]
  simp

theorem WellFormed.removeAbsent {r : Roster α} (h : r.WellFormed) (keep : List String) :
    (r.removeAbsent keep).WellFormed := by
  obtain ⟨hids, hlt, hpaths⟩ := h
  have hpart : (r.removeAbsent keep).billing.Sublist r.billing := by
    rw [billing_removeAbsent]
    exact List.filter_sublist
  exact ⟨(hpart.map _).nodup hids, fun id hid => hlt id ((hpart.map _).subset hid),
    (hpart.map _).nodup hpaths⟩

/-! ## Coming in -/

theorem billing_insert (r : Roster α) (slot : Nat) (f : Figure α) :
    (r.insert slot f).billing = r.billing.insertIdx slot (f.id, f.path) :=
  List.map_insertIdx (fun g : Figure α => (g.id, g.path)) r.figures slot f

theorem size_insert (r : Roster α) {slot : Nat} (hslot : slot ≤ r.size) (f : Figure α) :
    (r.insert slot f).size = r.size + 1 :=
  List.length_insertIdx_of_le_length hslot f

/-- A figure that comes in at any slot has the others to its left and right, as they stood. -/
theorem exists_billing_insert {r : Roster α} {slot : Nat} (hslot : slot ≤ r.size) (f : Figure α) :
    ∃ left right, r.billing = left ++ right ∧
      (r.insert slot f).billing = left ++ (f.id, f.path) :: right := by
  refine ⟨r.billing.take slot, r.billing.drop slot, (List.take_append_drop _ _).symm, ?_⟩
  rw [← length_billing] at hslot
  rw [billing_insert, Row.insertIdx_eq_take_append_drop _ _ hslot]

theorem mem_paths_insert {r : Roster α} {slot : Nat} (hslot : slot ≤ r.size) (f : Figure α)
    (path : String) : path ∈ (r.insert slot f).paths ↔ path ∈ r.paths ∨ path = f.path := by
  obtain ⟨left, right, hbefore, hafter⟩ := exists_billing_insert hslot f
  unfold paths
  rw [hbefore, hafter]
  simp only [List.map_append, List.map_cons, List.mem_append, List.mem_cons]
  tauto

theorem WellFormed.insert {r : Roster α} (h : r.WellFormed) {slot : Nat} (hslot : slot ≤ r.size)
    {f : Figure α} (hid : f.id ∉ r.ids) (hlt : f.id < idLimit) (hpath : f.path ∉ r.paths) :
    (r.insert slot f).WellFormed := by
  obtain ⟨left, right, hbefore, hafter⟩ := exists_billing_insert hslot f
  -- For what must not occur twice, it does not matter at which slot the figure comes in.
  have hperm : (r.insert slot f).billing.Perm ((f.id, f.path) :: r.billing) := by
    rw [hbefore, hafter]
    exact List.perm_middle
  constructor
  · rw [ids, (hperm.map _).nodup_iff]
    exact List.nodup_cons.2 ⟨hid, h.ids_nodup⟩
  · intro id hmem
    rcases List.mem_cons.1 ((hperm.map _).subset hmem) with rfl | hmem
    · exact hlt
    · exact h.ids_lt id hmem
  · rw [paths, (hperm.map _).nodup_iff]
    exact List.nodup_cons.2 ⟨hpath, h.paths_nodup⟩

variable [Coordinate α]

/-- How adding figures for paths, one after the other, turns one roster into another: a path that is
    there changes nothing, and for any other one a figure comes in at some slot under the smallest
    number that is not in use. -/
inductive Admits : List String → Roster α → Roster α → Prop where
  | done (r : Roster α) : Admits [] r r
  | present {path : String} {paths : List String} {r r' : Roster α} (hpath : path ∈ r.paths)
      (rest : Admits paths r r') : Admits (path :: paths) r r'
  | newcomer {path : String} {paths : List String} {r r' : Roster α} {id slot : Nat}
      (hpath : path ∉ r.paths) (hid : r.nextFreeId? = some id) (hslot : slot ≤ r.size)
      (rest : Admits paths (r.insert slot ⟨id, path, Point.origin, Point.origin⟩) r') :
      Admits (path :: paths) r r'

section

variable {σ : Type} (slots : Slots σ) (r : Roster α) (s : σ)

-- The check unfolds the search among a thousand numbers.
set_option maxRecDepth 1024 in
theorem addMissing_cons (path : String) (paths : List String) :
    addMissing slots (path :: paths) r s =
      if r.has path then addMissing slots paths r s
      else
        match r.nextFreeId? with
        | none => (.error (.idsExhausted r.size), r, s)
        | some id =>
          let (slot, s) := slots r.size s
          let (added, r, s) :=
            addMissing slots paths (r.insert slot ⟨id, path, Point.origin, Point.origin⟩) s
          (added.map (id :: ·), r, s) := rfl

theorem addMissing_cons_of_mem {path : String} (hpath : path ∈ r.paths) (paths : List String) :
    addMissing slots (path :: paths) r s = addMissing slots paths r s := by
  rw [addMissing_cons, if_pos ((r.has_iff path).2 hpath)]

theorem addMissing_cons_of_none {path : String} (hpath : path ∉ r.paths)
    (hid : r.nextFreeId? = none) (paths : List String) :
    addMissing slots (path :: paths) r s = (.error (.idsExhausted r.size), r, s) := by
  rw [addMissing_cons, if_neg (mt (r.has_iff path).1 hpath), hid]

theorem addMissing_cons_of_some {path : String} {id : Nat} (hpath : path ∉ r.paths)
    (hid : r.nextFreeId? = some id) (paths : List String) :
    addMissing slots (path :: paths) r s =
      let newcomer : Figure α := ⟨id, path, Point.origin, Point.origin⟩
      let rest := addMissing slots paths (r.insert (slots r.size s).1 newcomer) (slots r.size s).2
      (rest.1.map (id :: ·), rest.2) := by
  rw [addMissing_cons, if_neg (mt (r.has_iff path).1 hpath), hid]

/-- Adding returns if there are numbers for all who may come in. -/
theorem exists_addMissing_eq_ok (paths : List String)
    (hfew : r.size + paths.length ≤ idLimit) :
    ∃ added, (addMissing slots paths r s).1 = .ok added := by
  induction paths generalizing r s with
  | nil => exact ⟨[], rfl⟩
  | cons path paths ih =>
    rw [List.length_cons] at hfew
    by_cases hpath : path ∈ r.paths
    · rw [addMissing_cons_of_mem slots r s hpath]
      exact ih r s (by omega)
    · obtain ⟨id, hid⟩ := exists_nextFreeId? (r := r) (by omega)
      rw [addMissing_cons_of_some slots r s hpath hid]
      -- A newcomer takes one more number, and one path fewer is left.
      obtain ⟨slot, t⟩ := slots r.size s
      have hsize : (r.insert slot ⟨id, path, Point.origin, Point.origin⟩).size = r.size + 1 :=
        size_insert r (Nat.le_of_lt_succ slot.isLt) _
      obtain ⟨added, hadded⟩ :=
        ih (r.insert slot ⟨id, path, Point.origin, Point.origin⟩) t (by omega)
      exact ⟨id :: added, by simp only [hadded]; rfl⟩

end

section

variable {σ : Type} {slots : Slots σ} {paths : List String} {r r' : Roster α} {s s' : σ}

/-- Adding that returns has gone through all paths. -/
theorem admits_of_addMissing_eq_ok {added : List Nat}
    (h : addMissing slots paths r s = (.ok added, r', s')) : Admits paths r r' := by
  induction paths generalizing r s added with
  | nil =>
    cases h
    exact .done _
  | cons path paths ih =>
    by_cases hpath : path ∈ r.paths
    · rw [addMissing_cons_of_mem slots r s hpath] at h
      exact .present hpath (ih h)
    · cases hid : r.nextFreeId? with
      | none =>
        rw [addMissing_cons_of_none slots r s hpath hid] at h
        cases h
      | some id =>
        rw [addMissing_cons_of_some slots r s hpath hid] at h
        rcases hrest : addMissing slots paths
          (r.insert (slots r.size s).1 ⟨id, path, Point.origin, Point.origin⟩) (slots r.size s).2
          with ⟨fault | more, r'', s''⟩
        · simp only [hrest] at h
          cases h
        · simp only [hrest] at h
          cases h
          exact .newcomer hpath hid (Nat.le_of_lt_succ (slots r.size s).1.isLt) (ih hrest)

/-- Adding stops before a path that is not there, and only when no number is free. -/
theorem exists_of_addMissing_eq_error {fault : Fault}
    (h : addMissing slots paths r s = (.error fault, r', s')) :
    ∃ seen path rest, paths = seen ++ path :: rest ∧ Admits seen r r' ∧ path ∉ r'.paths ∧
      r'.nextFreeId? = none ∧ fault = .idsExhausted r'.size := by
  induction paths generalizing r s with
  | nil => cases h
  | cons path paths ih =>
    by_cases hpath : path ∈ r.paths
    · rw [addMissing_cons_of_mem slots r s hpath] at h
      obtain ⟨seen, last, rest, rfl, hadmits, hstops⟩ := ih h
      exact ⟨path :: seen, last, rest, rfl, .present hpath hadmits, hstops⟩
    · cases hid : r.nextFreeId? with
      | none =>
        rw [addMissing_cons_of_none slots r s hpath hid] at h
        cases h
        exact ⟨[], path, paths, rfl, .done _, hpath, hid, rfl⟩
      | some id =>
        rw [addMissing_cons_of_some slots r s hpath hid] at h
        rcases hrest : addMissing slots paths
          (r.insert (slots r.size s).1 ⟨id, path, Point.origin, Point.origin⟩) (slots r.size s).2
          with ⟨reason | more, r'', s''⟩
        · simp only [hrest] at h
          cases h
          obtain ⟨seen, last, rest, rfl, hadmits, hstops⟩ := ih hrest
          exact ⟨path :: seen, last, rest, rfl,
            .newcomer hpath hid (Nat.le_of_lt_succ (slots r.size s).1.isLt) hadmits, hstops⟩
        · simp only [hrest] at h
          cases h

end

/-- Adding goes through the paths from the first on, and stops only when no number is free. -/
theorem exists_admits_addMissing {σ : Type} (slots : Slots σ) (paths : List String) (r : Roster α)
    (s : σ) :
    ∃ seen rest, paths = seen ++ rest ∧ Admits seen r (addMissing slots paths r s).2.1 ∧
      (∀ added, (addMissing slots paths r s).1 = .ok added → rest = []) := by
  rcases hadded : addMissing slots paths r s with ⟨fault | added, r', s'⟩
  · obtain ⟨seen, path, rest, hsplit, hadmits, -⟩ := exists_of_addMissing_eq_error hadded
    exact ⟨seen, path :: rest, hsplit, hadmits, fun added hok => nomatch hok⟩
  · exact ⟨paths, [], (List.append_nil paths).symm, admits_of_addMissing_eq_ok hadded,
      fun _ _ => rfl⟩

namespace Admits

variable {paths : List String} {r r' : Roster α}

/-- No other paths are on the stage than before and those asked for. -/
theorem mem_paths (h : Admits paths r r') (path : String) :
    path ∈ r'.paths ↔ path ∈ r.paths ∨ path ∈ paths := by
  induction h with
  | done r => simp
  | present hpath _ ih =>
    rw [ih, List.mem_cons]
    constructor
    · rintro (hthere | hasked)
      · exact .inl hthere
      · exact .inr (.inr hasked)
    · rintro (hthere | rfl | hasked)
      · exact .inl hthere
      · exact .inl hpath
      · exact .inr hasked
  | newcomer _ _ hslot _ ih => rw [ih, mem_paths_insert hslot, List.mem_cons, or_assoc]

theorem wellFormed (h : Admits paths r r') (hr : r.WellFormed) : r'.WellFormed := by
  induction h with
  | done r => exact hr
  | present _ _ ih => exact ih hr
  | newcomer hpath hid hslot _ ih =>
    obtain ⟨hlt, hleast⟩ := (nextFreeId?_eq_some_iff _ _).1 hid
    exact ih (hr.insert hslot hleast.1 hlt hpath)

/-- Those who were there keep their numbers and their order. -/
theorem filter_billing (h : Admits paths r r') :
    r'.billing.filter (fun entry => decide (entry.2 ∈ r.paths)) = r.billing := by
  induction h with
  | done r =>
    rw [List.filter_eq_self]
    intro entry hentry
    exact decide_eq_true (List.mem_map_of_mem hentry)
  | present _ _ ih => exact ih
  | @newcomer path paths r r' id slot hpath hid hslot rest ih =>
    let f : Figure α := ⟨id, path, Point.origin, Point.origin⟩
    obtain ⟨left, right, hbefore, hafter⟩ := exists_billing_insert hslot f
    have hthere : ∀ entry ∈ r.billing, decide (entry.2 ∈ r.paths) = true := by
      intro entry hentry
      exact decide_eq_true (List.mem_map_of_mem hentry)
    -- By induction the roster with the newcomer is kept. What was there before is a part of it.
    have hnarrow : r'.billing.filter (fun entry => decide (entry.2 ∈ r.paths))
        = (r.insert slot f).billing.filter fun entry => decide (entry.2 ∈ r.paths) := by
      rw [← ih, List.filter_filter]
      apply List.filter_congr
      intro entry _
      have hstill : entry.2 ∈ r.paths → entry.2 ∈ (r.insert slot f).paths :=
        fun hentry => (mem_paths_insert hslot f entry.2).2 (.inl hentry)
      by_cases hentry : entry.2 ∈ r.paths
      · rw [decide_eq_true hentry, decide_eq_true (hstill hentry), Bool.and_self]
      · rw [decide_eq_false hentry, Bool.false_and]
    rw [hnarrow, hafter, List.filter_append, List.filter_cons_of_neg (by simpa [f] using hpath),
      ← List.filter_append, ← hbefore, List.filter_eq_self]
    exact hthere

/-- Adding for some paths and then for others goes through the roster in between. -/
theorem exists_append {earlier later : List String} (h : Admits (earlier ++ later) r r') :
    ∃ between, Admits earlier r between ∧ Admits later between r' := by
  induction earlier generalizing r with
  | nil => exact ⟨r, .done r, h⟩
  | cons path earlier ih =>
    cases h with
    | present hpath rest =>
      obtain ⟨between, hearlier, hlater⟩ := ih rest
      exact ⟨between, .present hpath hearlier, hlater⟩
    | newcomer hpath hid hslot rest =>
      obtain ⟨between, hearlier, hlater⟩ := ih rest
      exact ⟨between, .newcomer hpath hid hslot hearlier, hlater⟩

/-- A newcomer takes the smallest number that neither those who were there have, nor the newcomers
    before it. -/
theorem exists_newcomer {earlier later : List String} {path : String}
    (h : Admits (earlier ++ path :: later) r r') (hnew : path ∉ r.paths)
    (hfirst : path ∉ earlier) :
    ∃ id, (id, path) ∈ r'.billing ∧
      IsLeast {n | ∀ entry ∈ r'.billing, entry.2 ∈ r.paths ∨ entry.2 ∈ earlier → entry.1 ≠ n}
        id := by
  obtain ⟨between, hearlier, hlater⟩ := h.exists_append
  have hbetween := hearlier.mem_paths
  cases hlater with
  | present hpath _ =>
    rcases (hbetween path).1 hpath with hthere | hasked
    · exact absurd hthere hnew
    · exact absurd hasked hfirst
  | @newcomer _ _ _ _ id slot hpath hid hslot rest =>
    let f : Figure α := ⟨id, path, Point.origin, Point.origin⟩
    obtain ⟨-, hleast⟩ := (nextFreeId?_eq_some_iff between id).1 hid
    obtain ⟨left, right, hbefore, hafter⟩ := exists_billing_insert hslot f
    -- The numbers in use when the path came in are those of the entries of known paths.
    have hknown : r'.billing.filter (fun entry => decide (entry.2 ∈ between.paths))
        = between.billing := (Admits.newcomer hpath hid hslot rest).filter_billing
    have hused : {n | n ∉ between.ids}
        = {n | ∀ entry ∈ r'.billing, entry.2 ∈ r.paths ∨ entry.2 ∈ earlier → entry.1 ≠ n} := by
      ext n
      change n ∉ between.ids ↔ ∀ entry ∈ r'.billing, _
      rw [ids, ← hknown]
      simp only [List.mem_map, List.mem_filter, decide_eq_true_eq, hbetween]
      constructor
      · intro hfree entry hentry hpath heq
        exact hfree ⟨entry, ⟨hentry, hpath⟩, heq⟩
      · rintro hfree ⟨entry, ⟨hentry, hpath⟩, heq⟩
        exact hfree entry hentry hpath heq
    refine ⟨id, ?_, hused ▸ hleast⟩
    apply List.mem_of_mem_filter
    rw [rest.filter_billing, hafter]
    exact List.mem_append_right _ List.mem_cons_self

end Admits

end Roster

end Dramaturg
