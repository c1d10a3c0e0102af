import Dramaturg.Proofs.Lore.Trigger
import Mathlib.Order.Bounds.Defs

set_option autoImplicit false

/-! # The active entries as a closure

The entries that contents activate are the least set that is closed under what its members trigger
(`isLeast_reached`). Activation finds it with a stack. Nothing hangs on the stack: `Works` takes the
pending entries in any order, what it keeps true (`Underway`) says nothing of their order, and all
its runs end with the same entries, which the runs of the stack are among (`works_spread`). -/

namespace Dramaturg

namespace Activation

section

variable (lore : List Lore) (window : List Message)

/-- The entries that contents activate: what an entry of the window triggers, unless that entry
    prevents recursion, and what they trigger themselves. -/
inductive Reached : Nat → Prop
  | ofDirect {i j : Nat} (hi : Direct lore window i) (hfree : ¬ PreventsRecursion lore i)
      (htriggers : Triggers lore i j) (hj : ¬ Direct lore window j) : Reached j
  | ofReached {i j : Nat} (hi : Reached i) (htriggers : Triggers lore i j)
      (hj : ¬ Direct lore window j) : Reached j

/-- The content of the entry at a place is searched for keys. -/
def Spreads (i : Nat) : Prop :=
  Direct lore window i ∧ ¬ PreventsRecursion lore i ∨ Reached lore window i

/-- A set holds whatever the window's own entries and its members trigger. -/
def Closed (s : Set Nat) : Prop :=
  ∀ i j, (Direct lore window i ∧ ¬ PreventsRecursion lore i ∨ i ∈ s) → Triggers lore i j →
    ¬ Direct lore window j → j ∈ s

/-- Works through the pending entries, one at a time and in any order, until there are none. -/
inductive Works : List Nat → List Nat → List Nat → Prop
  | done (active : List Nat) : Works active [] active
  | take {active pending rest final : List Nat} {i : Nat} {e : Lore} (he : lore[i]? = some e)
      (hpending : pending.Perm (i :: rest))
      (hrest : Works (extend lore (isHitByContent e.content) active)
        (newly lore (isHitByContent e.content) active ++ rest) final) :
      Works active pending final

end

variable {lore : List Lore} {window : List Message}

/-! ## The least closed set -/

theorem Spreads.reached {i j : Nat} (hi : Spreads lore window i) (htriggers : Triggers lore i j)
    (hj : ¬ Direct lore window j) : Reached lore window j := by
  rcases hi with ⟨hi, hfree⟩ | hi
  · exact .ofDirect hi hfree htriggers hj
  · exact .ofReached hi htriggers hj

theorem Reached.not_direct {i : Nat} (hi : Reached lore window i) : ¬ Direct lore window i := by
  cases hi with
  | ofDirect _ _ _ hi => exact hi
  | ofReached _ _ hi => exact hi

theorem Reached.exists_enabled {i : Nat} (hi : Reached lore window i) :
    ∃ e, lore[i]? = some e ∧ e.enabled = true := by
  cases hi with
  | ofDirect _ _ htriggers _ | ofReached _ htriggers _ =>
    obtain ⟨-, e, -, he, henabled, -⟩ := htriggers
    exact ⟨e, he, henabled⟩

theorem Direct.exists_enabled {i : Nat} (hi : Direct lore window i) :
    ∃ e, lore[i]? = some e ∧ e.enabled = true := by
  rcases hi with ⟨e, he, henabled, -⟩ | ⟨e, he, henabled, -⟩ <;> exact ⟨e, he, henabled⟩

theorem isLeast_reached (lore : List Lore) (window : List Message) :
    IsLeast {s | Closed lore window s} {i | Reached lore window i} := by
  constructor
  · intro i j hi htriggers hj
    exact Spreads.reached hi htriggers hj
  · intro s hs i hi
    induction hi with
    | ofDirect hi hfree htriggers hj => exact hs _ _ (.inl ⟨hi, hfree⟩) htriggers hj
    | ofReached _ htriggers hj ih => exact hs _ _ (.inr ih) htriggers hj

/-! ## Working through pending entries -/

theorem Works.of_perm {active pending pending' final : List Nat}
    (hworks : Works lore active pending final) (hperm : pending.Perm pending') :
    Works lore active pending' final := by
  cases hworks with
  | done => exact List.nil_perm.1 hperm ▸ .done active
  | take he hpending hrest => exact .take he (hperm.symm.trans hpending) hrest

theorem Works.exists_eq_append {active pending final : List Nat}
    (hworks : Works lore active pending final) : ∃ added, final = active ++ added := by
  induction hworks with
  | done active => exact ⟨[], (List.append_nil active).symm⟩
  | take _ _ _ ih =>
    obtain ⟨added, hadded⟩ := ih
    rw [extend, List.append_assoc] at hadded
    exact ⟨_, hadded⟩

/-- The stack is one way to work through what is pending. -/
theorem works_spread {active stack : List Nat} (hstack : ∀ i ∈ stack, ∃ e, lore[i]? = some e) :
    Works lore active stack (spread lore active stack) := by
  induction active, stack using spread.induct lore with
  | case1 active =>
    rw [spread]
    exact .done active
  | case2 active top rest p ih =>
    obtain ⟨e, he⟩ := hstack top List.mem_cons_self
    have hp : p = isHitByContent e.content := by simp [p, he]
    have hstep : spread lore active (top :: rest)
        = spread lore (extend lore p active) ((newly lore p active).reverse ++ rest) := by
      rw [spread]
    rw [hstep]
    rw [hp] at ih ⊢
    refine .take he (List.Perm.refl _) (Works.of_perm (ih ?_) ?_)
    · intro i hi
      rcases List.mem_append.1 hi with hi | hi
      · obtain ⟨-, e', he', -⟩ := mem_newly_iff.1 (List.mem_reverse.1 hi)
        exact ⟨e', he'⟩
      · exact hstack i (List.mem_cons_of_mem top hi)
    · exact (List.reverse_perm _).append_right rest

/-! ## What work keeps true -/

/-- The state of the work: only entries are active that ought to be, and each active entry whose
    content is to be searched is pending or has had all that it triggers activated. -/
structure Underway (lore : List Lore) (window : List Message) (active pending : List Nat) :
    Prop where
  nodup : active.Nodup
  sound : ∀ i ∈ active, Direct lore window i ∨ Reached lore window i
  complete : ∀ i, Direct lore window i → i ∈ active
  spreads : ∀ i ∈ pending, Spreads lore window i
  searched : ∀ i ∈ active, Spreads lore window i →
    i ∈ pending ∨ ∀ j, Triggers lore i j → j ∈ active

theorem Underway.take {active pending rest : List Nat} {i : Nat} {e : Lore}
    (h : Underway lore window active pending) (he : lore[i]? = some e)
    (hpending : pending.Perm (i :: rest)) :
    Underway lore window (extend lore (isHitByContent e.content) active)
      (newly lore (isHitByContent e.content) active ++ rest) := by
  have hi : Spreads lore window i := h.spreads i (hpending.mem_iff.2 List.mem_cons_self)
  have hnew : ∀ j ∈ newly lore (isHitByContent e.content) active,
      j ∉ active ∧ Reached lore window j := by
    intro j hj
    obtain ⟨hactive, htriggers⟩ := (mem_newly_isHitByContent_iff he).1 hj
    exact ⟨hactive, hi.reached htriggers fun hdirect => hactive (h.complete j hdirect)⟩
  constructor
  case nodup =>
    refine List.pairwise_append.2 ⟨h.nodup, (newly_pairwise _ _).imp Nat.ne_of_lt, ?_⟩
    rintro j hj _ hj' rfl
    exact (hnew j hj').1 hj
  case sound =>
    intro j hj
    rcases List.mem_append.1 hj with hj | hj
    · exact h.sound j hj
    · exact .inr (hnew j hj).2
  case complete =>
    intro j hj
    exact List.mem_append_left _ (h.complete j hj)
  case spreads =>
    intro j hj
    rcases List.mem_append.1 hj with hj | hj
    · exact .inr (hnew j hj).2
    · exact h.spreads j (hpending.mem_iff.2 (List.mem_cons_of_mem i hj))
  case searched =>
    intro k hk hspreads
    rcases List.mem_append.1 hk with hk | hk
    · rcases h.searched k hk hspreads with hk' | hall
      · rcases List.mem_cons.1 (hpending.mem_iff.1 hk') with rfl | hk'
        · -- the entry just taken: what it triggers was active or is so now
          refine .inr fun j htriggers => ?_
          by_cases hj : j ∈ active
          · exact List.mem_append_left _ hj
          · exact List.mem_append_right _ ((mem_newly_isHitByContent_iff he).2 ⟨hj, htriggers⟩)
        · exact .inl (List.mem_append_right _ hk')
      · exact .inr fun j htriggers => List.mem_append_left _ (hall j htriggers)
    · exact .inl (List.mem_append_left _ hk)

/-- Work ends with nothing pending. -/
theorem Underway.works {active pending final : List Nat} (h : Underway lore window active pending)
    (hworks : Works lore active pending final) : Underway lore window final [] := by
  induction hworks with
  | done => exact h
  | take he hpending _ ih => exact ih (h.take he hpending)

/-- When nothing is pending, exactly those are active that ought to be. -/
theorem Underway.mem_iff {active : List Nat} (h : Underway lore window active []) {i : Nat} :
    i ∈ active ↔ Direct lore window i ∨ Reached lore window i := by
  have hall : ∀ i j, i ∈ active → Spreads lore window i → Triggers lore i j → j ∈ active := by
    intro i j hi hspreads htriggers
    rcases h.searched i hi hspreads with hnone | hall
    · exact absurd hnone List.not_mem_nil
    · exact hall j htriggers
  constructor
  · exact h.sound i
  · rintro (hi | hi)
    · exact h.complete i hi
    · induction hi with
      | ofDirect hi hfree htriggers _ =>
        exact hall _ _ (h.complete _ hi) (.inl ⟨hi, hfree⟩) htriggers
      | ofReached hi htriggers _ ih => exact hall _ _ ih (.inr hi) htriggers

/-! ## Activation -/

/-- The entries of the window whose contents are searched, in their order. -/
def seeds (lore : List Lore) (window : List Message) : List Nat :=
  (direct lore window).filter (holdsAt lore fun e => !e.preventRecursion)

theorem mem_seeds_iff {i : Nat} :
    i ∈ seeds lore window ↔ Direct lore window i ∧ ¬ PreventsRecursion lore i := by
  rw [seeds, List.mem_filter, mem_direct_iff, holdsAt_iff]
  refine and_congr_right fun hdirect => ?_
  obtain ⟨e, he, -⟩ := hdirect.exists_enabled
  simp [PreventsRecursion, he]

theorem underway_direct (lore : List Lore) (window : List Message) :
    Underway lore window (direct lore window) (seeds lore window) where
  nodup := nodup_direct lore window
  sound i hi := .inl (mem_direct_iff.1 hi)
  complete i hi := mem_direct_iff.2 hi
  spreads i hi := .inl (mem_seeds_iff.1 hi)
  searched := by
    intro i hi hspreads
    rcases hspreads with hseed | hreached
    · exact .inl (mem_seeds_iff.2 hseed)
    · exact absurd (mem_direct_iff.1 hi) hreached.not_direct

theorem works_activate (lore : List Lore) (window : List Message) :
    Works lore (direct lore window) (seeds lore window) (activate lore window) := by
  have hstack : ∀ i ∈ (seeds lore window).reverse, ∃ e, lore[i]? = some e := by
    intro i hi
    obtain ⟨e, he, -⟩ := (mem_seeds_iff.1 (List.mem_reverse.1 hi)).1.exists_enabled
    exact ⟨e, he⟩
  exact (works_spread hstack).of_perm (List.reverse_perm _)

theorem underway_activate (lore : List Lore) (window : List Message) :
    Underway lore window (activate lore window) [] :=
  (underway_direct lore window).works (works_activate lore window)

theorem mem_activate_iff {i : Nat} :
    i ∈ activate lore window ↔ Direct lore window i ∨ Reached lore window i :=
  (underway_activate lore window).mem_iff

/-- What is active after the entries of the window is what contents activate. -/
theorem exists_activate_eq_append (lore : List Lore) (window : List Message) :
    ∃ reached, activate lore window = direct lore window ++ reached ∧
      ∀ i, i ∈ reached ↔ Reached lore window i := by
  obtain ⟨reached, hreached⟩ := (works_activate lore window).exists_eq_append
  have hnodup := (underway_activate lore window).nodup
  rw [hreached] at hnodup
  refine ⟨reached, hreached, fun i => ?_⟩
  have hmem : i ∈ direct lore window ++ reached ↔ Direct lore window i ∨ Reached lore window i := by
    rw [← hreached]
    exact mem_activate_iff
  rw [List.mem_append, mem_direct_iff] at hmem
  constructor
  · intro hi
    have hout : ¬ Direct lore window i := fun hdirect =>
      (List.nodup_append.1 hnodup).2.2 i (mem_direct_iff.2 hdirect) i hi rfl
    exact (hmem.1 (.inr hi)).resolve_left hout
  · intro hi
    exact (hmem.2 (.inr hi)).resolve_left hi.not_direct

/-! ## The order of the messages -/

theorem direct_congr (lore : List Lore) {window' : List Message}
    (h : ∀ m, m ∈ window' ↔ m ∈ window) (i : Nat) :
    Direct lore window' i ↔ Direct lore window i := by
  simp only [Direct, Hit, h]

theorem Reached.of_direct_iff {window' : List Message} {i : Nat}
    (h : ∀ i, Direct lore window i ↔ Direct lore window' i) (hi : Reached lore window i) :
    Reached lore window' i := by
  induction hi with
  | ofDirect hi hfree htriggers hj =>
    exact .ofDirect ((h _).1 hi) hfree htriggers fun hj' => hj ((h _).2 hj')
  | ofReached _ htriggers hj ih => exact .ofReached ih htriggers fun hj' => hj ((h _).2 hj')

/-- Which entries are active hangs on which messages a window holds and not on their order. -/
theorem mem_activate_congr (lore : List Lore) {window' : List Message}
    (h : ∀ m, m ∈ window' ↔ m ∈ window) (i : Nat) :
    i ∈ activate lore window' ↔ i ∈ activate lore window := by
  have hdirect := direct_congr lore h
  rw [mem_activate_iff, mem_activate_iff, hdirect]
  refine or_congr_right ⟨?_, ?_⟩
  · exact Reached.of_direct_iff hdirect
  · exact Reached.of_direct_iff fun i => (hdirect i).symm

/-! ## The closure -/

/-- **Activation computes a closure.** No entry is active twice and none that is disabled. First
    come the constants as the catalog has them, then what the window hits in the order of the hits,
    and then the least set that is closed under triggering. Every order in which pending entries are
    taken, and every order of the messages, gives the same entries. -/
theorem activate_eq_append_closure (lore : List Lore) (window : List Message) :
    (activate lore window).Nodup ∧
      (∀ i ∈ activate lore window, ∃ e, lore[i]? = some e ∧ e.enabled = true) ∧
      (∃ constants hits reached, activate lore window = constants ++ hits ++ reached ∧
        (∀ i, i ∈ constants ↔ Constant lore i) ∧ constants.Pairwise (· < ·) ∧
        (∀ i, i ∈ hits ↔ Hit lore window i) ∧ hits.Pairwise (HitBefore lore window) ∧
        IsLeast {s | Closed lore window s} {i | i ∈ reached}) ∧
      Works lore (direct lore window) (seeds lore window) (activate lore window) ∧
      (∀ final, Works lore (direct lore window) (seeds lore window) final →
        ∀ i, i ∈ final ↔ i ∈ activate lore window) ∧
      (∀ window', (∀ m, m ∈ window' ↔ m ∈ window) →
        ∀ i, i ∈ activate lore window' ↔ i ∈ activate lore window) := by
  refine ⟨(underway_activate lore window).nodup, ?_, ?_, works_activate lore window, ?_, ?_⟩
  · intro i hi
    rcases mem_activate_iff.1 hi with hi | hi
    · exact hi.exists_enabled
    · exact hi.exists_enabled
  · obtain ⟨constants, hits, hdirect, hconstants, hascending, hhits, horder⟩ :=
      exists_direct_eq_append lore window
    obtain ⟨reached, hactivate, hreached⟩ := exists_activate_eq_append lore window
    refine ⟨constants, hits, reached, ?_, hconstants, hascending, hhits, horder, ?_⟩
    · rw [hactivate, hdirect]
    · simp only [hreached]
      exact isLeast_reached lore window
  · intro final hworks i
    rw [((underway_direct lore window).works hworks).mem_iff, mem_activate_iff]
  · intro window' hwindow
    exact mem_activate_congr lore hwindow

/-- Two entries for a window, each of which leads to another; the last leads back to the first. -/
def hoard : List Lore :=
  [{ content := "The dragon guards the crystal.", keys := ["dragon"] },
    { content := "The knight lives in the tower.", keys := ["knight"] },
    { content := "The crystal glows.", keys := ["crystal"] },
    { content := "The tower was built for a dragon.", keys := ["tower"] }]

/-- A window that hits the first two of them. -/
def rumours : List Message := [.user "A dragon!", .user "And a knight."]

/-- Taking the older entry first activates the other two in another order than the stack does. -/
theorem works_hoard : Works hoard (direct hoard rumours) (seeds hoard rumours) [0, 1, 2, 3] := by
  have hdirect : direct hoard rumours = [0, 1] := by decide
  have hseeds : seeds hoard rumours = [0, 1] := by decide
  rw [hdirect, hseeds]
  refine .take (i := 0) rfl (List.Perm.refl _) ?_
  exact .take (i := 2) rfl (List.Perm.refl _) (.take (i := 1) rfl (List.Perm.refl _)
    (.take (i := 3) rfl (List.Perm.refl _) (.done _)))

/-- The same entries are active for the messages in the other order, and if the older entry is taken
    first. -/
theorem mem_activate_hoard_iff :
    activate hoard rumours = [0, 1, 3, 2] ∧
      Works hoard (direct hoard rumours) (seeds hoard rumours) [0, 1, 2, 3] ∧
      (∀ i, i ∈ [0, 1, 2, 3] ↔ i ∈ activate hoard rumours) ∧
      (∀ m, m ∈ rumours.reverse ↔ m ∈ rumours) ∧
      ∀ i, i ∈ activate hoard rumours.reverse ↔ i ∈ activate hoard rumours := by
  obtain ⟨-, -, -, -, hworks, hwindow⟩ := activate_eq_append_closure hoard rumours
  refine ⟨by decide +kernel, works_hoard, hworks _ works_hoard, fun m => List.mem_reverse, ?_⟩
  exact hwindow rumours.reverse fun m => List.mem_reverse

end Activation

end Dramaturg
