import Dramaturg.Proofs.Lore.Chain
import Mathlib.Logic.Relation

set_option autoImplicit false

/-! # More messages

A window that holds more messages hits more entries. But of the entries that a window hits only
those are searched that do not prevent recursion, while whatever a content activates is searched
whatever it asks for. So an entry that prevents recursion falls silent as soon as a message mentions
it, and what only it triggers is lost: more messages may mean less lore. `activate_subset_iff` says
when nothing is lost. Chains on which no entry before the last prevents recursion always stay. -/

namespace Dramaturg

namespace Activation

section

variable (lore : List Lore) (window window' : List Message)

/-- A content activates the entry at a place for the one window, and the other window activates it
    by itself, but it prevents recursion: it is searched for the one window and not for the other. -/
def Silenced (i : Nat) : Prop :=
  Reached lore window i ∧ Direct lore window' i ∧ PreventsRecursion lore i

/-- The entry at a place is active for the one window and not for the other. -/
def Lost (i : Nat) : Prop :=
  i ∈ activate lore window ∧ i ∉ activate lore window'

end

variable {lore : List Lore} {window window' : List Message}

/-! ## What stays -/

/-- What a window activates by itself, a longer window activates by itself. -/
theorem Direct.mono (h : ∀ m ∈ window, m ∈ window') {i : Nat} (hi : Direct lore window i) :
    Direct lore window' i := by
  rcases hi with hconstant | ⟨e, he, henabled, hnot, m, hm, hkey⟩
  · exact .inl hconstant
  · exact .inr ⟨e, he, henabled, hnot, m, h m hm, hkey⟩

theorem LeadsTo.mono (h : ∀ m ∈ window, m ∈ window') {earlier : List Nat} {j : Nat}
    (hj : LeadsTo lore window earlier j) : LeadsTo lore window' earlier j := by
  induction hj with
  | start hi => exact .start (hi.mono h)
  | step _ htriggers ih => exact .step ih htriggers

theorem FreelyReached.mono (h : ∀ m ∈ window, m ∈ window') {j : Nat}
    (hj : FreelyReached lore window j) : FreelyReached lore window' j := by
  obtain ⟨earlier, hleads, hfree⟩ := hj
  exact ⟨earlier, hleads.mono h, hfree⟩

/-- All that a searched entry triggers is active. -/
theorem Spreads.mem_activate {i j : Nat} (hi : Spreads lore window i)
    (htriggers : Triggers lore i j) : j ∈ activate lore window := by
  rw [mem_activate_iff]
  by_cases hj : Direct lore window j
  · exact .inl hj
  · exact .inr (hi.reached htriggers hj)

/-- An active entry is searched, unless the window has activated it and it prevents recursion. -/
theorem spreads_of_mem_activate {i : Nat} (hi : i ∈ activate lore window)
    (hfree : Direct lore window i → ¬ PreventsRecursion lore i) : Spreads lore window i := by
  rcases mem_activate_iff.1 hi with hdirect | hreached
  · exact .inl ⟨hdirect, hfree hdirect⟩
  · exact .inr hreached

theorem LeadsTo.mem_activate {earlier : List Nat} {j : Nat} (hj : LeadsTo lore window earlier j)
    (hfree : ∀ i ∈ earlier, ¬ PreventsRecursion lore i) : j ∈ activate lore window := by
  induction hj with
  | start hi => exact mem_activate_iff.2 (.inl hi)
  | @step earlier i j _ htriggers ih =>
    have hi : i ∈ activate lore window :=
      ih fun k hk => hfree k (List.mem_append_left _ hk)
    have hspreads : Spreads lore window i :=
      spreads_of_mem_activate hi fun _ => hfree i (by simp)
    exact hspreads.mem_activate htriggers

/-! ## What is lost -/

/-- Whatever is lost has a chain to it from an entry that was silenced, and the entry that comes
    first on the chain is lost. -/
theorem Lost.exists_silenced (h : ∀ m ∈ window, m ∈ window') {j : Nat}
    (hj : Lost lore window window' j) :
    ∃ i k, Silenced lore window window' i ∧ Triggers lore i k ∧ Lost lore window window' k ∧
      Relation.ReflTransGen (Triggers lore) k j := by
  obtain ⟨hactive, hout⟩ := hj
  have hdirect : ¬ Direct lore window j := by
    intro hdirect
    exact hout (mem_activate_iff.2 (.inl (hdirect.mono h)))
  -- along the way in which contents activated it
  induction reached_of_mem_activate hactive hdirect with
  | ofDirect hi hfree htriggers _ =>
    have hspreads : Spreads lore window' _ := .inl ⟨hi.mono h, hfree⟩
    exact absurd (hspreads.mem_activate htriggers) hout
  | @ofReached i j hi htriggers hj ih =>
    by_cases hkept : i ∈ activate lore window'
    · -- the entry that triggers it is still active, and would be searched if it were not silenced
      by_cases hsilent : Direct lore window' i ∧ PreventsRecursion lore i
      · exact ⟨i, j, ⟨hi, hsilent⟩, htriggers, ⟨hactive, hout⟩, .refl⟩
      · have hspreads : Spreads lore window' i :=
          spreads_of_mem_activate hkept fun hdirect hprevents => hsilent ⟨hdirect, hprevents⟩
        exact absurd (hspreads.mem_activate htriggers) hout
    · have hiactive : i ∈ activate lore window := mem_activate_iff.2 (.inr hi)
      obtain ⟨first, k, hsilenced, hfirst, hlost, hchain⟩ := ih hiactive hkept hi.not_direct
      exact ⟨first, k, hsilenced, hfirst, hlost, hchain.tail htriggers⟩

/-- **When more messages keep all lore.** All that a window activates is active for a window that
    holds its messages and others if and only if all that silenced entries trigger is still active.
    Whatever is lost has a chain to it from an entry that was silenced. A chain on which no entry
    before the last prevents recursion stays, and the entry to which it leads is active. -/
theorem activate_subset_iff (lore : List Lore) {window window' : List Message}
    (h : ∀ m ∈ window, m ∈ window') :
    ((∀ i ∈ activate lore window, i ∈ activate lore window') ↔
        ∀ i j, Silenced lore window window' i → Triggers lore i j →
          j ∈ activate lore window') ∧
      (∀ j ∈ activate lore window, j ∉ activate lore window' →
        ∃ i k, Silenced lore window window' i ∧ Triggers lore i k ∧
          k ∉ activate lore window' ∧ Relation.ReflTransGen (Triggers lore) k j) ∧
      ∀ j, FreelyReached lore window j →
        FreelyReached lore window' j ∧ j ∈ activate lore window ∧ j ∈ activate lore window' := by
  refine ⟨⟨?_, ?_⟩, ?_, ?_⟩
  · intro hkept i j hsilenced htriggers
    have hspreads : Spreads lore window i := .inr hsilenced.1
    exact hkept j (hspreads.mem_activate htriggers)
  · intro hstill j hj
    by_cases hout : j ∈ activate lore window'
    · exact hout
    · obtain ⟨i, k, hsilenced, htriggers, hlost, -⟩ := Lost.exists_silenced h ⟨hj, hout⟩
      exact absurd (hstill i k hsilenced htriggers) hlost.2
  · intro j hj hout
    obtain ⟨i, k, hsilenced, htriggers, hlost, hchain⟩ := Lost.exists_silenced h ⟨hj, hout⟩
    exact ⟨i, k, hsilenced, htriggers, hlost.2, hchain⟩
  · intro j hj
    have hj' := hj.mono h
    obtain ⟨earlier, hleads, hfree⟩ := hj
    exact ⟨hj', hleads.mem_activate hfree, (hleads.mono h).mem_activate hfree⟩

/-! ## A message too many -/

/-- The sighting, with a message that mentions the second entry of the relay. -/
def outcry : List Message := sighting ++ [.user "A crystal!"]

theorem activate_outcry : activate relay outcry = [0, 1] := by decide +kernel

theorem mem_outcry {m : Message} (hm : m ∈ sighting) : m ∈ outcry :=
  List.mem_append_left _ hm

/-- The third entry of the relay is lost, since the second is silenced. The second itself is not:
    the chain to it starts at the first, which does not prevent recursion. -/
theorem exists_silenced_relay :
    (∀ m ∈ sighting, m ∈ outcry) ∧ 2 ∈ activate relay sighting ∧ 2 ∉ activate relay outcry ∧
      (∃ i k, Silenced relay sighting outcry i ∧ Triggers relay i k ∧
        k ∉ activate relay outcry ∧ Relation.ReflTransGen (Triggers relay) k 2) ∧
      FreelyReached relay sighting 1 ∧ FreelyReached relay outcry 1 ∧
      1 ∈ activate relay outcry := by
  have hlonger : ∀ m ∈ sighting, m ∈ outcry := fun m => mem_outcry
  have hactive : 2 ∈ activate relay sighting := by
    rw [activate_relay]
    decide
  have hout : 2 ∉ activate relay outcry := by
    rw [activate_outcry]
    decide
  have hfirst : Direct relay sighting 0 := by
    rw [← mem_direct_iff]
    decide
  have htriggers : Triggers relay 0 1 := ⟨_, _, rfl, rfl, rfl, rfl, by decide⟩
  have hfree : ¬ PreventsRecursion relay 0 := by simp [PreventsRecursion, relay]
  have hchain : FreelyReached relay sighting 1 :=
    FreelyReached.step ⟨[], .start hfirst, by simp⟩ hfree htriggers
  obtain ⟨-, hlost, hstays⟩ := activate_subset_iff relay hlonger
  obtain ⟨hchain', -, hsecond⟩ := hstays 1 hchain
  exact ⟨hlonger, hactive, hout, hlost 2 hactive hout, hchain, hchain', hsecond⟩

/-- One message more, and one entry less. -/
theorem not_subset_relay :
    (∀ m ∈ sighting, m ∈ outcry) ∧ activate relay sighting = [0, 1, 2] ∧
      activate relay outcry = [0, 1] ∧
      ¬ ∀ i ∈ activate relay sighting, i ∈ activate relay outcry := by
  refine ⟨fun m => mem_outcry, activate_relay, activate_outcry, ?_⟩
  rw [activate_relay, activate_outcry]
  decide

end Activation

end Dramaturg
