import Dramaturg.Proofs.Lore.Closure

set_option autoImplicit false

/-! # Chains of activation

Whatever contents activate is activated along a chain: it starts at an entry of the window, and each
entry of it triggers the next. The first entry of such a chain does not prevent recursion, since the
content of one that does is not searched. The others may: an entry that was activated by a content
is searched whatever it asks for. So a chain on which no entry but the last prevents recursion need
not exist, and `exists_leadsTo_of_mem_activate` says when one does. -/

namespace Dramaturg

namespace Activation

section

variable (lore : List Lore) (window : List Message)

/-- The entries that lead to an entry, in their order: the first is an entry of the window, and each
    triggers the next. Nothing leads to an entry of the window itself. -/
inductive LeadsTo : List Nat → Nat → Prop
  | start {i : Nat} (hi : Direct lore window i) : LeadsTo [] i
  | step {earlier : List Nat} {i j : Nat} (hi : LeadsTo earlier i) (htriggers : Triggers lore i j) :
      LeadsTo (earlier ++ [i]) j

/-- A chain leads to the entry at a place on which no entry before it prevents recursion. -/
def FreelyReached (j : Nat) : Prop :=
  ∃ earlier, LeadsTo lore window earlier j ∧ ∀ i ∈ earlier, ¬ PreventsRecursion lore i

end

variable {lore : List Lore} {window : List Message}

theorem Reached.exists_leadsTo {j : Nat} (hj : Reached lore window j) :
    ∃ first rest, LeadsTo lore window (first :: rest) j ∧ ¬ PreventsRecursion lore first := by
  induction hj with
  | ofDirect hi hfree htriggers _ =>
    exact ⟨_, [], .step (.start hi) htriggers, hfree⟩
  | @ofReached i _ _ htriggers _ ih =>
    obtain ⟨first, rest, hleads, hfree⟩ := ih
    exact ⟨first, rest ++ [i], hleads.step htriggers, hfree⟩

theorem FreelyReached.step {i j : Nat} (hi : FreelyReached lore window i)
    (hfree : ¬ PreventsRecursion lore i) (htriggers : Triggers lore i j) :
    FreelyReached lore window j := by
  obtain ⟨earlier, hleads, hearlier⟩ := hi
  refine ⟨earlier ++ [i], hleads.step htriggers, ?_⟩
  intro k hk
  rcases List.mem_append.1 hk with hk | hk
  · exact hearlier k hk
  · rw [List.mem_singleton.1 hk]
    exact hfree

/-- The entry before the last of a chain triggers the last and does not prevent recursion. -/
theorem FreelyReached.exists_triggers {j : Nat} (hj : FreelyReached lore window j)
    (hdirect : ¬ Direct lore window j) :
    ∃ i, FreelyReached lore window i ∧ ¬ PreventsRecursion lore i ∧ Triggers lore i j := by
  obtain ⟨earlier, hleads, hearlier⟩ := hj
  cases hleads with
  | start hj => exact absurd hj hdirect
  | step hi htriggers =>
    refine ⟨_, ⟨_, hi, ?_⟩, hearlier _ (by simp), htriggers⟩
    intro k hk
    exact hearlier k (List.mem_append_left _ hk)

theorem reached_of_mem_activate {i : Nat} (hi : i ∈ activate lore window)
    (hdirect : ¬ Direct lore window i) : Reached lore window i :=
  (mem_activate_iff.1 hi).resolve_left hdirect

/-- **Chains of activation.** A chain leads to each active entry that is none of the window's, and
    its first entry does not prevent recursion. An entry that only preventing entries of the window
    trigger stays inactive. Chains on which no entry before the last prevents recursion lead to all
    of them if and only if such chains lead to whatever is triggered by entries that prevent
    recursion and are active by a content themselves. -/
theorem exists_leadsTo_of_mem_activate (lore : List Lore) (window : List Message) :
    (∀ j ∈ activate lore window, ¬ Direct lore window j →
        ∃ first rest, LeadsTo lore window (first :: rest) j ∧ ¬ PreventsRecursion lore first) ∧
      (∀ j, ¬ Direct lore window j →
        (∀ i ∈ activate lore window, Triggers lore i j →
          Direct lore window i ∧ PreventsRecursion lore i) →
        j ∉ activate lore window) ∧
      ((∀ j ∈ activate lore window, ¬ Direct lore window j → FreelyReached lore window j) ↔
        ∀ i ∈ activate lore window, ¬ Direct lore window i → PreventsRecursion lore i →
          ∀ j, Triggers lore i j → ¬ Direct lore window j → FreelyReached lore window j) := by
  refine ⟨?_, ?_, ?_, ?_⟩
  · intro j hj hdirect
    exact (reached_of_mem_activate hj hdirect).exists_leadsTo
  · intro j hdirect hall hj
    cases reached_of_mem_activate hj hdirect with
    | ofDirect hi hfree htriggers _ =>
      exact hfree (hall _ (mem_activate_iff.2 (.inl hi)) htriggers).2
    | ofReached hi htriggers _ =>
      exact hi.not_direct (hall _ (mem_activate_iff.2 (.inr hi)) htriggers).1
  · intro hchains i hi hdirect _ j htriggers hj
    have hreached := (reached_of_mem_activate hi hdirect).ofReached htriggers hj
    exact hchains j (mem_activate_iff.2 (.inr hreached)) hj
  · intro hbeyond j hj hdirect
    induction reached_of_mem_activate hj hdirect with
    | ofDirect hi hfree htriggers _ =>
      exact FreelyReached.step ⟨[], .start hi, by simp⟩ hfree htriggers
    | @ofReached i j hi htriggers hj' ih =>
      have hactive : i ∈ activate lore window := mem_activate_iff.2 (.inr hi)
      by_cases hprevents : PreventsRecursion lore i
      · exact hbeyond i hactive hi.not_direct hprevents j htriggers hj'
      · exact (ih hactive hi.not_direct).step hprevents htriggers

/-! ## An entry in the middle of a chain -/

/-- Three entries of which each mentions the next; the second prevents recursion. -/
def relay : List Lore :=
  [{ content := "The dragon guards the crystal.", keys := ["dragon"] },
    { content := "The crystal lies in the tower.", keys := ["crystal"], preventRecursion := true },
    { content := "The stairs are broken.", keys := ["tower"] }]

/-- A message that mentions the first of them. -/
def sighting : List Message := [.user "A dragon!"]

theorem activate_relay : activate relay sighting = [0, 1, 2] := by decide +kernel

/-- A chain leads to the second entry. Without the first, a message hits the second, which prevents
    recursion, and the third stays inactive. -/
theorem exists_leadsTo_relay :
    (1 ∈ activate relay sighting ∧ ¬ Direct relay sighting 1 ∧
      ∃ first rest, LeadsTo relay sighting (first :: rest) 1 ∧ ¬ PreventsRecursion relay first) ∧
    (¬ Direct relay.tail [.user "A crystal!"] 1 ∧
      (∀ i ∈ activate relay.tail [.user "A crystal!"], Triggers relay.tail i 1 →
        Direct relay.tail [.user "A crystal!"] i ∧ PreventsRecursion relay.tail i) ∧
      1 ∉ activate relay.tail [.user "A crystal!"]) := by
  have hactive : 1 ∈ activate relay sighting := by
    rw [activate_relay]
    decide
  have hout : ¬ Direct relay sighting 1 := by
    rw [← mem_direct_iff]
    decide
  have hout' : ¬ Direct relay.tail [.user "A crystal!"] 1 := by
    rw [← mem_direct_iff]
    decide
  have hall : ∀ i ∈ activate relay.tail [.user "A crystal!"], Triggers relay.tail i 1 →
      Direct relay.tail [.user "A crystal!"] i ∧ PreventsRecursion relay.tail i := by
    have honly : activate relay.tail [.user "A crystal!"] = [0] := by decide +kernel
    intro i hi _
    rw [honly] at hi
    obtain rfl := List.mem_singleton.1 hi
    exact ⟨mem_direct_iff.1 (by decide), _, rfl, rfl⟩
  refine ⟨⟨hactive, hout, ?_⟩, hout', hall, ?_⟩
  · exact (exists_leadsTo_of_mem_activate relay sighting).1 1 hactive hout
  · exact (exists_leadsTo_of_mem_activate relay.tail _).2.1 1 hout' hall

/-- The third entry is mentioned by the second alone, which prevents recursion, and is active all
    the same: no chain leads to it on which no entry before the last prevents recursion. -/
theorem not_freelyReached_relay :
    activate relay sighting = [0, 1, 2] ∧ ¬ Direct relay sighting 2 ∧
      (∀ e ∈ relay[2]?, ∀ a ∈ relay, e.KeyOccurs a.content → a.preventRecursion = true) ∧
      ¬ ∀ j ∈ activate relay sighting, ¬ Direct relay sighting j →
        FreelyReached relay sighting j := by
  have hdirect : ¬ Direct relay sighting 2 := by
    rw [← mem_direct_iff]
    decide
  have honly : ∀ e ∈ relay[2]?, ∀ a ∈ relay,
      e.KeyOccurs a.content → a.preventRecursion = true := by
    decide
  refine ⟨activate_relay, hdirect, honly, ?_⟩
  intro hchains
  have hthird : 2 ∈ activate relay sighting := by
    rw [activate_relay]
    decide
  obtain ⟨i, -, hfree, a, b, ha, hb, -, -, hkey⟩ :=
    (hchains 2 hthird hdirect).exists_triggers hdirect
  exact hfree ⟨a, ha, honly b hb a (List.mem_of_getElem? ha) hkey⟩

end Activation

end Dramaturg
