import Dramaturg.Lore.Activation
import Dramaturg.Proofs.Text.Occurrence

set_option autoImplicit false

/-! # What activates an entry

An entry is activated by the window, being constant or having a key that occurs in a message, or by
the content of another entry. These are relations between places of the catalog, said here without
the order in which activation finds them; the lemmas tie them to one round of activation
(`mem_newly_iff`) and to the phase that reads the window (`exists_direct_eq_append`). -/

namespace Dramaturg

/-- A key of the entry occurs in a text. -/
def Lore.KeyOccurs (e : Lore) (text : String) : Prop :=
  ∃ key ∈ e.keys, key.toList <:+: text.toList

theorem Lore.isMentionedIn_iff (e : Lore) (text : String) :
    e.isMentionedIn text = true ↔ e.KeyOccurs text := by
  unfold Lore.isMentionedIn Lore.matchingKey? Lore.KeyOccurs
  rw [List.find?_isSome]
  simp only [Text.contains_iff_isInfix]

instance (e : Lore) (text : String) : Decidable (e.KeyOccurs text) :=
  decidable_of_iff _ (e.isMentionedIn_iff text)

namespace Activation

section

variable (lore : List Lore) (window : List Message)

/-- The entry at a place is enabled and constant. -/
def Constant (i : Nat) : Prop :=
  ∃ e, lore[i]? = some e ∧ e.enabled = true ∧ e.constant = true

/-- The entry at a place is enabled and not constant, and a message of the window holds a key of
    it. -/
def Hit (i : Nat) : Prop :=
  ∃ e, lore[i]? = some e ∧ e.enabled = true ∧ e.constant = false ∧
    ∃ m ∈ window, e.KeyOccurs m.content

/-- The window activates the entry at a place by itself. -/
def Direct (i : Nat) : Prop := Constant lore i ∨ Hit lore window i

/-- The content of the entry at one place holds a key of the entry at another, which is enabled and
    may be activated so. -/
def Triggers (i j : Nat) : Prop :=
  ∃ a b, lore[i]? = some a ∧ lore[j]? = some b ∧ b.enabled = true ∧ b.excludeRecursion = false ∧
    b.KeyOccurs a.content

/-- The entry at a place asks to activate no others. -/
def PreventsRecursion (i : Nat) : Prop :=
  ∃ e, lore[i]? = some e ∧ e.preventRecursion = true

/-- The place in the window of the first message that holds a key of the entry at a place. -/
def firstHit (i : Nat) : Nat :=
  window.findIdx fun m => (lore[i]?).any fun e => decide (e.KeyOccurs m.content)

/-- One entry is hit before another: by an earlier message, or by the same and from an earlier place
    in the catalog. -/
def HitBefore (i j : Nat) : Prop :=
  firstHit lore window i < firstHit lore window j ∨
    firstHit lore window i = firstHit lore window j ∧ i < j

end

variable {lore : List Lore} {window : List Message}

theorem Constant.not_hit {i : Nat} (h : Constant lore i) : ¬ Hit lore window i := by
  rintro ⟨e, he, -, hnot, -⟩
  obtain ⟨e', he', -, hconstant⟩ := h
  obtain rfl := Option.some.inj (he.symm.trans he')
  rw [hnot] at hconstant
  cases hconstant

/-! ## One round -/

theorem holdsAt_iff {p : Lore → Bool} {i : Nat} :
    holdsAt lore p i = true ↔ ∃ e, lore[i]? = some e ∧ p e = true := by
  simp only [holdsAt, Option.any_eq_true]

theorem mem_newly_iff {p : Lore → Bool} {active : List Nat} {i : Nat} :
    i ∈ newly lore p active ↔ i ∉ active ∧ ∃ e, lore[i]? = some e ∧ p e = true := by
  rw [newly, inactive, List.mem_filter, List.mem_filter, List.mem_range, holdsAt_iff]
  simp only [List.contains_eq_mem, Bool.not_eq_true', decide_eq_false_iff_not]
  constructor
  · rintro ⟨⟨-, hactive⟩, he⟩
    exact ⟨hactive, he⟩
  · rintro ⟨hactive, e, he, hp⟩
    exact ⟨⟨(List.getElem?_eq_some_iff.1 he).1, hactive⟩, e, he, hp⟩

theorem newly_pairwise (p : Lore → Bool) (active : List Nat) :
    (newly lore p active).Pairwise (· < ·) :=
  List.pairwise_lt_range.sublist (List.filter_sublist.trans List.filter_sublist)

theorem mem_newly_isConstant_iff {i : Nat} :
    i ∈ newly lore isConstant [] ↔ Constant lore i := by
  simp only [mem_newly_iff, isConstant, Bool.and_eq_true, Constant, List.not_mem_nil,
    not_false_eq_true, true_and]

theorem mem_newly_isHitBy_iff {m : Message} {active : List Nat} {i : Nat} :
    i ∈ newly lore (isHitBy m.content) active ↔ i ∉ active ∧
      ∃ e, lore[i]? = some e ∧ e.enabled = true ∧ e.constant = false ∧ e.KeyOccurs m.content := by
  simp only [mem_newly_iff, isHitBy, Bool.and_eq_true, Bool.not_eq_true', Lore.isMentionedIn_iff,
    and_assoc]

theorem mem_newly_isHitByContent_iff {a : Lore} {active : List Nat} {i j : Nat}
    (ha : lore[i]? = some a) :
    j ∈ newly lore (isHitByContent a.content) active ↔ j ∉ active ∧ Triggers lore i j := by
  simp only [mem_newly_iff, isHitByContent, Bool.and_eq_true, Bool.not_eq_true',
    Lore.isMentionedIn_iff, Triggers, ha, Option.some.injEq, exists_and_left, exists_eq_left',
    and_assoc]

/-! ## Reading the window -/

theorem firstHit_cons_of_keyOccurs {m : Message} {e : Lore} {i : Nat} (he : lore[i]? = some e)
    (hkey : e.KeyOccurs m.content) : firstHit lore (m :: window) i = 0 := by
  simp [firstHit, List.findIdx_cons, he, hkey]

theorem firstHit_cons_of_not_keyOccurs {m : Message} {e : Lore} {i : Nat} (he : lore[i]? = some e)
    (hkey : ¬ e.KeyOccurs m.content) :
    firstHit lore (m :: window) i = firstHit lore window i + 1 := by
  simp [firstHit, List.findIdx_cons, he, hkey]

/-- Reading a window activates what it hits and was not active, in the order of the hits. -/
theorem exists_foldl_eq_append (lore : List Lore) (window : List Message) (active : List Nat) :
    ∃ hits, window.foldl (fun active m => extend lore (isHitBy m.content) active) active
        = active ++ hits ∧
      (∀ i, i ∈ hits ↔ i ∉ active ∧ Hit lore window i) ∧
      hits.Pairwise (HitBefore lore window) := by
  induction window generalizing active with
  | nil => exact ⟨[], by simp, by simp [Hit], List.Pairwise.nil⟩
  | cons m rest ih =>
    obtain ⟨later, hfold, hmem, horder⟩ := ih (extend lore (isHitBy m.content) active)
    simp only [extend, List.mem_append, not_or, mem_newly_isHitBy_iff] at hmem
    -- whatever comes later has no key in the first message, which would have hit it
    have hlater : ∀ i ∈ later,
        firstHit lore (m :: rest) i = firstHit lore rest i + 1 := by
      intro i hi
      obtain ⟨⟨hactive, hfirst⟩, e, he, henabled, hconstant, -⟩ := (hmem i).1 hi
      refine firstHit_cons_of_not_keyOccurs he fun hkey => hfirst ?_
      exact ⟨hactive, e, he, henabled, hconstant, hkey⟩
    have hfirst : ∀ i ∈ newly lore (isHitBy m.content) active,
        firstHit lore (m :: rest) i = 0 := by
      intro i hi
      obtain ⟨-, e, he, -, -, hkey⟩ := mem_newly_isHitBy_iff.1 hi
      exact firstHit_cons_of_keyOccurs he hkey
    refine ⟨newly lore (isHitBy m.content) active ++ later, ?_, ?_, ?_⟩
    · rw [List.foldl_cons, hfold, extend, List.append_assoc]
    · intro i
      rw [List.mem_append, mem_newly_isHitBy_iff, hmem]
      constructor
      · rintro (⟨hactive, e, he, henabled, hconstant, hkey⟩ | ⟨⟨hactive, -⟩, hhit⟩)
        · exact ⟨hactive, e, he, henabled, hconstant, m, List.mem_cons_self, hkey⟩
        · obtain ⟨e, he, henabled, hconstant, m', hm', hkey⟩ := hhit
          exact ⟨hactive, e, he, henabled, hconstant, m', List.mem_cons_of_mem m hm', hkey⟩
      · rintro ⟨hactive, e, he, henabled, hconstant, m', hm', hkey⟩
        by_cases hnow : e.KeyOccurs m.content
        · exact .inl ⟨hactive, e, he, henabled, hconstant, hnow⟩
        · have hm'_rest : m' ∈ rest := by
            rcases List.mem_cons.1 hm' with rfl | hm'
            · exact absurd hkey hnow
            · exact hm'
          refine .inr ⟨⟨hactive, ?_⟩, e, he, henabled, hconstant, m', hm'_rest, hkey⟩
          rintro ⟨-, e', he', -, -, hkey'⟩
          obtain rfl := Option.some.inj (he.symm.trans he')
          exact hnow hkey'
    · rw [List.pairwise_append]
      refine ⟨?_, ?_, ?_⟩
      · refine (newly_pairwise _ _).imp_of_mem ?_
        intro i j hi hj hij
        exact .inr ⟨(hfirst i hi).trans (hfirst j hj).symm, hij⟩
      · refine horder.imp_of_mem ?_
        intro i j hi hj hij
        unfold HitBefore at *
        rw [hlater i hi, hlater j hj]
        omega
      · intro i hi j hj
        left
        rw [hfirst i hi, hlater j hj]
        exact Nat.succ_pos _

/-- The window activates the constants in the order of the catalog, then what it hits in the order
    of the hits. -/
theorem exists_direct_eq_append (lore : List Lore) (window : List Message) :
    ∃ constants hits, direct lore window = constants ++ hits ∧
      (∀ i, i ∈ constants ↔ Constant lore i) ∧ constants.Pairwise (· < ·) ∧
      (∀ i, i ∈ hits ↔ Hit lore window i) ∧ hits.Pairwise (HitBefore lore window) := by
  obtain ⟨hits, hfold, hmem, horder⟩ :=
    exists_foldl_eq_append lore window (newly lore isConstant [])
  refine ⟨newly lore isConstant [], hits, hfold, fun i => mem_newly_isConstant_iff,
    newly_pairwise _ _, ?_, horder⟩
  intro i
  rw [hmem, mem_newly_isConstant_iff]
  constructor
  · exact And.right
  · intro hhit
    exact ⟨fun hconstant => hconstant.not_hit hhit, hhit⟩

theorem mem_direct_iff {i : Nat} : i ∈ direct lore window ↔ Direct lore window i := by
  obtain ⟨constants, hits, hdirect, hconstants, -, hhits, -⟩ := exists_direct_eq_append lore window
  rw [hdirect, List.mem_append, hconstants, hhits]
  rfl

theorem nodup_direct (lore : List Lore) (window : List Message) : (direct lore window).Nodup := by
  obtain ⟨constants, hits, hdirect, hconstants, hascending, hhits, horder⟩ :=
    exists_direct_eq_append lore window
  rw [hdirect]
  refine List.pairwise_append.2 ⟨hascending.imp Nat.ne_of_lt, ?_, ?_⟩
  · refine horder.imp ?_
    rintro i j hij rfl
    unfold HitBefore at hij
    omega
  · rintro i hi j hj rfl
    exact ((hconstants i).1 hi).not_hit ((hhits i).1 hj)

end Activation

end Dramaturg
