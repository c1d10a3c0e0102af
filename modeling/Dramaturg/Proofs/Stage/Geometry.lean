import Dramaturg.Proofs.Stage.Exact
import Dramaturg.Proofs.Stage.Roster
import Mathlib.Algebra.Order.Field.Basic
import Mathlib.Algebra.Order.Ring.Abs
import Mathlib.Tactic.FieldSimp
import Mathlib.Tactic.Linarith
import Mathlib.Tactic.Ring

set_option autoImplicit false

/-! # The geometry of the stage

In fractions all three formulas for places come to one (`Layout.x_place`): the figures stand around
the middle between the borders, as far to the left as to the right, and neighbours are apart by the
spacing. All of them together take no more room than there is between the borders
(`Layout.reach_le`), so nobody stands outside, whichever border is the left one. -/

namespace Dramaturg

namespace Layout

variable (l : Layout ℚ)

/-- The middle between the borders. -/
def middle : ℚ := (l.borderLeft + l.borderRight) / 2

theorem spacing_one : l.spacing 1 = 0 := rfl

theorem spacing_of_one_lt {n : ℕ} (hn : 1 < n) :
    l.spacing n = min l.characterGap ((l.borderRight - l.borderLeft) / (n - 1)) := by
  have hcount : ((n - 1 : ℕ) : ℚ) = n - 1 := Nat.cast_pred (Nat.zero_lt_of_lt hn)
  rw [← hcount]
  exact if_pos hn

theorem y_place (n i : ℕ) : (l.place n i).y = 0 := rfl

/-- The places of figures lie evenly around the middle. -/
theorem x_place {n : ℕ} (hn : 0 < n) (i : ℕ) :
    (l.place n i).x = l.middle + (i - (n - 1) / 2) * l.spacing n := by
  have hplace : (l.place n i).x
      = if n = 1 then l.borderLeft + (l.borderRight - l.borderLeft) / 2
        else l.borderLeft + (l.borderRight - l.borderLeft - ((n - 1 : ℕ) : ℚ) * l.spacing n) / 2
          + i * l.spacing n := rfl
  have hcount : ((n - 1 : ℕ) : ℚ) = n - 1 := Nat.cast_pred hn
  rw [hplace, hcount, middle]
  by_cases hone : n = 1
  · subst hone
    rw [if_pos rfl, spacing_one]
    ring
  · rw [if_neg hone]
    ring

/-- A single figure stands in the middle. -/
theorem x_place_one (i : ℕ) : (l.place 1 i).x = l.middle := by
  rw [l.x_place Nat.one_pos, spacing_one, mul_zero, add_zero]

theorem x_place_succ {n : ℕ} (hn : 0 < n) (i : ℕ) :
    (l.place n (i + 1)).x - (l.place n i).x = l.spacing n := by
  rw [l.x_place hn, l.x_place hn]
  push_cast
  ring

/-- The first figure is as far from one border as the last one from the other. -/
theorem x_place_ends {n : ℕ} (hn : 0 < n) :
    (l.place n 0).x + (l.place n (n - 1)).x = l.borderLeft + l.borderRight := by
  have hcount : ((n - 1 : ℕ) : ℚ) = n - 1 := Nat.cast_pred hn
  rw [l.x_place hn, l.x_place hn, hcount, middle]
  push_cast
  ring

/-- From the first to the last figure it is no further than from border to border. -/
theorem reach_le (hgap : 0 ≤ l.characterGap) {n : ℕ} (hn : 0 < n) :
    (n - 1) * |l.spacing n| ≤ |l.borderRight - l.borderLeft| := by
  rcases Nat.lt_or_ge 1 n with hmany | hone
  · have hcount : (0 : ℚ) < n - 1 := by
      rw [sub_pos]
      exact_mod_cast hmany
    rw [l.spacing_of_one_lt hmany]
    generalize l.borderRight - l.borderLeft = width
    have hroom : |min l.characterGap (width / (n - 1))| ≤ |width / (n - 1)| := by
      rcases le_total 0 (width / (n - 1)) with hwide | hinverted
      · rw [abs_of_nonneg (le_min hgap hwide), abs_of_nonneg hwide]
        exact min_le_right _ _
      · rw [min_eq_right (hinverted.trans hgap)]
    calc (n - 1) * |min l.characterGap (width / (n - 1))|
        ≤ (n - 1) * |width / (n - 1)| := mul_le_mul_of_nonneg_left hroom hcount.le
      _ = |width| := by
        rw [abs_div, abs_of_pos hcount]
        field_simp
  · obtain rfl : n = 1 := Nat.le_antisymm hone hn
    rw [Nat.cast_one, sub_self, zero_mul]
    exact abs_nonneg _

/-- No figure stands outside the borders. -/
theorem x_place_bounds (hgap : 0 ≤ l.characterGap) {n i : ℕ} (hi : i < n) :
    min l.borderLeft l.borderRight ≤ (l.place n i).x ∧
      (l.place n i).x ≤ max l.borderLeft l.borderRight := by
  have hn : 0 < n := Nat.zero_lt_of_lt hi
  have hoff : |(i - (n - 1) / 2 : ℚ)| ≤ (n - 1) / 2 := by
    have hlow : (0 : ℚ) ≤ i := Nat.cast_nonneg i
    have hhigh : (i : ℚ) + 1 ≤ n := by exact_mod_cast hi
    rw [abs_le]
    constructor <;> linarith
  have hreach : |(l.place n i).x - l.middle| ≤ |l.borderRight - l.borderLeft| / 2 := by
    calc |(l.place n i).x - l.middle|
        = |(i - (n - 1) / 2 : ℚ)| * |l.spacing n| := by
          rw [l.x_place hn, add_sub_cancel_left, abs_mul]
      _ ≤ (n - 1) / 2 * |l.spacing n| := mul_le_mul_of_nonneg_right hoff (abs_nonneg _)
      _ = (n - 1) * |l.spacing n| / 2 := by ring
      _ ≤ |l.borderRight - l.borderLeft| / 2 :=
          div_le_div_of_nonneg_right (l.reach_le hgap hn) zero_le_two
  obtain ⟨hleft, hright⟩ := abs_le.1 hreach
  rw [middle] at hleft hright
  rcases le_total l.borderLeft l.borderRight with hborders | hborders
  · rw [abs_of_nonneg (sub_nonneg.2 hborders)] at hleft hright
    rw [min_eq_left hborders, max_eq_right hborders]
    constructor <;> linarith
  · rw [abs_of_nonpos (sub_nonpos.2 hborders)] at hleft hright
    rw [min_eq_right hborders, max_eq_left hborders]
    constructor <;> linarith

end Layout

namespace Roster

/-- **Laying out spreads the figures evenly around the middle and between the borders.** All stand
    on one line. Neighbours are apart by the gap that is asked for, or by what the borders leave if
    that is less, and by a negative distance if the borders are the wrong way round. The first and
    the last figure are as far from one border as from the other, so that a single one stands in the
    middle, and nobody stands outside the borders. All but the positions is as before. -/
theorem layOut_spreads (r : Roster ℚ) (l : Layout ℚ) (hfigures : r.figures ≠ [])
    (hgap : 0 ≤ l.characterGap) :
    let n := r.size
    let laidOut := (r.layOut l).figures
    (∀ f ∈ laidOut, f.position.y = 0) ∧
      (1 < n → laidOut.IsChain fun f g => g.position.x - f.position.x
        = min l.characterGap ((l.borderRight - l.borderLeft) / (n - 1))) ∧
      (∃ first last, laidOut.head? = some first ∧ laidOut.getLast? = some last ∧
        first.position.x + last.position.x = l.borderLeft + l.borderRight) ∧
      (n = 1 → ∀ f ∈ laidOut, f.position.x = (l.borderLeft + l.borderRight) / 2) ∧
      (∀ f ∈ laidOut, min l.borderLeft l.borderRight ≤ f.position.x ∧
        f.position.x ≤ max l.borderLeft l.borderRight) ∧
      laidOut.map (fun f => (f.id, f.path, f.lastPosition))
        = r.figures.map fun f => (f.id, f.path, f.lastPosition) := by
  intro n laidOut
  have hn : 0 < n := List.length_pos_iff.2 hfigures
  have hx {i : ℕ} (hi : i < laidOut.length) : laidOut[i].position.x = (l.place n i).x := by
    simp only [laidOut, layOut, List.getElem_mapIdx]
    rfl
  refine ⟨?_, ?_, ?_, ?_, ?_, ?_⟩
  · intro f hf
    obtain ⟨i, hi, rfl⟩ := mem_layOut.1 hf
    exact l.y_place n i
  · intro hmany
    rw [List.isChain_iff_getElem]
    intro i hi
    rw [hx, hx, l.x_place_succ hn, l.spacing_of_one_lt hmany]
  · refine ⟨{ r.figures.head hfigures with position := l.place n 0 },
      { r.figures.getLast hfigures with position := l.place n (n - 1) }, ?_, ?_, l.x_place_ends hn⟩
    · simp only [laidOut, layOut, List.head?_mapIdx, List.head?_eq_some_head hfigures]
      rfl
    · simp only [laidOut, layOut, List.getLast?_mapIdx, List.getLast?_eq_some_getLast hfigures]
      rfl
  · rintro hone f hf
    obtain ⟨i, hi, rfl⟩ := mem_layOut.1 hf
    change (l.place n i).x = l.middle
    rw [hone, l.x_place_one]
  · intro f hf
    obtain ⟨i, hi, rfl⟩ := mem_layOut.1 hf
    exact l.x_place_bounds hgap hi
  · apply List.ext_getElem
    · simp [laidOut, layOut]
    · intro i _ _
      simp [laidOut, layOut]

/-- Three figures between borders that are the wrong way round stand from right to left. -/
theorem layOut_spreads_inverted :
    let figure (id : Nat) (path : String) : Figure ℚ := ⟨id, path, Point.origin, Point.origin⟩
    let r : Roster ℚ := ⟨[figure 0 "a", figure 1 "b", figure 2 "c"]⟩
    let l : Layout ℚ := ⟨300, -100, 50, 1⟩
    r.figures ≠ [] ∧ 0 ≤ l.characterGap ∧
      ((r.layOut l).figures.IsChain fun f g => g.position.x - f.position.x = -200) ∧
      ∀ f ∈ (r.layOut l).figures, -100 ≤ f.position.x ∧ f.position.x ≤ 300 := by
  intro figure r l
  have hfigures : r.figures ≠ [] := List.cons_ne_nil _ _
  have hgap : 0 ≤ l.characterGap := by decide +kernel
  obtain ⟨-, hspaced, -, -, hwithin, -⟩ := layOut_spreads r l hfigures hgap
  refine ⟨hfigures, hgap, ?_, ?_⟩
  · have hspacing :
        min l.characterGap ((l.borderRight - l.borderLeft) / ((r.size : ℚ) - 1)) = -200 := by
      decide +kernel
    rw [hspacing] at hspaced
    exact hspaced (by decide)
  · have hlow : min l.borderLeft l.borderRight = -100 := by decide +kernel
    have hhigh : max l.borderLeft l.borderRight = 300 := by decide +kernel
    rwa [hlow, hhigh] at hwithin

end Roster

end Dramaturg
