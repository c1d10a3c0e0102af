import Dramaturg.Proofs.Directive.Residue

set_option autoImplicit false

/-! # Directives across a seam

A text of several parts is stripped part by part exactly as it is stripped as a whole, as long as
no span that is taken out of the whole lies across a seam (`Rule.strip_flatten`): the leftmost span
then lies in the first part, or behind all of it. -/

namespace Dramaturg

open Text

namespace Directive

/-- Whether `before` and `rest` stand around one of the spans that are taken out of a text. -/
inductive Takes (front back : List Char) : List Char → List Char → List Char → Prop
  | first {text before behind body rest : List Char}
      (hcut : cut? front text = some (before, behind))
      (hcut' : cut? back behind = some (body, rest)) : Takes front back text before rest
  | later {text before behind body rest before' rest' : List Char}
      (hcut : cut? front text = some (before, behind))
      (hcut' : cut? back behind = some (body, rest)) (h : Takes front back rest before' rest') :
      Takes front back text (before ++ front ++ body ++ back ++ before') rest'

/-- Whether a span that is taken out begins in the first text and ends in the second. -/
def CutsAcross (front back u v : List Char) : Prop :=
  ∃ before rest, Takes front back (u ++ v) before rest ∧ before.length < u.length ∧
    rest.length < v.length

variable {front back u v : List Char}

theorem Takes.hasSpan {text before rest : List Char} (h : Takes front back text before rest) :
    HasSpan front back text := by
  cases h with
  | first hcut hcut' => exact hasSpan_of_cut? hcut hcut'
  | later hcut hcut' _ => exact hasSpan_of_cut? hcut hcut'

/-- A span that is taken out is the first one or taken out of what stands behind it. -/
theorem takes_iff {text before behind body rest before' rest' : List Char}
    (hcut : cut? front text = some (before, behind))
    (hcut' : cut? back behind = some (body, rest)) :
    Takes front back text before' rest' ↔
      (before' = before ∧ rest' = rest) ∨
        ∃ skipped, before' = before ++ front ++ body ++ back ++ skipped ∧
          Takes front back rest skipped rest' := by
  constructor
  · intro h
    cases h with
    | first hcut₁ hcut₁' =>
      obtain ⟨rfl, rfl⟩ := Prod.mk.inj (Option.some.inj (hcut.symm.trans hcut₁))
      obtain ⟨-, rfl⟩ := Prod.mk.inj (Option.some.inj (hcut'.symm.trans hcut₁'))
      exact .inl ⟨rfl, rfl⟩
    | later hcut₁ hcut₁' htakes =>
      obtain ⟨rfl, rfl⟩ := Prod.mk.inj (Option.some.inj (hcut.symm.trans hcut₁))
      obtain ⟨rfl, rfl⟩ := Prod.mk.inj (Option.some.inj (hcut'.symm.trans hcut₁'))
      exact .inr ⟨_, rfl, htakes⟩
  · rintro (⟨rfl, rfl⟩ | ⟨skipped, rfl, htakes⟩)
    · exact .first hcut hcut'
    · exact .later hcut hcut' htakes

/-- The first span that is taken out lies behind the seam or before it. -/
theorem first_span_cases {before behind body rest : List Char} (hfront : front ≠ [])
    (h : ¬ CutsAcross front back u v) (hcut : cut? front (u ++ v) = some (before, behind))
    (hcut' : cut? back behind = some (body, rest)) :
    (∃ x, before = u ++ x ∧ cut? front v = some (x, behind) ∧ ¬ HasSpan front back u) ∨
      (∃ behind' y, rest = y ++ v ∧ cut? front u = some (before, behind') ∧
        cut? back behind' = some (body, y)) := by
  have htext := eq_append_of_cut? hcut
  have hbehind := eq_append_of_cut? hcut'
  rcases Nat.lt_or_ge before.length u.length with hbefore | hbefore
  · right
    have hrest : v.length ≤ rest.length :=
      Nat.le_of_not_lt fun hlt => h ⟨before, rest, .first hcut hcut', hbefore, hlt⟩
    obtain ⟨y, rfl⟩ : v <:+ rest := by
      refine List.suffix_of_suffix_length_le (List.suffix_append u v) ?_ hrest
      rw [htext, hbehind]
      exact (List.suffix_append _ _).trans (List.suffix_append _ _)
    rw [← List.append_assoc] at hbehind
    rw [hbehind] at hcut hcut'
    exact ⟨body ++ back ++ y, y, rfl, cut?_of_cut?_append hcut, cut?_of_cut?_append hcut'⟩
  · left
    obtain ⟨x, rfl⟩ : u <+: before := by
      refine List.prefix_of_prefix_length_le (List.prefix_append u v) ?_ hbefore
      rw [htext, List.append_assoc]
      exact List.prefix_append _ _
    refine ⟨x, rfl, cut?_of_cut?_append_left hcut, fun hspan => ?_⟩
    -- a front delimiter in the first text would be the leftmost one of both
    obtain ⟨before', behind', -, -, hcutu, -⟩ := exists_cut?_of_hasSpan hspan
    have hleft := cut?_append_of_cut? v hcutu
    rw [hcut] at hleft
    obtain ⟨hx, -⟩ := Prod.mk.inj (Option.some.inj hleft)
    have hlength := congrArg List.length (eq_append_of_cut? hcutu)
    have hpos := List.length_pos_iff.2 hfront
    rw [← hx] at hlength
    simp only [List.length_append] at hlength
    omega

/-- Where the first span of both texts is that of the second, its spans are spans of both. -/
theorem Takes.append_left {before behind body rest before' rest' : List Char}
    (h : Takes front back v before' rest') (hcutv : cut? front v = some (before, behind))
    (hcut : cut? front (u ++ v) = some (u ++ before, behind))
    (hcut' : cut? back behind = some (body, rest)) :
    Takes front back (u ++ v) (u ++ before') rest' := by
  rw [takes_iff hcutv hcut'] at h
  rw [takes_iff hcut hcut']
  rcases h with ⟨rfl, rfl⟩ | ⟨skipped, rfl, htakes⟩
  · exact .inl ⟨rfl, rfl⟩
  · exact .inr ⟨skipped, by simp only [List.append_assoc], htakes⟩

/-- If no span lies across the seam, both texts are stripped apart, and the spans that are taken out
    of the second are taken out of both together. -/
theorem removeSpans_append (hfront : front ≠ []) (h : ¬ CutsAcross front back u v) :
    removeSpans front back (u ++ v) = removeSpans front back u ++ removeSpans front back v ∧
      ∀ before rest, Takes front back v before rest →
        Takes front back (u ++ v) (u ++ before) rest := by
  induction hlength : u.length using Nat.strong_induction_on generalizing u with
  | _ length ih =>
    by_cases hspan : HasSpan front back (u ++ v)
    · obtain ⟨before, behind, body, rest, hcut, hcut'⟩ := exists_cut?_of_hasSpan hspan
      rw [removeSpans_eq_append hfront hcut hcut']
      rcases first_span_cases hfront h hcut hcut' with
        ⟨x, rfl, hcutv, hnone⟩ | ⟨behind', y, rfl, hcutu, hcutu'⟩
      · rw [removeSpans_eq_append hfront hcutv hcut', removeSpans_eq_self hnone, List.append_assoc]
        exact ⟨rfl, fun _ _ htakes => htakes.append_left hcutv hcut hcut'⟩
      · -- the induction goes on with what the first text holds behind its first span
        have hu : u = before ++ front ++ body ++ back ++ y := by
          rw [eq_append_of_cut? hcutu, eq_append_of_cut? hcutu']
          simp only [List.append_assoc]
        have hshorter : y.length < length := by
          have hpos := List.length_pos_iff.2 hfront
          rw [← hlength, hu]
          simp only [List.length_append]
          omega
        have hy : ¬ CutsAcross front back y v := by
          rintro ⟨before', rest', htakes, hbefore, hrest⟩
          refine h ⟨_, rest', .later hcut hcut' htakes, ?_, hrest⟩
          rw [hu]
          simp only [List.length_append] at hbefore ⊢
          omega
        obtain ⟨hremove, htakes⟩ := ih y.length hshorter hy rfl
        rw [removeSpans_eq_append hfront hcutu hcutu', hremove, List.append_assoc]
        refine ⟨rfl, fun before' rest' h' => (takes_iff hcut hcut').2 (.inr ⟨y ++ before', ?_, ?_⟩)⟩
        · rw [hu, List.append_assoc]
        · exact htakes before' rest' h'
    · have hnone {t : List Char} (ht : t <:+: u ++ v) : ¬ HasSpan front back t :=
        fun hspan' => hspan (hspan'.of_isInfix ht)
      have hu := hnone (List.prefix_append u v).isInfix
      have hv := hnone (List.suffix_append u v).isInfix
      rw [removeSpans_eq_self hspan, removeSpans_eq_self hu, removeSpans_eq_self hv]
      exact ⟨rfl, fun _ _ htakes => absurd htakes.hasSpan hv⟩

/-- A text of several parts is stripped part by part if no span lies across one of its seams. -/
theorem removeSpans_flatten (hfront : front ≠ []) {parts : List (List Char)}
    (h : ∀ before behind, parts = before ++ behind →
      ¬ CutsAcross front back before.flatten behind.flatten) :
    removeSpans front back parts.flatten = (parts.map (removeSpans front back)).flatten := by
  induction parts with
  | nil =>
    have hnone : ¬ HasSpan front back [] := by
      rintro ⟨before, body, rest, hnil⟩
      simp [hfront] at hnil
    exact removeSpans_eq_self hnone
  | cons part parts ih =>
    have hseam : ¬ CutsAcross front back part parts.flatten := by
      simpa only [List.flatten_singleton] using h [part] parts rfl
    obtain ⟨hremove, htakes⟩ := removeSpans_append hfront hseam
    rw [List.flatten_cons, List.map_cons, List.flatten_cons, hremove, ih]
    rintro before behind rfl ⟨left, right, hspan, hleft, hright⟩
    rw [← List.flatten_append] at hspan
    refine h (part :: before) behind rfl ⟨part ++ left, right, ?_, ?_, hright⟩
    · rw [← List.flatten_append]
      exact htakes left right hspan
    · simp only [List.flatten_cons, List.length_append]
      omega

end Directive

open Directive

/-! ## Rules -/

/-- Whether a rule takes a span out of a text that lies across one of the seams of its parts. -/
def Rule.CutsAcross (r : Rule) (parts : List (List Char)) : Prop :=
  r.isEnabled = true ∧ ∃ before behind, parts = before ++ behind ∧
    Directive.CutsAcross r.front.toList r.back.toList before.flatten behind.flatten

/-- A rule that cuts across no seam strips a text part by part. -/
theorem Rule.strip_flatten {r : Rule} {parts : List (List Char)} (h : ¬ r.CutsAcross parts) :
    r.strip parts.flatten = (parts.map r.strip).flatten := by
  unfold strip
  split
  · rename_i hr
    exact removeSpans_flatten (r.front_ne_nil hr)
      fun before behind hparts hcuts => h ⟨hr, before, behind, hparts, hcuts⟩
  · rw [List.map_id']

/-- Where a rule changes nothing it cuts across nothing. -/
theorem Rule.not_cutsAcross_of_strip_eq {r : Rule} {parts : List (List Char)}
    (h : r.strip parts.flatten = parts.flatten) : ¬ r.CutsAcross parts := by
  rintro ⟨hr, before, behind, rfl, left, right, htakes, -⟩
  rw [← List.flatten_append] at htakes
  exact not_hasSpan_of_strip_eq h hr htakes.hasSpan

end Dramaturg
