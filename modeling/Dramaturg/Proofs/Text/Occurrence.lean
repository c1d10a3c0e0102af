import Dramaturg.Text.Search

set_option autoImplicit false

/-! # Occurrences

A cut finds the leftmost occurrence of a needle, so it finds one whenever there is one, and what
stands behind any occurrence also stands behind the cut. -/

namespace Dramaturg.Text

theorem cut?_nil {needle : List Char} (hneedle : needle ≠ []) : cut? needle [] = none := by
  cases needle with
  | nil => exact absurd rfl hneedle
  | cons n ns => rfl

/-- A text with an occurrence is cut there or further to the left. -/
theorem exists_cut?_eq_some (before needle rest : List Char) :
    ∃ before' rest', cut? needle (before ++ needle ++ rest) = some (before', rest') ∧
      rest <:+ rest' := by
  induction before with
  | nil =>
    have hafter : after? needle (needle ++ rest) = some rest := after?_eq_some_iff.2 rfl
    refine ⟨[], rest, ?_, List.suffix_refl rest⟩
    unfold cut?
    rw [List.nil_append, hafter]
  | cons c before ih =>
    rw [List.cons_append, List.cons_append, cut?]
    cases hafter : after? needle (c :: (before ++ needle ++ rest)) with
    | some rest' =>
      have htext : c :: (before ++ needle ++ rest) = needle ++ rest' := after?_eq_some_iff.1 hafter
      have hrest : rest <:+ needle ++ rest' := by
        rw [← htext]
        exact List.suffix_append (c :: (before ++ needle)) rest
      have hlength : rest.length ≤ rest'.length := by
        have := congrArg List.length htext
        simp only [List.length_cons, List.length_append] at this
        omega
      exact ⟨[], rest', rfl, List.suffix_of_suffix_length_le hrest (List.suffix_append _ _) hlength⟩
    | none =>
      obtain ⟨before', rest', hcut, hsuffix⟩ := ih
      exact ⟨c :: before', rest', by simp only [hcut, Option.map_some], hsuffix⟩

/-- No occurrence lies further to the left than the cut. -/
theorem length_le_of_cut? {needle text before rest before' rest' : List Char}
    (hcut : cut? needle text = some (before, rest)) (htext : text = before' ++ needle ++ rest') :
    before.length ≤ before'.length := by
  obtain ⟨before'', rest'', hcut', hsuffix⟩ := exists_cut?_eq_some before' needle rest'
  rw [← htext, hcut] at hcut'
  obtain ⟨rfl, rfl⟩ := Prod.mk.inj (Option.some.inj hcut')
  have hlength := congrArg List.length ((eq_append_of_cut? hcut).symm.trans htext)
  have hrest := hsuffix.length_le
  simp only [List.length_append] at hlength
  omega

/-! ## A text with more behind or before it -/

/-- What follows a text does not move its leftmost occurrence. -/
theorem cut?_append_of_cut? {needle text before rest : List Char} (more : List Char)
    (h : cut? needle text = some (before, rest)) :
    cut? needle (text ++ more) = some (before, rest ++ more) := by
  induction text generalizing before with
  | nil =>
    have htext := eq_append_of_cut? h
    simp only [List.nil_eq, List.append_eq_nil_iff] at htext
    obtain ⟨⟨rfl, rfl⟩, rfl⟩ := htext
    unfold cut?
    rfl
  | cons c cs ih =>
    have hlength : needle.length ≤ (c :: cs).length := by
      rw [eq_append_of_cut? h]
      simp only [List.length_append]
      omega
    rw [cut?] at h
    rw [List.cons_append, cut?]
    cases hafter : after? needle (c :: cs) with
    | some rest' =>
      rw [hafter] at h
      obtain ⟨rfl, rfl⟩ := Prod.mk.inj (Option.some.inj h)
      have hmore : after? needle (c :: (cs ++ more)) = some (rest' ++ more) := by
        rw [after?_eq_some_iff, ← List.cons_append, after?_eq_some_iff.1 hafter, List.append_assoc]
      rw [hmore]
    | none =>
      -- the needle is found further behind, so it would fit into the text here too
      have hmore : after? needle (c :: (cs ++ more)) = none := by
        refine Option.eq_none_iff_forall_ne_some.2 fun rest' hrest' => ?_
        have hprefix : needle <+: c :: cs := by
          refine List.prefix_of_prefix_length_le ?_ (List.prefix_append (c :: cs) more) hlength
          exact ⟨rest', (after?_eq_some_iff.1 hrest').symm⟩
        obtain ⟨rest'', hrest''⟩ := hprefix
        rw [after?_eq_some_iff.2 hrest''.symm] at hafter
        cases hafter
      rw [hafter] at h
      obtain ⟨⟨before', rest'⟩, hcut, hpair⟩ := Option.map_eq_some_iff.1 h
      obtain ⟨rfl, rfl⟩ := Prod.mk.inj hpair
      rw [hmore]
      simp only [ih hcut, Option.map_some]

/-- An occurrence that ends in the first part of a text is found in that part. -/
theorem cut?_of_cut?_append {needle text more before rest : List Char}
    (h : cut? needle (text ++ more) = some (before, rest ++ more)) :
    cut? needle text = some (before, rest) := by
  have htext : text = before ++ needle ++ rest := by
    have hwhole := eq_append_of_cut? h
    rw [← List.append_assoc] at hwhole
    exact List.append_cancel_right hwhole
  obtain ⟨before', rest', hcut, -⟩ := exists_cut?_eq_some before needle rest
  rw [← htext] at hcut
  rw [cut?_append_of_cut? more hcut] at h
  obtain ⟨rfl, hrest⟩ := Prod.mk.inj (Option.some.inj h)
  rw [hcut, List.append_cancel_right hrest]

/-- An occurrence that begins in the second part of a text is found in that part. -/
theorem cut?_of_cut?_append_left {needle text more before rest : List Char}
    (h : cut? needle (text ++ more) = some (text ++ before, rest)) :
    cut? needle more = some (before, rest) := by
  induction text with
  | nil => exact h
  | cons c cs ih =>
    rw [List.cons_append, cut?] at h
    cases hafter : after? needle (c :: (cs ++ more)) with
    | some rest' =>
      rw [hafter] at h
      cases (Prod.mk.inj (Option.some.inj h)).1
    | none =>
      rw [hafter] at h
      obtain ⟨⟨before', rest'⟩, hcut, hpair⟩ := Option.map_eq_some_iff.1 h
      obtain ⟨hbefore, rfl⟩ := Prod.mk.inj hpair
      rw [(List.cons.inj hbefore).2] at hcut
      exact ih hcut

/-! ## Occurring -/

theorem occurs_iff_isInfix {needle text : List Char} :
    occurs needle text = true ↔ needle <:+: text := by
  unfold occurs
  constructor
  · intro h
    obtain ⟨⟨before, rest⟩, hcut⟩ := Option.isSome_iff_exists.1 h
    exact ⟨before, rest, (eq_append_of_cut? hcut).symm⟩
  · rintro ⟨before, rest, rfl⟩
    obtain ⟨before', rest', hcut, -⟩ := exists_cut?_eq_some before needle rest
    rw [hcut]
    rfl

theorem contains_iff_isInfix {text needle : String} :
    contains text needle = true ↔ needle.toList <:+: text.toList :=
  occurs_iff_isInfix

end Dramaturg.Text
