import Dramaturg.Proofs.Text.Parts

set_option autoImplicit false

/-! # The parts of a text

A needle parts a text at its leftmost occurrence, then what follows at the leftmost occurrence in
there, and so on until it occurs no more (`Parted`). Splitting finds these parts and no others. The
needle may overlap itself: in a part with the needle behind it there is no further occurrence, as one
that begins in the part would lie further to the left. -/

namespace Dramaturg.Text

/-- The needle behind `before` is the leftmost one: no split of the same text around the needle has
    less in front of it. -/
def IsLeftmost (needle before rest : List Char) : Prop :=
  ∀ before' rest', before ++ needle ++ rest = before' ++ needle ++ rest' →
    before.length ≤ before'.length

/-- A text falls into parts that end at the leftmost occurrences of the needle, each of them looked
    for behind the one before, and a last part in which the needle does not occur. -/
inductive Parted (needle : List Char) : List Char → List (List Char) → List Char → Prop where
  | last {text : List Char} (hfree : ¬ needle <:+: text) : Parted needle text [] text
  | part {before rest : List Char} {parts : List (List Char)} {last : List Char}
      (hleftmost : IsLeftmost needle before rest) (hrest : Parted needle rest parts last) :
      Parted needle (before ++ needle ++ rest) (before :: parts) last

variable {needle text : List Char}

/-! ## Cuts -/

theorem cut?_eq_some_iff {before rest : List Char} :
    cut? needle text = some (before, rest) ↔
      text = before ++ needle ++ rest ∧ IsLeftmost needle before rest := by
  constructor
  · intro hcut
    have htext := eq_append_of_cut? hcut
    refine ⟨htext, fun before' rest' heq => ?_⟩
    exact length_le_of_cut? hcut (htext.trans heq)
  · rintro ⟨rfl, hleftmost⟩
    obtain ⟨before', rest', hcut, -⟩ := exists_cut?_eq_some before needle rest
    have htext := eq_append_of_cut? hcut
    have hlength : before.length = before'.length :=
      Nat.le_antisymm (hleftmost before' rest' htext) (length_le_of_cut? hcut rfl)
    rw [List.append_assoc, List.append_assoc] at htext
    obtain ⟨rfl, hbehind⟩ := List.append_inj htext hlength
    rw [hcut, List.append_cancel_left hbehind]

theorem cut?_eq_none_iff : cut? needle text = none ↔ ¬ needle <:+: text := by
  rw [← occurs_iff_isInfix, occurs, Bool.not_eq_true, Option.isSome_eq_false_iff,
    Option.isNone_iff_eq_none]

/-! ## Splitting finds the parts -/

theorem Parted.splitOn_eq {parts : List (List Char)} {last : List Char} (hneedle : needle ≠ [])
    (h : Parted needle text parts last) : splitOn needle text = parts ++ [last] := by
  induction h with
  | last hfree => exact splitOn_of_cut?_eq_none hneedle (cut?_eq_none_iff.2 hfree)
  | part hleftmost hrest ih =>
    rw [splitOn_of_cut?_eq_some hneedle (cut?_eq_some_iff.2 ⟨rfl, hleftmost⟩), ih]
    rfl

theorem exists_parted (hneedle : needle ≠ []) (text : List Char) :
    ∃ parts last, Parted needle text parts last := by
  fun_induction splitOn needle text with
  | case1 text hempty => exact absurd hempty hneedle
  | case2 text _ hcut => exact ⟨[], text, .last (cut?_eq_none_iff.1 hcut)⟩
  | case3 text _ before rest hcut ih =>
    obtain ⟨parts, last, hparted⟩ := ih
    obtain ⟨rfl, hleftmost⟩ := cut?_eq_some_iff.1 hcut
    exact ⟨before :: parts, last, .part hleftmost hparted⟩

/-- A text falls into parts in one way only. -/
theorem Parted.unique {parts parts' : List (List Char)} {last last' : List Char}
    (hneedle : needle ≠ []) (h : Parted needle text parts last)
    (h' : Parted needle text parts' last') : parts' = parts ∧ last' = last := by
  have heq := (h'.splitOn_eq hneedle).symm.trans (h.splitOn_eq hneedle)
  obtain ⟨hparts, hlast⟩ := List.append_inj' heq rfl
  exact ⟨hparts, List.singleton_inj.1 hlast⟩

/-! ## Where the needle occurs -/

theorem Parted.not_isInfix_last {parts : List (List Char)} {last : List Char}
    (h : Parted needle text parts last) : ¬ needle <:+: last := by
  induction h with
  | last hfree => exact hfree
  | part _ _ ih => exact ih

/-- An occurrence in a part with the needle behind it is that needle. -/
theorem IsLeftmost.eq_nil_of_append_eq {before rest before' rest' : List Char}
    (h : IsLeftmost needle before rest) (heq : before ++ needle = before' ++ needle ++ rest') :
    rest' = [] := by
  have hle : before.length ≤ before'.length :=
    h before' (rest' ++ rest) (by rw [heq, List.append_assoc])
  have hlength := congrArg List.length heq
  simp only [List.length_append] at hlength
  exact List.length_eq_zero_iff.1 (by omega)

theorem Parted.eq_nil_of_mem {parts : List (List Char)} {last part before' rest' : List Char}
    (h : Parted needle text parts last) (hpart : part ∈ parts)
    (heq : part ++ needle = before' ++ needle ++ rest') : rest' = [] := by
  induction h with
  | last _ => exact absurd hpart List.not_mem_nil
  | part hleftmost _ ih =>
    rcases List.mem_cons.1 hpart with rfl | hpart
    · exact hleftmost.eq_nil_of_append_eq heq
    · exact ih hpart

end Dramaturg.Text
