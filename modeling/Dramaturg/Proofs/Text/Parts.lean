import Dramaturg.Proofs.Text.Occurrence

set_option autoImplicit false

/-! # Joined parts

Parts that share no character with a needle can be joined by it and split again, since the needle is
found nowhere else. In the same way a text is split at characters that no part has. -/

namespace Dramaturg.Text

/-! ## A needle behind other characters -/

theorem after?_cons_of_not_mem {needle : List Char} (hneedle : needle ≠ []) {c : Char}
    (hc : c ∉ needle) (text : List Char) : after? needle (c :: text) = none := by
  cases needle with
  | nil => exact absurd rfl hneedle
  | cons n ns =>
    have hne : n ≠ c := fun heq => hc (heq ▸ List.mem_cons_self)
    exact if_neg hne

/-- What stands before a text and shares no character with the needle is passed over. -/
theorem cut?_append_of_not_mem {needle : List Char} (hneedle : needle ≠ []) {part : List Char}
    (hpart : ∀ c ∈ part, c ∉ needle) (text : List Char) :
    cut? needle (part ++ text)
      = (cut? needle text).map fun (before, rest) => (part ++ before, rest) := by
  induction part with
  | nil => exact Option.map_id'.symm
  | cons c part ih =>
    obtain ⟨hc, hpart⟩ := List.forall_mem_cons.1 hpart
    rw [List.cons_append, cut?, after?_cons_of_not_mem hneedle hc]
    simp only [ih hpart, Option.map_map]
    rfl

theorem cut?_eq_none_of_not_mem {needle : List Char} (hneedle : needle ≠ []) {part : List Char}
    (hpart : ∀ c ∈ part, c ∉ needle) : cut? needle part = none := by
  rw [← List.append_nil part, cut?_append_of_not_mem hneedle hpart, cut?_nil hneedle]
  rfl

theorem cut?_append_needle {needle : List Char} (hneedle : needle ≠ []) {part : List Char}
    (hpart : ∀ c ∈ part, c ∉ needle) (rest : List Char) :
    cut? needle (part ++ (needle ++ rest)) = some (part, rest) := by
  have hhere : cut? needle (needle ++ rest) = some ([], rest) := by
    unfold cut?
    rw [after?_eq_some_iff.2 rfl]
  rw [cut?_append_of_not_mem hneedle hpart, hhere]
  simp only [Option.map_some, List.append_nil]

/-! ## Splitting at a needle -/

theorem splitOn_of_cut?_eq_none {needle text : List Char} (hneedle : needle ≠ [])
    (hcut : cut? needle text = none) : splitOn needle text = [text] := by
  rw [splitOn, dif_neg hneedle]
  split
  case h_1 => rfl
  case h_2 hsome => simp [hcut] at hsome

theorem splitOn_of_cut?_eq_some {needle text before rest : List Char} (hneedle : needle ≠ [])
    (hcut : cut? needle text = some (before, rest)) :
    splitOn needle text = before :: splitOn needle rest := by
  rw [splitOn, dif_neg hneedle]
  split
  case h_1 hnone => simp [hcut] at hnone
  case h_2 before' rest' hsome =>
    rw [hcut] at hsome
    obtain ⟨rfl, rfl⟩ := Prod.mk.inj (Option.some.inj hsome)
    rfl

/-- Parts without characters of the needle are told apart by it. -/
theorem splitOn_intercalate {needle : List Char} (hneedle : needle ≠ [])
    {parts : List (List Char)} (hne : parts ≠ []) (hparts : ∀ part ∈ parts, ∀ c ∈ part, c ∉ needle) :
    splitOn needle (needle.intercalate parts) = parts := by
  induction parts with
  | nil => exact absurd rfl hne
  | cons part parts ih =>
    obtain ⟨hpart, hparts⟩ := List.forall_mem_cons.1 hparts
    cases parts with
    | nil =>
      rw [List.intercalate_singleton]
      exact splitOn_of_cut?_eq_none hneedle (cut?_eq_none_of_not_mem hneedle hpart)
    | cons next parts =>
      rw [List.intercalate_cons_cons, List.append_assoc,
        splitOn_of_cut?_eq_some hneedle (cut?_append_needle hneedle hpart _),
        ih (List.cons_ne_nil next parts) hparts]

/-! ## Splitting at single characters -/

section

variable {sep : Char → Bool} {part : List Char} (hpart : ∀ c ∈ part, sep c = false)

include hpart in
theorem splitAny_eq_singleton : splitAny sep part = [part] := by
  induction part with
  | nil => rfl
  | cons c part ih =>
    obtain ⟨hc, hpart⟩ := List.forall_mem_cons.1 hpart
    rw [splitAny, hc, ih hpart]
    rfl

include hpart in
theorem splitAny_append_cons {c : Char} (hc : sep c = true) (rest : List Char) :
    splitAny sep (part ++ c :: rest) = part :: splitAny sep rest := by
  induction part with
  | nil => exact if_pos hc
  | cons d part ih =>
    obtain ⟨hd, hpart⟩ := List.forall_mem_cons.1 hpart
    rw [List.cons_append, splitAny, hd, ih hpart]
    rfl

end

end Dramaturg.Text
