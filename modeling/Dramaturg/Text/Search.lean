set_option autoImplicit false

/-! # Finding and cutting texts

Searches work on lists of characters. `cut?` finds the leftmost occurrence of a needle and gives
the text before it and the text after it; splitting, replacing and containment are built on it.
The lemmas that stand here say where a cut lies and that what follows it is shorter, which is
what every loop over the remaining text needs to end. -/

namespace Dramaturg.Text

/-! ## A needle at the front -/

/-- What follows `needle` in `text`, if the text begins with it. -/
def after? : List Char → List Char → Option (List Char)
  | [], text => some text
  | _ :: _, [] => none
  | n :: ns, c :: cs => if n = c then after? ns cs else none

theorem after?_eq_some_iff {needle text rest : List Char} :
    after? needle text = some rest ↔ text = needle ++ rest := by
  induction needle generalizing text with
  | nil => simp [after?, eq_comm]
  | cons n ns ih =>
    cases text with
    | nil => simp [after?]
    | cons c cs =>
      by_cases h : n = c
      · simp [after?, h, ih]
      · simp [after?, h, Ne.symm h]

/-! ## The leftmost occurrence -/

/-- The text before the leftmost occurrence of `needle`, and the text after it. -/
def cut? (needle : List Char) (text : List Char) : Option (List Char × List Char) :=
  match after? needle text with
  | some rest => some ([], rest)
  | none =>
    match text with
    | [] => none
    | c :: cs => (cut? needle cs).map fun (before, rest) => (c :: before, rest)

/-- A cut puts the text back together. -/
theorem eq_append_of_cut? {needle text before rest : List Char}
    (h : cut? needle text = some (before, rest)) : text = before ++ needle ++ rest := by
  induction text generalizing before with
  | nil =>
    unfold cut? at h
    split at h
    · rename_i r hr
      simp only [Option.some.injEq, Prod.mk.injEq] at h
      obtain ⟨rfl, rfl⟩ := h
      simpa using after?_eq_some_iff.1 hr
    · simp at h
  | cons c cs ih =>
    unfold cut? at h
    split at h
    · rename_i r hr
      simp only [Option.some.injEq, Prod.mk.injEq] at h
      obtain ⟨rfl, rfl⟩ := h
      simpa using after?_eq_some_iff.1 hr
    · simp only [Option.map_eq_some_iff, Prod.exists] at h
      obtain ⟨b, r, hb, heq⟩ := h
      simp only [Prod.mk.injEq] at heq
      obtain ⟨rfl, rfl⟩ := heq
      simpa using ih hb

/-- The text after a cut is shorter than the text cut, for a needle that is not empty. -/
theorem length_lt_of_cut? {needle text before rest : List Char} (hn : needle ≠ [])
    (h : cut? needle text = some (before, rest)) : rest.length < text.length := by
  have hlen : 0 < needle.length := List.length_pos_iff.2 hn
  rw [eq_append_of_cut? h]
  simp only [List.length_append]
  omega

/-- Whether `needle` occurs in `text`. Every text contains the empty one. -/
def occurs (needle text : List Char) : Bool :=
  (cut? needle text).isSome

/-- The function `occurs` on strings. -/
def contains (text needle : String) : Bool :=
  occurs needle.toList text.toList

/-! ## Splitting and replacing -/

set_option linter.unusedVariables false in
/-- The parts of `text` between the leftmost, non-overlapping occurrences of `needle`; the whole
    text for an empty needle. -/
def splitOn (needle text : List Char) : List (List Char) :=
  if hn : needle = [] then [text]
  else
    match h : cut? needle text with
    | none => [text]
    | some (before, rest) => before :: splitOn needle rest
termination_by text.length
decreasing_by exact length_lt_of_cut? hn h

/-- The parts of `text` between the characters that satisfy `sep`. -/
def splitAny (sep : Char → Bool) : List Char → List (List Char)
  | [] => [[]]
  | c :: cs =>
    if sep c then [] :: splitAny sep cs
    else
      match splitAny sep cs with
      | [] => [[c]]
      | part :: parts => (c :: part) :: parts

/-- The text with each of the leftmost, non-overlapping occurrences of `needle` replaced. -/
def replaceAll (needle replacement text : List Char) : List Char :=
  List.intercalate replacement (splitOn needle text)

/-- The function `replaceAll` on strings, for a needle that is not empty. -/
def replaced (needle replacement text : String) : String :=
  String.ofList (replaceAll needle.toList replacement.toList text.toList)

end Dramaturg.Text
