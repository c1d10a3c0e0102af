import Dramaturg.Directive.Rule

set_option autoImplicit false

/-! # Cleaning a reply

Cleaning takes the directives out of a text, across lines too, and tidies the blanks that are left.
Taking one out can put the delimiters of another together, so a pass is repeated until it changes
nothing. A pass that changes a text makes it shorter (`cleanPass_eq_or_length_lt`), so the
repetition ends, at a text that every further pass leaves alone. -/

namespace Dramaturg

open Text

namespace Directive

/-! ## Removing directives -/

set_option linter.unusedVariables false in
/-- The text without the spans that run from `front` to the nearest `back` behind it. An empty
    `front` delimits nothing. -/
def removeSpans (front back : List Char) (text : List Char) : List Char :=
  if hf : front = [] then text
  else
    match h : cut? front text with
    | none => text
    | some (before, body) =>
      match h' : cut? back body with
      | none => text
      | some (_, rest) => before ++ removeSpans front back rest
termination_by text.length
decreasing_by
  have h₁ := length_lt_of_cut? hf h
  have h₂ := eq_append_of_cut? h'
  simp only [h₂, List.length_append] at h₁
  omega

/-- Removing spans leaves a text alone or makes it shorter. -/
theorem removeSpans_eq_or_length_lt (front back text : List Char) :
    removeSpans front back text = text ∨ (removeSpans front back text).length < text.length := by
  fun_induction removeSpans front back text with
  | case1 => exact .inl rfl
  | case2 => exact .inl rfl
  | case3 => exact .inl rfl
  | case4 text hf before body h _ rest h' ih =>
    refine .inr ?_
    have hlen := List.length_pos_iff.2 hf
    have h₁ := eq_append_of_cut? h
    have h₂ := eq_append_of_cut? h'
    have h₃ : (removeSpans front back rest).length ≤ rest.length := by
      rcases ih with ih | ih
      · exact Nat.le_of_eq (congrArg List.length ih)
      · exact Nat.le_of_lt ih
    rw [h₁, h₂]
    simp only [List.length_append]
    omega

end Directive

/-- The text without the directives of a rule; a disabled rule has none. -/
def Rule.strip (r : Rule) (text : List Char) : List Char :=
  if r.isEnabled then Directive.removeSpans r.front.toList r.back.toList text else text

theorem Rule.strip_eq_or_length_lt (r : Rule) (text : List Char) :
    r.strip text = text ∨ (r.strip text).length < text.length := by
  unfold Rule.strip
  split
  · exact Directive.removeSpans_eq_or_length_lt _ _ _
  · exact .inl rfl

namespace Directive

/-- The text without the directives of several rules, taken out one rule after the other. -/
def stripAll (rules : List Rule) (text : List Char) : List Char :=
  rules.foldl (fun text r => r.strip text) text

theorem stripAll_eq_or_length_lt (rules : List Rule) (text : List Char) :
    stripAll rules text = text ∨ (stripAll rules text).length < text.length := by
  induction rules generalizing text with
  | nil => exact .inl rfl
  | cons r rules ih =>
    have step : stripAll (r :: rules) text = stripAll rules (r.strip text) := rfl
    rw [step]
    rcases r.strip_eq_or_length_lt text with h | h
    · rw [h]
      exact ih text
    · refine .inr ?_
      rcases ih (r.strip text) with h' | h'
      · rwa [h']
      · exact Nat.lt_trans h' h

/-! ## Blanks -/

/-- What a run of blanks is turned into: a single blank stays, more become one space. -/
def tidyRun : List Char → List Char
  | _ :: _ :: _ => [' ']
  | run => run

/-- The text with its runs of blanks tidied; `run` holds the blanks just passed, in reverse. -/
def tidyAfter (run : List Char) : List Char → List Char
  | [] => tidyRun run
  | c :: cs => if isBlank c then tidyAfter (c :: run) cs else tidyRun run ++ c :: tidyAfter [] cs

theorem tidyRun_eq_or_length_lt (run : List Char) :
    tidyRun run = run.reverse ∨ (tidyRun run).length < run.length := by
  match run with
  | [] => exact .inl rfl
  | [_] => exact .inl rfl
  | _ :: _ :: _ => exact .inr (by simp [tidyRun])

theorem tidyAfter_eq_or_length_lt (run text : List Char) :
    tidyAfter run text = run.reverse ++ text ∨
      (tidyAfter run text).length < run.length + text.length := by
  induction text generalizing run with
  | nil => simpa [tidyAfter] using tidyRun_eq_or_length_lt run
  | cons c cs ih =>
    unfold tidyAfter
    split
    · rcases ih (c :: run) with h | h
      · exact .inl (by simp [h])
      · refine .inr ?_
        simp only [List.length_cons] at h ⊢
        omega
    · have hrun := tidyRun_eq_or_length_lt run
      have hrest := ih []
      simp only [List.reverse_nil, List.nil_append, List.length_nil, Nat.zero_add] at hrest
      rcases hrun with h | h
      · rcases hrest with h' | h'
        · exact .inl (by simp [h, h'])
        · refine .inr ?_
          simp only [h, List.length_append, List.length_reverse, List.length_cons]
          omega
      · refine .inr ?_
        have : (tidyAfter [] cs).length ≤ cs.length := by
          rcases hrest with h' | h'
          · exact Nat.le_of_eq (congrArg List.length h')
          · exact Nat.le_of_lt h'
        simp only [List.length_append, List.length_cons]
        omega

/-- The text with each run of two or more blanks made one space, and none at its ends. -/
def collapseBlanks (text : List Char) : List Char :=
  trim (tidyAfter [] text)

theorem trim_eq_or_length_lt (text : List Char) :
    trim text = text ∨ (trim text).length < text.length := by
  have h : (trim text).Sublist text := by
    unfold trim trimRight trimLeft
    refine List.Sublist.trans ?_ (List.dropWhile_sublist isBlank)
    simpa using (List.dropWhile_sublist isBlank
      (l := (text.dropWhile isBlank).reverse)).reverse
  rcases Nat.lt_or_ge (trim text).length text.length with h' | h'
  · exact .inr h'
  · exact .inl (h.eq_of_length_le h')

theorem collapseBlanks_eq_or_length_lt (text : List Char) :
    collapseBlanks text = text ∨ (collapseBlanks text).length < text.length := by
  unfold collapseBlanks
  have h := tidyAfter_eq_or_length_lt [] text
  simp only [List.reverse_nil, List.nil_append, List.length_nil, Nat.zero_add] at h
  rcases h with h | h
  · rw [h]
    exact trim_eq_or_length_lt text
  · refine .inr ?_
    rcases trim_eq_or_length_lt (tidyAfter [] text) with h' | h'
    · rwa [h']
    · exact Nat.lt_trans h' h

/-! ## Repeating -/

/-- One pass over a text: the rules in their order, then the blanks. -/
def cleanPass (rules : List Rule) (text : List Char) : List Char :=
  collapseBlanks (stripAll rules text)

/-- A pass leaves a text alone or makes it shorter. -/
theorem cleanPass_eq_or_length_lt (rules : List Rule) (text : List Char) :
    cleanPass rules text = text ∨ (cleanPass rules text).length < text.length := by
  unfold cleanPass
  rcases stripAll_eq_or_length_lt rules text with h | h
  · rw [h]
    exact collapseBlanks_eq_or_length_lt text
  · refine .inr ?_
    rcases collapseBlanks_eq_or_length_lt (stripAll rules text) with h' | h'
    · rwa [h']
    · exact Nat.lt_trans h' h

/-- The text after as many passes as it takes for one to change nothing. -/
def cleanText (rules : List Rule) (text : List Char) : List Char :=
  if cleanPass rules text = text then text else cleanText rules (cleanPass rules text)
termination_by text.length
decreasing_by exact (cleanPass_eq_or_length_lt rules text).resolve_left ‹_›

/-- A cleaned text is one that a pass leaves alone. -/
theorem cleanPass_cleanText (rules : List Rule) (text : List Char) :
    cleanPass rules (cleanText rules text) = cleanText rules text := by
  fun_induction cleanText rules text with
  | case1 _ h => exact h
  | case2 _ _ ih => exact ih

end Directive

end Dramaturg
