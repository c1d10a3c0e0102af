import Dramaturg.Directive.Cleanup
import Mathlib.Data.List.Chain

set_option autoImplicit false

/-! # Tidy blanks

Tidying the blanks of a text leaves none at its ends and no two beside each other, and touches
nothing but blanks: what is left of the other characters is what was there, in its order. -/

namespace Dramaturg

open Text

namespace Directive

/-- No blank stands at either end of a text or beside another. -/
structure Tidy (text : List Char) : Prop where
  first : ∀ c ∈ text.head?, isBlank c = false
  last : ∀ c ∈ text.getLast?, isBlank c = false
  apart : text.IsChain fun c d => ¬ (isBlank c = true ∧ isBlank d = true)

/-- The characters of a text that are no blanks, in order. -/
def solid (text : List Char) : List Char := text.filter fun c => !isBlank c

@[simp] theorem solid_append (s t : List Char) : solid (s ++ t) = solid s ++ solid t :=
  List.filter_append ..

theorem solid_eq_nil {text : List Char} (h : ∀ c ∈ text, isBlank c = true) : solid text = [] := by
  refine List.filter_eq_nil_iff.2 fun c hc => ?_
  simp [h c hc]

/-! ## Trimming -/

theorem exists_trimRight_append (text : List Char) : ∃ cut, trimRight text ++ cut = text := by
  have hsuffix : text.reverse.dropWhile isBlank <:+ text.reverse := List.dropWhile_suffix isBlank
  have hprefix := List.reverse_prefix.2 hsuffix
  rwa [List.reverse_reverse] at hprefix

theorem isInfix_trim (text : List Char) : trim text <:+: text := by
  obtain ⟨cut, hcut⟩ := exists_trimRight_append (trimLeft text)
  obtain ⟨blanks, hblanks⟩ : trimLeft text <:+ text := List.dropWhile_suffix isBlank
  refine ⟨blanks, cut, ?_⟩
  rw [trim, List.append_assoc, hcut, hblanks]

theorem isBlank_eq_false_of_mem_head?_dropWhile {text : List Char} {c : Char}
    (hc : c ∈ (text.dropWhile isBlank).head?) : isBlank c = false := by
  have hnot := List.head?_dropWhile_not isBlank text
  rw [Option.mem_def.1 hc] at hnot
  exact hnot

theorem isBlank_eq_false_of_mem_head?_trim {text : List Char} {c : Char}
    (hc : c ∈ (trim text).head?) : isBlank c = false := by
  -- a text that is not cut off to nothing begins as before
  obtain ⟨cut, hcut⟩ := exists_trimRight_append (trimLeft text)
  have hleft : c ∈ (text.dropWhile isBlank).head? := by
    have hwhole : text.dropWhile isBlank = trim text ++ cut := hcut.symm
    rw [hwhole, List.head?_append, Option.mem_def.1 hc]
    rfl
  exact isBlank_eq_false_of_mem_head?_dropWhile hleft

theorem isBlank_eq_false_of_mem_getLast?_trim {text : List Char} {c : Char}
    (hc : c ∈ (trim text).getLast?) : isBlank c = false := by
  rw [trim, trimRight, List.getLast?_reverse] at hc
  exact isBlank_eq_false_of_mem_head?_dropWhile hc

theorem dropWhile_isBlank_eq_self {text : List Char} (h : ∀ c ∈ text.head?, isBlank c = false) :
    text.dropWhile isBlank = text := by
  cases text with
  | nil => rfl
  | cons c cs => exact List.dropWhile_cons_of_neg (by simp [h c rfl])

theorem trim_eq_self {text : List Char} (hfirst : ∀ c ∈ text.head?, isBlank c = false)
    (hlast : ∀ c ∈ text.getLast?, isBlank c = false) : trim text = text := by
  have hright : ∀ c ∈ text.reverse.head?, isBlank c = false := by
    rwa [List.head?_reverse]
  rw [trim, trimLeft, dropWhile_isBlank_eq_self hfirst, trimRight,
    dropWhile_isBlank_eq_self hright, List.reverse_reverse]

theorem trim_trim (text : List Char) : trim (trim text) = trim text :=
  trim_eq_self (fun _ => isBlank_eq_false_of_mem_head?_trim)
    fun _ => isBlank_eq_false_of_mem_getLast?_trim

/-! ## Runs of blanks -/

theorem isChain_tidyRun (R : Char → Char → Prop) (run : List Char) : (tidyRun run).IsChain R := by
  match run with
  | [] => exact .nil
  | [c] => exact .singleton c
  | _ :: _ :: _ => exact .singleton ' '

/-- No two blanks stand beside each other in a text whose runs of blanks are tidied. -/
theorem isChain_tidyAfter (run text : List Char) :
    (tidyAfter run text).IsChain fun c d => ¬ (isBlank c = true ∧ isBlank d = true) := by
  induction text generalizing run with
  | nil => exact isChain_tidyRun _ run
  | cons c cs ih =>
    rw [tidyAfter]
    split
    · exact ih (c :: run)
    · rename_i hc
      have hrest : (c :: tidyAfter [] cs).IsChain
          fun c d => ¬ (isBlank c = true ∧ isBlank d = true) := by
        refine List.isChain_cons.2 ⟨?_, ih []⟩
        intro d _ hboth
        exact hc hboth.1
      refine List.isChain_append.2 ⟨isChain_tidyRun _ run, hrest, ?_⟩
      intro d _ d' hd' hboth
      obtain rfl := Option.some.inj hd'
      exact hc hboth.2

theorem solid_tidyRun {run : List Char} (hrun : ∀ c ∈ run, isBlank c = true) :
    solid (tidyRun run) = [] := by
  match run with
  | [] => rfl
  | [c] => exact solid_eq_nil hrun
  | _ :: _ :: _ => rfl

theorem solid_tidyAfter {run : List Char} (hrun : ∀ c ∈ run, isBlank c = true)
    (text : List Char) : solid (tidyAfter run text) = solid text := by
  induction text generalizing run with
  | nil => exact solid_tidyRun hrun
  | cons c cs ih =>
    rw [tidyAfter]
    split
    · rename_i hc
      have hlonger : ∀ d ∈ c :: run, isBlank d = true := by
        intro d hd
        rcases List.mem_cons.1 hd with rfl | hd
        · exact hc
        · exact hrun d hd
      rw [ih hlonger]
      simp [solid, hc]
    · rename_i hc
      rw [solid_append, solid_tidyRun hrun, List.nil_append]
      have hrest : solid (tidyAfter [] cs) = solid cs := ih (by simp)
      simp only [solid, List.filter_cons, hc] at hrest ⊢
      rw [hrest]

/-! ## Both -/

theorem tidy_collapseBlanks (text : List Char) : Tidy (collapseBlanks text) where
  first _ := isBlank_eq_false_of_mem_head?_trim
  last _ := isBlank_eq_false_of_mem_getLast?_trim
  apart := by
    obtain ⟨before, behind, hwhole⟩ := isInfix_trim (tidyAfter [] text)
    have hchain := isChain_tidyAfter [] text
    rw [← hwhole] at hchain
    exact hchain.left_of_append.right_of_append

theorem solid_collapseBlanks_sublist (text : List Char) :
    (solid (collapseBlanks text)).Sublist (solid text) := by
  have htrim : (solid (collapseBlanks text)).Sublist (solid (tidyAfter [] text)) :=
    (isInfix_trim _).sublist.filter _
  rwa [solid_tidyAfter (by simp)] at htrim

end Directive

end Dramaturg
