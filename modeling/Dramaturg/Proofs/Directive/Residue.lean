import Dramaturg.Directive.Bundle
import Dramaturg.Proofs.Directive.Leftmost
import Dramaturg.Proofs.Directive.Tidy
import Mathlib.Logic.Function.Iterate

set_option autoImplicit false

/-! # What is left of a cleaned text

Taking out one directive can put the delimiters of another together, and so can tidying blanks, so
no single pass leaves a text without directives. Cleaning stops at a text that a whole pass leaves
alone. As each of its stages leaves a text alone or makes it shorter, none of them can make up for
another, and each leaves that text alone (`strip_eq_of_cleanPass_eq`): no rule finds a directive in
it, on one line or across lines. -/

namespace Dramaturg

open Text

namespace Directive

/-! ## Spans -/

/-- Somewhere in a text `front` stands, and behind it `back`, without overlap. -/
def HasSpan (front back text : List Char) : Prop :=
  ∃ before body rest, text = before ++ front ++ body ++ back ++ rest

theorem removeSpans_eq_append {front back text before behind body rest : List Char}
    (hfront : front ≠ []) (hcut : cut? front text = some (before, behind))
    (hcut' : cut? back behind = some (body, rest)) :
    removeSpans front back text = before ++ removeSpans front back rest := by
  rw [removeSpans, dif_neg hfront]
  split
  case h_1 hnone => simp [hcut] at hnone
  case h_2 before₁ behind₁ hsome =>
    rw [hcut] at hsome
    obtain ⟨rfl, rfl⟩ := Prod.mk.inj (Option.some.inj hsome)
    split
    case h_1 hnone => simp [hcut'] at hnone
    case h_2 body₁ rest₁ hsome' =>
      rw [hcut'] at hsome'
      obtain ⟨rfl, rfl⟩ := Prod.mk.inj (Option.some.inj hsome')
      rfl

/-- Where there is a span, one is found. -/
theorem exists_cut?_of_hasSpan {front back text : List Char} (h : HasSpan front back text) :
    ∃ before behind body rest, cut? front text = some (before, behind) ∧
      cut? back behind = some (body, rest) := by
  obtain ⟨before, body, rest, rfl⟩ := h
  -- what stands behind some front delimiter also stands behind the leftmost one
  obtain ⟨before', behind, hcut, skipped, hbehind⟩ :=
    exists_cut?_eq_some before front (body ++ back ++ rest)
  obtain ⟨body', rest', hcut', -⟩ := exists_cut?_eq_some (skipped ++ body) back rest
  have hsplit : skipped ++ body ++ back ++ rest = behind := by
    rw [← hbehind]
    simp only [List.append_assoc]
  have htext : before ++ front ++ body ++ back ++ rest
      = before ++ front ++ (body ++ back ++ rest) := by
    simp only [List.append_assoc]
  rw [hsplit] at hcut'
  exact ⟨before', behind, body', rest', by rw [htext, hcut], hcut'⟩

theorem hasSpan_of_cut? {front back text before behind body rest : List Char}
    (hcut : cut? front text = some (before, behind))
    (hcut' : cut? back behind = some (body, rest)) : HasSpan front back text := by
  refine ⟨before, body, rest, ?_⟩
  rw [eq_append_of_cut? hcut, eq_append_of_cut? hcut']
  simp only [List.append_assoc]

theorem HasSpan.of_isInfix {front back text whole : List Char} (h : HasSpan front back text)
    (hwithin : text <:+: whole) : HasSpan front back whole := by
  obtain ⟨before, body, rest, rfl⟩ := h
  obtain ⟨more, more', rfl⟩ := hwithin
  exact ⟨more ++ before, body, rest ++ more', by simp only [List.append_assoc]⟩

theorem removeSpans_eq_self {front back text : List Char} (h : ¬ HasSpan front back text) :
    removeSpans front back text = text := by
  fun_cases removeSpans front back text with
  | case1 => rfl
  | case2 => rfl
  | case3 => rfl
  | case4 _ before behind hcut body rest hcut' => exact absurd (hasSpan_of_cut? hcut hcut') h

/-- Where there is a span, something is taken out. -/
theorem length_removeSpans_lt {front back text : List Char} (hfront : front ≠ [])
    (h : HasSpan front back text) : (removeSpans front back text).length < text.length := by
  obtain ⟨before, behind, body, rest, hcut, hcut'⟩ := exists_cut?_of_hasSpan h
  rw [removeSpans_eq_append hfront hcut hcut', eq_append_of_cut? hcut, eq_append_of_cut? hcut']
  have hrest : (removeSpans front back rest).length ≤ rest.length := by
    rcases removeSpans_eq_or_length_lt front back rest with h | h
    · rw [h]
    · exact Nat.le_of_lt h
  have hpos := List.length_pos_iff.2 hfront
  simp only [List.length_append]
  omega

theorem removeSpans_sublist (front back text : List Char) :
    (removeSpans front back text).Sublist text := by
  fun_induction removeSpans front back text with
  | case1 => exact List.Sublist.refl _
  | case2 => exact List.Sublist.refl _
  | case3 => exact List.Sublist.refl _
  | case4 text hfront before body hcut body' rest hcut' ih =>
    have hrest : rest.Sublist body := by
      rw [eq_append_of_cut? hcut']
      exact List.sublist_append_right _ _
    rw [eq_append_of_cut? hcut, List.append_assoc]
    exact (List.Sublist.refl before).append
      ((ih.trans hrest).trans (List.sublist_append_right front body))

/-- What is read as the body of a directive stands between its delimiters. -/
theorem hasSpan_of_body?_eq_some {front back text body : List Char}
    (h : body? front back text = some body) : HasSpan front back text := by
  obtain ⟨before, hspan⟩ := exists_firstSpan_of_body?_eq_some h
  obtain ⟨rest, htext⟩ := hspan.lineSpan.1
  exact ⟨before, body, rest, htext⟩

end Directive

theorem Rule.front_ne_nil {r : Rule} (h : r.isEnabled = true) : r.front.toList ≠ [] := by
  intro hnil
  have hempty : r.front = "" := String.toList_eq_nil_iff.1 hnil
  simp [Rule.isEnabled, hempty] at h

namespace Directive

/-! ## Stages of a pass -/

theorem not_hasSpan_of_strip_eq {r : Rule} {text : List Char} (h : r.strip text = text)
    (hr : r.isEnabled = true) : ¬ HasSpan r.front.toList r.back.toList text := by
  intro hspan
  have hshorter := length_removeSpans_lt (r.front_ne_nil hr) hspan
  rw [Rule.strip, if_pos hr] at h
  rw [h] at hshorter
  exact Nat.lt_irrefl _ hshorter

theorem extract?_eq_none_of_strip_eq {r : Rule} {text : String}
    (h : r.strip text.toList = text.toList) : extract? r text = none := by
  rw [extract?]
  split
  · rename_i hr
    cases hbody : body? r.front.toList r.back.toList text.toList with
    | none => rfl
    | some body => exact absurd (hasSpan_of_body?_eq_some hbody) (not_hasSpan_of_strip_eq h hr)
  · rfl

/-- Stages that leave a text alone or make it shorter cannot make up for each other: if two of them
    end where they began, the first has left the text alone. -/
theorem eq_of_stages {f g : List Char → List Char} {text : List Char}
    (hf : ∀ t, f t = t ∨ (f t).length < t.length) (hg : ∀ t, g t = t ∨ (g t).length < t.length)
    (h : g (f text) = text) : f text = text := by
  refine (hf text).resolve_right fun hshorter => ?_
  rcases hg (f text) with hsame | hshorter'
  · rw [← hsame, h] at hshorter
    exact Nat.lt_irrefl _ hshorter
  · rw [h] at hshorter'
    exact Nat.lt_asymm hshorter' hshorter

theorem strip_eq_of_stripAll_eq {rules : List Rule} {text : List Char}
    (h : stripAll rules text = text) : ∀ r ∈ rules, r.strip text = text := by
  induction rules with
  | nil => simp
  | cons first rules ih =>
    have hstep : stripAll rules (first.strip text) = text := h
    have hfirst : first.strip text = text :=
      eq_of_stages first.strip_eq_or_length_lt (stripAll_eq_or_length_lt rules) hstep
    rw [hfirst] at hstep
    intro r hr
    rcases List.mem_cons.1 hr with rfl | hr
    · exact hfirst
    · exact ih hstep r hr

/-- A text that a pass leaves alone is left alone by each rule. -/
theorem strip_eq_of_cleanPass_eq {rules : List Rule} {text : List Char}
    (h : cleanPass rules text = text) : ∀ r ∈ rules, r.strip text = text :=
  strip_eq_of_stripAll_eq
    (eq_of_stages (stripAll_eq_or_length_lt rules) collapseBlanks_eq_or_length_lt h)

theorem stripAll_sublist (rules : List Rule) (text : List Char) :
    (stripAll rules text).Sublist text := by
  induction rules generalizing text with
  | nil => exact List.Sublist.refl _
  | cons r rules ih =>
    refine (ih (r.strip text)).trans ?_
    rw [Rule.strip]
    split
    · exact removeSpans_sublist _ _ _
    · exact List.Sublist.refl _

theorem solid_cleanPass_sublist (rules : List Rule) (text : List Char) :
    (solid (cleanPass rules text)).Sublist (solid text) :=
  (solid_collapseBlanks_sublist _).trans ((stripAll_sublist rules text).filter _)

/-! ## The repetition -/

/-- A text is clean after at most as many passes as it has characters. -/
theorem exists_iterate_cleanPass_eq (rules : List Rule) (text : List Char) :
    ∃ n ≤ text.length, (cleanPass rules)^[n] text = cleanText rules text := by
  fun_induction cleanText rules text with
  | case1 text h => exact ⟨0, Nat.zero_le _, rfl⟩
  | case2 text h ih =>
    obtain ⟨n, hn, hiterate⟩ := ih
    have hshorter := (cleanPass_eq_or_length_lt rules text).resolve_left h
    exact ⟨n + 1, by omega, by rw [Function.iterate_succ_apply, hiterate]⟩

theorem tidy_cleanText (rules : List Rule) (text : List Char) : Tidy (cleanText rules text) := by
  rw [← cleanPass_cleanText]
  exact tidy_collapseBlanks _

theorem cleanText_cleanText (rules : List Rule) (text : List Char) :
    cleanText rules (cleanText rules text) = cleanText rules text := by
  rw [cleanText, if_pos (cleanPass_cleanText rules text)]

theorem solid_cleanText_sublist (rules : List Rule) (text : List Char) :
    (solid (cleanText rules text)).Sublist (solid text) := by
  fun_induction cleanText rules text with
  | case1 => exact List.Sublist.refl _
  | case2 text _ ih => exact ih.trans (solid_cleanPass_sublist rules text)

theorem strip_cleanText (rules : List Rule) (text : List Char) :
    ∀ r ∈ rules, r.strip (cleanText rules text) = cleanText rules text :=
  strip_eq_of_cleanPass_eq (cleanPass_cleanText rules text)

end Directive

open Directive

namespace DirectiveRules

/-! ## Nothing is found twice -/

/-- **A cleaned text holds no directive.** It is reached after finitely many passes, no enabled rule
    has a span in it, its blanks are tidy, cleaning it again changes nothing, its characters other
    than blanks are among those of the text in their order, and reading it as a paragraph finds
    nothing at all. -/
theorem clean_holds_no_directive (d : DirectiveRules) (text : String) :
    (∃ n ≤ text.toList.length, (cleanPass d.inOrder)^[n] text.toList = (d.clean text).toList) ∧
      (∀ r ∈ d.inOrder, r.isEnabled = true →
        ¬ HasSpan r.front.toList r.back.toList (d.clean text).toList) ∧
      Tidy (d.clean text).toList ∧
      d.clean (d.clean text) = d.clean text ∧
      (solid (d.clean text).toList).Sublist (solid text.toList) ∧
      d.read (d.read text).cleaned =
        { speakers := [], poses := [], background := none, bgm := none, scene := none,
          memory := none, cleaned := d.clean text, raw := d.clean text } := by
  have hclean : (d.clean text).toList = cleanText d.inOrder text.toList := String.toList_ofList
  have hstrip : ∀ r ∈ d.inOrder, r.strip (d.clean text).toList = (d.clean text).toList := by
    rw [hclean]
    exact strip_cleanText d.inOrder text.toList
  have hagain : d.clean (d.clean text) = d.clean text := by
    conv_lhs => rw [clean, hclean, cleanText_cleanText]
    rfl
  have hnone : ∀ r ∈ d.inOrder, extract? r (d.clean text) = none :=
    fun r hr => extract?_eq_none_of_strip_eq (hstrip r hr)
  refine ⟨?_, fun r hr => not_hasSpan_of_strip_eq (hstrip r hr), ?_, hagain, ?_, ?_⟩
  · rw [hclean]
    exact exists_iterate_cleanPass_eq _ _
  · rw [hclean]
    exact tidy_cleanText _ _
  · rw [hclean]
    exact solid_cleanText_sublist _ _
  · simp only [inOrder, List.mem_cons, List.not_mem_nil, or_false, forall_eq_or_imp,
      forall_eq] at hnone
    obtain ⟨hspeaker, hfigure, hbackground, hbgm, hscene, hmemory⟩ := hnone
    simp only [read, speakers, poses, hspeaker, hfigure, hbackground, hbgm, hscene, hmemory,
      hagain]

/-- The delimiters of stories that choose none. -/
def plain : DirectiveRules := {}

/-- A memory that parts the delimiters of a speaker, whose rule comes first. -/
def parted : String := "<<[[[tea]]]<Alice>>>  Hello"

/-- Taking out the memory leaves a speaker, which the next pass takes out. -/
theorem clean_parted :
    cleanPass plain.inOrder parted.toList = "<<<Alice>>> Hello".toList ∧
      plain.clean parted = "Hello" ∧ plain.speaker ∈ plain.inOrder ∧
      plain.speaker.isEnabled = true ∧
      ¬ HasSpan plain.speaker.front.toList plain.speaker.back.toList
        (plain.clean parted).toList := by
  have hmem : plain.speaker ∈ plain.inOrder := List.mem_cons_self
  have henabled : plain.speaker.isEnabled = true := by decide
  have hnone := (clean_holds_no_directive plain parted).2.1 plain.speaker hmem henabled
  exact ⟨by decide +kernel, by decide +kernel, hmem, henabled, hnone⟩

end DirectiveRules

end Dramaturg
