import Dramaturg.Page
import Dramaturg.Proofs.Directive.Tidy
import Mathlib.Algebra.Group.Nat.Defs
import Mathlib.Data.List.Flatten

set_option autoImplicit false

/-! # Pages carry their text

The end of a sentence that is used lies inside the window, although the scan looks one character
beyond it. So each segment has at least one character and fits on a page, and the segments put
together are the text. Pages are the segments that are not blank, and what is lost with the others
are blanks. -/

namespace Dramaturg

open Text Directive

namespace Pager

variable {p : Pager}

/-! ## One segment -/

/-- The end of a sentence lies within the window and within the text. -/
theorem lastEnd?_le {window : Nat} {text : List Char} {n : Nat}
    (h : p.lastEnd? window text = some n) : n ≤ window ∧ n ≤ text.length := by
  -- an end behind some others, or else the last of these
  have behind {found : Option Nat} {k m window length : Nat}
      (hfound : ∀ i, found = some i → i ≤ window ∧ i ≤ length)
      (hn : (found.map (· + k)).getD k = m) : m ≤ window + k ∧ m ≤ length + k := by
    cases hlast : found with
    | none => simp only [hlast, Option.map_none, Option.getD_none] at hn; omega
    | some i =>
      have := hfound i hlast
      simp only [hlast, Option.map_some, Option.getD_some] at hn
      omega
  fun_induction p.lastEnd? window text generalizing n with
  | case1 => cases h
  | case2 => cases h
  | case3 =>
    cases h
    simp
  | case4 => cases h
  | case5 c hc d ds hd window ih => exact behind (k := 2) (fun _ => ih) (Option.some.inj h)
  | case6 window c hc d ds hd ih => exact behind (k := 1) (fun _ => ih) (Option.some.inj h)
  | case7 window c cs hc ih =>
    obtain ⟨m, hm, rfl⟩ := Option.map_eq_some_iff.1 h
    have := ih hm
    simp only [List.length_cons]
    omega

theorem segmentLength_le (text : List Char) :
    p.segmentLength text ≤ p.maxChars ∧ p.segmentLength text ≤ text.length := by
  unfold segmentLength
  cases hlast : p.lastEnd? p.maxChars text with
  | none => exact ⟨Nat.min_le_left _ _, Nat.min_le_right _ _⟩
  | some n => exact lastEnd?_le hlast

/-! ## All segments -/

theorem segments_nil : p.segments [] = [] := by
  rw [segments, dif_pos rfl]

theorem segments_of_ne_nil {text : List Char} (h : text ≠ []) :
    p.segments text
      = text.take (p.segmentLength text) :: p.segments (text.drop (p.segmentLength text)) := by
  rw [segments, dif_neg h]

/-- Cutting loses nothing. -/
theorem flatten_segments (text : List Char) : (p.segments text).flatten = text := by
  induction text using segments.induct p with
  | case1 => rw [segments_nil, List.flatten_nil]
  | case2 text h ih => rw [segments_of_ne_nil h, List.flatten_cons, ih, List.take_append_drop]

theorem length_of_mem_segments {text segment : List Char} (h : segment ∈ p.segments text) :
    0 < segment.length ∧ segment.length ≤ p.maxChars := by
  induction text using segments.induct p with
  | case1 =>
    rw [segments_nil] at h
    cases h
  | case2 text htext ih =>
    rw [segments_of_ne_nil htext] at h
    rcases List.mem_cons.1 h with rfl | h
    · obtain ⟨hmax, hlength⟩ := p.segmentLength_le text
      rw [List.length_take_of_le hlength]
      exact ⟨p.segmentLength_pos htext, hmax⟩
    · exact ih h

/-- Every window fits if there are positions for the text and one page: the window of the last
    segment begins before the end of the text. -/
theorem windowsFit_segments {text : List Char} (h : text.length + p.maxChars ≤ positionLimit) :
    p.windowsFit (p.segments text) = true := by
  unfold windowsFit
  rw [Bool.or_eq_true, decide_eq_true_iff]
  by_cases hempty : p.segments text = []
  · exact .inl (List.isEmpty_iff.2 hempty)
  · have hlast := (length_of_mem_segments (List.getLast_mem hempty)).1
    have hlength := congrArg List.length (flatten_segments (p := p) text)
    rw [← List.dropLast_concat_getLast hempty, List.flatten_concat, List.length_append] at hlength
    omega

/-! ## Pages -/

theorem solid_flatten_filter (segments : List (List Char)) :
    solid (segments.filter fun segment => !allBlank segment).flatten = solid segments.flatten := by
  induction segments with
  | nil => rfl
  | cons segment segments ih =>
    by_cases hblank : allBlank segment = true
    · have hnone : solid segment = [] := solid_eq_nil (List.all_eq_true.1 hblank)
      rw [List.filter_cons_of_neg (by simp [hblank]), List.flatten_cons, solid_append, hnone, ih,
        List.nil_append]
    · rw [List.filter_cons_of_pos (by simp [hblank]), List.flatten_cons, List.flatten_cons,
        solid_append, solid_append, ih]

theorem isInfix_of_mem_paginate {text : String} {pages : List String}
    (h : p.paginate text = .ok pages) {page : String} (hpage : page ∈ pages) :
    page.toList <:+: text.toList := by
  simp only [paginate] at h
  split at h
  · cases h
    obtain ⟨segment, hsegment, rfl⟩ := List.mem_map.1 hpage
    rw [String.toList_ofList, ← flatten_segments (p := p) text.toList]
    exact List.infix_of_mem_flatten (List.mem_filter.1 hsegment).1
  · cases h

/-- No page is blank or too long. -/
theorem fits_of_mem_paginate {text : String} {pages : List String}
    (h : p.paginate text = .ok pages) {page : String} (hpage : page ∈ pages) :
    isBlankText page = false ∧ page.length ≤ p.maxChars := by
  simp only [paginate] at h
  split at h
  · cases h
    obtain ⟨segment, hsegment, rfl⟩ := List.mem_map.1 hpage
    obtain ⟨hmem, hblank⟩ := List.mem_filter.1 hsegment
    rw [isBlankText, String.toList_ofList, String.length_ofList]
    exact ⟨by simpa using hblank, (length_of_mem_segments hmem).2⟩
  · cases h

/-- **Pages carry their text.** A text is cut into consecutive segments that fit on a page and are
    not empty, and its pages are those that are not blank, in order. So no page is blank or too
    long, the pages put together are the text if no segment is blank, and they always hold its
    characters other than blanks, in order. -/
theorem exists_paginate_eq_segments (s : Settings) (text : String)
    (hfits : text.length + s.pageMaxChars < 2 ^ 64) :
    ∃ (segments : List (List Char)) (pages : List String),
      (ofSettings s).paginate text = .ok pages ∧
      segments.flatten = text.toList ∧
      (∀ segment ∈ segments, 1 ≤ segment.length ∧ segment.length ≤ max s.pageMaxChars 1) ∧
      pages = (segments.filter fun segment => !allBlank segment).map String.ofList ∧
      (∀ page ∈ pages, isBlankText page = false ∧ page.length ≤ max s.pageMaxChars 1) ∧
      ((∀ segment ∈ segments, allBlank segment = false) → String.join pages = text) ∧
      solid (String.join pages).toList = solid text.toList := by
  let p := ofSettings s
  let segments := p.segments text.toList
  have hlength : ∀ segment ∈ segments, 1 ≤ segment.length ∧ segment.length ≤ max s.pageMaxChars 1 :=
    fun _ => length_of_mem_segments
  have hpositions : text.toList.length + p.maxChars ≤ positionLimit := by
    have hmax : p.maxChars ≤ s.pageMaxChars + 1 := by
      change max s.pageMaxChars 1 ≤ s.pageMaxChars + 1
      omega
    have hlimit : positionLimit = 2 ^ 64 := rfl
    rw [String.length_toList, hlimit]
    omega
  have hjoin (kept : List (List Char)) :
      (String.join (kept.map String.ofList)).toList = kept.flatten := by
    rw [String.toList_join, List.flatMap_map, List.flatten_eq_flatMap]
    exact List.flatMap_congr fun _ _ => String.toList_ofList
  refine ⟨segments, _, if_pos (windowsFit_segments hpositions), flatten_segments _, hlength, rfl,
    ?_, ?_, ?_⟩
  · intro page hpage
    obtain ⟨segment, hsegment, rfl⟩ := List.mem_map.1 hpage
    obtain ⟨hmem, hblank⟩ := List.mem_filter.1 hsegment
    rw [isBlankText, String.toList_ofList, String.length_ofList]
    exact ⟨by simpa using hblank, (hlength segment hmem).2⟩
  · intro hblank
    apply String.toList_inj.1
    have hall : (segments.filter fun segment => !allBlank segment) = segments :=
      List.filter_eq_self.2 fun segment hsegment => by rw [hblank segment hsegment, Bool.not_false]
    rw [hall, hjoin, flatten_segments]
  · rw [hjoin, solid_flatten_filter, flatten_segments]

/-- Settings under which a page ends at a full stop or after three characters. -/
def narrow : Settings where
  sentenceTerminators := ['.']
  closePunctuation := ['"']
  pageMaxChars := 3

/-- A closing mark beyond the window does not move the end of a page out of it. -/
theorem paginate_narrow :
    let text := "a.b.\"    c"
    text.length + narrow.pageMaxChars < 2 ^ 64 ∧
      (ofSettings narrow).paginate text = .ok ["a.", "b.\"", " c"] ∧
      solid (String.join ["a.", "b.\"", " c"]).toList = solid text.toList := by
  intro text
  have hfits : text.length + narrow.pageMaxChars < 2 ^ 64 := by decide
  have hpages : (ofSettings narrow).paginate text = .ok ["a.", "b.\"", " c"] := by decide +kernel
  obtain ⟨segments, pages, hpaginate, -, -, -, -, -, hsolid⟩ :=
    exists_paginate_eq_segments narrow text hfits
  obtain rfl : _ = pages := Except.ok.inj (hpages.symm.trans hpaginate)
  exact ⟨hfits, hpages, hsolid⟩

end Pager

end Dramaturg
