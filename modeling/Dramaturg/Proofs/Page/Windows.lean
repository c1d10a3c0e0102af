import Dramaturg.Proofs.Page.Cutting

set_option autoImplicit false

/-! # Windows of any width

The window of a segment ends one page behind the place where the segment begins. Positions have 64
bits, so a page size that is close to their limit leaves room for the first window but not for a
later one: a text has pages exactly if all its windows end at a position that exists
(`paginate_returns_iff`). Pages that are at least as long as the text are cut at the same places,
however long they are. -/

namespace Dramaturg

open Text

namespace Pager

variable {p : Pager}

/-! ## Where segments begin -/

/-- Where segments begin that stand one behind the other from a place on. -/
def startsFrom (start : Nat) : List (List Char) → List Nat
  | [] => []
  | segment :: rest => start :: startsFrom (start + segment.length) rest

/-- Where the segments of a text begin. -/
def starts (p : Pager) (text : String) : List Nat := startsFrom 0 (p.segments text.toList)

/-- Of windows of one width the last one ends furthest behind. -/
theorem startsFrom_fit_iff {limit width start : Nat} {segments : List (List Char)} :
    (∀ s ∈ startsFrom start segments, s + width < limit) ↔
      segments = [] ∨ start + segments.dropLast.flatten.length + width < limit := by
  induction segments generalizing start with
  | nil => simp [startsFrom]
  | cons segment rest ih =>
    rw [startsFrom, List.forall_mem_cons, ih]
    cases rest with
    | nil => simp
    | cons next rest =>
      have hnext : next :: rest ≠ [] := List.cons_ne_nil next rest
      rw [List.dropLast_cons_of_ne_nil hnext, List.flatten_cons, List.length_append]
      simp only [hnext, List.cons_ne_nil, false_or]
      omega

theorem lt_of_mem_startsFrom {start s : Nat} {segments : List (List Char)}
    (hne : ∀ segment ∈ segments, 0 < segment.length) (h : s ∈ startsFrom start segments) :
    s < start + segments.flatten.length := by
  induction segments generalizing start with
  | nil => cases h
  | cons segment rest ih =>
    obtain ⟨hsegment, hrest⟩ := List.forall_mem_cons.1 hne
    rw [List.flatten_cons, List.length_append]
    rcases List.mem_cons.1 h with rfl | h
    · omega
    · have := ih hrest h
      omega

/-- Every segment begins before the end of the text. -/
theorem lt_of_mem_starts {text : String} {start : Nat} (h : start ∈ p.starts text) :
    start < text.length := by
  have hlt := lt_of_mem_startsFrom (fun _ hmem => (length_of_mem_segments hmem).1) h
  rwa [flatten_segments, String.length_toList, Nat.zero_add] at hlt

theorem windowsFit_iff {text : String} :
    p.windowsFit (p.segments text.toList) = true ↔
      ∀ start ∈ p.starts text, start + p.maxChars < positionLimit := by
  unfold windowsFit starts
  rw [startsFrom_fit_iff, Nat.zero_add, Bool.or_eq_true, List.isEmpty_iff, decide_eq_true_iff]

/-! ## Pages that are longer than the text -/

/-- A window that reaches the end of the text may be made wider: the same end is the last one. -/
theorem lastEnd?_of_length_le {q : Pager} (hterminators : q.terminators = p.terminators)
    (hclosers : q.closers = p.closers) {window window' : Nat} {text : List Char}
    (h : text.length ≤ window) (h' : text.length ≤ window') :
    q.lastEnd? window' text = p.lastEnd? window text := by
  fun_induction p.lastEnd? window text generalizing window' with
  | case1 =>
    obtain rfl := List.length_eq_zero_iff.1 (Nat.le_zero.1 h)
    cases window' <;> rfl
  | case2 => cases window' <;> rfl
  | case3 window c hc =>
    obtain ⟨window', rfl⟩ := Nat.exists_eq_add_of_lt h'
    simp [lastEnd?, hterminators, hc]
  | case4 => simp at h
  | case5 c hc d ds hd window ih =>
    simp only [List.length_cons] at h h'
    obtain ⟨window', rfl⟩ : ∃ n, window' = n + 1 + 1 := ⟨window' - 2, by omega⟩
    simp only [lastEnd?, hterminators, hclosers, hc, hd, if_true]
    rw [ih (by omega) (by omega)]
  | case6 window c hc d ds hd ih =>
    simp only [List.length_cons] at h h'
    obtain ⟨window', rfl⟩ : ∃ n, window' = n + 1 := ⟨window' - 1, by omega⟩
    rw [lastEnd?.eq_def]
    simp only [hterminators, hclosers, hc, hd, if_true, if_false]
    rw [ih (by simpa using h) (by simpa using h')]
  | case7 window c cs hc ih =>
    simp only [List.length_cons] at h h'
    obtain ⟨window', rfl⟩ : ∃ n, window' = n + 1 := ⟨window' - 1, by omega⟩
    rw [lastEnd?.eq_def]
    simp only [hterminators, hc, if_false]
    rw [ih (by omega) (by omega)]

/-- A text is cut at the same places, however much longer than the text the pages are. -/
theorem segments_of_length_le {q : Pager} (hterminators : q.terminators = p.terminators)
    (hclosers : q.closers = p.closers) {text : List Char} (h : text.length ≤ p.maxChars)
    (h' : text.length ≤ q.maxChars) : q.segments text = p.segments text := by
  induction text using segments.induct p with
  | case1 => rw [segments_nil, segments_nil]
  | case2 text htext ih =>
    have hlength : q.segmentLength text = p.segmentLength text := by
      unfold segmentLength
      rw [lastEnd?_of_length_le hterminators hclosers h h', Nat.min_eq_right h,
        Nat.min_eq_right h']
    have hrest : (text.drop (p.segmentLength text)).length ≤ text.length := by
      rw [List.length_drop]
      exact Nat.sub_le _ _
    rw [segments_of_ne_nil htext, segments_of_ne_nil htext, hlength,
      ih (hrest.trans h) (hrest.trans h')]

/-! ## Which texts have pages -/

/-- **A text has pages exactly if all its windows fit.** The window of each segment has to end at a
    position of 64 bits. Where the pages are at least as long as the text, the segments begin at the
    same places whatever the page size, so that the pages are those of a page size equal to the
    length of the text, if there are any. -/
theorem paginate_returns_iff (s : Settings) (text : String) :
    let p := ofSettings s
    let fitted := ofSettings { s with pageMaxChars := text.length }
    ((∃ pages, p.paginate text = .ok pages) ↔
        ∀ start ∈ p.starts text, start + max s.pageMaxChars 1 < 2 ^ 64) ∧
      (∀ start ∈ p.starts text, start < text.length) ∧
      (text.length ≤ s.pageMaxChars →
        p.starts text = fitted.starts text ∧
          ∀ pages, p.paginate text = .ok pages → fitted.paginate text = .ok pages) := by
  intro p fitted
  have hreturns (q : Pager) : (∃ pages, q.paginate text = .ok pages) ↔
      ∀ start ∈ q.starts text, start + q.maxChars < positionLimit := by
    rw [← windowsFit_iff]
    unfold paginate
    by_cases hfit : q.windowsFit (q.segments text.toList) = true
    · simp [hfit]
    · simp [hfit]
  refine ⟨hreturns p, fun start => lt_of_mem_starts, fun hlength => ?_⟩
  have hmax : text.toList.length ≤ p.maxChars := by
    rw [String.length_toList]
    exact hlength.trans (Nat.le_max_left _ _)
  have hfitted : text.toList.length ≤ fitted.maxChars := by
    rw [String.length_toList]
    exact Nat.le_max_left _ _
  have hsegments : p.segments text.toList = fitted.segments text.toList :=
    segments_of_length_le (p := fitted) (q := p) rfl rfl hfitted hmax
  have hstarts : p.starts text = fitted.starts text := congrArg (startsFrom 0) hsegments
  refine ⟨hstarts, fun pages hpages => ?_⟩
  -- the smaller windows fit where the larger ones do
  have hfit : ∀ start ∈ fitted.starts text, start + fitted.maxChars < positionLimit := by
    intro start hstart
    have hwide := (hreturns p).1 ⟨pages, hpages⟩ start (hstarts ▸ hstart)
    have hnarrow : fitted.maxChars ≤ p.maxChars := by
      change max text.length 1 ≤ max s.pageMaxChars 1
      omega
    omega
  simp only [paginate] at hpages ⊢
  rw [if_pos (windowsFit_iff.2 hfit), ← hsegments]
  split at hpages
  · exact hpages
  · cases hpages

/-- Pages as long as there are positions. -/
def boundless : Settings := { pageMaxChars := 2 ^ 64 - 1 }

/-- A text of one sentence has a page of any size. -/
theorem paginate_oneSentence :
    (∀ start ∈ (ofSettings boundless).starts "Yes.",
        start + max boundless.pageMaxChars 1 < 2 ^ 64) ∧
      "Yes.".length ≤ boundless.pageMaxChars ∧
      (ofSettings boundless).paginate "Yes." = .ok ["Yes."] ∧
      (ofSettings { boundless with pageMaxChars := 4 }).paginate "Yes." = .ok ["Yes."] := by
  have hpages : (ofSettings boundless).paginate "Yes." = .ok ["Yes."] := by decide +kernel
  have hlength : "Yes.".length ≤ boundless.pageMaxChars := by decide +kernel
  obtain ⟨hreturns, -, hsame⟩ := paginate_returns_iff boundless "Yes."
  exact ⟨hreturns.1 ⟨_, hpages⟩, hlength, hpages, (hsame hlength).2 _ hpages⟩

/-- Behind a first sentence there is no room for another window of that size, though a page could
    hold the whole text. -/
theorem paginate_twoSentences :
    boundless.pageMaxChars < 2 ^ 64 ∧ "A. B".length ≤ boundless.pageMaxChars ∧
      (ofSettings boundless).paginate "A. B" = .error .windowTooWide ∧
      (ofSettings { boundless with pageMaxChars := 4 }).paginate "A. B" = .ok ["A.", " B"] := by
  refine ⟨?_, ?_, ?_, ?_⟩ <;> decide +kernel

end Pager

end Dramaturg
