import Dramaturg.Proofs.Page.Cutting
import Mathlib.Order.Bounds.Defs

set_option autoImplicit false

/-! # Where pages break

A sentence ends behind its terminating character, or behind the closing character that stands
directly behind that one. A character can be of both kinds, so what counts depends on where reading
begins: a closing character that belongs to the sentence before it ends none itself
(`Pager.ReadsTo`). A window may be cut at the sentences that end within it, and the last of these is
where its segment ends (`segments_break_last`). What is left of the window behind that end holds no
terminating character, unless it is the window's last character and its closing one lies beyond. -/

namespace Dramaturg

open Text

namespace Pager

section

variable (p : Pager) (text : List Char)

/-- The character at a place ends a sentence. -/
def TerminatorAt (i : Nat) : Prop := ∃ c ∈ text[i]?, c ∈ p.terminators

/-- The character at a place stays with the sentence that it closes. -/
def CloserAt (i : Nat) : Prop := ∃ c ∈ text[i]?, c ∈ p.closers

instance (i : Nat) : Decidable (p.TerminatorAt text i) :=
  decidable_of_iff (text[i]?.any (· ∈ p.terminators) = true) (by simp [TerminatorAt, Option.any_eq_true])

instance (i : Nat) : Decidable (p.CloserAt text i) :=
  decidable_of_iff (text[i]?.any (· ∈ p.closers) = true) (by simp [CloserAt, Option.any_eq_true])

/-- The sentence that the character at a place terminates ends before another place. -/
def SentenceEnd (i stop : Nat) : Prop :=
  p.TerminatorAt text i ∧
    (¬ p.CloserAt text (i + 1) ∧ stop = i + 1 ∨ p.CloserAt text (i + 1) ∧ stop = i + 2)

/-- Who reads on from a place comes to another: the end of a sentence is read as a whole, with its
    closing character, and anything else character by character. -/
inductive ReadsTo : Nat → Nat → Prop
  | here (i : Nat) : ReadsTo i i
  | plain {i j : Nat} (hplain : ¬ p.TerminatorAt text i) (rest : ReadsTo (i + 1) j) : ReadsTo i j
  | sentence {i stop j : Nat} (hend : p.SentenceEnd text i stop) (rest : ReadsTo stop j) :
      ReadsTo i j

/-- A window from one place to another may be cut before a third: a sentence ends there. -/
def Usable (start limit stop : Nat) : Prop :=
  ∃ i, p.ReadsTo text start i ∧ p.SentenceEnd text i stop ∧ stop ≤ limit

/-- What is found is the length up to the last place before which a window may be cut. -/
def IsLastCut (start limit : Nat) : Option Nat → Prop
  | none => ∀ stop, ¬ p.Usable text start limit stop
  | some n => IsGreatest {stop | p.Usable text start limit stop} (start + n)

end

variable {p : Pager} {text : List Char} {start limit stop i : Nat}

/-! ## Reading -/

theorem SentenceEnd.lt (h : p.SentenceEnd text i stop) : i < stop := by
  obtain ⟨-, ⟨-, rfl⟩ | ⟨-, rfl⟩⟩ := h <;> omega

/-- A sentence has one end. -/
theorem SentenceEnd.eq {stop' : Nat} (h : p.SentenceEnd text i stop)
    (h' : p.SentenceEnd text i stop') : stop' = stop := by
  obtain ⟨-, ⟨hnot, rfl⟩ | ⟨hcloser, rfl⟩⟩ := h
  · obtain ⟨-, ⟨-, rfl⟩ | ⟨hcloser, -⟩⟩ := h'
    · rfl
    · exact absurd hcloser hnot
  · obtain ⟨-, ⟨hnot, -⟩ | ⟨-, rfl⟩⟩ := h'
    · exact absurd hcloser hnot
    · rfl

theorem exists_sentenceEnd (h : p.TerminatorAt text i) : ∃ stop, p.SentenceEnd text i stop := by
  by_cases hcloser : p.CloserAt text (i + 1)
  · exact ⟨i + 2, h, .inr ⟨hcloser, rfl⟩⟩
  · exact ⟨i + 1, h, .inl ⟨hcloser, rfl⟩⟩

theorem TerminatorAt.lt_length (h : p.TerminatorAt text i) : i < text.length := by
  obtain ⟨c, hc, -⟩ := h
  exact (List.getElem?_eq_some_iff.1 hc).1

theorem SentenceEnd.le_length (h : p.SentenceEnd text i stop) : stop ≤ text.length := by
  obtain ⟨hterminator, ⟨-, rfl⟩ | ⟨⟨c, hc, -⟩, rfl⟩⟩ := h
  · exact hterminator.lt_length
  · exact (List.getElem?_eq_some_iff.1 hc).1

theorem ReadsTo.le (h : p.ReadsTo text start i) : start ≤ i := by
  induction h with
  | here => exact Nat.le_refl _
  | plain _ _ ih => omega
  | sentence hend _ ih => exact Nat.le_trans (Nat.le_of_lt hend.lt) ih

theorem ReadsTo.trans {j : Nat} (h : p.ReadsTo text start i) (h' : p.ReadsTo text i j) :
    p.ReadsTo text start j := by
  induction h with
  | here => exact h'
  | plain hplain _ ih => exact .plain hplain (ih h')
  | sentence hend _ ih => exact .sentence hend (ih h')

/-- Reading comes to every place but those of closing characters that belong to a sentence. -/
theorem readsTo_or_closes (p : Pager) (text : List Char) {start i : Nat} (h : start ≤ i) :
    p.ReadsTo text start i ∨ ∃ j, p.ReadsTo text start j ∧ p.SentenceEnd text j (i + 1) := by
  induction i, h using Nat.le_induction with
  | base => exact .inl (.here start)
  | succ i _ ih =>
    rcases ih with hreads | ⟨j, hreads, hend⟩
    · by_cases hterminator : p.TerminatorAt text i
      · obtain ⟨stop, hend⟩ := exists_sentenceEnd hterminator
        obtain ⟨-, ⟨-, rfl⟩ | ⟨-, rfl⟩⟩ := id hend
        · exact .inl (hreads.trans (.sentence hend (.here _)))
        · exact .inr ⟨i, hreads, hend⟩
      · exact .inl (hreads.trans (.plain hterminator (.here _)))
    · exact .inl (hreads.trans (.sentence hend (.here _)))

/-! ## Usable ends -/

theorem Usable.lt (h : p.Usable text start limit stop) : start < stop := by
  obtain ⟨i, hreads, hend, -⟩ := h
  exact Nat.lt_of_le_of_lt hreads.le hend.lt

theorem not_usable_of_limit_le (h : limit ≤ start) : ¬ p.Usable text start limit stop := by
  intro husable
  have hlt := husable.lt
  obtain ⟨-, -, -, hle⟩ := husable
  omega

theorem not_usable_of_length_le (h : text.length ≤ start) : ¬ p.Usable text start limit stop := by
  rintro ⟨i, hreads, hend, -⟩
  have hle := hreads.le
  have hlt := hend.1.lt_length
  omega

theorem usable_iff_of_not_terminatorAt (h : ¬ p.TerminatorAt text start) :
    p.Usable text start limit stop ↔ p.Usable text (start + 1) limit stop := by
  constructor
  · rintro ⟨i, hreads, hend, hle⟩
    cases hreads with
    | here => exact absurd hend.1 h
    | plain _ rest => exact ⟨i, rest, hend, hle⟩
    | sentence hfirst _ => exact absurd hfirst.1 h
  · rintro ⟨i, hreads, hend, hle⟩
    exact ⟨i, .plain h hreads, hend, hle⟩

theorem usable_iff_of_sentenceEnd {first : Nat} (h : p.SentenceEnd text start first) :
    p.Usable text start limit stop ↔
      stop = first ∧ first ≤ limit ∨ p.Usable text first limit stop := by
  constructor
  · rintro ⟨i, hreads, hend, hle⟩
    cases hreads with
    | here =>
      obtain rfl := h.eq hend
      exact .inl ⟨rfl, hle⟩
    | plain hplain _ => exact absurd h.1 hplain
    | sentence hfirst rest =>
      obtain rfl := h.eq hfirst
      exact .inr ⟨i, rest, hend, hle⟩
  · rintro (⟨rfl, hle⟩ | ⟨i, hreads, hend, hle⟩)
    · exact ⟨start, .here start, h, hle⟩
    · exact ⟨i, .sentence h hreads, hend, hle⟩

/-- The end of the text limits a window by itself. -/
theorem usable_min_length_iff :
    p.Usable text start (min limit text.length) stop ↔ p.Usable text start limit stop := by
  constructor
  · rintro ⟨i, hreads, hend, hle⟩
    exact ⟨i, hreads, hend, Nat.le_trans hle (Nat.min_le_left _ _)⟩
  · rintro ⟨i, hreads, hend, hle⟩
    exact ⟨i, hreads, hend, Nat.le_min.2 ⟨hle, hend.le_length⟩⟩

/-- Behind the last usable end of a window no character terminates a sentence, unless it is the
    window's last and the one that closes it lies beyond. -/
theorem terminatorAt_last {first : Nat} (hreads : p.ReadsTo text start first)
    (hlast : ∀ stop, p.Usable text start limit stop → stop ≤ first) (hfirst : first ≤ i)
    (hlimit : i < limit) (hterminator : p.TerminatorAt text i) :
    i + 1 = limit ∧ p.CloserAt text limit := by
  rcases readsTo_or_closes p text hfirst with hto | ⟨j, hto, hend⟩
  · obtain ⟨stop, hend⟩ := exists_sentenceEnd hterminator
    have hbeyond : limit < stop := by
      by_contra hwithin
      have hle := hlast stop ⟨i, hreads.trans hto, hend, Nat.le_of_not_lt hwithin⟩
      have hlt := hend.lt
      omega
    obtain ⟨-, ⟨-, rfl⟩ | ⟨hcloser, rfl⟩⟩ := hend
    · omega
    · obtain rfl : i + 1 = limit := by omega
      exact ⟨rfl, hcloser⟩
  · -- a closing character is itself the end of a sentence within the window
    have hle := hlast (i + 1) ⟨j, hreads.trans hto, hend, hlimit⟩
    omega

/-! ## The end that is found -/

/-- A character that ends no sentence moves the end that is found. -/
theorem IsLastCut.after {found : Option Nat} (hplain : ¬ p.TerminatorAt text start)
    (hfound : p.IsLastCut text (start + 1) limit found) :
    p.IsLastCut text start limit (found.map (· + 1)) := by
  cases found with
  | none => exact fun stop => mt (usable_iff_of_not_terminatorAt hplain).1 (hfound stop)
  | some n =>
    have hplace : start + (n + 1) = start + 1 + n := by omega
    change IsGreatest _ (start + (n + 1))
    rw [hplace]
    simp only [usable_iff_of_not_terminatorAt hplain]
    exact hfound

/-- The end of a first sentence is used if there is no usable one behind it. -/
theorem IsLastCut.behind {k : Nat} {found : Option Nat}
    (hend : p.SentenceEnd text start (start + k)) (hlimit : start + k ≤ limit)
    (hfound : p.IsLastCut text (start + k) limit found) :
    p.IsLastCut text start limit (some ((found.map (· + k)).getD k)) := by
  cases found with
  | none =>
    refine ⟨(usable_iff_of_sentenceEnd hend).2 (.inl ⟨rfl, hlimit⟩), ?_⟩
    intro stop hstop
    rcases (usable_iff_of_sentenceEnd hend).1 hstop with ⟨rfl, -⟩ | hbehind
    · exact Nat.le_refl _
    · exact absurd hbehind (hfound stop)
  | some n =>
    obtain ⟨husable, hgreatest⟩ := hfound
    have hplace : start + (n + k) = start + k + n := by omega
    change IsGreatest _ (start + (n + k))
    rw [hplace]
    refine ⟨(usable_iff_of_sentenceEnd hend).2 (.inr husable), ?_⟩
    intro stop hstop
    rcases (usable_iff_of_sentenceEnd hend).1 hstop with ⟨rfl, -⟩ | hbehind
    · exact Nat.le_add_right _ _
    · exact hgreatest hbehind

theorem drop_succ_of_drop_eq {c : Char} {rest : List Char} (h : text.drop start = c :: rest) :
    text.drop (start + 1) = rest := by
  rw [← List.drop_drop, h, List.drop_one, List.tail_cons]

theorem getElem?_of_drop_eq {rest : List Char} (h : text.drop start = rest) :
    text[start]? = rest.head? := by
  rw [← h, List.head?_drop]

theorem terminatorAt_iff_of_drop_eq {c : Char} {rest : List Char}
    (h : text.drop start = c :: rest) : p.TerminatorAt text start ↔ c ∈ p.terminators := by
  simp [TerminatorAt, getElem?_of_drop_eq h]

theorem closerAt_iff_of_drop_eq {c : Char} {rest : List Char}
    (h : text.drop start = c :: rest) : p.CloserAt text start ↔ c ∈ p.closers := by
  simp [CloserAt, getElem?_of_drop_eq h]

theorem not_closerAt_of_drop_eq_nil (h : text.drop start = []) : ¬ p.CloserAt text start := by
  simp [CloserAt, getElem?_of_drop_eq h]

/-- The scan finds the last usable end of its window. -/
theorem isLastCut_lastEnd? {window : Nat} {rest : List Char} (h : text.drop start = rest) :
    p.IsLastCut text start (start + window) (p.lastEnd? window rest) := by
  fun_induction p.lastEnd? window rest generalizing start with
  | case1 => exact fun stop => not_usable_of_limit_le (Nat.le_refl _)
  | case2 =>
    have hlength : text.length ≤ start := List.drop_eq_nil_iff.1 h
    exact fun stop => not_usable_of_length_le hlength
  | case3 window c hc =>
    have hrest := drop_succ_of_drop_eq h
    have hend : p.SentenceEnd text start (start + 1) :=
      ⟨(terminatorAt_iff_of_drop_eq h).2 hc, .inl ⟨not_closerAt_of_drop_eq_nil hrest, rfl⟩⟩
    have hbehind : p.IsLastCut text (start + 1) (start + (window + 1)) none :=
      fun stop => not_usable_of_length_le (List.drop_eq_nil_iff.1 hrest)
    exact hbehind.behind hend (by omega)
  | case4 c hc d ds hd =>
    have hrest := drop_succ_of_drop_eq h
    have hend : p.SentenceEnd text start (start + 2) :=
      ⟨(terminatorAt_iff_of_drop_eq h).2 hc, .inr ⟨(closerAt_iff_of_drop_eq hrest).2 hd, rfl⟩⟩
    intro stop husable
    rcases (usable_iff_of_sentenceEnd hend).1 husable with ⟨-, hle⟩ | hbehind
    · omega
    · exact not_usable_of_limit_le (by omega) hbehind
  | case5 c hc d ds hd window ih =>
    have hrest := drop_succ_of_drop_eq h
    have hend : p.SentenceEnd text start (start + 2) :=
      ⟨(terminatorAt_iff_of_drop_eq h).2 hc, .inr ⟨(closerAt_iff_of_drop_eq hrest).2 hd, rfl⟩⟩
    have hlimit : start + (window + 1 + 1) = start + 2 + window := by omega
    rw [hlimit]
    exact (ih (drop_succ_of_drop_eq hrest)).behind hend (by omega)
  | case6 window c hc d ds hd ih =>
    have hrest := drop_succ_of_drop_eq h
    have hend : p.SentenceEnd text start (start + 1) :=
      ⟨(terminatorAt_iff_of_drop_eq h).2 hc, .inl ⟨mt (closerAt_iff_of_drop_eq hrest).1 hd, rfl⟩⟩
    have hlimit : start + (window + 1) = start + 1 + window := by omega
    rw [hlimit]
    exact (ih hrest).behind hend (by omega)
  | case7 window c cs hc ih =>
    have hplain : ¬ p.TerminatorAt text start := mt (terminatorAt_iff_of_drop_eq h).1 hc
    have hlimit : start + (window + 1) = start + 1 + window := by omega
    rw [hlimit]
    exact (ih (drop_succ_of_drop_eq h)).after hplain

/-! ## The segments of a text -/

/-- A segment is the first of the text that is left where it begins. -/
theorem length_of_segments_eq {text : List Char} {before after : List (List Char)}
    {segment : List Char} (h : p.segments text = before ++ segment :: after) :
    segment.length = p.segmentLength (text.drop before.flatten.length) := by
  induction before generalizing text with
  | nil =>
    have htext : text ≠ [] := by
      rintro rfl
      rw [segments_nil] at h
      cases h
    rw [segments_of_ne_nil htext] at h
    obtain ⟨rfl, -⟩ := List.cons.inj h
    exact List.length_take_of_le (p.segmentLength_le text).2
  | cons first before ih =>
    have htext : text ≠ [] := by
      rintro rfl
      rw [segments_nil] at h
      cases h
    rw [segments_of_ne_nil htext, List.cons_append] at h
    obtain ⟨rfl, hrest⟩ := List.cons.inj h
    rw [ih hrest, List.drop_drop, List.flatten_cons, List.length_append,
      List.length_take_of_le (p.segmentLength_le text).2]

/-- A segment is not empty and lies within its window. -/
theorem bounds_of_segments_eq {text : List Char} {before after : List (List Char)}
    {segment : List Char} (h : p.segments text = before ++ segment :: after) :
    0 < segment.length ∧ before.flatten.length + segment.length
      ≤ min (before.flatten.length + p.maxChars) text.length := by
  have hmem : segment ∈ p.segments text := by simp [h]
  obtain ⟨hpos, hmax⟩ := length_of_mem_segments hmem
  have hlength : before.flatten.length + segment.length + after.flatten.length = text.length := by
    rw [← flatten_segments (p := p) text, h, List.flatten_append, List.flatten_cons,
      List.length_append, List.length_append, Nat.add_assoc]
  omega

/-- A segment ends with the last sentence that ends within its window, or else with the window. -/
theorem isLastCut_of_segments_eq {text : List Char} {before after : List (List Char)}
    {segment : List Char} (h : p.segments text = before ++ segment :: after) :
    let start := before.flatten.length
    p.IsLastCut text start (start + p.maxChars) (some segment.length) ∨
      p.IsLastCut text start (start + p.maxChars) none ∧
        start + segment.length = min (start + p.maxChars) text.length := by
  intro start
  have hsegment : segment.length = p.segmentLength (text.drop start) := length_of_segments_eq h
  have hcut : p.IsLastCut text start (start + p.maxChars)
      (p.lastEnd? p.maxChars (text.drop start)) := isLastCut_lastEnd? rfl
  unfold segmentLength at hsegment
  cases hfound : p.lastEnd? p.maxChars (text.drop start) with
  | none =>
    rw [hfound] at hcut hsegment
    rw [Option.getD_none, List.length_drop] at hsegment
    have hbounds := (bounds_of_segments_eq h).2
    exact .inr ⟨hcut, by omega⟩
  | some n =>
    rw [hfound] at hcut hsegment
    obtain rfl : segment.length = n := hsegment
    exact .inl hcut

/-- The pages are the segments that hold more than blanks. -/
theorem map_toList_of_paginate {text : String} {pages : List String}
    (h : p.paginate text = .ok pages) :
    pages.map String.toList
      = (p.segments text.toList).filter fun segment => segment.any fun c => !isBlank c := by
  simp only [paginate] at h
  split at h
  · cases h
    have htoList : String.toList ∘ String.ofList = id := funext fun _ => String.toList_ofList
    rw [List.map_map, htoList, List.map_id]
    exact List.filter_congr fun _ _ => List.not_all_eq_any_not
  · cases h

/-- **Segments break at the last usable end of their windows.** The window of a segment begins where
    the segment does and is as long as a page, or as long as the rest of the text. The segment ends
    with the last sentence that ends within the window: behind its terminating character if no
    closing one follows, or else behind that one. Behind this end no character of the window
    terminates a sentence, unless it is the window's last and the one that closes it lies beyond. If
    no sentence ends within the window, the segment is the window, of which the same holds. The pages
    are the segments that hold more than blanks. -/
theorem segments_break_last (s : Settings) (text : String) :
    let p := ofSettings s
    let chars := text.toList
    (∀ pages, p.paginate text = .ok pages →
      pages.map String.toList
        = (p.segments chars).filter fun segment => segment.any fun c => !isBlank c) ∧
    ∀ before segment after, p.segments chars = before ++ segment :: after →
      let start := before.flatten.length
      let stop := start + segment.length
      let limit := min (start + max s.pageMaxChars 1) chars.length
      start < stop ∧ stop ≤ limit ∧
      ((IsGreatest {place | p.Usable chars start limit place} stop ∧
          ((∃ i, start ≤ i ∧ stop = i + 1 ∧ p.TerminatorAt chars i ∧ ¬ p.CloserAt chars stop) ∨
            ∃ i, start ≤ i ∧ stop = i + 2 ∧ p.TerminatorAt chars i ∧ p.CloserAt chars (i + 1)) ∧
          ∀ i, stop ≤ i → i < limit → p.TerminatorAt chars i →
            i + 1 = limit ∧ p.CloserAt chars limit) ∨
        ((∀ place, ¬ p.Usable chars start limit place) ∧ stop = limit ∧
          ∀ i, start ≤ i → i < limit → p.TerminatorAt chars i →
            i + 1 = limit ∧ p.CloserAt chars limit)) := by
  intro p chars
  refine ⟨fun pages hpages => map_toList_of_paginate hpages, ?_⟩
  intro before segment after h start stop limit
  have hwidth : p.maxChars = max s.pageMaxChars 1 := rfl
  have hbounds := bounds_of_segments_eq h
  refine ⟨by omega, by omega, ?_⟩
  rcases isLastCut_of_segments_eq h with hcut | ⟨hcut, hstop⟩
  · have hgreatest : IsGreatest {place | p.Usable chars start limit place} stop := by
      simp only [limit, usable_min_length_iff]
      exact hcut
    obtain ⟨i, hreads, hend, -⟩ := hgreatest.1
    refine .inl ⟨hgreatest, ?_, ?_⟩
    · obtain ⟨hterminator, ⟨hnot, hstop⟩ | ⟨hcloser, hstop⟩⟩ := hend
      · exact .inl ⟨i, hreads.le, hstop, hterminator, hstop ▸ hnot⟩
      · exact .inr ⟨i, hreads.le, hstop, hterminator, hcloser⟩
    · intro j hj
      have hto : p.ReadsTo chars start stop := hreads.trans (.sentence hend (.here stop))
      exact terminatorAt_last hto (fun place hplace => hgreatest.2 hplace) hj
  · have hnone : ∀ place, ¬ p.Usable chars start limit place :=
      fun place => mt usable_min_length_iff.1 (hcut place)
    refine .inr ⟨hnone, hstop, ?_⟩
    intro i hi
    exact terminatorAt_last (.here start) (fun place hplace => absurd hplace (hnone place)) hi

/-- Settings under which a closing bracket may end a sentence or close one. -/
def bracketed : Settings where
  sentenceTerminators := ['.', ')']
  closePunctuation := [')', '"']
  pageMaxChars := 5

/-- The bracket belongs to the first sentence, and the quotation mark behind it to neither. The next
    window ends between a full stop and the mark that closes it, and holds no usable end. -/
theorem segments_break_bracketed :
    let p := ofSettings bracketed
    let text := "a.)\"bcd.\"e"
    p.segments text.toList = [['a', '.', ')'], ['"', 'b', 'c', 'd', '.'], ['"', 'e']] ∧
      IsGreatest {place | p.Usable text.toList 0 5 place} 3 ∧
      (∀ place, ¬ p.Usable text.toList 3 8 place) ∧
      p.TerminatorAt text.toList 7 ∧ p.CloserAt text.toList 8 := by
  intro p text
  have hsegments : p.segments text.toList
      = [['a', '.', ')'], ['"', 'b', 'c', 'd', '.'], ['"', 'e']] := by decide +kernel
  obtain ⟨-, hbreaks⟩ := segments_break_last bracketed text
  have hlength : text.toList.length = 10 := by decide +kernel
  rw [hlength] at hbreaks
  obtain ⟨-, -, hfirst⟩ := hbreaks [] _ _ hsegments
  obtain ⟨-, -, hsecond⟩ := hbreaks [['a', '.', ')']] _ _ hsegments
  refine ⟨hsegments, ?_, ?_, by decide +kernel, by decide +kernel⟩
  · rcases hfirst with ⟨hgreatest, -⟩ | ⟨-, hstop, -⟩
    · exact hgreatest
    · exact absurd hstop (by decide)
  · rcases hsecond with ⟨-, ⟨i, -, hi, -, hnot⟩ | ⟨i, -, hi, hterminator, -⟩, -⟩ | ⟨hnone, -⟩
    · exact absurd (by decide +kernel) hnot
    · have height : 8 = i + 2 := hi
      obtain rfl : i = 6 := by omega
      exact absurd hterminator (by decide +kernel)
    · exact hnone

end Pager

end Dramaturg
