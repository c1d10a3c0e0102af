import Dramaturg.Fault
import Dramaturg.Settings.Basic

set_option autoImplicit false

/-! # Pages

A dialogue box holds a limited number of characters. `Pager.segments` cuts a text into consecutive
segments, each as long as the last usable end of a sentence in the window allows, or as long as the
window where there is none. The pages are the segments that are not blank. -/

namespace Dramaturg

open Text

/-- Where sentences end and how long a page may be. -/
structure Pager where
  terminators : List Char
  /-- Characters that stay on the page of the sentence that they close. -/
  closers : List Char
  maxChars : Nat
  maxChars_pos : 0 < maxChars

namespace Pager

/-- The pager of a story. A page holds one character at least. -/
def ofSettings (s : Settings) : Pager :=
  ⟨s.sentenceTerminators, s.closePunctuation, max s.pageMaxChars 1, by omega⟩

variable (p : Pager)

/-- The length up to the last usable end of a sentence among the first `window` characters. A
    closing character directly behind the end belongs to the sentence, and an end whose closing
    character lies beyond the window is not usable. -/
def lastEnd? : Nat → List Char → Option Nat
  | 0, _ => none
  | _ + 1, [] => none
  | window + 1, c :: cs =>
    if c ∈ p.terminators then
      match cs with
      | [] => some 1
      | d :: ds =>
        if d ∈ p.closers then
          match window with
          | 0 => none
          | window + 1 => some (((lastEnd? window ds).map (· + 2)).getD 2)
        else some (((lastEnd? window (d :: ds)).map (· + 1)).getD 1)
    else (lastEnd? window cs).map (· + 1)

theorem lastEnd?_pos {window : Nat} {text : List Char} {n : Nat}
    (h : p.lastEnd? window text = some n) : 0 < n := by
  have raised (m k : Nat) (found : Option Nat) (hm : 0 < m)
      (hk : (found.map (· + m)).getD m = k) : 0 < k := by
    cases found <;> simp at hk <;> omega
  unfold lastEnd? at h
  split at h
  · cases h
  · cases h
  · split at h
    · split at h
      · cases h
        decide
      · split at h
        · split at h
          · cases h
          · exact raised 2 n _ (by decide) (Option.some.inj h)
        · exact raised 1 n _ (by decide) (Option.some.inj h)
    · obtain ⟨m, _, rfl⟩ := Option.map_eq_some_iff.1 h
      omega

/-- The length of the first segment of a text. -/
def segmentLength (text : List Char) : Nat :=
  (p.lastEnd? p.maxChars text).getD (min p.maxChars text.length)

theorem segmentLength_pos {text : List Char} (h : text ≠ []) : 0 < p.segmentLength text := by
  unfold segmentLength
  cases hr : p.lastEnd? p.maxChars text with
  | none =>
    have := p.maxChars_pos
    have := List.length_pos_iff.2 h
    simp only [Option.getD_none]
    omega
  | some n => exact p.lastEnd?_pos hr

set_option linter.unusedVariables false in
/-- A text cut into segments. -/
def segments (text : List Char) : List (List Char) :=
  if h : text = [] then []
  else text.take (p.segmentLength text) :: segments (text.drop (p.segmentLength text))
termination_by text.length
decreasing_by
  have := p.segmentLength_pos h
  have := List.length_pos_iff.2 h
  simp only [List.length_drop]
  omega

/-- How many positions there are: they are counted in 64 bits. -/
def positionLimit : Nat := Number.twoTo 64

/-- Whether the window of each segment ends at a position that exists. The last one ends furthest
    behind. -/
def windowsFit (segments : List (List Char)) : Bool :=
  segments.isEmpty || decide (segments.dropLast.flatten.length + p.maxChars < positionLimit)

/-- The pages of a text, in order: its segments apart from blank ones. -/
def paginate (text : String) : Except Fault (List String) :=
  let segments := p.segments text.toList
  if p.windowsFit segments then
    .ok ((segments.filter fun segment => !allBlank segment).map String.ofList)
  else .error .windowTooWide

end Pager

end Dramaturg
