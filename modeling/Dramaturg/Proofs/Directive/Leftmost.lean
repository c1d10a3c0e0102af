import Dramaturg.Directive.Rule
import Dramaturg.Proofs.Text.Occurrence
import Mathlib.Data.List.TakeWhile

set_option autoImplicit false

/-! # The first directive on one line

A text may be split in many ways into something before a directive, the front delimiter, a body, the
back delimiter and the rest, with no line end in body and back delimiter. The one that is read has
the least before it, and of these the shortest body (`FirstSpan`), and one is read if there is any.

The text can be searched from one front delimiter to the next (`Search`). When there is no back
delimiter on the line, the search goes on one character behind the beginning of the front delimiter,
so that no front delimiter is passed over, and the text that is left gets shorter in every round. -/

namespace Dramaturg

open Text

namespace Directive

/-- Whether a text holds, behind `before`, a directive with this body that ends on the line on which
    the body begins. -/
def LineSpan (front back text before body : List Char) : Prop :=
  (∃ rest, text = before ++ front ++ body ++ back ++ rest) ∧
    ∀ c ∈ body ++ back, isLineEnd c = false

/-- Whether of all directives of a text this one has the least before it, and of those that begin
    there the shortest body. -/
structure FirstSpan (front back text before body : List Char) : Prop where
  lineSpan : LineSpan front back text before body
  leftmost (before' body' : List Char) :
    LineSpan front back text before' body' → before.length ≤ before'.length
  shortest (body' : List Char) :
    LineSpan front back text before body' → body.length ≤ body'.length

variable {front back : List Char}

/-- A text has one first directive at most. -/
theorem FirstSpan.unique {text before body before' body' : List Char}
    (h : FirstSpan front back text before body) (h' : FirstSpan front back text before' body') :
    before = before' ∧ body = body' := by
  obtain ⟨rest, htext⟩ := h.lineSpan.1
  obtain ⟨rest', htext'⟩ := h'.lineSpan.1
  have hbefore : before.length = before'.length :=
    Nat.le_antisymm (h.leftmost _ _ h'.lineSpan) (h'.leftmost _ _ h.lineSpan)
  rw [htext] at htext'
  simp only [List.append_assoc] at htext'
  obtain ⟨rfl, hbehind⟩ := List.append_inj htext' hbefore
  have hbody : body.length = body'.length :=
    Nat.le_antisymm (h.shortest _ h'.lineSpan) (h'.shortest _ h.lineSpan)
  exact ⟨rfl, (List.append_inj (List.append_cancel_left hbehind) hbody).1⟩

theorem lineSpan_cons {c d : Char} {text before body : List Char} :
    LineSpan front back (c :: text) (d :: before) body ↔
      d = c ∧ LineSpan front back text before body := by
  simp only [LineSpan, List.cons_append, List.cons.injEq, exists_and_left, and_assoc, eq_comm]

theorem not_lineSpan_nil (hfront : front ≠ []) (before body : List Char) :
    ¬ LineSpan front back [] before body := by
  rintro ⟨⟨rest, htext⟩, -⟩
  simp [hfront] at htext

/-! ## One place -/

/-- A line begins with a text without line ends if the text before which it stands does. -/
theorem prefix_firstLine_iff {part text : List Char} :
    part <+: firstLine text ↔ part <+: text ∧ ∀ c ∈ part, isLineEnd c = false := by
  constructor
  · intro h
    refine ⟨h.trans (List.takeWhile_prefix _), fun c hc => ?_⟩
    simpa using List.mem_takeWhile_imp (h.subset hc)
  · rintro ⟨⟨rest, rfl⟩, hpart⟩
    rw [firstLine, List.takeWhile_append_of_pos (by simpa using hpart)]
    exact List.prefix_append _ _

theorem lineSpan_of_bodyHere? {text body : List Char} (h : bodyHere? front back text = some body) :
    LineSpan front back text [] body := by
  rw [bodyHere?, Option.bind_eq_some_iff] at h
  obtain ⟨behind, hafter, hline⟩ := h
  obtain ⟨⟨body', rest⟩, hcut, rfl⟩ := Option.map_eq_some_iff.1 hline
  have hprefix : body' ++ back <+: firstLine behind := ⟨rest, (eq_append_of_cut? hcut).symm⟩
  obtain ⟨⟨more, hbehind⟩, hends⟩ := prefix_firstLine_iff.1 hprefix
  refine ⟨⟨more, ?_⟩, hends⟩
  rw [after?_eq_some_iff.1 hafter, ← hbehind]
  simp only [List.nil_append, List.append_assoc]

/-- Where a directive stands at the beginning of a text, the one that is read there has no longer
    body. -/
theorem exists_bodyHere?_of_lineSpan {text body : List Char}
    (h : LineSpan front back text [] body) :
    ∃ body', bodyHere? front back text = some body' ∧ body'.length ≤ body.length := by
  obtain ⟨⟨rest, rfl⟩, hends⟩ := h
  obtain ⟨more, hmore⟩ : body ++ back <+: firstLine (body ++ back ++ rest) :=
    prefix_firstLine_iff.2 ⟨List.prefix_append _ _, hends⟩
  obtain ⟨body', rest', hcut, -⟩ := exists_cut?_eq_some body back more
  refine ⟨body', ?_, length_le_of_cut? hcut rfl⟩
  have hafter : after? front ([] ++ front ++ body ++ back ++ rest) = some (body ++ back ++ rest) :=
    after?_eq_some_iff.2 (by simp only [List.nil_append, List.append_assoc])
  rw [bodyHere?, hafter, Option.bind_some, ← hmore, hcut]
  rfl

/-! ## All places -/

theorem not_lineSpan_of_body?_eq_none (hfront : front ≠ []) {text : List Char}
    (h : body? front back text = none) (before body : List Char) :
    ¬ LineSpan front back text before body := by
  induction text generalizing before with
  | nil => exact not_lineSpan_nil hfront before body
  | cons c cs ih =>
    rw [body?] at h
    split at h
    · cases h
    · rename_i hhere
      intro hspan
      cases before with
      | nil =>
        obtain ⟨body', hbody, -⟩ := exists_bodyHere?_of_lineSpan hspan
        rw [hhere] at hbody
        cases hbody
      | cons d before => exact ih h before (lineSpan_cons.1 hspan).2

theorem exists_firstSpan_of_body?_eq_some {text body : List Char}
    (h : body? front back text = some body) : ∃ before, FirstSpan front back text before body := by
  induction text with
  | nil => cases h
  | cons c cs ih =>
    rw [body?] at h
    split at h
    · rename_i found hhere
      obtain rfl := Option.some.inj h
      refine ⟨[], lineSpan_of_bodyHere? hhere, fun _ _ _ => Nat.zero_le _, ?_⟩
      intro body' hspan
      obtain ⟨body'', hbody, hle⟩ := exists_bodyHere?_of_lineSpan hspan
      rw [hhere] at hbody
      exact Option.some.inj hbody ▸ hle
    · rename_i hhere
      obtain ⟨before, hspan, hleftmost, hshortest⟩ := ih h
      refine ⟨c :: before, lineSpan_cons.2 ⟨rfl, hspan⟩, ?_, ?_⟩
      · -- nothing was found at the beginning, so every directive has `c` before it
        intro before' body' hspan'
        cases before' with
        | nil =>
          obtain ⟨_, hbody, -⟩ := exists_bodyHere?_of_lineSpan hspan'
          rw [hhere] at hbody
          cases hbody
        | cons d before' =>
          exact Nat.succ_le_succ (hleftmost before' body' (lineSpan_cons.1 hspan').2)
      · intro body' hspan'
        exact hshortest body' (lineSpan_cons.1 hspan').2

theorem body?_eq_some_iff (hfront : front ≠ []) {text body : List Char} :
    body? front back text = some body ↔ ∃ before, FirstSpan front back text before body := by
  constructor
  · exact exists_firstSpan_of_body?_eq_some
  · rintro ⟨before, h⟩
    cases hbody : body? front back text with
    | none => exact absurd h.lineSpan (not_lineSpan_of_body?_eq_none hfront hbody before body)
    | some body' =>
      obtain ⟨before', h'⟩ := exists_firstSpan_of_body?_eq_some hbody
      rw [(h.unique h').2]

theorem body?_eq_none_iff (hfront : front ≠ []) {text : List Char} :
    body? front back text = none ↔ ¬ ∃ before body, LineSpan front back text before body := by
  constructor
  · rintro h ⟨before, body, hspan⟩
    exact not_lineSpan_of_body?_eq_none hfront h before body hspan
  · intro hnone
    refine Option.eq_none_iff_forall_ne_some.2 fun body hbody => ?_
    obtain ⟨before, h⟩ := exists_firstSpan_of_body?_eq_some hbody
    exact hnone ⟨before, body, h.lineSpan⟩

/-! ## Searching in rounds -/

/-- What a round of the search comes to. -/
inductive Round where
  /-- There is no front delimiter. -/
  | ended
  | found (body : List Char)
  /-- The back delimiter is missing on the line, and this is left to be searched. -/
  | again (text : List Char)

/-- A round looks for the leftmost front delimiter, and for a back delimiter behind it on the line. -/
def round (front back text : List Char) : Round :=
  match cut? front text with
  | none => .ended
  | some (before, behind) =>
    match cut? back (firstLine behind) with
    | some (body, _) => .found body
    | none => .again (text.drop (before.length + 1))

/-- After how many rounds a search has which answer. -/
inductive Search (front back : List Char) : List Char → Nat → Option (List Char) → Prop where
  | ended {text : List Char} (h : round front back text = .ended) : Search front back text 1 none
  | found {text body : List Char} (h : round front back text = .found body) :
      Search front back text 1 (some body)
  | again {text left : List Char} {rounds : Nat} {answer : Option (List Char)}
      (h : round front back text = .again left) (rest : Search front back left rounds answer) :
      Search front back text (rounds + 1) answer

/-- A round leaves less text than there was. -/
theorem length_lt_of_round_eq_again (hfront : front ≠ []) {text left : List Char}
    (h : round front back text = .again left) : left.length < text.length := by
  unfold round at h
  split at h
  · cases h
  · rename_i before behind hcut
    split at h
    · cases h
    · obtain rfl := Round.again.inj h
      have hshorter := length_lt_of_cut? hfront hcut
      rw [List.length_drop]
      omega

/-- What a round passes over holds no directive. -/
theorem body?_eq_of_round (hfront : front ≠ []) (text : List Char) :
    body? front back text =
      match round front back text with
      | .ended => none
      | .found body => some body
      | .again left => body? front back left := by
  induction text with
  | nil =>
    rw [round, cut?_nil hfront]
    rfl
  | cons c cs ih =>
    rw [body?, bodyHere?]
    cases hafter : after? front (c :: cs) with
    | some behind =>
      have hcut : cut? front (c :: cs) = some ([], behind) := by
        rw [cut?, hafter]
      simp only [round, hcut, Option.bind_some]
      cases cut? back (firstLine behind) with
      | none => rfl
      | some cut => rfl
    | none =>
      -- the front delimiter does not stand here, so the round is that of the text behind
      cases hlater : cut? front cs with
      | none =>
        have hcut : cut? front (c :: cs) = none := by
          rw [cut?, hafter, hlater]
          rfl
        simp only [Option.bind_none, ih, round, hcut, hlater]
      | some cut =>
        obtain ⟨before, behind⟩ := cut
        have hcut : cut? front (c :: cs) = some (c :: before, behind) := by
          rw [cut?, hafter, hlater]
          rfl
        simp only [Option.bind_none, ih, round, hcut, hlater]
        cases cut? back (firstLine behind) with
        | none => rfl
        | some cut => rfl

/-- The search ends, with the body of the first directive as its answer. -/
theorem exists_search (hfront : front ≠ []) (text : List Char) :
    ∃ rounds ≤ text.length + 1, Search front back text rounds (body? front back text) := by
  induction hlength : text.length using Nat.strong_induction_on generalizing text with
  | _ length ih =>
    rw [body?_eq_of_round hfront]
    cases hround : round front back text with
    | ended => exact ⟨1, by omega, .ended hround⟩
    | found body => exact ⟨1, by omega, .found hround⟩
    | again left =>
      have hshorter := length_lt_of_round_eq_again hfront hround
      obtain ⟨rounds, hrounds, hsearch⟩ := ih left.length (by omega) left rfl
      exact ⟨rounds + 1, by omega, .again hround hsearch⟩

/-! ## Rules -/

/-- **The directive that is read is the first one that lies on one line.** For a rule with both
    delimiters, something is read exactly if the text can be split around a directive that lies on
    one line, and then it is the body with the least before it and, of these, the shortest. The
    search from front delimiter to front delimiter comes to this answer, after no more rounds than
    the text has characters, and one. With an empty delimiter nothing is read. -/
theorem extract?_eq_first_span (r : Rule) (text : String) :
    let front := r.front.toList
    let back := r.back.toList
    (r.front ≠ "" → r.back ≠ "" →
      (∀ body, extract? r text = some body ↔
        ∃ before, FirstSpan front back text.toList before body.toList) ∧
      (extract? r text = none ↔ ¬ ∃ before body, LineSpan front back text.toList before body) ∧
      ∃ rounds ≤ text.length + 1,
        Search front back text.toList rounds ((extract? r text).map String.toList)) ∧
    (r.front = "" ∨ r.back = "" → extract? r text = none) := by
  intro front back
  constructor
  · intro hfront hback
    have hne : front ≠ [] := mt String.toList_eq_nil_iff.1 hfront
    have henabled : r.isEnabled = true := by simp [Rule.isEnabled, hfront, hback]
    have hextract : extract? r text = (body? front back text.toList).map String.ofList := by
      rw [extract?, if_pos henabled]
    rw [hextract]
    refine ⟨?_, ?_, ?_⟩
    · intro body
      rw [← body?_eq_some_iff hne, Option.map_eq_some_iff]
      constructor
      · rintro ⟨found, hfound, rfl⟩
        rw [hfound, String.toList_ofList]
      · intro hfound
        exact ⟨body.toList, hfound, String.ofList_toList⟩
    · rw [Option.map_eq_none_iff, body?_eq_none_iff hne]
    · have hback (found : Option (List Char)) :
          (found.map String.ofList).map String.toList = found := by
        cases found with
        | none => rfl
        | some body => simp
      rw [hback]
      exact exists_search hne text.toList
  · intro hempty
    have hdisabled : ¬ r.isEnabled = true := by
      rcases hempty with h | h <;> simp [Rule.isEnabled, h]
    rw [extract?, if_neg hdisabled]

/-- A front delimiter that overlaps itself, after one that is not closed on its line. -/
theorem extract?_overlapping :
    let r : Rule := { front := "[[", back := "]]" }
    let text := "[[[a\n[[[b]]c]]"
    extract? r text = some "[b" ∧
      (r.front ≠ "" ∧ r.back ≠ "" ∧
        ∃ before, FirstSpan r.front.toList r.back.toList text.toList before "[b".toList) ∧
      (({ front := "", back := "]]" } : Rule).front = "" ∧
        extract? { front := "", back := "]]" } text = none) := by
  intro r text
  have hextract : extract? r text = some "[b" := by decide +kernel
  obtain ⟨hfirst, -⟩ := (extract?_eq_first_span r text).1 (by decide) (by decide)
  exact ⟨hextract, ⟨by decide, by decide, (hfirst "[b").1 hextract⟩, rfl,
    (extract?_eq_first_span _ text).2 (.inl rfl)⟩

end Directive

end Dramaturg
