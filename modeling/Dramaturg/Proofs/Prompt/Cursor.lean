import Dramaturg.Proofs.Prompt.Pages

set_option autoImplicit false

/-! # A compactor that forgets

A compactor passes over the lines of the reply that it met last. One that has forgotten the reply
keeps the newest of these lines, unless another reply comes before it: from there on the two read
the same. So the first line that could tell them apart decides whether their windows differ. -/

namespace Dramaturg

namespace Compactor

/-- The compactor before it has met a reply. -/
def forget (c : Compactor) : Compactor := { c with lastParagraph := none }

/-- Whether a line is one of the reply that was met last. -/
def isLast (c : Compactor) (e : TranscriptEntry) : Bool :=
  e.paragraph?.isSome && e.paragraph? == c.lastParagraph

/-- Whether lines that are read from the newest to the oldest come to the reply that was met last,
    and to no other reply before it. -/
def meetsAgain (c : Compactor) : List TranscriptEntry → Bool
  | [] => false
  | e :: older => c.isLast e || !c.isReply e && c.meetsAgain older

variable (c : Compactor) (e : TranscriptEntry)

@[simp] theorem message_forget : c.forget.message = c.message := rfl

@[simp] theorem forget_after : (c.after e).forget = c.forget := by
  unfold after
  split
  · rfl
  · split <;> rfl

@[simp] theorem forget_afterAll (lines : List TranscriptEntry) :
    (c.afterAll lines).forget = c.forget := by
  unfold afterAll
  induction lines generalizing c with
  | nil => rfl
  | cons e lines ih => rw [List.foldl_cons, ih, forget_after]

theorem qualifies_iff :
    c.qualifies e = true ↔ c.forget.qualifies e = true ∧ ¬ c.isLast e = true := by
  cases hp : e.paragraph? with
  | none => simp [qualifies, isLast, forget, hp]
  | some p => simp [qualifies, isLast, forget, hp, and_comm]

variable {c e}

/-- A reply sets both to the same. -/
theorem after_forget_of_isReply (h : c.isReply e = true) : c.forget.after e = c.after e := by
  obtain ⟨hspeaker, hsome⟩ := isReply_iff.1 h
  obtain ⟨p, hp⟩ := Option.isSome_iff_exists.1 hsome
  have hspeaker' : e.speakerName ≠ c.forget.userName := hspeaker
  rw [after_of_paragraph? hspeaker hp, after_of_paragraph? hspeaker' hp]
  rfl

theorem after_forget_of_not_isReply (h : ¬ c.isReply e = true) : c.forget.after e = c.forget :=
  after_of_not_isReply h

/-- After the same lines the two are the same, or else neither has met a reply. -/
theorem afterAll_forget (c : Compactor) (lines : List TranscriptEntry) :
    c.forget.afterAll lines = c.afterAll lines ∨
      c.forget.afterAll lines = c.forget ∧ c.afterAll lines = c := by
  unfold afterAll
  induction lines with
  | nil => exact .inr ⟨rfl, rfl⟩
  | cons e lines ih =>
    rw [List.foldl_cons, List.foldl_cons]
    by_cases hreply : c.isReply e = true
    · exact .inl (by rw [after_forget_of_isReply hreply])
    · rw [after_forget_of_not_isReply hreply, after_of_not_isReply hreply]
      exact ih

/-! ## Windows -/

/-- The first line that is kept is not of the reply that was met last. -/
theorem not_isLast_of_kept_eq_cons {lines older : List TranscriptEntry}
    (h : kept lines c = e :: older) : ¬ c.isLast e = true := by
  induction lines with
  | nil => cases h
  | cons line lines ih =>
    by_cases hkept : c.qualifies line = true
    · rw [kept_cons_of_qualifies hkept] at h
      obtain ⟨rfl, -⟩ := List.cons.inj h
      exact ((qualifies_iff c line).1 hkept).2
    · rw [kept_cons_of_not_qualifies hkept] at h
      exact ih h

theorem cons_ne_take_kept (h : c.isLast e = true) (lines older : List TranscriptEntry) (n : Nat) :
    e :: lines ≠ (kept older c).take n := by
  intro heq
  cases hrest : kept older c with
  | nil =>
    rw [hrest, List.take_nil] at heq
    cases heq
  | cons line rest =>
    cases n with
    | zero => cases heq
    | succ n =>
      rw [hrest, List.take_succ_cons] at heq
      obtain ⟨rfl, -⟩ := List.cons.inj heq
      exact not_isLast_of_kept_eq_cons hrest h

/-- The two keep the same of the first `n` lines, if and only if the one that has forgotten does not
    meet the reply again. -/
theorem take_kept_forget_iff (c : Compactor) (lines : List TranscriptEntry) (n : Nat) :
    (kept lines c.forget).take n = (kept lines c).take n ↔
      c.meetsAgain ((kept lines c.forget).take n) = false := by
  induction lines generalizing n with
  | nil => simp [meetsAgain]
  | cons e older ih =>
    by_cases hforget : c.forget.qualifies e = true
    · rw [kept_cons_of_qualifies hforget]
      cases n with
      | zero => simp [meetsAgain]
      | succ n =>
        rw [List.take_succ_cons]
        by_cases hlast : c.isLast e = true
        · -- Only the one that has forgotten keeps the line.
          have hkept : ¬ c.qualifies e = true := fun hkept => ((qualifies_iff c e).1 hkept).2 hlast
          rw [kept_cons_of_not_qualifies hkept]
          exact iff_of_false (cons_ne_take_kept hlast _ older (n + 1)) (by simp [meetsAgain, hlast])
        · have hkept : c.qualifies e = true := (qualifies_iff c e).2 ⟨hforget, hlast⟩
          rw [kept_cons_of_qualifies hkept, List.take_succ_cons]
          by_cases hreply : c.isReply e = true
          · rw [after_forget_of_isReply hreply]
            simp [meetsAgain, hlast, hreply]
          · rw [after_forget_of_not_isReply hreply, after_of_not_isReply hreply]
            simpa [meetsAgain, hlast, hreply] using ih n
    · have hkept : ¬ c.qualifies e = true := fun hkept => hforget ((qualifies_iff c e).1 hkept).1
      rw [kept_cons_of_not_qualifies hforget, kept_cons_of_not_qualifies hkept]
      exact ih n

/-- Windows of the two differ, if and only if the one that has forgotten meets the reply again. -/
theorem window_forget_iff (c : Compactor) (transcript : List TranscriptEntry) (n : Nat) :
    c.forget.window transcript n = c.window transcript n ↔
      c.meetsAgain (c.forget.window transcript n).reverse = false := by
  rw [window, window, List.reverse_inj, List.reverse_reverse, take_kept_forget_iff]

theorem afterWindow_forget (c : Compactor) {transcript : List TranscriptEntry} {n : Nat}
    (h : c.forget.window transcript n = c.window transcript n) :
    c.forget.afterWindow transcript n = c.afterWindow transcript n ∨
      c.forget.afterWindow transcript n = c.forget ∧ c.afterWindow transcript n = c := by
  unfold afterWindow
  rw [List.reverse_inj.1 h]
  exact c.afterAll_forget _

end Compactor

/-! ## Prompts -/

namespace Story

/-- How many messages a prompt looks back over. -/
def lookback (s : Story) : Nat := max s.settings.loreSearchLength s.settings.contextItemLength

variable (s : Story) (utterance : String) (transcript : List TranscriptEntry)

/-- A prompt forgets nothing but the reply that was met last. -/
theorem forget_of_buildPrompt {c c' : Compactor} {messages : List Message}
    (h : s.buildPrompt c utterance transcript = .ok (messages, c')) : c'.forget = c.forget := by
  by_cases hroom : Compactor.HasRoom s.settings.loreSearchLength ∧
    Compactor.HasRoom s.settings.contextItemLength
  · obtain ⟨prompt, hprompt⟩ := s.exists_buildPrompt_eq c utterance transcript hroom.1 hroom.2
    rw [hprompt] at h
    obtain ⟨-, rfl⟩ := Prod.mk.inj (Except.ok.inj h)
    exact c.forget_afterAll _
  · rw [s.buildPrompt_of_not_hasRoom c utterance transcript hroom] at h
    cases h

/-- A compactor that has forgotten the reply gives the same prompt as long as its window is the
    same. Afterwards the two are the same, or else neither has met a reply. -/
theorem buildPrompt_forget (c : Compactor)
    (hwindow : c.forget.window transcript s.lookback = c.window transcript s.lookback) :
    (∃ fault, s.buildPrompt c utterance transcript = .error (.fault fault) ∧
        s.buildPrompt c.forget utterance transcript = .error (.fault fault)) ∨
      ∃ messages after after', s.buildPrompt c utterance transcript = .ok (messages, after) ∧
        s.buildPrompt c.forget utterance transcript = .ok (messages, after') ∧
        (after' = after ∨ after' = c.forget ∧ after = c) := by
  by_cases hroom : Compactor.HasRoom s.settings.loreSearchLength ∧
    Compactor.HasRoom s.settings.contextItemLength
  · obtain ⟨hlore, hcontext⟩ := hroom
    have hshorter {n : Nat} (hn : n ≤ s.lookback) :
        c.forget.window transcript n = c.window transcript n := by
      rw [c.forget.window_eq_drop transcript hn, c.window_eq_drop transcript hn, hwindow]
    have hsearched := hshorter (n := s.settings.loreSearchLength) (Nat.le_max_left _ _)
    have hsent := hshorter (n := s.settings.contextItemLength) (Nat.le_max_right _ _)
    have hinput := s.promptInput_eq c utterance transcript hlore hcontext
    have hinput' := s.promptInput_eq c.forget utterance transcript hlore hcontext
    rw [Compactor.message_forget, hsearched, hsent] at hinput'
    unfold buildPrompt
    rw [hinput, hinput']
    simp only [Prompt.assemble_eq_pieces]
    exact .inr ⟨_, _, _, rfl, rfl, c.afterWindow_forget hsent⟩
  · exact .inl ⟨_, s.buildPrompt_of_not_hasRoom c utterance transcript hroom,
      s.buildPrompt_of_not_hasRoom c.forget utterance transcript hroom⟩

end Story

end Dramaturg
