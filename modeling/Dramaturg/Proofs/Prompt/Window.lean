import Dramaturg.Story.Basic
import Dramaturg.Proofs.Prompt.Provenance

set_option autoImplicit false

/-! # What a window holds

A compactor that could read on for ever would keep certain lines: `Compactor.kept` lists them, from
the newest to the oldest. A window of `n` messages is made of the first `n` of them, so that windows
of the same transcript differ only in how far back they reach. A prompt has two windows, one to be
searched for lore and one to be sent, and only the second moves the compactor on. -/

namespace Dramaturg

namespace Compactor

/-! ## The lines that are kept -/

/-- The lines that give messages, of lines that are read from the newest to the oldest. -/
def kept : List TranscriptEntry → Compactor → List TranscriptEntry
  | [], _ => []
  | e :: older, c => if c.qualifies e then e :: kept older (c.after e) else kept older c

/-- The compactor after lines that gave messages. -/
def afterAll (c : Compactor) (lines : List TranscriptEntry) : Compactor := lines.foldl after c

@[simp] theorem userName_after (c : Compactor) (e : TranscriptEntry) :
    (c.after e).userName = c.userName := by
  unfold after
  split
  · rfl
  · split <;> rfl

/-- What a line says does not depend on the lines before it. -/
@[simp] theorem message_after (c : Compactor) (e : TranscriptEntry) :
    (c.after e).message = c.message := by
  funext line
  simp [message]

@[simp] theorem userName_afterAll (c : Compactor) (lines : List TranscriptEntry) :
    (c.afterAll lines).userName = c.userName := by
  unfold afterAll
  induction lines generalizing c with
  | nil => rfl
  | cons e lines ih => simp [ih]

@[simp] theorem kept_nil (c : Compactor) : kept [] c = [] := rfl

theorem kept_cons_of_qualifies {c : Compactor} {e : TranscriptEntry} (h : c.qualifies e = true)
    (older : List TranscriptEntry) : kept (e :: older) c = e :: kept older (c.after e) := by
  simp [kept, h]

theorem kept_cons_of_not_qualifies {c : Compactor} {e : TranscriptEntry}
    (h : ¬ c.qualifies e = true) (older : List TranscriptEntry) :
    kept (e :: older) c = kept older c := by
  simp [kept, h]

theorem kept_append (newer older : List TranscriptEntry) (c : Compactor) :
    kept (newer ++ older) c = kept newer c ++ kept older (c.afterAll (kept newer c)) := by
  induction newer generalizing c with
  | nil => rfl
  | cons e newer ih =>
    by_cases h : c.qualifies e = true
    · simp [kept, h, ih, afterAll]
    · simp [kept, h, ih]

theorem kept_sublist (lines : List TranscriptEntry) (c : Compactor) :
    (kept lines c).Sublist lines := by
  induction lines generalizing c with
  | nil => exact .slnil
  | cons e older ih =>
    by_cases h : c.qualifies e = true
    · rw [kept_cons_of_qualifies h]
      exact (ih _).cons_cons e
    · rw [kept_cons_of_not_qualifies h]
      exact (ih c).cons e

/-- The messages that are collected are those of the first lines that are kept. -/
theorem collect_eq (n : Nat) (lines : List TranscriptEntry) (c : Compactor) :
    collect n lines c
      = (((kept lines c).take n).map c.message, c.afterAll ((kept lines c).take n)) := by
  induction lines generalizing n c with
  | nil => cases n <;> rfl
  | cons e older ih =>
    cases n with
    | zero => simp [collect, afterAll]
    | succ n =>
      by_cases h : c.qualifies e = true
      · simp [collect, kept, h, ih, afterAll]
      · simp [collect, kept, h, ih]

/-! ## Windows -/

/-- The lines that give a window of `n` messages, oldest first. -/
def window (c : Compactor) (transcript : List TranscriptEntry) (n : Nat) : List TranscriptEntry :=
  ((kept transcript.reverse c).take n).reverse

/-- The compactor after a window of `n` messages. -/
def afterWindow (c : Compactor) (transcript : List TranscriptEntry) (n : Nat) : Compactor :=
  c.afterAll ((kept transcript.reverse c).take n)

/-- Whether a list can hold `n` messages. -/
def HasRoom (n : Nat) : Prop := n * messageSize ≤ listLimit

instance (n : Nat) : Decidable (HasRoom n) :=
  inferInstanceAs (Decidable (n * messageSize ≤ listLimit))

theorem HasRoom.of_le {n m : Nat} (h : HasRoom m) (hle : n ≤ m) : HasRoom n :=
  (Nat.mul_le_mul_right messageSize hle).trans h

/-- What is read back is the window, if there is room for it. -/
theorem recent_eq (c : Compactor) (transcript : List TranscriptEntry) {n : Nat} (h : HasRoom n) :
    c.recent transcript n
      = .ok ((c.window transcript n).map c.message, c.afterWindow transcript n) := by
  unfold recent
  rw [if_neg (Nat.not_lt.2 h), collect_eq]
  simp [window, afterWindow]

/-- Without room nothing is read back, however little there is to read. -/
theorem recent_of_not_hasRoom (c : Compactor) (transcript : List TranscriptEntry) {n : Nat}
    (h : ¬ HasRoom n) : c.recent transcript n = .error .historyTooLong := by
  unfold recent
  rw [if_pos (Nat.lt_of_not_le h)]

theorem window_sublist (c : Compactor) (transcript : List TranscriptEntry) (n : Nat) :
    (c.window transcript n).Sublist transcript := by
  have hkept := ((List.take_sublist n _).trans (kept_sublist transcript.reverse c)).reverse
  rwa [List.reverse_reverse] at hkept

/-- A shorter window is the end of a longer one. -/
theorem window_eq_drop (c : Compactor) (transcript : List TranscriptEntry) {n m : Nat}
    (h : n ≤ m) :
    c.window transcript n
      = (c.window transcript m).drop ((c.window transcript m).length - n) := by
  have hfirst : (kept transcript.reverse c).take n = (c.window transcript m).reverse.take n := by
    simp [window, List.take_take, h]
  rw [window, hfirst, List.take_reverse, List.reverse_reverse]

theorem window_suffix (c : Compactor) (transcript : List TranscriptEntry) {n m : Nat} (h : n ≤ m) :
    c.window transcript n <:+ c.window transcript m := by
  rw [window_eq_drop c transcript h]
  exact List.drop_suffix _ _

end Compactor

/-! ## The windows of a prompt -/

namespace Story

variable (s : Story) (c : Compactor) (utterance : String) (transcript : List TranscriptEntry)

/-- What a prompt is assembled from: the lore that the one window finds, and the other window. -/
theorem promptInput_eq (hlore : Compactor.HasRoom s.settings.loreSearchLength)
    (hcontext : Compactor.HasRoom s.settings.contextItemLength) :
    s.promptInput c utterance transcript = .ok ({
      front := s.settings.prompts.front
      format := s.settings.prompts.format
      characters := s.catalog.characterMessages
      history := (c.window transcript s.settings.contextItemLength).map c.message
      lore := activeLore s.catalog.lore
        ((c.window transcript s.settings.loreSearchLength).map c.message ++ [.user utterance])
      utterance := utterance
      back := s.settings.prompts.back },
      c.afterWindow transcript s.settings.contextItemLength) := by
  unfold promptInput loreWindow
  rw [c.recent_eq transcript hlore, c.recent_eq transcript hcontext]
  rfl

/-- A prompt that has room for its windows is built, and moves the compactor on behind the window
    that it sends. -/
theorem exists_buildPrompt_eq (hlore : Compactor.HasRoom s.settings.loreSearchLength)
    (hcontext : Compactor.HasRoom s.settings.contextItemLength) :
    ∃ prompt, s.buildPrompt c utterance transcript
      = .ok (prompt, c.afterWindow transcript s.settings.contextItemLength) := by
  unfold buildPrompt
  rw [s.promptInput_eq c utterance transcript hlore hcontext]
  simp [Prompt.assemble_eq_pieces]

/-- Without room for both of its windows there is no prompt. -/
theorem buildPrompt_of_not_hasRoom
    (h : ¬ (Compactor.HasRoom s.settings.loreSearchLength ∧
      Compactor.HasRoom s.settings.contextItemLength)) :
    s.buildPrompt c utterance transcript = .error (.fault .historyTooLong) := by
  unfold buildPrompt promptInput loreWindow
  by_cases hlore : Compactor.HasRoom s.settings.loreSearchLength
  · have hcontext : ¬ Compactor.HasRoom s.settings.contextItemLength := fun hcontext =>
      h ⟨hlore, hcontext⟩
    rw [c.recent_eq transcript hlore, c.recent_of_not_hasRoom transcript hcontext]
    rfl
  · rw [c.recent_of_not_hasRoom transcript hlore]
    rfl

end Story

/-- **Windows agree.** Of the messages of a window, the last ones are those of a shorter window that
    is read from the same state. So of the two windows of a prompt, the one that is searched for
    lore and the one that is sent, the shorter is the end of the longer. The compactor after a prompt
    is that after the window that is sent, however long the other one is. -/
theorem Compactor.windows_agree (c : Compactor) (transcript : List TranscriptEntry) :
    (∀ n m, n ≤ m → HasRoom m →
      ∃ longer after after', c.recent transcript m = .ok (longer, after) ∧
        c.recent transcript n
          = .ok (longer.drop (longer.length - min n longer.length), after')) ∧
    ∀ (s : Story) (utterance : String), HasRoom s.settings.loreSearchLength →
      HasRoom s.settings.contextItemLength →
      ∃ searched after' sent after input prompt,
        c.recent transcript s.settings.loreSearchLength = .ok (searched, after') ∧
        c.recent transcript s.settings.contextItemLength = .ok (sent, after) ∧
        (s.settings.loreSearchLength ≤ s.settings.contextItemLength → searched <:+ sent) ∧
        (s.settings.contextItemLength ≤ s.settings.loreSearchLength → sent <:+ searched) ∧
        s.promptInput c utterance transcript = .ok (input, after) ∧
        input.history = sent ∧
        input.lore = activeLore s.catalog.lore (searched ++ [.user utterance]) ∧
        s.buildPrompt c utterance transcript = .ok (prompt, after) ∧
        ∀ length, HasRoom length →
          ∃ prompt', Story.buildPrompt
            { s with settings := { s.settings with loreSearchLength := length } }
            c utterance transcript = .ok (prompt', after) := by
  constructor
  · intro n m hle hroom
    refine ⟨_, _, c.afterWindow transcript n, c.recent_eq transcript hroom, ?_⟩
    have hlength : (c.window transcript m).length - min n (c.window transcript m).length
        = (c.window transcript m).length - n := by omega
    rw [c.recent_eq transcript (hroom.of_le hle), c.window_eq_drop transcript hle,
      List.map_drop, List.length_map, hlength]
  · intro s utterance hlore hcontext
    obtain ⟨prompt, hprompt⟩ := s.exists_buildPrompt_eq c utterance transcript hlore hcontext
    refine ⟨_, _, _, _, _, prompt, c.recent_eq transcript hlore, c.recent_eq transcript hcontext,
      ?_, ?_, s.promptInput_eq c utterance transcript hlore hcontext, rfl, rfl, hprompt, ?_⟩
    · intro hle
      exact (c.window_suffix transcript hle).map c.message
    · intro hle
      exact (c.window_suffix transcript hle).map c.message
    · intro length hroom
      exact Story.exists_buildPrompt_eq _ c utterance transcript hroom hcontext

/-- A transcript with a reply of two pages. -/
def smallTalk : List TranscriptEntry :=
  [.scripted "Player" "Hello?", .generated "Alice" "Hi!" "p1" "Hi! Come in.",
    .generated "Alice" "Come in." "p1" "Hi! Come in.", .scripted "Player" "Thanks."]

/-- The last message is the end of the last two, and a prompt of a story without settings searches
    the end of what it sends. -/
theorem windows_agree_smallTalk :
    let c : Compactor := ⟨"Player", "...", none⟩
    let s : Story := Story.new {}
    Compactor.HasRoom 2 ∧
      c.recent smallTalk 2
        = .ok ([.assistant "Hi! Come in.", .user "Thanks."], { c with lastParagraph := some "p1" }) ∧
      (∃ after, c.recent smallTalk 1 = .ok ([.user "Thanks."], after)) ∧
      Compactor.HasRoom s.settings.loreSearchLength ∧
      Compactor.HasRoom s.settings.contextItemLength ∧
      ∃ searched after' sent after,
        c.recent smallTalk s.settings.loreSearchLength = .ok (searched, after') ∧
        c.recent smallTalk s.settings.contextItemLength = .ok (sent, after) ∧
        searched <:+ sent := by
  intro c s
  have hroom : Compactor.HasRoom 2 := by decide
  have hcontext : Compactor.HasRoom s.settings.contextItemLength := by decide
  have htwo : c.recent smallTalk 2 = .ok ([.assistant "Hi! Come in.", .user "Thanks."],
      { c with lastParagraph := some "p1" }) := by decide
  obtain ⟨hshorter, hprompt⟩ := c.windows_agree smallTalk
  obtain ⟨longer, after, after', hlonger, hone⟩ := hshorter 1 2 (by decide) hroom
  obtain ⟨rfl, -⟩ := Prod.mk.inj (Except.ok.inj (hlonger.symm.trans htwo))
  obtain ⟨searched, consulted, sent, left, _, _, hsearched, hsent, hsuffix, -⟩ :=
    hprompt s "Bye." hroom hcontext
  exact ⟨hroom, htwo, ⟨after', hone⟩, hroom, hcontext, searched, consulted, sent, left, hsearched,
    hsent, hsuffix (by decide)⟩

end Dramaturg
