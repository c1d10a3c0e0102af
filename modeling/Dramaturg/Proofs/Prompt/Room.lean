import Dramaturg.Proofs.Prompt.Cursor
import Mathlib.Algebra.Group.Nat.Defs

set_option autoImplicit false

/-! # Windows of any length

Room for a window is taken before any line is read, for as many messages as are asked for and not
for as many as there are lines. A message takes 32 bytes, so that a length of `2 ^ 58` or more asks
for a list that cannot be, however short the transcript is, and documents may ask for any length
below `2 ^ 64`. `recent_returns_iff` says that these lengths alone give no window, and settings with
one of them no prompt. A shorter length that is not below that of the transcript is as good as that
of the transcript. -/

namespace Dramaturg

namespace Compactor

/-- A length of `2 ^ 58` messages is the first that no list can have. -/
theorem hasRoom_iff {n : Nat} : HasRoom n ↔ n < 2 ^ 58 := by
  have hlimit : listLimit = 32 * 2 ^ 58 - 1 := rfl
  rw [HasRoom, hlimit, messageSize]
  omega

variable (c : Compactor) (transcript : List TranscriptEntry)

/-! ## How much a window holds -/

theorem length_window_le (n : Nat) :
    (c.window transcript n).length ≤ min n transcript.length := by
  have hlines := (c.window_sublist transcript n).length_le
  have hasked : (c.window transcript n).length ≤ n := by
    rw [window, List.length_reverse]
    exact List.length_take_le _ _
  exact Nat.le_min.2 ⟨hasked, hlines⟩

/-- More lines than there are are never kept. -/
theorem take_kept_of_length_le {n : Nat} (h : transcript.length ≤ n) :
    (kept transcript.reverse c).take n = (kept transcript.reverse c).take transcript.length := by
  have hkept : (kept transcript.reverse c).length ≤ transcript.length := by
    have hlines : transcript.reverse.length = transcript.length := List.length_reverse
    rw [← hlines]
    exact (kept_sublist transcript.reverse c).length_le
  rw [List.take_of_length_le hkept, List.take_of_length_le (Nat.le_trans hkept h)]

/-! ## Which lengths give a window -/

theorem exists_recent_eq_ok_iff {n : Nat} :
    (∃ messages after, c.recent transcript n = .ok (messages, after)) ↔ n < 2 ^ 58 := by
  rw [← hasRoom_iff]
  constructor
  · rintro ⟨messages, after, hrecent⟩
    by_contra hroom
    rw [c.recent_of_not_hasRoom transcript hroom] at hrecent
    cases hrecent
  · intro hroom
    exact ⟨_, _, c.recent_eq transcript hroom⟩

theorem recent_eq_historyTooLong_iff {n : Nat} :
    c.recent transcript n = .error .historyTooLong ↔ 2 ^ 58 ≤ n := by
  rw [← Nat.not_lt, ← hasRoom_iff]
  constructor
  · intro hrecent hroom
    rw [c.recent_eq transcript hroom] at hrecent
    cases hrecent
  · exact c.recent_of_not_hasRoom transcript

end Compactor

namespace Story

variable (s : Story) (c : Compactor) (utterance : String) (transcript : List TranscriptEntry)

theorem exists_buildPrompt_eq_ok_iff :
    (∃ prompt after, s.buildPrompt c utterance transcript = .ok (prompt, after)) ↔
      s.settings.loreSearchLength < 2 ^ 58 ∧ s.settings.contextItemLength < 2 ^ 58 := by
  rw [← Compactor.hasRoom_iff, ← Compactor.hasRoom_iff]
  constructor
  · rintro ⟨prompt, after, hprompt⟩
    by_contra hnone
    rw [s.buildPrompt_of_not_hasRoom c utterance transcript hnone] at hprompt
    cases hprompt
  · rintro ⟨hlore, hcontext⟩
    obtain ⟨prompt, hprompt⟩ := s.exists_buildPrompt_eq c utterance transcript hlore hcontext
    exact ⟨prompt, _, hprompt⟩

theorem buildPrompt_eq_historyTooLong_iff :
    s.buildPrompt c utterance transcript = .error (.fault .historyTooLong) ↔
      2 ^ 58 ≤ s.settings.loreSearchLength ∨ 2 ^ 58 ≤ s.settings.contextItemLength := by
  rw [← Nat.not_lt, ← Nat.not_lt, ← not_and_or, ← Compactor.hasRoom_iff, ← Compactor.hasRoom_iff]
  constructor
  · rintro hfault ⟨hlore, hcontext⟩
    obtain ⟨prompt, hprompt⟩ := s.exists_buildPrompt_eq c utterance transcript hlore hcontext
    rw [hprompt] at hfault
    cases hfault
  · exact s.buildPrompt_of_not_hasRoom c utterance transcript

end Story

namespace Compactor

variable (c : Compactor) (transcript : List TranscriptEntry)

/-- **Which lengths give a window, and which settings a prompt.** There is a window of any length
    below `2 ^ 58`, and for all others the work stops with the fault that a list cannot hold so much.
    A window that is given has no more messages than were asked for and no more than there are lines,
    and if the length is not below that of the transcript, the window and the compactor after it are
    those of the transcript's length. A prompt is given if both its windows are, and else its work
    stops with the same fault. -/
theorem recent_returns_iff :
    (∀ n, ((∃ messages after, c.recent transcript n = .ok (messages, after)) ↔ n < 2 ^ 58) ∧
      (c.recent transcript n = .error .historyTooLong ↔ 2 ^ 58 ≤ n)) ∧
    (∀ n messages after, c.recent transcript n = .ok (messages, after) →
      messages.length ≤ min n transcript.length ∧
      (transcript.length ≤ n →
        c.recent transcript transcript.length = .ok (messages, after))) ∧
    ∀ (s : Story) (utterance : String),
      ((∃ prompt after, s.buildPrompt c utterance transcript = .ok (prompt, after)) ↔
        s.settings.loreSearchLength < 2 ^ 58 ∧ s.settings.contextItemLength < 2 ^ 58) ∧
      (s.buildPrompt c utterance transcript = .error (.fault .historyTooLong) ↔
        2 ^ 58 ≤ s.settings.loreSearchLength ∨ 2 ^ 58 ≤ s.settings.contextItemLength) := by
  refine ⟨?_, ?_, ?_⟩
  · intro n
    exact ⟨c.exists_recent_eq_ok_iff transcript, c.recent_eq_historyTooLong_iff transcript⟩
  · intro n messages after hrecent
    have hroom : HasRoom n :=
      hasRoom_iff.2 ((c.exists_recent_eq_ok_iff transcript).1 ⟨messages, after, hrecent⟩)
    rw [c.recent_eq transcript hroom] at hrecent
    obtain ⟨rfl, rfl⟩ := Prod.mk.inj (Except.ok.inj hrecent)
    refine ⟨?_, ?_⟩
    · rw [List.length_map]
      exact c.length_window_le transcript n
    · intro hlength
      have htake := c.take_kept_of_length_le transcript hlength
      rw [c.recent_eq transcript (hroom.of_le hlength), window, window, afterWindow, afterWindow,
        htake]
  · intro s utterance
    exact ⟨s.exists_buildPrompt_eq_ok_iff c utterance transcript,
      s.buildPrompt_eq_historyTooLong_iff c utterance transcript⟩

/-- A transcript of one line. -/
def downpour : List TranscriptEntry := [.scripted "Narrator" "It is raining."]

/-- One line gives one message, also when ten are asked for or as many as a list can hold, and a
    prompt of a story without settings. -/
theorem recent_downpour :
    let c : Compactor := ⟨"Player", "...", none⟩
    downpour.length ≤ 2 ^ 58 - 1 ∧
      c.recent downpour (2 ^ 58 - 1) = .ok ([.system "Narrator:It is raining."], c) ∧
      c.recent downpour downpour.length = .ok ([.system "Narrator:It is raining."], c) ∧
      ∃ prompt after, (Story.new {}).buildPrompt c "Who is there?" downpour
        = .ok (prompt, after) := by
  intro c
  have hone : c.recent downpour downpour.length
      = .ok ([.system "Narrator:It is raining."], c) := by decide
  obtain ⟨hlengths, hsame, hprompts⟩ := c.recent_returns_iff downpour
  obtain ⟨messages, after, hmost⟩ := (hlengths (2 ^ 58 - 1)).1.2 (by decide)
  obtain ⟨-, hless⟩ := hsame _ _ _ hmost
  obtain ⟨rfl, rfl⟩ := Prod.mk.inj (Except.ok.inj ((hless (by decide)).symm.trans hone))
  obtain ⟨hprompt, -⟩ := hprompts (Story.new {}) "Who is there?"
  exact ⟨by decide, hmost, hone, hprompt.2 ⟨by decide, by decide⟩⟩

/-- A document that asks for the longest window there is a number for. -/
def boundlessMemory : Json := .object [("context_item_length", .ofNat (2 ^ 64 - 1))]

/-- Under that document one line is too much, though a window of one message holds all there is. -/
theorem recent_boundless :
    let c : Compactor := ⟨"Player", "...", none⟩
    let s := (Story.new {}).loadDocument "global" boundlessMemory
    s.settings.contextItemLength = 2 ^ 64 - 1 ∧
      downpour.length ≤ s.settings.contextItemLength ∧
      c.recent downpour downpour.length = .ok ([.system "Narrator:It is raining."], c) ∧
      c.recent downpour s.settings.contextItemLength = .error .historyTooLong ∧
      s.buildPrompt c "Who is there?" downpour = .error (.fault .historyTooLong) := by
  intro c s
  have hlength : s.settings.contextItemLength = 2 ^ 64 - 1 := by decide +kernel
  refine ⟨hlength, ?_, by decide, ?_, by decide +kernel⟩
  · rw [hlength]
    decide
  · rw [hlength]
    decide

end Compactor

end Dramaturg
