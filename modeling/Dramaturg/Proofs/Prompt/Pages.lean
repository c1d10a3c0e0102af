import Dramaturg.Proofs.Prompt.Window
import Mathlib.Data.List.Chain

set_option autoImplicit false

/-! # The pages of a reply in a window

A compactor that has kept a page of a reply passes over the pages before it, and so a reply whose
pages stand together gives one message. `recent_append_pages` says it of a reply at the end of a
transcript, where the rest of the window is that of a compactor which has met the reply already, of
a reply anywhere in it, and of any two replies that are neighbours in a window. -/

namespace Dramaturg.Compactor

/-! ## Pages -/

/-- A page of a reply, under the name of a paragraph, that a compactor does not pass over as noise
    or take for the player's. -/
structure IsPage (c : Compactor) (paragraph reply : String) (e : TranscriptEntry) : Prop where
  paragraphId_eq : e.paragraphId = some paragraph
  fullReply_eq : e.fullReply = reply
  speaker_ne_user : e.speakerName ≠ c.userName
  speaker_ne_debug : e.speakerName ≠ debugSpeaker
  shown_ne_empty : e.shownText ≠ ""
  shown_ne_waiting : e.shownText ≠ c.waitingInfo

/-- The compactor that met a paragraph last. -/
def met (c : Compactor) (paragraph : String) : Compactor :=
  { c with lastParagraph := some paragraph }

/-- Whether a line is kept as a reply. -/
def isReply (c : Compactor) (e : TranscriptEntry) : Bool :=
  decide ((c.message e).role = .assistant)

section

variable {c : Compactor} {paragraph reply : String} {e : TranscriptEntry}

theorem IsPage.paragraph?_eq (h : c.IsPage paragraph reply e) (hp : paragraph ≠ "") :
    e.paragraph? = some paragraph := by
  simp [TranscriptEntry.paragraph?, h.paragraphId_eq, hp]

theorem IsPage.qualifies (h : c.IsPage paragraph reply e) (hp : paragraph ≠ "")
    (hlast : c.lastParagraph ≠ some paragraph) : c.qualifies e = true := by
  have hother : ¬ some paragraph = c.lastParagraph := fun heq => hlast heq.symm
  simp [Compactor.qualifies, h.paragraph?_eq hp, hother, h.shown_ne_empty, h.shown_ne_waiting,
    h.speaker_ne_debug]

theorem IsPage.message_eq (h : c.IsPage paragraph reply e) (hp : paragraph ≠ "") :
    c.message e = .assistant reply := by
  simp [message, h.speaker_ne_user, h.paragraph?_eq hp, h.fullReply_eq]

theorem after_of_paragraph? (hspeaker : e.speakerName ≠ c.userName)
    (hp : e.paragraph? = some paragraph) : c.after e = c.met paragraph := by
  simp [after, met, hspeaker, hp]

/-- A reply is what another than the player said under the name of a paragraph. -/
theorem isReply_iff : c.isReply e = true ↔ e.speakerName ≠ c.userName ∧ e.paragraph?.isSome := by
  unfold isReply message
  by_cases hspeaker : e.speakerName = c.userName
  · simp [hspeaker, Message.user]
  · cases hp : e.paragraph? with
    | none => simp [hspeaker, Message.system]
    | some p => simp [hspeaker, Message.assistant]

theorem after_of_not_isReply (h : ¬ c.isReply e = true) : c.after e = c := by
  rw [isReply_iff, not_and_or, not_not] at h
  unfold after
  by_cases hspeaker : e.speakerName = c.userName
  · rw [if_pos hspeaker]
  · have hp : e.paragraph? = none := by simpa [hspeaker] using h
    rw [if_neg hspeaker, hp]

@[simp] theorem isReply_after : (c.after e).isReply = c.isReply := by
  funext line
  simp [isReply]

/-! ## Pages that stand together -/

/-- The lines of the paragraph that was met last are passed over. -/
theorem not_qualifies_of_met (hp : e.paragraph? = some paragraph)
    (hlast : c.lastParagraph = some paragraph) : ¬ c.qualifies e = true := by
  simp [Compactor.qualifies, hp, hlast]

variable {lines : List TranscriptEntry}

theorem kept_of_met (hlines : ∀ e ∈ lines, e.paragraph? = some paragraph)
    (hlast : c.lastParagraph = some paragraph) : kept lines c = [] := by
  induction lines with
  | nil => rfl
  | cons e older ih =>
    rw [kept_cons_of_not_qualifies (not_qualifies_of_met (hlines e List.mem_cons_self) hlast)]
    exact ih fun line hline => hlines line (List.mem_cons_of_mem e hline)

/-- Of lines of one paragraph, none of which is the player's, one at most is kept. -/
theorem length_kept_le_one (hlines : ∀ e ∈ lines, e.paragraph? = some paragraph)
    (hspeaker : ∀ e ∈ lines, e.speakerName ≠ c.userName) : (kept lines c).length ≤ 1 := by
  induction lines with
  | nil => simp
  | cons e older ih =>
    have holder : ∀ line ∈ older, line.paragraph? = some paragraph :=
      fun line hline => hlines line (List.mem_cons_of_mem e hline)
    by_cases hkept : c.qualifies e = true
    · have hafter : c.after e = c.met paragraph :=
        after_of_paragraph? (hspeaker e List.mem_cons_self) (hlines e List.mem_cons_self)
      rw [kept_cons_of_qualifies hkept, hafter, kept_of_met holder rfl]
      simp
    · rw [kept_cons_of_not_qualifies hkept]
      exact ih holder fun line hline => hspeaker line (List.mem_cons_of_mem e hline)

/-- Of the pages of a reply the newest is kept, and what comes before them is read as if the reply
    had been met already. -/
theorem kept_pages_append {first : TranscriptEntry} (hp : paragraph ≠ "")
    (hfirst : c.IsPage paragraph reply first) (hlines : ∀ e ∈ lines, c.IsPage paragraph reply e)
    (hlast : c.lastParagraph ≠ some paragraph) (older : List TranscriptEntry) :
    kept (first :: lines ++ older) c = first :: kept older (c.met paragraph) := by
  have hafter : c.after first = c.met paragraph :=
    after_of_paragraph? hfirst.speaker_ne_user (hfirst.paragraph?_eq hp)
  have hpages : kept lines (c.met paragraph) = [] :=
    kept_of_met (fun e he => (hlines e he).paragraph?_eq hp) rfl
  rw [List.cons_append, kept_cons_of_qualifies (hfirst.qualifies hp hlast), hafter, kept_append,
    hpages]
  rfl

/-! ## Neighbouring replies -/

/-- No two replies that are kept one after the other are of the same paragraph, nor is the first of
    them of the paragraph that was met last. -/
theorem isChain_kept (lines : List TranscriptEntry) (c : Compactor) :
    List.IsChain (· ≠ ·)
      (c.lastParagraph :: ((kept lines c).filter c.isReply).map (·.paragraph?)) := by
  induction lines generalizing c with
  | nil => simp
  | cons e older ih =>
    by_cases hkept : c.qualifies e = true
    · have hrest := ih (c.after e)
      rw [isReply_after] at hrest
      rw [kept_cons_of_qualifies hkept]
      by_cases hreply : c.isReply e = true
      · obtain ⟨hspeaker, hsome⟩ := isReply_iff.1 hreply
        obtain ⟨paragraph, hp⟩ := Option.isSome_iff_exists.1 hsome
        have hother : c.lastParagraph ≠ some paragraph :=
          fun hlast => not_qualifies_of_met hp hlast hkept
        rw [after_of_paragraph? hspeaker hp] at hrest
        rw [List.filter_cons_of_pos hreply, List.map_cons, hp, after_of_paragraph? hspeaker hp]
        exact hrest.cons_cons hother
      · rw [after_of_not_isReply hreply] at hrest
        rw [List.filter_cons_of_neg hreply, after_of_not_isReply hreply]
        exact hrest
    · rw [kept_cons_of_not_qualifies hkept]
      exact ih c

end

/-! ## Pages in a window -/

variable (c : Compactor)

/-- The window at whose end the pages of a reply stand: the reply, and before it the window of a
    compactor that has met the reply already. -/
theorem window_append_pages {block : List TranscriptEntry} {paragraph reply : String} {n : Nat}
    (hblock : block ≠ []) (hp : paragraph ≠ "") (hpages : ∀ e ∈ block, c.IsPage paragraph reply e)
    (hlast : c.lastParagraph ≠ some paragraph) (hn : 0 < n) (transcript : List TranscriptEntry) :
    (c.window (transcript ++ block) n).map c.message
        = ((c.met paragraph).window transcript (n - 1)).map c.message ++ [.assistant reply] ∧
      c.afterWindow (transcript ++ block) n = (c.met paragraph).afterWindow transcript (n - 1) := by
  obtain ⟨k, rfl⟩ := Nat.exists_eq_succ_of_ne_zero hn.ne'
  -- The newest page is the last of the block, and the first that is read.
  obtain ⟨earlier, newest, rfl⟩ : ∃ earlier newest, block = earlier ++ [newest] :=
    ⟨_, _, (List.dropLast_append_getLast hblock).symm⟩
  have hnewest : c.IsPage paragraph reply newest := hpages newest (by simp)
  have hearlier : ∀ e ∈ earlier.reverse, c.IsPage paragraph reply e :=
    fun e he => hpages e (List.mem_append_left _ (List.mem_reverse.1 he))
  have hreverse : (transcript ++ (earlier ++ [newest])).reverse
      = newest :: earlier.reverse ++ transcript.reverse := by simp
  have hkept : kept (transcript ++ (earlier ++ [newest])).reverse c
      = newest :: kept transcript.reverse (c.met paragraph) := by
    rw [hreverse]
    exact kept_pages_append hp hnewest hearlier hlast transcript.reverse
  have hafter : c.after newest = c.met paragraph :=
    after_of_paragraph? hnewest.speaker_ne_user (hnewest.paragraph?_eq hp)
  unfold window afterWindow afterAll
  rw [hkept]
  constructor
  · simp [hnewest.message_eq hp]
  · simp [hafter]

/-- A reply whose pages stand together, wherever they do, has one line in a window at most. -/
theorem length_filter_window_le_one {before block after : List TranscriptEntry} {paragraph : String}
    (hblock : ∀ e ∈ block, e.paragraph? = some paragraph)
    (hspeaker : ∀ e ∈ block, e.speakerName ≠ c.userName)
    (hothers : ∀ e ∈ before ++ after, e.paragraph? ≠ some paragraph) (n : Nat) :
    ((c.window (before ++ block ++ after) n).filter
      fun e => decide (e.paragraph? = some paragraph)).length ≤ 1 := by
  have hnone (lines : List TranscriptEntry) (d : Compactor)
      (hlines : ∀ e ∈ lines, e ∈ before ++ after) :
      (kept lines d).filter (fun e => decide (e.paragraph? = some paragraph)) = [] := by
    rw [List.filter_eq_nil_iff]
    intro e he
    simpa using hothers e (hlines e ((kept_sublist lines d).subset he))
  have hreverse : (before ++ block ++ after).reverse
      = after.reverse ++ (block.reverse ++ before.reverse) := by simp
  let between := c.afterAll (kept after.reverse c)
  have hpages : ∀ e ∈ block.reverse, e.paragraph? = some paragraph :=
    fun e he => hblock e (List.mem_reverse.1 he)
  have hone : (kept block.reverse between).length ≤ 1 := by
    apply length_kept_le_one hpages
    intro e he
    rw [userName_afterAll]
    exact hspeaker e (List.mem_reverse.1 he)
  have hnewer := hnone after.reverse c (by simp +contextual)
  have holder (d : Compactor) := hnone before.reverse d (by simp +contextual)
  have hall : ((kept (before ++ block ++ after).reverse c).filter
      fun e => decide (e.paragraph? = some paragraph)).length ≤ 1 := by
    rw [hreverse, kept_append, kept_append, List.filter_append, List.filter_append, hnewer, holder,
      List.nil_append, List.append_nil]
    exact (List.length_filter_le _ _).trans hone
  rw [window, List.filter_reverse, List.length_reverse]
  exact (((List.take_sublist n _).filter _).length_le).trans hall

/-- Neighbouring replies of a window are of different paragraphs. -/
theorem isChain_window (transcript : List TranscriptEntry) (n : Nat) :
    List.IsChain (· ≠ ·) (((c.window transcript n).filter c.isReply).map (·.paragraph?)) := by
  have hall := (isChain_kept transcript.reverse c).tail
  have hpart : ((kept transcript.reverse c).take n).filter c.isReply
      <+: (kept transcript.reverse c).filter c.isReply := (List.take_prefix n _).filter _
  have hchain := hall.prefix (hpart.map (·.paragraph?))
  rw [window, List.filter_reverse, List.map_reverse, List.isChain_reverse]
  exact hchain.imp fun _ _ hne => hne.symm

/-- **The pages of a reply come back as one message.** A window at whose end a reply stands, in one
    page or more, is the window of one message less of a compactor that has met the reply, and then
    the whole reply. A window is made of lines of the transcript; of a reply whose pages stand
    together one line at most is among them, and of two replies that are neighbours among them no
    two are of the same paragraph. -/
theorem recent_append_pages (transcript : List TranscriptEntry) :
    (∀ (block : List TranscriptEntry) (paragraph reply : String) (n : Nat), block ≠ [] →
      paragraph ≠ "" → (∀ e ∈ block, c.IsPage paragraph reply e) →
      c.lastParagraph ≠ some paragraph → 0 < n → HasRoom n →
      ∃ older after, (c.met paragraph).recent transcript (n - 1) = .ok (older, after) ∧
        c.recent (transcript ++ block) n = .ok (older ++ [.assistant reply], after)) ∧
    ∀ n, HasRoom n →
      (∃ after, c.recent transcript n = .ok ((c.window transcript n).map c.message, after)) ∧
      (c.window transcript n).Sublist transcript ∧
      (∀ before block later paragraph, transcript = before ++ block ++ later →
        (∀ e ∈ block, e.paragraph? = some paragraph) →
        (∀ e ∈ block, e.speakerName ≠ c.userName) →
        (∀ e ∈ before ++ later, e.paragraph? ≠ some paragraph) →
        ((c.window transcript n).filter
          fun e => decide (e.paragraph? = some paragraph)).length ≤ 1) ∧
      List.IsChain (· ≠ ·)
        (((c.window transcript n).filter
          fun e => decide ((c.message e).role = .assistant)).map (·.paragraph?)) := by
  constructor
  · intro block paragraph reply n hblock hp hpages hlast hn hroom
    obtain ⟨hmessages, hafter⟩ := c.window_append_pages hblock hp hpages hlast hn transcript
    refine ⟨_, _, (c.met paragraph).recent_eq transcript (hroom.of_le (Nat.sub_le n 1)), ?_⟩
    rw [c.recent_eq (transcript ++ block) hroom, hmessages, hafter]
    rfl
  · intro n hroom
    refine ⟨⟨_, c.recent_eq transcript hroom⟩, c.window_sublist transcript n, ?_,
      c.isChain_window transcript n⟩
    rintro before block later paragraph rfl hblock hspeaker hothers
    exact c.length_filter_window_le_one hblock hspeaker hothers n

/-- A reply of two pages. -/
def twoPages : List TranscriptEntry :=
  [.generated "Alice" "Hi!" "p1" "Hi! Come in.", .generated "Alice" "Come in." "p1" "Hi! Come in."]

/-- A reply of two pages leaves room for the question in a window of two messages. -/
theorem recent_append_twoPages :
    let c : Compactor := ⟨"Player", "...", none⟩
    let question : List TranscriptEntry := [.scripted "Player" "Hello?"]
    twoPages ≠ [] ∧ "p1" ≠ "" ∧ (∀ e ∈ twoPages, c.IsPage "p1" "Hi! Come in." e) ∧
      c.lastParagraph ≠ some "p1" ∧ 0 < 2 ∧ HasRoom 2 ∧
      (∃ after, c.recent (question ++ twoPages) 2
        = .ok ([.user "Hello?", .assistant "Hi! Come in."], after)) ∧
      (∀ e ∈ twoPages, e.paragraph? = some "p1") ∧
      (∀ e ∈ twoPages, e.speakerName ≠ c.userName) ∧
      (∀ e ∈ question ++ [], e.paragraph? ≠ some "p1") ∧
      ((c.window (question ++ twoPages) 2).filter
        fun e => decide (e.paragraph? = some "p1")).length ≤ 1 := by
  intro c question
  have hpages : ∀ e ∈ twoPages, c.IsPage "p1" "Hi! Come in." e := by
    intro e he
    rcases List.mem_cons.1 he with rfl | he
    · exact ⟨rfl, rfl, by decide, by decide, by decide, by decide⟩
    · obtain rfl := List.mem_singleton.1 he
      exact ⟨rfl, rfl, by decide, by decide, by decide, by decide⟩
  have hroom : HasRoom 2 := by decide
  have hparagraph : ∀ e ∈ twoPages, e.paragraph? = some "p1" := by decide
  have hspeaker : ∀ e ∈ twoPages, e.speakerName ≠ c.userName := by decide
  have hothers : ∀ e ∈ question ++ [], e.paragraph? ≠ some "p1" := by decide
  obtain ⟨older, after, holder, hrecent⟩ := (c.recent_append_pages question).1 twoPages "p1"
    "Hi! Come in." 2 (by decide) (by decide) hpages (by decide) (by decide) hroom
  have hquestion : (c.met "p1").recent question (2 - 1) = .ok ([.user "Hello?"], c.met "p1") := by
    decide
  obtain ⟨rfl, -⟩ := Prod.mk.inj (Except.ok.inj (holder.symm.trans hquestion))
  obtain ⟨-, -, hone, -⟩ := (c.recent_append_pages (question ++ twoPages)).2 2 hroom
  exact ⟨by decide, by decide, hpages, by decide, by decide, hroom, ⟨after, hrecent⟩, hparagraph,
    hspeaker, hothers,
    hone question twoPages [] "p1" (List.append_nil _).symm hparagraph hspeaker hothers⟩

end Dramaturg.Compactor
