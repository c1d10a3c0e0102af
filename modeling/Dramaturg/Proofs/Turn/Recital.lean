import Dramaturg.Proofs.Page.Cutting
import Dramaturg.Proofs.Turn.Accord
import Dramaturg.Proofs.Turn.Score
import Dramaturg.Proofs.Turn.Speech

set_option autoImplicit false

/-! # What a completed turn says

A turn that is completed plays the score of its reply. Identifiers are never taken back, whatever
happens to the runner, so those of a later turn are others, as long as the supply has no name
twice. -/

namespace Dramaturg

open Text

/-! ## Identifiers are spent for good -/

theorem IdSupply.text_name_eq_iff {ids : IdSupply} (h : Function.Injective ids.name) {m n : Nat} :
    some (ArgumentValue.text (ids.name m)) = some (.text (ids.name n)) ↔ m = n := by
  rw [Option.some.injEq, ArgumentValue.text.injEq, h.eq_iff]

/-- A stage has the same supply of identifiers, of which no fewer are spent. -/
def Stage.SpentUpTo {α : Type} (s s' : Stage α) : Prop :=
  s'.ids.name = s.ids.name ∧ s.ids.used ≤ s'.ids.used

theorem Stage.lasts_spentUpTo {α : Type} : Stage.Lasts (Stage.SpentUpTo (α := α)) where
  trans h h' := ⟨h'.1.trans h.1, h.2.trans h'.2⟩
  frame h := ⟨by rw [h.ids], by rw [h.ids]⟩
  beginParagraph s := ⟨rfl, Nat.le_succ _⟩
  beginSentence s := ⟨rfl, Nat.le_succ _⟩

namespace Runner

variable {σ : Type} (model : Model σ)

theorem spentUpTo_after (r : Runner) (event : Event σ) :
    r.stage.SpentUpTo (r.after model event).stage := by
  cases event with
  | seeded seed => exact ⟨rfl, Nat.le_refl _⟩
  | clocked clock => exact ⟨rfl, Nat.le_refl _⟩
  | reload disk =>
    show r.stage.SpentUpTo (r.reload disk).2.stage
    unfold reload
    rcases r.story.reload disk with ⟨failure | loaded, story⟩
    · exact ⟨rfl, Nat.le_refl _⟩
    · exact ⟨rfl, Nat.le_refl _⟩
  | turn request transcript currentScene s =>
    exact keeps_run Stage.lasts_spentUpTo model request transcript currentScene r s

theorem spentUpTo_afterAll (r : Runner) (events : List (Event σ)) :
    r.stage.SpentUpTo (r.afterAll model events).stage := by
  unfold afterAll
  induction events generalizing r with
  | nil => exact ⟨rfl, Nat.le_refl _⟩
  | cons event events ih =>
    exact Stage.lasts_spentUpTo.trans (r.spentUpTo_after model event) (ih (r.after model event))

/-! ## Completed turns -/

variable {model} {request : TurnRequest} {transcript : List TranscriptEntry} {currentScene : String}
  {r : Runner} {s : σ} {reply : String} {commands : List Command} {autoAdvance : Bool}

theorem replyAct_of_completed
    (h : (r.run model request transcript currentScene s).1
      = .ok (.completed reply commands autoAdvance)) :
    r.replyAct request.channels reply currentScene r.stage
      = (.ok commands, (r.run model request transcript currentScene s).2.1.stage) := by
  rcases hrun : r.run model request transcript currentScene s with ⟨outcome, after, s'⟩
  rw [hrun] at h
  obtain rfl : outcome = _ := h
  rcases stage_of_run hrun with ⟨reply', commands', houtcome, hact⟩ | ⟨fault, houtcome⟩ |
    ⟨houtcome | ⟨failure, houtcome⟩, -⟩
  · cases houtcome
    exact hact
  · cases houtcome
  · cases houtcome
  · cases houtcome

/-- A turn without dialogue says nothing. -/
theorem spoken_of_silent (hdialogue : request.channels.dialogue = false)
    (h : (r.run model request transcript currentScene s).1
      = .ok (.completed reply commands autoAdvance)) : Command.spoken commands = [] := by
  have hlines : (r.lines request.channels reply).filter Line.isSaid = [] := by
    refine List.filter_eq_nil_iff.2 fun l hl => ?_
    obtain ⟨paragraph, -, rfl⟩ := List.mem_map.1 hl
    simp [line, Line.ofPages, Line.isSaid, hdialogue]
  have hsaid := (r.says_replyAct request.channels reply currentScene _ _ _ _ rfl
    (replyAct_of_completed h)).1
  rw [hlines] at hsaid
  exact List.map_eq_nil_iff.1 hsaid

/-- The words of a turn carry identifiers that were left before it and are spent after it: the first
    of them all alike, the others by the place of their paragraph. -/
theorem carries_of_spoken
    (h : (r.run model request transcript currentScene s).1
      = .ok (.completed reply commands autoAdvance)) :
    ∀ c ∈ Command.spoken commands, ∃ place,
      r.stage.ids.used + 1 + place
          < (r.run model request transcript currentScene s).2.1.stage.ids.used ∧
        c.Carries reply (r.stage.ids.name (r.stage.ids.used + 1 + place))
          (r.stage.ids.name r.stage.ids.used) := by
  intro c hc
  cases hdialogue : request.channels.dialogue with
  | false =>
    rw [spoken_of_silent hdialogue h] at hc
    exact absurd hc List.not_mem_nil
  | true =>
    obtain ⟨scores, rfl, -, hcarries, hids⟩ :=
      exists_scores_replyAct hdialogue (replyAct_of_completed h)
    rw [Score.spoken_flatMap_commands, List.mem_flatMap] at hc
    obtain ⟨p, hp, hc⟩ := hc
    obtain ⟨place, hplace, rfl⟩ := List.mem_iff_getElem.1 hp
    refine ⟨place, ?_, hcarries place _ (List.getElem?_eq_getElem hplace) c hc⟩
    rw [hids, IdSupply.used_spend]
    omega

/-- Words of two turns, one later than the other, share no identifier. -/
theorem ids_ne_of_later {request' : TurnRequest} {transcript' : List TranscriptEntry}
    {currentScene' : String} {r' : Runner} {s' : σ} {reply' : String} {commands' : List Command}
    {autoAdvance' : Bool} (hids : Function.Injective r.stage.ids.name)
    (h : (r.run model request transcript currentScene s).1
      = .ok (.completed reply commands autoAdvance))
    (hlater : (r.run model request transcript currentScene s).2.1.stage.SpentUpTo r'.stage)
    (h' : (r'.run model request' transcript' currentScene' s').1
      = .ok (.completed reply' commands' autoAdvance'))
    {c c' : Command} (hc : c ∈ Command.spoken commands) (hc' : c' ∈ Command.spoken commands') :
    c.paragraph? ≠ c'.paragraph? ∧ c.sentence? ≠ c'.sentence? := by
  obtain ⟨place, hspent, hcarries⟩ := carries_of_spoken h c hc
  obtain ⟨place', -, hcarries'⟩ := carries_of_spoken h' c' hc'
  have hnames : r'.stage.ids.name = r.stage.ids.name :=
    hlater.1.trans (r.spentUpTo_after model (.turn request transcript currentScene s)).1
  have hused := hlater.2
  rw [hcarries.paragraph, hcarries'.paragraph, hcarries.sentence, hcarries'.sentence, hnames,
    Ne, Ne, IdSupply.text_name_eq_iff hids, IdSupply.text_name_eq_iff hids]
  omega

/-- **What a completed turn says.** With the dialogue switched on, a turn that is completed plays a
    score for each paragraph of its reply, in order: the music and the background, then for each
    page the figures and the words, and then the scene. The words are the pages of the paragraph
    without its directives. None of them is blank or too long, each carries the whole reply, and all
    carry the identifier of the reply. If the supply has no name twice, words carry the same
    identifier of a paragraph exactly if they are of the same paragraph, and no identifier of the
    turn comes back in a later one, whatever happens to the runner in between. -/
theorem run_recites {σ : Type} (model : Model σ) (request : TurnRequest)
    (transcript : List TranscriptEntry) (currentScene : String) (r : Runner) (s : σ)
    {reply : String} {commands : List Command} {autoAdvance : Bool}
    (hdialogue : request.channels.dialogue = true)
    (h : (r.run model request transcript currentScene s).1
      = .ok (.completed reply commands autoAdvance)) :
    let spoken := Command.spoken commands
    let after := (r.run model request transcript currentScene s).2.1
    ∃ scores : List Score,
      commands = scores.flatMap Score.commands ∧
      spoken = scores.flatMap Score.words ∧
      List.Forall₂ (fun piece score =>
        r.pager.paginate (r.directives.clean piece) = .ok (score.words.map (·.content)))
        (splitParagraphs r.story.settings.paragraphSplitter reply) scores ∧
      (∀ c ∈ spoken, isBlankText c.content = false ∧ c.content.length ≤ r.pager.maxChars ∧
        c.fullText? = some (.text reply)) ∧
      (∀ settings, r.pager = .ofSettings settings →
        r.pager.maxChars = max settings.pageMaxChars 1) ∧
      (∃ id, ∀ c ∈ spoken, c.paragraph? = some (.text id)) ∧
      (Function.Injective r.stage.ids.name →
        (∀ (i i' : Nat) (score score' : Score),
          scores[i]? = some score → scores[i']? = some score' →
            ∀ c ∈ score.words, ∀ c' ∈ score'.words, c.sentence? = c'.sentence? ↔ i = i') ∧
        ∀ (events : List (Event σ)) (request' : TurnRequest) (transcript' : List TranscriptEntry)
          (currentScene' : String) (s' : σ) (reply' : String) (commands' : List Command)
          (autoAdvance' : Bool),
          ((after.afterAll model events).run model request' transcript' currentScene' s').1
              = .ok (.completed reply' commands' autoAdvance') →
          ∀ c ∈ spoken, ∀ c' ∈ Command.spoken commands',
            c.paragraph? ≠ c'.paragraph? ∧ c.sentence? ≠ c'.sentence?) := by
  intro spoken after
  obtain ⟨scores, hcommands, hpages, hcarries, -⟩ :=
    exists_scores_replyAct hdialogue (replyAct_of_completed h)
  have hspoken : spoken = scores.flatMap Score.words := by
    simp only [spoken, hcommands, Score.spoken_flatMap_commands]
  refine ⟨scores, hcommands, hspoken, hpages, fun c hc => ?_, ?_,
    ⟨r.stage.ids.name r.stage.ids.used, fun c hc => ?_⟩, fun hids => ⟨?_, ?_⟩⟩
  · obtain ⟨place, -, hcarry⟩ := carries_of_spoken h c hc
    rw [hspoken, List.mem_flatMap] at hc
    obtain ⟨score, hscore, hc⟩ := hc
    obtain ⟨place, rfl⟩ := List.mem_iff_get.1 hscore
    have hpiece := hpages.get (place.isLt.trans_eq hpages.length_eq.symm) place.isLt
    obtain ⟨hsolid, hlength⟩ := Pager.fits_of_mem_paginate hpiece (List.mem_map_of_mem hc)
    exact ⟨hsolid, hlength, hcarry.fullText⟩
  · rintro settings hpager
    rw [hpager]
    rfl
  · obtain ⟨place, -, hcarry⟩ := carries_of_spoken h c hc
    exact hcarry.paragraph
  · intro i i' score score' hscore hscore' c hc c' hc'
    rw [(hcarries i score hscore c hc).sentence, (hcarries i' score' hscore' c' hc').sentence,
      IdSupply.text_name_eq_iff hids]
    omega
  · intro events request' transcript' currentScene' s' reply' commands' autoAdvance' h' c hc c' hc'
    exact ids_ne_of_later hids h (spentUpTo_afterAll model after events) h' hc hc'

/-! ## A reply of two paragraphs -/

/-- A story whose paragraphs are lines, and whose pages hold five characters. -/
def couplets : Story where
  base := {}
  settings := { paragraphSplitter := "\n", pageMaxChars := 5 }

/-- A model that answers in two lines. -/
def poet : Model Unit := fun _ s => ({ answer := .ok ⟨"Hi. Yes.\nBye.", "", none⟩ }, s)

/-- Names that count in strokes. -/
def strokes (n : Nat) : String := String.ofList (List.replicate n '|')

/-- The two pages of the first line carry one identifier, that of the second line another one, and
    so does whatever is said in the next turn. -/
theorem run_recites_couplets :
    let r := new couplets ⟨fun _ => 0, 0⟩ ⟨strokes, 1⟩
    let request : TurnRequest := ⟨.zero, "Hello", none, {}, false⟩
    let page (text sentence : String) : Command :=
      ⟨.say, text, [⟨"AiFullShowText", .text "Hi. Yes.\nBye."⟩,
        ⟨"AiShowTextUUIDForSentence", .text sentence⟩, ⟨"AiShowTextUUIDForParagraph", .text "|"⟩]⟩
    let commands := [page "Hi." "||", page " Yes." "||", page "Bye." "|||"]
    let after := (r.run poet request [] "" ()).2.1
    request.channels.dialogue = true ∧ Function.Injective strokes ∧
      (r.run poet request [] "" ()).1 = .ok (.completed "Hi. Yes.\nBye." commands true) ∧
      (∀ c ∈ commands, isBlankText c.content = false ∧ c.content.length ≤ 5) ∧
      ∀ reply commands' autoAdvance,
        (after.run poet request [] "" ()).1 = .ok (.completed reply commands' autoAdvance) →
          ∀ c ∈ commands, ∀ c' ∈ Command.spoken commands', c.sentence? ≠ c'.sentence? := by
  intro r request page commands after
  have hstrokes : Function.Injective strokes := by
    intro m n heq
    simpa [strokes] using congrArg String.length heq
  have hrun : (r.run poet request [] "" ()).1
      = .ok (.completed "Hi. Yes.\nBye." commands true) := by decide +kernel
  obtain ⟨scores, -, -, -, hfits, hmax, -, hids⟩ := run_recites poet request [] "" r () rfl hrun
  refine ⟨rfl, hstrokes, hrun, fun c hc => ?_, fun reply commands' autoAdvance h' c hc c' hc' => ?_⟩
  · have hpage := hfits c (by simpa [Command.spoken, commands, page] using hc)
    exact ⟨hpage.1, hpage.2.1.trans (hmax couplets.settings rfl).le⟩
  · exact ((hids hstrokes).2 [] request [] "" () reply commands' autoAdvance h' c
      (by simpa [Command.spoken, commands, page] using hc) c' hc').2

end Runner

end Dramaturg
