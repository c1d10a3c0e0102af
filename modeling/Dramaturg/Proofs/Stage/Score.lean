import Dramaturg.Proofs.Stage.Performance

set_option autoImplicit false

/-! # Scores

A paragraph of a reply is played in a fixed order: music and background first, then page after page
the figures and the words, and the scene last. A `Score` is what is played of one paragraph, with
its commands in that order; commands of any other form do not fit into it. -/

namespace Dramaturg

/-! ## Words -/

namespace Command

/-- The commands that say something, in order. -/
def spoken (commands : List Command) : List Command :=
  commands.filter fun c => decide (c.kind = .say)

/-- The reply that words belong to. -/
def fullText? (c : Command) : Option ArgumentValue := c.get? "AiFullShowText"

/-- The identifier of the paragraph that words belong to. -/
def sentence? (c : Command) : Option ArgumentValue := c.get? "AiShowTextUUIDForSentence"

/-- The identifier of the reply that words belong to. -/
def paragraph? (c : Command) : Option ArgumentValue := c.get? "AiShowTextUUIDForParagraph"

/-- Which paragraph of which reply the words of a command belong to. -/
structure Carries (c : Command) (reply sentenceId paragraphId : String) : Prop where
  fullText : c.fullText? = some (.text reply)
  sentence : c.sentence? = some (.text sentenceId)
  paragraph : c.paragraph? = some (.text paragraphId)

theorem spoken_append (before after : List Command) :
    spoken (before ++ after) = spoken before ++ spoken after :=
  List.filter_append ..

theorem spoken_eq_nil {commands : List Command} {k : Channel}
    (h : ∀ c ∈ commands, c.kind.channel = k) (hk : k ≠ .dialogue) : spoken commands = [] := by
  refine List.filter_eq_nil_iff.2 fun c hc => ?_
  rw [decide_eq_true_eq]
  intro hsay
  exact hk ((h c hc).symm.trans (congrArg CommandKind.channel hsay))

end Command

/-- Words belong to the paragraph that is being said. -/
theorem Stage.carries_say {α : Type} (speaker reply page : String) (s : Stage α) :
    (s.say speaker reply page).1.Carries reply s.sentenceId s.paragraphId := by
  unfold Stage.say
  by_cases hnobody : (s.speakerFor speaker).isEmpty = true
  · simp only [hnobody, if_true]
    exact ⟨rfl, rfl, rfl⟩
  · simp only [hnobody, Bool.false_eq_true, if_false]
    exact ⟨rfl, rfl, rfl⟩

/-! ## Scores -/

/-- What is played of a page: the commands for the figures, and then the words. -/
structure PageScore where
  figures : List Command
  words : Command
  figures_channel : ∀ c ∈ figures, c.kind.channel = .figure
  words_kind : words.kind = .say

/-- What is played of a paragraph. -/
structure Score where
  bgm : Option String
  background : Option String
  pages : List PageScore
  scene : Option String

namespace PageScore

def commands (p : PageScore) : List Command := p.figures ++ [p.words]

theorem spoken_commands (p : PageScore) : Command.spoken p.commands = [p.words] := by
  have hfigures : Command.spoken p.figures = [] :=
    Command.spoken_eq_nil p.figures_channel (by decide)
  have hwords : Command.spoken [p.words] = [p.words] := by simp [Command.spoken, p.words_kind]
  rw [commands, Command.spoken_append, hfigures, hwords, List.nil_append]

end PageScore

namespace Ambience

/-- The command that announces a value, if there is one. -/
def commands (a : Ambience) (value : Option String) : List Command :=
  (value.map a.command).toList

theorem spoken_commands (a : Ambience) (value : Option String) :
    Command.spoken (a.commands value) = [] := by
  refine Command.spoken_eq_nil (k := a.channel) (fun c hc => ?_) (by cases a <;> decide)
  obtain ⟨v, -, rfl⟩ := Option.mem_map.1 (Option.mem_toList.1 hc)
  exact a.channel_command v

end Ambience

namespace Score

/-- The commands of a score, in the order in which a paragraph is played. -/
def commands (p : Score) : List Command :=
  Ambience.music.commands p.bgm ++ Ambience.background.commands p.background
    ++ p.pages.flatMap PageScore.commands ++ Ambience.scene.commands p.scene

/-- The words of a score, page after page. -/
def words (p : Score) : List Command := p.pages.map PageScore.words

theorem spoken_commands (p : Score) : Command.spoken p.commands = p.words := by
  have hpages : Command.spoken (p.pages.flatMap PageScore.commands) = p.words := by
    unfold words
    induction p.pages with
    | nil => rfl
    | cons page pages ih =>
      rw [List.flatMap_cons, Command.spoken_append, page.spoken_commands, ih, List.map_cons,
        List.singleton_append]
  unfold commands
  simp only [Command.spoken_append, Ambience.spoken_commands, hpages, List.nil_append,
    List.append_nil]

/-- What is said, paragraph after paragraph. -/
theorem spoken_flatMap_commands (scores : List Score) :
    Command.spoken (scores.flatMap commands) = scores.flatMap words := by
  induction scores with
  | nil => rfl
  | cons p scores ih =>
    rw [List.flatMap_cons, List.flatMap_cons, Command.spoken_append, p.spoken_commands, ih]

end Score

/-! ## Acts that are played -/

variable {α : Type} {s s' : Stage α} {commands : List Command}

/-- An act on a channel that may be switched off, where it is done without a fault. -/
theorem Act.KeepsTo.of_when_eq_ok {act : Act α} {k : Channel} (h : act.KeepsTo k)
    {condition : Bool} (hact : Act.when condition act s = (.ok commands, s')) :
    (∀ c ∈ commands, c.kind.channel = k) ∧ s.SameFrame s' := by
  unfold Act.when at hact
  split at hact
  · have hframe := h.frame s
    rw [hact] at hframe
    exact ⟨h.channel s commands (congrArg Prod.fst hact), hframe⟩
  · obtain ⟨hcommands, rfl⟩ := Prod.mk.inj hact
    obtain rfl := Except.ok.inj hcommands
    exact ⟨fun c hc => absurd hc List.not_mem_nil, .refl s⟩

/-- An ambience that may be switched off is announced or not. -/
theorem Ambience.exists_commands_of_when {a : Ambience} {found : Option String} {condition : Bool}
    (hact : Act.when condition (a.act found) s = (.ok commands, s')) :
    (∃ value, commands = a.commands value) ∧ s.SameFrame s' := by
  refine ⟨?_, ((a.keepsTo_act found).of_when_eq_ok hact).2⟩
  unfold Act.when at hact
  split at hact
  · cases hvalue : a.announced? found s with
    | none =>
      rw [act_of_none hvalue] at hact
      exact ⟨none, (Except.ok.inj (congrArg Prod.fst hact)).symm⟩
    | some value =>
      rw [act_of_some hvalue] at hact
      exact ⟨some value, (Except.ok.inj (congrArg Prod.fst hact)).symm⟩
  · exact ⟨none, (Except.ok.inj (congrArg Prod.fst hact)).symm⟩

end Dramaturg
