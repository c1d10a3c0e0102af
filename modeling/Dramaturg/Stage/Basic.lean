import Dramaturg.Random.Source
import Dramaturg.Scene.Command
import Dramaturg.Stage.Roster
import Dramaturg.Settings.Basic

set_option autoImplicit false

/-! # The stage

What the player sees between turns: the figures, the last background, music and scene, who spoke
last, and the identifiers that tie the pages of a reply together. The functions here change the
stage and give the commands that make the renderer follow. -/

namespace Dramaturg

/-- A supply of fresh identifiers, of which the first `used` are spent. -/
structure IdSupply where
  name : Nat → String
  used : Nat := 0

/-- Takes the next identifier. -/
def IdSupply.draw (s : IdSupply) : String × IdSupply :=
  (s.name s.used, { s with used := s.used + 1 })

/-- What the settings of a story say about its stage. -/
structure StageRules (α : Type) where
  layout : Layout α
  repeatBackground : Bool
  repeatBgm : Bool
  repeatScene : Bool

/-- The stage rules of a story. -/
def Settings.stageRules (s : Settings) : StageRules Float :=
  ⟨s.layout, s.directives.background.allowRepeat, s.directives.bgm.allowRepeat,
    s.directives.scene.allowRepeat⟩

/-- The state of the stage. -/
structure Stage (α : Type) where
  rules : StageRules α
  roster : Roster α := {}
  lastBackground : Option String := none
  lastBgm : Option String := none
  lastScene : Option String := none
  lastSpeaker : String := ""
  paragraphId : String := ""
  sentenceId : String := ""
  random : Random.Source
  ids : IdSupply

namespace Stage

variable {α : Type}

/-- Takes over the rules of other settings; figures and memories stay. -/
def reconfigure (rules : StageRules α) (s : Stage α) : Stage α := { s with rules := rules }

/-- Begins a reply. -/
def beginParagraph (s : Stage α) : Stage α :=
  let (id, ids) := s.ids.draw
  { s with paragraphId := id, ids := ids }

/-- Begins a paragraph of a reply. -/
def beginSentence (s : Stage α) : Stage α :=
  let (id, ids) := s.ids.draw
  { s with sentenceId := id, ids := ids }

/-- Chooses one of several things by chance. -/
def choose {β : Type} (options : List β) (s : Stage α) : Option β × Stage α :=
  let (chosen, random) := s.random.choose options
  (chosen, { s with random := random })

/-! ## Speech -/

/-- Who is taken to speak: a blank name stands for the last speaker. -/
def speakerFor (s : Stage α) (speaker : String) : String :=
  if Text.isBlankText speaker then s.lastSpeaker else speaker

/-- A page of dialogue. -/
def say (speaker reply page : String) (s : Stage α) : Command × Stage α :=
  let speaker := s.speakerFor speaker
  let named := if speaker.isEmpty then [] else [⟨"speaker", .text speaker⟩]
  (⟨.say, page, named ++
    [⟨"AiFullShowText", .text reply⟩, ⟨"AiShowTextUUIDForSentence", .text s.sentenceId⟩,
      ⟨"AiShowTextUUIDForParagraph", .text s.paragraphId⟩]⟩,
    { s with lastSpeaker := speaker })

/-! ## Background, music and scene -/

/-- What is announced: the value found, unless it repeats the last one and may not. -/
def announce? (allowRepeat : Bool) (last found : Option String) : Option String :=
  found.filter fun v => allowRepeat || last != some v

/-- Changes the background. -/
def background (found : Option String) (s : Stage α) : Option Command × Stage α :=
  match announce? s.rules.repeatBackground s.lastBackground found with
  | none => (none, s)
  | some v =>
    (some ⟨.changeBackground, v, [⟨"next", .flag true⟩]⟩, { s with lastBackground := some v })

/-- Changes the music. -/
def bgm (found : Option String) (s : Stage α) : Option Command × Stage α :=
  match announce? s.rules.repeatBgm s.lastBgm found with
  | none => (none, s)
  | some v => (some ⟨.bgm, v, [⟨"next", .flag true⟩]⟩, { s with lastBgm := some v })

/-- Changes the scene. -/
def scene (found : Option String) (s : Stage α) : Option Command × Stage α :=
  match announce? s.rules.repeatScene s.lastScene found with
  | none => (none, s)
  | some v => (some ⟨.changeScene, v, []⟩, { s with lastScene := some v })

end Stage

end Dramaturg
