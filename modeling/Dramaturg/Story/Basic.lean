import Dramaturg.Lore.Activation
import Dramaturg.Lore.Catalog
import Dramaturg.Page
import Dramaturg.Prompt.Assembly
import Dramaturg.Prompt.History
import Dramaturg.Settings.Document
import Dramaturg.Table.Tables

set_option autoImplicit false

/-! # Stories

A story is what its documents make of some settings: the settings themselves, the tables and the
catalog. It builds the prompts of its turns. -/

namespace Dramaturg

/-- A story and where it came from. -/
structure Story where
  /-- The settings before any document was read. -/
  base : Settings
  settings : Settings
  tables : Tables := {}
  catalog : Catalog := {}
  /-- The directory that the story was last loaded from. -/
  source : Option String := none

/-- How much of each kind a story holds. -/
structure StorySummary where
  loreEntries : Nat
  characterCards : Nat
  backgrounds : Nat
  music : Nat
  sceneRows : Nat
  figures : Nat
deriving DecidableEq

namespace Story

/-- A story without documents. -/
def new (settings : Settings) : Story := { base := settings, settings := settings }

/-- What a story holds. -/
def summary (s : Story) : StorySummary where
  loreEntries := s.catalog.lore.length
  characterCards := s.catalog.cards.length
  backgrounds := s.tables.background.rows.length
  music := s.tables.bgm.rows.length
  sceneRows := s.tables.scene.rows.length
  figures := s.tables.figures.characters.length

/-- The settings after a document, or as they were if it is refused. -/
def settingsAfter (applied : Except DocumentFault Settings) (s : Settings) : Settings :=
  match applied with
  | .ok s => s
  | .error _ => s

/-- Takes over a document under a name. -/
def loadDocument (name : String) (doc : Json) (s : Story) : Story :=
  match DocumentKind.classify name doc with
  | .empty => s
  | .global => { s with settings := settingsAfter (s.settings.applyGlobal doc) s.settings }
  | .controls =>
    { s with
      settings := settingsAfter (s.settings.applyControls doc) s.settings
      tables := s.tables.load doc }
  | .characterCard => { s with catalog := s.catalog.addCharacterCard name doc }
  | .worldBook => { s with catalog := s.catalog.addWorldBook name doc }

/-! ## Prompts -/

/-- The messages that are searched for lore: the end of the history, and what the player says. -/
def loreWindow (s : Story) (c : Compactor) (utterance : String)
    (transcript : List TranscriptEntry) : Except Fault (List Message) := do
  let (messages, _) ← c.recent transcript s.settings.loreSearchLength
  return messages ++ [.user utterance]

/-- What the prompt of a turn is assembled from, and the compactor after it. Both windows are read
    from the same state of the compactor. -/
def promptInput (s : Story) (c : Compactor) (utterance : String)
    (transcript : List TranscriptEntry) : Except Fault (PromptInput × Compactor) := do
  let window ← s.loreWindow c utterance transcript
  let (history, c') ← c.recent transcript s.settings.contextItemLength
  return ({
    front := s.settings.prompts.front
    format := s.settings.prompts.format
    characters := s.catalog.characterMessages
    history := history
    lore := activeLore s.catalog.lore window
    utterance := utterance
    back := s.settings.prompts.back }, c')

/-- The prompt of a turn, and the compactor after it. -/
def buildPrompt (s : Story) (c : Compactor) (utterance : String)
    (transcript : List TranscriptEntry) : Except Stop (List Message × Compactor) :=
  match s.promptInput c utterance transcript with
  | .error fault => .error (.fault fault)
  | .ok (input, c') =>
    match Prompt.assemble input with
    | .error failure => .error (.failure failure)
    | .ok messages => .ok (messages, c')

end Story

end Dramaturg
