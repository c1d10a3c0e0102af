import Dramaturg.Story.Directory
import Mathlib.Data.List.Basic

set_option autoImplicit false

/-! # The places that settings documents fill

A settings document is a list of keys with values, and each key that it may hold stands for one
place of a story: a setting, or a table. `SettingsDocument.slots` lists these places for each of the
two documents, with how values for them are read. `SettingsDocument.fill` fills them from a
document, each from the value under its own key, and nothing else. -/

namespace Dramaturg

/-! ## Slots -/

/-- A place in a state of type `σ` that a document may fill: the key that names it, how a value for
    it is read, and where it stands. -/
structure Slot (σ : Type) where
  key : String
  Value : Type
  read? : Json → Option Value
  get : σ → Value
  set : Value → σ → σ

namespace Slot

variable {σ τ : Type}

/-- What a slot that held `old` holds after a document: the value under its key, or `old` if there
    is none or it cannot be read. -/
def told (x : Slot σ) (doc : Json) (old : x.Value) : x.Value :=
  ((doc.get? x.key).bind x.read?).getD old

/-- Fills a slot from a document. -/
def fill (x : Slot σ) (doc : Json) (s : σ) : σ := x.set (x.told doc (x.get s)) s

/-- Fills slots from a document, one after the other. -/
def fillAll (slots : List (Slot σ)) (doc : Json) (s : σ) : σ :=
  slots.foldl (fun s x => x.fill doc s) s

/-- A slot of a part of a state, as a slot of the whole. -/
def within (part : τ → σ) (put : σ → τ → τ) (x : Slot σ) : Slot τ :=
  ⟨x.key, x.Value, x.read?, fun t => x.get (part t), fun v t => put (x.set v (part t)) t⟩

/-- A slot that holds a text. -/
def text (key : String) (get : σ → String) (set : String → σ → σ) : Slot σ :=
  ⟨key, String, Json.asString?, get, set⟩

/-- A slot that holds a flag. -/
def flag (key : String) (get : σ → Bool) (set : Bool → σ → σ) : Slot σ :=
  ⟨key, Bool, SettingsField.readFlag?, get, set⟩

/-- A slot that holds a set of characters. -/
def chars (key : String) (get : σ → List Char) (set : List Char → σ → σ) : Slot σ :=
  ⟨key, List Char, SettingsField.readChars?, get, set⟩

/-- A slot that holds a number. -/
def real (key : String) (get : σ → Float) (set : Float → σ → σ) : Slot σ :=
  ⟨key, Float, Json.asFloat?, get, set⟩

/-- A slot that holds a count of so many bits. -/
def count (bits : Nat) (key : String) (get : σ → Nat) (set : Nat → σ → σ) : Slot σ :=
  ⟨key, Nat, Json.asNat? (Number.twoTo bits), get, set⟩

/-- A key that is not there is passed over. -/
theorem told_of_get?_eq_none {x : Slot σ} {doc : Json} (h : doc.get? x.key = none)
    (old : x.Value) : x.told doc old = old := by
  simp [told, h]

/-- A document tells a slot nothing but what it holds under the key of the slot. -/
theorem told_congr {x : Slot σ} {doc doc' : Json} (h : doc.get? x.key = doc'.get? x.key)
    (old : x.Value) : x.told doc old = x.told doc' old := by
  rw [told, told, h]

@[simp]
theorem told_told (x : Slot σ) (doc : Json) (old : x.Value) :
    x.told doc (x.told doc old) = x.told doc old := by
  unfold told
  cases (doc.get? x.key).bind x.read? <;> rfl

end Slot

/-! ## The slots of the two documents -/

/-- The two documents that bring settings. -/
inductive SettingsDocument where
  | controls
  | global
deriving DecidableEq

open Slot in
/-- The settings that a `controls` document may bring. -/
def Settings.controlSlots : List (Slot Settings) := [
  text "live2d_front_match" (·.directives.figure.front)
    fun v s => { s with directives.figure.front := v },
  text "live2d_back_match" (·.directives.figure.back)
    fun v s => { s with directives.figure.back := v },
  text "live2d_spliter" (·.directives.figure.splitter)
    fun v s => { s with directives.figure.splitter := v },
  flag "live2d_use_strict" (·.directives.figure.strict)
    fun v s => { s with directives.figure.strict := v },
  chars "live2d_speaker_indicator" (·.directives.speakerIndicators)
    fun v s => { s with directives.speakerIndicators := v },
  text "speaker_front_match" (·.directives.speaker.front)
    fun v s => { s with directives.speaker.front := v },
  text "speaker_back_match" (·.directives.speaker.back)
    fun v s => { s with directives.speaker.back := v },
  text "speaker_spliter" (·.directives.speaker.splitter)
    fun v s => { s with directives.speaker.splitter := v },
  flag "speaker_use_strict" (·.directives.speaker.strict)
    fun v s => { s with directives.speaker.strict := v },
  text "bg_front_match" (·.directives.background.front)
    fun v s => { s with directives.background.front := v },
  text "bg_back_match" (·.directives.background.back)
    fun v s => { s with directives.background.back := v },
  flag "bg_use_strict" (·.directives.background.strict)
    fun v s => { s with directives.background.strict := v },
  flag "bg_allow_repeat" (·.directives.background.allowRepeat)
    fun v s => { s with directives.background.allowRepeat := v },
  text "bgm_front_match" (·.directives.bgm.front)
    fun v s => { s with directives.bgm.front := v },
  text "bgm_back_match" (·.directives.bgm.back)
    fun v s => { s with directives.bgm.back := v },
  flag "bgm_use_strict" (·.directives.bgm.strict)
    fun v s => { s with directives.bgm.strict := v },
  flag "bgm_allow_repeat" (·.directives.bgm.allowRepeat)
    fun v s => { s with directives.bgm.allowRepeat := v },
  text "scene_front_match" (·.directives.scene.front)
    fun v s => { s with directives.scene.front := v },
  text "scene_back_match" (·.directives.scene.back)
    fun v s => { s with directives.scene.back := v },
  flag "scene_use_strict" (·.directives.scene.strict)
    fun v s => { s with directives.scene.strict := v },
  flag "scene_allow_repeat" (·.directives.scene.allowRepeat)
    fun v s => { s with directives.scene.allowRepeat := v },
  text "memory_front_match" (·.directives.memory.front)
    fun v s => { s with directives.memory.front := v },
  text "memory_back_match" (·.directives.memory.back)
    fun v s => { s with directives.memory.back := v },
  text "paragraph_spliter" (·.paragraphSplitter) fun v s => { s with paragraphSplitter := v },
  chars "sentence_spliter" (·.sentenceTerminators) fun v s => { s with sentenceTerminators := v },
  chars "close_punctuation" (·.closePunctuation) fun v s => { s with closePunctuation := v },
  count 64 "page_max_chars" (·.pageMaxChars) fun v s => { s with pageMaxChars := v },
  real "screen_border_left" (·.layout.borderLeft) fun v s => { s with layout.borderLeft := v },
  real "screen_border_right" (·.layout.borderRight) fun v s => { s with layout.borderRight := v },
  real "standard_character_gap" (·.layout.characterGap)
    fun v s => { s with layout.characterGap := v },
  real "position_change_factor" (·.layout.positionChangeFactor)
    fun v s => { s with layout.positionChangeFactor := v }]

open Slot in
/-- The settings that a `global` document may bring. A key for the model is kept as one that is
    there. -/
def Settings.globalSlots : List (Slot Settings) := [
  text "front_prompt" (·.prompts.front) fun v s => { s with prompts.front := v },
  text "back_prompt" (·.prompts.back) fun v s => { s with prompts.back := v },
  text "format_prompt" (·.prompts.format) fun v s => { s with prompts.format := v },
  text "model" (·.model.model) fun v s => { s with model.model := v },
  ⟨"temperature", Float32, Json.asSingle?, (·.model.temperature),
    fun v s => { s with model.temperature := v }⟩,
  count 32 "max_tokens" (·.model.maxTokens) fun v s => { s with model.maxTokens := v },
  text "user_name" (·.userName) fun v s => { s with userName := v },
  text "waiting_info" (·.waitingInfo) fun v s => { s with waitingInfo := v },
  count 64 "context_item_length" (·.contextItemLength)
    fun v s => { s with contextItemLength := v },
  count 64 "lore_search_length" (·.loreSearchLength) fun v s => { s with loreSearchLength := v },
  count 32 "API_max_trying_limit" (·.model.retryLimit) fun v s => { s with model.retryLimit := v },
  ⟨"API_key", Option String, fun j => j.asString?.map some, (·.model.apiKey),
    fun v s => { s with model.apiKey := v }⟩]

/-- The tables that a `controls` document may bring. -/
def Tables.slots : List (Slot Tables) := [
  ⟨"bg_table", FlatTable, FlatTable.ofJson?, (·.background), fun v t => { t with background := v }⟩,
  ⟨"bgm_table", FlatTable, FlatTable.ofJson?, (·.bgm), fun v t => { t with bgm := v }⟩,
  ⟨"scene_table", SceneTable, SceneTable.ofJson?, (·.scene), fun v t => { t with scene := v }⟩,
  ⟨"figure_table", FigureTable, FigureTable.ofJson?, (·.figures),
    fun v t => { t with figures := v }⟩]

namespace SettingsDocument

def name : SettingsDocument → String
  | .controls => "controls"
  | .global => "global"

/-- The document that is not this one. -/
def other : SettingsDocument → SettingsDocument
  | .controls => .global
  | .global => .controls

/-- What the document makes of settings. -/
def applyTo : SettingsDocument → Json → Settings → Except DocumentFault Settings
  | .controls, doc, s => s.applyControls doc
  | .global, doc, s => s.applyGlobal doc

/-- The places of a story that the document fills. -/
def slots : SettingsDocument → List (Slot Story)
  | .controls =>
    Settings.controlSlots.map (Slot.within Story.settings fun v s => { s with settings := v })
      ++ Tables.slots.map (Slot.within Story.tables fun v s => { s with tables := v })
  | .global =>
    Settings.globalSlots.map (Slot.within Story.settings fun v s => { s with settings := v })

/-- Fills the slots of the document. -/
def fill : SettingsDocument → Json → Story → Story
  | .controls, doc, s =>
    { s with
      settings := Slot.fillAll Settings.controlSlots doc s.settings
      tables := Slot.fillAll Tables.slots doc s.tables }
  | .global, doc, s => { s with settings := Slot.fillAll Settings.globalSlots doc s.settings }

/-- No two slots of a document share a key. -/
theorem nodup_keys (d : SettingsDocument) : (d.slots.map Slot.key).Nodup := by
  cases d <;> decide +kernel

/-- No slot reads a null. -/
theorem read?_null (d : SettingsDocument) : ∀ x ∈ d.slots, x.read? .null = none := by
  rw [← List.forall_iff_forall_mem]
  cases d <;> repeat' first | exact rfl | refine ⟨rfl, ?_⟩

end SettingsDocument

/-! ## Filling slots

A filled story is a nest of record updates. It is unfolded into one record before anything is read
off it: comparing stories field by field from the outside would open the whole nest every time. -/

section Filling

attribute [local simp] SettingsDocument.slots SettingsDocument.fill Settings.controlSlots
  Settings.globalSlots Tables.slots Slot.within Slot.fillAll Slot.fill Slot.text Slot.flag
  Slot.chars Slot.real Slot.count

namespace SettingsDocument

/-- Every slot holds what the document tells it, whatever the other slots are told. -/
theorem get_fill (d : SettingsDocument) (doc : Json) (s : Story) :
    ∀ x ∈ d.slots, x.get (d.fill doc s) = x.told doc (x.get s) := by
  cases d <;> simp [Slot.told]

/-- The slots of the other document are left alone. -/
theorem get_fill_other (d : SettingsDocument) (doc : Json) (s : Story) :
    ∀ x ∈ d.other.slots, x.get (d.fill doc s) = x.get s := by
  cases d <;> simp [other]

end SettingsDocument

/-! ## What stands outside the slots -/

namespace Story

/-- What of a story no settings document brings. -/
def unkeyed (s : Story) :=
  (s.base, s.catalog, s.source, s.settings.directives.speaker.allowRepeat,
    s.settings.directives.figure.allowRepeat, s.settings.directives.background.splitter,
    s.settings.directives.bgm.splitter, s.settings.directives.scene.splitter,
    s.settings.directives.memory.splitter, s.settings.directives.memory.strict,
    s.settings.directives.memory.allowRepeat)

theorem unkeyed_fill (d : SettingsDocument) (doc : Json) (s : Story) :
    (d.fill doc s).unkeyed = s.unkeyed := by
  cases d <;> simp [unkeyed]

attribute [local ext] Rule DirectiveRules PromptParts ModelSettings Layout Settings Tables Story

/-- A story is what its slots hold, and what stands outside them. -/
theorem eq_of_slots {a b : Story} (hunkeyed : a.unkeyed = b.unkeyed)
    (hslots : ∀ d : SettingsDocument, ∀ x ∈ d.slots, x.get a = x.get b) : a = b := by
  have hcontrols := hslots .controls
  have hglobal := hslots .global
  simp at hcontrols hglobal
  simp only [unkeyed, Prod.mk.injEq] at hunkeyed
  simp only [Story.ext_iff, Settings.ext_iff, DirectiveRules.ext_iff, Rule.ext_iff,
    PromptParts.ext_iff, ModelSettings.ext_iff, Layout.ext_iff, Tables.ext_iff, hcontrols, hglobal,
    hunkeyed, and_self]

end Story

end Filling

end Dramaturg
