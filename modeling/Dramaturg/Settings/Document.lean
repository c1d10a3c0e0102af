import Dramaturg.Settings.Basic
import Dramaturg.Json.Basic
import Dramaturg.Text.Listed

set_option autoImplicit false

/-! # Settings documents

A story brings its settings in two documents, `controls` and `global`. A document is applied field
by field: a field that is missing, null or of the wrong kind leaves its setting alone, and keys that
name no field are passed over. Only a document that is not an object is refused. -/

namespace Dramaturg

/-- Why a document is refused. -/
inductive DocumentFault where
  /-- The document of this name is not an object. -/
  | notAnObject (document : String)
deriving DecidableEq

/-- What is told about a refused document. -/
def DocumentFault.message : DocumentFault → String
  | .notAnObject document => "Malformed '" ++ document ++ "' document: expected a JSON object"

/-- A field of a settings document: its key, and what a value under it does to the settings. -/
structure SettingsField where
  key : String
  put : Json → Settings → Settings

namespace SettingsField

/-- A field of the kind that `read` reads; any other value leaves the settings alone. -/
def of {α : Type} (read : Json → Option α) (key : String) (put : α → Settings → Settings) :
    SettingsField :=
  ⟨key, fun j s =>
    match read j with
    | some v => put v s
    | none => s⟩

/-- A flag is true or false, or a string, of which only `true` counts as true. -/
def readFlag? : Json → Option Bool
  | .bool b => some b
  | .string s => some (s == "true")
  | _ => none

/-- A set of characters is a list of strings. -/
def readChars? (j : Json) : Option (List Char) :=
  (j.asList? Json.asString?).map fun items => items.flatMap String.toList

/-- A field that holds a text. -/
def text := of Json.asString?

/-- A field that holds a flag. -/
def flag := of readFlag?

/-- A field that holds a set of characters. -/
def chars := of readChars?

/-- A field that holds a number. -/
def real := of Json.asFloat?

/-- A field that holds a count of 64 bits. -/
def count := of (Json.asNat? (Number.twoTo 64))

/-- A field that holds a count of 32 bits. -/
def smallCount := of (Json.asNat? (Number.twoTo 32))

end SettingsField

open SettingsField in
/-- The fields of the `controls` document. -/
def controlFields : List SettingsField := [
  text "live2d_front_match" fun v s => { s with directives.figure.front := v },
  text "live2d_back_match" fun v s => { s with directives.figure.back := v },
  text "live2d_spliter" fun v s => { s with directives.figure.splitter := v },
  flag "live2d_use_strict" fun v s => { s with directives.figure.strict := v },
  chars "live2d_speaker_indicator" fun v s => { s with directives.speakerIndicators := v },
  text "speaker_front_match" fun v s => { s with directives.speaker.front := v },
  text "speaker_back_match" fun v s => { s with directives.speaker.back := v },
  text "speaker_spliter" fun v s => { s with directives.speaker.splitter := v },
  flag "speaker_use_strict" fun v s => { s with directives.speaker.strict := v },
  text "bg_front_match" fun v s => { s with directives.background.front := v },
  text "bg_back_match" fun v s => { s with directives.background.back := v },
  flag "bg_use_strict" fun v s => { s with directives.background.strict := v },
  flag "bg_allow_repeat" fun v s => { s with directives.background.allowRepeat := v },
  text "bgm_front_match" fun v s => { s with directives.bgm.front := v },
  text "bgm_back_match" fun v s => { s with directives.bgm.back := v },
  flag "bgm_use_strict" fun v s => { s with directives.bgm.strict := v },
  flag "bgm_allow_repeat" fun v s => { s with directives.bgm.allowRepeat := v },
  text "scene_front_match" fun v s => { s with directives.scene.front := v },
  text "scene_back_match" fun v s => { s with directives.scene.back := v },
  flag "scene_use_strict" fun v s => { s with directives.scene.strict := v },
  flag "scene_allow_repeat" fun v s => { s with directives.scene.allowRepeat := v },
  text "memory_front_match" fun v s => { s with directives.memory.front := v },
  text "memory_back_match" fun v s => { s with directives.memory.back := v },
  text "paragraph_spliter" fun v s => { s with paragraphSplitter := v },
  chars "sentence_spliter" fun v s => { s with sentenceTerminators := v },
  chars "close_punctuation" fun v s => { s with closePunctuation := v },
  count "page_max_chars" fun v s => { s with pageMaxChars := v },
  real "screen_border_left" fun v s => { s with layout.borderLeft := v },
  real "screen_border_right" fun v s => { s with layout.borderRight := v },
  real "standard_character_gap" fun v s => { s with layout.characterGap := v },
  real "position_change_factor" fun v s => { s with layout.positionChangeFactor := v }]

open SettingsField in
/-- The fields of the `global` document. -/
def globalFields : List SettingsField := [
  text "front_prompt" fun v s => { s with prompts.front := v },
  text "back_prompt" fun v s => { s with prompts.back := v },
  text "format_prompt" fun v s => { s with prompts.format := v },
  text "model" fun v s => { s with model.model := v },
  of Json.asSingle? "temperature" fun v s => { s with model.temperature := v },
  smallCount "max_tokens" fun v s => { s with model.maxTokens := v },
  text "user_name" fun v s => { s with userName := v },
  text "waiting_info" fun v s => { s with waitingInfo := v },
  count "context_item_length" fun v s => { s with contextItemLength := v },
  count "lore_search_length" fun v s => { s with loreSearchLength := v },
  smallCount "API_max_trying_limit" fun v s => { s with model.retryLimit := v },
  text "API_key" fun v s => { s with model.apiKey := some v }]

namespace Settings

/-- Applies the fields of a table that an object has. -/
def applyFields (fields : List SettingsField) (members : List (String × Json)) (s : Settings) :
    Settings :=
  fields.foldl
    (fun s field =>
      match members.lookup field.key with
      | some j => field.put j s
      | none => s) s

/-- Applies a document that has to be an object. -/
def applyDocument (name : String) (fields : List SettingsField) (doc : Json) (s : Settings) :
    Except DocumentFault Settings :=
  match doc with
  | .object members => .ok (s.applyFields fields members)
  | _ => .error (.notAnObject name)

/-- Applies a `controls` document. -/
def applyControls (doc : Json) (s : Settings) : Except DocumentFault Settings :=
  s.applyDocument "controls" controlFields doc

/-- Applies a `global` document. -/
def applyGlobal (doc : Json) (s : Settings) : Except DocumentFault Settings :=
  s.applyDocument "global" globalFields doc

end Settings

/-! ## Listing -/

/-- What a diagnostic listing shows of the model settings; the key is not shown. -/
def ModelSettings.listing (m : ModelSettings) : String :=
  "ModelParams \x7b model: " ++ Text.listed m.model ++ ", temperature: "
    ++ Number.listingText m.temperature ++ ", max_tokens: " ++ toString m.maxTokens
    ++ ", max_trying_limit: " ++ toString m.retryLimit ++ ", api_key: "
    ++ Text.listed (redacted m.apiKey) ++ " \x7d"

end Dramaturg
