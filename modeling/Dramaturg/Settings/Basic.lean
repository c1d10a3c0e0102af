import Dramaturg.Directive.Rule
import Dramaturg.Stage.Layout

set_option autoImplicit false

/-! # Settings of a story

Everything that a story may choose: the delimiters of its directives, where pages end, the fixed
parts of the prompt, the model and the bounds of the stage. -/

namespace Dramaturg

/-- The fixed parts of a prompt. -/
structure PromptParts where
  /-- Sent first, as a system message. -/
  front : String := ""
  /-- What the reply has to look like, as a system message. -/
  format : String := ""
  /-- Sent last, as a user message. -/
  back : String := ""
deriving DecidableEq

/-- Which model is asked, and how. -/
structure ModelSettings where
  model : String := "anthropic/claude-3.7-sonnet"
  temperature : Float32 := Number.narrow 0.7
  maxTokens : Nat := 10000
  /-- How often an empty reply is asked for again. -/
  retryLimit : Nat := 1
  apiKey : Option String := none

/-- How each kind of directive is delimited. -/
structure DirectiveRules where
  speaker : Rule := ⟨"<<<", ">>>", "|", false, false⟩
  figure : Rule := ⟨"<<<", ">>>", "|", false, false⟩
  background : Rule := ⟨"<<<", ">>>", "", false, false⟩
  bgm : Rule := ⟨"<<<", ">>>", "", false, false⟩
  scene : Rule := ⟨"<<<", ">>>", "", false, false⟩
  memory : Rule := ⟨"[[[", "]]]", "", false, false⟩
  /-- What stands between speaker and pose in a figure directive. -/
  speakerIndicators : List Char := [':', '：']
deriving DecidableEq

/-- The rules in the order in which their directives are taken out of a reply. -/
def DirectiveRules.inOrder (d : DirectiveRules) : List Rule :=
  [d.speaker, d.figure, d.background, d.bgm, d.scene, d.memory]

/-- The settings of a story. -/
structure Settings where
  directives : DirectiveRules := {}
  /-- What stands between the paragraphs of a reply. -/
  paragraphSplitter : String := ">>>"
  sentenceTerminators : List Char := "。！？.!?\n；;）)】]》>".toList
  /-- What may follow the end of a sentence on the same page. -/
  closePunctuation : List Char := "”’》】）])>\"'）」".toList
  pageMaxChars : Nat := 78
  prompts : PromptParts := {}
  /-- The name under which the player's lines are shown. -/
  userName : String := "你"
  /-- The line shown while a reply is awaited. -/
  waitingInfo : String := "waiting for AI response..."
  /-- How many history messages a prompt holds. -/
  contextItemLength : Nat := 10
  /-- How many history messages are searched for lore. -/
  loreSearchLength : Nat := 2
  model : ModelSettings := {}
  layout : Layout Float := ⟨-1300, 1300, 600, 1⟩

/-- What is shown in place of a secret. -/
def redacted (secret : Option String) : String :=
  if secret.isSome then "[REDACTED]" else "None"

end Dramaturg
