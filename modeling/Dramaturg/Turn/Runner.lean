import Dramaturg.Chat.Model
import Dramaturg.Story.Directory
import Dramaturg.Turn.Paragraph
import Dramaturg.Turn.Session

set_option autoImplicit false

/-! # Turns

A turn builds the prompt, asks the model, and acts out the reply. Nothing of the turn is kept unless
the reply is there and still belongs to the session in which it was asked for. -/

namespace Dramaturg

/-- What a turn came to. -/
inductive TurnOutcome where
  | completed (reply : String) (commands : List Command) (autoAdvance : Bool)
  /-- The session changed while the model was answering. -/
  | stale
deriving DecidableEq

namespace TurnOutcome

def toJson : TurnOutcome → Json
  | .completed reply commands autoAdvance =>
    .object [("status", .string "completed"), ("reply", .string reply),
      ("commands", .array (commands.map Command.toJson)), ("auto_advance", .bool autoAdvance)]
  | .stale => .object [("status", .string "stale")]

end TurnOutcome

/-- Everything that lasts from turn to turn. -/
structure Runner where
  story : Story
  stage : Stage Float
  compactor : Compactor
  directives : DirectiveRules
  pager : Pager
  clock : SessionClock := {}

namespace Runner

/-- The runner of a story, with an empty stage. -/
def new (story : Story) (random : Random.Source) (ids : IdSupply) : Runner where
  story := story
  stage := { rules := story.settings.stageRules, random := random, ids := ids }
  compactor := Compactor.ofSettings story.settings
  directives := story.settings.directives
  pager := Pager.ofSettings story.settings

/-- The runner with an empty stage that takes its chances from a seed. -/
def withSeed (seed : UInt64) (r : Runner) : Runner :=
  { r with
    stage :=
      { rules := r.story.settings.stageRules, random := .ofSeed seed, ids := r.stage.ids } }

/-- The runner with a clock that it shares with the host. -/
def withClock (clock : SessionClock) (r : Runner) : Runner := { r with clock := clock }

/-- Reads the directory of the story again. Figures and memories stay. If the directory cannot be
    listed, the story is left without its documents, and all else as it was. -/
def reload (disk : String → Listing) (r : Runner) : Except Failure Nat × Runner :=
  match r.story.reload disk with
  | (.error failure, story) => (.error failure, { r with story := story })
  | (.ok loaded, story) =>
    (.ok loaded,
      { r with
        story := story
        stage := r.stage.reconfigure story.settings.stageRules
        compactor := Compactor.ofSettings story.settings
        directives := story.settings.directives
        pager := Pager.ofSettings story.settings })

/-- The request that a turn sends. -/
def chatRequest (r : Runner) (request : TurnRequest) (messages : List Message) : ChatRequest where
  model := request.model.getD r.story.settings.model.model
  messages := messages
  temperature := r.story.settings.model.temperature
  maxTokens := some r.story.settings.model.maxTokens

/-- Acts out one paragraph. -/
def paragraphAct (r : Runner) (channels : Channels) (reply currentScene paragraph : String) :
    Act Float := fun s =>
  let bundle := r.directives.read paragraph
  let (resolution, s) := Resolution.ofBundle r.story channels currentScene bundle s
  resolution.act channels reply (r.pager.paginate bundle.cleaned) s

/-- Acts out a reply. -/
def replyAct (r : Runner) (channels : Channels) (reply currentScene : String) : Act Float :=
  Act.inOrder (Act.silent Stage.beginParagraph ::
    (splitParagraphs r.story.settings.paragraphSplitter reply).map
      (r.paragraphAct channels reply currentScene))

/-- Runs a turn. The clock of the runner counts the sessions that the host began in the meantime. -/
def run {σ : Type} (model : Model σ) (request : TurnRequest) (transcript : List TranscriptEntry)
    (currentScene : String) (r : Runner) (s : σ) : Except Stop TurnOutcome × Runner × σ :=
  match r.story.buildPrompt r.compactor request.prompt transcript with
  | .error stop => (.error stop, r, s)
  | .ok (messages, compactor) =>
    let ask := Model.askAgain r.story.settings.model.retryLimit model
    let (exchange, s) := ask (r.chatRequest request messages) s
    let after := { r with clock := r.clock.invalidateTimes exchange.interruptions }
    match exchange.answer with
    | .error failure => (.error (.failure (.provider failure)), after, s)
    | .ok response =>
      if !after.clock.isCurrent r.clock.token then (.ok .stale, after, s)
      else
        let reply := response.content
        match r.replyAct request.channels reply currentScene r.stage with
        | (.error fault, stage) =>
          (.error (.fault fault), { after with compactor := compactor, stage := stage }, s)
        | (.ok commands, stage) =>
          (.ok (.completed reply commands (!request.showAfterPoint)),
            { after with compactor := compactor, stage := stage }, s)

end Runner

end Dramaturg
