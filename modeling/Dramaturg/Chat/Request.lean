import Dramaturg.Chat.Message

set_option autoImplicit false

/-! # Requests and responses

A request asks a model to continue a chat; a response holds what it wrote. An absent limit or usage
is left out of the form in which they travel. -/

namespace Dramaturg

/-- A question to a model. -/
structure ChatRequest where
  model : String
  messages : List Message
  temperature : Float32
  maxTokens : Option Nat

/-- How many tokens a response took. -/
structure Usage where
  promptTokens : Nat
  completionTokens : Nat
  totalTokens : Nat
deriving DecidableEq

/-- What a model answered. -/
structure ChatResponse where
  content : String
  model : String
  usage : Option Usage
deriving DecidableEq

/-- A member that is left out when it is absent. -/
def Json.optionalMember {α : Type} (name : String) (write : α → Json) :
    Option α → List (String × Json)
  | none => []
  | some v => [(name, write v)]

/-- A count of 32 bits. -/
def Json.asCount? : Json → Option Nat := Json.asNat? (Number.twoTo 32)

namespace ChatRequest

/-- The temperature of a request that names none. -/
def defaultTemperature : Float32 := Number.narrow 0.7

def toJson (r : ChatRequest) : Json :=
  .object ([("model", .string r.model), ("messages", .array (r.messages.map Message.toJson)),
    ("temperature", .ofSingle r.temperature)]
    ++ Json.optionalMember "max_tokens" Json.ofNat r.maxTokens)

def ofJson? (j : Json) : Option ChatRequest := do
  let members ← j.record? ["model", "messages", "temperature", "max_tokens"] 2
  return ⟨← Json.required? members "model" Json.asString?,
    ← Json.required? members "messages" (Json.asList? Message.ofJson?),
    ← Json.withDefault? members "temperature" defaultTemperature Json.asSingle?,
    ← Json.optional? members "max_tokens" Json.asCount?⟩

/-- What a request looks like in a text. -/
def shape : Json.Shape :=
  .record [("model", .any), ("messages", .list Message.shape), ("temperature", .any),
    ("max_tokens", .any)]

end ChatRequest

namespace Usage

def toJson (u : Usage) : Json :=
  .object [("prompt_tokens", .ofNat u.promptTokens),
    ("completion_tokens", .ofNat u.completionTokens), ("total_tokens", .ofNat u.totalTokens)]

def ofJson? (j : Json) : Option Usage := do
  let members ← j.record? ["prompt_tokens", "completion_tokens", "total_tokens"] 3
  return ⟨← Json.required? members "prompt_tokens" Json.asCount?,
    ← Json.required? members "completion_tokens" Json.asCount?,
    ← Json.required? members "total_tokens" Json.asCount?⟩

/-- What a usage looks like in a text. -/
def shape : Json.Shape :=
  .record [("prompt_tokens", .any), ("completion_tokens", .any), ("total_tokens", .any)]

end Usage

namespace ChatResponse

/-- Whether the model wrote nothing at all. -/
def isEmpty (r : ChatResponse) : Bool := r.content.isEmpty

def toJson (r : ChatResponse) : Json :=
  .object ([("content", .string r.content), ("model", .string r.model)]
    ++ Json.optionalMember "usage" Usage.toJson r.usage)

def ofJson? (j : Json) : Option ChatResponse := do
  let members ← j.record? ["content", "model", "usage"] 2
  return ⟨← Json.required? members "content" Json.asString?,
    ← Json.required? members "model" Json.asString?,
    ← Json.optional? members "usage" Usage.ofJson?⟩

/-- What a response looks like in a text. -/
def shape : Json.Shape := .record [("content", .any), ("model", .any), ("usage", Usage.shape)]

end ChatResponse

end Dramaturg
