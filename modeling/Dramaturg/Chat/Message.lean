import Dramaturg.Json.Reader

set_option autoImplicit false

/-! # Chat messages

What is sent to a model is a list of messages, each in the role of the system, the user or the
assistant. `toJson` and `ofJson?` are the form in which they travel. -/

namespace Dramaturg

/-- Who speaks a message. -/
inductive Role where
  | system
  | user
  | assistant
deriving DecidableEq

/-- A message of a chat. -/
structure Message where
  role : Role
  content : String
deriving DecidableEq

namespace Role

/-- The name of a role. -/
def name : Role → String
  | .system => "system"
  | .user => "user"
  | .assistant => "assistant"

def toJson (r : Role) : Json := .string r.name

/-- The roles by their names. -/
def names : List (String × Role) :=
  [("system", .system), ("user", .user), ("assistant", .assistant)]

def ofJson? (j : Json) : Option Role := j.choice? names

end Role

namespace Message

def system (content : String) : Message := ⟨.system, content⟩

def user (content : String) : Message := ⟨.user, content⟩

def assistant (content : String) : Message := ⟨.assistant, content⟩

def toJson (m : Message) : Json :=
  .object [("role", m.role.toJson), ("content", .string m.content)]

def ofJson? (j : Json) : Option Message := do
  let members ← j.record? ["role", "content"] 2
  return ⟨← Json.required? members "role" Role.ofJson?,
    ← Json.required? members "content" Json.asString?⟩

/-- What a message looks like in a text. -/
def shape : Json.Shape := .record [("role", .choice), ("content", .any)]

end Message

end Dramaturg
