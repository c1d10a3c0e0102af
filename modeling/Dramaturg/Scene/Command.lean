import Dramaturg.Json.Reader
import Dramaturg.Number.Layout

set_option autoImplicit false

/-! # Scene commands

What the renderer of a visual novel is told: a kind, a content, and named arguments that are flags,
numbers or texts. Arguments travel as bare values, so that their kind is seen from the value. -/

namespace Dramaturg

/-- What a command does. -/
inductive CommandKind where
  | say
  | changeBackground
  | bgm
  | changeScene
  | changeFigure
  | setTransform
deriving DecidableEq

/-- The value of an argument. -/
inductive ArgumentValue where
  | flag (value : Bool)
  | number (value : Float)
  | text (value : String)
deriving DecidableEq

/-- A named argument. -/
structure Argument where
  key : String
  value : ArgumentValue
deriving DecidableEq

/-- A command to the renderer. -/
structure Command where
  kind : CommandKind
  content : String
  arguments : List Argument
deriving DecidableEq

namespace CommandKind

/-- The name of a kind. -/
def name : CommandKind → String
  | .say => "say"
  | .changeBackground => "changeBg"
  | .bgm => "bgm"
  | .changeScene => "changeScene"
  | .changeFigure => "changeFigure"
  | .setTransform => "setTransform"

/-- The kinds by their names. -/
def names : List (String × CommandKind) :=
  [("say", .say), ("changeBg", .changeBackground), ("bgm", .bgm), ("changeScene", .changeScene),
    ("changeFigure", .changeFigure), ("setTransform", .setTransform)]

def toJson (k : CommandKind) : Json := .string k.name

def ofJson? (j : Json) : Option CommandKind := j.choice? names

end CommandKind

namespace ArgumentValue

/-- An identifying number as an argument. -/
def ofNat (n : Nat) : ArgumentValue := .number (Number.toDouble (Number.ofInt n))

/-- The value as a player would see it. -/
def shown : ArgumentValue → String
  | .flag true => "true"
  | .flag false => "false"
  | .number x => Number.plainText x
  | .text s => s

/-- A number that is not finite has no form of its own and travels as null. -/
def toJson : ArgumentValue → Json
  | .flag b => .bool b
  | .number x => if x.isFinite then .ofFloat x else .null
  | .text s => .string s

def ofJson? : Json → Option ArgumentValue
  | .bool b => some (.flag b)
  | .string s => some (.text s)
  | j => j.asFloat?.map .number

end ArgumentValue

namespace Argument

def toJson (a : Argument) : Json :=
  .object [("key", .string a.key), ("value", a.value.toJson)]

def ofJson? (j : Json) : Option Argument := do
  let members ← j.record? ["key", "value"] 2
  return ⟨← Json.required? members "key" Json.asString?,
    ← Json.required? members "value" ArgumentValue.ofJson?⟩

/-- What an argument looks like in a text. -/
def shape : Json.Shape := .record [("key", .any), ("value", .any)]

end Argument

namespace Command

/-- A command without arguments. -/
def new (kind : CommandKind) (content : String) : Command := ⟨kind, content, []⟩

/-- The command with one argument more. -/
def arg (c : Command) (key : String) (value : ArgumentValue) : Command :=
  { c with arguments := c.arguments ++ [⟨key, value⟩] }

/-- The value of the first argument of a name. -/
def get? (c : Command) (key : String) : Option ArgumentValue :=
  (c.arguments.find? (·.key == key)).map (·.value)

def toJson (c : Command) : Json :=
  .object [("kind", c.kind.toJson), ("content", .string c.content),
    ("args", .array (c.arguments.map Argument.toJson))]

def ofJson? (j : Json) : Option Command := do
  let members ← j.record? ["kind", "content", "args"] 2
  return ⟨← Json.required? members "kind" CommandKind.ofJson?,
    ← Json.required? members "content" Json.asString?,
    ← Json.withDefault? members "args" [] (Json.asList? Argument.ofJson?)⟩

/-- What a command looks like in a text. -/
def shape : Json.Shape :=
  .record [("kind", .choice), ("content", .any), ("args", .list Argument.shape)]

end Command

end Dramaturg
