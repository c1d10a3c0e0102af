import Dramaturg.Chat.Request
import Dramaturg.Scene.Command

set_option autoImplicit false

/-! # Turn requests

A turn is asked for by what the player says, under an identifier of 128 bits. A request may name a
model, switch kinds of commands off, and ask to wait for the player after the reply. -/

namespace Dramaturg

/-! ## Identifiers -/

/-- An identifier: thirty-two hexadecimal digits. -/
structure TurnId where
  digits : Vector (Fin 16) 32
deriving DecidableEq

namespace TurnId

/-- A digit of a value that is taken modulo sixteen. -/
def digit (n : Nat) : Fin 16 := ⟨n % 16, Nat.mod_lt n (by decide)⟩

/-- The identifier of zeros alone. -/
def zero : TurnId := ⟨Vector.replicate 32 (digit 0)⟩

/-- The sizes of the groups of digits that hyphens separate. -/
def groups : List Nat := [8, 4, 4, 4, 12]

/-- A hexadecimal digit in lower case. -/
def digitChar (d : Fin 16) : Char :=
  (['0', '1', '2', '3', '4', '5', '6', '7', '8', '9', 'a', 'b', 'c', 'd', 'e', 'f'])[d]

/-- Digits in groups of the given sizes, with hyphens between them. -/
def writeGroups : List Nat → List Char → List Char
  | [], _ => []
  | [n], cs => cs.take n
  | n :: m :: ns, cs => cs.take n ++ '-' :: writeGroups (m :: ns) (cs.drop n)

/-- The identifier in lower case, with hyphens. -/
def text (t : TurnId) : String :=
  String.ofList (writeGroups groups (t.digits.toList.map digitChar))

/-- The digits of a text of hexadecimal digits in either case. -/
def digits? (cs : List Char) : Option (List (Fin 16)) :=
  cs.mapM fun c => (Json.hexDigit? c).map digit

/-- The digits of a text of groups with hyphens between them. -/
def readGroups? : List Nat → List Char → Option (List (Fin 16))
  | [], cs => if cs.isEmpty then some [] else none
  | [n], cs => if cs.length = n then digits? cs else none
  | n :: m :: ns, cs =>
    match cs.drop n with
    | '-' :: rest =>
      match digits? (cs.take n), readGroups? (m :: ns) rest with
      | some ds, some es => some (ds ++ es)
      | _, _ => none
    | _ => none

/-- The identifier of a list of digits, if they are as many as it takes. -/
def ofDigits? (ds : List (Fin 16)) : Option TurnId :=
  if h : ds.length = 32 then some ⟨⟨ds.toArray, by simpa using h⟩⟩ else none

/-- What stands between a pair of braces. -/
def unbraced? : List Char → Option (List Char)
  | '{' :: rest => if rest.getLast? = some '}' then some rest.dropLast else none
  | _ => none

/-- What stands behind `urn:uuid:`, in letters of either case. -/
def unprefixed? (cs : List Char) : Option (List Char) :=
  let name := "urn:uuid:".toList
  if (cs.take name.length).map Char.toLower = name then some (cs.drop name.length) else none

/-- Reads an identifier: thirty-two digits, or groups with hyphens, which may stand in braces or
    behind `urn:uuid:`. -/
def ofText? (s : String) : Option TurnId :=
  let cs := s.toList
  if cs.length = 32 then (digits? cs).bind ofDigits?
  else
    let inner := ((unbraced? cs).orElse fun _ => unprefixed? cs).getD cs
    (readGroups? groups inner).bind ofDigits?

end TurnId

/-! ## Requests -/

/-- Which kinds of commands a turn may give. -/
structure Channels where
  dialogue : Bool := true
  figure : Bool := true
  background : Bool := true
  music : Bool := true
  scene : Bool := true
deriving DecidableEq

/-- What a turn is asked for. -/
structure TurnRequest where
  id : TurnId
  prompt : String
  /-- Asked instead of the model of the settings. -/
  model : Option String := none
  channels : Channels := {}
  /-- Wait for the player after the reply. -/
  showAfterPoint : Bool := false
deriving DecidableEq

namespace Channels

def toJson (c : Channels) : Json :=
  .object [("dialogue", .bool c.dialogue), ("figure", .bool c.figure),
    ("background", .bool c.background), ("music", .bool c.music), ("scene", .bool c.scene)]

/-- The names of the channels. -/
def memberNames : List String := ["dialogue", "figure", "background", "music", "scene"]

def ofJson? (j : Json) : Option Channels := do
  let members ← j.record? memberNames 0
  return ⟨← Json.withDefault? members "dialogue" true Json.asBool?,
    ← Json.withDefault? members "figure" true Json.asBool?,
    ← Json.withDefault? members "background" true Json.asBool?,
    ← Json.withDefault? members "music" true Json.asBool?,
    ← Json.withDefault? members "scene" true Json.asBool?⟩

/-- What channels look like in a text. -/
def shape : Json.Shape := .record (memberNames.map fun name => (name, .any))

/-- Whether commands of a kind may be given. -/
def allows (c : Channels) : CommandKind → Bool
  | .say => c.dialogue
  | .changeFigure => c.figure
  | .setTransform => c.figure
  | .changeBackground => c.background
  | .bgm => c.music
  | .changeScene => c.scene

/-- The channels that are on in both. -/
def both (c d : Channels) : Channels :=
  ⟨c.dialogue && d.dialogue, c.figure && d.figure, c.background && d.background,
    c.music && d.music, c.scene && d.scene⟩

end Channels

namespace TurnRequest

def toJson (r : TurnRequest) : Json :=
  .object [("id", .string r.id.text), ("prompt", .string r.prompt),
    ("model", (r.model.map Json.string).getD .null), ("channels", r.channels.toJson),
    ("showAfterPoint", .bool r.showAfterPoint)]

def ofJson? (j : Json) : Option TurnRequest := do
  let members ← j.record? ["id", "prompt", "model", "channels", "showAfterPoint"] 2
  return ⟨← Json.required? members "id" fun j => j.asString?.bind TurnId.ofText?,
    ← Json.required? members "prompt" Json.asString?,
    ← Json.optional? members "model" Json.asString?,
    ← Json.withDefault? members "channels" {} Channels.ofJson?,
    ← Json.withDefault? members "showAfterPoint" false Json.asBool?⟩

/-- What a request looks like in a text. -/
def shape : Json.Shape :=
  .record [("id", .any), ("prompt", .any), ("model", .any), ("channels", Channels.shape),
    ("showAfterPoint", .any)]

end TurnRequest

end Dramaturg
