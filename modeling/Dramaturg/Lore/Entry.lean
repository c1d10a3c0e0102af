import Dramaturg.Chat.Message
import Dramaturg.Text.Search

set_option autoImplicit false

/-! # Lore entries

An entry is a piece of knowledge that enters the prompt when one of its keys is mentioned. Entries
come from documents written for many programs, so each member may be missing or null and then has a
default; a member of the wrong kind drops the entry. -/

namespace Dramaturg

/-- Where an entry stands in a prompt. -/
inductive LorePosition where
  | beforeCharacters
  | afterCharacters
  /-- Inside the history, at a depth counted from its end. -/
  | anchored
deriving DecidableEq

/-- A lore entry. -/
structure Lore where
  id : Int := 0
  content : String
  keys : List String
  /-- Active whatever is said. -/
  constant : Bool := false
  enabled : Bool := true
  depth : Nat := 4
  order : Int := 10
  position : LorePosition := .anchored
  /-- Not activated by the content of other entries. -/
  excludeRecursion : Bool := false
  /-- Meant to activate no other entries by its content. -/
  preventRecursion : Bool := false
  role : Role := .system
  /-- The document that the entry came from. -/
  source : String := ""
deriving DecidableEq

namespace LorePosition

/-- The number of a position; positions are sorted by it. -/
def number : LorePosition → Nat
  | .beforeCharacters => 0
  | .afterCharacters => 1
  | .anchored => 4

/-- The position that a value names; what names none is anchored. -/
def ofJson (j : Json) : LorePosition :=
  match j.asInt64? with
  | some 0 => .beforeCharacters
  | some 1 => .afterCharacters
  | some _ => .anchored
  | none =>
    match j.asString? with
    | some "before_char" => .beforeCharacters
    | some "after_char" => .afterCharacters
    | _ => .anchored

end LorePosition

/-- The role that a value names; what names none is the system. -/
def Role.ofNumber (j : Json) : Role :=
  match j.asInt64? with
  | some 1 => .user
  | some 2 => .assistant
  | _ => .system

namespace Lore

/-- The first key that occurs in a text. -/
def matchingKey? (e : Lore) (text : String) : Option String :=
  e.keys.find? fun key => Text.contains text key

/-- Whether a text mentions a key of the entry. -/
def isMentionedIn (e : Lore) (text : String) : Bool :=
  (e.matchingKey? text).isSome

/-- The entry as a message. -/
def message (e : Lore) : Message := ⟨e.role, e.content⟩

/-! ## Reading entries -/

/-- The keys of an entry: a list of strings, or one string. -/
def readKeys? (j : Json) : Option (List String) :=
  match j with
  | .string s => some [s]
  | j => j.asList? Json.asString?

/-- The extensions of an entry or a card: a depth and an identifier. -/
structure Extensions where
  depth : Option Int
  id : Option Json

def Extensions.ofJson? (j : Json) : Option Extensions := do
  let members ← j.record? ["depth", "id"] 0
  return ⟨← Json.optional? members "depth" Json.asInt64?, ← Json.optional? members "id" some⟩

/-- The names of the members of an entry. -/
def memberNames : List String :=
  ["id", "constant", "content", "depth", "extensions", "enabled", "disable", "keys", "key", "order",
    "position", "excludeRecursion", "preventRecursion", "role"]

/-- Reads an entry of a document. It has to have keys and a content. -/
def ofJson? (source : String) (j : Json) : Option Lore := do
  let members ← j.record? memberNames 0
  let id ← Json.optional? members "id" some
  let constant ← Json.optional? members "constant" Json.asBool?
  let content ← Json.optional? members "content" Json.asString?
  let depth ← Json.optional? members "depth" Json.asInt64?
  let extensions ← Json.optional? members "extensions" Extensions.ofJson?
  let enabled ← Json.optional? members "enabled" Json.asBool?
  let disable ← Json.optional? members "disable" Json.asBool?
  let keys ← Json.optional? members "keys" readKeys?
  let key ← Json.optional? members "key" readKeys?
  let order ← Json.optional? members "order" Json.asInt64?
  let position ← Json.optional? members "position" some
  let excludeRecursion ← Json.optional? members "excludeRecursion" Json.asBool?
  let preventRecursion ← Json.optional? members "preventRecursion" Json.asBool?
  let role ← Json.optional? members "role" some
  return {
    id := (id.bind Json.asInt64?).getD 0
    content := ← content
    keys := ← keys.or key
    constant := constant.getD false
    enabled := enabled.getD (!disable.getD false)
    depth := ((depth.or (extensions.bind (·.depth))).getD 4).toNat
    order := order.getD 10
    position := (position.map LorePosition.ofJson).getD .anchored
    excludeRecursion := excludeRecursion.getD false
    preventRecursion := preventRecursion.getD false
    role := (role.map Role.ofNumber).getD .system
    source := source }

end Lore

end Dramaturg
