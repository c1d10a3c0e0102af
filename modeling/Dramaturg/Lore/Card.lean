import Dramaturg.Json.Writer
import Dramaturg.Lore.Entry

set_option autoImplicit false

/-! # Character cards

A card describes one character to the model. Its description may refer to the character by a
placeholder. -/

namespace Dramaturg

/-- A character card. -/
structure Card where
  id : String
  name : String
  description : String
  /-- The document that the card came from. -/
  source : String
deriving DecidableEq

namespace Card

/-- What stands for the character's name in a description. -/
def placeholder : String := "\x7b\x7bchar\x7d\x7d"

/-- The description with the name in place of every placeholder. -/
def render (c : Card) : String :=
  Text.replaced placeholder c.name c.description

/-- An identifier as text: a string as it is, any other value as it is written. -/
def idText : Json → String
  | .string s => s
  | j => j.compact

/-- Reads the data of a card. It has to have a name and a description. -/
def ofJson? (source : String) (data : Json) : Option Card := do
  let members ← data.record? ["id", "extensions", "name", "description"] 0
  let id ← Json.optional? members "id" some
  let extensions ← Json.optional? members "extensions" Lore.Extensions.ofJson?
  let name ← Json.optional? members "name" Json.asString?
  let description ← Json.optional? members "description" Json.asString?
  return {
    id := ((id.or (extensions.bind (·.id))).map idText).getD "0"
    name := ← name
    description := ← description
    source := source }

end Card

end Dramaturg
