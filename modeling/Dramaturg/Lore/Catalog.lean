import Dramaturg.Lore.Card

set_option autoImplicit false

/-! # The catalog

All lore entries and character cards of a story, in the order in which they were loaded, and the
kinds of documents that they come from. -/

namespace Dramaturg

/-- What a document is taken for. -/
inductive DocumentKind where
  | empty
  | global
  | controls
  | characterCard
  | worldBook
deriving DecidableEq

namespace DocumentKind

/-- The name of a kind. -/
def name : DocumentKind → String
  | .empty => "empty"
  | .global => "global"
  | .controls => "controls"
  | .characterCard => "character_card"
  | .worldBook => "world_book"

/-- Whether a document holds nothing. -/
def isVoid : Json → Bool
  | .null => true
  | .object members => members.isEmpty
  | .array items => items.isEmpty
  | .string s => s.isEmpty
  | _ => false

/-- The kind of a document: two names are set aside, and a document with data is a card. -/
def classify (name : String) (doc : Json) : DocumentKind :=
  if isVoid doc then .empty
  else if name = "global" then .global
  else if name = "controls" then .controls
  else
    match doc.get? "data" with
    | none => .worldBook
    | some .null => .worldBook
    | some _ => .characterCard

end DocumentKind

/-- The lore and the cards of a story. -/
structure Catalog where
  lore : List Lore := []
  cards : List Card := []
deriving DecidableEq

namespace Catalog

/-- Adds the entries that can be read from a list of values. -/
def addLore (source : String) (entries : List Json) (c : Catalog) : Catalog :=
  { c with lore := c.lore ++ entries.filterMap (Lore.ofJson? source) }

/-- The values in a map or a list of entries. -/
def entriesOf : Option Json → List Json
  | some (.object members) => members.map (·.2)
  | some (.array items) => items
  | _ => []

/-- Adds a world book: the entries in its map or list. -/
def addWorldBook (source : String) (doc : Json) (c : Catalog) : Catalog :=
  c.addLore source (entriesOf (doc.get? "entries"))

/-- The entries of the book inside the data of a card, which have to stand in a list. -/
def bookOf (data : Json) : List Json :=
  (((data.get? "character_book").bind (·.get? "entries")).bind Json.asArray?).getD []

/-- Adds a character card and the entries of its book. The book is read even if the card is not. -/
def addCharacterCard (source : String) (doc : Json) (c : Catalog) : Catalog :=
  match doc.get? "data" with
  | none => c
  | some data =>
    { c with cards := c.cards ++ (Card.ofJson? source data).toList }.addLore source (bookOf data)

/-- The descriptions of the characters as messages. -/
def characterMessages (c : Catalog) : List Message :=
  c.cards.map fun card => .system card.render

end Catalog

end Dramaturg
