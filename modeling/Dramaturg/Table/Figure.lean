import Dramaturg.Table.Flat

set_option autoImplicit false

/-! # Figure tables

Which model stands for a character, and which poses it can take. A pose key may have several
features, of which one is chosen by chance. -/

namespace Dramaturg

/-- One way to show a figure. -/
structure Feature where
  motion : String := ""
  expression : String := ""
  /-- The model to load instead of the default one, if not empty. -/
  overridePath : String := ""
deriving DecidableEq

/-- A pose key and its features. -/
structure FigureTrigger where
  key : String
  features : List Feature
deriving DecidableEq

/-- A character with its default model. -/
structure Character where
  speaker : String
  defaultPath : String
  triggers : List FigureTrigger
deriving DecidableEq

/-- Characters in the order in which they are tried. -/
structure FigureTable where
  characters : List Character := []
deriving DecidableEq

namespace Feature

/-- The names of the members of a feature. -/
def memberNames : List String := ["motion", "expression", "path"]

def ofJson? (j : Json) : Option Feature := do
  let members ← j.record? memberNames 0
  return ⟨← Json.withDefault? members "motion" "" Json.asString?,
    ← Json.withDefault? members "expression" "" Json.asString?,
    ← Json.withDefault? members "path" "" Json.asString?⟩

/-- The model to load for a feature of a character. -/
def content (f : Feature) (defaultPath : String) : String :=
  if f.overridePath.isEmpty then defaultPath else f.overridePath

end Feature

namespace FigureTrigger

/-- Whether a trigger answers a key: it matches, and it has a feature. -/
def answers (strict : Bool) (target : String) (t : FigureTrigger) : Bool :=
  keyMatches strict t.key target && !t.features.isEmpty

/-- Reads a trigger; a malformed list of features counts as empty. -/
def ofMember (member : String × Json) : FigureTrigger :=
  ⟨member.1, (member.2.asList? Feature.ofJson?).getD []⟩

end FigureTrigger

namespace Character

def ofJson? (j : Json) : Option Character := do
  let members ← j.record? ["speaker", "default_live2d_path", "refer_table"] 1
  let triggers ← Json.withDefault? members "refer_table" [] Json.asObject?
  return ⟨← Json.required? members "speaker" Json.asString?,
    ← Json.withDefault? members "default_live2d_path" "" Json.asString?,
    triggers.map FigureTrigger.ofMember⟩

/-- The first trigger that answers a key. -/
def trigger? (c : Character) (strict : Bool) (target : String) : Option FigureTrigger :=
  c.triggers.find? (·.answers strict target)

end Character

namespace FigureTable

/-- The first character whose name matches. -/
def character? (t : FigureTable) (strict : Bool) (name : String) : Option Character :=
  t.characters.find? fun c => keyMatches strict c.speaker name

/-- The features of a pose of a character. Only the first character that matches is searched. -/
def features? (t : FigureTable) (strict : Bool) (name target : String) : Option (List Feature) :=
  (t.character? strict name).bind fun c => (c.trigger? strict target).map (·.features)

/-- The default model of a character, whose name is never matched strictly here. -/
def defaultPath? (t : FigureTable) (name : String) : Option String :=
  ((t.character? false name).map (·.defaultPath)).filter (!·.isEmpty)

/-- Reads a table; one malformed character spoils it. -/
def ofJson? (j : Json) : Option FigureTable :=
  (j.asList? Character.ofJson?).map FigureTable.mk

end FigureTable

end Dramaturg
