import Dramaturg.Json.Basic
import Dramaturg.Text.Search

set_option autoImplicit false

/-! # Flat tables

A flat table turns a key that a model wrote into the value of its first row that matches and is not
empty. A row matches strictly if its key is what was written, and otherwise if its key occurs in
it. -/

namespace Dramaturg

/-- Whether the key of a row matches what a model wrote. -/
def keyMatches (strict : Bool) (stored target : String) : Bool :=
  if strict then stored == target else Text.contains target stored

/-- A key with its value. -/
structure TableRow where
  key : String
  value : String
deriving DecidableEq

/-- Rows in the order in which they are tried. -/
structure FlatTable where
  rows : List TableRow := []
deriving DecidableEq

namespace TableRow

/-- Whether a row answers a key: it matches, and its value is not empty. -/
def answers (strict : Bool) (target : String) (row : TableRow) : Bool :=
  keyMatches strict row.key target && !row.value.isEmpty

/-- Reads a row; its value may be missing. -/
def ofJson? (j : Json) : Option TableRow := do
  let members ← j.record? ["key", "value"] 1
  return ⟨← Json.required? members "key" Json.asString?,
    ← Json.withDefault? members "value" "" Json.asString?⟩

end TableRow

namespace FlatTable

/-- The first row that answers a key. -/
def row? (t : FlatTable) (strict : Bool) (target : String) : Option TableRow :=
  t.rows.find? (·.answers strict target)

/-- The value for a key. -/
def lookup? (t : FlatTable) (strict : Bool) (target : String) : Option String :=
  (t.row? strict target).map (·.value)

/-- Reads a table; one malformed row spoils it. -/
def ofJson? (j : Json) : Option FlatTable :=
  (j.asList? TableRow.ofJson?).map FlatTable.mk

end FlatTable

end Dramaturg
