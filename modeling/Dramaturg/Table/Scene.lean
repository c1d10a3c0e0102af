import Dramaturg.Table.Flat

set_option autoImplicit false

/-! # Scene tables

Where a scene may lead to. Only the first row whose scene matches the present one is searched, even
if it has no answer. -/

namespace Dramaturg

/-- The transitions out of a scene. -/
structure SceneRow where
  scene : String
  triggers : List TableRow
deriving DecidableEq

/-- Rows in the order in which they are tried. -/
structure SceneTable where
  rows : List SceneRow := []
deriving DecidableEq

namespace SceneRow

/-- Reads a row: the first member of an object, whose value is an object of triggers. A trigger
    that is not a string leads nowhere. -/
def ofJson? : Json → Option SceneRow
  | .object ((scene, .object triggers) :: _) =>
    some ⟨scene, triggers.map fun (key, value) => ⟨key, value.asString?.getD ""⟩⟩
  | _ => none

end SceneRow

namespace SceneTable

/-- The row of the present scene. -/
def row? (t : SceneTable) (strict : Bool) (scene : String) : Option SceneRow :=
  t.rows.find? fun row => keyMatches strict row.scene scene

/-- The trigger of the present scene that answers a key. -/
def trigger? (t : SceneTable) (strict : Bool) (scene target : String) : Option TableRow :=
  (t.row? strict scene).bind fun row => row.triggers.find? (·.answers strict target)

/-- The scene that a key leads to. -/
def lookup? (t : SceneTable) (strict : Bool) (scene target : String) : Option String :=
  (t.trigger? strict scene target).map (·.value)

/-- Reads a table; malformed rows are passed over. -/
def ofJson? (j : Json) : Option SceneTable :=
  j.asArray?.map fun items => ⟨items.filterMap SceneRow.ofJson?⟩

end SceneTable

end Dramaturg
