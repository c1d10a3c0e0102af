import Dramaturg.Table.Figure
import Dramaturg.Table.Scene

set_option autoImplicit false

/-! # The tables of a story

The `controls` document holds four tables. A table that is missing or malformed there leaves the
one at hand as it is. -/

namespace Dramaturg

/-- The four tables of a story. -/
structure Tables where
  background : FlatTable := {}
  bgm : FlatTable := {}
  scene : SceneTable := {}
  figures : FigureTable := {}
deriving DecidableEq

namespace Tables

/-- The table under a key of a document, or the one at hand. -/
def reread {α : Type} (doc : Json) (key : String) (read : Json → Option α) (old : α) : α :=
  ((doc.get? key).bind read).getD old

/-- Takes over the tables of a document. -/
def load (doc : Json) (t : Tables) : Tables where
  background := reread doc "bg_table" FlatTable.ofJson? t.background
  bgm := reread doc "bgm_table" FlatTable.ofJson? t.bgm
  scene := reread doc "scene_table" SceneTable.ofJson? t.scene
  figures := reread doc "figure_table" FigureTable.ofJson? t.figures

end Tables

end Dramaturg
