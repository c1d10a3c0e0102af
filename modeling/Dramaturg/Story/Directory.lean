import Dramaturg.Json.Reader
import Dramaturg.Story.Basic

set_option autoImplicit false

/-! # Story directories

The documents of a story are the files of a directory whose names end in `.json`. `global` is read
first, then `controls`, then the others by name; a file that cannot be read, or holds no JSON, is
passed over. -/

namespace Dramaturg

/-- A file of a directory. Its content is `none` if it cannot be read as text. -/
structure StoryFile where
  name : String
  content : Option String
deriving DecidableEq

/-- What a directory lists, or why it cannot be listed. -/
abbrev Listing : Type := Except Failure (List StoryFile)

namespace StoryFile

/-- The end of the names of documents. -/
def documentEnding : String := ".json"

/-- The name of the document in a file, if the file is one. -/
def documentName? (f : StoryFile) : Option String :=
  match Text.after? documentEnding.toList.reverse f.name.toList.reverse with
  | none => none
  | some [] => none
  | some stem => some (String.ofList stem.reverse)

/-- Where a document stands in the order of loading, before names count. -/
def rank (name : String) : Nat :=
  if name = "global" then 0 else if name = "controls" then 1 else 2

/-- Whether one document may be loaded before another. -/
def nameLE (a b : String) : Bool :=
  decide (rank a < rank b) || (rank a == rank b && decide (a ≤ b))

end StoryFile

namespace Story

/-- The documents of a directory by name, in the order of loading. -/
def documentsOf (files : List StoryFile) : List (String × Option String) :=
  (files.filterMap fun f => f.documentName?.map fun name => (name, f.content)).mergeSort
    fun a b => StoryFile.nameLE a.1 b.1

/-- The documents of a directory that can be read. -/
def readable (files : List StoryFile) : List (String × Json) :=
  (documentsOf files).filterMap fun (name, content) =>
    (content.bind Json.ofText?).map fun doc => (name, doc)

/-- Takes over documents, one after the other. -/
def loadDocuments (docs : List (String × Json)) (s : Story) : Story :=
  docs.foldl (fun s (name, doc) => s.loadDocument name doc) s

/-- Takes over a directory, and gives the number of its documents. -/
def loadDirectory (dir : String) (listing : Listing) (s : Story) : Except Failure (Nat × Story) :=
  match listing with
  | .error failure => .error failure
  | .ok files =>
    let docs := readable files
    .ok (docs.length, { s.loadDocuments docs with source := some dir })

/-- The story of a directory. -/
def ofDirectory (settings : Settings) (dir : String) (listing : Listing) :
    Except Failure (Nat × Story) :=
  (new settings).loadDirectory dir listing

/-- A story without what its documents brought. -/
def reset (s : Story) : Story :=
  { s with settings := s.base, tables := {}, catalog := {} }

/-- Forgets the documents and reads the directory again, if there is one. If it cannot be listed,
    the documents stay forgotten. -/
def reload (disk : String → Listing) (s : Story) : Except Failure Nat × Story :=
  match s.source with
  | none => (.ok 0, s.reset)
  | some dir =>
    match s.reset.loadDirectory dir (disk dir) with
    | .error failure => (.error failure, s.reset)
    | .ok (loaded, s) => (.ok loaded, s)

end Story

end Dramaturg
