import Dramaturg.Console.Disk

set_option autoImplicit false

/-! # A disk in memory

A disk is a list of places and of what stands there. A path is followed name by name, as a system
follows it: each name is looked up where the one before it led, so that `a/..` leads nowhere if
there is no directory `a`. Names and paths have a greatest length. -/

namespace Dramaturg

/-- What stands at a place. -/
inductive DiskNode where
  | directory
  /-- A file. Its content is `none` if it is no text. -/
  | file (content : Option String)
deriving DecidableEq

/-- A place on a disk: the names that lead to it from the root. -/
abbrev Place : Type := List String

/-- A disk, and the place that paths start from unless they start at the root. -/
structure MemoryDisk where
  working : Place := ["tmp", "work"]
  nodes : List (Place × DiskNode) := [(["tmp"], .directory), (["tmp", "work"], .directory)]

/-! ## Paths -/

/-- The longest name that a system takes, in bytes. -/
def maxNameSize : Nat := 255

/-- The longest path that a system takes, in bytes. -/
def maxPathSize : Nat := 4095

/-- The parts of a path that a system takes. -/
def pathParts? (path : String) : Except DiskFault (List String) :=
  if path.toList.contains '\x00' then .error .nulInPath
  else if path.isEmpty then .error .notFound
  else if maxPathSize < path.utf8ByteSize then .error .nameTooLong
  else .ok (pathParts path)

namespace MemoryDisk

/-- What stands at a place. The root is always there. -/
def node? (d : MemoryDisk) (place : Place) : Option DiskNode :=
  if place.isEmpty then some .directory else d.nodes.lookup place

/-- Puts something at a place, instead of what stood there. -/
def put (d : MemoryDisk) (place : Place) (node : DiskNode) : MemoryDisk :=
  { d with nodes := d.nodes.filter (fun n => n.1 != place) ++ [(place, node)] }

/-- Refuses a place that is no directory. -/
def enter (d : MemoryDisk) (place : Place) : Except DiskFault Unit :=
  match d.node? place with
  | some .directory => .ok ()
  | some (.file _) => .error .notADirectory
  | none => .error .notFound

/-- Follows one part of a path. Two points lead out of a directory, but not out of the root. -/
def follow (d : MemoryDisk) (place : Place) (part : String) : Except DiskFault Place :=
  match d.enter place with
  | .error fault => .error fault
  | .ok () =>
    if isIdle part then .ok place
    else if part == ".." then .ok place.dropLast
    else if maxNameSize < part.utf8ByteSize then .error .nameTooLong
    else .ok (place ++ [part])

/-- The place that the parts of a path lead to. There need not be anything. -/
def placeOf (d : MemoryDisk) (parts : List String) : Except DiskFault Place :=
  parts.foldlM d.follow (if parts.head? == some "" then [] else d.working)

/-- The place of a path and what stands there. -/
def find (d : MemoryDisk) (path : String) : Except DiskFault (Place × DiskNode) := do
  let place ← d.placeOf (← pathParts? path)
  match d.node? place with
  | some node => .ok (place, node)
  | none => .error .notFound

/-- The names of what lies in a directory. -/
def namesIn (d : MemoryDisk) (place : Place) : List String :=
  d.nodes.filterMap fun (inner, _) => if inner.dropLast == place then inner.getLast? else none

/-- The files below the working directory, by their paths from there. -/
def files (d : MemoryDisk) : List (String × Option String) :=
  d.nodes.filterMap fun (place, node) =>
    match node with
    | .file content =>
      if d.working.isPrefixOf place then
        some ("/".intercalate (place.drop d.working.length), content)
      else none
    | .directory => none

/-! ## Changes -/

/-- Makes a directory in one that is there. -/
def makeDirectory (d : MemoryDisk) (path : String) : Except DiskFault MemoryDisk := do
  match (← pathParts? path).reverse.dropWhile String.isEmpty with
  | [] => .error .alreadyExists
  | part :: outer =>
    let place ← d.placeOf outer.reverse
    d.enter place
    if part == "." || part == ".." then .error .alreadyExists
    else
      let place ← d.follow place part
      if (d.node? place).isSome then .error .alreadyExists else .ok (d.put place .directory)

/-- Writes a file into a directory that is there. -/
def write (d : MemoryDisk) (path : String) (content : Option String) :
    Except DiskFault MemoryDisk := do
  let parts ← pathParts? path
  let place ← d.placeOf parts.dropLast
  d.enter place
  let name := parts.getLastD ""
  if isIdle name || name == ".." then .error .isADirectory
  else
    let place ← d.follow place name
    if d.node? place == some .directory then .error .isADirectory
    else .ok (d.put place (.file content))

/-- Takes away what stands at a path and below. -/
def remove (d : MemoryDisk) (path : String) : MemoryDisk :=
  match d.find path with
  | .ok (place, _) => { d with nodes := d.nodes.filter fun n => !place.isPrefixOf n.1 }
  | .error _ => d

/-- Does a change that may be refused. -/
def change (work : MemoryDisk → Except DiskFault MemoryDisk) :
    StateM MemoryDisk (Except DiskFault Unit) := do
  match work (← get) with
  | .ok d =>
    set d
    return .ok ()
  | .error fault => return .error fault

instance : MonadDisk (StateM MemoryDisk) where
  hasPath path := return (((← get).find path).toOption).isSome
  isDirectory path := do
    match (← get).find path with
    | .ok (_, .directory) => return true
    | _ => return false
  readText path := do
    match (← get).find path with
    | .ok (_, .file (some content)) => return .ok content
    | .ok (_, .file none) => return .error .notText
    | .ok (_, .directory) => return .error .isADirectory
    | .error fault => return .error fault
  listNames path := do
    let d ← get
    match d.find path with
    | .ok (place, .directory) => return .ok (d.namesIn place)
    | .ok (_, .file _) => return .error .notADirectory
    | .error fault => return .error fault
  makeDirectory path := change (·.makeDirectory path)
  writeText path content := change (·.write path (some content))

/-- Adds a directory and those that it lies in. -/
def addDirectory (d : MemoryDisk) (path : String) : MemoryDisk :=
  ((makeDirectories path : StateM MemoryDisk _).run d).2

/-- Adds a file and the directories that it lies in. -/
def addFile (d : MemoryDisk) (path : String) (content : Option String) : MemoryDisk :=
  let work : StateM MemoryDisk Unit := do
    let _ ← makeNested (pathsAround path)
    let _ ← change (·.write path content)
  (work.run d).2

end MemoryDisk

end Dramaturg
