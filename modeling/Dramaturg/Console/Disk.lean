import Dramaturg.Text.Listed
import Dramaturg.Text.Search

set_option autoImplicit false

/-! # Disks

The commands of the console work on any disk that has the operations of `MonadDisk`. A disk refuses
an operation for one of the reasons of `DiskFault`. -/

namespace Dramaturg

/-- Why a disk refuses an operation. -/
inductive DiskFault where
  | notFound
  | notADirectory
  | isADirectory
  | alreadyExists
  /-- A name or a whole path is longer than the system takes. -/
  | nameTooLong
  /-- A path holds the character that ends names for the system. -/
  | nulInPath
  | notText
  | other (message : String)
deriving DecidableEq

/-- What is known of a refusal. The refusals of the system itself have numbers. -/
structure DiskFault.Particulars where
  number : Option Nat
  kind : String
  wording : String

/-- The particulars of each refusal. -/
def DiskFault.particulars : DiskFault → Particulars
  | .notFound => ⟨some 2, "NotFound", "No such file or directory"⟩
  | .notADirectory => ⟨some 20, "NotADirectory", "Not a directory"⟩
  | .isADirectory => ⟨some 21, "IsADirectory", "Is a directory"⟩
  | .alreadyExists => ⟨some 17, "AlreadyExists", "File exists"⟩
  | .nameTooLong => ⟨some 36, "InvalidFilename", "File name too long"⟩
  | .nulInPath => ⟨none, "InvalidInput", "file name contained an unexpected NUL byte"⟩
  | .notText => ⟨none, "InvalidData", "stream did not contain valid UTF-8"⟩
  | .other message => ⟨none, "Other", message⟩

/-- What is told about a refused operation. -/
def DiskFault.message (f : DiskFault) : String :=
  match f.particulars with
  | ⟨some number, _, wording⟩ => wording ++ " (os error " ++ toString number ++ ")"
  | ⟨none, _, wording⟩ => wording

/-- What a diagnostic listing shows of a refused operation. -/
def DiskFault.listing (f : DiskFault) : String :=
  match f.particulars with
  | ⟨some number, kind, wording⟩ =>
    "Os \x7b code: " ++ toString number ++ ", kind: " ++ kind ++ ", message: "
      ++ Text.listed wording ++ " \x7d"
  | ⟨none, kind, wording⟩ =>
    "Error \x7b kind: " ++ kind ++ ", message: " ++ Text.listed wording ++ " \x7d"

/-- A disk with directories and files. -/
class MonadDisk (m : Type → Type) where
  /-- Whether there is a file or a directory at a path. -/
  hasPath : String → m Bool
  /-- Whether there is a directory at a path. -/
  isDirectory : String → m Bool
  /-- The content of a file, as text. -/
  readText : String → m (Except DiskFault String)
  /-- The names of what a directory holds, in any order. -/
  listNames : String → m (Except DiskFault (List String))
  /-- Makes a directory in one that is there. -/
  makeDirectory : String → m (Except DiskFault Unit)
  /-- Writes a file. -/
  writeText : String → String → m (Except DiskFault Unit)

/-! ## Paths -/

/-- A path inside a directory. A path that begins at the root stays as it is. -/
def joinPath (dir name : String) : String :=
  if dir.isEmpty || name.toList.head? == some '/' then name
  else if dir.toList.getLast? == some '/' then dir ++ name
  else dir ++ "/" ++ name

/-- What stands between the slashes of a path. A path from the root has nothing before the first. -/
def pathParts (path : String) : List String :=
  (Text.splitOn ['/'] path.toList).map String.ofList

/-- Whether a part of a path leads nowhere else. -/
def isIdle (part : String) : Bool := part.isEmpty || part == "."

/-- The beginnings of a list of parts that end with one that leads somewhere, the longest first. The
    parts are given in reverse. -/
def beginnings : List String → List (List String)
  | [] => []
  | part :: outer =>
    if isIdle part then beginnings outer else (part :: outer).reverse :: beginnings outer

/-- The paths that a path lies in, the nearest first. -/
def pathsAround (path : String) : List String :=
  ((beginnings (pathParts path).reverse).drop 1).map "/".intercalate

/-! ## Nested directories -/

section

variable {m : Type → Type} [Monad m] [MonadDisk m]

/-- Makes the first of some directories, each of which lies in the next one. If there is nothing
    that it could lie in, the others are made, and then it is tried once more. What has been made
    stays, even if it turns out to be in vain. -/
def makeNested : List String → m (Except DiskFault Unit)
  | [] => return .ok ()
  | path :: outer => do
    let made : Except DiskFault Unit ←
      match ← MonadDisk.makeDirectory path with
      | .error .notFound =>
        match ← makeNested outer with
        | .error fault => return .error fault
        | .ok () => MonadDisk.makeDirectory path
      | made => pure made
    match made with
    | .ok () => return .ok ()
    | .error fault =>
      if ← MonadDisk.isDirectory path then return .ok () else return .error fault

/-- Makes a directory and those that it lies in, unless they are there. -/
def makeDirectories (path : String) : m (Except DiskFault Unit) :=
  if path.isEmpty then return .ok () else makeNested (path :: pathsAround path)

end

end Dramaturg
