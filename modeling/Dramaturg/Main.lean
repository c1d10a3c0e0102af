import Dramaturg.Console.Commands
import Dramaturg.Console.Identifiers

set_option autoImplicit false

/-! # The program

The disk of the machine, the environment and the command line, joined to the commands of the
console. No way to a model is built in: a turn ends as it does where the network is down. -/

namespace Dramaturg

/-- What an error of the machine means for a disk. -/
def DiskFault.ofError : IO.Error → DiskFault
  | .noFileOrDirectory _ _ _ => .notFound
  | .noSuchThing _ _ _ => .notFound
  | .alreadyExists _ _ _ => .alreadyExists
  | .inappropriateType _ _ _ => .notADirectory
  | .invalidArgument _ code details =>
    if code == 36 then .nameTooLong else .other details
  | error => .other (toString error)

/-- Does something at a path on the disk of the machine. -/
def attempt {α : Type} (path : String) (work : IO α) : IO (Except DiskFault α) := do
  if path.toList.contains '\x00' then return .error .nulInPath
  match ← work.toBaseIO with
  | .ok result => return .ok result
  | .error error => return .error (.ofError error)

instance : MonadDisk IO where
  hasPath path := do
    let here ← IO.currentDir
    (here / path).pathExists
  isDirectory path := do
    let here ← IO.currentDir
    (here / path).isDir
  readText path := do
    let here ← IO.currentDir
    if ← (here / path).isDir then return .error .isADirectory
    match ← attempt path (IO.FS.readBinFile path) with
    | .error fault => return .error fault
    | .ok bytes =>
      match String.fromUTF8? bytes with
      | some text => return .ok text
      | none => return .error .notText
  listNames path := do
    let here ← IO.currentDir
    match ← attempt path (here / path).readDir with
    | .error fault => return .error fault
    | .ok entries => return .ok (entries.toList.map (·.fileName))
  makeDirectory path := attempt path (IO.FS.createDir path)
  writeText path content := attempt path (IO.FS.writeFile path content)

/-- The variables that the commands look at. -/
def environment : IO Console.Environment := do
  let names := ["HOME", "VNCHAT_API_KEY", "OPENROUTER_API_KEY", "VNCHAT_DOCUMENTS_DIR"]
  let values ← names.mapM fun name => return (name, ← IO.getEnv name)
  return fun name => (values.lookup name).join

/-- A number of 64 bits by chance. -/
def chance : IO UInt64 := do
  let bytes ← IO.getRandomBytes 8
  return bytes.toList.foldl (fun n byte => n * 256 + byte.toUInt64) 0

/-- How many bytes of memory a program of this machine can address. -/
def addressSpace : Nat := Number.twoTo 47

/-- What is told about a command line that says nothing. -/
def usage : String := "Usage: vnchat onboard | check | prompt | turn"

/-- Does what a command line says, and gives the exit code: 2 for a command line that says nothing,
    that of the failure for a command that fails. Where the failure has none, the code is the one
    that shells show for a program that was ended. -/
def runWords (words : List String) : IO UInt32 := do
  match Console.ofWords? words with
  | none =>
    IO.eprintln usage
    return 2
  | some invocation =>
    let connect (_ : ProviderAccess) : Model Unit := Model.unreachable "no network"
    let ids := Console.identifiers (← chance)
    let command : Console.ConsoleT IO Unit :=
      Console.perform (← environment) addressSpace connect (← chance) ids invocation
    let report ← Console.report command
    IO.print report.told
    match report.failure with
    | none => return 0
    | some failure =>
      IO.eprintln ("Error: " ++ failure.listing)
      return UInt32.ofNat (failure.exitCode?.getD 134)

end Dramaturg

/-- The program. -/
def main (words : List String) : IO UInt32 := Dramaturg.runWords words
