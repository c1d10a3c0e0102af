import Dramaturg.Number.Power
import Dramaturg.Text.Search

set_option autoImplicit false

/-! # Command lines

A command line names a command and gives its options, each at most once. A long option stands behind
two hyphens and takes its value from the next word or from behind an equals sign; short options
stand behind one hyphen, several together if only the last of them takes a value. A word that begins
with a hyphen is never taken for a value, unless it is a hyphen alone. -/

namespace Dramaturg.Console

/-- What the console is told to do. -/
inductive Invocation where
  | onboard
  | check (dir : Option String)
  | prompt (say : String) (transcript dir : Option String)
  | turn (say : String) (transcript dir : Option String) (scene : String) (model : Option String)
    (seed : Option UInt64)
deriving DecidableEq

/-- What an option takes for a value. -/
inductive OptionKind where
  | flag
  | text
  /-- A path, which must not be empty. -/
  | path
  /-- A number of 64 bits. -/
  | number
deriving DecidableEq

/-- An option of a command. -/
structure OptionSpec where
  long : String
  short : Option Char
  kind : OptionKind

/-- Asks for more to be told; every command has it. -/
def verbose : OptionSpec := ⟨"verbose", some 'v', .flag⟩

/-- The options of a command, or nothing for a word that names none. -/
def optionsOf? (command : String) : Option (List OptionSpec) :=
  let say : OptionSpec := ⟨"say", some 's', .text⟩
  let transcript : OptionSpec := ⟨"transcript", some 't', .path⟩
  let dir : OptionSpec := ⟨"dir", some 'd', .path⟩
  match command with
  | "onboard" => some [verbose]
  | "check" => some [verbose, dir]
  | "prompt" => some [verbose, say, transcript, dir]
  | "turn" =>
    some [verbose, say, transcript, dir, ⟨"scene", none, .text⟩, ⟨"model", some 'm', .text⟩,
      ⟨"seed", none, .number⟩]
  | _ => none

/-- A number of 64 bits in decimal, with a plus sign at most. -/
def number? (text : String) : Option UInt64 :=
  let digits := (Text.after? ['+'] text.toList).getD text.toList
  if digits.isEmpty || !digits.all Char.isDigit then none
  else
    let n := digits.foldl (fun n c => n * 10 + (c.toNat - '0'.toNat)) 0
    if n < Number.twoTo 64 then some (UInt64.ofNat n) else none

/-- Whether a value suits an option. -/
def suits : OptionKind → String → Bool
  | .flag, _ => false
  | .text, _ => true
  | .path, value => !value.isEmpty
  | .number, value => (number? value).isSome

/-- Whether a word is taken for options, and not for a value. -/
def isOptionWord (word : String) : Bool :=
  match word.toList with
  | '-' :: _ :: _ => true
  | _ => false

/-- What has been given so far: options by their long names, flags with an empty value. -/
abbrev Given : Type := List (String × String)

/-- Notes an option, unless it was given before. -/
def note? (given : Given) (spec : OptionSpec) (value : String) : Option Given :=
  if (given.lookup spec.long).isSome then none else some (given ++ [(spec.long, value)])

/-- Notes an option with a value, which has to suit it. -/
def noteValue? (given : Given) (spec : OptionSpec) (value : String) : Option Given :=
  if suits spec.kind value then note? given spec value else none

/-- A word of short options, and the option in it that waits for the next word, if there is one. -/
def shortOptions? (specs : List OptionSpec) : List Char → Given → Option (Given × Option OptionSpec)
  | [], given => some (given, none)
  | c :: cs, given =>
    match specs.find? (·.short == some c) with
    | none => none
    | some spec =>
      match spec.kind, cs with
      | .flag, cs => (note? given spec "").bind (shortOptions? specs cs)
      | _, [] => some (given, some spec)
      | _, '=' :: value => (noteValue? given spec (String.ofList value)).map fun g => (g, none)
      | _, value => (noteValue? given spec (String.ofList value)).map fun g => (g, none)

/-- A word of one long option, and that option if it waits for the next word. -/
def longOption? (specs : List OptionSpec) (word : List Char) (given : Given) :
    Option (Given × Option OptionSpec) :=
  let name := String.ofList (word.takeWhile (· ≠ '='))
  match specs.find? (·.long == name), word.dropWhile (· ≠ '=') with
  | none, _ => none
  | some spec, [] =>
    if spec.kind = .flag then (note? given spec "").map fun g => (g, none)
    else some (given, some spec)
  | some spec, _ :: value => (noteValue? given spec (String.ofList value)).map fun g => (g, none)

/-- The options in a list of words; `waiting` is the option that the next word is the value of. -/
def readOptions? (specs : List OptionSpec) :
    Option OptionSpec → List String → Given → Option Given
  | none, [], given => some given
  | some _, [], _ => none
  | some spec, word :: words, given =>
    if isOptionWord word then none
    else (noteValue? given spec word).bind (readOptions? specs none words)
  | none, word :: words, given =>
    match word.toList with
    | ['-', '-'] => if words.isEmpty then some given else none
    | '-' :: '-' :: long =>
      match longOption? specs long given with
      | some (given, waiting) => readOptions? specs waiting words given
      | none => none
    | '-' :: c :: cs =>
      match shortOptions? specs (c :: cs) given with
      | some (given, waiting) => readOptions? specs waiting words given
      | none => none
    | _ => none

/-- What a command is told by its options. -/
def invocation? (command : String) (given : Given) : Option Invocation :=
  match command with
  | "onboard" => some .onboard
  | "check" => some (.check (given.lookup "dir"))
  | "prompt" =>
    (given.lookup "say").map fun say =>
      .prompt say (given.lookup "transcript") (given.lookup "dir")
  | "turn" =>
    (given.lookup "say").map fun say =>
      .turn say (given.lookup "transcript") (given.lookup "dir") ((given.lookup "scene").getD "")
        (given.lookup "model") ((given.lookup "seed").bind number?)
  | _ => none

/-- Reads a command line. -/
def ofWords? : List String → Option Invocation
  | [] => none
  | word :: words =>
    if word = "--" then none
    else if isOptionWord word then
      match readOptions? [verbose] none [word] [] with
      | none => none
      | some _ =>
        match words with
        | command :: words =>
          ((optionsOf? command).bind fun specs => readOptions? specs none words []).bind
            (invocation? command)
        | [] => none
    else
      ((optionsOf? word).bind fun specs => readOptions? specs none words []).bind
        (invocation? word)

end Dramaturg.Console
