import Dramaturg.Application.Toml.Bare
import Dramaturg.Application.Toml.Quoted

set_option autoImplicit false

/-! # Reading a configuration file

A configuration file is a list of `key = value` lines, which may be gathered into sections. A file
with anything else in it, or with a key that is taken, is refused as a whole. -/

namespace Dramaturg.Toml

/-! ## Keys -/

/-- Whether a character may stand in a key without quotes. -/
def isKeyChar (c : Char) : Bool :=
  c.isAlphanum || c = '_' || c = '-'

/-- One key in front, and what follows it and the spaces behind it. -/
def readKey? (text : List Char) : Option (String × List Char) :=
  match readLineString? text with
  | some (key, rest) => some (key, skipSpaces rest)
  | none =>
    match text.takeWhile isKeyChar with
    | [] => none
    | key => some (String.ofList key, skipSpaces (text.dropWhile isKeyChar))

/-- At most `n` keys with points between them, and what follows. -/
def readKeysUpTo? : Nat → List Char → Option (List String × List Char)
  | 0, _ => none
  | n + 1, text =>
    match readKey? (skipSpaces text) with
    | none => none
    | some (key, '.' :: rest) => (readKeysUpTo? n rest).map fun (keys, rest) => (key :: keys, rest)
    | some (key, rest) => some ([key], rest)

/-- How deep tables may lie in each other by one key, and lists in one value. -/
def maxDepth : Nat := 79

/-- A key with points in front, and what follows. -/
def readKeys? (text : List Char) : Option (List String × List Char) :=
  readKeysUpTo? maxDepth text

/-! ## Values -/

/-- The text without the blanks, comments and line ends that may stand inside a list. A comment is
    passed over while `remark` holds. -/
def skipFiller (remark : Bool) : List Char → List Char
  | [] => []
  | '\r' :: '\n' :: rest => skipFiller false rest
  | c :: rest =>
    if c = '\n' then skipFiller false rest
    else if remark && isPlain c then skipFiller true rest
    else if c = ' ' || c = '\t' then skipFiller false rest
    else if c = '#' then skipFiller true rest
    else c :: rest

mutual

/-- A value in front, and what follows it. `fuel` bounds the number of values, and `depth` how deep
    lists and tables may still be nested. -/
def readValue? : Nat → Nat → List Char → Option (Value × List Char)
  | 0, _, _ => none
  | fuel + 1, depth, text =>
    match text with
    | '[' :: rest =>
      if depth = 0 then none
      else (readItems? fuel (depth - 1) rest).map fun rest => (.list, rest)
    | '{' :: rest =>
      if depth = 0 then none
      else
        match skipSpaces rest with
        | '}' :: rest => some (.record, rest)
        | rest => (readMembers? fuel (depth - 1) rest []).map fun rest => (.record, rest)
    | text =>
      match readString? text with
      | some (s, rest) => some (.string s, rest)
      | none =>
        let (word, rest) := bareWord text
        (bareValue? word).map fun v => (v, rest)

/-- What follows the items of a list and its closing bracket. -/
def readItems? : Nat → Nat → List Char → Option (List Char)
  | 0, _, _ => none
  | fuel + 1, depth, text =>
    match skipFiller false text with
    | ']' :: rest => some rest
    | text =>
      match readValue? fuel depth text with
      | none => none
      | some (_, rest) =>
        match skipFiller false rest with
        | ',' :: rest => readItems? fuel depth rest
        | ']' :: rest => some rest
        | _ => none

/-- What follows the members of a table within a line and its closing brace. A comma is followed by
    another member. -/
def readMembers? : Nat → Nat → List Char → Members → Option (List Char)
  | 0, _, _, _ => none
  | fuel + 1, depth, text, members =>
    match readKeys? text with
    | some (keys, '=' :: rest) =>
      match readValue? fuel depth (skipSpaces rest) with
      | none => none
      | some (value, rest) =>
        match members.addValue? keys value .heading with
        | none => none
        | some members =>
          match skipSpaces rest with
          | ',' :: rest => readMembers? fuel depth rest members
          | '}' :: rest => some rest
          | _ => none
    | _ => none

end

/-! ## Files -/

/-- What has been read of a file. -/
structure FileSoFar where
  /-- The heading of the section that values now belong to. -/
  current : List String := []
  members : Members := []

/-- Adds a value to the section at hand. -/
def FileSoFar.addValue? (f : FileSoFar) (keys : List String) (value : Value) : Option FileSoFar :=
  (Members.alter? .implied (Members.addValue? keys value) f.current .heading f.members).map
    fun members => { f with members }

/-- Reads line after line. `fuel` bounds the number of lines and that of the values in a line; a
    character takes two of it at most. -/
def readLines? : Nat → List Char → FileSoFar → Option FileSoFar
  | 0, _, f => some f
  | fuel + 1, text, f =>
    match skipSpaces text with
    | [] => some f
    | '[' :: '[' :: rest =>
      match readKeys? rest with
      | some (keys, ']' :: ']' :: rest) => do
        readLines? fuel (← lineEnd? rest) ⟨keys, ← f.members.addRepeated? keys⟩
      | _ => none
    | '[' :: rest =>
      match readKeys? rest with
      | some (keys, ']' :: rest) => do
        readLines? fuel (← lineEnd? rest) ⟨keys, ← f.members.addSection? keys⟩
      | _ => none
    | text =>
      match lineEnd? text with
      | some rest => readLines? fuel rest f
      | none =>
        match readKeys? text with
        | some (keys, '=' :: rest) =>
          match readValue? fuel maxDepth (skipSpaces rest) with
          | some (value, rest) => do readLines? fuel (← lineEnd? rest) (← f.addValue? keys value)
          | none => none
        | _ => none

/-- Reads a configuration file. -/
def ofText? (text : String) : Option Members :=
  let text := text.toList
  let text := (Text.after? ['\uFEFF'] text).getD text
  (readLines? (2 * text.length + 1) text {}).map (·.members)

end Dramaturg.Toml
