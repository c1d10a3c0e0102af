import Dramaturg.Json.Basic
import Dramaturg.Number.Layout

set_option autoImplicit false

/-! # Writing JSON

A value is written on one line without blanks, or over several lines with two blanks for each level.
Only the quote, the backslash and control characters are escaped. A double is written with its
shortest digits and always shows that it is one; a double that is not finite becomes null. -/

namespace Dramaturg.Json

/-- A hexadecimal digit in lower case. -/
def hexChar (n : Nat) : Char :=
  if n < 10 then Char.ofNat ('0'.toNat + n) else Char.ofNat ('a'.toNat + (n - 10))

/-- A character as it stands inside a written string. -/
def escapeChar (c : Char) : List Char :=
  if c = '"' then ['\\', '"']
  else if c = '\\' then ['\\', '\\']
  else if c = '\n' then ['\\', 'n']
  else if c = '\r' then ['\\', 'r']
  else if c = '\t' then ['\\', 't']
  else if c = '\x08' then ['\\', 'b']
  else if c = '\x0c' then ['\\', 'f']
  else if c.toNat < 0x20 then ['\\', 'u', '0', '0', hexChar (c.toNat / 16), hexChar (c.toNat % 16)]
  else [c]

/-- A string with its quotes. -/
def quoted (s : String) : String :=
  "\"" ++ String.ofList (s.toList.flatMap escapeChar) ++ "\""

/-- A number. -/
def Number.text : Number → String
  | .integer n => Number.intText n
  | .real x => Number.documentText x

mutual

/-- A value on one line. -/
def compact : Json → String
  | .null => "null"
  | .bool true => "true"
  | .bool false => "false"
  | .number n => n.text
  | .string s => quoted s
  | .array items => "[" ++ compactItems items ++ "]"
  | .object members => "\x7b" ++ compactMembers members ++ "\x7d"

/-- Items separated by commas. -/
def compactItems : List Json → String
  | [] => ""
  | [j] => compact j
  | j :: k :: rest => compact j ++ "," ++ compactItems (k :: rest)

/-- Members separated by commas. -/
def compactMembers : List (String × Json) → String
  | [] => ""
  | [(key, j)] => quoted key ++ ":" ++ compact j
  | (key, j) :: m :: rest => quoted key ++ ":" ++ compact j ++ "," ++ compactMembers (m :: rest)

end

/-- The blanks in front of a line at a level. -/
def indent (level : Nat) : String :=
  String.ofList (List.replicate (2 * level) ' ')

mutual

/-- A value over several lines, the first of which is already indented. -/
def pretty (level : Nat) : Json → String
  | .array [] => "[]"
  | .object [] => "\x7b\x7d"
  | .array (j :: rest) => "[\n" ++ prettyItems (level + 1) (j :: rest) ++ indent level ++ "]"
  | .object (m :: rest) =>
    "\x7b\n" ++ prettyMembers (level + 1) (m :: rest) ++ indent level ++ "\x7d"
  | .null => "null"
  | .bool true => "true"
  | .bool false => "false"
  | .number n => n.text
  | .string s => quoted s

/-- Items, one to a line. -/
def prettyItems (level : Nat) : List Json → String
  | [] => ""
  | [j] => indent level ++ pretty level j ++ "\n"
  | j :: k :: rest => indent level ++ pretty level j ++ ",\n" ++ prettyItems level (k :: rest)

/-- Members, one to a line. -/
def prettyMembers (level : Nat) : List (String × Json) → String
  | [] => ""
  | [(key, j)] => indent level ++ quoted key ++ ": " ++ pretty level j ++ "\n"
  | (key, j) :: m :: rest =>
    indent level ++ quoted key ++ ": " ++ pretty level j ++ ",\n" ++ prettyMembers level (m :: rest)

end

end Dramaturg.Json
