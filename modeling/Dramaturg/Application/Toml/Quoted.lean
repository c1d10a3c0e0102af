import Dramaturg.Json.Reader

set_option autoImplicit false

/-! # Strings and line ends of a configuration file

A string stands in one or in three quotes of either kind. In three quotes it may go over several
lines: a line end right after the opening quotes does not count, and a backslash at the end of a
line folds the blanks and line ends that follow. Escapes have a meaning in double quotes only. -/

namespace Dramaturg.Toml

/-! ## Blanks, comments and line ends -/

/-- The text without the spaces and tabs in front. -/
def skipSpaces : List Char → List Char
  | c :: cs => if c = ' ' ∨ c = '\t' then skipSpaces cs else c :: cs
  | [] => []

/-- Whether a character may stand in a comment or between literal quotes. -/
def isPlain (c : Char) : Bool :=
  c = '\t' || (0x20 ≤ c.toNat && c.toNat ≠ 0x7F)

/-- The text after a comment, if there is one in front. -/
def skipComment : List Char → List Char
  | '#' :: cs => cs.dropWhile isPlain
  | cs => cs

/-- What follows the end of a line: spaces, a comment, and a line feed or the end of the text. -/
def lineEnd? (text : List Char) : Option (List Char) :=
  match skipComment (skipSpaces text) with
  | [] => some []
  | '\n' :: rest => some rest
  | '\r' :: '\n' :: rest => some rest
  | _ => none

/-- The text without the line end in front, if there is one. -/
def skipLineEnd : List Char → List Char
  | '\n' :: rest => rest
  | '\r' :: '\n' :: rest => rest
  | text => text

/-- Whether only spaces stand before the end of the line. -/
def atLineEnd (text : List Char) : Bool :=
  match skipSpaces text with
  | '\n' :: _ => true
  | '\r' :: '\n' :: _ => true
  | _ => false

/-! ## Strings -/

/-- The value of a text of hexadecimal digits. -/
def hexValue? (digits : List Char) : Option Nat :=
  digits.foldlM (fun n c => (Json.hexDigit? c).map (n * 16 + ·)) 0

/-- The character of a code, if the code is that of a character. -/
def charOfCode? (code : Nat) : Option Char :=
  if h : code.isValidChar then some (Char.ofNatAux code h) else none

/-- The character that a one-letter escape stands for. -/
def escape? (c : Char) : Option Char :=
  if c = '/' then none else Json.simpleEscape? c

/-- A string in three quotes, after the closing ones. Up to two more quotes belong to it. `done`
    holds what was read, in reverse. -/
def closeBlock (quote : Char) (done : List Char) (rest : List Char) : String × List Char :=
  let more := (rest.take 2).takeWhile (· = quote)
  (String.ofList (more ++ done).reverse, rest.drop more.length)

/-- The rest of a string in double quotes, or in three of them if `block` holds. Blanks and line
    ends are passed over while `folding` holds; `done` holds what was read, in reverse. -/
def readBasic (block folding : Bool) (done : List Char) : List Char → Option (String × List Char)
  | [] => none
  | '"' :: rest =>
    if block then
      match rest with
      | '"' :: '"' :: rest => some (closeBlock '"' done rest)
      | rest => readBasic block false ('"' :: done) rest
    else some (String.ofList done.reverse, rest)
  | '\\' :: 'u' :: a :: b :: c :: d :: rest =>
    match (hexValue? [a, b, c, d]).bind charOfCode? with
    | some x => readBasic block false (x :: done) rest
    | none => none
  | '\\' :: 'U' :: a :: b :: c :: d :: e :: f :: g :: h :: rest =>
    match (hexValue? [a, b, c, d, e, f, g, h]).bind charOfCode? with
    | some x => readBasic block false (x :: done) rest
    | none => none
  | '\\' :: c :: rest =>
    match escape? c with
    | some x => readBasic block false (x :: done) rest
    | none =>
      if block && atLineEnd (c :: rest) then readBasic block true done (c :: rest) else none
  | '\r' :: '\n' :: rest =>
    if block then readBasic block folding (if folding then done else '\n' :: done) rest else none
  | c :: rest =>
    if block && c = '\n' then
      readBasic block folding (if folding then done else '\n' :: done) rest
    else if folding && (c = ' ' || c = '\t') then readBasic block folding done rest
    else if isPlain c then readBasic block false (c :: done) rest
    else none

/-- The rest of a string in single quotes, which has no escapes. -/
def readLiteral (text : List Char) : Option (String × List Char) :=
  match text.dropWhile fun c => isPlain c && c ≠ '\x27' with
  | '\x27' :: rest => some (String.ofList (text.takeWhile fun c => isPlain c && c ≠ '\x27'), rest)
  | _ => none

/-- The rest of a string in three single quotes. -/
def readLiteralBlock (done : List Char) : List Char → Option (String × List Char)
  | [] => none
  | '\x27' :: '\x27' :: '\x27' :: rest => some (closeBlock '\x27' done rest)
  | '\r' :: '\n' :: rest => readLiteralBlock ('\n' :: done) rest
  | c :: rest => if c = '\n' || isPlain c then readLiteralBlock (c :: done) rest else none

/-- A string in front that stays on its line, and what follows it. -/
def readLineString? : List Char → Option (String × List Char)
  | '"' :: rest => readBasic false false [] rest
  | '\x27' :: rest => readLiteral rest
  | _ => none

/-- A string in front, and what follows it. -/
def readString? : List Char → Option (String × List Char)
  | '"' :: '"' :: '"' :: rest => readBasic true false [] (skipLineEnd rest)
  | '\x27' :: '\x27' :: '\x27' :: rest => readLiteralBlock [] (skipLineEnd rest)
  | text => readLineString? text

end Dramaturg.Toml
