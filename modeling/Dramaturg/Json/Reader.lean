import Dramaturg.Json.Literal

set_option autoImplicit false

/-! # Reading JSON

A text is first read into `Written`, which keeps what stands there: repeated members, numbers as
literals, and strings whose escapes name half a surrogate pair. `Written.value?` then turns it into
a value: a repeated member keeps its first place and takes its last value, a number has to fit a
double, a string has to be well formed, and arrays and objects are nested at most 127 deep.

A record that is read straight from a text is stricter in one way and laxer in another: none of its
own members may be repeated, and what stands under members it does not know is not looked at, so
that keys in there need not be well formed.
`Written.fit?` reads against such a `Shape`. -/

namespace Dramaturg.Json

/-- A value as it stands in a text. A string or a key is `none` if an escape in it names an unpaired
    surrogate. -/
inductive Written where
  | null
  | bool (value : Bool)
  | number (literal : NumberLiteral)
  | string (value : Option String)
  | array (items : List Written)
  | object (members : List (Option String × Written))

/-! ## Tokens -/

/-- The text without the blanks that may stand around values. -/
def skipBlanks : List Char → List Char
  | c :: cs => if c = ' ' ∨ c = '\t' ∨ c = '\n' ∨ c = '\r' then skipBlanks cs else c :: cs
  | [] => []

/-- The value of a hexadecimal digit. -/
def hexDigit? (c : Char) : Option Nat :=
  if '0' ≤ c ∧ c ≤ '9' then some (c.toNat - '0'.toNat)
  else if 'a' ≤ c ∧ c ≤ 'f' then some (c.toNat - 'a'.toNat + 10)
  else if 'A' ≤ c ∧ c ≤ 'F' then some (c.toNat - 'A'.toNat + 10)
  else none

/-- The value of four hexadecimal digits. -/
def hexUnit? (a b c d : Char) : Option Nat := do
  let a ← hexDigit? a
  let b ← hexDigit? b
  let c ← hexDigit? c
  let d ← hexDigit? d
  return ((a * 16 + b) * 16 + c) * 16 + d

/-- The character that a one-letter escape stands for. -/
def simpleEscape? : Char → Option Char
  | '"' => some '"'
  | '\\' => some '\\'
  | '/' => some '/'
  | 'b' => some '\x08'
  | 'f' => some '\x0c'
  | 'n' => some '\n'
  | 'r' => some '\r'
  | 't' => some '\t'
  | _ => none

/-- What has been read of a string: its characters in reverse, a first half of a surrogate pair
    that waits for its second, and whether all is well formed so far. -/
structure StringSoFar where
  reversed : List Char
  high : Option Nat
  wellFormed : Bool

/-- Takes a character that is not a surrogate. -/
def StringSoFar.push (s : StringSoFar) (c : Char) : StringSoFar :=
  ⟨c :: s.reversed, none, s.wellFormed && s.high.isNone⟩

/-- Takes a unit written as four hexadecimal digits. -/
def StringSoFar.pushUnit (s : StringSoFar) (u : Nat) : StringSoFar :=
  if 0xD800 ≤ u ∧ u < 0xDC00 then ⟨s.reversed, some u, s.wellFormed && s.high.isNone⟩
  else if 0xDC00 ≤ u ∧ u < 0xE000 then
    match s.high with
    | some h =>
      ⟨Char.ofNat (0x10000 + (h - 0xD800) * 0x400 + (u - 0xDC00)) :: s.reversed, none, s.wellFormed⟩
    | none => ⟨s.reversed, none, false⟩
  else s.push (Char.ofNat u)

/-- The string, if it is well formed. -/
def StringSoFar.finish (s : StringSoFar) : Option String :=
  if s.wellFormed && s.high.isNone then some (String.ofList s.reversed.reverse) else none

/-- The rest of a string after its opening quote, and the text after its closing one. Control
    characters have to be escaped. -/
def readString (s : StringSoFar) : List Char → Option (Option String × List Char)
  | [] => none
  | '"' :: rest => some (s.finish, rest)
  | '\\' :: 'u' :: a :: b :: c :: d :: rest =>
    match hexUnit? a b c d with
    | some u => readString (s.pushUnit u) rest
    | none => none
  | '\\' :: e :: rest =>
    match simpleEscape? e with
    | some c => readString (s.push c) rest
    | none => none
  | c :: rest => if c.toNat < 0x20 then none else readString (s.push c) rest

/-- The decimal digits at the front of a text, and what follows them. -/
def readDigits (text : List Char) : List Nat × List Char :=
  ((text.takeWhile Char.isDigit).map fun c => c.toNat - '0'.toNat, text.dropWhile Char.isDigit)

/-- The whole part of a number: one zero, or digits that do not begin with one. -/
def readWhole? : List Char → Option (List Nat × List Char)
  | '0' :: rest => some ([0], rest)
  | text =>
    match readDigits text with
    | ([], _) => none
    | read => some read

/-- The fraction of a number, if there is one. -/
def readFraction? : List Char → Option (Option (List Nat) × List Char)
  | '.' :: rest =>
    match readDigits rest with
    | ([], _) => none
    | (digits, rest) => some (some digits, rest)
  | text => some (none, text)

/-- Digits that have to be there, as an exponent with its sign. -/
def readExponentDigits? (falling : Bool) (text : List Char) :
    Option (Option (Bool × List Nat) × List Char) :=
  match readDigits text with
  | ([], _) => none
  | (digits, rest) => some (some (falling, digits), rest)

/-- The exponent of a number, if there is one. -/
def readExponent? : List Char → Option (Option (Bool × List Nat) × List Char)
  | c :: rest =>
    if c = 'e' ∨ c = 'E' then
      match rest with
      | '-' :: rest => readExponentDigits? true rest
      | '+' :: rest => readExponentDigits? false rest
      | rest => readExponentDigits? false rest
    else some (none, c :: rest)
  | [] => some (none, [])

/-- A number literal at the front of a text. -/
def readNumber? (text : List Char) : Option (NumberLiteral × List Char) := do
  let (negative, text) :=
    match text with
    | '-' :: rest => (true, rest)
    | text => (false, text)
  let (whole, text) ← readWhole? text
  let (fraction, text) ← readFraction? text
  let (exponent, text) ← readExponent? text
  return (⟨negative, whole, fraction, exponent⟩, text)

/-! ## Values -/

mutual

/-- A value at the front of a text, and what follows it. `fuel` bounds the number of values read;
    each takes a character at least. -/
def readValue? : Nat → List Char → Option (Written × List Char)
  | 0, _ => none
  | fuel + 1, text =>
    match skipBlanks text with
    | 'n' :: 'u' :: 'l' :: 'l' :: rest => some (.null, rest)
    | 't' :: 'r' :: 'u' :: 'e' :: rest => some (.bool true, rest)
    | 'f' :: 'a' :: 'l' :: 's' :: 'e' :: rest => some (.bool false, rest)
    | '"' :: rest =>
      match readString ⟨[], none, true⟩ rest with
      | some (s, rest) => some (.string s, rest)
      | none => none
    | '[' :: rest =>
      match skipBlanks rest with
      | ']' :: rest => some (.array [], rest)
      | rest =>
        match readItems? fuel rest [] with
        | some (items, rest) => some (.array items, rest)
        | none => none
    | '{' :: rest =>
      match skipBlanks rest with
      | '}' :: rest => some (.object [], rest)
      | rest =>
        match readMembers? fuel rest [] with
        | some (members, rest) => some (.object members, rest)
        | none => none
    | text =>
      match readNumber? text with
      | some (literal, rest) => some (.number literal, rest)
      | none => none

/-- The items of an array up to its end; `done` holds those read, in reverse. -/
def readItems? : Nat → List Char → List Written → Option (List Written × List Char)
  | 0, _, _ => none
  | fuel + 1, text, done =>
    match readValue? fuel text with
    | none => none
    | some (item, rest) =>
      match skipBlanks rest with
      | ',' :: rest => readItems? fuel rest (item :: done)
      | ']' :: rest => some ((item :: done).reverse, rest)
      | _ => none

/-- The members of an object up to its end; `done` holds those read, in reverse. -/
def readMembers? : Nat → List Char → List (Option String × Written) →
    Option (List (Option String × Written) × List Char)
  | 0, _, _ => none
  | fuel + 1, text, done =>
    match skipBlanks text with
    | '"' :: rest =>
      match readString ⟨[], none, true⟩ rest with
      | some (key, rest) =>
        match skipBlanks rest with
        | ':' :: rest =>
          match readValue? fuel rest with
          | none => none
          | some (value, rest) =>
            match skipBlanks rest with
            | ',' :: rest => readMembers? fuel rest ((key, value) :: done)
            | '}' :: rest => some (((key, value) :: done).reverse, rest)
            | _ => none
        | _ => none
      | _ => none
    | _ => none

end

/-- Reads a text that holds one value and nothing else but blanks. -/
def Written.ofText? (text : List Char) : Option Written :=
  match readValue? (2 * text.length + 1) text with
  | some (written, rest) => if (skipBlanks rest).isEmpty then some written else none
  | none => none

/-! ## From what is written to values -/

/-- Puts a member into an object: a new key goes to the end, a present one takes the new value. -/
def putMember (key : String) (value : Json) : List (String × Json) → List (String × Json)
  | [] => [(key, value)]
  | (k, v) :: rest => if k = key then (k, value) :: rest else (k, v) :: putMember key value rest

/-- How deep arrays and objects may be nested. -/
def maxDepth : Nat := 127

mutual

/-- The value of what is written, if arrays and objects are nested at most `depth` deep. -/
def Written.valueWithin? (depth : Nat) : Written → Option Json
  | .null => some .null
  | .bool b => some (.bool b)
  | .number literal => literal.value?.map .number
  | .string s => s.map .string
  | .array items =>
    if depth = 0 then none else (valuesWithin? (depth - 1) items).map .array
  | .object members =>
    if depth = 0 then none else (membersWithin? (depth - 1) members []).map .object

/-- The values of the items of an array. -/
def valuesWithin? (depth : Nat) : List Written → Option (List Json)
  | [] => some []
  | w :: ws =>
    match w.valueWithin? depth with
    | none => none
    | some v => (valuesWithin? depth ws).map (v :: ·)

/-- The members of an object, put into `done` one after the other. -/
def membersWithin? (depth : Nat) : List (Option String × Written) → List (String × Json) →
    Option (List (String × Json))
  | [], done => some done
  | (none, _) :: _, _ => none
  | (some key, w) :: ws, done =>
    match w.valueWithin? depth with
    | none => none
    | some v => membersWithin? depth ws (putMember key v done)

end

/-- Reads a document. -/
def ofText? (text : String) : Option Json :=
  (Written.ofText? text.toList).bind (·.valueWithin? maxDepth)

/-! ## Reading against a shape -/

/-- What a record that is read from a text looks like. -/
inductive Shape where
  /-- Any value. -/
  | any
  /-- A name, or an object with exactly one member. -/
  | choice
  /-- A list of one shape. -/
  | list (item : Shape)
  /-- A record with these members. -/
  | record (members : List (String × Shape))

/-- Whether a key stands in a list of written members. -/
def isWrittenIn (key : String) (members : List (Option String × Written)) : Bool :=
  members.any fun m => m.1 == some key

mutual

/-- The value of what is written, read against a shape. In a record a known member may not be
    repeated, and an unknown one is left out unread. -/
def Written.fitWithin? (depth : Nat) : Written → Shape → Option Json
  | .array items, .list shape =>
    if depth = 0 then none else (fitItems? (depth - 1) shape items).map .array
  | .array items, .record members =>
    if depth = 0 then none else (fitPlaces? (depth - 1) (members.map (·.2)) items).map .array
  | .object written, .record members =>
    if depth = 0 then none else (fitMembers? (depth - 1) members written).map .object
  | .object written, .choice =>
    if written.length = 1 then (Written.object written).valueWithin? depth else none
  | w, _ => w.valueWithin? depth

/-- The items of a list. -/
def fitItems? (depth : Nat) (shape : Shape) : List Written → Option (List Json)
  | [] => some []
  | w :: ws =>
    match w.fitWithin? depth shape with
    | none => none
    | some v => (fitItems? depth shape ws).map (v :: ·)

/-- The members of a record written as an array. -/
def fitPlaces? (depth : Nat) : List Shape → List Written → Option (List Json)
  | _, [] => some []
  | shapes, w :: ws =>
    match w.fitWithin? depth (shapes.headD .any) with
    | none => none
    | some v => (fitPlaces? depth shapes.tail ws).map (v :: ·)

/-- The members of a record written as an object. -/
def fitMembers? (depth : Nat) (members : List (String × Shape)) :
    List (Option String × Written) → Option (List (String × Json))
  | [] => some []
  | (none, _) :: _ => none
  | (some key, w) :: rest =>
    match members.lookup key with
    | none => fitMembers? depth members rest
    | some shape =>
      if isWrittenIn key rest then none
      else
        match w.fitWithin? depth shape with
        | none => none
        | some v => (fitMembers? depth members rest).map ((key, v) :: ·)

end

/-- Reads a document against a shape. -/
def ofTextAs? (shape : Shape) (text : String) : Option Json :=
  (Written.ofText? text.toList).bind (·.fitWithin? maxDepth shape)

end Dramaturg.Json
