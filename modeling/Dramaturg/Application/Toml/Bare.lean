import Dramaturg.Application.Toml.Basic
import Dramaturg.Json.Reader
import Dramaturg.Number.Decimal
import Dramaturg.Text.Search

set_option autoImplicit false

/-! # Numbers, dates and booleans of a configuration file

What stands without quotes is a boolean, a number, or a day, a time or both. Digits may be grouped
by underscores, integers may be written to a base and have 64 bits, and a positive number that is
too large for a double is refused. -/

namespace Dramaturg.Toml

/-! ## Numbers -/

/-- Whether a character is an ASCII digit of a base up to sixteen. -/
def isDigitOf (base : Nat) (c : Char) : Bool :=
  (Json.hexDigit? c).any (· < base)

/-- Whether digits are grouped well: underscores only stand between two digits. -/
def wellGrouped (isDigit : Char → Bool) : List Char → Bool
  | [] => false
  | [c] => isDigit c
  | c :: '_' :: rest => isDigit c && wellGrouped isDigit rest
  | c :: rest => isDigit c && wellGrouped isDigit rest

/-- The digits without the underscores between them. -/
def ungrouped (digits : List Char) : List Char := digits.filter (· ≠ '_')

/-- The value of digits in a base. -/
def valueOf (base : Nat) (digits : List Char) : Nat :=
  digits.foldl (fun n c => n * base + (Json.hexDigit? c).getD 0) 0

/-- Whether digits form a whole number: they are grouped well and begin with no idle zero. -/
def isWhole (digits : List Char) : Bool :=
  wellGrouped Char.isDigit digits && (digits == ['0'] || digits.head? != some '0')

/-- An integer of 64 bits. -/
def integer? (negative : Bool) (n : Nat) : Option Value :=
  if negative then
    if n ≤ Number.twoTo 63 then some (.integer (-n)) else none
  else
    if n < Number.twoTo 63 then some (.integer n) else none

/-- The digits of a grouped number, one by one. -/
def digitsOf (digits : List Char) : List Nat :=
  (ungrouped digits).map fun c => (Json.hexDigit? c).getD 0

/-- The exponent of a number: a sign at most, and then digits. -/
def exponent? (text : List Char) : Option Int :=
  let unsigned? (digits : List Char) : Option Int :=
    if wellGrouped Char.isDigit digits then some (valueOf 10 (ungrouped digits)) else none
  match text with
  | '+' :: digits => unsigned? digits
  | '-' :: digits => (unsigned? digits).map (-·)
  | digits => unsigned? digits

/-- A number with a fraction or an exponent, after its sign: its digits, and the power of ten that
    the last of them is worth. -/
def real? (text : List Char) : Option (List Nat × Int) := do
  let isMark (c : Char) : Bool := c = 'e' || c = 'E'
  let mantissa := text.takeWhile (!isMark ·)
  let whole := mantissa.takeWhile (· ≠ '.')
  let hasPoint := mantissa.contains '.'
  let hasExponent := text.any isMark
  let fraction := (mantissa.dropWhile (· ≠ '.')).drop 1
  if !isWhole whole || !(hasPoint || hasExponent) then none
  if hasPoint && !wellGrouped Char.isDigit fraction then none
  let exponent ←
    if hasExponent then exponent? ((text.dropWhile (!isMark ·)).drop 1) else some 0
  return (digitsOf whole ++ digitsOf fraction, exponent - (digitsOf fraction).length)

/-- A number in decimal, after its sign. -/
def decimal? (negative : Bool) (text : List Char) : Option Value :=
  if text = "inf".toList ∨ text = "nan".toList then some .real
  else if isWhole text then integer? negative (valueOf 10 (ungrouped text))
  else
    match real? text with
    | some (digits, exponent) =>
      if !negative && Number.exceedsDoubles digits exponent then none else some .real
    | none => none

/-- An integer in a base that a letter names. -/
def based? (base : Nat) (digits : List Char) : Option Value :=
  if wellGrouped (isDigitOf base) digits then integer? false (valueOf base (ungrouped digits))
  else none

/-- A number. -/
def number? : List Char → Option Value
  | '0' :: 'x' :: digits => based? 16 digits
  | '0' :: 'o' :: digits => based? 8 digits
  | '0' :: 'b' :: digits => based? 2 digits
  | '+' :: text => decimal? false text
  | '-' :: text => decimal? true text
  | text => decimal? false text

/-! ## Dates -/

/-- The value of exactly `n` digits in front, and the rest. -/
def fixedDigits? (n : Nat) (text : List Char) : Option (Nat × List Char) :=
  let digits := text.take n
  if digits.length = n ∧ digits.all Char.isDigit then some (valueOf 10 digits, text.drop n)
  else none

/-- How many days a month has. -/
def daysIn (year month : Nat) : Nat :=
  if month = 2 then
    if year % 4 = 0 ∧ (year % 100 ≠ 0 ∨ year % 400 = 0) then 29 else 28
  else if month = 4 ∨ month = 6 ∨ month = 9 ∨ month = 11 then 30
  else 31

/-- What follows a calendar day in front. -/
def afterDay? (text : List Char) : Option (List Char) := do
  let (year, text) ← fixedDigits? 4 text
  let text ← Text.after? ['-'] text
  let (month, text) ← fixedDigits? 2 text
  let text ← Text.after? ['-'] text
  let (day, text) ← fixedDigits? 2 text
  if 1 ≤ month ∧ month ≤ 12 ∧ 1 ≤ day ∧ day ≤ daysIn year month then some text else none

/-- What follows a time of day in front. -/
def afterTime? (text : List Char) : Option (List Char) := do
  let (hour, text) ← fixedDigits? 2 text
  let text ← Text.after? [':'] text
  let (minute, text) ← fixedDigits? 2 text
  let text ← Text.after? [':'] text
  let (second, text) ← fixedDigits? 2 text
  if hour < 24 ∧ minute < 60 ∧ second ≤ 60 then
    match text with
    | '.' :: rest =>
      if (rest.head?).any Char.isDigit then some (rest.dropWhile Char.isDigit) else none
    | text => some text
  else none

/-- Whether a text is the offset of a time zone, or nothing. -/
def isOffset (text : List Char) : Bool :=
  let isShift (text : List Char) : Bool :=
    match fixedDigits? 2 text with
    | some (hour, ':' :: rest) =>
      match fixedDigits? 2 rest with
      | some (minute, []) => hour < 24 && minute < 60
      | _ => false
    | _ => false
  match text with
  | [] => true
  | ['Z'] => true
  | ['z'] => true
  | '+' :: rest => isShift rest
  | '-' :: rest => isShift rest
  | _ => false

/-- Whether a text is a day, a time, or both. -/
def isDate (text : List Char) : Bool :=
  match afterDay? text with
  | some [] => true
  | some (c :: rest) => (c = 'T' || c = 't' || c = ' ') && (afterTime? rest).any isOffset
  | none => (afterTime? text).any List.isEmpty

/-! ## Words -/

/-- Whether a character may stand in a value without quotes. -/
def isBare (c : Char) : Bool :=
  c.isAlphanum || c = '_' || c = '-' || c = '+' || c = '.' || c = ':'

/-- The bare word in front. A day and a time may be joined by a space. -/
def bareWord (text : List Char) : List Char × List Char :=
  let word := text.takeWhile isBare
  let rest := text.dropWhile isBare
  match afterDay? word, rest with
  | some [], ' ' :: d :: more =>
    if d.isDigit then (word ++ ' ' :: (d :: more).takeWhile isBare, (d :: more).dropWhile isBare)
    else (word, rest)
  | _, _ => (word, rest)

/-- The value of a bare word. -/
def bareValue? (word : List Char) : Option Value :=
  if word = "true".toList then some (.boolean true)
  else if word = "false".toList then some (.boolean false)
  else (number? word).orElse fun _ => if isDate word then some .date else none

end Dramaturg.Toml
