import Dramaturg.Number.Shortest

set_option autoImplicit false

/-! # Written numbers

How a floating-point number is laid out as text is a record of decisions, `NumberStyle`, and one
function that follows it. Three styles are in use: `plain` for text shown to a player, `document`
for JSON, and `listing` for the diagnostic listing of settings. -/

namespace Dramaturg.Number

/-- The decisions behind a written number. With `e` the decimal exponent of the leading digit, a
    number is written positionally for `plainFrom ≤ e < plainBelow` and with an exponent
    otherwise; no bounds means always positionally. -/
structure NumberStyle where
  bounds : Option (Int × Int)
  pointZero : Bool
  /-- A plus sign in front of an exponent that has no minus sign. -/
  plusSign : Bool
  tie : Tie
  notANumber : String
  infinity : String
  negativeInfinity : String

/-- Positional always, whole numbers without a point; a tie goes upward. -/
def NumberStyle.plain : NumberStyle where
  bounds := none
  pointZero := false
  plusSign := false
  tie := .upward
  notANumber := "NaN"
  infinity := "inf"
  negativeInfinity := "-inf"

/-- Whole numbers end in `.0`; exponents, always with a sign, from `10 ^ 16` on and below
    `10 ^ -5`; a tie goes to the even digit. What is not finite is null. -/
def NumberStyle.document : NumberStyle where
  bounds := some (-5, 16)
  pointZero := true
  plusSign := true
  tie := .toEven
  notANumber := "null"
  infinity := "null"
  negativeInfinity := "null"

/-- Whole numbers end in `.0`; exponents from `10 ^ 16` on and below `10 ^ -4`. -/
def NumberStyle.listing : NumberStyle where
  bounds := some (-4, 16)
  pointZero := true
  plusSign := false
  tie := .upward
  notANumber := "NaN"
  infinity := "inf"
  negativeInfinity := "-inf"

/-- The decimal digits of a natural. -/
def digitsOf (n : Nat) : List Char :=
  Nat.toDigits 10 n

/-- An integer in decimal. -/
def intText (n : Int) : String :=
  if n < 0 then "-" ++ toString n.natAbs else toString n.natAbs

/-- Digits and exponent written positionally. -/
def positional (pointZero : Bool) (digits : List Char) (exponent : Int) : List Char :=
  if 0 ≤ exponent then
    digits ++ List.replicate exponent.toNat '0' ++ (if pointZero then ['.', '0'] else [])
  else
    let places := (-exponent).toNat
    if places < digits.length then
      digits.take (digits.length - places) ++ '.' :: digits.drop (digits.length - places)
    else
      '0' :: '.' :: (List.replicate (places - digits.length) '0' ++ digits)

/-- Digits and exponent written with one digit before the point and an exponent behind. -/
def scientific (plusSign : Bool) (digits : List Char) (exponent : Int) : List Char :=
  let leading := exponent + (digits.length - 1 : Nat)
  let mantissa :=
    match digits with
    | [] => []
    | [d] => [d]
    | d :: ds => d :: '.' :: ds
  let sign := if plusSign && decide (0 ≤ leading) then ['+'] else []
  mantissa ++ 'e' :: sign ++ (intText leading).toList

/-- A decimal laid out in a style. -/
def NumberStyle.layOut (style : NumberStyle) (d : Decimal) : List Char :=
  let digits := digitsOf d.digits
  let leading := d.exponent + (digits.length - 1 : Nat)
  match style.bounds with
  | none => positional style.pointZero digits d.exponent
  | some (low, high) =>
    if d.digits = 0 ∨ (low ≤ leading ∧ leading < high) then
      positional style.pointZero digits d.exponent
    else scientific style.plusSign digits d.exponent

/-- A number written in a style. -/
def NumberStyle.write (style : NumberStyle) : Reading → String
  | .notANumber => style.notANumber
  | .infinite negative => if negative then style.negativeInfinity else style.infinity
  | .finite negative m =>
    (if negative then "-" else "") ++ String.ofList (style.layOut (m.shortest style.tie))

/-- A double as a player sees it. -/
def plainText (x : Float) : String :=
  NumberStyle.plain.write (ofDouble x)

/-- A double as a document holds it. -/
def documentText (x : Float) : String :=
  NumberStyle.document.write (ofDouble x)

/-- A single as a listing of settings shows it. -/
def listingText (x : Float32) : String :=
  NumberStyle.listing.write (ofSingle x)

end Dramaturg.Number
