import Dramaturg.Text.Extender
import Dramaturg.Text.Unassigned

set_option autoImplicit false

/-! # Listed strings

A diagnostic listing shows a string in quotes. Quotes, backslashes and characters that cannot be
seen are escaped, so that the listing shows what the string holds. -/

namespace Dramaturg.Text

/-- The characters that are assigned but are no letters, marks or signs: controls, format
    characters, separators other than the space, and the fillers of Hangul. -/
def shapeless : CodeRanges := [
  (0x0, 0x1F), (0x7F, 0xA0), (0xAD, 0xAD), (0x600, 0x605), (0x61C, 0x61C), (0x6DD, 0x6DD),
  (0x70F, 0x70F), (0x890, 0x891), (0x8E2, 0x8E2), (0x115F, 0x1160), (0x1680, 0x1680),
  (0x180E, 0x180E), (0x2000, 0x200B), (0x200D, 0x200F), (0x2028, 0x202F), (0x205F, 0x2064),
  (0x2066, 0x206F), (0x3000, 0x3000), (0x3164, 0x3164), (0xFEFF, 0xFEFF), (0xFFA0, 0xFFA0),
  (0xFFF9, 0xFFFB), (0x110BD, 0x110BD), (0x110CD, 0x110CD), (0x13430, 0x1343F),
  (0x1BCA0, 0x1BCA3), (0x1D173, 0x1D17A), (0xE0001, 0xE0001)]

/-- Whether a character is shown as it is: it has a shape of its own and does not change the one
    before it. -/
def isVisible (c : Char) : Bool :=
  !(shapeless.holds c || isExtender c || isUnassigned c)

/-- A character as it stands in a listed string. -/
def listedChar (c : Char) : List Char :=
  if c = '"' then ['\\', '"']
  else if c = '\\' then ['\\', '\\']
  else if c = '\n' then ['\\', 'n']
  else if c = '\r' then ['\\', 'r']
  else if c = '\t' then ['\\', 't']
  else if c = '\x00' then ['\\', '0']
  else if isVisible c then [c]
  else '\\' :: 'u' :: '\x7b' :: Nat.toDigits 16 c.toNat ++ ['\x7d']

/-- A string as a listing shows it. -/
def listed (s : String) : String :=
  "\"" ++ String.ofList (s.toList.flatMap listedChar) ++ "\""

end Dramaturg.Text
