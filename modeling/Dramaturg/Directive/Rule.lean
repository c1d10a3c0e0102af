import Dramaturg.Text.Blank
import Dramaturg.Text.Search

set_option autoImplicit false

/-! # Delimiter rules

A model puts a directive into its reply between two delimiters, such as `<<<` and `>>>`. A rule
says which ones, how the items between them are separated, and how their keys are looked up.

`body?` finds the first directive of a rule: the leftmost front delimiter that has a back
delimiter behind it on the same line. A front delimiter without one does not hide the next, even if
the two overlap. -/

namespace Dramaturg

open Text

/-- How one kind of directive is delimited and treated. -/
structure Rule where
  front : String
  back : String
  /-- Separates the items inside a directive. -/
  splitter : String := ""
  /-- Keys are looked up exactly, and not as parts of the text. -/
  strict : Bool := false
  /-- A command is given even if its value repeats the one before. -/
  allowRepeat : Bool := false
deriving DecidableEq

/-- A rule with an empty delimiter never matches. -/
def Rule.isEnabled (r : Rule) : Bool :=
  !r.front.isEmpty && !r.back.isEmpty

namespace Directive

/-- The part of a text before its first line end. -/
def firstLine (text : List Char) : List Char :=
  text.takeWhile fun c => !isLineEnd c

/-- The text between `front`, with which `text` has to begin, and the next `back` on the line. -/
def bodyHere? (front back text : List Char) : Option (List Char) :=
  (after? front text).bind fun rest => (cut? back (firstLine rest)).map (·.1)

/-- The body at the first place of `text` that has one. -/
def body? (front back : List Char) : List Char → Option (List Char)
  | [] => none
  | c :: cs =>
    match bodyHere? front back (c :: cs) with
    | some body => some body
    | none => body? front back cs

/-- The body of the first directive of a rule. -/
def extract? (r : Rule) (text : String) : Option String :=
  if r.isEnabled then
    (body? r.front.toList r.back.toList text.toList).map String.ofList
  else none

end Directive

end Dramaturg
