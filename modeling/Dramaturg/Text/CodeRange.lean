set_option autoImplicit false

/-! # Ranges of codes

A property of characters is a list of ranges of codes, each with its first and its last code, in
rising order. The tables of this library are those of Unicode 17. -/

namespace Dramaturg.Text

/-- A property of characters, as the codes that have it. -/
abbrev CodeRanges : Type := List (Nat × Nat)

/-- Whether a character has a property. -/
def CodeRanges.holds (ranges : CodeRanges) (c : Char) : Bool :=
  ranges.any fun (first, last) => first ≤ c.toNat && c.toNat ≤ last

end Dramaturg.Text
