import Dramaturg.Stage.Basic
import Dramaturg.Turn.Request

set_option autoImplicit false

/-! # Drawn identifiers

Outside of a test the identifiers of paragraphs and sentences are drawn at random: four words of a
keystream give the thirty-two digits of one, apart from a digit that says that it was drawn and two
bits that say in which layout. -/

namespace Dramaturg.Console

/-- The digit at a place of the identifier of a number, drawn from a stream of words. -/
def drawnDigit (word : Nat → UInt32) (number : Nat) (place : Fin 32) : Fin 16 :=
  let value := (word (4 * number + place.val / 8)).toNat >>> (4 * (7 - place.val % 8))
  if place.val = 12 then TurnId.digit 4
  else if place.val = 16 then TurnId.digit (8 + value % 4)
  else TurnId.digit value

/-- The identifier of a number, drawn from a stream of words. -/
def drawnId (word : Nat → UInt32) (number : Nat) : TurnId :=
  ⟨Vector.ofFn (drawnDigit word number)⟩

/-- Identifiers drawn from the keystream of a seed. -/
def identifiers (seed : UInt64) : IdSupply :=
  ⟨fun number => (drawnId (Random.keystream seed) number).text, 0⟩

end Dramaturg.Console
