import Dramaturg.Number.Power
import Dramaturg.Random.Keystream

set_option autoImplicit false

/-! # Random sources

A source is a stream of 32-bit words and the position of the next one. `Source.index` draws a
number below a bound; that it is below the bound is part of its type. -/

namespace Dramaturg.Random

/-- A stream of words, of which the first `used` are spent. -/
structure Source where
  word : Nat → UInt32
  used : Nat

/-- The source of a seed. -/
def Source.ofSeed (seed : UInt64) : Source := ⟨keystream seed, 0⟩

/-- The index below `n` that the words `w` and `v` give: the high half of `w · n`, plus one where
    the low half is so large that the product with a longer random fraction may carry, and with
    `v` it does. -/
def scaledIndex (n : Nat) (w v : UInt32) : Nat :=
  let product := w.toNat * n
  let low := product % Number.twoTo 32
  product / Number.twoTo 32 +
    if Number.twoTo 32 < low + n ∧ Number.twoTo 32 ≤ low + v.toNat * n / Number.twoTo 32 then 1
    else 0

/-- Whether the low half of `w · n` is so large that a second word decides. -/
def needsSecondWord (n : Nat) (w : UInt32) : Bool :=
  decide (Number.twoTo 32 < w.toNat * n % Number.twoTo 32 + n)

theorem scaledIndex_lt {n : Nat} (hn : 0 < n) (w v : UInt32) : scaledIndex n w v < n := by
  have hrange : Number.twoTo 32 = 4294967296 := rfl
  have hw : w.toNat * n ≤ 4294967295 * n := Nat.mul_le_mul_right n (Nat.le_pred_of_lt w.toNat_lt)
  have hdiv := Nat.div_add_mod (w.toNat * n) 4294967296
  simp only [scaledIndex, hrange]
  generalize w.toNat * n = p at *
  generalize p / 4294967296 = q at *
  generalize p % 4294967296 = r at *
  split <;> omega

/-- Draws an index below `n + 1`. A word is taken even when there is only one choice, and a second
    one when the first leaves the carry open. -/
def Source.index (n : Nat) (s : Source) : Fin (n + 1) × Source :=
  let w := s.word s.used
  let v := s.word (s.used + 1)
  (⟨scaledIndex (n + 1) w v, scaledIndex_lt n.succ_pos w v⟩,
    { s with used := s.used + if needsSecondWord (n + 1) w then 2 else 1 })

/-- Chooses an element of a list; an empty list draws nothing. -/
def Source.choose {α : Type} : List α → Source → Option α × Source
  | [], s => (none, s)
  | x :: xs, s =>
    let (i, s) := s.index xs.length
    ((x :: xs)[i.val]?, s)

end Dramaturg.Random
