set_option autoImplicit false

/-! # The keystream of a seed

A seed is stretched into a key of eight words, and the key into an endless stream of words by the
ChaCha permutation with twelve rounds: sixteen words a block, a 64-bit block counter, no nonce.
The stream is a function from positions to words, so that drawing from it needs no hidden state. -/

namespace Dramaturg.Random

/-! ## The key of a seed -/

/-- The word `x` turned left by `n` bits. -/
def rotateLeft (x n : UInt32) : UInt32 :=
  (x <<< n) ||| (x >>> (32 - n))

/-- One step of the generator that stretches a seed: a linear congruence on 64 bits. -/
def nextKeyState (state : UInt64) : UInt64 :=
  state * 6364136223846793005 + 11634580027462260723

/-- The word given out for a state: its high bits folded, then turned by its top five bits. -/
def keyWord (state : UInt64) : UInt32 :=
  let folded := (((state >>> 18) ^^^ state) >>> 27).toUInt32
  let turn := (state >>> 59).toUInt32
  (folded >>> turn) ||| (folded <<< ((32 - turn) &&& 31))

/-- The first `count` words stretched from a state. -/
def keyWords : Nat → UInt64 → List UInt32
  | 0, _ => []
  | count + 1, state =>
    let next := nextKeyState state
    keyWord next :: keyWords count next

/-! ## One block -/

/-- The sixteen words that a round works on. -/
abbrev Block := Vector UInt32 16

/-- The quarter round on the words at `a`, `b`, `c` and `d`. -/
def quarterRound (a b c d : Fin 16) (s : Block) : Block :=
  let s := s.set a (s[a] + s[b])
  let s := s.set d (rotateLeft (s[d] ^^^ s[a]) 16)
  let s := s.set c (s[c] + s[d])
  let s := s.set b (rotateLeft (s[b] ^^^ s[c]) 12)
  let s := s.set a (s[a] + s[b])
  let s := s.set d (rotateLeft (s[d] ^^^ s[a]) 8)
  let s := s.set c (s[c] + s[d])
  s.set b (rotateLeft (s[b] ^^^ s[c]) 7)

/-- A round down the columns and a round along the diagonals. -/
def doubleRound (s : Block) : Block :=
  let s := quarterRound 0 4 8 12 s
  let s := quarterRound 1 5 9 13 s
  let s := quarterRound 2 6 10 14 s
  let s := quarterRound 3 7 11 15 s
  let s := quarterRound 0 5 10 15 s
  let s := quarterRound 1 6 11 12 s
  let s := quarterRound 2 7 8 13 s
  quarterRound 3 4 9 14 s

/-- The block before the rounds: four constants, the key, and the number of the block. -/
def startBlock (key : List UInt32) (number : UInt64) : Block :=
  let k (i : Nat) : UInt32 := key.getD i 0
  #v[0x61707865, 0x3320646e, 0x79622d32, 0x6b206574,
    k 0, k 1, k 2, k 3, k 4, k 5, k 6, k 7,
    number.toUInt32, (number >>> 32).toUInt32, 0, 0]

/-- Block `number` of the keystream. -/
def keystreamBlock (key : List UInt32) (number : UInt64) : Block :=
  let start := startBlock key number
  let mixed := (List.range 6).foldl (fun s _ => doubleRound s) start
  mixed.zipWith (· + ·) start

/-- The word at a position of the keystream of a seed. -/
def keystream (seed : UInt64) : Nat → UInt32 :=
  let key := keyWords 8 seed
  fun position => (keystreamBlock key (UInt64.ofNat (position / 16))).toArray.getD (position % 16) 0

end Dramaturg.Random
