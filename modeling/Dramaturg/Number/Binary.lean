import Dramaturg.Number.Power

set_option autoImplicit false

/-! # Binary numbers

A floating-point number is read as a sign and a magnitude `mantissa · 2 ^ exponent` of naturals,
and a magnitude is rounded back into a format to nearest, ties to even. Everything here is exact
arithmetic on `Nat` and `Int`; a double is turned into a single, and a single into a double, by
reading the one and rounding into the other. -/

namespace Dramaturg.Number

/-- A layout of binary floating-point numbers: `precision` counts the bits of a full mantissa,
    the leading one included. -/
structure Format where
  precision : Nat
  exponentBits : Nat

/-- The layout of `Float`. -/
def Format.double : Format := ⟨53, 11⟩

/-- The layout of `Float32`. -/
def Format.single : Format := ⟨24, 8⟩

/-- The exponent of the last place of the smallest numbers. -/
def Format.minExponent (f : Format) : Int :=
  3 - twoTo (f.exponentBits - 1) - f.precision

/-- The bits of positive infinity: no magnitude has more. -/
def Format.infinityBits (f : Format) : Nat :=
  (twoTo f.exponentBits - 1) * twoTo (f.precision - 1)

/-- The value `mantissa · 2 ^ exponent`. `narrowBelow` says that the next smaller number of the
    format lies half as far away as the next larger one. -/
structure Magnitude where
  mantissa : Nat
  exponent : Int
  narrowBelow : Bool
deriving DecidableEq

/-- What a bit pattern stands for. -/
inductive Reading where
  | notANumber
  | infinite (negative : Bool)
  | finite (negative : Bool) (magnitude : Magnitude)
deriving DecidableEq

/-- The magnitude of the bits below the sign, for a pattern that is finite. -/
def Format.magnitude (f : Format) (bits : Nat) : Magnitude :=
  let fraction := bits % twoTo (f.precision - 1)
  let biased := bits / twoTo (f.precision - 1)
  if biased = 0 then ⟨fraction, f.minExponent, false⟩
  else ⟨twoTo (f.precision - 1) + fraction, f.minExponent + biased - 1,
    fraction == 0 && decide (1 < biased)⟩

/-- Reads a bit pattern of the format. -/
def Format.read (f : Format) (bits : Nat) : Reading :=
  let signBit := twoTo (f.precision - 1 + f.exponentBits)
  let negative := decide (signBit ≤ bits)
  let unsigned := bits % signBit
  if unsigned < f.infinityBits then .finite negative (f.magnitude unsigned)
  else if unsigned = f.infinityBits then .infinite negative
  else .notANumber

/-- The quotient rounded to the nearest natural, a half going to the even neighbour. -/
def roundHalfEven (num den : Nat) : Nat :=
  let q := num / den
  let r := num % den
  if 2 * r < den then q
  else if den < 2 * r then q + 1
  else q + q % 2

/-- The bits, sign apart, of the number nearest to `mantissa · 2 ^ exponent`; a value beyond the
    largest number gives infinity. -/
def Format.roundBits (f : Format) (mantissa : Nat) (exponent : Int) : Nat :=
  if mantissa = 0 then 0
  else
    let place := max (mantissa.log2 + 1 + exponent - f.precision) f.minExponent
    let units :=
      if place ≤ exponent then mantissa * twoTo (exponent - place).toNat
      else roundHalfEven mantissa (twoTo (place - exponent).toNat)
    let bits :=
      if units < twoTo (f.precision - 1) then units
      else (place - f.minExponent + 1).toNat * twoTo (f.precision - 1)
        + (units - twoTo (f.precision - 1))
    min bits f.infinityBits

/-- The bits with the sign put in front. -/
def Format.signed (f : Format) (negative : Bool) (bits : Nat) : Nat :=
  if negative then twoTo (f.precision - 1 + f.exponentBits) + bits else bits

/-- The pattern for what is no number. -/
def Format.nanBits (f : Format) : Nat :=
  f.infinityBits + twoTo (f.precision - 2)

/-- The bits of a reading in a format, rounded where they have to be. -/
def Format.write (f : Format) : Reading → Nat
  | .notANumber => f.nanBits
  | .infinite negative => f.signed negative f.infinityBits
  | .finite negative m => f.signed negative (f.roundBits m.mantissa m.exponent)

/-! ## Doubles and singles -/

/-- What a double stands for. -/
def ofDouble (x : Float) : Reading :=
  Format.double.read x.toBits.toNat

/-- What a single stands for. -/
def ofSingle (x : Float32) : Reading :=
  Format.single.read x.toBits.toNat

/-- The double nearest to a reading. -/
def toDouble (r : Reading) : Float :=
  Float.ofBits (UInt64.ofNat (Format.double.write r))

/-- The single nearest to a reading. -/
def toSingle (r : Reading) : Float32 :=
  Float32.ofBits (UInt32.ofNat (Format.single.write r))

/-- The double of the same value as a single. -/
def widen (x : Float32) : Float :=
  toDouble (ofSingle x)

/-- The single nearest to a double. -/
def narrow (x : Float) : Float32 :=
  toSingle (ofDouble x)

/-- An integer as a magnitude with its sign. -/
def ofInt (n : Int) : Reading :=
  .finite (decide (n < 0)) ⟨n.natAbs, 0, false⟩

end Dramaturg.Number
