import Dramaturg.Proofs.Number.Rounding
import Mathlib

set_option autoImplicit false

/-! # Whole numbers in doubles

A natural number below `2 ^ 53` is a double without rounding, and can be read back from it. So the
numbers by which figures are known reach the renderer as they are. -/

namespace Dramaturg.Number

open Float.Model.Format (binary64)
open Float.Model.UnpackedFloat

/-- The natural number that a reading stands for, if it is one. -/
def Reading.whole? : Reading → Option Nat
  | .finite false m =>
    if 0 ≤ m.exponent then some (m.mantissa * twoTo m.exponent.toNat)
    else if m.mantissa % twoTo m.exponent.natAbs = 0 then
      some (m.mantissa / twoTo m.exponent.natAbs)
    else none
  | _ => none

/-! ## The bits of a double -/

theorem isNaNBits_eq_false {bits : BitVec 64} (hfinite : bits.toNat % 2 ^ 63 < 2047 * 2 ^ 52) :
    @isNaNBits binary64 bits = false := by
  have hexponent : @unpackExponent binary64 bits ≠ -1#11 := by
    intro h
    have hall : bits.toNat >>> 52 % 2 ^ 11 = 2047 := by
      rw [← BitVec.extractLsb'_toNat, ← @unpackExponent_def binary64, h]
      rfl
    rw [Nat.shiftRight_eq_div_pow] at hall
    omega
  exact decide_eq_false fun h => hexponent h.1

/-- A double made of bits has these bits, if they are those of a finite number. -/
theorem toNat_toBits_ofBits {bits : Nat} (hbound : bits < 2 ^ 64)
    (hfinite : bits % 2 ^ 63 < 2047 * 2 ^ 52) :
    (Float.ofBits (UInt64.ofNat bits)).toBits.toNat = bits := by
  have hbits : (UInt64.ofNat bits).toBitVec.toNat = bits := by
    rw [UInt64.toNat_toBitVec, UInt64.toNat_ofNat']
    omega
  have hnumber : @isNaNBits binary64 (UInt64.ofNat bits).toBitVec = false :=
    isNaNBits_eq_false (hbits.symm ▸ hfinite)
  show (pack binary64 (unpack binary64 (UInt64.ofNat bits).toBitVec)).toNat = bits
  rw [pack_unpack, hnumber, if_neg Bool.false_ne_true, hbits]

theorem minExponent_double : Format.double.minExponent = -1074 := by decide

theorem infinityBits_double : Format.double.infinityBits = 2047 * 2 ^ 52 := by decide

/-- **What is written into a double is read back from it.** -/
theorem ofDouble_toDouble (negative : Bool) (m : Magnitude)
    (hfinite : Format.double.roundBits m.mantissa m.exponent < Format.double.infinityBits) :
    ofDouble (toDouble (.finite negative m))
      = .finite negative
          (Format.double.magnitude (Format.double.roundBits m.mantissa m.exponent)) := by
  let bits := Format.double.roundBits m.mantissa m.exponent
  have hsign : Format.double.signed negative bits = (if negative then 2 ^ 63 else 0) + bits := by
    cases negative with
    | false => exact (Nat.zero_add bits).symm
    | true => rfl
  have hroom : bits < 2047 * 2 ^ 52 := infinityBits_double ▸ hfinite
  have hkept : (Float.ofBits (UInt64.ofNat (Format.double.signed negative bits))).toBits.toNat
      = Format.double.signed negative bits := by
    apply toNat_toBits_ofBits
    · rw [hsign]
      split <;> omega
    · rw [hsign]
      split <;> omega
  show Format.double.read
      (Float.ofBits (UInt64.ofNat (Format.double.signed negative bits))).toBits.toNat = _
  rw [hkept, Format.read_signed Format.double negative hfinite]

/-! ## Natural numbers -/

/-- **A natural number below `2 ^ 53` can be read back from its double.** -/
theorem whole?_ofDouble_toDouble {n : Nat} (hsmall : n < 2 ^ 53) :
    (ofDouble (toDouble (ofInt n))).whole? = some n := by
  by_cases hpos : n = 0
  · subst hpos
    decide +kernel
  · have hlog : n.log2 < 53 := (Nat.log2_lt hpos).2 hsmall
    have hplaces : Format.double.precision = 53 := rfl
    have hlimit : twoTo Format.double.exponentBits = 2048 := rfl
    obtain ⟨narrow, hfinite, hmagnitude⟩ :=
      Format.double.exists_magnitude_roundBits 0 hpos hlog
        (by rw [minExponent_double, hplaces]; omega)
        (by rw [minExponent_double, hplaces, hlimit]; omega)
    have hsign : decide ((n : Int) < 0) = false := by simp
    have hread := ofDouble_toDouble false ⟨n, 0, false⟩ hfinite
    rw [hmagnitude] at hread
    have hint : ofInt n = .finite false ⟨n, 0, false⟩ := by rw [ofInt, hsign, Int.natAbs_natCast]
    rw [hint, hread]
    unfold Reading.whole?
    by_cases hfull : n.log2 = 52
    · simp [hplaces, hfull, twoTo_eq]
    · have hdown : ((0 : Int) - (53 - 1 - n.log2 : Nat)).natAbs = 52 - n.log2 := by omega
      simp only [hplaces, hdown, Nat.mul_mod_left, Nat.mul_div_cancel _ (twoTo_pos _)]
      rw [if_neg (by omega), if_pos trivial]

end Dramaturg.Number
