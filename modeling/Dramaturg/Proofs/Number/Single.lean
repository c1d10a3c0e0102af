import Dramaturg.Proofs.Number.Whole

set_option autoImplicit false

/-! # Singles in doubles

A finite single travels as the double of the same value, and rounding that double gives the single
back (`narrow_widen`). -/

namespace Dramaturg.Number

open Float.Model.Format (binary32)
open Float.Model.UnpackedFloat

/-! ## The bits of a single -/

theorem infinityBits_single : Format.single.infinityBits = 255 * 2 ^ 23 := by decide

theorem minExponent_single : Format.single.minExponent = -149 := by decide

/-- The bits below the sign of a finite single are those of a number. -/
theorem lt_infinityBits_of_isFinite {x : Float32} (h : x.isFinite = true) :
    x.toBits.toNat % 2 ^ 31 < Format.single.infinityBits := by
  rw [infinityBits_single]
  by_contra hlarge
  let bits := x.toBits.toBitVec
  have hbits : bits.toNat = x.toBits.toNat := UInt32.toNat_toBitVec _
  have hexponent : @unpackExponent binary32 bits = -1#8 := by
    apply BitVec.eq_of_toNat_eq
    rw [@unpackExponent_def binary32, BitVec.extractLsb'_toNat, Nat.shiftRight_eq_div_pow, hbits]
    show x.toBits.toNat / 2 ^ 23 % 2 ^ 8 = 255
    omega
  have hunpacked : (unpack binary32 bits).isFinite = true := h
  unfold unpack at hunpacked
  simp only [hexponent, if_pos] at hunpacked
  split at hunpacked
  · cases hunpacked
  · cases hunpacked

/-- What a finite single stands for. -/
theorem ofSingle_of_isFinite {x : Float32} (h : x.isFinite = true) :
    ∃ negative, x.toBits.toNat = Format.single.signed negative (x.toBits.toNat % 2 ^ 31) ∧
      ofSingle x = .finite negative (Format.single.magnitude (x.toBits.toNat % 2 ^ 31)) := by
  have hbound : x.toBits.toNat < 2 ^ 32 := x.toBits.toNat_lt
  have hsplit : ∃ negative,
      x.toBits.toNat = Format.single.signed negative (x.toBits.toNat % 2 ^ 31) := by
    by_cases hsign : x.toBits.toNat < 2 ^ 31
    · exact ⟨false, (Nat.mod_eq_of_lt hsign).symm⟩
    · refine ⟨true, ?_⟩
      show x.toBits.toNat = 2 ^ 31 + x.toBits.toNat % 2 ^ 31
      omega
  obtain ⟨negative, hsigned⟩ := hsplit
  refine ⟨negative, hsigned, ?_⟩
  unfold ofSingle
  rw [hsigned, Format.read_signed _ negative (lt_infinityBits_of_isFinite h), ← hsigned]

/-! ## Widening and narrowing -/

/-- The mantissa and the exponent of a single lie well within those of a double. -/
theorem magnitude_single_bounds {bits : Nat} (h : bits < Format.single.infinityBits) :
    (Format.single.magnitude bits).mantissa < 2 ^ 24 ∧
      -149 ≤ (Format.single.magnitude bits).exponent ∧
      (Format.single.magnitude bits).exponent ≤ 104 := by
  have hplaces : twoTo (Format.single.precision - 1) = 2 ^ 23 := rfl
  rw [infinityBits_single] at h
  unfold Format.magnitude
  simp only [minExponent_single, hplaces]
  split
  · refine ⟨?_, ?_, ?_⟩ <;> dsimp only <;> omega
  · refine ⟨?_, ?_, ?_⟩ <;> dsimp only <;> omega

/-- A single is put into a double with the same value. -/
theorem exists_ofDouble_widen {m : Magnitude} (negative : Bool) (hmantissa : m.mantissa < 2 ^ 24)
    (hlow : -149 ≤ m.exponent) (hhigh : m.exponent ≤ 104) :
    ∃ k wide, ofDouble (toDouble (.finite negative m)) = .finite negative wide ∧
      (m.mantissa = 0 → wide.mantissa = 0) ∧
      (m.mantissa ≠ 0 → wide.mantissa = m.mantissa * twoTo k ∧ wide.exponent = m.exponent - k) := by
  by_cases hzero : m.mantissa = 0
  · have hbits : Format.double.roundBits m.mantissa m.exponent = 0 := by
      rw [hzero, Format.roundBits, if_pos rfl]
    refine ⟨0, Format.double.magnitude 0, ?_, fun _ => rfl, fun h => absurd hzero h⟩
    have hread := ofDouble_toDouble negative m (by rw [hbits]; decide)
    rwa [hbits] at hread
  · have hlog : m.mantissa.log2 < 24 := (Nat.log2_lt hzero).2 hmantissa
    have hplaces : Format.double.precision = 53 := rfl
    have hlimit : twoTo Format.double.exponentBits = 2048 := rfl
    obtain ⟨narrow, hfinite, hmagnitude⟩ :=
      Format.double.exists_magnitude_roundBits m.exponent hzero (by omega)
        (by rw [minExponent_double, hplaces]; omega)
        (by rw [minExponent_double, hplaces, hlimit]; omega)
    have hread := ofDouble_toDouble negative m hfinite
    rw [hmagnitude] at hread
    exact ⟨_, _, hread, fun h => absurd h hzero, fun _ => ⟨rfl, rfl⟩⟩

/-- **A finite single is the single nearest to its double.** -/
theorem narrow_widen {x : Float32} (h : x.isFinite = true) : narrow (widen x) = x := by
  let bits := x.toBits.toNat % 2 ^ 31
  have hfinite : bits < Format.single.infinityBits := lt_infinityBits_of_isFinite h
  obtain ⟨negative, hsigned, hread⟩ := ofSingle_of_isFinite h
  obtain ⟨hmantissa, hlow, hhigh⟩ := magnitude_single_bounds hfinite
  obtain ⟨k, wide, hwide, hzero, hscaled⟩ :=
    exists_ofDouble_widen negative hmantissa hlow hhigh
  -- rounding the double sees the same value as rounding the single
  have hround : Format.single.roundBits wide.mantissa wide.exponent = bits := by
    refine Eq.trans ?_ (Format.single.roundBits_magnitude (by decide) hfinite)
    by_cases hm : (Format.single.magnitude bits).mantissa = 0
    · rw [hm, hzero hm, Format.roundBits, if_pos rfl, Format.roundBits, if_pos rfl]
    · obtain ⟨hm, he⟩ := hscaled hm
      rw [hm, he, Format.roundBits_mul_twoTo]
  unfold narrow widen toSingle
  rw [hread, hwide]
  show Float32.ofBits (UInt32.ofNat (Format.single.signed negative _)) = x
  rw [hround, ← hsigned, UInt32.ofNat_toNat, Float32.ofBits_toBits]

end Dramaturg.Number
