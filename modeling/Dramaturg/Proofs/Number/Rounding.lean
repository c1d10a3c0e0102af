import Dramaturg.Number.Binary
import Mathlib.Algebra.Order.Group.Nat

set_option autoImplicit false

/-! # Rounding

Rounding looks at the value `mantissa · 2 ^ exponent` alone, not at how it is cut into a mantissa
and an exponent (`roundBits_mul_twoTo`). A number of a format is rounded to its own bits
(`roundBits_magnitude`), and a number whose mantissa fits into a format with room to spare is
rounded to bits of the same value (`exists_magnitude_roundBits`). So what is widened can be narrowed
again without loss. -/

namespace Dramaturg.Number

/-! ## Powers and quotients -/

theorem twoTo_eq (n : Nat) : twoTo n = 2 ^ n := rfl

theorem twoTo_pos (n : Nat) : 0 < twoTo n := Nat.two_pow_pos n

theorem twoTo_add (m n : Nat) : twoTo (m + n) = twoTo m * twoTo n := Nat.pow_add 2 m n

theorem log2_mul_twoTo {m : Nat} (hm : m ≠ 0) (k : Nat) : (m * twoTo k).log2 = m.log2 + k := by
  rw [Nat.log2_eq_iff (Nat.mul_ne_zero hm (twoTo_pos k).ne'), twoTo_eq, Nat.pow_add,
    show m.log2 + k + 1 = m.log2 + 1 + k by omega, Nat.pow_add]
  exact ⟨Nat.mul_le_mul_right _ (Nat.log2_self_le hm),
    Nat.mul_lt_mul_of_pos_right Nat.lt_log2_self (Nat.two_pow_pos k)⟩

theorem roundHalfEven_mul (num den : Nat) {c : Nat} (hc : 0 < c) :
    roundHalfEven (num * c) (den * c) = roundHalfEven num den := by
  have hdouble : 2 * (num % den * c) = 2 * (num % den) * c := (Nat.mul_assoc _ _ _).symm
  unfold roundHalfEven
  simp only [Nat.mul_div_mul_right _ _ hc, Nat.mul_mod_mul_right, hdouble,
    Nat.mul_lt_mul_right hc]

theorem roundHalfEven_one (n : Nat) : roundHalfEven n 1 = n := by
  simp [roundHalfEven, Nat.mod_one]

/-! ## Rounding in two steps -/

namespace Format

variable (f : Format) {mantissa : Nat} {exponent : Int}

/-- The exponent of the last place that a value keeps in a format. -/
def place (mantissa : Nat) (exponent : Int) : Int :=
  max (mantissa.log2 + 1 + exponent - f.precision) f.minExponent

/-- The value in units of a place, rounded. -/
def unitsAt (place : Int) (mantissa : Nat) (exponent : Int) : Nat :=
  if place ≤ exponent then mantissa * twoTo (exponent - place).toNat
  else roundHalfEven mantissa (twoTo (place - exponent).toNat)

/-- The bits of as many units of a place. -/
def bitsOf (place : Int) (units : Nat) : Nat :=
  min (if units < twoTo (f.precision - 1) then units
    else (place - f.minExponent + 1).toNat * twoTo (f.precision - 1)
      + (units - twoTo (f.precision - 1))) f.infinityBits

theorem roundBits_eq (hm : mantissa ≠ 0) :
    f.roundBits mantissa exponent
      = f.bitsOf (f.place mantissa exponent)
          (unitsAt (f.place mantissa exponent) mantissa exponent) := by
  unfold roundBits
  rw [if_neg hm]
  rfl

theorem unitsAt_mul_twoTo (place : Int) (mantissa : Nat) (exponent : Int) (k : Nat) :
    unitsAt place (mantissa * twoTo k) (exponent - k) = unitsAt place mantissa exponent := by
  unfold unitsAt
  by_cases hup : place ≤ exponent - k
  · have hplaces : (exponent - place).toNat = k + (exponent - k - place).toNat := by omega
    rw [if_pos hup, if_pos (by omega), hplaces, twoTo_add, Nat.mul_assoc]
  · rw [if_neg hup]
    by_cases hexact : place ≤ exponent
    · -- all of the new places are zeros
      have hplaces : k = (exponent - place).toNat + (place - (exponent - k)).toNat := by omega
      have hsplit : mantissa * twoTo k
          = mantissa * twoTo (exponent - place).toNat * twoTo (place - (exponent - k)).toNat := by
        rw [Nat.mul_assoc, ← twoTo_add, ← hplaces]
      have hone := roundHalfEven_mul (mantissa * twoTo (exponent - place).toNat) 1
        (twoTo_pos (place - (exponent - k)).toNat)
      rw [Nat.one_mul, roundHalfEven_one] at hone
      rw [if_pos hexact, hsplit, hone]
    · have hplaces : (place - (exponent - k)).toNat = (place - exponent).toNat + k := by omega
      rw [if_neg hexact, hplaces, twoTo_add, roundHalfEven_mul _ _ (twoTo_pos k)]

/-- **Rounding looks at the value alone.** -/
theorem roundBits_mul_twoTo (mantissa : Nat) (exponent : Int) (k : Nat) :
    f.roundBits (mantissa * twoTo k) (exponent - k) = f.roundBits mantissa exponent := by
  by_cases hm : mantissa = 0
  · simp [hm, roundBits]
  · have hplace : f.place (mantissa * twoTo k) (exponent - k) = f.place mantissa exponent := by
      unfold place
      rw [log2_mul_twoTo hm]
      congr 1
      omega
    rw [f.roundBits_eq hm, f.roundBits_eq (Nat.mul_ne_zero hm (twoTo_pos k).ne'), hplace,
      unitsAt_mul_twoTo]

/-! ## Numbers of a format -/

/-- The bits of a number with a full mantissa. -/
theorem bitsOf_full {place : Int} {units : Nat} (hfull : twoTo (f.precision - 1) ≤ units) :
    f.bitsOf place units
      = min ((place - f.minExponent + 1).toNat * twoTo (f.precision - 1)
          + (units - twoTo (f.precision - 1))) f.infinityBits := by
  unfold bitsOf
  rw [if_neg (Nat.not_lt.2 hfull)]

/-- **A number of a format is rounded to its own bits.** -/
theorem roundBits_magnitude (hf : 0 < f.precision) {bits : Nat} (h : bits < f.infinityBits) :
    f.roundBits (f.magnitude bits).mantissa (f.magnitude bits).exponent = bits := by
  have hpower : twoTo f.precision = twoTo (f.precision - 1) * 2 := by
    rw [← Nat.sub_add_cancel hf, twoTo_add]
    rfl
  have hdiv := Nat.div_add_mod' bits (twoTo (f.precision - 1))
  have hmod := Nat.mod_lt bits (twoTo_pos (f.precision - 1))
  generalize hw : twoTo (f.precision - 1) = w at *
  -- the last place kept is that of the number itself
  have hkept {m : Nat} {e : Int} (hm : m ≠ 0) (hplace : f.place m e = e) :
      f.roundBits m e = f.bitsOf e m := by
    rw [f.roundBits_eq hm, hplace, unitsAt, if_pos (le_refl e), Int.sub_self]
    rw [show twoTo (Int.toNat 0) = 1 from rfl, Nat.mul_one]
  unfold magnitude
  simp only [hw]
  generalize bits / w = biased at *
  split
  · rename_i hzero
    have hfraction : bits % w = bits := by rw [hzero] at hdiv; omega
    dsimp only
    rw [hfraction]
    by_cases hbits : bits = 0
    · simp [hbits, roundBits]
    · have hlog : bits.log2 < f.precision - 1 := (Nat.log2_lt hbits).2 (by rw [← twoTo_eq]; omega)
      rw [hkept hbits (by unfold place; omega), bitsOf, hw, if_pos (by omega)]
      omega
  · rename_i hbiased
    have hm : w + bits % w ≠ 0 := by omega
    have hlog : (w + bits % w).log2 = f.precision - 1 := by
      rw [Nat.log2_eq_iff hm, ← twoTo_eq, ← twoTo_eq, Nat.sub_add_cancel hf]
      omega
    have hexponent : (f.minExponent + (biased : Int) - 1 - f.minExponent + 1).toNat = biased := by
      omega
    dsimp only
    rw [hkept hm (by unfold place; omega), f.bitsOf_full (by omega), hw, hexponent,
      Nat.add_sub_cancel_left, hdiv, Nat.min_eq_left h.le]

/-! ## Numbers with room to spare -/

/-- **A value that fits is rounded to bits that stand for it.** The mantissa is moved up until it is
    full. The place that it ends at has to be one of the format. -/
theorem exists_magnitude_roundBits (exponent : Int) (hm : mantissa ≠ 0)
    (hfits : mantissa.log2 < f.precision)
    (hlow : f.minExponent + f.precision ≤ mantissa.log2 + 1 + exponent)
    (hhigh : mantissa.log2 + 3 + exponent - f.precision - f.minExponent < twoTo f.exponentBits) :
    ∃ narrow, f.roundBits mantissa exponent < f.infinityBits ∧
      f.magnitude (f.roundBits mantissa exponent)
        = ⟨mantissa * twoTo (f.precision - 1 - mantissa.log2),
            exponent - (f.precision - 1 - mantissa.log2 : Nat), narrow⟩ := by
  let k := f.precision - 1 - mantissa.log2
  have hplace : f.place mantissa exponent = exponent - k := by unfold place; omega
  have hunits : unitsAt (exponent - k) mantissa exponent = mantissa * twoTo k := by
    rw [unitsAt, if_pos (by omega), Int.sub_sub_self, Int.toNat_natCast]
  -- the mantissa moved up is full
  have hlog : (mantissa * twoTo k).log2 = f.precision - 1 := by
    rw [log2_mul_twoTo hm]
    omega
  obtain ⟨hleast, hbelow⟩ := (Nat.log2_eq_iff (Nat.mul_ne_zero hm (twoTo_pos k).ne')).1 hlog
  rw [Nat.pow_succ] at hbelow
  simp only [← twoTo_eq] at hleast hbelow
  rw [f.roundBits_eq hm, hplace, hunits, f.bitsOf_full hleast]
  obtain ⟨biased, hbiased⟩ : ∃ biased : Nat, exponent - k - f.minExponent + 1 = biased :=
    ⟨(exponent - k - f.minExponent + 1).toNat, by omega⟩
  have hroom : biased + 1 ≤ twoTo f.exponentBits - 1 := by omega
  rw [hbiased, Int.toNat_natCast]
  generalize hw : twoTo (f.precision - 1) = w at *
  have hpos : 0 < w := hw ▸ twoTo_pos _
  have hbits : biased * w + (mantissa * twoTo k - w) < f.infinityBits := by
    calc biased * w + (mantissa * twoTo k - w) < (biased + 1) * w := by
          rw [Nat.add_mul, Nat.one_mul]
          omega
      _ ≤ (twoTo f.exponentBits - 1) * w := Nat.mul_le_mul_right w hroom
      _ = f.infinityBits := by rw [← hw]; rfl
  rw [Nat.min_eq_left hbits.le]
  have hfraction : (biased * w + (mantissa * twoTo k - w)) % w = mantissa * twoTo k - w := by
    rw [Nat.mul_add_mod', Nat.mod_eq_of_lt (by omega)]
  have hquotient : (biased * w + (mantissa * twoTo k - w)) / w = biased := by
    rw [Nat.mul_comm, Nat.mul_add_div hpos, Nat.div_eq_of_lt (by omega), Nat.add_zero]
  unfold magnitude
  simp only [hw, hfraction, hquotient]
  have hexponent : f.minExponent + (biased : Int) - 1 = exponent - k := by omega
  rw [if_neg (by omega), Nat.add_sub_cancel' hleast, hexponent]
  exact ⟨_, hbits, rfl⟩

/-! ## Signs -/

/-- The bits below the sign are read back, and so is the sign. -/
theorem read_signed (negative : Bool) {bits : Nat} (h : bits < f.infinityBits) :
    f.read (f.signed negative bits) = .finite negative (f.magnitude bits) := by
  have hbelow : bits < twoTo (f.precision - 1 + f.exponentBits) := by
    calc bits < (twoTo f.exponentBits - 1) * twoTo (f.precision - 1) := h
      _ ≤ twoTo f.exponentBits * twoTo (f.precision - 1) :=
          Nat.mul_le_mul_right _ (Nat.sub_le _ _)
      _ = twoTo (f.precision - 1 + f.exponentBits) := by rw [Nat.mul_comm, twoTo_add]
  cases negative with
  | false =>
    simp [read, signed, Nat.mod_eq_of_lt hbelow, h, Nat.not_le.2 hbelow]
  | true =>
    simp [read, signed, Nat.mod_eq_of_lt hbelow, h]

end Format

end Dramaturg.Number
