import Mathlib.Data.Rat.Cast.Order
import Mathlib.Tactic.FieldSimp
import Mathlib.Tactic.Positivity
import SQPyte.Library.Binary64

/-!
# Values and truncations of Binary64 numbers

The value of a finite double is a rational number, and doubles are ordered as their values are. The
truncation of a double is within one of its value, and converts back exactly: a double of magnitude
`2^52` or more is its truncation, and a smaller one has a truncation of at most 52 bits.
-/

namespace Binary64

/-- The value of a finite double. -/
def value (x : Binary64) : ℚ := x.scaled / 2^unitExp

/-- The unit is positive. -/
theorem two_pow_unitExp_pos_rat : (0 : ℚ) < 2^unitExp := by positivity

/-- Values are ordered as they are in units. -/
theorem value_lt_value_iff {x y : Binary64} : x.value < y.value ↔ x.scaled < y.scaled := by
  unfold value
  rw [div_lt_div_iff_of_pos_right two_pow_unitExp_pos_rat]
  exact Int.cast_lt

/-- Doubles are ordered as their values are. -/
theorem lt_iff_value {x y : Binary64} (hx : x.isNaN = false) (hy : y.isNaN = false) :
    x.lt y = true ↔ x.value < y.value := by
  rw [lt_iff hx hy, value_lt_value_iff]
  constructor
  · intro h
    rcases lt_trichotomy x.scaled y.scaled with hlt | heq | hgt
    · exact hlt
    · have := key_eq_of_scaled_eq heq
      omega
    · have := key_lt_of_scaled_lt hgt
      omega
  · exact key_lt_of_scaled_lt

/-- The comparison is that of the values. -/
theorem le_iff_value {x y : Binary64} (hx : x.isNaN = false) (hy : y.isNaN = false) :
    x.le y = true ↔ x.value ≤ y.value := by
  rw [le_iff_not_lt hx hy, ← Bool.not_eq_true, lt_iff_value hy hx, not_lt]

/-- The value of a double that is an integer. -/
theorem Is.value_eq {x : Binary64} {v : ℤ} (h : x.Is v) : x.value = v := by
  have hpos := two_pow_unitExp_pos_rat
  unfold value
  rw [h.2]
  push_cast
  field_simp

/-- The magnitude of a truncated number. -/
theorem natAbs_trunc (x : Binary64) : x.trunc.natAbs = scaledMag x.mag / 2^unitExp := by
  unfold trunc
  split_ifs
  · rw [Int.natAbs_neg, Int.natAbs_natCast]
  · exact Int.natAbs_natCast _

/-- The truncation of a value that is not negative is not above it. -/
theorem trunc_of_nonneg {x : Binary64} (h : 0 ≤ x.value) : 0 ≤ x.trunc ∧ (x.trunc : ℚ) ≤ x.value := by
  have hpos := two_pow_unitExp_pos_rat
  have hscaled : 0 ≤ x.scaled := by
    by_contra hneg
    have hlt : (x.scaled : ℚ) < 0 := by exact_mod_cast not_le.mp hneg
    exact h.not_gt (div_neg_of_neg_of_pos hlt hpos)
  have hlo : scaledMag x.mag / 2^unitExp * 2^unitExp ≤ scaledMag x.mag := Nat.div_mul_le_self _ _
  have hlo' : ((scaledMag x.mag / 2^unitExp : ℕ) : ℤ) * 2^unitExp ≤ scaledMag x.mag := by
    exact_mod_cast hlo
  have hboth : 0 ≤ x.trunc ∧ x.trunc * 2^unitExp ≤ x.scaled := by
    unfold scaled at hscaled ⊢
    unfold trunc
    split_ifs at hscaled ⊢
    · -- The sign bit of a zero.
      have hzero : scaledMag x.mag = 0 := by omega
      rw [hzero, Nat.zero_div, Nat.cast_zero, neg_zero, zero_mul]
      exact ⟨le_rfl, le_rfl⟩
    · exact ⟨Int.natCast_nonneg _, hlo'⟩
  refine ⟨hboth.1, ?_⟩
  unfold value
  rw [le_div_iff₀ hpos]
  exact_mod_cast hboth.2

/-- The truncation of a value that is not positive is not below it. -/
theorem trunc_of_nonpos {x : Binary64} (h : x.value ≤ 0) : x.trunc ≤ 0 ∧ x.value ≤ x.trunc := by
  have hpos := two_pow_unitExp_pos_rat
  have hscaled : x.scaled ≤ 0 := by
    by_contra hneg
    have hlt : (0 : ℚ) < x.scaled := by exact_mod_cast not_le.mp hneg
    exact h.not_gt (div_pos hlt hpos)
  have hlo : scaledMag x.mag / 2^unitExp * 2^unitExp ≤ scaledMag x.mag := Nat.div_mul_le_self _ _
  have hlo' : ((scaledMag x.mag / 2^unitExp : ℕ) : ℤ) * 2^unitExp ≤ scaledMag x.mag := by
    exact_mod_cast hlo
  have hboth : x.trunc ≤ 0 ∧ x.scaled ≤ x.trunc * 2^unitExp := by
    unfold scaled at hscaled ⊢
    unfold trunc
    split_ifs at hscaled ⊢
    · exact ⟨by have := Int.natCast_nonneg (scaledMag x.mag / 2^unitExp); omega, by linarith⟩
    · have hzero : scaledMag x.mag = 0 := by omega
      rw [hzero, Nat.zero_div, Nat.cast_zero, zero_mul]
      exact ⟨le_rfl, le_rfl⟩
  refine ⟨hboth.1, ?_⟩
  unfold value
  rw [div_le_iff₀ hpos]
  exact_mod_cast hboth.2

/-- The truncation is within one of the value. -/
theorem trunc_bounds (x : Binary64) : (x.trunc : ℚ) - 1 < x.value ∧ x.value < x.trunc + 1 := by
  have hpos : 0 < 2^unitExp := Nat.two_pow_pos unitExp
  have hlo : scaledMag x.mag / 2^unitExp * 2^unitExp ≤ scaledMag x.mag := Nat.div_mul_le_self _ _
  have hhi : scaledMag x.mag < (scaledMag x.mag / 2^unitExp + 1) * 2^unitExp := by
    have := Nat.div_add_mod (scaledMag x.mag) (2^unitExp)
    have := Nat.mod_lt (scaledMag x.mag) hpos
    rw [Nat.add_mul, Nat.one_mul, Nat.mul_comm]
    omega
  have hscaled : (x.trunc - 1) * 2^unitExp < x.scaled ∧ x.scaled < (x.trunc + 1) * 2^unitExp := by
    have hlo' : ((scaledMag x.mag / 2^unitExp : ℕ) : ℤ) * 2^unitExp ≤ scaledMag x.mag := by
      exact_mod_cast hlo
    have hhi' : (scaledMag x.mag : ℤ) < ((scaledMag x.mag / 2^unitExp : ℕ) + 1) * 2^unitExp := by
      exact_mod_cast hhi
    have hunit := two_pow_unitExp_pos
    unfold scaled trunc
    split_ifs
    · exact ⟨by linarith, by linarith⟩
    · exact ⟨by linarith, by linarith⟩
  have hpos' := two_pow_unitExp_pos_rat
  unfold value
  rw [lt_div_iff₀ hpos', div_lt_iff₀ hpos']
  exact ⟨by exact_mod_cast hscaled.1, by exact_mod_cast hscaled.2⟩

/-- A truncation of at most 64 bits converts exactly. -/
theorem is_ofInt_trunc {x : Binary64} (hfin : x.isFinite = true) (hlo : -2^63 ≤ x.trunc)
    (hhi : x.trunc ≤ 2^63) : (ofInt x.trunc).Is x.trunc := by
  refine is_ofInt hlo hhi ?_
  obtain ⟨s, p, hs, hsp⟩ : ∃ s p, s < 2^53 ∧ scaledMag x.mag = s * 2^p := by
    unfold scaledMag
    split_ifs with hb
    · exact ⟨x.mag, 0, by omega, by simp⟩
    · exact ⟨_, _, by have := Nat.mod_lt x.mag (show 0 < 2^52 by decide); omega, rfl⟩
  rcases Nat.lt_or_ge p unitExp with hp | hp
  · -- The unit lies above the last bit of the significand, so the truncation is below `2^53`.
    have hle : x.trunc.natAbs ≤ s := by
      rw [natAbs_trunc, hsp]
      refine Nat.div_le_of_le_mul ?_
      rw [Nat.mul_comm]
      exact Nat.mul_le_mul_right s (Nat.pow_le_pow_right (by decide) hp.le)
    have hlog : x.trunc.natAbs.log2 - 52 = 0 := by
      rcases Nat.eq_zero_or_pos x.trunc.natAbs with h0 | h0
      · rw [h0]
        rfl
      · have := (Nat.log2_lt (k := 53) h0.ne').mpr (by omega)
        omega
    rw [hlog]
    exact one_dvd _
  · -- Otherwise the double is an integer.
    have hdvd : scaledMag x.mag / 2^unitExp * 2^unitExp = scaledMag x.mag := by
      refine Nat.div_mul_cancel ?_
      rw [hsp]
      exact (Nat.pow_dvd_pow 2 hp).mul_left s
    have his : x.Is x.trunc := by
      refine ⟨hfin, ?_⟩
      have hcast : ((scaledMag x.mag / 2^unitExp : ℕ) : ℤ) * 2^unitExp = scaledMag x.mag := by
        exact_mod_cast hdvd
      unfold scaled trunc
      split_ifs
      · rw [neg_mul, hcast]
      · rw [hcast]
    exact his.dvd

end Binary64
