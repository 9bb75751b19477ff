import Mathlib.Algebra.Order.Ring.Int
import Mathlib.Data.Int.Notation
import Mathlib.Tactic.Common
import Mathlib.Tactic.Linarith
import Mathlib.Tactic.Ring

/-!
# Division that rounds down and division that rounds towards zero

`Int.fdiv` and `Int.fmod` round down, `Int.tdiv` and `Int.tmod` towards zero. They agree exactly if
the division is exact or the operands do not have opposite signs (`fdiv_eq_tdiv_iff`,
`fmod_eq_tmod_iff`). Where they do not agree, the two remainders have opposite signs.
-/

namespace Division

variable (a b : ℤ)

/-- The division of `b` by `a` is exact, or the operands do not have opposite signs. -/
def RoundsAlike : Prop := a ∣ b ∨ 0 ≤ a * b

instance : Decidable (RoundsAlike a b) := inferInstanceAs (Decidable (_ ∨ _))

/-- The quotient that rounds down is the other one, or the one below. -/
theorem fdiv_eq : b.fdiv a = b.tdiv a - if RoundsAlike a b then 0 else 1 := by
  rw [Int.fdiv_eq_tdiv]
  unfold RoundsAlike
  rcases lt_trichotomy a 0 with ha | rfl | ha
  · rw [Int.sign_eq_neg_one_of_neg ha]
    rcases lt_trichotomy b 0 with hb | rfl | hb
    · have hpos : 0 < a * b := mul_pos_of_neg_of_neg ha hb
      split_ifs <;> omega
    · simp
    · have hneg : a * b < 0 := mul_neg_of_neg_of_pos ha hb
      split_ifs <;> omega
  · simp
  · rcases lt_trichotomy b 0 with hb | rfl | hb
    · have hneg : a * b < 0 := mul_neg_of_pos_of_neg ha hb
      rw [Int.sign_eq_one_of_pos ha]
      split_ifs <;> omega
    · simp
    · have hpos : 0 < a * b := mul_pos ha hb
      split_ifs <;> omega

/-- The two quotients agree exactly if they are rounded alike. -/
theorem fdiv_eq_tdiv_iff : b.fdiv a = b.tdiv a ↔ RoundsAlike a b := by
  rw [fdiv_eq]
  split_ifs with h
  · simp [h]
  · simp [h]

/-- The remainder of the division that rounds down is the other one, or larger by the divisor. -/
theorem fmod_eq : b.fmod a = b.tmod a + if RoundsAlike a b then 0 else a := by
  rw [Int.fmod_def, Int.tmod_def, fdiv_eq]
  split_ifs <;> ring

/-- Where the roundings differ, the divisor is not zero. -/
theorem ne_zero_of_not_roundsAlike {a b : ℤ} (h : ¬ RoundsAlike a b) : a ≠ 0 := by
  rintro rfl
  exact h (Or.inr (by simp))

/-- The two remainders agree exactly if the quotients are rounded alike. -/
theorem fmod_eq_tmod_iff : b.fmod a = b.tmod a ↔ RoundsAlike a b := by
  rw [fmod_eq]
  split_ifs with h
  · simp [h]
  · simp [h, ne_zero_of_not_roundsAlike h]

/-- The remainder of the division towards zero is smaller than the divisor. -/
theorem abs_tmod_lt {a : ℤ} (ha : a ≠ 0) : |b.tmod a| < |a| := by
  rw [Int.abs_eq_natAbs, Int.abs_eq_natAbs, Int.natAbs_tmod]
  exact_mod_cast Nat.mod_lt _ (Int.natAbs_pos.mpr ha)

/-- The remainder of the division towards zero does not have the opposite sign of the dividend. -/
theorem tmod_mul_nonneg : 0 ≤ b.tmod a * b := by
  rcases le_total 0 b with hb | hb
  · exact mul_nonneg (Int.tmod_nonneg a hb) hb
  · have hneg : 0 ≤ (-b).tmod a := Int.tmod_nonneg a (by omega)
    rw [Int.neg_tmod] at hneg
    exact mul_nonneg_of_nonpos_of_nonpos (by omega) hb

/-- Where the roundings differ, the remainders have opposite signs. -/
theorem fmod_mul_tmod_neg {a b : ℤ} (h : ¬ RoundsAlike a b) : b.fmod a * b.tmod a < 0 := by
  have ha := ne_zero_of_not_roundsAlike h
  have hlt := abs_tmod_lt b ha
  have hsign := tmod_mul_nonneg a b
  have hmod : b.tmod a ≠ 0 := fun h0 => h (Or.inl (Int.dvd_of_tmod_eq_zero h0))
  have hab : a * b < 0 := by
    unfold RoundsAlike at h
    omega
  rw [fmod_eq, if_neg h]
  rcases lt_or_gt_of_ne ha with ha | ha
  · have hb : 0 < b := by
      by_contra hb
      exact absurd (mul_nonneg_of_nonpos_of_nonpos ha.le (show b ≤ 0 by omega)) (by omega)
    have hpos : 0 < b.tmod a := by
      by_contra hle
      exact absurd (mul_neg_of_neg_of_pos (show b.tmod a < 0 by omega) hb) (by omega)
    rw [abs_of_pos hpos, abs_of_neg ha] at hlt
    exact mul_neg_of_neg_of_pos (by omega) hpos
  · have hb : b < 0 := by
      by_contra hb
      exact absurd (mul_nonneg ha.le (show 0 ≤ b by omega)) (by omega)
    have hneg : b.tmod a < 0 := by
      by_contra hle
      exact absurd (mul_neg_of_pos_of_neg (show 0 < b.tmod a by omega) hb) (by omega)
    rw [abs_of_neg hneg, abs_of_pos ha] at hlt
    exact mul_neg_of_pos_of_neg (by omega) hneg

/-- The remainder of the division that rounds down is smaller than the divisor. -/
theorem abs_fmod_lt {a : ℤ} (ha : a ≠ 0) : |b.fmod a| < |a| := by
  have hlt := abs_tmod_lt b ha
  by_cases h : RoundsAlike a b
  · rwa [(fmod_eq_tmod_iff a b).mpr h]
  · have hneg := fmod_mul_tmod_neg h
    rw [fmod_eq, if_neg h] at hneg ⊢
    rcases mul_neg_iff.mp hneg with ⟨hf, ht⟩ | ⟨hf, ht⟩
    · rw [abs_of_pos hf, abs_of_pos (show 0 < a by omega)]
      omega
    · rw [abs_of_neg hf, abs_of_neg (show a < 0 by omega)]
      omega

end Division
