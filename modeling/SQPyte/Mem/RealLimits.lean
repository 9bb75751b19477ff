import SQPyte.Library.Truncation
import SQPyte.Mem.Numeric

/-!
# Reals beyond the 64-bit integers

`doubleToInt64` of `vdbemem.c` clamps a real to the 64-bit integers. The conversion `int()` of the
translated interpreter is the one of the machine, which gives the smallest integer for whatever is
out of range. They differ on the reals from `2^63` on (`toInt64_eq_doubleToInt64_iff`).
-/

namespace SQPyte

open Mem

variable {x : Binary64}

/-- A truncation is in the 64-bit range if the value is strictly inside it. -/
theorem trunc_fits (hlo : -2^63 < x.value) (hhi : x.value < 2^63) :
    -2^63 < x.trunc ∧ x.trunc < 2^63 := by
  rcases le_total 0 x.value with h | h
  · obtain ⟨h0, hle⟩ := Binary64.trunc_of_nonneg h
    have hlt : (x.trunc : ℚ) < 2^63 := hle.trans_lt hhi
    exact ⟨by omega, by exact_mod_cast hlt⟩
  · obtain ⟨h0, hle⟩ := Binary64.trunc_of_nonpos h
    have hlt : (-2^63 : ℚ) < x.trunc := hlo.trans_le hle
    exact ⟨by exact_mod_cast hlt, by omega⟩

/-- The conversion of the machine truncates inside the range, and gives the smallest integer out of
it. -/
theorem toInt64_eq (x : Binary64) :
    x.toInt64 = if -2^63 < x.value ∧ x.value < 2^63 then x.trunc else -2^63 := by
  unfold Binary64.toInt64
  by_cases hin : -2^63 < x.value ∧ x.value < 2^63
  · obtain ⟨hlo, hhi⟩ := trunc_fits hin.1 hin.2
    rw [if_pos hin, if_pos ⟨hlo.le, hhi⟩]
  rw [if_neg hin]
  split_ifs with hfits
  · -- Just below the range a value still truncates to the smallest integer.
    have hnot : ¬ -2^63 < x.value := by
      intro hlo
      refine hin ⟨hlo, ?_⟩
      rcases le_total 0 x.value with h | h
      · have hlt := (Binary64.trunc_bounds x).2
        have htrunc : (x.trunc : ℚ) + 1 ≤ 2^63 := by exact_mod_cast hfits.2
        exact hlt.trans_le htrunc
      · exact h.trans_lt (by norm_num)
    have hle : x.value ≤ -2^63 := not_lt.mp hnot
    have htrunc : (x.trunc : ℚ) < -2^63 + 1 := by
      have := (Binary64.trunc_bounds x).1
      linarith
    have : x.trunc < -2^63 + 1 := by exact_mod_cast htrunc
    omega
  · rfl

/-- The integer that a real is to be converted to: its truncation, or the end of the range that it is
beyond. -/
def clampInt64 (x : Binary64) : ℤ :=
  if x.value ≤ -2^63 then -2^63 else if 2^63 ≤ x.value then 2^63 - 1 else x.trunc

/-- `doubleToInt64` clamps to the range. -/
theorem doubleToInt64_eq (hnan : x.isNaN = false) : doubleToInt64 x = clampInt64 x := by
  have hmin : (Binary64.ofInt (-2^63)).Is (-2^63) :=
    Binary64.is_ofInt (by omega) (by omega) (by decide)
  have hmax : (Binary64.ofInt (2^63 - 1)).Is (2^63) := by
    rw [show Binary64.ofInt (2^63 - 1) = Binary64.ofInt (2^63) by decide]
    exact Binary64.is_ofInt (by omega) (by omega) (by decide)
  have hlo : x.le (Binary64.ofInt (-2^63)) = true ↔ x.value ≤ -2^63 := by
    rw [Binary64.le_iff_value hnan (Binary64.isNaN_of_isFinite hmin.1), hmin.value_eq]
    norm_num
  have hhi : (Binary64.ofInt (2^63 - 1)).le x = true ↔ 2^63 ≤ x.value := by
    rw [Binary64.le_iff_value (Binary64.isNaN_of_isFinite hmax.1) hnan, hmax.value_eq]
    norm_num
  unfold doubleToInt64 clampInt64
  by_cases h1 : x.value ≤ -2^63
  · rw [if_pos (hlo.mpr h1), if_pos h1]
  rw [if_neg fun h => h1 (hlo.mp h), if_neg h1]
  by_cases h2 : 2^63 ≤ x.value
  · rw [if_pos (hhi.mpr h2), if_pos h2]
  · rw [if_neg fun h => h2 (hhi.mp h), if_neg h2, toInt64_eq,
      if_pos ⟨not_le.mp h1, not_le.mp h2⟩]

/-- From `2^63` on, the machine gives the smallest integer and `doubleToInt64` the largest. -/
theorem toInt64_of_large (hnan : x.isNaN = false) (h : 2^63 ≤ x.value) :
    x.toInt64 = -2^63 ∧ doubleToInt64 x = 2^63 - 1 := by
  have hpos : ¬ x.value ≤ -2^63 := by
    norm_num at h ⊢
    linarith
  rw [toInt64_eq, doubleToInt64_eq hnan, clampInt64, if_neg fun hin => hin.2.not_ge h, if_neg hpos,
    if_pos h]
  exact ⟨rfl, rfl⟩

/-- The two conversions agree below `2^63`. -/
theorem toInt64_eq_doubleToInt64_iff (hnan : x.isNaN = false) :
    x.toInt64 = doubleToInt64 x ↔ x.value < 2^63 := by
  constructor
  · intro h
    by_contra hge
    obtain ⟨hmin, hmax⟩ := toInt64_of_large hnan (not_lt.mp hge)
    rw [hmin, hmax] at h
    norm_num at h
  · intro hlt
    rw [toInt64_eq, doubleToInt64_eq hnan, clampInt64]
    by_cases hle : x.value ≤ -2^63
    · rw [if_neg fun hin => hin.1.not_ge hle, if_pos hle]
    · rw [if_pos ⟨not_le.mp hle, hlt⟩, if_neg hle, if_neg hlt.not_ge]

/-- The method and the routine of `vdbemem.c` read the same integer, unless that is a real from `2^63`
on. -/
theorem intValue_eq_iff {ρ : Type} (L : CLib ρ) {enc : ℕ} {c : Mem} (hc : c.IsValue enc) :
    c.intValue L = c.sqlite3VdbeIntValue L ↔ (c.flags.has MEM_Real = true → c.u_r.value < 2^63) := by
  unfold intValue Mem.sqlite3VdbeIntValue
  by_cases hr : c.flags.has MEM_Real = true
  · have hi : ¬ c.flags.has MEM_Int = true := fun hi => hc.int_real ⟨hi, hr⟩
    rw [if_neg hi, if_neg hi, if_pos hr, if_pos hr, toInt64_eq_doubleToInt64_iff (hc.real hr)]
    exact ⟨fun h _ => h, fun h => h hr⟩
  · rw [if_neg hr, if_neg hr]
    exact ⟨fun _ h => absurd h hr, fun _ => rfl⟩

/-- The same of the words that are stored for the integers. -/
theorem ofInt_intValue_eq_iff {ρ : Type} (L : CLib ρ) {enc : ℕ} {c : Mem} (hc : c.IsValue enc) :
    BitVec.ofInt 64 (c.intValue L) = BitVec.ofInt 64 (c.sqlite3VdbeIntValue L) ↔
      (c.flags.has MEM_Real = true → c.u_r.value < 2^63) := by
  refine ⟨fun h hr => ?_, fun h => congrArg _ ((intValue_eq_iff L hc).mpr h)⟩
  by_contra hge
  have hi : ¬ c.flags.has MEM_Int = true := fun hi => hc.int_real ⟨hi, hr⟩
  obtain ⟨hmin, hmax⟩ := toInt64_of_large (hc.real hr) (not_lt.mp hge)
  unfold intValue Mem.sqlite3VdbeIntValue at h
  rw [if_neg hi, if_neg hi, if_pos hr, if_pos hr, hmin, hmax] at h
  revert h
  decide

end SQPyte
