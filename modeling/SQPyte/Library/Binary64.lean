import Mathlib.Data.Nat.Notation
import Mathlib.Tactic.Common
import Mathlib.Tactic.Ring
import Mathlib.Tactic.Linarith
import Mathlib.Order.Monotone.Basic

/-!
# Binary64 numbers as 64-bit patterns

A double is its bit pattern. Comparison uses the order key of the sign-magnitude form, which is the
IEEE order on everything but NaN. `ofInt` is the conversion from an integer, rounded to nearest with
ties to even, and `toInt64` the truncating conversion to a signed 64-bit integer.

The value of a finite double is an integer multiple of the smallest subnormal, so `scaledMag`
expresses magnitudes in that unit and no rational arithmetic is needed. `scaledMag_strictMono` says
that the magnitude bits are ordered as the values are. `eq_ofInt_toInt64_iff` is what a round trip
through an integer tells about a double: it gives the double back exactly when the double is that
integer.
-/

/-- A double as its 64-bit pattern. -/
abbrev Binary64 := BitVec 64

namespace Binary64

/-- The exponent of the unit in which magnitudes are expressed: the smallest subnormal is
`2^-unitExp`. -/
def unitExp : ℕ := 1074

/-- The 63 magnitude bits. -/
def mag (x : Binary64) : ℕ := x.toNat % 2^63

/-- The pattern is no number. -/
def isNaN (x : Binary64) : Bool := 0x7ff0000000000000 < x.mag

/-- The pattern is neither infinite nor NaN. -/
def isFinite (x : Binary64) : Bool := x.mag < 0x7ff0000000000000

/-- The order key: the magnitude bits with the sign. -/
def key (x : Binary64) : ℤ := if x.msb then -(x.mag : ℤ) else x.mag

/-- `a < b` on doubles. -/
def lt (a b : Binary64) : Bool := !a.isNaN && !b.isNaN && decide (a.key < b.key)

/-- `a == b` on doubles. -/
def feq (a b : Binary64) : Bool := !a.isNaN && !b.isNaN && decide (a.key = b.key)

/-- `a <= b` on doubles. -/
def le (a b : Binary64) : Bool := !a.isNaN && !b.isNaN && decide (a.key ≤ b.key)

/-- The magnitude of a pattern in units of the smallest subnormal. -/
def scaledMag (b : ℕ) : ℕ := if b < 2^52 then b else (2^52 + b % 2^52) * 2^(b / 2^52 - 1)

/-- The value of a finite pattern in units of the smallest subnormal. -/
def scaled (x : Binary64) : ℤ := if x.msb then -(scaledMag x.mag : ℤ) else scaledMag x.mag

/-- The quotient of `n` by `2^s`, rounded to nearest with ties to even. -/
def roundShift (n s : ℕ) : ℕ :=
  if 2^s < 2 * (n % 2^s) ∨ (2 * (n % 2^s) = 2^s ∧ n / 2^s % 2 = 1) then n / 2^s + 1 else n / 2^s

/-- The 53-bit significand of a positive natural number. -/
def significand (n : ℕ) : ℕ :=
  if n.log2 ≤ 52 then n * 2^(52 - n.log2) else roundShift n (n.log2 - 52)

/-- The magnitude bits of a natural number. A significand that rounds up to `2^53` carries into
the exponent. -/
def ofNatMag (n : ℕ) : ℕ := if n = 0 then 0 else (n.log2 + 1022) * 2^52 + significand n

/-- `(double)n`, for an integer of at most 64 bits. -/
def ofInt (n : ℤ) : Binary64 :=
  BitVec.ofNat 64 ((if n < 0 then 2^63 else 0) + ofNatMag n.natAbs)

/-- The integer part of a finite double, rounded towards zero. -/
def trunc (x : Binary64) : ℤ :=
  if x.msb then -((scaledMag x.mag / 2^unitExp : ℕ) : ℤ) else (scaledMag x.mag / 2^unitExp : ℕ)

/-- `(i64)x`. A value out of range, and a NaN, gives the smallest integer, as the conversion
instruction does. -/
def toInt64 (x : Binary64) : ℤ :=
  if -2^63 ≤ x.trunc ∧ x.trunc < 2^63 then x.trunc else -2^63

/-- The double is the integer `v`. -/
def Is (x : Binary64) (v : ℤ) : Prop := x.isFinite = true ∧ x.scaled = v * 2^unitExp

/-! ## Order -/

/-- The comparison is that of the keys. -/
theorem lt_iff {a b : Binary64} (ha : a.isNaN = false) (hb : b.isNaN = false) :
    a.lt b = true ↔ a.key < b.key := by
  simp [lt, ha, hb]

/-- Of two numbers only one is less. -/
theorem lt_asymm {a b : Binary64} (h : a.lt b = true) : b.lt a = false := by
  simp only [lt, Bool.and_eq_true, Bool.not_eq_eq_eq_not, Bool.not_true, decide_eq_true_eq] at h
  simp only [lt, h.1.1, h.1.2, Bool.not_false, Bool.and_self, Bool.true_and, decide_eq_false_iff_not]
  omega

/-- For numbers, at most is not more. -/
theorem le_iff_not_lt {a b : Binary64} (ha : a.isNaN = false) (hb : b.isNaN = false) :
    a.le b = true ↔ b.lt a = false := by
  simp [le, lt, ha, hb]

/-- Numbers are equal if neither is less. -/
theorem feq_iff {a b : Binary64} (ha : a.isNaN = false) (hb : b.isNaN = false) :
    a.feq b = true ↔ a.lt b = false ∧ b.lt a = false := by
  simp only [feq, lt, ha, hb, Bool.not_false, Bool.and_self, Bool.true_and, decide_eq_true_eq,
    decide_eq_false_iff_not]
  omega

/-! ## Magnitudes -/

/-- A magnitude has 63 bits. -/
theorem mag_lt (x : Binary64) : x.mag < 2^63 := Nat.mod_lt _ (by decide)

/-- A pattern with exponent field `E + 1`, or with a significand that carried, is `m * 2^E`. -/
theorem scaledMag_add (E m : ℕ) (hlo : 2^52 ≤ m) (hhi : m ≤ 2^53) :
    scaledMag (E * 2^52 + m) = m * 2^E := by
  unfold scaledMag
  rw [if_neg (by omega)]
  rcases Nat.lt_or_ge m (2^53) with hm | hm
  · have hdiv : (E * 2^52 + m) / 2^52 = E + 1 := by omega
    have hmod : (E * 2^52 + m) % 2^52 = m - 2^52 := by omega
    rw [hdiv, hmod, Nat.add_sub_cancel, Nat.add_sub_cancel' hlo]
  · have hm' : m = 2^53 := by omega
    have hdiv : (E * 2^52 + m) / 2^52 = E + 2 := by omega
    have hmod : (E * 2^52 + m) % 2^52 = 0 := by omega
    rw [hdiv, hmod, hm', show E + 2 - 1 = E + 1 by omega, Nat.pow_succ]
    ring

/-- The next magnitude is larger. -/
theorem scaledMag_lt_succ (b : ℕ) : scaledMag b < scaledMag (b + 1) := by
  rcases Nat.lt_or_ge (b + 1) (2^52) with h | h
  · unfold scaledMag; rw [if_pos h, if_pos (by omega)]; omega
  rcases Nat.eq_or_lt_of_le h with h | h
  · obtain rfl : b = 2^52 - 1 := by omega
    decide
  · -- From `2^52` on, both patterns have the exponent field of `b`, up to the carry.
    obtain ⟨E, r, hb, hr⟩ : ∃ E r, b = E * 2^52 + (2^52 + r) ∧ r < 2^52 :=
      ⟨b / 2^52 - 1, b % 2^52, by omega, Nat.mod_lt _ (by decide)⟩
    rw [hb, scaledMag_add E _ (by omega) (by omega), Nat.add_assoc,
      scaledMag_add E _ (by omega) (by omega)]
    exact Nat.mul_lt_mul_of_pos_right (by omega) (Nat.two_pow_pos E)

/-- Larger magnitudes are larger numbers. -/
theorem scaledMag_strictMono : StrictMono scaledMag := strictMono_nat_of_lt_succ scaledMag_lt_succ

/-- Equal keys are equal values. -/
theorem scaled_eq_of_key_eq {x y : Binary64} (h : x.key = y.key) : x.scaled = y.scaled := by
  have h0 : scaledMag 0 = 0 := by decide
  unfold key at h
  unfold scaled
  have hz : (x.mag = y.mag ∧ x.msb = y.msb) ∨ (x.mag = 0 ∧ y.mag = 0) := by
    split_ifs at h with hx hy hy <;> simp_all
  rcases hz with ⟨hm, hs⟩ | ⟨hx, hy⟩
  · rw [hm, hs]
  · rw [hx, hy, h0]; simp

/-- Equal values are equal keys. -/
theorem key_eq_of_scaled_eq {x y : Binary64} (h : x.scaled = y.scaled) : x.key = y.key := by
  have h0 : scaledMag 0 = 0 := by decide
  have hpos : ∀ b, scaledMag b = 0 → b = 0 := fun b hb =>
    scaledMag_strictMono.injective (hb.trans h0.symm)
  have hinj : ∀ a b, scaledMag a = scaledMag b → a = b := fun a b hab =>
    scaledMag_strictMono.injective hab
  unfold scaled at h
  unfold key
  split_ifs at h ⊢ with hx hy hy
  · have := hinj x.mag y.mag (by omega); omega
  · have hx0 := hpos x.mag (by omega); have hy0 := hpos y.mag (by omega); omega
  · have hx0 := hpos x.mag (by omega); have hy0 := hpos y.mag (by omega); omega
  · have := hinj x.mag y.mag (by omega); omega

/-- Keys are ordered as the values are. -/
theorem key_lt_of_scaled_lt {x y : Binary64} (h : x.scaled < y.scaled) : x.key < y.key := by
  have hmono : ∀ a b, scaledMag a < scaledMag b → a < b := fun a b hab =>
    scaledMag_strictMono.lt_iff_lt.mp hab
  have hpos : ∀ b, 0 < scaledMag b → 0 < b := fun b hb => hmono 0 b hb
  unfold scaled at h
  unfold key
  split_ifs at h ⊢ with hx hy hy
  · have := hmono y.mag x.mag (by omega); omega
  · rcases Nat.eq_zero_or_pos (scaledMag x.mag) with h0 | h0
    · have := hpos y.mag (by omega); omega
    · have := hpos x.mag h0; omega
  · omega
  · have := hmono x.mag y.mag (by omega); omega

/-! ## Conversion from an integer -/

/-- The leading bit is part of the number. -/
theorem pow_log2_le {n : ℕ} (hn : n ≠ 0) : 2^n.log2 ≤ n := Nat.log2_self_le hn

/-- There is no bit above the leading one. -/
theorem lt_pow_log2_succ (n : ℕ) : n < 2^(n.log2 + 1) := Nat.lt_log2_self

/-- Rounding gives the number below or the one above. -/
theorem roundShift_bounds (n s : ℕ) : n / 2^s ≤ roundShift n s ∧ roundShift n s ≤ n / 2^s + 1 := by
  unfold roundShift
  split_ifs <;> omega

/-- A shift that drops only zeros does not round. -/
theorem roundShift_of_dvd {n s : ℕ} (h : 2^s ∣ n) : roundShift n s = n / 2^s := by
  unfold roundShift
  have hpos := Nat.two_pow_pos s
  rw [Nat.mod_eq_zero_of_dvd h, if_neg (by omega)]

/-- A significand has 53 bits, or has been rounded up to the next power of two. -/
theorem significand_bounds {n : ℕ} (hn : n ≠ 0) :
    2^52 ≤ significand n ∧ significand n ≤ 2^53 := by
  have hlo := pow_log2_le hn
  have hhi := lt_pow_log2_succ n
  unfold significand
  split_ifs with h
  · have hsplit : 2^n.log2 * 2^(52 - n.log2) = 2^52 := by
      rw [← Nat.pow_add]; congr 1; omega
    have hsplit' : 2^(n.log2 + 1) * 2^(52 - n.log2) = 2^53 := by
      rw [← Nat.pow_add]; congr 1; omega
    constructor
    · calc 2^52 = 2^n.log2 * 2^(52 - n.log2) := hsplit.symm
        _ ≤ n * 2^(52 - n.log2) := Nat.mul_le_mul_right _ hlo
    · calc n * 2^(52 - n.log2) ≤ 2^(n.log2 + 1) * 2^(52 - n.log2) :=
            Nat.mul_le_mul_right _ hhi.le
        _ = 2^53 := hsplit'
  · have hb := roundShift_bounds n (n.log2 - 52)
    have hpos := Nat.two_pow_pos (n.log2 - 52)
    have hq : 2^52 ≤ n / 2^(n.log2 - 52) := by
      rw [Nat.le_div_iff_mul_le hpos, ← Nat.pow_add]
      rwa [show 52 + (n.log2 - 52) = n.log2 by omega]
    have hq' : n / 2^(n.log2 - 52) < 2^53 := by
      rw [Nat.div_lt_iff_lt_mul hpos, ← Nat.pow_add]
      rwa [show 53 + (n.log2 - 52) = n.log2 + 1 by omega]
    omega

/-- The value of a natural number that was rounded. -/
theorem scaledMag_ofNatMag {n : ℕ} (hn : n ≠ 0) :
    scaledMag (ofNatMag n) = significand n * 2^(n.log2 + 1022) := by
  obtain ⟨hlo, hhi⟩ := significand_bounds hn
  unfold ofNatMag
  rw [if_neg hn, scaledMag_add _ _ hlo hhi]

/-- Only zero becomes zero. -/
theorem ofNatMag_ne_zero {n : ℕ} (hn : n ≠ 0) : ofNatMag n ≠ 0 := by
  intro h
  have hmag := scaledMag_ofNatMag hn
  rw [h, show scaledMag 0 = 0 by simp [scaledMag]] at hmag
  have hsig := (significand_bounds hn).1
  exact absurd hmag (Nat.mul_pos (by omega) (Nat.two_pow_pos _)).ne

/-- The conversion gives an integer, whether it rounds or not. -/
theorem dvd_scaledMag_ofNatMag (n : ℕ) : 2^unitExp ∣ scaledMag (ofNatMag n) := by
  rcases Nat.eq_zero_or_pos n with rfl | hn
  · simp [ofNatMag, scaledMag]
  rw [scaledMag_ofNatMag hn.ne']
  rcases Nat.lt_or_ge 52 n.log2 with h | h
  · have hle : unitExp ≤ n.log2 + 1022 := by unfold unitExp; omega
    exact (Nat.pow_dvd_pow 2 hle).mul_left _
  · have hle : unitExp ≤ 52 - n.log2 + (n.log2 + 1022) := by unfold unitExp; omega
    unfold significand
    rw [if_pos h, Nat.mul_assoc, ← Nat.pow_add]
    exact (Nat.pow_dvd_pow 2 hle).mul_left _

/-- An integer of at most 53 significant bits converts exactly. -/
theorem scaledMag_ofNatMag_exact {n : ℕ} (h : 2^(n.log2 - 52) ∣ n) :
    scaledMag (ofNatMag n) = n * 2^unitExp := by
  rcases Nat.eq_zero_or_pos n with rfl | hn
  · simp [ofNatMag, scaledMag]
  rw [scaledMag_ofNatMag hn.ne']
  unfold significand
  split_ifs with hL
  · have hexp : 52 - n.log2 + (n.log2 + 1022) = unitExp := by unfold unitExp; omega
    rw [Nat.mul_assoc, ← Nat.pow_add, hexp]
  · obtain ⟨q, hq⟩ := h
    have hpos := Nat.two_pow_pos (n.log2 - 52)
    rw [roundShift_of_dvd ⟨q, hq⟩]
    have hdiv : n / 2^(n.log2 - 52) * 2^(n.log2 - 52) = n := Nat.div_mul_cancel ⟨q, hq⟩
    have hexp : n.log2 + 1022 = n.log2 - 52 + unitExp := by unfold unitExp; omega
    calc n / 2^(n.log2 - 52) * 2^(n.log2 + 1022)
        = n / 2^(n.log2 - 52) * 2^(n.log2 - 52) * 2^unitExp := by
          rw [hexp, Nat.pow_add, Nat.mul_assoc]
      _ = n * 2^unitExp := by rw [hdiv]

/-- Numbers up to 2^63 stay finite. -/
theorem ofNatMag_lt {n : ℕ} (h : n ≤ 2^63) : ofNatMag n < 0x7ff0000000000000 := by
  rcases Nat.eq_zero_or_pos n with rfl | hn
  · decide
  obtain ⟨_, hhi⟩ := significand_bounds hn.ne'
  have hL : n.log2 < 64 := by
    rw [Nat.log2_lt hn.ne']; omega
  unfold ofNatMag
  rw [if_neg hn.ne']
  omega

section ofInt

variable {v : ℤ} (hlo : -2^63 ≤ v) (hhi : v ≤ 2^63)

include hlo hhi

/-- The bits of an integer: a sign and a magnitude. -/
theorem toNat_ofInt :
    (ofInt v).toNat = (if v < 0 then 2^63 else 0) + ofNatMag v.natAbs := by
  have := ofNatMag_lt (n := v.natAbs) (by omega)
  unfold ofInt
  rw [BitVec.toNat_ofNat]
  apply Nat.mod_eq_of_lt
  split_ifs <;> omega

/-- Its magnitude. -/
theorem mag_ofInt : (ofInt v).mag = ofNatMag v.natAbs := by
  have := ofNatMag_lt (n := v.natAbs) (by omega)
  unfold mag
  rw [toNat_ofInt hlo hhi]
  split_ifs <;> omega

/-- Its sign. -/
theorem msb_ofInt : (ofInt v).msb = decide (v < 0) := by
  have := ofNatMag_lt (n := v.natAbs) (by omega)
  rw [BitVec.msb_eq_decide, toNat_ofInt hlo hhi]
  split_ifs with h
  · simp [h]
  · simp only [h, decide_false, decide_eq_false_iff_not]; omega

/-- It is finite. -/
theorem isFinite_ofInt : (ofInt v).isFinite = true := by
  have := ofNatMag_lt (n := v.natAbs) (by omega)
  unfold isFinite
  rw [mag_ofInt hlo hhi]
  exact decide_eq_true this

/-- Its value. -/
theorem scaled_ofInt :
    (ofInt v).scaled = if v < 0 then -(scaledMag (ofNatMag v.natAbs) : ℤ)
      else scaledMag (ofNatMag v.natAbs) := by
  unfold scaled
  rw [mag_ofInt hlo hhi, msb_ofInt hlo hhi]
  simp only [decide_eq_true_eq]

/-- An integer of at most 53 significant bits converts to a double that is this integer. -/
theorem is_ofInt (h : 2^(v.natAbs.log2 - 52) ∣ v.natAbs) : (ofInt v).Is v := by
  refine ⟨isFinite_ofInt hlo hhi, ?_⟩
  rw [scaled_ofInt hlo hhi, scaledMag_ofNatMag_exact h]
  push_cast
  split_ifs with hv
  · rw [abs_of_neg hv]; ring
  · rw [abs_of_nonneg (by omega)]

/-- Whatever an integer converts to is an integer. -/
theorem dvd_scaled_ofInt : (2^unitExp : ℤ) ∣ (ofInt v).scaled := by
  have h : (2^unitExp : ℤ) ∣ (scaledMag (ofNatMag v.natAbs) : ℤ) := by
    exact_mod_cast dvd_scaledMag_ofNatMag v.natAbs
  rw [scaled_ofInt hlo hhi]
  split_ifs
  · exact Int.dvd_neg.mpr h
  · exact h

end ofInt

/-! ## Conversion to an integer and back -/

/-- The unit is positive. -/
theorem two_pow_unitExp_pos : (0 : ℤ) < 2^unitExp := by positivity

/-- A finite number is a number. -/
theorem isNaN_of_isFinite {x : Binary64} (h : x.isFinite = true) : x.isNaN = false := by
  simp only [isFinite, isNaN, decide_eq_true_eq, decide_eq_false_iff_not] at h ⊢
  omega

/-- The integer a double is, is its truncation. -/
theorem Is.trunc_eq {x : Binary64} {v : ℤ} (h : x.Is v) : x.trunc = v := by
  have hpos : 0 < 2^unitExp := Nat.two_pow_pos unitExp
  obtain ⟨-, hs⟩ := h
  have hmul : (scaledMag x.mag : ℤ) = (if x.msb then -v else v) * 2^unitExp := by
    unfold scaled at hs
    split_ifs at hs ⊢ <;> linarith
  have hnat : 0 ≤ (if x.msb then -v else v) := by
    by_contra hneg
    have : (if x.msb then -v else v) * 2^unitExp < 0 :=
      mul_neg_of_neg_of_pos (by omega) two_pow_unitExp_pos
    omega
  obtain ⟨n, hn⟩ := Int.eq_ofNat_of_zero_le hnat
  rw [hn] at hmul
  have hdiv : scaledMag x.mag / 2^unitExp = n := by
    rw [show scaledMag x.mag = n * 2^unitExp by exact_mod_cast hmul]
    exact Nat.mul_div_cancel n hpos
  unfold trunc
  rw [hdiv]
  split_ifs at hn ⊢ <;> omega

/-- A double that is an integer has at most 53 significant bits. -/
theorem Is.dvd {x : Binary64} {v : ℤ} (h : x.Is v) : 2^(v.natAbs.log2 - 52) ∣ v.natAbs := by
  have hmag : scaledMag x.mag = v.natAbs * 2^unitExp := by
    have habs := congrArg Int.natAbs h.2
    rw [Int.natAbs_mul, Int.natAbs_pow] at habs
    rw [← show (2 : ℤ).natAbs = 2 from rfl, ← habs]
    unfold scaled
    split_ifs <;> simp
  obtain ⟨s, p, hs, hsp⟩ : ∃ s p, s < 2^53 ∧ scaledMag x.mag = s * 2^p := by
    unfold scaledMag
    split_ifs with hb
    · exact ⟨x.mag, 0, by omega, by simp⟩
    · exact ⟨_, _, by have := Nat.mod_lt x.mag (show 0 < 2^52 by decide); omega, rfl⟩
  rcases Nat.eq_zero_or_pos v.natAbs with hv | hv
  · rw [hv]; simp
  rcases Nat.lt_or_ge p unitExp with hp | hp
  · -- The unit lies above the last bit of the significand, so the integer is below `2^53`.
    have hle : v.natAbs ≤ s := by
      have heq : v.natAbs * 2^(unitExp - p) = s := by
        apply Nat.eq_of_mul_eq_mul_right (Nat.two_pow_pos p)
        rw [← hsp, hmag, Nat.mul_assoc, ← Nat.pow_add]
        congr 2; omega
      rw [← heq]
      exact Nat.le_mul_of_pos_right _ (Nat.two_pow_pos _)
    have hlog : v.natAbs.log2 < 53 := (Nat.log2_lt hv.ne').mpr (by omega)
    rw [show v.natAbs.log2 - 52 = 0 by omega]
    simp
  · -- Otherwise the integer is the significand with zeros behind it.
    have heq : v.natAbs = s * 2^(p - unitExp) := by
      apply Nat.eq_of_mul_eq_mul_right (Nat.two_pow_pos unitExp)
      rw [← hmag, hsp, Nat.mul_assoc, ← Nat.pow_add]
      congr 2; omega
    have hlog : v.natAbs.log2 < 53 + (p - unitExp) := by
      rw [Nat.log2_lt hv.ne', Nat.pow_add, heq]
      exact Nat.mul_lt_mul_of_pos_right hs (Nat.two_pow_pos _)
    have hpow : v.natAbs.log2 - 52 ≤ p - unitExp := by omega
    exact (Nat.pow_dvd_pow 2 hpow).trans ⟨s, by rw [Nat.mul_comm]; exact heq⟩

/-- A double equals the conversion of `v` and `v` is its truncation exactly when it is `v`. -/
theorem feq_ofInt_iff {x : Binary64} {v : ℤ} (hlo : -2^63 ≤ v) (hhi : v ≤ 2^63) :
    (x.feq (ofInt v) = true ∧ x.trunc = v) ↔ x.Is v := by
  have hfin := isFinite_ofInt hlo hhi
  constructor
  · rintro ⟨heq, htr⟩
    simp only [feq, Bool.and_eq_true, Bool.not_eq_eq_eq_not, Bool.not_true, decide_eq_true_eq] at heq
    obtain ⟨⟨hx, -⟩, hkey⟩ := heq
    have hsc := scaled_eq_of_key_eq hkey
    have hxfin : x.isFinite = true := by
      have hmag : x.mag = (ofInt v).mag := by
        unfold key at hkey
        split_ifs at hkey <;> omega
      simpa only [isFinite, hmag] using hfin
    obtain ⟨w, hw⟩ := dvd_scaled_ofInt hlo hhi
    have his : x.Is w := ⟨hxfin, by rw [hsc, hw]; ring⟩
    rwa [← his.trunc_eq, htr] at his
  · intro h
    refine ⟨?_, h.trunc_eq⟩
    have hkey := key_eq_of_scaled_eq (h.2.trans (is_ofInt hlo hhi h.dvd).2.symm)
    simp [feq, isNaN_of_isFinite h.1, isNaN_of_isFinite hfin, hkey]

/-- The round trip of a double through a 64-bit integer, away from the two extreme integers, gives
the double back exactly when the double is an integer strictly inside the range. -/
theorem feq_ofInt_toInt64_iff (x : Binary64) (v : ℤ) :
    (x.toInt64 = v ∧ x.feq (ofInt x.toInt64) = true ∧ x.toInt64 < 2^63 - 1 ∧ -2^63 < x.toInt64) ↔
      x.Is v ∧ v < 2^63 - 1 ∧ -2^63 < v := by
  constructor
  · rintro ⟨rfl, heq, hhi, hlo⟩
    refine ⟨?_, hhi, hlo⟩
    have htr : x.trunc = x.toInt64 := by
      unfold toInt64 at hlo ⊢
      split_ifs at hlo ⊢
      · rfl
      · omega
    exact (feq_ofInt_iff (by omega) (by omega)).mp ⟨heq, htr⟩
  · rintro ⟨his, hhi, hlo⟩
    have hto : x.toInt64 = v := by
      unfold toInt64
      rw [his.trunc_eq, if_pos (by omega)]
    rw [hto]
    exact ⟨rfl, ((feq_ofInt_iff (by omega) (by omega)).mpr his).1, hhi, hlo⟩

end Binary64
