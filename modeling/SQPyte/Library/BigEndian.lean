import Mathlib.Algebra.Order.Ring.Int
import Mathlib.Data.List.Induction
import Mathlib.Data.Nat.Notation
import Mathlib.Tactic.Common
import Mathlib.Tactic.Positivity
import Mathlib.Tactic.Ring
import Mathlib.Tactic.Zify

/-!
# Big-endian numbers

`toBytes n v` is the big-endian form of `v` in `n` bytes, and `ofBytes` reads it back. As for machine
words, what does not fit is cut off (`ofBytes_toBytes`). `ofSigned` reads the bytes as a
two's-complement number: it gives back every integer that fits (`ofSigned_toBytes`).
-/

namespace BigEndian

/-- The lowest `n` bytes of `v`, the highest first. -/
def toBytes : ℕ → ℕ → List UInt8
  | 0, _ => []
  | n + 1, v => toBytes n (v / 256) ++ [UInt8.ofNat v]

/-- The number with the given bytes, the highest first. -/
def ofBytes (bs : List UInt8) : ℕ := bs.foldl (fun v b => 256 * v + b.toNat) 0

/-- The two's-complement number with the given bytes, the highest first. -/
def ofSigned (bs : List UInt8) : ℤ :=
  if 2 * ofBytes bs < 256 ^ bs.length then ofBytes bs else (ofBytes bs : ℤ) - 256 ^ bs.length

/-- There are `n` bytes. -/
@[simp] theorem length_toBytes (n v : ℕ) : (toBytes n v).length = n := by
  induction n generalizing v with
  | zero => rfl
  | succ n ih => rw [toBytes, List.length_append, ih, List.length_singleton]

/-- No bytes are zero. -/
@[simp] theorem ofBytes_nil : ofBytes [] = 0 := rfl

/-- One byte more is the lowest one. -/
theorem ofBytes_append_singleton (bs : List UInt8) (b : UInt8) :
    ofBytes (bs ++ [b]) = 256 * ofBytes bs + b.toNat := by
  unfold ofBytes
  rw [List.foldl_append]
  rfl

/-- Reading back what was written gives the bytes that fit. -/
theorem ofBytes_toBytes (n v : ℕ) : ofBytes (toBytes n v) = v % 256 ^ n := by
  induction n generalizing v with
  | zero => rw [toBytes, ofBytes_nil, pow_zero, Nat.mod_one]
  | succ n ih =>
    have hsplit : v % 256 ^ (n + 1) = v % 256 + 256 * (v / 256 % 256 ^ n) := by
      rw [pow_succ, Nat.mul_comm, Nat.mod_mul]
    rw [toBytes, ofBytes_append_singleton, ih, UInt8.toNat_ofNat', hsplit]
    omega

/-- The bytes depend on the number modulo the range only. -/
theorem toBytes_mod {n m : ℕ} (h : n ≤ m) (v : ℕ) : toBytes n (v % 256 ^ m) = toBytes n v := by
  induction n generalizing m v with
  | zero => rfl
  | succ n ih =>
    obtain ⟨m, rfl⟩ : ∃ k, m = k + 1 := ⟨m - 1, by omega⟩
    have hdiv : v % 256 ^ (m + 1) / 256 = v / 256 % 256 ^ m := by
      rw [pow_succ, Nat.mul_comm, Nat.mod_mul_right_div_self]
    have hlow : UInt8.ofNat (v % 256 ^ (m + 1)) = UInt8.ofNat v := by
      apply UInt8.toNat_inj.mp
      rw [UInt8.toNat_ofNat', UInt8.toNat_ofNat', pow_succ,
        Nat.mod_mod_of_dvd v (Dvd.intro_left (256 ^ m) rfl)]
    rw [toBytes, toBytes, hdiv, ih (by omega), hlow]

/-- The number fits its bytes. -/
theorem ofBytes_lt (bs : List UInt8) : ofBytes bs < 256 ^ bs.length := by
  induction bs using List.reverseRecOn with
  | nil => decide
  | append_singleton bs b ih =>
    have := b.toNat_lt
    rw [ofBytes_append_singleton, List.length_append, List.length_singleton, pow_succ]
    omega

/-- An integer that fits is read back from its two's-complement form. -/
theorem ofSigned_toBytes (n : ℕ) (v : ℤ) (hlo : -(256 ^ n : ℤ) ≤ 2 * v)
    (hhi : 2 * v < 256 ^ n) : ofSigned (toBytes n (v % 256 ^ n).toNat) = v := by
  have hpos : (0 : ℤ) < 256 ^ n := by positivity
  have hread : (ofBytes (toBytes n (v % 256 ^ n).toNat) : ℤ) = v % 256 ^ n := by
    rw [ofBytes_toBytes, Int.natCast_mod, Int.toNat_of_nonneg (Int.emod_nonneg _ hpos.ne')]
    push_cast
    exact Int.emod_emod_of_dvd v (dvd_refl _)
  unfold ofSigned
  rw [length_toBytes]
  generalize ofBytes (toBytes n (v % 256 ^ n).toNat) = x at hread ⊢
  have hcast : 2 * x < 256 ^ n ↔ 2 * (v % 256 ^ n) < 256 ^ n := by
    rw [← hread]; norm_cast
  rw [if_congr hcast rfl rfl, hread]
  rcases lt_or_ge v 0 with hneg | hnonneg
  · have hmod : v % 256 ^ n = v + 256 ^ n := by
      rw [← Int.add_emod_right, Int.emod_eq_of_lt (by omega) (by omega)]
    rw [hmod, if_neg (by omega)]
    omega
  · rw [Int.emod_eq_of_lt hnonneg (by omega), if_pos hhi]

/-- The bytes of an integer depend on it modulo the range only. -/
theorem toBytes_emod {n m : ℕ} (h : n ≤ m) (v : ℤ) :
    toBytes n (v % 256 ^ m).toNat = toBytes n (v % 256 ^ n).toNat := by
  have hm : (0 : ℤ) < 256 ^ m := by positivity
  have hn : (0 : ℤ) < 256 ^ n := by positivity
  rw [← toBytes_mod (le_refl n) (v % 256 ^ m).toNat]
  congr 1
  zify
  rw [Int.toNat_of_nonneg (Int.emod_nonneg _ hm.ne'), Int.toNat_of_nonneg (Int.emod_nonneg _ hn.ne')]
  exact Int.emod_emod_of_dvd v (pow_dvd_pow 256 h)

example : ofSigned (toBytes 3 ((-2 : ℤ) % 256 ^ 3).toNat) = -2 := by decide

end BigEndian
