import Mathlib.Data.Nat.Log
import Mathlib.Tactic.Common
import Mathlib.Tactic.Ring

/-!
# Varints

A varint holds a 64-bit number in at most nine bytes: groups of seven bits, the highest first, every
byte but the last with its high bit set; in a varint of nine bytes the last byte holds eight bits.
`size v` is the number of bytes that `encode v` takes below `2^56` (`length_encode`), and reading
back what was written gives the number and leaves the bytes after it (`decode_encode`).
-/

namespace Varint

/-- The number of groups of seven bits of `v`. -/
def size (v : ℕ) : ℕ := Nat.log 128 v + 1

/-- The lowest `n` groups of `v`, all with the high bit set. -/
def groups : ℕ → ℕ → List UInt8
  | 0, _ => []
  | n + 1, v => groups n (v / 128) ++ [UInt8.ofNat (128 + v % 128)]

/-- The varint of `v`. -/
def encode (v : ℕ) : List UInt8 :=
  if v < 2^56 then groups (size v - 1) (v / 128) ++ [UInt8.ofNat (v % 128)]
  else groups 8 (v / 256) ++ [UInt8.ofNat v]

/-- Reads a varint of which `acc` is read already, and at most `n` bytes before the last follow: the
number and the bytes after it, or `none` where the bytes end too early. -/
def decodeFrom : ℕ → ℕ → List UInt8 → Option (ℕ × List UInt8)
  | _, _, [] => none
  | 0, acc, b :: bs => some (256 * acc + b.toNat, bs)
  | n + 1, acc, b :: bs =>
    if b.toNat < 128 then some (128 * acc + b.toNat, bs)
    else decodeFrom n (128 * acc + (b.toNat - 128)) bs

/-- Reads a varint. -/
def decode (bs : List UInt8) : Option (ℕ × List UInt8) := decodeFrom 8 0 bs

/-! ## Sizes -/

/-- A number fits its size. -/
theorem lt_pow_size (v : ℕ) : v < 128 ^ size v := Nat.lt_pow_succ_log_self (by decide) v

/-- There is at least one byte. -/
theorem size_pos (v : ℕ) : 0 < size v := Nat.succ_pos _

/-- Below 128 there is one byte. -/
theorem size_eq_one {v : ℕ} (h : v < 128) : size v = 1 := by
  unfold size
  rw [Nat.log_of_lt h]

/-- From 128 on there is one byte more than for the upper bits. -/
theorem size_of_ge {v : ℕ} (h : 128 ≤ v) : size v = size (v / 128) + 1 := by
  unfold size
  rw [Nat.log_of_one_lt_of_le (by decide) h]

/-- The sizes up to `n`. -/
theorem size_le_iff {v n : ℕ} (hn : 0 < n) : size v ≤ n ↔ v < 128 ^ n := by
  unfold size
  rw [Nat.add_one_le_iff]
  rcases Nat.eq_zero_or_pos v with rfl | hv
  · simp [hn]
  · exact Nat.log_lt_iff_lt_pow (by decide) hv.ne'

/-- Larger numbers are not shorter. -/
theorem size_mono {v w : ℕ} (h : v ≤ w) : size v ≤ size w :=
  Nat.add_le_add_right (Nat.log_mono_right h) 1

/-- There are `n` groups. -/
@[simp] theorem length_groups (n v : ℕ) : (groups n v).length = n := by
  induction n generalizing v with
  | zero => rfl
  | succ n ih => rw [groups, List.length_append, ih, List.length_singleton]

/-- The length of a varint. -/
theorem length_encode {v : ℕ} (h : v < 2^56) : (encode v).length = size v := by
  have := size_pos v
  unfold encode
  rw [if_pos h, List.length_append, length_groups, List.length_singleton]
  omega

/-- A varint of one byte. -/
theorem encode_of_lt {v : ℕ} (h : v < 128) : encode v = [UInt8.ofNat v] := by
  unfold encode
  rw [if_pos (by omega), size_eq_one h, Nat.sub_self, groups, List.nil_append, Nat.mod_eq_of_lt h]

/-- The first byte of a varint is the number itself, or else has its high bit set. -/
theorem encode_eq_cons (v : ℕ) : ∃ b bs, encode v = b :: bs ∧
    (v < 128 ∧ b.toNat = v ∨ 128 ≤ v ∧ 128 ≤ b.toNat) := by
  by_cases hv : v < 128
  · refine ⟨_, _, encode_of_lt hv, Or.inl ⟨hv, ?_⟩⟩
    rw [UInt8.toNat_ofNat']
    omega
  · have hgroups : ∀ n w, ∃ b bs, groups (n + 1) w = b :: bs ∧ 128 ≤ b.toNat := by
      intro n
      induction n with
      | zero =>
        intro w
        refine ⟨_, [], rfl, ?_⟩
        rw [UInt8.toNat_ofNat']
        omega
      | succ n ih =>
        intro w
        obtain ⟨b, bs, heq, hb⟩ := ih (w / 128)
        refine ⟨b, bs ++ [UInt8.ofNat (128 + w % 128)], ?_, hb⟩
        rw [groups, heq, List.cons_append]
    unfold encode
    split_ifs with hbig
    · obtain ⟨n, hn⟩ : ∃ n, size v - 1 = n + 1 := by
        have := size_of_ge (show 128 ≤ v by omega)
        have := size_pos (v / 128)
        exact ⟨size v - 2, by omega⟩
      obtain ⟨b, bs, heq, hb⟩ := hgroups n (v / 128)
      refine ⟨b, bs ++ [UInt8.ofNat (v % 128)], ?_, Or.inr ⟨by omega, hb⟩⟩
      rw [hn, heq, List.cons_append]
    · obtain ⟨b, bs, heq, hb⟩ := hgroups 7 (v / 256)
      refine ⟨b, bs ++ [UInt8.ofNat v], ?_, Or.inr ⟨by omega, hb⟩⟩
      rw [heq, List.cons_append]

/-! ## Reading back -/

/-- Groups with the high bit set are collected. -/
theorem decodeFrom_groups (n k acc v : ℕ) (h : v < 128 ^ n) (bs : List UInt8) :
    decodeFrom (n + k) acc (groups n v ++ bs) = decodeFrom k (128 ^ n * acc + v) bs := by
  induction n generalizing k v bs with
  | zero =>
    have hv : v = 0 := by simpa using h
    rw [groups, List.nil_append, pow_zero, one_mul, hv, add_zero, zero_add]
  | succ n ih =>
    have hdiv : v / 128 < 128 ^ n := by
      rw [Nat.div_lt_iff_lt_mul (by decide), ← pow_succ]; exact h
    have hbyte : (UInt8.ofNat (128 + v % 128)).toNat = 128 + v % 128 := by
      rw [UInt8.toNat_ofNat']; omega
    have hsum : 128 * (128 ^ n * acc + v / 128) + v % 128 = 128 ^ (n + 1) * acc + v := by
      have := Nat.div_add_mod v 128
      rw [pow_succ, mul_add]
      calc 128 * (128 ^ n * acc) + 128 * (v / 128) + v % 128
          = 128 * (128 ^ n * acc) + v := by omega
        _ = 128 ^ n * 128 * acc + v := by ring
    rw [groups, List.append_assoc, show n + 1 + k = n + (k + 1) by omega, ih (k + 1) _ hdiv,
      List.singleton_append, decodeFrom, hbyte, if_neg (by omega), Nat.add_sub_cancel_left, hsum]

/-- A varint of a 64-bit number is read back, and the bytes after it are left. -/
theorem decode_encode {v : ℕ} (h : v < 2^64) (bs : List UInt8) :
    decode (encode v ++ bs) = some (v, bs) := by
  have hdm := Nat.div_add_mod v 128
  unfold decode encode
  by_cases hv : v < 2^56
  · -- At most eight groups, of which the last ends the varint.
    have hsize : size v ≤ 8 := (size_le_iff (by decide)).mpr (by omega)
    have hdiv : v / 128 < 128 ^ (size v - 1) := by
      rw [Nat.div_lt_iff_lt_mul (by decide), ← pow_succ, Nat.sub_add_cancel (size_pos v)]
      exact lt_pow_size v
    have hbyte : (UInt8.ofNat (v % 128)).toNat = v % 128 := by
      rw [UInt8.toNat_ofNat']; omega
    have hpos := size_pos v
    obtain ⟨k, hk⟩ : ∃ k, 8 = size v - 1 + (k + 1) := ⟨8 - size v, by omega⟩
    rw [if_pos hv, List.append_assoc, hk, decodeFrom_groups _ _ _ _ hdiv, mul_zero, zero_add,
      List.singleton_append, decodeFrom, hbyte, if_pos (by omega), hdm]
  · have hdiv : v / 256 < 128 ^ 8 := by
      rw [Nat.div_lt_iff_lt_mul (by decide)]; omega
    rw [if_neg hv, List.append_assoc, show 8 = 8 + 0 from rfl, decodeFrom_groups _ _ _ _ hdiv,
      mul_zero, zero_add, List.singleton_append, decodeFrom, UInt8.toNat_ofNat',
      show 256 * (v / 256) + v % 2 ^ 8 = v by omega]

/-- Reading a varint takes at least one byte. -/
theorem length_decodeFrom_lt {n acc v : ℕ} {bs rest : List UInt8}
    (h : decodeFrom n acc bs = some (v, rest)) : rest.length < bs.length := by
  induction bs generalizing n acc with
  | nil => simp [decodeFrom] at h
  | cons b bs ih =>
    cases n with
    | zero =>
      simp only [decodeFrom, Option.some.injEq, Prod.mk.injEq] at h
      rw [← h.2]; exact Nat.lt_succ_self _
    | succ n =>
      rw [decodeFrom] at h
      split_ifs at h with hb
      · simp only [Option.some.injEq, Prod.mk.injEq] at h
        rw [← h.2]; exact Nat.lt_succ_self _
      · exact (ih h).trans (Nat.lt_succ_self _)

/-- To decode a varint takes at least one byte. -/
theorem length_decode_lt {v : ℕ} {bs rest : List UInt8} (h : decode bs = some (v, rest)) :
    rest.length < bs.length := length_decodeFrom_lt h

/-- What is left after a varint is the end of the bytes. -/
theorem decodeFrom_suffix {n acc v : ℕ} {bs rest : List UInt8}
    (h : decodeFrom n acc bs = some (v, rest)) : rest <:+ bs := by
  induction bs generalizing n acc with
  | nil => simp [decodeFrom] at h
  | cons b bs ih =>
    cases n with
    | zero =>
      simp only [decodeFrom, Option.some.injEq, Prod.mk.injEq] at h
      exact h.2 ▸ List.suffix_cons b bs
    | succ n =>
      rw [decodeFrom] at h
      split_ifs at h with hb
      · simp only [Option.some.injEq, Prod.mk.injEq] at h
        exact h.2 ▸ List.suffix_cons b bs
      · exact (ih h).trans (List.suffix_cons b bs)

/-- What is left is the end of what there was. -/
theorem decode_suffix {v : ℕ} {bs rest : List UInt8} (h : decode bs = some (v, rest)) :
    rest <:+ bs := decodeFrom_suffix h

/-! ## Reading on -/

/-- A varint that ends within the bytes does not depend on what comes after them. -/
theorem decodeFrom_append {n acc v : ℕ} {bs rest : List UInt8}
    (h : decodeFrom n acc bs = some (v, rest)) (more : List UInt8) :
    decodeFrom n acc (bs ++ more) = some (v, rest ++ more) := by
  induction bs generalizing n acc with
  | nil => simp [decodeFrom] at h
  | cons b bs ih =>
    cases n with
    | zero =>
      simp only [decodeFrom, Option.some.injEq, Prod.mk.injEq] at h
      rw [List.cons_append, decodeFrom, h.1, h.2]
    | succ n =>
      rw [decodeFrom] at h
      rw [List.cons_append, decodeFrom]
      split_ifs at h ⊢ with hb
      · simp only [Option.some.injEq, Prod.mk.injEq] at h
        rw [h.1, h.2]
      · exact ih h

/-- A varint that does not end within the bytes is read on into what comes after them. -/
theorem length_lt_of_decodeFrom_append {n acc v : ℕ} {bs more rest : List UInt8}
    (hnone : decodeFrom n acc bs = none) (h : decodeFrom n acc (bs ++ more) = some (v, rest)) :
    rest.length < more.length := by
  induction bs generalizing n acc with
  | nil => exact length_decodeFrom_lt h
  | cons b bs ih =>
    cases n with
    | zero => simp [decodeFrom] at hnone
    | succ n =>
      rw [decodeFrom] at hnone
      rw [List.cons_append, decodeFrom] at h
      split_ifs at hnone h with hb
      exact ih hnone h

/-- Nine bytes are enough for a varint. -/
theorem decodeFrom_ne_none {n acc : ℕ} {bs : List UInt8} (h : n < bs.length) :
    decodeFrom n acc bs ≠ none := by
  induction bs generalizing n acc with
  | nil => simp at h
  | cons b bs ih =>
    cases n with
    | zero => simp [decodeFrom]
    | succ n =>
      rw [decodeFrom]
      split_ifs with hb
      · simp
      · exact ih (by simpa using h)

/-- There is a varint in nine bytes. -/
theorem decode_ne_none {bs : List UInt8} (h : 9 ≤ bs.length) : decode bs ≠ none :=
  decodeFrom_ne_none (by omega)

/-- A byte without the high bit ends every varint. -/
theorem decodeFrom_zero_ne_none (n acc : ℕ) (bs more : List UInt8) :
    decodeFrom n acc (bs ++ 0 :: more) ≠ none := by
  induction bs generalizing n acc with
  | nil => cases n <;> simp [decodeFrom]
  | cons b bs ih =>
    cases n with
    | zero => simp [decodeFrom]
    | succ n =>
      rw [List.cons_append, decodeFrom]
      split_ifs with hb
      · simp
      · exact ih n _

example : decode [0x81, 0x00, 0x07] = some (128, [0x07]) := by decide

end Varint
