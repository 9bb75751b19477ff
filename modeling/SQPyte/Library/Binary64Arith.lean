import SQPyte.Library.Binary64

/-!
# Arithmetic of Binary64 numbers

The exact result is a ratio of natural numbers in units of the smallest subnormal, and `roundMag`
rounds it once, to nearest with ties to even. The magnitude bits of `m * 2^s` with a full significand
`m` are `s * 2^52 + m`, and those of a subnormal are the number itself, so one formula serves both
and a significand that rounds up to `2^53` carries into the exponent.
-/

namespace Binary64

/-- The quotient of `n` by `d`, rounded to nearest with ties to even. -/
def roundDiv (n d : ℕ) : ℕ :=
  if d < 2 * (n % d) ∨ (2 * (n % d) = d ∧ n / d % 2 = 1) then n / d + 1 else n / d

/-- The magnitude bits of infinity. -/
def infMag : ℕ := 0x7ff0000000000000

/-- The magnitude bits of `num / den` units of the smallest subnormal. -/
def roundMag (num den : ℕ) : ℕ :=
  let s := (num / den).log2 - 52
  min (s * 2^52 + roundDiv num (den * 2^s)) infMag

/-- The pattern with the given sign and magnitude bits. -/
def ofSignMag (neg : Bool) (mag : ℕ) : Binary64 := BitVec.ofNat 64 ((if neg then 2^63 else 0) + mag)

/-- The infinity with the given sign. -/
def inf (neg : Bool) : Binary64 := ofSignMag neg infMag

/-- The NaN that an invalid operation gives. -/
def nan : Binary64 := 0x7ff8000000000000#64

/-- The pattern is infinite. -/
def isInf (x : Binary64) : Bool := x.mag == infMag

/-- `x + y` on doubles. -/
def add (x y : Binary64) : Binary64 :=
  if x.isNaN || y.isNaN then nan
  else if x.isInf then (if y.isInf && x.msb != y.msb then nan else x)
  else if y.isInf then y
  else
    let sum := x.scaled + y.scaled
    if sum = 0 then ofSignMag (x.msb && y.msb) 0
    else ofSignMag (decide (sum < 0)) (roundMag sum.natAbs 1)

/-- `-x` on doubles. -/
def neg (x : Binary64) : Binary64 := ofSignMag (!x.msb) x.mag

/-- `x - y` on doubles. -/
def sub (x y : Binary64) : Binary64 := x.add y.neg

/-- `x * y` on doubles. -/
def mul (x y : Binary64) : Binary64 :=
  let neg := x.msb != y.msb
  if x.isNaN || y.isNaN then nan
  else if x.isInf || y.isInf then (if x.mag = 0 || y.mag = 0 then nan else ofSignMag neg infMag)
  else ofSignMag neg (roundMag (scaledMag x.mag * scaledMag y.mag) (2^unitExp))

/-- `x / y` on doubles. -/
def div (x y : Binary64) : Binary64 :=
  let neg := x.msb != y.msb
  if x.isNaN || y.isNaN then nan
  else if x.isInf then (if y.isInf then nan else ofSignMag neg infMag)
  else if y.isInf then ofSignMag neg 0
  else if y.mag = 0 then (if x.mag = 0 then nan else ofSignMag neg infMag)
  else ofSignMag neg (roundMag (scaledMag x.mag * 2^unitExp) (scaledMag y.mag))

/-! ## NaN -/

/-- A magnitude up to infinity is a number. -/
theorem isNaN_ofSignMag (neg : Bool) {mag : ℕ} (h : mag ≤ infMag) :
    (ofSignMag neg mag).isNaN = false := by
  unfold ofSignMag isNaN Binary64.mag
  unfold infMag at h
  rw [BitVec.toNat_ofNat]
  simp only [decide_eq_false_iff_not]
  cases neg
  · simp only [Bool.false_eq_true, ↓reduceIte]
    omega
  · simp only [↓reduceIte]
    omega

/-- Rounding gives infinity at most. -/
theorem roundMag_le (num den : ℕ) : roundMag num den ≤ infMag := Nat.min_le_right _ _

/-- A finite number is not infinite. -/
theorem isInf_of_isFinite {x : Binary64} (h : x.isFinite = true) : x.isInf = false := by
  unfold isFinite at h
  unfold isInf infMag
  simp only [decide_eq_true_eq] at h
  simp only [beq_eq_false_iff_ne]
  omega

/-- The magnitude of a sign and a magnitude. -/
theorem mag_ofSignMag (neg : Bool) {m : ℕ} (h : m < 2^63) : (ofSignMag neg m).mag = m := by
  unfold ofSignMag mag
  rw [BitVec.toNat_ofNat]
  split_ifs <;> omega

/-- The negative of a finite number is finite. -/
theorem isFinite_neg (x : Binary64) : x.neg.isFinite = x.isFinite := by
  unfold isFinite neg
  rw [mag_ofSignMag _ (mag_lt x)]

/-- A sum of finite numbers is a number. -/
theorem isNaN_add {x y : Binary64} (hx : x.isFinite = true) (hy : y.isFinite = true) :
    (x.add y).isNaN = false := by
  unfold add
  dsimp only
  rw [isNaN_of_isFinite hx, isNaN_of_isFinite hy, isInf_of_isFinite hx, isInf_of_isFinite hy]
  simp only [Bool.or_self, Bool.false_eq_true, ↓reduceIte]
  split_ifs
  · exact isNaN_ofSignMag _ (Nat.zero_le _)
  · exact isNaN_ofSignMag _ (roundMag_le _ _)

/-- A difference of finite numbers is a number. -/
theorem isNaN_sub {x y : Binary64} (hx : x.isFinite = true) (hy : y.isFinite = true) :
    (x.sub y).isNaN = false := isNaN_add hx ((isFinite_neg y).trans hy)

/-- A product of finite numbers is a number. -/
theorem isNaN_mul {x y : Binary64} (hx : x.isFinite = true) (hy : y.isFinite = true) :
    (x.mul y).isNaN = false := by
  unfold mul
  dsimp only
  rw [isNaN_of_isFinite hx, isNaN_of_isFinite hy, isInf_of_isFinite hx, isInf_of_isFinite hy]
  simp only [Bool.or_self, Bool.false_eq_true, ↓reduceIte]
  exact isNaN_ofSignMag _ (roundMag_le _ _)

/-- A quotient by a finite number other than zero is NaN only if the dividend is. -/
theorem isNaN_div {x y : Binary64} (hy : y.isFinite = true) (h0 : y.mag ≠ 0) :
    (x.div y).isNaN = x.isNaN := by
  have hyn := isNaN_of_isFinite hy
  have hyi := isInf_of_isFinite hy
  unfold div
  dsimp only
  rw [hyn, hyi, Bool.or_false]
  cases hx : x.isNaN with
  | true =>
    rw [if_pos rfl]
    decide
  | false =>
    simp only [Bool.false_eq_true, ↓reduceIte, h0]
    split_ifs
    · exact isNaN_ofSignMag _ le_rfl
    · exact isNaN_ofSignMag _ (roundMag_le _ _)

end Binary64
