import SQPyte.Mem.Routines

/-!
# The values cells hold

A cell that `IsValue` holds an SQL value: NULL, an integer, a real that is no NaN, a text in the
encoding of the database, or a blob. These are the conditions `sqlite3VdbeCheckMemInvariants` and
the accesses to registers assume; a number may have a text next to it.
-/

namespace SQPyte

/-- The classes of values, in their sort order. -/
inductive StorageClass where
  /-- NULL. -/
  | null
  /-- An integer or a real. -/
  | number
  /-- A text. -/
  | text
  /-- A blob. -/
  | blob
deriving DecidableEq, Repr

/-- The place of a class in the sort order. -/
def StorageClass.rank : StorageClass → ℕ
  | .null => 0
  | .number => 1
  | .text => 2
  | .blob => 3

namespace Mem

/-- The class of the value of a cell. -/
def storageClass (c : Mem) : StorageClass :=
  if c.flags.has MEM_Null then .null
  else if c.flags.has MEM_Int || c.flags.has MEM_Real then .number
  else if c.flags.has MEM_Str then .text
  else .blob

/-- The cell holds an SQL value. -/
structure IsValue (enc : ℕ) (c : Mem) : Prop where
  /-- A NULL has no other representation. -/
  null : c.flags.has MEM_Null = true → c.flags.has MEM_Int = false ∧ c.flags.has MEM_Real = false ∧
    c.flags.has MEM_Str = false ∧ c.flags.has MEM_Blob = false
  /-- There is a representation. -/
  nonempty : (c.flags.has MEM_Null || c.flags.has MEM_Int || c.flags.has MEM_Real ||
    c.flags.has MEM_Str || c.flags.has MEM_Blob) = true
  /-- No integer is a real at the same time. -/
  int_real : ¬ (c.flags.has MEM_Int = true ∧ c.flags.has MEM_Real = true)
  /-- A blob has no other representation. -/
  blob : c.flags.has MEM_Blob = true → c.flags.has MEM_Int = false ∧ c.flags.has MEM_Real = false ∧
    c.flags.has MEM_Str = false
  /-- A real is a number. -/
  real : c.flags.has MEM_Real = true → c.u_r.isNaN = false
  /-- The cell is no row set, frame, aggregate context or undefined. -/
  plain : c.flags.has MEM_RowSet = false ∧ c.flags.has MEM_Frame = false ∧
    c.flags.has MEM_Agg = false ∧ c.flags.has MEM_Undefined = false
  /-- Only a blob has implied zeros, and not a negative number of them. -/
  zero : c.flags.has MEM_Zero = true → c.flags.has MEM_Blob = true ∧ 0 ≤ c.u_nZero
  /-- The text or blob is stored. -/
  stored : (c.flags.has MEM_Str || c.flags.has MEM_Blob) = true →
    0 ≤ c.n ∧ c.n.toNat ≤ c.buffer.length
  /-- A text is in the encoding of the database. -/
  enc_eq : c.flags.has MEM_Str = true → c.enc = enc
  /-- The cell's own allocation has the size recorded. -/
  alloc : c.szMalloc = c.zMalloc.length

/-- A text or blob has the length that the cell says. -/
theorem IsValue.length_bytes {enc : ℕ} {c : Mem} (h : c.IsValue enc)
    (hs : (c.flags.has MEM_Str || c.flags.has MEM_Blob) = true) : (c.bytes.length : ℤ) = c.n := by
  have := h.stored hs
  unfold bytes
  rw [List.length_take]
  omega

/-- The class of NULL. -/
theorem storageClass_eq_null {c : Mem} : c.storageClass = .null ↔ c.flags.has MEM_Null = true := by
  unfold storageClass
  cases c.flags.has MEM_Null <;> cases c.flags.has MEM_Int <;> cases c.flags.has MEM_Real <;>
    cases c.flags.has MEM_Str <;> simp

/-- The class of numbers. -/
theorem storageClass_eq_number {c : Mem} : c.storageClass = .number ↔
    c.flags.has MEM_Null = false ∧
      (c.flags.has MEM_Int = true ∨ c.flags.has MEM_Real = true) := by
  unfold storageClass
  cases c.flags.has MEM_Null <;> cases c.flags.has MEM_Int <;> cases c.flags.has MEM_Real <;>
    cases c.flags.has MEM_Str <;> simp

/-- The class of texts. -/
theorem storageClass_eq_text {c : Mem} : c.storageClass = .text ↔
    c.flags.has MEM_Null = false ∧ c.flags.has MEM_Int = false ∧ c.flags.has MEM_Real = false ∧
      c.flags.has MEM_Str = true := by
  unfold storageClass
  cases c.flags.has MEM_Null <;> cases c.flags.has MEM_Int <;> cases c.flags.has MEM_Real <;>
    cases c.flags.has MEM_Str <;> simp

/-- The class of blobs. -/
theorem storageClass_eq_blob {c : Mem} : c.storageClass = .blob ↔
    c.flags.has MEM_Null = false ∧ c.flags.has MEM_Int = false ∧ c.flags.has MEM_Real = false ∧
      c.flags.has MEM_Str = false := by
  unfold storageClass
  cases c.flags.has MEM_Null <;> cases c.flags.has MEM_Int <;> cases c.flags.has MEM_Real <;>
    cases c.flags.has MEM_Str <;> simp

/-! ## Cells with given values -/

/-- A cell with nothing but flags and a union. -/
def ofWord (flags : Flags) (u : BitVec 64) : Mem := ⟨flags, u, 0, .null, [], 0, SQLITE_UTF8, false⟩

/-- NULL. -/
def ofNull : Mem := ofWord MEM_Null 0
/-- An integer. -/
def ofInt (v : ℤ) : Mem := ofWord MEM_Int (BitVec.ofInt 64 v)
/-- A real. -/
def ofReal (v : Binary64) : Mem := ofWord MEM_Real v
/-- A text in a static buffer. -/
def ofText (z : List Byte) : Mem :=
  ⟨MEM_Str ||| MEM_Static, 0, z.length, .ext z, [], 0, SQLITE_UTF8, false⟩
/-- A blob in a static buffer. -/
def ofBlob (z : List Byte) : Mem :=
  ⟨MEM_Blob ||| MEM_Static, 0, z.length, .ext z, [], 0, SQLITE_UTF8, false⟩

/-- NULL is a value. -/
theorem isValue_ofNull : ofNull.IsValue SQLITE_UTF8 := by
  constructor <;> simp [ofNull, ofWord]

/-- An integer is one. -/
theorem isValue_ofInt (v : ℤ) : (ofInt v).IsValue SQLITE_UTF8 := by
  constructor <;> simp [ofInt, ofWord]

/-- A real is one, unless it is a NaN. -/
theorem isValue_ofReal (v : Binary64) (h : v.isNaN = false) : (ofReal v).IsValue SQLITE_UTF8 := by
  constructor <;> simp [ofReal, ofWord, u_r, h]

/-- A text is one. -/
theorem isValue_ofText (z : List Byte) : (ofText z).IsValue SQLITE_UTF8 := by
  constructor <;> simp [ofText, buffer]

/-- A blob is one. -/
theorem isValue_ofBlob (z : List Byte) : (ofBlob z).IsValue SQLITE_UTF8 := by
  constructor <;> simp [ofBlob, buffer]

end Mem

/-! ## A library for concrete runs -/

/-- The integer that a text of decimal digits with an optional sign stands for. -/
def decimalValue : List Byte → Option ℤ
  | 45 :: digits => (digitsValue digits).map (-·)
  | digits => digitsValue digits
where
  /-- The number that a nonempty list of digits stands for. -/
  digitsValue (digits : List Byte) : Option ℤ :=
    if digits ≠ [] ∧ digits.all fun d => 48 ≤ d && d ≤ 57 then
      some (digits.foldl (fun v d => 10 * v + (d.toNat - 48 : ℕ)) 0)
    else none

/-- The decimal digits of an integer. -/
def decimalDigits (v : ℤ) : List Byte :=
  (if v < 0 then [45] else []) ++ (Nat.toDigits 10 v.natAbs).map fun d => UInt8.ofNat d.toNat

/-- A library over one encoding whose memory never runs out. It parses and prints integers, and
reals with small integral values. -/
def CLib.decimal : CLib Unit where
  malloc n r := (some (List.replicate n 0), r)
  destroy _ r := r
  AtoF z n _ :=
    match decimalValue (z.take n.toNat) with
    | some v => (true, Binary64.ofInt v)
    | none => (false, 0)
  Atoi64 z n _ :=
    match decimalValue (z.take n.toNat) with
    | some v => (0, v)
    | none => (1, 0)
  printInt v := (decimalDigits v).take 31
  printReal x := (decimalDigits x.toInt64 ++ [46, 48]).take 31
  translate _ p r := (p, r)

/-- The same library over another state. -/
def CLib.decimalOver (ρ : Type) : CLib ρ where
  malloc n r := (some (List.replicate n 0), r)
  destroy _ r := r
  AtoF := CLib.decimal.AtoF
  Atoi64 := CLib.decimal.Atoi64
  printInt := CLib.decimal.printInt
  printReal := CLib.decimal.printReal
  translate _ p r := (p, r)

example : decimalValue (decimalDigits (-120)) = some (-120) := by decide

end SQPyte
