import SQPyte.Mem.Compare
import SQPyte.Vdbe.StoredRecords

/-!
# Comparing records with keys

`sqlite3VdbeRecordCompare` of `vdbeaux.c` compares a record, as it is stored in an index, with a key
whose values are in registers. It takes the record apart field by field, as far as it has to, and
makes its own comparison for each type of value on the right.

What it computes is the comparison by columns, each with the comparison of `sqlite3MemCompare` for
its collation and in its sort order, and `default_rc` where the columns that both have are equal
(`sqlite3VdbeRecordCompare_spec`). A field is described by the two offsets the loop keeps for it
(`FieldAt`); there is one lemma for each type of value on the right, one for a pass of the loop, and
one for the loop.
-/

namespace SQPyte

open Comparator

/-! ## The code -/

/-- What the comparisons read and write besides the key itself. `pKeyInfo` of the key has an entry
for each of the `nField + nXField` columns. -/
structure UnpackedKey extends UnpackedRecord where
  /-- `pKeyInfo->enc`. -/
  enc : ℕ
  /-- Error detected by `xRecordCompare`. -/
  errCode : ℕ
  /-- Value to return if the record is less, in the first column. -/
  r1 : ℤ
  /-- Value to return if the record is greater, in the first column. -/
  r2 : ℤ

/-- `a[i]`. -/
def byteAt (a : List Byte) (i : ℕ) : Except Exc ℕ :=
  match a[i]? with
  | some b => .ok b.toNat
  | none => .error .memory

/-- The `n` bytes from `&a[d]` on. -/
def bytesAt (a : List Byte) (d n : ℕ) : Except Exc (List Byte) :=
  if d + n ≤ a.length then .ok ((a.drop d).take n) else .error .memory

/-- `vdbeRecordDecodeInt`. -/
def vdbeRecordDecodeInt (serial_type : ℕ) (aKey : List Byte) : ℤ :=
  match serial_type with
  | 0 | 1 => ONE_BYTE_INT aKey
  | 2 => TWO_BYTE_INT aKey
  | 3 => THREE_BYTE_INT aKey
  | 4 => (BitVec.ofInt 32 (FOUR_BYTE_UINT aKey)).toInt
  | 5 => FOUR_BYTE_UINT (aKey.drop 2) + 2^32 * TWO_BYTE_INT aKey
  | 6 => (BitVec.ofInt 64 (2^32 * FOUR_BYTE_UINT aKey + FOUR_BYTE_UINT (aKey.drop 4))).toInt
  -- `serial_type - 8`, of a type without a sign.
  | t => ((t + 2^32 - 8) % 2^32 : ℕ)

/-- A number of a record as a double: `mem1.u.r`, or `(double)mem1.u.i`. -/
def serialReal (serial_type : ℕ) (buf : List Byte) : Except Exc Binary64 :=
  if serial_type = 7 then .ok (serialWord buf)
  else
    match sqlite3VdbeSerialGet buf serial_type with
    | .int i => .ok (Binary64.ofInt i)
    -- The reserved types are NULL, and `u.i` has not been set.
    | _ => .error .memory

/-! The branches of the loop in `vdbeRecordCompareWithSkip`. Each of them gives `rc` and what it has
read as serial type. -/

section branches

variable (nKey1 : ℕ) (aKey1 : List Byte) (d1 idx1 : ℕ)

/-- The field against an integer. -/
def compareInt (pRhs : Mem) : Except Exc (ℤ × ℕ) := do
  let serial_type ← byteAt aKey1 idx1
  if 12 ≤ serial_type then return (1, serial_type)
  else if serial_type = 0 then return (-1, serial_type)
  else if serial_type = 7 then
    let lhs := serialWord (← bytesAt aKey1 d1 8)
    let rhs := Binary64.ofInt pRhs.u_i
    return (if lhs.lt rhs then -1 else if rhs.lt lhs then 1 else 0, serial_type)
  else
    -- The reserved types 10 and 11 are taken for the integers 2 and 3.
    let lhs := vdbeRecordDecodeInt serial_type
      (← bytesAt aKey1 d1 (sqlite3VdbeSerialTypeLen serial_type))
    let rhs := pRhs.u_i
    return (if lhs < rhs then -1 else if rhs < lhs then 1 else 0, serial_type)

/-- The field against a real. -/
def compareReal (pRhs : Mem) : Except Exc (ℤ × ℕ) := do
  let serial_type ← byteAt aKey1 idx1
  if 12 ≤ serial_type then return (1, serial_type)
  else if serial_type = 0 then return (-1, serial_type)
  else
    let lhs ← serialReal serial_type (← bytesAt aKey1 d1 (sqlite3VdbeSerialTypeLen serial_type))
    let rhs := pRhs.u_r
    return (if lhs.lt rhs then -1 else if rhs.lt lhs then 1 else 0, serial_type)

/-- The cell `mem1` with a text of the record. -/
def textCell (enc : ℕ) (z : List Byte) : Mem := ⟨MEM_Str, 0, z.length, .ext z, [], 0, enc, false⟩

/-- The field against a text, or `none` if a text of the record goes beyond its end. -/
def compareText (enc : ℕ) (pColl : Option CollSeq) (pRhs : Mem) :
    Except Exc (Option (ℤ × ℕ)) := do
  let (serial_type, _) ← readVarint32 aKey1 idx1
  if serial_type < 12 then return some (-1, serial_type)
  else if serial_type % 2 = 0 then return some (1, serial_type)
  else
    let n := (serial_type - 12) / 2
    if nKey1 < d1 + n then return none
    else
      let z ← bytesAt aKey1 d1 n
      return some (match pColl with
        | some pColl => vdbeCompareMemString (textCell enc z) pRhs pColl
        | none =>
          let rc := memcmp z pRhs.bytes
          if rc ≠ 0 then rc else (n : ℤ) - pRhs.n, serial_type)

/-- The field against a blob, or `none` if a blob of the record goes beyond its end. -/
def compareBlob (pRhs : Mem) : Except Exc (Option (ℤ × ℕ)) := do
  let (serial_type, _) ← readVarint32 aKey1 idx1
  if serial_type < 12 ∨ serial_type % 2 = 1 then return some (-1, serial_type)
  else
    let nStr := (serial_type - 12) / 2
    if nKey1 < d1 + nStr then return none
    else
      let rc := memcmp (← bytesAt aKey1 d1 nStr) pRhs.bytes
      return some (if rc ≠ 0 then rc else (nStr : ℤ) - pRhs.n, serial_type)

/-- The field against NULL. -/
def compareNull : Except Exc (ℤ × ℕ) := do
  let serial_type ← byteAt aKey1 idx1
  return (if serial_type ≠ 0 then 1 else 0, serial_type)

/-- The comparison of a field, by the type of the value on the right. -/
def compareField (enc : ℕ) (pColl : Option CollSeq) (pRhs : Mem) :
    Except Exc (Option (ℤ × ℕ)) :=
  if pRhs.flags.has MEM_Int then (compareInt aKey1 d1 idx1 pRhs).map some
  else if pRhs.flags.has MEM_Real then (compareReal aKey1 d1 idx1 pRhs).map some
  else if pRhs.flags.has MEM_Str then compareText nKey1 aKey1 d1 idx1 enc pColl pRhs
  else if pRhs.flags.has MEM_Blob then compareBlob nKey1 aKey1 d1 idx1 pRhs
  else (compareNull aKey1 idx1).map some

end branches

/-- How a pass of the loop ends. -/
inductive ComparePass where
  /-- With the result of the comparison. -/
  | done (rc : ℤ) (pPKey2 : UnpackedKey)
  /-- With the offsets of the next field. -/
  | equal (d1 idx1 : ℕ)

/-- The body of the loop, for the field `i`. -/
def comparePass (nKey1 : ℕ) (aKey1 : List Byte) (pPKey2 : UnpackedKey) (i d1 idx1 : ℕ) :
    Except Exc ComparePass :=
  match pPKey2.aMem[i]?, pPKey2.pKeyInfo[i]? with
  | some pRhs, some (aColl, aSortOrder) => do
    match ← compareField nKey1 aKey1 d1 idx1 pPKey2.enc aColl pRhs with
    | none => return .done 0 { pPKey2 with errCode := SQLITE_CORRUPT }
    | some (rc, serial_type) =>
      if rc ≠ 0 then return .done (if aSortOrder then -rc else rc) pPKey2
      else
        let d1 := d1 + sqlite3VdbeSerialTypeLen serial_type
        let idx1 := idx1 + sqlite3VarintLen serial_type
        return .equal d1 idx1
  | _, _ => .error .memory

/-- The loop, from the field `i` on. At most `left` more fields are compared after that. -/
def compareLoop (nKey1 : ℕ) (aKey1 : List Byte) (pPKey2 : UnpackedKey) (szHdr1 : ℕ) :
    ℕ → ℕ → ℕ → ℕ → Except Exc (ℤ × UnpackedKey)
  | 0, i, d1, idx1 => do
    match ← comparePass nKey1 aKey1 pPKey2 i d1 idx1 with
    | .done rc pPKey2 => return (rc, pPKey2)
    | .equal _ _ => return (pPKey2.default_rc, pPKey2)
  | left + 1, i, d1, idx1 => do
    match ← comparePass nKey1 aKey1 pPKey2 i d1 idx1 with
    | .done rc pPKey2 => return (rc, pPKey2)
    | .equal d1 idx1 =>
      if idx1 < szHdr1 ∧ d1 ≤ nKey1 then compareLoop nKey1 aKey1 pPKey2 szHdr1 left (i + 1) d1 idx1
      else return (pPKey2.default_rc, pPKey2)

/-- `vdbeRecordCompareWithSkip`. The record has `nKey1` bytes; more memory may follow. -/
def vdbeRecordCompareWithSkip (nKey1 : ℕ) (pKey1 : List Byte) (pPKey2 : UnpackedKey)
    (bSkip : Bool) : Except Exc (ℤ × UnpackedKey) := do
  if bSkip then
    -- The first field is known to be equal, and the size of the header is one byte.
    let (s1, idx1) ← readVarint32 pKey1 1
    let szHdr1 ← byteAt pKey1 0
    compareLoop nKey1 pKey1 pPKey2 szHdr1 (pPKey2.nField - 2) 1
      (szHdr1 + sqlite3VdbeSerialTypeLen s1) idx1
  else
    let (szHdr1, idx1) ← readVarint32 pKey1 0
    if nKey1 < szHdr1 then return (0, { pPKey2 with errCode := SQLITE_CORRUPT })
    else compareLoop nKey1 pKey1 pPKey2 szHdr1 (pPKey2.nField - 1) 0 szHdr1 idx1

/-- `sqlite3VdbeRecordCompare`. -/
def sqlite3VdbeRecordCompare (nKey1 : ℕ) (pKey1 : List Byte) (pPKey2 : UnpackedKey) :
    Except Exc (ℤ × UnpackedKey) :=
  vdbeRecordCompareWithSkip nKey1 pKey1 pPKey2 false

/-! ## Fields -/

/-- The class of a value. -/
def Value.storageClass : Value → StorageClass
  | .null => .null
  | .int _ | .real _ => .number
  | .text _ => .text
  | .blob _ => .blob

/-- The cell of a value in a record. -/
def Value.cell (enc : ℕ) : Value → Mem
  | .null => ⟨MEM_Null, 0, 0, .null, [], 0, enc, false⟩
  | .int i => ⟨MEM_Int, BitVec.ofInt 64 i, 0, .null, [], 0, enc, false⟩
  | .real x => ⟨MEM_Real, x, 0, .null, [], 0, enc, false⟩
  | .text z => textCell enc z
  | .blob z => ⟨MEM_Blob, 0, z.length, .ext z, [], 0, enc, false⟩

/-- The cell of a value has its class. -/
theorem storageClass_cell (enc : ℕ) (v : Value) : (v.cell enc).storageClass = v.storageClass := by
  cases v <;> simp [Value.cell, textCell, Value.storageClass, Mem.storageClass]

/-- The cell of a value that fits is one. -/
theorem isValue_cell (enc : ℕ) {v : Value} (h : v.Fits) : (v.cell enc).IsValue enc := by
  cases v with
  | null => constructor <;> simp [Value.cell]
  | int i => constructor <;> simp [Value.cell]
  | real x => constructor <;> simp [Value.cell, Mem.u_r, show x.isNaN = false from h]
  | text z => constructor <;> simp [Value.cell, textCell, Mem.buffer]
  | blob z => constructor <;> simp [Value.cell, Mem.buffer]

/-- The integer of its cell. -/
theorem u_i_cell (enc : ℕ) {i : ℤ} (h : (Value.int i).Fits) : ((Value.int i).cell enc).u_i = i :=
  BitVec.toInt_ofInt_eq_self (by decide) h.1 h.2

/-- The bytes of the cell of a text. -/
theorem bytes_textCell (enc : ℕ) (z : List Byte) : (textCell enc z).bytes = z := by
  simp [textCell, Mem.bytes, Mem.buffer]

/-- The bytes of the cell of a blob. -/
theorem bytes_cell_blob (enc : ℕ) (z : List Byte) : ((Value.blob z).cell enc).bytes = z := by
  simp [Value.cell, Mem.bytes, Mem.buffer]

/-- An integer is read from its content. -/
theorem vdbeRecordDecodeInt_eq {t : ℕ} {i : ℤ} {buf : List Byte}
    (ht : t = 8 ∨ t = 9 ∨ t ∈ [1, 2, 3, 4, 5, 6])
    (h : sqlite3VdbeSerialGet buf t = .int i) : vdbeRecordDecodeInt t buf = i := by
  have hfour : (BitVec.ofInt 32 (FOUR_BYTE_UINT buf)).toInt = FOUR_BYTE_INT buf := by
    have hlt : ∀ k, 0 ≤ u8 buf k ∧ u8 buf k < 256 := fun k =>
      ⟨Int.natCast_nonneg _, Int.ofNat_lt.mpr (buf.getD k 0).toNat_lt⟩
    have h0 := hlt 0
    have h1 := hlt 1
    have h2 := hlt 2
    have h3 := hlt 3
    rw [BitVec.toInt_ofInt, Int.bmod_def]
    unfold FOUR_BYTE_UINT FOUR_BYTE_INT i8
    split_ifs <;> omega
  simp only [List.mem_cons, List.not_mem_nil, or_false] at ht
  rcases ht with rfl | rfl | rfl | rfl | rfl | rfl | rfl | rfl
  · exact Value.int.inj h
  · exact Value.int.inj h
  · exact Value.int.inj h
  · exact Value.int.inj h
  · exact Value.int.inj h
  · exact hfour.trans (Value.int.inj h)
  · exact Value.int.inj h
  · exact Value.int.inj h

/-- The offsets of a field, in the header and behind it, in a record of `nKey1` bytes. -/
structure FieldAt (ff nKey1 : ℕ) (aKey1 : List Byte) (d1 idx1 : ℕ) (v : Value) : Prop where
  /-- The serial type. -/
  type : ∃ rest, aKey1.drop idx1 = Varint.encode (v.serialType ff) ++ rest
  /-- The content. -/
  content : ∃ rest, aKey1.drop d1 = v.content ff ++ rest
  /-- The content is in the record, and that is in the memory. -/
  room : d1 + sqlite3VdbeSerialTypeLen (v.serialType ff) ≤ nKey1 ∧ nKey1 ≤ aKey1.length
  /-- The value is one that a record can hold. -/
  fits : v.Fits

section field

variable {ff nKey1 : ℕ} {aKey1 : List Byte} {d1 idx1 : ℕ} {v : Value}

/-- The first byte of a serial type is the type of NULL and of a number, and at least 12 for a text
or blob. -/
theorem FieldAt.byteAt_eq (h : FieldAt ff nKey1 aKey1 d1 idx1 v) : ∃ b, byteAt aKey1 idx1 = .ok b ∧
    (b = v.serialType ff ∨ 12 ≤ b) ∧ (12 ≤ b ↔ 12 ≤ v.serialType ff) := by
  obtain ⟨rest, hrest⟩ := h.type
  obtain ⟨b, bs, hcons, hb⟩ := Varint.encode_eq_cons (v.serialType ff)
  have hget : aKey1[idx1]? = some b := by
    calc aKey1[idx1]? = (aKey1.drop idx1)[0]? := by rw [List.getElem?_drop, Nat.add_zero]
      _ = some b := by rw [hrest, hcons, List.cons_append, List.getElem?_cons_zero]
  refine ⟨b.toNat, ?_, by omega, by omega⟩
  unfold byteAt
  rw [hget]

/-- The serial type, and where the next one is. -/
theorem FieldAt.readVarint32_eq (h : FieldAt ff nKey1 aKey1 d1 idx1 v) : readVarint32 aKey1 idx1 =
    .ok (v.serialType ff, idx1 + sqlite3VarintLen (v.serialType ff)) := by
  obtain ⟨rest, hrest⟩ := h.type
  have hlt : v.serialType ff < 2^32 := serialType_lt h.fits
  have hlen := congrArg List.length hrest
  have hpos := Varint.size_pos (v.serialType ff)
  rw [List.length_drop, List.length_append, Varint.length_encode (by omega)] at hlen
  unfold readVarint32
  rw [hrest, getVarint32_encode hlt, sqlite3VarintLen_eq]
  simp only [Except.ok.injEq, Prod.mk.injEq, true_and]
  omega

/-- The bytes of a field are the content of its value. -/
theorem FieldAt.bytesAt_eq (h : FieldAt ff nKey1 aKey1 d1 idx1 v) :
    bytesAt aKey1 d1 (sqlite3VdbeSerialTypeLen (v.serialType ff)) = .ok (v.content ff) := by
  obtain ⟨rest, hrest⟩ := h.content
  unfold bytesAt
  rw [if_pos (h.room.1.trans h.room.2), hrest, ← length_content, List.take_left]

variable {enc : ℕ} {coll : Option CollSeq} {c : Mem}

/-- The serial type of an integer, and what is read by it. -/
theorem FieldAt.decodeInt_eq {i : ℤ} (h : FieldAt ff nKey1 aKey1 d1 idx1 (.int i)) :
    let t := (Value.int i).serialType ff
    (t = 8 ∨ t = 9 ∨ t ∈ [1, 2, 3, 4, 5, 6]) ∧
      sqlite3VdbeSerialGet ((Value.int i).content ff) t = .int i ∧
      vdbeRecordDecodeInt t ((Value.int i).content ff) = i := by
  have hget := sqlite3VdbeSerialGet_content ff h.fits
  have ht : (Value.int i).serialType ff = 8 ∨ (Value.int i).serialType ff = 9 ∨
      (Value.int i).serialType ff ∈ [1, 2, 3, 4, 5, 6] := by
    obtain ⟨ht, -⟩ | ⟨ht, -⟩ | ⟨t, hmem, ht, -⟩ := serial_type_of_int_spec i ff h.fits.1 h.fits.2
    · exact Or.inl ht
    · exact Or.inr (Or.inl ht)
    · refine Or.inr (Or.inr ?_)
      rw [show (Value.int i).serialType ff = t from ht]
      exact hmem
  exact ⟨ht, hget, vdbeRecordDecodeInt_eq ht hget⟩

/-- The double that is read by the serial type 7. -/
theorem FieldAt.serialWord_eq {x : Binary64} (h : FieldAt ff nKey1 aKey1 d1 idx1 (.real x)) :
    serialWord ((Value.real x).content ff) = x := by
  have hget : serialGet ((Value.real x).content ff) 7 = .real x :=
    sqlite3VdbeSerialGet_content ff h.fits
  unfold serialGet at hget
  rw [if_neg (by decide)] at hget
  split_ifs at hget
  exact Value.real.inj hget

/-- A cell with a number has the class of numbers. -/
theorem Mem.IsValue.class_of_number (hc : c.IsValue enc)
    (h : c.flags.has MEM_Int = true ∨ c.flags.has MEM_Real = true) : c.storageClass = .number := by
  refine Mem.storageClass_eq_number.mpr ⟨?_, h⟩
  by_contra hnull
  have := hc.null (by simpa using hnull)
  rcases h with h | h
  · rw [this.1] at h
    exact absurd h (by decide)
  · rw [this.2.1] at h
    exact absurd h (by decide)

/-- The serial types of integers are below 12, and neither that of NULL nor that of a real. -/
theorem serialType_int_lt {i : ℤ} (ht : (Value.int i).serialType ff = 8 ∨
    (Value.int i).serialType ff = 9 ∨ (Value.int i).serialType ff ∈ [1, 2, 3, 4, 5, 6]) :
    (Value.int i).serialType ff < 12 ∧ (Value.int i).serialType ff ≠ 0 ∧
      (Value.int i).serialType ff ≠ 7 := by
  simp only [List.mem_cons, List.not_mem_nil, or_false] at ht
  omega

/-- The serial type of a text is at least 12. -/
theorem serialType_text_ge (z : List Byte) : 12 ≤ (Value.text z).serialType ff := by
  simp only [Value.serialType]
  omega

/-- So is that of a blob. -/
theorem serialType_blob_ge (z : List Byte) : 12 ≤ (Value.blob z).serialType ff := by
  simp only [Value.serialType]
  omega

/-- The serial type of a text is odd, and has its length. -/
theorem serialType_text (ff : ℕ) (z : List Byte) : (Value.text z).serialType ff % 2 = 1 ∧
    ((Value.text z).serialType ff - 12) / 2 = z.length := by
  simp only [Value.serialType]
  omega

/-- The serial type of a blob is even, and has its length. -/
theorem serialType_blob (ff : ℕ) (z : List Byte) : (Value.blob z).serialType ff % 2 = 0 ∧
    ((Value.blob z).serialType ff - 12) / 2 = z.length := by
  simp only [Value.serialType]
  omega

/-- A field against a number. -/
theorem classCompare_cell_number (enc : ℕ) (v : Value) (hc : c.storageClass = .number) :
    classCompare coll (v.cell enc) c = match v.storageClass with
      | .null => -1
      | .number => numberCompare (v.cell enc) c
      | _ => 1 := by
  unfold classCompare
  rw [storageClass_cell, hc]
  cases v <;> rfl

/-- A field against a text. -/
theorem classCompare_cell_text (enc : ℕ) (v : Value) (hc : c.storageClass = .text) :
    classCompare coll (v.cell enc) c = match v.storageClass with
      | .text => textCompare coll (v.cell enc) c
      | .blob => 1
      | _ => -1 := by
  unfold classCompare
  rw [storageClass_cell, hc]
  cases v <;> rfl

/-- A field against a blob. -/
theorem classCompare_cell_blob (enc : ℕ) (v : Value) (hc : c.storageClass = .blob) :
    classCompare coll (v.cell enc) c = match v.storageClass with
      | .blob => sqlite3BlobCompare (v.cell enc) c
      | _ => -1 := by
  unfold classCompare
  rw [storageClass_cell, hc]
  cases v <;> rfl

/-- Two integers. -/
theorem numberCompare_ints {a b : Mem} (ha : a.flags.has MEM_Int = true)
    (hb : b.flags.has MEM_Int = true) :
    numberCompare a b = if a.u_i < b.u_i then -1 else if b.u_i < a.u_i then 1 else 0 := by
  unfold numberCompare threeWay
  rw [ha, hb]
  simp only [Bool.and_self, ↓reduceIte, decide_eq_true_eq]

/-- Two numbers that are not both integers. -/
theorem numberCompare_reals {a b : Mem}
    (h : a.flags.has MEM_Int = false ∨ b.flags.has MEM_Int = false) :
    numberCompare a b =
      if a.asReal.lt b.asReal then -1 else if b.asReal.lt a.asReal then 1 else 0 := by
  unfold numberCompare threeWay
  rcases h with h | h
  · rw [h, Bool.false_and, if_neg (by decide)]
  · rw [h, Bool.and_false, if_neg (by decide)]

/-- No cell has an integer and a real. -/
theorem Mem.IsValue.has_real_of_int (hc : c.IsValue enc) (h : c.flags.has MEM_Int = true) :
    c.flags.has MEM_Real = false := by
  by_contra hreal
  exact hc.int_real ⟨h, by simpa using hreal⟩

/-- An integer as a real. -/
theorem asReal_cell_int (enc : ℕ) {i : ℤ} (h : (Value.int i).Fits) :
    ((Value.int i).cell enc).asReal = Binary64.ofInt i := by
  unfold Mem.asReal
  rw [u_i_cell enc h, if_neg (by simp [Value.cell])]

/-- A real as a real. -/
theorem asReal_cell_real (enc : ℕ) (x : Binary64) : ((Value.real x).cell enc).asReal = x :=
  if_pos (by simp [Value.cell])

/-- Where a byte of at least 12 decides, the whole serial type is not needed. -/
theorem FieldAt.type_eq (h : FieldAt ff nKey1 aKey1 d1 idx1 v) {b : ℕ} {rc : ℤ}
    (hb : b = v.serialType ff ∨ 12 ≤ b) (h12 : 12 ≤ b ↔ 12 ≤ v.serialType ff)
    (hrc : v.storageClass = .text ∨ v.storageClass = .blob → rc ≠ 0) (h0 : rc = 0) :
    b = v.serialType ff := by
  refine hb.resolve_right fun hge => ?_
  rw [h12] at hge
  cases v with
  | null => exact absurd hge (Nat.not_succ_le_zero 11)
  | int i =>
    have := (serialType_int_lt h.decodeInt_eq.1).1
    omega
  | real x => exact absurd hge (by simp [Value.serialType])
  | text z => exact hrc (Or.inl rfl) h0
  | blob z => exact hrc (Or.inr rfl) h0

variable (coll) in
/-- The branch for an integer. -/
theorem compareInt_spec (h : FieldAt ff nKey1 aKey1 d1 idx1 v) (hc : c.IsValue enc)
    (hint : c.flags.has MEM_Int = true) :
    ∃ t, compareInt aKey1 d1 idx1 c = .ok (classCompare coll (v.cell enc) c, t) ∧
      (classCompare coll (v.cell enc) c = 0 → t = v.serialType ff) := by
  obtain ⟨b, hb, hbt, h12⟩ := h.byteAt_eq
  have hbytes := h.bytesAt_eq
  rw [classCompare_cell_number enc v (hc.class_of_number (Or.inl hint))]
  unfold compareInt
  rw [hb]
  simp only [bind, Except.bind, pure, Except.pure]
  refine ⟨b, ?_, h.type_eq hbt h12 ?_⟩
  · cases v with
    | null =>
      obtain rfl : b = 0 := hbt.resolve_right (by rw [h12]; exact Nat.not_succ_le_zero 11)
      rfl
    | int i =>
      obtain ⟨ht, -, hdecode⟩ := h.decodeInt_eq
      obtain ⟨hlt, hne0, hne7⟩ := serialType_int_lt ht
      obtain rfl := hbt.resolve_right (by omega)
      rw [if_neg (by omega), if_neg hne0, if_neg hne7, hbytes]
      simp only [Value.storageClass]
      rw [hdecode, numberCompare_ints (by simp [Value.cell]) hint, u_i_cell enc h.fits]
    | real x =>
      obtain rfl : b = 7 := hbt.resolve_right (by rw [h12]; simp [Value.serialType])
      have hasReal : c.asReal = Binary64.ofInt c.u_i :=
        if_neg (by rw [hc.has_real_of_int hint]; simp)
      rw [if_neg (by decide), if_neg (by decide), if_pos rfl, show (8 : ℕ) =
        sqlite3VdbeSerialTypeLen ((Value.real x).serialType ff) from rfl, hbytes]
      simp only [Value.storageClass]
      rw [h.serialWord_eq, numberCompare_reals (Or.inl (by simp [Value.cell])), hasReal,
        asReal_cell_real]
    | text z => rw [if_pos (h12.mpr (serialType_text_ge z))]; rfl
    | blob z => rw [if_pos (h12.mpr (serialType_blob_ge z))]; rfl
  · rintro (hclass | hclass) <;> rw [hclass] <;> exact one_ne_zero

variable (coll) in
/-- The branch for a real. -/
theorem compareReal_spec (h : FieldAt ff nKey1 aKey1 d1 idx1 v) (hc : c.IsValue enc)
    (hint : c.flags.has MEM_Int = false) (hreal : c.flags.has MEM_Real = true) :
    ∃ t, compareReal aKey1 d1 idx1 c = .ok (classCompare coll (v.cell enc) c, t) ∧
      (classCompare coll (v.cell enc) c = 0 → t = v.serialType ff) := by
  obtain ⟨b, hb, hbt, h12⟩ := h.byteAt_eq
  have hbytes := h.bytesAt_eq
  have hasReal : c.asReal = c.u_r := if_pos hreal
  rw [classCompare_cell_number enc v (hc.class_of_number (Or.inr hreal))]
  unfold compareReal
  rw [hb]
  simp only [bind, Except.bind, pure, Except.pure]
  refine ⟨b, ?_, h.type_eq hbt h12 ?_⟩
  · cases v with
    | null =>
      obtain rfl : b = 0 := hbt.resolve_right (by rw [h12]; exact Nat.not_succ_le_zero 11)
      rfl
    | int i =>
      obtain ⟨ht, hget, -⟩ := h.decodeInt_eq
      obtain ⟨hlt, hne0, hne7⟩ := serialType_int_lt ht
      obtain rfl := hbt.resolve_right (by omega)
      rw [if_neg (by omega), if_neg hne0, hbytes]
      simp only [Value.storageClass]
      unfold serialReal
      rw [if_neg hne7, hget, numberCompare_reals (Or.inr hint), asReal_cell_int enc h.fits, hasReal]
    | real x =>
      obtain rfl : b = 7 := hbt.resolve_right (by rw [h12]; simp [Value.serialType])
      rw [if_neg (by decide), if_neg (by decide),
        show (7 : ℕ) = (Value.real x).serialType ff from rfl, hbytes]
      simp only [Value.storageClass]
      unfold serialReal
      rw [if_pos (show (Value.real x).serialType ff = 7 from rfl), h.serialWord_eq,
        numberCompare_reals (Or.inr hint), asReal_cell_real, hasReal]
    | text z => rw [if_pos (h12.mpr (serialType_text_ge z))]; rfl
    | blob z => rw [if_pos (h12.mpr (serialType_blob_ge z))]; rfl
  · rintro (hclass | hclass) <;> rw [hclass] <;> exact one_ne_zero

/-- The branch for a text. -/
theorem compareText_spec (h : FieldAt ff nKey1 aKey1 d1 idx1 v) (hclass : c.storageClass = .text) :
    ∃ t, compareText nKey1 aKey1 d1 idx1 enc coll c =
        .ok (some (classCompare coll (v.cell enc) c, t)) ∧
      (classCompare coll (v.cell enc) c = 0 → t = v.serialType ff) := by
  have hk := h.readVarint32_eq
  have hbytes := h.bytesAt_eq
  refine ⟨v.serialType ff, ?_, fun _ => rfl⟩
  rw [classCompare_cell_text enc v hclass]
  unfold compareText
  rw [hk]
  simp only [bind, Except.bind, pure, Except.pure]
  cases v with
  | null => rfl
  | int i =>
    rw [if_pos (serialType_int_lt h.decodeInt_eq.1).1]
    rfl
  | real x => rfl
  | text z =>
    have hlen : sqlite3VdbeSerialTypeLen ((Value.text z).serialType ff) = z.length :=
      sqlite3VdbeSerialTypeLen_text _
    obtain ⟨hodd, hn⟩ := serialType_text ff z
    have hroom := h.room.1
    rw [hlen] at hbytes hroom
    have hge : 12 ≤ (Value.text z).serialType ff := serialType_text_ge z
    rw [if_neg (by omega), if_neg (by omega), hn, if_neg (by omega), hbytes]
    cases coll with
    | some coll => rfl
    | none =>
      simp only [Value.storageClass, Value.cell, textCompare, sqlite3BlobCompare, bytes_textCell]
      rfl
  | blob z =>
    have hge : 12 ≤ (Value.blob z).serialType ff := serialType_blob_ge z
    rw [if_neg (by omega), if_pos (serialType_blob ff z).1]
    rfl

/-- The branch for a blob. -/
theorem compareBlob_spec (h : FieldAt ff nKey1 aKey1 d1 idx1 v)
    (hclass : c.storageClass = .blob) :
    ∃ t, compareBlob nKey1 aKey1 d1 idx1 c = .ok (some (classCompare coll (v.cell enc) c, t)) ∧
      (classCompare coll (v.cell enc) c = 0 → t = v.serialType ff) := by
  have hk := h.readVarint32_eq
  have hbytes := h.bytesAt_eq
  refine ⟨v.serialType ff, ?_, fun _ => rfl⟩
  rw [classCompare_cell_blob enc v hclass]
  unfold compareBlob
  rw [hk]
  simp only [bind, Except.bind, pure, Except.pure]
  cases v with
  | null => rfl
  | int i =>
    rw [if_pos (Or.inl (serialType_int_lt h.decodeInt_eq.1).1)]
    rfl
  | real x => rfl
  | text z =>
    rw [if_pos (Or.inr (serialType_text ff z).1)]
    rfl
  | blob z =>
    have hlen : sqlite3VdbeSerialTypeLen ((Value.blob z).serialType ff) = z.length :=
      sqlite3VdbeSerialTypeLen_blob _
    obtain ⟨heven, hn⟩ := serialType_blob ff z
    have hroom := h.room.1
    rw [hlen] at hbytes hroom
    have hge : 12 ≤ (Value.blob z).serialType ff := serialType_blob_ge z
    rw [if_neg (by omega), hn, if_neg (by omega), hbytes]
    simp only [Value.storageClass, sqlite3BlobCompare, bytes_cell_blob]
    rfl

variable (coll) in
/-- The branch for NULL. -/
theorem compareNull_spec (h : FieldAt ff nKey1 aKey1 d1 idx1 v) (hclass : c.storageClass = .null) :
    ∃ t, compareNull aKey1 idx1 = .ok (classCompare coll (v.cell enc) c, t) ∧
      (classCompare coll (v.cell enc) c = 0 → t = v.serialType ff) := by
  obtain ⟨b, hb, hbt, h12⟩ := h.byteAt_eq
  have hcmp : classCompare coll (v.cell enc) c = if v = .null then 0 else 1 := by
    unfold classCompare
    rw [storageClass_cell, hclass]
    cases v <;> rfl
  -- The first byte of a serial type is 0 for a NULL only.
  have hzero : b = 0 ↔ v = .null := by
    cases v with
    | null => exact iff_of_true (hbt.resolve_right (by rw [h12]; exact Nat.not_succ_le_zero 11)) rfl
    | int i =>
      obtain ⟨hlt, hne0, -⟩ := serialType_int_lt h.decodeInt_eq.1
      obtain rfl := hbt.resolve_right (by omega)
      simp [hne0]
    | real x =>
      obtain rfl : b = 7 := hbt.resolve_right (by rw [h12]; simp [Value.serialType])
      simp
    | text z =>
      have := h12.mpr (serialType_text_ge z)
      exact iff_of_false (by omega) (by simp)
    | blob z =>
      have := h12.mpr (serialType_blob_ge z)
      exact iff_of_false (by omega) (by simp)
  rw [hcmp]
  unfold compareNull
  rw [hb]
  refine ⟨b, ?_, fun h0 => ?_⟩
  · simp only [bind, Except.bind, pure, Except.pure, ne_eq, hzero]
    split_ifs <;> rfl
  · have hv : v = .null := by
      by_contra hv
      rw [if_neg hv] at h0
      exact one_ne_zero h0
    rw [hv, hzero.mpr hv]
    rfl

variable (coll) in
/-- A field is compared as `sqlite3MemCompare` compares its value. Where the two are equal, the
serial type has been read. -/
theorem compareField_spec (h : FieldAt ff nKey1 aKey1 d1 idx1 v) (hc : c.IsValue enc) :
    ∃ t, compareField nKey1 aKey1 d1 idx1 enc coll c =
        .ok (some (classCompare coll (v.cell enc) c, t)) ∧
      (classCompare coll (v.cell enc) c = 0 → t = v.serialType ff) := by
  unfold compareField
  -- A value has one of these flags, or it is NULL.
  cases hint : c.flags.has MEM_Int with
  | true =>
    obtain ⟨t, hrun, ht⟩ := compareInt_spec coll h hc hint
    rw [hrun]
    exact ⟨t, rfl, ht⟩
  | false =>
    cases hreal : c.flags.has MEM_Real with
    | true =>
      obtain ⟨t, hrun, ht⟩ := compareReal_spec coll h hc hint hreal
      rw [hrun]
      exact ⟨t, rfl, ht⟩
    | false =>
      cases hstr : c.flags.has MEM_Str with
      | true =>
        have hclass : c.storageClass = .text := by
          refine Mem.storageClass_eq_text.mpr ⟨?_, hint, hreal, hstr⟩
          by_contra hnull
          rw [(hc.null (by simpa using hnull)).2.2.1] at hstr
          exact absurd hstr (by decide)
        exact compareText_spec h hclass
      | false =>
        cases hblob : c.flags.has MEM_Blob with
        | true =>
          have hclass : c.storageClass = .blob := by
            refine Mem.storageClass_eq_blob.mpr ⟨?_, hint, hreal, hstr⟩
            by_contra hnull
            rw [(hc.null (by simpa using hnull)).2.2.2] at hblob
            exact absurd hblob (by decide)
          exact compareBlob_spec h hclass
        | false =>
          have hclass : c.storageClass = .null := by
            have := hc.nonempty
            rw [hint, hreal, hstr, hblob] at this
            exact Mem.storageClass_eq_null.mpr (by simpa using this)
          obtain ⟨t, hrun, ht⟩ : ∃ t, compareNull aKey1 idx1 =
              .ok (classCompare coll (v.cell enc) c, t) ∧
              (classCompare coll (v.cell enc) c = 0 → t = v.serialType ff) :=
            compareNull_spec coll h hclass
          simp only [Bool.false_eq_true, ↓reduceIte]
          rw [hrun]
          exact ⟨t, rfl, ht⟩

end field

/-! ## The loop -/

/-- The comparison of a column of an index: by classes and the collation of the column, in its sort
order. -/
def columnCompare (column : Option CollSeq × Bool) (a b : Mem) : ℤ :=
  if column.2 then -classCompare column.1 a b else classCompare column.1 a b

namespace UnpackedRecord

/-- The comparison that ends with a difference, or with `default_rc`. -/
def finish (p : UnpackedRecord) (rc : ℤ) : ℤ := if rc ≠ 0 then rc else p.default_rc

/-- The values of the key. -/
def keys (p : UnpackedRecord) : List Mem := p.aMem.take p.nField

/-- What a row of an index compares to the key as: the first column that is not equal decides, or
else `default_rc`. -/
def compare (p : UnpackedRecord) (enc : ℕ) (us : List Value) : ℤ :=
  p.finish (lexBy (p.pKeyInfo.map columnCompare) (us.map (Value.cell enc)) p.keys)

/-- The registers and columns of a key are there, and the registers hold values. -/
structure IsKey (p : UnpackedRecord) (enc : ℕ) : Prop where
  /-- There is a column. -/
  pos : 0 < p.nField
  /-- The columns are those of the index. -/
  columns : p.nField ≤ p.pKeyInfo.length
  /-- The registers are there. -/
  registers : p.nField ≤ p.aMem.length
  /-- They hold values. -/
  values : ∀ c ∈ p.keys, c.IsValue enc

variable {p : UnpackedRecord} {enc i : ℕ}

/-- After its columns, a key has no values. -/
theorem drop_keys (h : p.nField ≤ i) : p.keys.drop i = [] := by
  apply List.drop_eq_nil_of_le
  unfold keys
  rw [List.length_take]
  omega

/-- The column `i` of a key. -/
theorem IsKey.column (h : p.IsKey enc) (hi : i < p.nField) : ∃ c column,
    p.aMem[i]? = some c ∧ p.pKeyInfo[i]? = some column ∧ c.IsValue enc ∧
      p.keys.drop i = c :: p.keys.drop (i + 1) ∧
      (p.pKeyInfo.map columnCompare).drop i =
        columnCompare column :: (p.pKeyInfo.map columnCompare).drop (i + 1) := by
  have hmem : i < p.aMem.length := by
    have := h.registers
    omega
  have hcol : i < p.pKeyInfo.length := by
    have := h.columns
    omega
  have hkeys : i < p.keys.length := by
    unfold keys
    rw [List.length_take]
    omega
  have hget : p.keys[i] = p.aMem[i] := List.getElem_take
  have hmap : i < (p.pKeyInfo.map columnCompare).length := by
    rw [List.length_map]
    exact hcol
  refine ⟨p.aMem[i], p.pKeyInfo[i], List.getElem?_eq_getElem hmem, List.getElem?_eq_getElem hcol,
    hget ▸ h.values _ (List.getElem_mem hkeys), ?_, ?_⟩
  · rw [List.drop_eq_getElem_cons hkeys, hget]
  · rw [List.drop_eq_getElem_cons hmap, List.getElem_map]

end UnpackedRecord

/-- The offsets of the last fields of a record of `nKey1` bytes whose header has `szHdr1`. -/
structure FieldsAt (ff nKey1 szHdr1 : ℕ) (aKey1 : List Byte) (d1 idx1 : ℕ) (vs : List Value) :
    Prop where
  /-- The serial types. -/
  types : ∃ rest, aKey1.drop idx1 = serialTypeBytes ff vs ++ rest
  /-- The contents. -/
  contents : ∃ rest, aKey1.drop d1 = contentBytes ff vs ++ rest
  /-- With the serial types the header ends. -/
  header : idx1 + (serialTypeBytes ff vs).length = szHdr1
  /-- With the contents the record ends. -/
  room : d1 + (contentBytes ff vs).length = nKey1 ∧ nKey1 ≤ aKey1.length
  /-- The values are those that a record can hold. -/
  fits : ∀ v ∈ vs, v.Fits

section loop

variable {ff nKey1 szHdr1 : ℕ} {aKey1 : List Byte} {d1 idx1 : ℕ} {v : Value} {vs : List Value}

/-- The serial types of a record start with the one of the first value. -/
theorem serialTypeBytes_cons : serialTypeBytes ff (v :: vs) =
    Varint.encode (v.serialType ff) ++ serialTypeBytes ff vs := rfl

/-- Its contents start with that of the first value. -/
theorem contentBytes_cons : contentBytes ff (v :: vs) = v.content ff ++ contentBytes ff vs := rfl

/-- The length of an encoded serial type. -/
theorem length_encode_serialType (h : v.Fits) :
    (Varint.encode (v.serialType ff)).length = sqlite3VarintLen (v.serialType ff) := by
  have hlt : v.serialType ff < 2^32 := serialType_lt h
  rw [sqlite3VarintLen_eq, Varint.length_encode (by omega)]

/-- The first of the fields. -/
theorem FieldsAt.head (h : FieldsAt ff nKey1 szHdr1 aKey1 d1 idx1 (v :: vs)) :
    FieldAt ff nKey1 aKey1 d1 idx1 v := by
  obtain ⟨rest, hrest⟩ := h.types
  obtain ⟨rest', hrest'⟩ := h.contents
  have hroom := h.room
  rw [contentBytes_cons, List.length_append, length_content] at hroom
  refine ⟨⟨serialTypeBytes ff vs ++ rest, ?_⟩, ⟨contentBytes ff vs ++ rest', ?_⟩, by omega,
    h.fits v List.mem_cons_self⟩
  · rw [hrest, serialTypeBytes_cons, List.append_assoc]
  · rw [hrest', contentBytes_cons, List.append_assoc]

/-- The fields after it. -/
theorem FieldsAt.tail (h : FieldsAt ff nKey1 szHdr1 aKey1 d1 idx1 (v :: vs)) :
    FieldsAt ff nKey1 szHdr1 aKey1 (d1 + sqlite3VdbeSerialTypeLen (v.serialType ff))
      (idx1 + sqlite3VarintLen (v.serialType ff)) vs := by
  obtain ⟨rest, hrest⟩ := h.types
  obtain ⟨rest', hrest'⟩ := h.contents
  have hroom := h.room
  have hheader := h.header
  have hlen : (Varint.encode (v.serialType ff)).length = sqlite3VarintLen (v.serialType ff) :=
    length_encode_serialType (h.fits v List.mem_cons_self)
  rw [contentBytes_cons, List.length_append, length_content] at hroom
  rw [serialTypeBytes_cons, List.length_append, hlen] at hheader
  refine ⟨⟨rest, ?_⟩, ⟨rest', ?_⟩, by omega, by omega,
    fun u hu => h.fits u (List.mem_cons_of_mem v hu)⟩
  · rw [← List.drop_drop, hrest, serialTypeBytes_cons, List.append_assoc, ← hlen, List.drop_left]
  · rw [← List.drop_drop, hrest', contentBytes_cons, List.append_assoc, ← length_content,
      List.drop_left]

/-- There is another field as long as the header has not ended. -/
theorem FieldsAt.lt_iff (h : FieldsAt ff nKey1 szHdr1 aKey1 d1 idx1 vs) :
    idx1 < szHdr1 ∧ d1 ≤ nKey1 ↔ vs ≠ [] := by
  have hheader := h.header
  have hroom := h.room
  cases vs with
  | nil =>
    have hnil : (serialTypeBytes ff []).length = 0 := rfl
    refine iff_of_false ?_ (fun hne => hne rfl)
    omega
  | cons v vs =>
    obtain ⟨b, bs, hcons, -⟩ := Varint.encode_eq_cons (v.serialType ff)
    rw [serialTypeBytes_cons, hcons, List.length_append, List.length_cons] at hheader
    exact iff_of_true (by omega) (List.cons_ne_nil v vs)

variable {p : UnpackedKey} {i : ℕ}

/-- A pass of the loop compares a column. -/
theorem comparePass_spec {c : Mem} {column : Option CollSeq × Bool}
    (h : FieldAt ff nKey1 aKey1 d1 idx1 v) (hmem : p.aMem[i]? = some c)
    (hcol : p.pKeyInfo[i]? = some column) (hc : c.IsValue p.enc) :
    comparePass nKey1 aKey1 p i d1 idx1 =
      .ok (if columnCompare column (v.cell p.enc) c ≠ 0 then
        .done (columnCompare column (v.cell p.enc) c) p
      else .equal (d1 + sqlite3VdbeSerialTypeLen (v.serialType ff))
        (idx1 + sqlite3VarintLen (v.serialType ff))) := by
  obtain ⟨coll, desc⟩ := column
  obtain ⟨t, hrun, ht⟩ := compareField_spec coll h hc
  have hzero : columnCompare (coll, desc) (v.cell p.enc) c ≠ 0 ↔
      classCompare coll (v.cell p.enc) c ≠ 0 := by
    unfold columnCompare
    split_ifs
    · exact neg_ne_zero
    · exact Iff.rfl
  unfold comparePass
  rw [hmem, hcol]
  simp only [hrun, bind, Except.bind, pure, Except.pure]
  by_cases hne : classCompare coll (v.cell p.enc) c ≠ 0
  · rw [if_pos hne, if_pos (hzero.mpr hne)]
    rfl
  · rw [if_neg hne, if_neg (fun h => hne (hzero.mp h)), ht (not_not.mp hne)]

/-- The loop compares column by column. -/
theorem compareLoop_spec (hp : p.IsKey p.enc) (left : ℕ)
    (h : FieldsAt ff nKey1 szHdr1 aKey1 d1 idx1 (v :: vs)) (hi : i + left + 1 = p.nField) :
    compareLoop nKey1 aKey1 p szHdr1 left i d1 idx1 =
      .ok (p.finish (lexBy ((p.pKeyInfo.map columnCompare).drop i)
        ((v :: vs).map (Value.cell p.enc)) (p.keys.drop i)), p) := by
  -- The offsets go along the record while the columns of the key are used up.
  induction left generalizing i d1 idx1 v vs with
  | zero =>
    obtain ⟨c, column, hmem, hcol, hc, hkeys, hcmps⟩ := hp.column (show i < p.nField by omega)
    have hlast : p.keys.drop (i + 1) = [] := UnpackedRecord.drop_keys (by omega)
    unfold compareLoop
    rw [comparePass_spec h.head hmem hcol hc, hkeys, hcmps, List.map_cons, lexBy, hlast,
      lexBy_nil_right]
    unfold UnpackedRecord.finish
    by_cases hne : columnCompare column (v.cell p.enc) c ≠ 0
    · simp only [if_pos hne]
      rfl
    · simp only [if_neg hne, ne_eq, not_true_eq_false, ↓reduceIte]
      rfl
  | succ left ih =>
    obtain ⟨c, column, hmem, hcol, hc, hkeys, hcmps⟩ := hp.column (show i < p.nField by omega)
    unfold compareLoop
    rw [comparePass_spec h.head hmem hcol hc, hkeys, hcmps, List.map_cons, lexBy]
    by_cases hne : columnCompare column (v.cell p.enc) c ≠ 0
    · unfold UnpackedRecord.finish
      simp only [if_pos hne]
      rfl
    · simp only [if_neg hne, bind, Except.bind]
      by_cases hmore : vs ≠ []
      · obtain ⟨v', vs', rfl⟩ := List.exists_cons_of_ne_nil hmore
        rw [if_pos (h.tail.lt_iff.mpr hmore), ih h.tail (by omega)]
      · -- The record has no more columns.
        rw [if_neg (fun hlt => hmore (h.tail.lt_iff.mp hlt)), not_not.mp hmore, List.map_nil,
          lexBy_nil_left]
        rfl

end loop

/-! ## Records -/

section records

variable {ff : ℕ} {us : List Value} {p : UnpackedKey}

/-- The size of a record's header, and where its serial types start. -/
theorem readVarint32_record (hlen : (record ff us).length < 2^32) (slack : List Byte) :
    readVarint32 (record ff us ++ slack) 0 = .ok (headerSize (serialTypeBytes ff us).length,
      (Varint.encode (headerSize (serialTypeBytes ff us).length)).length) := by
  have hrecord : record ff us ++ slack =
      Varint.encode (headerSize (serialTypeBytes ff us).length) ++
        (serialTypeBytes ff us ++ contentBytes ff us ++ slack) := by
    unfold record
    simp only [List.append_assoc]
  unfold readVarint32
  rw [List.drop_zero, hrecord, getVarint32_encode (headerSize_record hlen).2]
  simp only [List.length_append, Except.ok.injEq, Prod.mk.injEq, true_and]
  omega

/-- The fields of a record. -/
theorem fieldsAt_record (hfits : ∀ v ∈ us, v.Fits) (hlen : (record ff us).length < 2^32)
    (slack : List Byte) : FieldsAt ff (record ff us).length
      (headerSize (serialTypeBytes ff us).length) (record ff us ++ slack)
      (headerSize (serialTypeBytes ff us).length)
      (Varint.encode (headerSize (serialTypeBytes ff us).length)).length us := by
  have hheader := (headerSize_record hlen).1
  refine ⟨⟨contentBytes ff us ++ slack, ?_⟩, ⟨slack, ?_⟩, hheader.symm, ?_, hfits⟩
  · unfold record
    rw [List.append_assoc, List.append_assoc, List.drop_left]
  · unfold record
    rw [List.append_assoc, List.drop_left' (by rw [List.length_append]; exact hheader.symm)]
  · unfold record
    simp only [List.length_append]
    omega

/-- A stored record compares to a key as its values do, column by column. Nothing outside the record
is read, and the key is left as it is. -/
theorem sqlite3VdbeRecordCompare_spec (hp : p.IsKey p.enc) (hne : us ≠ [])
    (hfits : ∀ v ∈ us, v.Fits) (hlen : (record ff us).length < 2^32) (slack : List Byte) :
    sqlite3VdbeRecordCompare (record ff us).length (record ff us ++ slack) p =
      .ok (p.compare p.enc us, p) := by
  obtain ⟨v, vs, rfl⟩ := List.exists_cons_of_ne_nil hne
  have hfields := fieldsAt_record hfits hlen slack
  have hheader : ¬ (record ff (v :: vs)).length <
      headerSize (serialTypeBytes ff (v :: vs)).length := by
    have := hfields.room.1
    omega
  have hpos := hp.pos
  unfold sqlite3VdbeRecordCompare vdbeRecordCompareWithSkip
  simp only [Bool.false_eq_true, ↓reduceIte, bind, Except.bind]
  rw [readVarint32_record hlen]
  simp only [if_neg hheader]
  rw [compareLoop_spec hp (p.nField - 1) hfields (by omega), List.drop_zero, List.drop_zero]
  rfl

end records

end SQPyte
