import SQPyte.Vdbe.KeyCompare

/-!
# The comparison that `sqlite3VdbeFindCompare` chooses

For an index of at most 13 columns, a key that starts with an integer or, without a collation, with
a text is compared by a routine of its own, which looks at the first field where it knows it to be
and goes on with the general routine only if that is equal. `sqlite3VdbeFindCompare` chooses the
routine and writes into the key what it returns for a difference in the first column.

The routines find the size of the header in the first byte of a record, and the first serial type
from the second one on. That the header has less than 64 bytes is what the limit of 13 columns is
for: if the first type takes one byte, the others take five at most (`headerSize_lt`).
-/

namespace SQPyte

open Comparator

/-! ## The code -/

/-- The switch of `vdbeRecordCompareInt`, for the content at `at_`: the integer, or `none` if the
field is something else. -/
def firstInt (serial_type : ℕ) (pKey1 : List Byte) (at_ : ℕ) : Except Exc (Option ℤ) :=
  match serial_type with
  | 1 => do return some (ONE_BYTE_INT (← bytesAt pKey1 at_ 1))
  | 2 => do return some (TWO_BYTE_INT (← bytesAt pKey1 at_ 2))
  | 3 => do return some (THREE_BYTE_INT (← bytesAt pKey1 at_ 3))
  | 4 => do
    let y := FOUR_BYTE_UINT (← bytesAt pKey1 at_ 4)
    return some (BitVec.ofInt 32 y).toInt
  | 5 => do
    let aKey ← bytesAt pKey1 at_ 6
    return some (FOUR_BYTE_UINT (aKey.drop 2) + 2^32 * TWO_BYTE_INT aKey)
  | 6 => do
    let aKey ← bytesAt pKey1 at_ 8
    return some (BitVec.ofInt 64 (2^32 * FOUR_BYTE_UINT aKey + FOUR_BYTE_UINT (aKey.drop 4))).toInt
  | 8 => return some 0
  | 9 => return some 1
  | _ => return none

/-- What the two routines do when the first columns are equal. -/
def compareOthers (nKey1 : ℕ) (pKey1 : List Byte) (pPKey2 : UnpackedKey) :
    Except Exc (ℤ × UnpackedKey) :=
  if 1 < pPKey2.nField then vdbeRecordCompareWithSkip nKey1 pKey1 pPKey2 true
  else .ok (pPKey2.default_rc, pPKey2)

/-- `vdbeRecordCompareInt`. -/
def vdbeRecordCompareInt (nKey1 : ℕ) (pKey1 : List Byte) (pPKey2 : UnpackedKey) :
    Except Exc (ℤ × UnpackedKey) := do
  let szHdr ← byteAt pKey1 0
  let serial_type ← byteAt pKey1 1
  match pPKey2.aMem[0]? with
  | none => .error .memory
  | some pRhs =>
    let v := pRhs.u_i
    -- The header is taken to have less than 64 bytes.
    match ← firstInt serial_type pKey1 (szHdr &&& 0x3F) with
    | none => sqlite3VdbeRecordCompare nKey1 pKey1 pPKey2
    | some lhs =>
      if lhs < v then return (pPKey2.r1, pPKey2)
      else if v < lhs then return (pPKey2.r2, pPKey2)
      else compareOthers nKey1 pKey1 pPKey2

/-- `vdbeRecordCompareString`. -/
def vdbeRecordCompareString (nKey1 : ℕ) (aKey1 : List Byte) (pPKey2 : UnpackedKey) :
    Except Exc (ℤ × UnpackedKey) := do
  let (serial_type, _) ← readVarint32 aKey1 1
  -- The serial type is an `int` here.
  if serial_type < 12 ∨ 2^31 ≤ serial_type then return (pPKey2.r1, pPKey2)
  else if serial_type % 2 = 0 then return (pPKey2.r2, pPKey2)
  else
    let szHdr ← byteAt aKey1 0
    let nStr := (serial_type - 12) / 2
    if nKey1 < szHdr + nStr then return (0, { pPKey2 with errCode := SQLITE_CORRUPT })
    else
      match pPKey2.aMem[0]? with
      | none => .error .memory
      | some pRhs =>
        let res := memcmp (← bytesAt aKey1 szHdr nStr) pRhs.bytes
        let res := if res = 0 then (nStr : ℤ) - pRhs.n else res
        if res = 0 then compareOthers nKey1 aKey1 pPKey2
        else if 0 < res then return (pPKey2.r2, pPKey2)
        else return (pPKey2.r1, pPKey2)

/-- `RecordCompare`: the comparisons that there are. -/
inductive RecordCompare where
  | vdbeRecordCompareInt
  | vdbeRecordCompareString
  | sqlite3VdbeRecordCompare
deriving DecidableEq, Repr

/-- Calls a comparison. -/
def RecordCompare.call : RecordCompare → ℕ → List Byte → UnpackedKey →
    Except Exc (ℤ × UnpackedKey)
  | .vdbeRecordCompareInt => SQPyte.vdbeRecordCompareInt
  | .vdbeRecordCompareString => SQPyte.vdbeRecordCompareString
  | .sqlite3VdbeRecordCompare => SQPyte.sqlite3VdbeRecordCompare

/-- `sqlite3VdbeFindCompare`: the comparison for a key, and the key with `r1` and `r2`. -/
def sqlite3VdbeFindCompare (p : UnpackedKey) : Except Exc (RecordCompare × UnpackedKey) :=
  if p.pKeyInfo.length ≤ 13 then
    match p.aMem[0]?, p.pKeyInfo[0]? with
    | some pMem, some (aColl, aSortOrder) =>
      let p := { p with r1 := if aSortOrder then 1 else -1, r2 := if aSortOrder then -1 else 1 }
      if pMem.flags.has MEM_Int then .ok (.vdbeRecordCompareInt, p)
      else if !pMem.flags.has (MEM_Real ||| MEM_Null ||| MEM_Blob) && aColl.isNone then
        .ok (.vdbeRecordCompareString, p)
      else .ok (.sqlite3VdbeRecordCompare, p)
    | _, _ => .error .memory
  else .ok (.sqlite3VdbeRecordCompare, p)

/-! ## The header -/

section header

variable {ff : ℕ} {v : Value} {us vs : List Value} {slack : List Byte}

/-- With at most 13 columns, the size of the header takes one byte. -/
theorem headerSize_of_length_le (hfits : ∀ u ∈ us, u.Fits) (hcolumns : us.length ≤ 13) :
    headerSize (serialTypeBytes ff us).length = (serialTypeBytes ff us).length + 1 ∧
      headerSize (serialTypeBytes ff us).length < 128 := by
  have hle : (serialTypeBytes ff us).length ≤ 5 * us.length := length_serialTypeBytes_le hfits
  have heq : headerSize (serialTypeBytes ff us).length = (serialTypeBytes ff us).length + 1 :=
    if_pos (by omega)
  exact ⟨heq, by omega⟩

/-- If the first serial type takes one byte, the header of at most 13 columns has less than 64. -/
theorem headerSize_lt (hfits : ∀ u ∈ v :: vs, u.Fits) (hcolumns : (v :: vs).length ≤ 13)
    (hfirst : v.serialType ff < 128) : headerSize (serialTypeBytes ff (v :: vs)).length < 64 := by
  have hle : (serialTypeBytes ff vs).length ≤ 5 * vs.length :=
    length_serialTypeBytes_le fun u hu => hfits u (List.mem_cons_of_mem v hu)
  rw [List.length_cons] at hcolumns
  calc headerSize (serialTypeBytes ff (v :: vs)).length
      = (serialTypeBytes ff (v :: vs)).length + 1 :=
        (headerSize_of_length_le hfits hcolumns).1
    _ = 1 + (serialTypeBytes ff vs).length + 1 := by
        rw [serialTypeBytes_cons, Varint.encode_of_lt hfirst, List.length_append,
          List.length_singleton]
    _ ≤ 1 + 5 * 12 + 1 := by omega
    _ < 64 := by decide

/-- Where the routines find the size of the header and the fields. -/
theorem fieldsAt_one (hfits : ∀ u ∈ us, u.Fits) (hcolumns : us.length ≤ 13)
    (hlen : (record ff us).length < 2^32) (slack : List Byte) :
    byteAt (record ff us ++ slack) 0 = .ok (headerSize (serialTypeBytes ff us).length) ∧
      FieldsAt ff (record ff us).length (headerSize (serialTypeBytes ff us).length)
        (record ff us ++ slack) (headerSize (serialTypeBytes ff us).length) 1 us := by
  have hsize : headerSize (serialTypeBytes ff us).length < 128 :=
    (headerSize_of_length_le hfits hcolumns).2
  have hencode := Varint.encode_of_lt hsize
  have hfields := fieldsAt_record hfits hlen slack
  rw [hencode] at hfields
  refine ⟨?_, hfields⟩
  have hbyte : (UInt8.ofNat (headerSize (serialTypeBytes ff us).length)).toNat =
      headerSize (serialTypeBytes ff us).length := by
    rw [UInt8.toNat_ofNat']
    omega
  unfold byteAt record
  rw [hencode]
  simp only [List.cons_append, List.getElem?_cons_zero]
  rw [hbyte]

end header

/-! ## The first column -/

section first

variable {ff nKey1 szHdr1 : ℕ} {pKey1 : List Byte} {d1 idx1 : ℕ} {v : Value} {vs : List Value}
  {p : UnpackedKey}

/-- The switch decodes as the general routine does. -/
theorem firstInt_eq {t : ℕ} (ht : t ∈ [1, 2, 3, 4, 5, 6]) (pKey1 : List Byte) (d1 : ℕ) :
    firstInt t pKey1 d1 = (bytesAt pKey1 d1 (sqlite3VdbeSerialTypeLen t)).map fun aKey =>
      some (vdbeRecordDecodeInt t aKey) := by
  have hmap : ∀ (x : Except Exc (List Byte)) (f : List Byte → ℤ),
      (do return some (f (← x))) = x.map fun aKey => some (f aKey) := fun x f => by
    cases x <;> rfl
  simp only [List.mem_cons, List.not_mem_nil, or_false] at ht
  rcases ht with rfl | rfl | rfl | rfl | rfl | rfl
  · exact hmap (bytesAt pKey1 d1 1) (vdbeRecordDecodeInt 1)
  · exact hmap (bytesAt pKey1 d1 2) (vdbeRecordDecodeInt 2)
  · exact hmap (bytesAt pKey1 d1 3) (vdbeRecordDecodeInt 3)
  · exact hmap (bytesAt pKey1 d1 4) (vdbeRecordDecodeInt 4)
  · exact hmap (bytesAt pKey1 d1 6) (vdbeRecordDecodeInt 5)
  · exact hmap (bytesAt pKey1 d1 8) (vdbeRecordDecodeInt 6)

/-- The switch finds an integer. -/
theorem firstInt_int {i : ℤ} (h : FieldAt ff nKey1 pKey1 d1 idx1 (.int i)) :
    ∃ b, byteAt pKey1 idx1 = .ok b ∧ firstInt b pKey1 d1 = .ok (some i) := by
  obtain ⟨b, hb, hbt, h12⟩ := h.byteAt_eq
  have hbytes := h.bytesAt_eq
  obtain ⟨ht, -, hdecode⟩ := h.decodeInt_eq
  obtain rfl := hbt.resolve_right (by have := (serialType_int_lt ht).1; omega)
  refine ⟨_, hb, ?_⟩
  generalize (Value.int i).serialType ff = t at ht hbytes hdecode ⊢
  rcases ht with rfl | rfl | ht
  · exact congrArg (fun i => Except.ok (some i)) hdecode
  · exact congrArg (fun i => Except.ok (some i)) hdecode
  · rw [firstInt_eq ht, hbytes]
    exact congrArg (fun i => Except.ok (some i)) hdecode

/-- The switch takes nothing else for an integer. -/
theorem firstInt_other (h : FieldAt ff nKey1 pKey1 d1 idx1 v) (hv : ∀ i, v ≠ .int i) (at_ : ℕ) :
    ∃ b, byteAt pKey1 idx1 = .ok b ∧ firstInt b pKey1 at_ = .ok none := by
  obtain ⟨b, hb, hbt, h12⟩ := h.byteAt_eq
  have hbig : 12 ≤ b → firstInt b pKey1 at_ = .ok none := by
    intro hge
    unfold firstInt
    split <;> first | omega | rfl
  refine ⟨b, hb, ?_⟩
  cases v with
  | null =>
    obtain rfl : b = 0 := hbt.resolve_right (by rw [h12]; exact Nat.not_succ_le_zero 11)
    rfl
  | int i => exact absurd rfl (hv i)
  | real x =>
    obtain rfl : b = 7 := hbt.resolve_right (by rw [h12]; simp [Value.serialType])
    rfl
  | text z => exact hbig (h12.mpr (serialType_text_ge z))
  | blob z => exact hbig (h12.mpr (serialType_blob_ge z))

/-- The first column decides, or else the others do. -/
theorem UnpackedRecord.compare_cons {p : UnpackedRecord} {enc : ℕ} (hp : p.IsKey enc) (v : Value)
    (vs : List Value) : ∃ c column, p.aMem[0]? = some c ∧ p.pKeyInfo[0]? = some column ∧
      c.IsValue enc ∧ p.compare enc (v :: vs) =
        if columnCompare column (v.cell enc) c ≠ 0 then columnCompare column (v.cell enc) c
        else p.finish (lexBy ((p.pKeyInfo.map columnCompare).drop 1) (vs.map (Value.cell enc))
          (p.keys.drop 1)) := by
  obtain ⟨c, column, hmem, hcol, hc, hkeys, hcmps⟩ := hp.column hp.pos
  refine ⟨c, column, hmem, hcol, hc, ?_⟩
  rw [List.drop_zero] at hkeys hcmps
  have hlex : lexBy (p.pKeyInfo.map columnCompare) ((v :: vs).map (Value.cell enc)) p.keys =
      if columnCompare column (v.cell enc) c ≠ 0 then columnCompare column (v.cell enc) c
      else lexBy ((p.pKeyInfo.map columnCompare).drop 1) (vs.map (Value.cell enc))
        (p.keys.drop 1) := by
    conv_lhs => rw [hkeys, hcmps]
    rfl
  unfold UnpackedRecord.compare
  rw [hlex]
  split_ifs with hne
  · exact if_pos hne
  · rfl

/-- The columns after the first. -/
theorem compareOthers_spec (hp : p.IsKey p.enc)
    (h : FieldsAt ff nKey1 szHdr1 pKey1 szHdr1 1 (v :: vs)) (hbyte : byteAt pKey1 0 = .ok szHdr1)
    (hmore : 1 < p.nField → vs ≠ []) :
    compareOthers nKey1 pKey1 p = .ok (p.finish (lexBy ((p.pKeyInfo.map columnCompare).drop 1)
      (vs.map (Value.cell p.enc)) (p.keys.drop 1)), p) := by
  unfold compareOthers
  split_ifs with hfields
  · obtain ⟨v', vs', rfl⟩ := List.exists_cons_of_ne_nil (hmore hfields)
    unfold vdbeRecordCompareWithSkip
    rw [h.head.readVarint32_eq, hbyte]
    exact compareLoop_spec hp (p.nField - 2) h.tail (by omega)
  · rw [UnpackedRecord.drop_keys (by omega : p.nField ≤ 1), lexBy_nil_right]
    rfl

/-- What is returned for a difference in the first column. -/
structure UnpackedKey.Signs (p : UnpackedKey) (desc : Bool) : Prop where
  /-- For a record that is less. -/
  r1 : p.r1 = if desc then 1 else -1
  /-- For a record that is greater. -/
  r2 : p.r2 = if desc then -1 else 1

/-- A record and a key that the routines are made for. -/
structure Comparable (ff : ℕ) (p : UnpackedKey) (us : List Value) : Prop where
  /-- The key is one. -/
  isKey : p.IsKey p.enc
  /-- The record has no more columns than the index. -/
  columns : us.length ≤ p.pKeyInfo.length
  /-- It has a column, and more than one if the key has. -/
  fields : us ≠ [] ∧ (1 < p.nField → 1 < us.length)
  /-- It is a record of values. -/
  fits : ∀ u ∈ us, u.Fits
  /-- Its length is a 32-bit number. -/
  length_lt : (record ff us).length < 2^32

/-- The routine for integers, once it has read what it needs. -/
theorem vdbeRecordCompareInt_eq {szHdr b : ℕ} {c : Mem} {first : Option ℤ}
    (hbyte : byteAt pKey1 0 = .ok szHdr) (hb : byteAt pKey1 1 = .ok b) (hmem : p.aMem[0]? = some c)
    (hfirst : firstInt b pKey1 (szHdr &&& 0x3F) = .ok first) :
    vdbeRecordCompareInt nKey1 pKey1 p = first.elim (sqlite3VdbeRecordCompare nKey1 pKey1 p)
      fun lhs => if lhs < c.u_i then .ok (p.r1, p) else if c.u_i < lhs then .ok (p.r2, p)
        else compareOthers nKey1 pKey1 p := by
  unfold vdbeRecordCompareInt
  rw [hbyte, hb, hmem]
  simp only [bind, Except.bind, pure, Except.pure, hfirst]
  cases first <;> rfl

/-- The routine for integers. -/
theorem vdbeRecordCompareInt_spec {us : List Value} (h : Comparable ff p us)
    (hfew : p.pKeyInfo.length ≤ 13) {c : Mem} {coll : Option CollSeq} {desc : Bool}
    (hmem : p.aMem[0]? = some c) (hcol : p.pKeyInfo[0]? = some (coll, desc))
    (hint : c.flags.has MEM_Int = true) (hsigns : p.Signs desc) (slack : List Byte) :
    vdbeRecordCompareInt (record ff us).length (record ff us ++ slack) p =
      .ok (p.compare p.enc us, p) := by
  obtain ⟨v, vs, rfl⟩ := List.exists_cons_of_ne_nil h.fields.1
  have hcolumns : (v :: vs).length ≤ 13 := h.columns.trans hfew
  have hgeneral := sqlite3VdbeRecordCompare_spec h.isKey h.fields.1 h.fits h.length_lt slack
  obtain ⟨hbyte, hfields⟩ := fieldsAt_one h.fits hcolumns h.length_lt slack
  obtain ⟨c', column, hmem', hcol', hc, hcompare⟩ := p.compare_cons h.isKey v vs
  obtain rfl : c = c' := Option.some.inj (hmem.symm.trans hmem')
  obtain rfl : (coll, desc) = column := Option.some.inj (hcol.symm.trans hcol')
  by_cases hv : ∃ i, v = .int i
  · -- Two integers: the result is `r1` or `r2`, or the other columns decide.
    obtain ⟨i, rfl⟩ := hv
    obtain ⟨b, hb, hfirst⟩ := firstInt_int hfields.head
    have hlt : (Value.int i).serialType ff < 12 :=
      (serialType_int_lt hfields.head.decodeInt_eq.1).1
    -- The header is short enough for its size to be one byte, whose low bits are the size.
    have hmask : headerSize (serialTypeBytes ff (.int i :: vs)).length &&& 0x3F =
        headerSize (serialTypeBytes ff (.int i :: vs)).length := by
      have : headerSize (serialTypeBytes ff (.int i :: vs)).length < 64 :=
        headerSize_lt h.fits hcolumns (by omega)
      rw [Nat.and_two_pow_sub_one_eq_mod _ 6]
      omega
    -- When the first columns are equal, the comparison goes on with the second.
    have hothers := compareOthers_spec h.isKey hfields hbyte fun hmore =>
      List.ne_nil_of_length_pos (Nat.lt_of_succ_lt_succ (h.fields.2 hmore))
    have hclass : classCompare coll ((Value.int i).cell p.enc) c =
        if i < c.u_i then -1 else if c.u_i < i then 1 else 0 := by
      rw [classCompare_cell_number p.enc _ (hc.class_of_number (Or.inl hint))]
      simp only [Value.storageClass]
      rw [numberCompare_ints (by simp [Value.cell]) hint,
        u_i_cell p.enc (h.fits _ List.mem_cons_self)]
    have hcolumn : columnCompare (coll, desc) ((Value.int i).cell p.enc) c =
        if i < c.u_i then p.r1 else if c.u_i < i then p.r2 else 0 := by
      unfold columnCompare
      rw [hclass, hsigns.r1, hsigns.r2]
      split_ifs <;> rfl
    have hr : p.r1 ≠ 0 ∧ p.r2 ≠ 0 := by
      rw [hsigns.r1, hsigns.r2]
      split_ifs <;> decide
    rw [vdbeRecordCompareInt_eq hbyte hb hmem (by rw [hmask]; exact hfirst), hcompare, hcolumn,
      Option.elim_some]
    rcases lt_trichotomy i c.u_i with hi | hi | hi
    · simp only [if_pos hi, if_pos hr.1]
    · simp only [hi, lt_irrefl, ↓reduceIte, ne_eq, not_true_eq_false]
      rw [hi] at hothers
      exact hothers
    · simp only [if_neg hi.not_gt, if_pos hi, if_pos hr.2]
  · -- What else there may be is left to the general routine.
    obtain ⟨b, hb, hfirst⟩ := firstInt_other hfields.head (fun i hi => hv ⟨i, hi⟩)
      (headerSize (serialTypeBytes ff (v :: vs)).length &&& 0x3F)
    rw [vdbeRecordCompareInt_eq hbyte hb hmem hfirst]
    exact hgeneral

/-- A serial type is no negative `int`. -/
theorem serialType_lt_int (h : v.Fits) : v.serialType ff < 2^31 := by
  cases v with
  | null => exact Nat.two_pow_pos 31
  | int i =>
    obtain ⟨ht, -⟩ | ⟨ht, -⟩ | ⟨t, hmem, ht, -⟩ := serial_type_of_int_spec i ff h.1 h.2
    · simp only [Value.serialType, ht]
      omega
    · simp only [Value.serialType, ht]
      omega
    · simp only [List.mem_cons, List.not_mem_nil, or_false] at hmem
      simp only [Value.serialType, ht]
      omega
  | real x => exact (by decide : 7 < 2^31)
  | text z =>
    have : z.length ≤ 1000000000 := h
    simp only [Value.serialType]
    omega
  | blob z =>
    have : z.length ≤ 1000000000 := h
    simp only [Value.serialType]
    omega

/-- The routine for texts, by the class of the first field. -/
theorem vdbeRecordCompareString_eq {c : Mem}
    (h : FieldAt ff nKey1 pKey1 szHdr1 1 v) (hbyte : byteAt pKey1 0 = .ok szHdr1)
    (hmem : p.aMem[0]? = some c) :
    vdbeRecordCompareString nKey1 pKey1 p = match v.storageClass with
      | .text =>
        if sqlite3BlobCompare (v.cell p.enc) c = 0 then compareOthers nKey1 pKey1 p
        else if 0 < sqlite3BlobCompare (v.cell p.enc) c then .ok (p.r2, p) else .ok (p.r1, p)
      | .blob => .ok (p.r2, p)
      | _ => .ok (p.r1, p) := by
  have hbytes := h.bytesAt_eq
  have hroom := h.room.1
  have hint : ¬ 2^31 ≤ v.serialType ff := Nat.not_le.mpr (serialType_lt_int h.fits)
  unfold vdbeRecordCompareString
  rw [h.readVarint32_eq, hbyte, hmem]
  simp only [bind, Except.bind, pure, Except.pure, hint, or_false]
  cases v with
  | null => rfl
  | int i =>
    rw [if_pos (serialType_int_lt h.decodeInt_eq.1).1]
    rfl
  | real x => rfl
  | text z =>
    have hge : 12 ≤ (Value.text z).serialType ff := serialType_text_ge z
    have hlen : sqlite3VdbeSerialTypeLen ((Value.text z).serialType ff) = z.length :=
      sqlite3VdbeSerialTypeLen_text _
    obtain ⟨hodd, hn⟩ := serialType_text ff z
    have hres : (if memcmp z c.bytes = 0 then (z.length : ℤ) - c.n else memcmp z c.bytes) =
        sqlite3BlobCompare ((Value.text z).cell p.enc) c := by
      simp only [sqlite3BlobCompare, Value.cell, bytes_textCell]
      by_cases h0 : memcmp z c.bytes = 0
      · rw [if_pos h0, if_neg (not_not.mpr h0)]
        rfl
      · rw [if_neg h0, if_pos h0]
    rw [hlen] at hbytes hroom
    rw [if_neg (by omega), if_neg (by omega), hn, if_neg (by omega),
      show bytesAt pKey1 szHdr1 z.length = .ok z from hbytes]
    simp only [hres, Value.storageClass]
  | blob z =>
    have hge : 12 ≤ (Value.blob z).serialType ff := serialType_blob_ge z
    rw [if_neg (by omega), if_pos (serialType_blob ff z).1]
    rfl

/-- The routine for texts gives a result with the same sign. -/
theorem vdbeRecordCompareString_spec {us : List Value} (h : Comparable ff p us)
    (hfew : p.pKeyInfo.length ≤ 13) {c : Mem} {desc : Bool}
    (hmem : p.aMem[0]? = some c) (hcol : p.pKeyInfo[0]? = some (none, desc))
    (hclass : c.storageClass = .text) (hsigns : p.Signs desc) (slack : List Byte) :
    ∃ rc, vdbeRecordCompareString (record ff us).length (record ff us ++ slack) p = .ok (rc, p) ∧
      rc.sign = (p.compare p.enc us).sign := by
  obtain ⟨v, vs, rfl⟩ := List.exists_cons_of_ne_nil h.fields.1
  obtain ⟨hbyte, hfields⟩ := fieldsAt_one h.fits (h.columns.trans hfew) h.length_lt slack
  obtain ⟨c', column, hmem', hcol', hc, hcompare⟩ := p.compare_cons h.isKey v vs
  obtain rfl : c = c' := Option.some.inj (hmem.symm.trans hmem')
  obtain rfl : (none, desc) = column := Option.some.inj (hcol.symm.trans hcol')
  have hcell : classCompare none (v.cell p.enc) c = _ := classCompare_cell_text p.enc v hclass
  -- The shortcut's two results have the sign of the general comparison, also for a descending
  -- column.
  have hsign : ∀ rc, classCompare none (v.cell p.enc) c = rc → rc ≠ 0 →
      (if 0 < rc then p.r2 else p.r1).sign = (p.compare p.enc (v :: vs)).sign := by
    intro rc hrc hne
    have hcolumn : columnCompare (none, desc) (v.cell p.enc) c = if desc then -rc else rc := by
      unfold columnCompare
      rw [hrc]
    rw [hcompare, hcolumn, hsigns.r1, hsigns.r2]
    rcases lt_or_gt_of_ne hne with hlt | hgt
    · rw [if_neg hlt.not_gt]
      cases desc with
      | false => simp [hne, Int.sign_eq_neg_one_of_neg hlt]
      | true => simp [hne, Int.sign_eq_neg_one_of_neg hlt]
    · rw [if_pos hgt]
      cases desc with
      | false => simp [hne, Int.sign_eq_one_of_pos hgt]
      | true => simp [hne, Int.sign_eq_one_of_pos hgt]
  -- The record's first serial type decides which branch is taken.
  rw [vdbeRecordCompareString_eq hfields.head hbyte hmem]
  cases hv : v.storageClass with
  | null =>
    rw [hv] at hcell
    exact ⟨p.r1, rfl, hsign (-1) hcell (by decide)⟩
  | number =>
    rw [hv] at hcell
    exact ⟨p.r1, rfl, hsign (-1) hcell (by decide)⟩
  | blob =>
    rw [hv] at hcell
    exact ⟨p.r2, rfl, hsign 1 hcell (by decide)⟩
  | text =>
    rw [hv] at hcell
    have hcell : classCompare none (v.cell p.enc) c = sqlite3BlobCompare (v.cell p.enc) c := hcell
    by_cases h0 : sqlite3BlobCompare (v.cell p.enc) c = 0
    · -- The first columns are equal.
      refine ⟨p.compare p.enc (v :: vs), ?_, rfl⟩
      have hcolumn : ¬ columnCompare (none, desc) (v.cell p.enc) c ≠ 0 := by
        unfold columnCompare
        rw [hcell, h0]
        cases desc <;> decide
      have hothers := compareOthers_spec h.isKey hfields hbyte fun hmore =>
        List.ne_nil_of_length_pos (Nat.lt_of_succ_lt_succ (h.fields.2 hmore))
      rw [hcompare, if_neg hcolumn]
      simp only [if_pos h0]
      exact hothers
    · have hrc := hsign _ hcell h0
      refine ⟨_, ?_, hrc⟩
      simp only [if_neg h0]
      split_ifs <;> rfl

end first

/-! ## The result -/

/-- The general routine compares a stored record to a key column by column, and the routine that
`sqlite3VdbeFindCompare` chooses gives a result with the same sign. Neither reads outside the record
or finds it corrupt. -/
theorem findCompare_agrees {ff : ℕ} {p : UnpackedKey} {us : List Value} (h : Comparable ff p us)
    (slack : List Byte) :
    sqlite3VdbeRecordCompare (record ff us).length (record ff us ++ slack) p =
      .ok (p.compare p.enc us, p) ∧
    ∃ xRecordCompare p' rc, sqlite3VdbeFindCompare p = .ok (xRecordCompare, p') ∧
      p'.toUnpackedRecord = p.toUnpackedRecord ∧ p'.enc = p.enc ∧ p'.errCode = p.errCode ∧
      xRecordCompare.call (record ff us).length (record ff us ++ slack) p' = .ok (rc, p') ∧
      rc.sign = (p.compare p.enc us).sign := by
  have hgeneral := sqlite3VdbeRecordCompare_spec h.isKey h.fields.1 h.fits h.length_lt slack
  refine ⟨hgeneral, ?_⟩
  unfold sqlite3VdbeFindCompare
  by_cases hfew : p.pKeyInfo.length ≤ 13
  · obtain ⟨c, ⟨coll, desc⟩, hmem, hcol, hc, -⟩ := h.isKey.column h.isKey.pos
    let p' : UnpackedKey := { p with
      r1 := if desc then 1 else -1, r2 := if desc then -1 else 1 }
    have h' : Comparable ff p' us := ⟨h.isKey, h.columns, h.fields, h.fits, h.length_lt⟩
    have hsigns : p'.Signs desc := ⟨rfl, rfl⟩
    rw [if_pos hfew, hmem, hcol]
    dsimp only
    by_cases hint : c.flags.has MEM_Int = true
    · rw [if_pos hint]
      exact ⟨.vdbeRecordCompareInt, p', _, rfl, rfl, rfl, rfl,
        vdbeRecordCompareInt_spec h' hfew hmem hcol hint hsigns slack, rfl⟩
    rw [if_neg hint]
    by_cases htext : (!c.flags.has (MEM_Real ||| MEM_Null ||| MEM_Blob) && coll.isNone) = true
    · -- Neither a number, nor NULL, nor a blob.
      have hboth := Bool.and_eq_true_iff.mp htext
      obtain rfl : coll = none := Option.isNone_iff_eq_none.mp hboth.2
      have hint : c.flags.has MEM_Int = false := Bool.eq_false_iff.mpr hint
      have hflags : c.flags.has (MEM_Real ||| MEM_Null ||| MEM_Blob) = false := by
        simpa using hboth.1
      have hno : (c.flags.has MEM_Real = false ∧ c.flags.has MEM_Null = false) ∧
          c.flags.has MEM_Blob = false := by
        simpa only [Flags.has_or_right, Bool.or_eq_false_iff] using hflags
      have hclass : c.storageClass = .text := by
        have hval := hc.nonempty
        rw [hno.1.1, hno.1.2, hno.2, hint] at hval
        exact Mem.storageClass_eq_text.mpr ⟨hno.1.2, hint, hno.1.1, by simpa using hval⟩
      obtain ⟨rc, hrun, hrc⟩ := vdbeRecordCompareString_spec h' hfew hmem hcol hclass hsigns slack
      rw [if_pos htext]
      exact ⟨.vdbeRecordCompareString, p', rc, rfl, rfl, rfl, rfl, hrun, hrc⟩
    · -- A real, NULL or a blob, or a text with a collation.
      have hgeneral' :=
        sqlite3VdbeRecordCompare_spec h'.isKey h'.fields.1 h'.fits h'.length_lt slack
      rw [if_neg htext]
      exact ⟨.sqlite3VdbeRecordCompare, p', _, rfl, rfl, rfl, rfl, hgeneral', rfl⟩
  · -- With more columns, the header may be too long.
    rw [if_neg hfew]
    exact ⟨.sqlite3VdbeRecordCompare, p, _, rfl, rfl, rfl, rfl, hgeneral, rfl⟩

/-- The key 5 for an index on one column, whose entries end with a rowid. -/
def keyFive : UnpackedKey :=
  ⟨⟨[(none, false), (none, false)], 1, 0, [Mem.ofInt 5]⟩, SQLITE_UTF8, 0, 0, 0⟩

/-- Records of two integers can be compared with the key. -/
theorem comparable_keyFive {i j : ℤ} (hi : (Value.int i).Fits) (hj : (Value.int j).Fits)
    (hlen : (record 4 [.int i, .int j]).length < 2^32) :
    Comparable 4 keyFive [.int i, .int j] := by
  refine ⟨⟨by decide, by decide, by decide, ?_⟩, le_refl 2, ⟨List.cons_ne_nil _ _, ?_⟩, ?_, hlen⟩
  · intro c hc
    obtain rfl : c = Mem.ofInt 5 := List.mem_singleton.mp hc
    exact Mem.isValue_ofInt 5
  · exact fun _ => Nat.one_lt_two
  · intro u hu
    simp only [List.mem_cons, List.not_mem_nil, or_false] at hu
    rcases hu with rfl | rfl
    · exact hi
    · exact hj

/-- The routine that is found compares as the key does. -/
theorem findCompare_agrees_keyFive : ∃ xRecordCompare p' rc,
    sqlite3VdbeFindCompare keyFive = .ok (xRecordCompare, p') ∧
      xRecordCompare.call 5 (record 4 [.int 3, .int 7] ++ [0]) p' = .ok (rc, p') ∧
      rc.sign = (keyFive.compare SQLITE_UTF8 [.int 3, .int 7]).sign := by
  have hcomparable : Comparable 4 keyFive [.int 3, .int 7] :=
    comparable_keyFive ⟨by decide, by decide⟩ ⟨by decide, by decide⟩ (by decide)
  obtain ⟨x, p', rc, hfind, -, -, -, hcall, hrc⟩ := (findCompare_agrees hcomparable [0]).2
  exact ⟨x, p', rc, hfind, hcall, hrc⟩

/-! ## Searching an index -/

/-- The order of the rows of an index. -/
def rowCompare (enc : ℕ) (columns : List (Option CollSeq × Bool)) (us us' : List Value) : ℤ :=
  lexBy (columns.map columnCompare) (us.map (Value.cell enc)) (us'.map (Value.cell enc))

/-- Values of each column of an index on which its comparison is a total preorder: the numbers of a
column are of one kind, and its collation is lawful. -/
def ColumnsOfKinds (enc : ℕ) (columns : List (Option CollSeq × Bool)) (Ss : List (Set Mem)) :
    Prop :=
  List.Forall₂ (fun S column => (∀ c ∈ S, c.IsValue enc) ∧ NumbersOfOneKind S ∧
    ∀ coll ∈ column.1, coll.Lawful) Ss columns

/-- The row has a value of each column. -/
def HasColumns (enc : ℕ) (Ss : List (Set Mem)) (us : List Value) : Prop :=
  List.Forall₂ (fun c S => c ∈ S) (us.map (Value.cell enc)) Ss

section search

variable {enc : ℕ} {columns : List (Option CollSeq × Bool)} {Ss : List (Set Mem)}

/-- The comparison of a column is a comparator. -/
theorem isComparator_columnCompare {S : Set Mem} {column : Option CollSeq × Bool}
    (hS : ∀ c ∈ S, c.IsValue enc) (hkind : NumbersOfOneKind S)
    (hcoll : ∀ coll ∈ column.1, coll.Lawful) : IsComparator S (columnCompare column) := by
  have hclass : IsComparator S (classCompare column.1) := isComparator_classCompare hcoll hS hkind
  obtain ⟨coll, desc⟩ := column
  cases desc with
  | false => exact hclass
  | true => exact hclass.neg

/-- Each column is compared by a total preorder. -/
theorem ColumnsOfKinds.isComparator (h : ColumnsOfKinds enc columns Ss) :
    List.Forall₂ IsComparator Ss (columns.map columnCompare) := by
  unfold ColumnsOfKinds at h
  induction h with
  | nil => exact List.Forall₂.nil
  | cons hcolumn _ ih =>
    exact List.Forall₂.cons (isComparator_columnCompare hcolumn.1 hcolumn.2.1 hcolumn.2.2) ih

end search

end SQPyte
