import SQPyte.Record.RoundTrip

/-!
# The records of the C code

`sqlite3VdbeSerialType` of `vdbeaux.c` complements a negative integer before it looks for a width,
where the Python code negates it, and it has the constants from file format 4 on, where the Python
code has them from 5 on. The C code chooses the narrowest type (`sqlite3VdbeSerialType_spec`). The
Python code differs from it at the lowest integer of each width but the last, and at 0 and 1 in file
format 4 (`get_serial_type_of_int_hidden_eq_iff`).

A record starts with its serial types, so two records are the same only if their types are
(`typedRecord_inj`), and `buildsSameRecord_iff` lifts the comparison to whole records.
-/

namespace SQPyte

open BigEndian

namespace Mem

/-- `sqlite3VdbeSerialType` of `vdbeaux.c`. -/
def sqlite3VdbeSerialType (pMem : Mem) (file_format : ℕ) : ℕ :=
  if pMem.flags.has MEM_Null then 0
  else if pMem.flags.has MEM_Int then
    let i := pMem.u
    let u := if i.toInt < 0 then ~~~i else i
    if u.toNat ≤ 127 then
      if i &&& 1#64 = i ∧ file_format ≥ 4 then 8 + u.toNat else 1
    else if u.toNat ≤ 32767 then 2
    else if u.toNat ≤ 8388607 then 3
    else if u.toNat ≤ 2147483647 then 4
    else if u.toNat ≤ MAX_6BYTE then 5
    else 6
  else if pMem.flags.has MEM_Real then 7
  else
    let n := if pMem.flags.has MEM_Zero then pMem.n + pMem.u_nZero else pMem.n
    n.toNat * 2 + 12 + if pMem.flags.has MEM_Str then 1 else 0

/-- What `sqlite3VdbeSerialPut` of `vdbeaux.c` writes. -/
def sqlite3VdbeSerialPut (pMem : Mem) (serial_type : ℕ) : List Byte :=
  if serial_type ≤ 7 ∧ serial_type > 0 then
    toBytes (sqlite3VdbeSerialTypeLen serial_type) pMem.u.toNat
  else if serial_type ≥ 12 then pMem.bytes
  else []

/-- The zeros that the cell implies. -/
def impliedZeros (pMem : Mem) : List Byte :=
  if pMem.flags.has MEM_Zero then List.replicate pMem.u_nZero.toNat 0 else []

end Mem

/-- A header with the serial types `ts`, and the contents. -/
def typedRecord (ts : List ℕ) (content : List Byte) : List Byte :=
  Varint.encode (headerSize (ts.flatMap Varint.encode).length) ++ ts.flatMap Varint.encode ++ content

/-- The record `impl_OP_MakeRecord` of `sqpyte.c` builds. The implied zeros of a blob follow its
bytes: they are stored by `sqlite3VdbeMemExpandBlob`, or implied at the end of the record. -/
def sqliteRecord (file_format : ℕ) (cs : List Mem) : List Byte :=
  typedRecord (cs.map fun pRec => pRec.sqlite3VdbeSerialType file_format) (cs.flatMap fun pRec =>
    pRec.sqlite3VdbeSerialPut (pRec.sqlite3VdbeSerialType file_format) ++ pRec.impliedZeros)

/-! ## The serial types of an integer -/

/-- The integer is in the two's-complement range of the serial type. -/
def FitsType (i : ℤ) (t : ℕ) : Prop :=
  -(256 ^ sqlite3VdbeSerialTypeLen t : ℤ) ≤ 2 * i ∧ 2 * i < 256 ^ sqlite3VdbeSerialTypeLen t

/-- The serial type an integer is to have: a constant for 0 and 1 from file format 4 on, and
otherwise the first of the types 1 to 6 it fits. -/
def IsSerialTypeOf (file_format : ℕ) (i : ℤ) (t : ℕ) : Prop :=
  if file_format ≥ 4 ∧ (i = 0 ∨ i = 1) then (t : ℤ) = 8 + i
  else t ∈ [1, 2, 3, 4, 5, 6] ∧ FitsType i t ∧ ∀ t' ∈ [1, 2, 3, 4, 5, 6], FitsType i t' → t ≤ t'

/-- The integers at which the two codes choose the same serial type: no lowest integer of a width
below 64 bits, and no constant in file format 4. -/
def OffBoundaries (file_format : ℕ) (i : ℤ) : Prop :=
  i ∉ [-128, -32768, -8388608, -2147483648, -140737488355328] ∧
    ¬ (file_format = 4 ∧ (i = 0 ∨ i = 1))

instance (file_format : ℕ) (i : ℤ) : Decidable (OffBoundaries file_format i) := by
  unfold OffBoundaries
  infer_instance

/-- The integers that fit each of the six types. -/
theorem fitsType_iff (i : ℤ) :
    (FitsType i 1 ↔ -128 ≤ i ∧ i < 128) ∧ (FitsType i 2 ↔ -32768 ≤ i ∧ i < 32768) ∧
    (FitsType i 3 ↔ -8388608 ≤ i ∧ i < 8388608) ∧
    (FitsType i 4 ↔ -2147483648 ≤ i ∧ i < 2147483648) ∧
    (FitsType i 5 ↔ -140737488355328 ≤ i ∧ i < 140737488355328) ∧
    (FitsType i 6 ↔ -2^63 ≤ i ∧ i < 2^63) := by
  have hlen : sqlite3VdbeSerialTypeLen 1 = 1 ∧ sqlite3VdbeSerialTypeLen 2 = 2 ∧
      sqlite3VdbeSerialTypeLen 3 = 3 ∧ sqlite3VdbeSerialTypeLen 4 = 4 ∧
      sqlite3VdbeSerialTypeLen 5 = 6 ∧ sqlite3VdbeSerialTypeLen 6 = 8 := by decide
  obtain ⟨h1, h2, h3, h4, h5, h6⟩ := hlen
  unfold FitsType
  rw [h1, h2, h3, h4, h5, h6]
  refine ⟨?_, ?_, ?_, ?_, ?_, ?_⟩ <;> omega

section integers

variable {i : ℤ} {ff : ℕ}

/-- Only 0 and 1 have no bit but the last. -/
theorem and_one_eq_iff (x : BitVec 64) : x &&& 1#64 = x ↔ x = 0 ∨ x = 1 := by
  have hmod : (x &&& 1#64).toNat = x.toNat % 2 := by
    rw [BitVec.toNat_and]
    exact Nat.and_one_is_mod _
  rw [← BitVec.toNat_inj, ← BitVec.toNat_inj, ← BitVec.toNat_inj, hmod]
  show _ ↔ x.toNat = 0 ∨ x.toNat = 1
  omega

/-- The C code looks for a width with the complement of a negative integer. -/
theorem sqlite3VdbeSerialType_ofInt (hlo : -2^63 ≤ i) (hhi : i < 2^63) :
    (Mem.ofInt i).sqlite3VdbeSerialType ff =
      let u := if i < 0 then -i - 1 else i
      if u ≤ 127 then if (i = 0 ∨ i = 1) ∧ ff ≥ 4 then 8 + u.toNat else 1
      else if u ≤ 32767 then 2
      else if u ≤ 8388607 then 3
      else if u ≤ 2147483647 then 4
      else if u ≤ MAX_6BYTE then 5
      else 6 := by
  have htoInt : (BitVec.ofInt 64 i).toInt = i := by
    rw [BitVec.toInt_ofInt, Int.bmod_def]
    split_ifs <;> omega
  have hone : BitVec.ofInt 64 i &&& 1#64 = BitVec.ofInt 64 i ↔ i = 0 ∨ i = 1 := by
    rw [and_one_eq_iff, ← BitVec.toInt_inj, ← BitVec.toInt_inj, htoInt]
    rfl
  have hu : ((if i < 0 then ~~~BitVec.ofInt 64 i else BitVec.ofInt 64 i).toNat : ℤ) =
      if i < 0 then -i - 1 else i := by
    split_ifs with hneg
    · rw [BitVec.toNat_not, BitVec.toNat_ofInt]
      omega
    · rw [BitVec.toNat_ofInt]
      omega
  have hflags : (Mem.ofInt i).flags = MEM_Int := rfl
  unfold Mem.sqlite3VdbeSerialType
  rw [hflags, show MEM_Int.has MEM_Null = false by decide, show MEM_Int.has MEM_Int = true by decide]
  simp only [Bool.false_eq_true, ↓reduceIte]
  rw [show (Mem.ofInt i).u = BitVec.ofInt 64 i from rfl, htoInt]
  simp only [hone]
  generalize (if i < 0 then ~~~BitVec.ofInt 64 i else BitVec.ofInt 64 i).toNat = u at hu
  rw [← hu, Int.toNat_natCast]
  norm_cast

/-- The C code chooses the constants, and otherwise the narrowest type. -/
theorem sqlite3VdbeSerialType_spec (ff : ℕ) (hlo : -2^63 ≤ i) (hhi : i < 2^63) :
    IsSerialTypeOf ff i ((Mem.ofInt i).sqlite3VdbeSerialType ff) := by
  obtain ⟨h1, h2, h3, h4, h5, h6⟩ := fitsType_iff i
  have hnarrow : ∀ t ∈ [1, 2, 3, 4, 5, 6], FitsType i t → (t = 1 ∨ ¬ FitsType i (t - 1)) →
      t ∈ [1, 2, 3, 4, 5, 6] ∧ FitsType i t ∧ ∀ t' ∈ [1, 2, 3, 4, 5, 6], FitsType i t' → t ≤ t' := by
    intro t ht hfit hprev
    refine ⟨ht, hfit, fun t' ht' hfit' => ?_⟩
    by_contra hlt
    simp only [List.mem_cons, List.not_mem_nil, or_false] at ht ht'
    rcases ht with rfl | rfl | rfl | rfl | rfl | rfl <;>
      rcases ht' with rfl | rfl | rfl | rfl | rfl | rfl <;>
      simp only [h1, h2, h3, h4, h5, h6, Nat.reduceSub, Nat.reduceEqDiff, false_or] at hprev hfit' <;>
      omega
  have hu : ∃ u, u = (if i < 0 then -i - 1 else i) ∧ (i < 0 ∧ u = -i - 1 ∨ 0 ≤ i ∧ u = i) := by
    refine ⟨_, rfl, ?_⟩
    split_ifs <;> omega
  obtain ⟨u, hueq, hu⟩ := hu
  rw [sqlite3VdbeSerialType_ofInt hlo hhi, ← hueq]
  unfold IsSerialTypeOf MAX_6BYTE
  dsimp only
  by_cases hconst : ff ≥ 4 ∧ (i = 0 ∨ i = 1)
  · rw [if_pos hconst, if_pos (by omega), if_pos hconst.symm]
    omega
  · rw [if_neg hconst, if_neg (show ¬ ((i = 0 ∨ i = 1) ∧ ff ≥ 4) from fun h => hconst h.symm)]
    split_ifs
    · exact hnarrow 1 (by decide) (h1.mpr (by omega)) (Or.inl rfl)
    · exact hnarrow 2 (by decide) (h2.mpr (by omega)) (Or.inr fun h => by have := h1.mp h; omega)
    · exact hnarrow 3 (by decide) (h3.mpr (by omega)) (Or.inr fun h => by have := h2.mp h; omega)
    · exact hnarrow 4 (by decide) (h4.mpr (by omega)) (Or.inr fun h => by have := h3.mp h; omega)
    · exact hnarrow 5 (by decide) (h5.mpr (by omega)) (Or.inr fun h => by have := h4.mp h; omega)
    · exact hnarrow 6 (by decide) (h6.mpr ⟨hlo, hhi⟩) (Or.inr fun h => by have := h5.mp h; omega)

/-- The two codes choose the same type exactly off the boundaries. -/
theorem get_serial_type_of_int_hidden_eq_iff (ff : ℕ) (hlo : -2^63 ≤ i) (hhi : i < 2^63) :
    _get_serial_type_of_int_hidden i ff = (Mem.ofInt i).sqlite3VdbeSerialType ff ↔
      OffBoundaries ff i := by
  have habs : |i| = if i < 0 then -i else i := by
    split_ifs with h
    · exact abs_of_neg h
    · exact abs_of_nonneg (not_lt.mp h)
  rw [sqlite3VdbeSerialType_ofInt hlo hhi]
  unfold _get_serial_type_of_int_hidden OffBoundaries MAX_6BYTE
  simp only [List.mem_cons, List.not_mem_nil, or_false, habs]
  split_ifs <;> omega

end integers

/-! ## Records -/

section records

/-- A varint has a byte. -/
theorem encode_ne_nil {v : ℕ} (h : v < 2^32) : Varint.encode v ≠ [] := by
  have hlen := Varint.length_encode (v := v) (by omega)
  have hpos := Varint.size_pos v
  intro hnil
  rw [hnil, List.length_nil] at hlen
  omega

/-- The serial types can be told from a header. -/
theorem flatMap_encode_inj {ts ts' : List ℕ} (h : ∀ t ∈ ts, t < 2^32) (h' : ∀ t ∈ ts', t < 2^32)
    (heq : ts.flatMap Varint.encode = ts'.flatMap Varint.encode) : ts = ts' := by
  induction ts generalizing ts' with
  | nil =>
    cases ts' with
    | nil => rfl
    | cons t' ts' =>
      rw [List.flatMap_nil, List.flatMap_cons] at heq
      exact absurd (List.append_eq_nil_iff.mp heq.symm).1 (encode_ne_nil (h' t' List.mem_cons_self))
  | cons t ts ih =>
    have ht := h t List.mem_cons_self
    cases ts' with
    | nil =>
      rw [List.flatMap_nil, List.flatMap_cons] at heq
      exact absurd (List.append_eq_nil_iff.mp heq).1 (encode_ne_nil ht)
    | cons t' ts' =>
      rw [List.flatMap_cons, List.flatMap_cons] at heq
      have hdec := Varint.decode_encode (v := t) (by omega) (ts.flatMap Varint.encode)
      have hdec' := Varint.decode_encode (v := t') (by have := h' t' List.mem_cons_self; omega)
        (ts'.flatMap Varint.encode)
      rw [heq, hdec', Option.some.injEq, Prod.mk.injEq] at hdec
      obtain ⟨rfl, hrest⟩ := hdec
      rw [ih (fun s hs => h s (List.mem_cons_of_mem _ hs))
        (fun s hs => h' s (List.mem_cons_of_mem _ hs)) hrest.symm]

/-- Records are the same only if their serial types and their contents are. -/
theorem typedRecord_inj {ts ts' : List ℕ} {content content' : List Byte} (h : ∀ t ∈ ts, t < 2^32)
    (h' : ∀ t ∈ ts', t < 2^32) (hlen : (typedRecord ts content).length < 2^32) :
    typedRecord ts content = typedRecord ts' content' ↔ ts = ts' ∧ content = content' := by
  refine ⟨fun heq => ?_, fun ⟨hts, hcontent⟩ => by rw [hts, hcontent]⟩
  have hlen' := hlen
  rw [heq] at hlen'
  unfold typedRecord at heq hlen hlen'
  simp only [List.length_append] at hlen hlen'
  obtain ⟨hsize, hlt⟩ := headerSize_eq
    (show (ts.flatMap Varint.encode).length < 2^32 by omega)
  obtain ⟨hsize', hlt'⟩ := headerSize_eq
    (show (ts'.flatMap Varint.encode).length < 2^32 by omega)
  rw [List.append_assoc, List.append_assoc] at heq
  -- Both are read from the start: the size of the header first.
  have hdec := Varint.decode_encode (v := headerSize (ts.flatMap Varint.encode).length)
    (by omega) (ts.flatMap Varint.encode ++ content)
  rw [heq, Varint.decode_encode (by omega), Option.some.injEq, Prod.mk.injEq] at hdec
  obtain ⟨hheader, hrest⟩ := hdec
  rw [hheader] at hsize'
  obtain ⟨htypes, hcontent⟩ := List.append_inj hrest.symm (by omega)
  exact ⟨flatMap_encode_inj h h' htypes, hcontent⟩

/-- A record is one with the serial types of its values. -/
theorem record_eq_typedRecord (ff : ℕ) (vs : List Value) :
    record ff vs = typedRecord (vs.map (Value.serialType ff)) (contentBytes ff vs) := by
  unfold record typedRecord serialTypeBytes
  rw [List.flatMap_map]

variable {enc : ℕ} {c : Mem} {ff : ℕ}

/-- What the C code chooses for a cell: for an integer its own type, otherwise that of the value. -/
theorem sqlite3VdbeSerialType_eq (hc : c.IsValue enc) :
    c.sqlite3VdbeSerialType ff = match c.value with
      | .int v => (Mem.ofInt v).sqlite3VdbeSerialType ff
      | v => v.serialType ff := by
  cases hn : c.flags.has MEM_Null with
  | true =>
    unfold Mem.value Mem.sqlite3VdbeSerialType
    rw [hn]
    rfl
  | false =>
  cases hi : c.flags.has MEM_Int with
  | true =>
    have hv : c.value = .int c.u_i := by unfold Mem.value; rw [hn, hi]; rfl
    -- The type of an integer depends on the word alone.
    have hu : (Mem.ofInt c.u_i).u = c.u := BitVec.ofInt_toInt
    rw [hv]
    dsimp only
    unfold Mem.sqlite3VdbeSerialType
    rw [hu, hn, hi, show (Mem.ofInt c.u_i).flags = MEM_Int from rfl,
      show MEM_Int.has MEM_Null = false by decide, show MEM_Int.has MEM_Int = true by decide]
    rfl
  | false =>
  cases hr : c.flags.has MEM_Real with
  | true =>
    unfold Mem.value Mem.sqlite3VdbeSerialType
    rw [hn, hi, hr]
    rfl
  | false =>
    have hlen := hc.length_fullBytes hn hi hr
    have hv : c.value = if c.flags.has MEM_Str then .text c.fullBytes else .blob c.fullBytes := by
      unfold Mem.value
      rw [hn, hi, hr]
      rfl
    have htoNat : (if c.flags.has MEM_Zero then c.n + c.u_nZero else c.n).toNat =
        c.fullBytes.length := by omega
    unfold Mem.sqlite3VdbeSerialType
    rw [hn, hi, hr]
    simp only [Bool.false_eq_true, ↓reduceIte]
    rw [htoNat, hv]
    split_ifs
    · show _ = 2 * c.fullBytes.length + 13
      omega
    · show _ = 2 * c.fullBytes.length + 12
      omega

/-- Where the serial types are the same, so are the contents. -/
theorem sqlite3VdbeSerialPut_eq (hc : c.IsValue enc)
    (htype : c.value.serialType ff = c.sqlite3VdbeSerialType ff) (hfits : c.value.Fits) :
    c.sqlite3VdbeSerialPut (c.sqlite3VdbeSerialType ff) ++ c.impliedZeros = c.value.content ff := by
  -- Only a blob implies zeros.
  have hzero : c.flags.has MEM_Blob = false → c.impliedZeros = [] := by
    intro hblob
    unfold Mem.impliedZeros
    split_ifs with hz
    · rw [(hc.zero hz).1] at hblob
      cases hblob
    · rfl
  rw [← htype]
  -- The cases follow the order in which the type is found: NULL, integer, real, then bytes.
  cases hn : c.flags.has MEM_Null with
  | true =>
    have hv : c.value = .null := by unfold Mem.value; rw [if_pos hn]
    rw [hzero (hc.null hn).2.2.2, hv]
    rfl
  | false =>
  cases hi : c.flags.has MEM_Int with
  | true =>
    have hv : c.value = .int c.u_i := by unfold Mem.value; rw [hn, hi]; rfl
    have hblob : c.flags.has MEM_Blob = false := by
      by_contra h
      rw [(hc.blob (by simpa using h)).1] at hi
      cases hi
    -- The bytes are those of the word, whatever its sign.
    have hword : (c.u_i % 2 ^ 64).toNat = c.u.toNat := by
      have hlt := c.u.isLt
      have hsigned := BitVec.toInt_eq_toNat_cond c.u
      unfold Mem.u_i
      split_ifs at hsigned <;> omega
    have hput : ∀ t, t = 8 ∨ t = 9 ∨ t ∈ [1, 2, 3, 4, 5, 6] →
        c.sqlite3VdbeSerialPut t = toBytes (sqlite3VdbeSerialTypeLen t) c.u.toNat := by
      rintro t (rfl | rfl | hmem)
      · rfl
      · rfl
      · simp only [List.mem_cons, List.not_mem_nil, or_false] at hmem
        unfold Mem.sqlite3VdbeSerialPut
        rw [if_pos (by omega)]
    have hcontent : (Value.int c.u_i).content ff =
        toBytes (sqlite3VdbeSerialTypeLen ((Value.int c.u_i).serialType ff)) c.u.toNat := by
      rw [← hword]
      rfl
    rw [hv] at hfits
    rw [hzero hblob, hv, List.append_nil, hcontent]
    refine hput _ ?_
    obtain ⟨ht, -⟩ | ⟨ht, -⟩ | ⟨t, hmem, ht, -⟩ := serial_type_of_int_spec c.u_i ff hfits.1 hfits.2
    · exact Or.inl ht
    · exact Or.inr (Or.inl ht)
    · refine Or.inr (Or.inr ?_)
      rw [show (Value.int c.u_i).serialType ff = t from ht]
      exact hmem
  | false =>
  cases hr : c.flags.has MEM_Real with
  | true =>
    have hv : c.value = .real c.u_r := by unfold Mem.value; rw [hn, hi, hr]; rfl
    have hblob : c.flags.has MEM_Blob = false := by
      by_contra h
      rw [(hc.blob (by simpa using h)).2.1] at hr
      cases hr
    rw [hzero hblob, hv, List.append_nil]
    rfl
  | false =>
    -- The zeros that the routine leaves out are those that the caller writes.
    have hfull : c.bytes ++ c.impliedZeros = c.fullBytes := rfl
    have hv : c.value = if c.flags.has MEM_Str then .text c.fullBytes else .blob c.fullBytes := by
      unfold Mem.value
      rw [hn, hi, hr]
      rfl
    unfold Mem.sqlite3VdbeSerialPut
    rw [hv]
    split_ifs with hs h7 h12
    all_goals simp only [Value.serialType] at *
    all_goals first | omega | exact hfull

/-- The serial types of a cell are the same exactly if it holds no integer on a boundary. -/
theorem serialType_eq_iff (hc : c.IsValue enc) (hfits : c.value.Fits) :
    c.value.serialType ff = c.sqlite3VdbeSerialType ff ↔
      ∀ i, Value.int i = c.value → OffBoundaries ff i := by
  rw [sqlite3VdbeSerialType_eq hc]
  cases hv : c.value with
  | int v =>
    rw [hv] at hfits
    have hiff := get_serial_type_of_int_hidden_eq_iff ff hfits.1 hfits.2
    refine hiff.trans ⟨fun h i hi => ?_, fun h => h v rfl⟩
    obtain rfl := Value.int.inj hi
    exact h
  | null => exact iff_of_true rfl (fun i hi => by cases hi)
  | real x => exact iff_of_true rfl (fun i hi => by cases hi)
  | text z => exact iff_of_true rfl (fun i hi => by cases hi)
  | blob z => exact iff_of_true rfl (fun i hi => by cases hi)

/-- A serial type is a 32-bit number. -/
theorem sqlite3VdbeSerialType_lt (hc : c.IsValue enc) (hfits : c.value.Fits) :
    c.sqlite3VdbeSerialType ff < 2^32 := by
  rw [sqlite3VdbeSerialType_eq hc]
  have hlt : c.value.serialType ff < 2^32 := serialType_lt hfits
  cases hv : c.value with
  | int v =>
    dsimp only
    rw [hv] at hfits
    rw [sqlite3VdbeSerialType_ofInt hfits.1 hfits.2]
    dsimp only
    split_ifs <;> omega
  | null => rwa [hv] at hlt
  | real x => rwa [hv] at hlt
  | text z => rwa [hv] at hlt
  | blob z => rwa [hv] at hlt

/-- The two codes build the same record of the cells exactly if none holds an integer on a
boundary. -/
theorem record_eq_sqliteRecord_iff {cs : List Mem} (hval : ∀ c ∈ cs, c.IsValue enc)
    (hfits : ∀ c ∈ cs, c.value.Fits) (hlen : (record ff (cs.map Mem.value)).length < 2^32) :
    record ff (cs.map Mem.value) = sqliteRecord ff cs ↔
      ∀ i, Value.int i ∈ cs.map Mem.value → OffBoundaries ff i := by
  have htypes : (cs.map Mem.value).map (Value.serialType ff) =
      cs.map (fun pRec => pRec.sqlite3VdbeSerialType ff) ↔
      ∀ c ∈ cs, c.value.serialType ff = c.sqlite3VdbeSerialType ff := by
    rw [List.map_map]
    exact List.map_inj_left
  have hcells : (∀ i, Value.int i ∈ cs.map Mem.value → OffBoundaries ff i) ↔
      ∀ c ∈ cs, ∀ i, Value.int i = c.value → OffBoundaries ff i := by
    constructor
    · intro h c hc i hi
      exact h i (List.mem_map.mpr ⟨c, hc, hi.symm⟩)
    · intro h i hi
      obtain ⟨c, hc, hv⟩ := List.mem_map.mp hi
      exact h c hc i hv.symm
  rw [record_eq_typedRecord] at hlen ⊢
  unfold sqliteRecord
  rw [typedRecord_inj _ _ hlen, htypes, hcells]
  · constructor
    · rintro ⟨h, -⟩ c hc
      exact (serialType_eq_iff (hval c hc) (hfits c hc)).mp (h c hc)
    · intro h
      have hsame : ∀ c ∈ cs, c.value.serialType ff = c.sqlite3VdbeSerialType ff := fun c hc =>
        (serialType_eq_iff (hval c hc) (hfits c hc)).mpr (h c hc)
      refine ⟨hsame, ?_⟩
      unfold contentBytes
      rw [List.flatMap_map]
      exact List.flatMap_congr fun c hc =>
        (sqlite3VdbeSerialPut_eq (hval c hc) (hsame c hc) (hfits c hc)).symm
  · intro t ht
    obtain ⟨v, hv, rfl⟩ := List.mem_map.mp ht
    obtain ⟨c, hc, rfl⟩ := List.mem_map.mp hv
    exact serialType_lt (hfits c hc)
  · intro t ht
    obtain ⟨c, hc, rfl⟩ := List.mem_map.mp ht
    exact sqlite3VdbeSerialType_lt (hval c hc) (hfits c hc)

end records

/-! ## The opcode -/

section opcode

open Commands

variable {ρ : Type} {L : CLib ρ} {mallocFailed : ρ → Bool}

/-- `OP_MakeRecord` leaves the record the C code builds of the cells. -/
def BuildsSameRecord (L : CLib ρ) (V : CVdbe ρ) (enc ff : ℕ) (limit : ℤ) (rc : ℕ) (op : Op)
    (m : Machine ρ) (cs : List Mem) : Prop :=
  ∃ mems rest c, execute (OP_MakeRecord L V enc ff limit rc op) m = .ok (rc, mems, rest) ∧
    mems[op.p3.toNat]? = some c ∧ c.value = .blob (sqliteRecord ff cs)

/-- The C code chooses the constants and the narrowest types; the Python code chooses the same type
for an integer, and builds the same record of registers, exactly off the boundaries. -/
theorem buildsSameRecord_iff (hL : L.Lawful mallocFailed) (V : CVdbe ρ) (rc enc ff : ℕ)
    (limit : ℤ) (m : Machine ρ) (op : Op) (cs : List Mem) (hs : m.Sound)
    (h : RecordInputs enc m op cs) (hp4 : op.p4_z = []) (hprec : AllPreceded ff cs cs.length)
    (hlimit : WithinLimit ff limit cs) :
    (∀ i : ℤ, -2^63 ≤ i → i < 2^63 →
      IsSerialTypeOf ff i ((Mem.ofInt i).sqlite3VdbeSerialType ff) ∧
      (_get_serial_type_of_int_hidden i ff = (Mem.ofInt i).sqlite3VdbeSerialType ff ↔
        OffBoundaries ff i)) ∧
    (BuildsSameRecord L V enc ff limit rc op m cs ↔
      ∀ i, Value.int i ∈ cs.map Mem.value → OffBoundaries ff i) := by
  refine ⟨fun i hlo hhi => ⟨sqlite3VdbeSerialType_spec ff hlo hhi,
    get_serial_type_of_int_hidden_eq_iff ff hlo hhi⟩, ?_⟩
  have hlen : (record ff (cs.map Mem.value)).length ≤ SQLITE_MAX_LENGTH := by
    have := hlimit.1
    have := hlimit.2
    omega
  have hlt : (record ff (cs.map Mem.value)).length < 2^32 := by
    unfold SQLITE_MAX_LENGTH at hlen
    omega
  rw [← record_eq_sqliteRecord_iff h.values (fits_of_length_record h.values hlen) hlt]
  obtain ⟨mems, rest, c, hexec, hc, hrecord⟩ := execute_makeRecord hL V rc hs h hp4 hprec hlimit
  have hvalue : c.value = .blob (record ff (cs.map Mem.value)) := by
    have hfull : c.fullBytes = record ff (cs.map Mem.value) := by
      unfold Mem.fullBytes
      rw [hrecord.flags, hrecord.bytes]
      exact List.append_nil _
    unfold Mem.value
    rw [hrecord.flags, hfull]
    rfl
  constructor
  · rintro ⟨mems', rest', c', hexec', hc', hvalue'⟩
    obtain ⟨-, rfl, rfl⟩ : rc = rc ∧ mems = mems' ∧ rest = rest' := by
      simpa using hexec.symm.trans hexec'
    obtain rfl := Option.some.inj (hc.symm.trans hc')
    exact Value.blob.inj (hvalue.symm.trans hvalue')
  · intro heq
    exact ⟨mems, rest, c, hexec, hc, by rw [hvalue, heq]⟩

/-- An `OP_MakeRecord` of one register. -/
def makeRecordOfOne : Op := ⟨.MakeRecord, 0, 1, 1, .NOTUSED, 0⟩

/-- One register with an integer. -/
theorem recordInputs_one (v : ℤ) :
    RecordInputs SQLITE_UTF8 (Machine.fresh [Mem.ofInt v, Mem.ofNull] 1 ()) makeRecordOfOne
      [Mem.ofInt v] where
  p2 := rfl
  cells j hj := by
    match j, hj with
    | 0, _ => exact ⟨show IsRegister 2 1 (0 + 0) by decide, rfl⟩
  values c hc := by
    obtain rfl := List.mem_singleton.mp hc
    exact Mem.isValue_ofInt v
  p3 := show IsRegister 2 1 1 by decide
  p3_ne j hj := by
    match j, hj with
    | 0, _ => exact show (1 : ℤ) ≠ 0 + 0 by decide
  output c hc := by
    obtain rfl := Option.some.inj hc
    rfl

/-- The record of -129 in file format 4. -/
theorem buildsSameRecord_two_bytes :
    BuildsSameRecord CLib.decimal CVdbe.never SQLITE_UTF8 4 1000 SQLITE_OK makeRecordOfOne
      (Machine.fresh [Mem.ofInt (-129), Mem.ofNull] 1 ()) [Mem.ofInt (-129)] := by
  refine (buildsSameRecord_iff CLib.lawful_decimal CVdbe.never SQLITE_OK SQLITE_UTF8 4 1000 _
    makeRecordOfOne [Mem.ofInt (-129)] (Machine.Sound.fresh _ _ _) (recordInputs_one _) rfl ?_
    ?_).2.mpr ?_
  · intro j hj _ hz
    match j, hj with
    | 0, _ => exact absurd hz (show ¬ (Mem.ofInt (-129)).flags.has MEM_Zero = true by decide)
  · constructor <;> decide +kernel
  · intro i hi
    obtain rfl := Value.int.inj (List.mem_singleton.mp hi)
    decide

/-- In file format 4, the constant 0 is not chosen, and -128 gets two bytes. -/
theorem not_buildsSameRecord_boundary :
    _get_serial_type_of_int_hidden (-128) 4 = 2 ∧ (Mem.ofInt (-128)).sqlite3VdbeSerialType 4 = 1 ∧
    _get_serial_type_of_int_hidden 0 4 = 1 ∧ (Mem.ofInt 0).sqlite3VdbeSerialType 4 = 8 ∧
    ¬ BuildsSameRecord CLib.decimal CVdbe.never SQLITE_UTF8 4 1000 SQLITE_OK makeRecordOfOne
      (Machine.fresh [Mem.ofInt (-128), Mem.ofNull] 1 ()) [Mem.ofInt (-128)] := by
  refine ⟨by decide, by decide, by decide, by decide, ?_⟩
  rintro ⟨mems, rest, c, hexec, hc, hvalue⟩
  have hrun : (execute (OP_MakeRecord CLib.decimal CVdbe.never SQLITE_UTF8 4 1000 SQLITE_OK
      makeRecordOfOne) (Machine.fresh [Mem.ofInt (-128), Mem.ofNull] 1 ())).toOption.bind
      (fun x => x.2.1[1]?.map Mem.value) = some (.blob [2, 2, 255, 128]) := by decide +kernel
  rw [hexec] at hrun
  have hc : mems[1]? = some c := hc
  rw [show (Except.ok (SQLITE_OK, mems, rest) : Except Exc _).toOption.bind
    (fun x => x.2.1[1]?.map Mem.value) = mems[1]?.map Mem.value from rfl, hc, Option.map_some,
    Option.some.injEq, hvalue] at hrun
  revert hrun
  decide +kernel

end opcode

end SQPyte
