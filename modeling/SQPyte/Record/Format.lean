import Mathlib.Tactic.IntervalCases
import SQPyte.Library.BigEndian
import SQPyte.Library.Varint
import SQPyte.Mem.Cell

/-!
# The record format

A record is a header and the contents of its fields. The header is the varint of its own size and one
varint for each field, the serial type, which says what the field is and how many bytes its content
takes.

The functions that choose the serial type of an integer and the size of the header are those of the
Python code. `decodeRecord` reads a record as `vdbeaux.c` does, with its `sqlite3VdbeSerialTypeLen`
and `sqlite3VdbeSerialGet`. A field is read back by `sqlite3VdbeSerialGet_content`, and a whole
record by `decodeRecord_record`.
-/

namespace SQPyte

open BigEndian

/-- `SQLITE_MAX_LENGTH`, which bounds every `SQLITE_LIMIT_LENGTH`. -/
def SQLITE_MAX_LENGTH : ℕ := 1000000000

/-- An SQL value. -/
inductive Value where
  /-- NULL. -/
  | null
  /-- An integer. -/
  | int (v : ℤ)
  /-- A real, as its 64-bit pattern. -/
  | real (x : Binary64)
  /-- A text. -/
  | text (z : List Byte)
  /-- A blob. -/
  | blob (z : List Byte)
deriving DecidableEq, Repr

/-- The value is one that a register can hold: integers have 64 bits, reals are no NaN, and texts and
blobs are within the length limit. -/
def Value.Fits : Value → Prop
  | .null => True
  | .int v => -2^63 ≤ v ∧ v < 2^63
  | .real x => x.isNaN = false
  | .text z | .blob z => z.length ≤ SQLITE_MAX_LENGTH

/-! ## Serial types -/

/-- `SIZE_INFO_OF_SERIAL_TYPES`, and `aSize` of `sqlite3VdbeSerialTypeLen`. -/
def SIZE_INFO_OF_SERIAL_TYPES : List ℕ := [0, 1, 2, 3, 4, 6, 8, 8, 0, 0, 0, 0]

/-- `sqlite3VdbeSerialTypeLen`. -/
def sqlite3VdbeSerialTypeLen (serial_type : ℕ) : ℕ :=
  if serial_type ≥ 12 then (serial_type - 12) / 2
  else SIZE_INFO_OF_SERIAL_TYPES.getD serial_type 0

/-- `MAX_6BYTE`. -/
def MAX_6BYTE : ℤ := 0x00008000 * 2^32 - 1

/-- `_get_serial_type_of_int_hidden`. -/
def _get_serial_type_of_int_hidden (i : ℤ) (file_format : ℕ) : ℕ :=
  if i < -MAX_6BYTE then 6
  else
    let u := |i|
    if u ≤ 127 then
      if file_format > 4 ∧ i = 0 then 8
      else if file_format > 4 ∧ i = 1 then 9
      else 1
    else if u ≤ 32767 then 2
    else if u ≤ 8388607 then 3
    else if u ≤ 2147483647 then 4
    else if u ≤ MAX_6BYTE then 5
    else 6

/-- The serial type of a value. -/
def Value.serialType (file_format : ℕ) : Value → ℕ
  | .null => 0
  | .int v => _get_serial_type_of_int_hidden v file_format
  | .real _ => 7
  | .text z => 2 * z.length + 13
  | .blob z => 2 * z.length + 12

/-- The content of the field that holds a value. -/
def Value.content (file_format : ℕ) (v : Value) : List Byte :=
  match v with
  | .null => []
  | .int i => toBytes (sqlite3VdbeSerialTypeLen (v.serialType file_format)) (i % 2^64).toNat
  | .real x => toBytes 8 x.toNat
  | .text z | .blob z => z

/-- The serial type of an integer: one of the constants, or a width that the integer fits. -/
theorem serial_type_of_int_spec (i : ℤ) (ff : ℕ) (hlo : -2^63 ≤ i) (hhi : i < 2^63) :
    (_get_serial_type_of_int_hidden i ff = 8 ∧ i = 0) ∨
    (_get_serial_type_of_int_hidden i ff = 9 ∧ i = 1) ∨
    ∃ t ∈ [1, 2, 3, 4, 5, 6], _get_serial_type_of_int_hidden i ff = t ∧
      -(256 ^ sqlite3VdbeSerialTypeLen t : ℤ) ≤ 2 * i ∧
      2 * i < 256 ^ sqlite3VdbeSerialTypeLen t := by
  have hlen : sqlite3VdbeSerialTypeLen 1 = 1 ∧ sqlite3VdbeSerialTypeLen 2 = 2 ∧
      sqlite3VdbeSerialTypeLen 3 = 3 ∧ sqlite3VdbeSerialTypeLen 4 = 4 ∧
      sqlite3VdbeSerialTypeLen 5 = 6 ∧ sqlite3VdbeSerialTypeLen 6 = 8 := by decide
  obtain ⟨h1, h2, h3, h4, h5, h6⟩ := hlen
  have habs : ∀ b : ℤ, |i| ≤ b → -b ≤ i ∧ i ≤ b := fun _ => abs_le.mp
  unfold _get_serial_type_of_int_hidden MAX_6BYTE
  dsimp only
  split_ifs with hbig h127 h8 h9 h32767 h24 h32 h48
  · exact Or.inr (Or.inr ⟨6, by decide, rfl, by rw [h6]; omega, by rw [h6]; omega⟩)
  · exact Or.inl ⟨rfl, h8.2⟩
  · exact Or.inr (Or.inl ⟨rfl, h9.2⟩)
  · have := habs _ h127
    exact Or.inr (Or.inr ⟨1, by decide, rfl, by rw [h1]; omega, by rw [h1]; omega⟩)
  · have := habs _ h32767
    exact Or.inr (Or.inr ⟨2, by decide, rfl, by rw [h2]; omega, by rw [h2]; omega⟩)
  · have := habs _ h24
    exact Or.inr (Or.inr ⟨3, by decide, rfl, by rw [h3]; omega, by rw [h3]; omega⟩)
  · have := habs _ h32
    exact Or.inr (Or.inr ⟨4, by decide, rfl, by rw [h4]; omega, by rw [h4]; omega⟩)
  · have := habs _ h48
    exact Or.inr (Or.inr ⟨5, by decide, rfl, by rw [h5]; omega, by rw [h5]; omega⟩)
  · exact Or.inr (Or.inr ⟨6, by decide, rfl, by rw [h6]; omega, by rw [h6]; omega⟩)

/-- The length of a text. -/
theorem sqlite3VdbeSerialTypeLen_text (n : ℕ) : sqlite3VdbeSerialTypeLen (2 * n + 13) = n := by
  unfold sqlite3VdbeSerialTypeLen
  rw [if_pos (by omega)]
  omega

/-- The length of a blob. -/
theorem sqlite3VdbeSerialTypeLen_blob (n : ℕ) : sqlite3VdbeSerialTypeLen (2 * n + 12) = n := by
  unfold sqlite3VdbeSerialTypeLen
  rw [if_pos (by omega)]
  omega

/-- The serial type tells the length of the content. -/
theorem length_content (ff : ℕ) (v : Value) :
    (v.content ff).length = sqlite3VdbeSerialTypeLen (v.serialType ff) := by
  cases v with
  | null => rfl
  | int i => exact length_toBytes _ _
  | real x => exact length_toBytes _ _
  | text z => exact (sqlite3VdbeSerialTypeLen_text _).symm
  | blob z => exact (sqlite3VdbeSerialTypeLen_blob _).symm

/-- A serial type is a 32-bit number. -/
theorem serialType_lt {ff : ℕ} {v : Value} (h : v.Fits) : v.serialType ff < 2^32 := by
  cases v with
  | null => exact Nat.two_pow_pos 32
  | int i =>
    obtain ⟨ht, -⟩ | ⟨ht, -⟩ | ⟨t, hmem, ht, -⟩ := serial_type_of_int_spec i ff h.1 h.2
    · simp only [Value.serialType, ht]; omega
    · simp only [Value.serialType, ht]; omega
    · simp only [List.mem_cons, List.not_mem_nil, or_false] at hmem
      simp only [Value.serialType, ht]
      omega
  | real x => exact (by decide : 7 < 2^32)
  | text z =>
    have : z.length ≤ 1000000000 := h
    simp only [Value.serialType]; omega
  | blob z =>
    have : z.length ≤ 1000000000 := h
    simp only [Value.serialType]; omega

/-! ## Reading a field -/

section reading

variable (buf : List Byte)

/-- `(buf)[k]`. -/
def u8 (k : ℕ) : ℤ := (buf.getD k 0).toNat
/-- `(i8)(buf)[k]`. -/
def i8 (k : ℕ) : ℤ := if u8 buf k < 128 then u8 buf k else u8 buf k - 256
/-- `ONE_BYTE_INT`. -/
def ONE_BYTE_INT : ℤ := i8 buf 0
/-- `TWO_BYTE_INT`. The bits that `|` joins are disjoint, here and below. -/
def TWO_BYTE_INT : ℤ := 256 * i8 buf 0 + u8 buf 1
/-- `THREE_BYTE_INT`. -/
def THREE_BYTE_INT : ℤ := 65536 * i8 buf 0 + 256 * u8 buf 1 + u8 buf 2
/-- `FOUR_BYTE_UINT`. -/
def FOUR_BYTE_UINT : ℤ := 16777216 * u8 buf 0 + 65536 * u8 buf 1 + 256 * u8 buf 2 + u8 buf 3
/-- `FOUR_BYTE_INT`. -/
def FOUR_BYTE_INT : ℤ := 16777216 * i8 buf 0 + 65536 * u8 buf 1 + 256 * u8 buf 2 + u8 buf 3

/-- `serialGet`, for the types 6 and 7. -/
def serialGet (serial_type : ℕ) : Value :=
  let x : BitVec 64 := BitVec.ofInt 64 (2^32 * FOUR_BYTE_UINT buf + FOUR_BYTE_UINT (buf.drop 4))
  if serial_type = 6 then .int x.toInt
  else if Binary64.isNaN x then .null
  else .real x

/-- `sqlite3VdbeSerialGet`. -/
def sqlite3VdbeSerialGet (serial_type : ℕ) : Value :=
  match serial_type with
  | 0 | 10 | 11 => .null
  | 1 => .int (ONE_BYTE_INT buf)
  | 2 => .int (TWO_BYTE_INT buf)
  | 3 => .int (THREE_BYTE_INT buf)
  | 4 => .int (FOUR_BYTE_INT buf)
  | 5 => .int (FOUR_BYTE_UINT (buf.drop 2) + 2^32 * TWO_BYTE_INT buf)
  | 6 | 7 => serialGet buf serial_type
  | 8 | 9 => .int (serial_type - 8)
  | _ =>
    let z := buf.take ((serial_type - 12) / 2)
    if serial_type % 2 = 0 then .blob z else .text z

end reading

/-- The reads of one to eight bytes are two's-complement reads. -/
theorem byte_int_eq_ofSigned (buf : List Byte) :
    (buf.length = 1 → ONE_BYTE_INT buf = ofSigned buf) ∧
    (buf.length = 2 → TWO_BYTE_INT buf = ofSigned buf) ∧
    (buf.length = 3 → THREE_BYTE_INT buf = ofSigned buf) ∧
    (buf.length = 4 → FOUR_BYTE_INT buf = ofSigned buf) ∧
    (buf.length = 6 → FOUR_BYTE_UINT (buf.drop 2) + 2^32 * TWO_BYTE_INT buf = ofSigned buf) := by
  have hlt : ∀ b : Byte, b.toNat < 256 := fun b => b.toNat_lt
  -- The macros spell the bytes out, so for each length it is arithmetic on that many bytes.
  refine ⟨?_, ?_, ?_, ?_, ?_⟩
  · intro h
    obtain ⟨a, rfl⟩ := List.length_eq_one_iff.mp h
    have := hlt a
    simp [ONE_BYTE_INT, i8, u8, ofSigned, ofBytes]
    split_ifs <;> omega
  · intro h
    obtain ⟨a, b, rfl⟩ := List.length_eq_two.mp h
    have := hlt a
    have := hlt b
    simp [TWO_BYTE_INT, i8, u8, ofSigned, ofBytes]
    split_ifs <;> omega
  · intro h
    obtain ⟨a, b, c, rfl⟩ := List.length_eq_three.mp h
    have := hlt a
    have := hlt b
    have := hlt c
    simp [THREE_BYTE_INT, i8, u8, ofSigned, ofBytes]
    split_ifs <;> omega
  · intro h
    match buf, h with
    | [a, b, c, d], _ =>
      have := hlt a
      have := hlt b
      have := hlt c
      have := hlt d
      simp [FOUR_BYTE_INT, i8, u8, ofSigned, ofBytes]
      split_ifs <;> omega
  · intro h
    match buf, h with
    | [a, b, c, d, e, f], _ =>
      have := hlt a
      have := hlt b
      have := hlt c
      have := hlt d
      have := hlt e
      have := hlt f
      simp [TWO_BYTE_INT, FOUR_BYTE_UINT, i8, u8, ofSigned, ofBytes]
      split_ifs <;> omega

/-- Eight bytes are read as a word. -/
theorem serialGet_word_eq {buf : List Byte} (h : buf.length = 8) :
    2^32 * FOUR_BYTE_UINT buf + FOUR_BYTE_UINT (buf.drop 4) = ofBytes buf := by
  match buf, h with
  | [a, b, c, d, e, f, g, i], _ =>
    simp [FOUR_BYTE_UINT, u8, ofBytes]
    omega

/-- A 64-bit integer is a two's-complement read. -/
theorem serialGet_six {buf : List Byte} (h : buf.length = 8) :
    serialGet buf 6 = .int (ofSigned buf) := by
  have hlt := ofBytes_lt buf
  rw [h] at hlt
  have hmod : (ofBytes buf : ℤ) % (2 ^ 64 : ℕ) = ofBytes buf :=
    Int.emod_eq_of_lt (by omega) (by omega)
  unfold serialGet ofSigned
  rw [serialGet_word_eq h, if_pos rfl, h, BitVec.toInt_ofInt, Int.bmod_def, hmod]
  refine congrArg Value.int ?_
  split_ifs <;> omega

/-- A field is read back. -/
theorem sqlite3VdbeSerialGet_content (ff : ℕ) {v : Value} (h : v.Fits) :
    sqlite3VdbeSerialGet (v.content ff) (v.serialType ff) = v := by
  cases v with
  | null => rfl
  | int i =>
    have hcontent : ∀ t ≤ 6, _get_serial_type_of_int_hidden i ff = t →
        (Value.int i).content ff = toBytes (sqlite3VdbeSerialTypeLen t)
          (i % 256 ^ sqlite3VdbeSerialTypeLen t).toNat := by
      intro t ht heq
      have hle : sqlite3VdbeSerialTypeLen t ≤ 8 := by interval_cases t <;> decide
      rw [← toBytes_emod hle]
      simp only [Value.content, Value.serialType, heq]
      rfl
    simp only [Value.serialType]
    -- 0 and 1 may have types of their own; any other integer is read from as many bytes as it
    -- takes.
    obtain ⟨ht, rfl⟩ | ⟨ht, rfl⟩ | ⟨t, hmem, ht, hlo, hhi⟩ := serial_type_of_int_spec i ff h.1 h.2
    · rw [ht]; rfl
    · rw [ht]; rfl
    · have hread := ofSigned_toBytes _ i hlo hhi
      have hlen := length_toBytes (sqlite3VdbeSerialTypeLen t)
        (i % 256 ^ sqlite3VdbeSerialTypeLen t).toNat
      simp only [List.mem_cons, List.not_mem_nil, or_false] at hmem
      rw [hcontent t (by omega) ht, ht]
      generalize toBytes (sqlite3VdbeSerialTypeLen t)
        (i % 256 ^ sqlite3VdbeSerialTypeLen t).toNat = buf at hread hlen ⊢
      obtain ⟨h1, h2, h3, h4, h6⟩ := byte_int_eq_ofSigned buf
      rcases hmem with rfl | rfl | rfl | rfl | rfl | rfl
      · exact congrArg Value.int ((h1 hlen).trans hread)
      · exact congrArg Value.int ((h2 hlen).trans hread)
      · exact congrArg Value.int ((h3 hlen).trans hread)
      · exact congrArg Value.int ((h4 hlen).trans hread)
      · exact congrArg Value.int ((h6 hlen).trans hread)
      · exact (serialGet_six hlen).trans (congrArg Value.int hread)
  | real x =>
    have hlen : (toBytes 8 x.toNat).length = 8 := length_toBytes _ _
    -- A real is its eight bytes, and is not a NaN.
    have hword := serialGet_word_eq hlen
    rw [ofBytes_toBytes, Nat.mod_eq_of_lt (show x.toNat < 256 ^ 8 from x.isLt)] at hword
    have hx : BitVec.ofInt 64 (2^32 * FOUR_BYTE_UINT (toBytes 8 x.toNat) +
        FOUR_BYTE_UINT ((toBytes 8 x.toNat).drop 4)) = x := by
      rw [hword, BitVec.ofInt_natCast, BitVec.ofNat_toNat, BitVec.setWidth_eq]
    simp only [Value.serialType, Value.content, sqlite3VdbeSerialGet, serialGet, hx]
    rw [if_neg (by decide), if_neg (by rw [show x.isNaN = false from h]; simp)]
  | text z =>
    have hmod : (2 * z.length + 13) % 2 ≠ 0 := by omega
    have hdiv : (2 * z.length + 13 - 12) / 2 = z.length := by omega
    simp only [Value.serialType, Value.content, sqlite3VdbeSerialGet, hdiv, List.take_length,
      if_neg hmod]
  | blob z =>
    have hmod : (2 * z.length + 12) % 2 = 0 := by omega
    have hdiv : (2 * z.length + 12 - 12) / 2 = z.length := by omega
    simp only [Value.serialType, Value.content, sqlite3VdbeSerialGet, hdiv, List.take_length,
      if_pos hmod]

/-! ## Records -/

/-- `sqlite3VarintLen`. -/
def sqlite3VarintLen (v : ℕ) : ℕ :=
  if v / 128 = 0 then 1 else sqlite3VarintLen (v / 128) + 1
termination_by v
decreasing_by omega

/-- The size of a header whose serial types take `nHdr` bytes. -/
def headerSize (nHdr : ℕ) : ℕ :=
  if nHdr ≤ 126 then nHdr + 1
  else
    let nVarint := sqlite3VarintLen nHdr
    let nHdr := nHdr + nVarint
    if nVarint < sqlite3VarintLen nHdr then nHdr + 1 else nHdr

/-- The varints of the serial types. -/
def serialTypeBytes (file_format : ℕ) (vs : List Value) : List Byte :=
  vs.flatMap fun v => Varint.encode (v.serialType file_format)

/-- The contents of the fields. -/
def contentBytes (file_format : ℕ) (vs : List Value) : List Byte :=
  vs.flatMap (Value.content file_format)

/-- The record of a list of values. -/
def record (file_format : ℕ) (vs : List Value) : List Byte :=
  Varint.encode (headerSize (serialTypeBytes file_format vs).length) ++
    serialTypeBytes file_format vs ++ contentBytes file_format vs

/-- The length of a varint. -/
theorem sqlite3VarintLen_eq (v : ℕ) : sqlite3VarintLen v = Varint.size v := by
  induction v using Nat.strongRecOn with
  | ind v ih =>
    rw [sqlite3VarintLen]
    split_ifs with h
    · rw [Varint.size_eq_one (by omega)]
    · rw [ih _ (by omega), ← Varint.size_of_ge (by omega)]

/-- The header counts its own size. -/
theorem headerSize_eq {n : ℕ} (h : n < 2^32) :
    headerSize n = Varint.size (headerSize n) + n ∧ headerSize n < 2^33 := by
  have hsize : ∀ {v k : ℕ}, 0 < k → (Varint.size v ≤ k ↔ v < 128 ^ k) := Varint.size_le_iff
  unfold headerSize
  simp only [sqlite3VarintLen_eq]
  split_ifs with h126 hgrow
  · rw [Varint.size_eq_one (by omega)]
    omega
  all_goals
    have hk := Varint.size_pos n
    have hk5 : Varint.size n ≤ 5 := (hsize (by decide)).mpr (by omega)
    have hlt := Varint.lt_pow_size n
    have hpow : Varint.size n + 1 < 127 * 128 ^ Varint.size n := by
      have := Nat.one_le_pow (Varint.size n) 128 (by decide)
      omega
    have hbound : n + Varint.size n + 1 < 128 ^ (Varint.size n + 1) := by
      rw [pow_succ]; omega
  · -- The size of the header takes one byte more than the serial types would.
    have hle : Varint.size (n + Varint.size n + 1) ≤ Varint.size n + 1 :=
      (hsize (by omega)).mpr hbound
    have hge := Varint.size_mono (show n + Varint.size n ≤ n + Varint.size n + 1 by omega)
    omega
  · have hge := Varint.size_mono (show n ≤ n + Varint.size n by omega)
    omega

/-- `getVarint32`. A number of more than 32 bits is cut off. -/
def getVarint32 (bs : List Byte) : Option (ℕ × List Byte) :=
  (Varint.decode bs).map fun (v, rest) => (min v (2^32 - 1), rest)

/-- To read a varint takes at least one byte. -/
theorem length_getVarint32_lt {t : ℕ} {bs rest : List Byte} (h : getVarint32 bs = some (t, rest)) :
    rest.length < bs.length := by
  obtain ⟨⟨v, rest'⟩, hdec, heq⟩ := Option.map_eq_some_iff.mp h
  obtain ⟨-, rfl⟩ := Prod.mk.inj heq
  exact Varint.length_decode_lt hdec

/-- A varint is read as it was written. -/
theorem getVarint32_encode {v : ℕ} (h : v < 2^32) (bs : List Byte) :
    getVarint32 (Varint.encode v ++ bs) = some (v, bs) := by
  unfold getVarint32
  rw [Varint.decode_encode (by omega), Option.map_some]
  dsimp only
  rw [min_eq_left (by omega)]

/-- Reads the serial types of a header. -/
def serialTypes (header : List Byte) : Option (List ℕ) :=
  if header = [] then some []
  else
    match _h : getVarint32 header with
    | none => none
    | some (t, rest) => (serialTypes rest).map (t :: ·)
termination_by header.length
decreasing_by exact length_getVarint32_lt _h

/-- Reads the fields with the given serial types. -/
def fields : List ℕ → List Byte → Option (List Value)
  | [], _ => some []
  | t :: ts, data =>
    let n := sqlite3VdbeSerialTypeLen t
    if data.length < n then none
    else (fields ts (data.drop n)).map (sqlite3VdbeSerialGet (data.take n) t :: ·)

/-- Reads a record: the size of the header, the serial types up to it, and the fields from there on,
each at the offset where the one before ends. -/
def decodeRecord (bs : List Byte) : Option (List Value) := do
  let (szHdr, rest) ← getVarint32 bs
  let types ← serialTypes ((bs.take szHdr).drop (bs.length - rest.length))
  fields types (bs.drop szHdr)

section roundTrip

variable {ff : ℕ} {vs : List Value}

/-- The serial types of a record are read as they were written. -/
theorem serialTypes_serialTypeBytes (h : ∀ v ∈ vs, v.Fits) :
    serialTypes (serialTypeBytes ff vs) = some (vs.map (Value.serialType ff)) := by
  induction vs with
  | nil =>
    rw [serialTypes]
    rfl
  | cons v vs ih =>
    have hdec := getVarint32_encode (serialType_lt (h v List.mem_cons_self) : v.serialType ff < 2^32)
      (serialTypeBytes ff vs)
    have hcons : serialTypeBytes ff (v :: vs) =
        Varint.encode (v.serialType ff) ++ serialTypeBytes ff vs := rfl
    have hne : serialTypeBytes ff (v :: vs) ≠ [] := by
      intro hnil
      rw [← hcons, hnil] at hdec
      exact absurd hdec (by simp [getVarint32, Varint.decode, Varint.decodeFrom])
    rw [serialTypes, if_neg hne]
    split
    · rename_i hnone
      rw [hcons, hdec] at hnone
      simp at hnone
    · rename_i t rest hsome
      rw [hcons, hdec, Option.some.injEq, Prod.mk.injEq] at hsome
      obtain ⟨rfl, rfl⟩ := hsome
      rw [ih fun v hv => h v (List.mem_cons_of_mem _ hv)]
      rfl

/-- So are its contents. -/
theorem fields_contentBytes (h : ∀ v ∈ vs, v.Fits) :
    fields (vs.map (Value.serialType ff)) (contentBytes ff vs) = some vs := by
  induction vs with
  | nil => rfl
  | cons v vs ih =>
    have hcons : contentBytes ff (v :: vs) = v.content ff ++ contentBytes ff vs := rfl
    have hlen := length_content ff v
    rw [List.map_cons, fields, hcons, if_neg (by rw [List.length_append]; omega), ← hlen,
      List.drop_left, List.take_left, ih fun v hv => h v (List.mem_cons_of_mem _ hv),
      sqlite3VdbeSerialGet_content ff (h v List.mem_cons_self)]
    rfl

/-- The size of the header of a record that is not too long. -/
theorem headerSize_record (hlen : (record ff vs).length < 2^32) :
    headerSize (serialTypeBytes ff vs).length =
      (Varint.encode (headerSize (serialTypeBytes ff vs).length)).length +
        (serialTypeBytes ff vs).length ∧
    headerSize (serialTypeBytes ff vs).length < 2^32 := by
  have htypes : (serialTypeBytes ff vs).length < 2^32 := by
    unfold record at hlen
    simp only [List.length_append] at hlen
    omega
  obtain ⟨heq, hlt⟩ := headerSize_eq htypes
  have hsize := Varint.length_encode (v := headerSize (serialTypeBytes ff vs).length) (by omega)
  refine ⟨by rw [hsize]; exact heq, ?_⟩
  unfold record at hlen
  simp only [List.length_append, hsize] at hlen
  omega

/-- A record starts with the size of its header. -/
theorem getVarint32_record (hlen : (record ff vs).length < 2^32) :
    getVarint32 (record ff vs) = some (headerSize (serialTypeBytes ff vs).length,
      serialTypeBytes ff vs ++ contentBytes ff vs) := by
  unfold record
  rw [List.append_assoc, getVarint32_encode (headerSize_record hlen).2]

/-- A record is as long as its header and its fields. -/
theorem length_record (hlen : (record ff vs).length < 2^32) :
    (record ff vs).length = headerSize (serialTypeBytes ff vs).length +
      (vs.map fun v => sqlite3VdbeSerialTypeLen (v.serialType ff)).sum := by
  have hcontent : (contentBytes ff vs).length =
      (vs.map fun v => sqlite3VdbeSerialTypeLen (v.serialType ff)).sum := by
    unfold contentBytes
    rw [List.length_flatMap]
    congr 1
    exact List.map_congr_left fun v _ => length_content ff v
  rw [(headerSize_record hlen).1, ← hcontent]
  unfold record
  rw [List.length_append, List.length_append]

/-- The serial types of a record are read back. -/
theorem serialTypes_record (h : ∀ v ∈ vs, v.Fits) (hlen : (record ff vs).length < 2^32) :
    (record ff vs).length - (serialTypeBytes ff vs ++ contentBytes ff vs).length =
        (Varint.encode (headerSize (serialTypeBytes ff vs).length)).length ∧
      serialTypes (((record ff vs).take (headerSize (serialTypeBytes ff vs).length)).drop
        ((record ff vs).length - (serialTypeBytes ff vs ++ contentBytes ff vs).length)) =
        some (vs.map (Value.serialType ff)) := by
  have hhdr := (headerSize_record hlen).1
  have hskip : (record ff vs).length - (serialTypeBytes ff vs ++ contentBytes ff vs).length =
      (Varint.encode (headerSize (serialTypeBytes ff vs).length)).length := by
    unfold record
    simp only [List.length_append]
    omega
  have htake : (record ff vs).take (headerSize (serialTypeBytes ff vs).length) =
      Varint.encode (headerSize (serialTypeBytes ff vs).length) ++ serialTypeBytes ff vs := by
    unfold record
    rw [List.take_left' (by rw [List.length_append]; omega)]
  refine ⟨hskip, ?_⟩
  rw [hskip, htake, List.drop_left, serialTypes_serialTypeBytes h]

/-- A record is read back. -/
theorem decodeRecord_record (h : ∀ v ∈ vs, v.Fits) (hlen : (record ff vs).length < 2^32) :
    decodeRecord (record ff vs) = some vs := by
  have hdrop : (record ff vs).drop (headerSize (serialTypeBytes ff vs).length) =
      contentBytes ff vs := by
    unfold record
    rw [List.drop_left' (by rw [List.length_append]; exact (headerSize_record hlen).1.symm)]
  unfold decodeRecord
  rw [getVarint32_record hlen]
  simp only [Option.bind_eq_bind, Option.bind_some]
  rw [(serialTypes_record h hlen).2, Option.bind_some, hdrop, fields_contentBytes h]

end roundTrip

end SQPyte
