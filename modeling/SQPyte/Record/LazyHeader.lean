import SQPyte.Record.RoundTrip

/-!
# Headers that are parsed piece by piece

`OP_Column` keeps with a cursor what it has read of the header of a record: the serial types and
offsets of the first columns, and how far in the header they go. Asked for a later column, it goes
on from there.

`Row.column` is what the record says of a column when it is decoded from its first byte. The cursor
`Describes` a row if what it keeps is a part of that. The loop of `OP_Column` reads on as decoding
from the start would (`headerLoop_spec`), so that it extends a description to another one, or finds
the record corrupt where decoding from the start does (`parseHeader_spec`).
-/

namespace SQPyte

/-! ## The code -/

/-- The fields of `struct VdbeCursor` that describe the row. -/
structure RowCache where
  /-- Total number of bytes in the record. -/
  payloadSize : ℕ
  /-- Bytes available in `aRow`. -/
  szRow : ℕ
  /-- Offset to the next unparsed byte of the header. -/
  iHdrOffset : ℕ
  /-- Number of header fields parsed so far. -/
  nHdrParsed : ℕ
  /-- The memory from the start of the row on, if the header is on one page. -/
  aRow : Option (List Byte)
  /-- Offsets of the fields, and of the end of the last one. -/
  aOffset : List ℕ
  /-- Type values for the entries in the record. -/
  aType : List ℕ
deriving DecidableEq, Repr

/-- `SQLITE_CORRUPT`. -/
def SQLITE_CORRUPT : ℕ := 11

/-- The longest header that is accepted. -/
def MAX_HEADER : ℕ := 98307

/-- `getVarint32(zData + at, v)`: the number, and where the next byte is. -/
def readVarint32 (zData : List Byte) (at_ : ℕ) : Except Exc (ℕ × ℕ) :=
  match getVarint32 (zData.drop at_) with
  | some (v, rest) => .ok (v, zData.length - rest.length)
  | none => .error .memory

/-- The variables of the loop that fills in `aType` and `aOffset`. -/
structure HeaderScan where
  /-- The number of columns done. -/
  i : ℕ
  /-- The end of the last of them in the record. -/
  offset : ℕ
  /-- The next byte of the header. -/
  zHdr : ℕ
  /-- `pC->aOffset`. -/
  aOffset : List ℕ
  /-- `pC->aType`. -/
  aType : List ℕ

/-- The loop, with at most the given number of turns left. The header ends before `zEndHdr`. -/
def headerLoop (zData : List Byte) (zEndHdr : ℕ) : ℕ → HeaderScan → Except Exc HeaderScan
  | 0, s => .ok s
  | n + 1, s => do
    let (t, zHdr) ← readVarint32 zData s.zHdr
    let aType := s.aType.set s.i t
    let szField := sqlite3VdbeSerialTypeLen t
    let offset := (s.offset + szField) % 2^32
    if offset < szField then
      -- The offset overflows.
      return { s with offset := offset, zHdr := zEndHdr + 1, aType := aType }
    else
      let s := ⟨s.i + 1, offset, zHdr, s.aOffset.set (s.i + 1) offset, aType⟩
      if zHdr < zEndHdr then headerLoop zData zEndHdr n s else return s

/-- The start of a row's description, up to the jump to `op_column_read_header`: the result code and
the fields of the cursor. `avail` bytes of the row are on the page. -/
def startHeader (zData : List Byte) (payloadSize szRow avail : ℕ) (pC : RowCache) :
    Except Exc (ℕ × RowCache) := do
  let (offset, iHdrOffset) ← readVarint32 zData 0
  let pC := { pC with
    payloadSize := payloadSize, szRow := szRow, aRow := some zData
    iHdrOffset := iHdrOffset, nHdrParsed := 0, aOffset := pC.aOffset.set 0 offset }
  if MAX_HEADER < offset ∨ payloadSize < offset then return (SQLITE_CORRUPT, pC)
  else if avail < offset then return (SQLITE_OK, { pC with aRow := none, szRow := 0 })
  else return (SQLITE_OK, pC)

/-- The part of `op_column_read_header` that goes through the header in `zData`, up to the column
`p2`. -/
def parseHeader (zData : List Byte) (p2 : ℕ) (pC : RowCache) : Except Exc (ℕ × RowCache) := do
  let zEndHdr := pC.aOffset.getD 0 0
  let s ← headerLoop zData zEndHdr (p2 + 1 - pC.nHdrParsed)
    ⟨pC.nHdrParsed, pC.aOffset.getD pC.nHdrParsed 0, pC.iHdrOffset, pC.aOffset, pC.aType⟩
  let pC := { pC with
    nHdrParsed := s.i, iHdrOffset := s.zHdr, aOffset := s.aOffset, aType := s.aType }
  if (zEndHdr ≤ s.zHdr ∧ (zEndHdr < s.zHdr ∨ s.offset ≠ pC.payloadSize)) ∨
      pC.payloadSize < s.offset then
    return (SQLITE_CORRUPT, pC)
  else return (SQLITE_OK, pC)

/-! ## Decoding from the start -/

/-- The first `n` serial types of a header, or all if there are fewer, and what is left of it. A
header that ends inside a varint has none. -/
def columnTypes : ℕ → List Byte → Option (List ℕ × List Byte)
  | 0, header => some ([], header)
  | n + 1, header =>
    if header = [] then some ([], [])
    else do
      let (t, rest) ← getVarint32 header
      let (ts, left) ← columnTypes n rest
      return (t :: ts, left)

/-- The number of bytes of the fields with the given serial types. -/
def contentLength (ts : List ℕ) : ℕ := (ts.map sqlite3VdbeSerialTypeLen).sum

/-- A record where a cursor finds it. The first `avail` bytes are on the page of the entry, and the
others on overflow pages. -/
structure Row where
  /-- The bytes of the record. -/
  payload : List Byte
  /-- The number of bytes on the page. -/
  avail : ℕ
  /-- What is in memory after them. -/
  slack : List Byte
  /-- The size of a record is a 32-bit number. -/
  length_lt : payload.length < 2^32
  /-- The page has no more bytes than there are. -/
  avail_le : avail ≤ payload.length
  /-- The size of the header is on the page. -/
  reach : avail = payload.length ∨ 9 ≤ avail
  /-- A varint is not read beyond the memory of the page. -/
  slack_length : 9 ≤ slack.length

namespace Row

variable (r : Row)

/-- The memory from the start of the row on. -/
def memory : List Byte := r.payload.take r.avail ++ r.slack

/-- The size of the header, and where the first serial type is. -/
def headerStart : ℕ × ℕ :=
  match getVarint32 r.memory with
  | some (szHdr, rest) => (szHdr, r.memory.length - rest.length)
  | none => (0, 0)

/-- The size of the header. -/
def szHdr : ℕ := r.headerStart.1

/-- The bytes of the serial types. -/
def header : List Byte := (r.payload.take r.szHdr).drop r.headerStart.2

/-- The serial types of the first `n` columns, unless the record is corrupt as far as they show. -/
def types (n : ℕ) : Option (List ℕ × List Byte) :=
  if MAX_HEADER < r.szHdr ∨ r.payload.length < r.szHdr then none
  else match columnTypes n r.header with
    | none => none
    | some (ts, left) =>
      if r.payload.length < r.szHdr + contentLength ts ∨
          (r.header ≠ [] ∧ left = [] ∧ r.szHdr + contentLength ts ≠ r.payload.length) then none
      else some (ts, left)

/-- The offset of column `j` and its serial type, if the record has that many columns. -/
def fieldAt (j : ℕ) : Option (Option (ℕ × ℕ)) :=
  (r.types (j + 1)).map fun (ts, _) =>
    ts[j]?.map fun t => (r.szHdr + contentLength (ts.take j), t)

/-- The value of a field at an offset. -/
def valueAt (offset t : ℕ) : Value :=
  sqlite3VdbeSerialGet ((r.payload.drop offset).take (sqlite3VdbeSerialTypeLen t)) t

/-- What the record says of column `j`: its value, that there is no such column, or that the record
is corrupt. -/
def column (j : ℕ) : Option (Option Value) :=
  (r.fieldAt j).map fun f => f.map fun (offset, t) => r.valueAt offset t

end Row

/-! ## The loop -/

/-- There is no 32-bit varint where there is no varint. -/
theorem getVarint32_eq_none {bs : List Byte} : getVarint32 bs = none ↔ Varint.decode bs = none :=
  Option.map_eq_none_iff

/-- A serial type fits into 32 bits. -/
theorem getVarint32_lt {bs rest : List Byte} {t : ℕ} (h : getVarint32 bs = some (t, rest)) :
    t < 2^32 := by
  obtain ⟨⟨v, rest'⟩, -, heq⟩ := Option.map_eq_some_iff.mp h
  obtain ⟨rfl, -⟩ := Prod.mk.inj heq
  exact lt_of_le_of_lt (min_le_right _ _) (by decide)

/-- A varint is read whatever comes after it. -/
theorem getVarint32_append {bs rest : List Byte} {t : ℕ} (h : getVarint32 bs = some (t, rest))
    (more : List Byte) : getVarint32 (bs ++ more) = some (t, rest ++ more) := by
  obtain ⟨⟨v, rest'⟩, hdec, heq⟩ := Option.map_eq_some_iff.mp h
  obtain ⟨rfl, rfl⟩ := Prod.mk.inj heq
  unfold getVarint32 Varint.decode
  rw [Varint.decodeFrom_append hdec, Option.map_some]

/-- What is left is the end of what there was. -/
theorem getVarint32_suffix {bs rest : List Byte} {t : ℕ} (h : getVarint32 bs = some (t, rest)) :
    rest <:+ bs := by
  obtain ⟨⟨v, rest'⟩, hdec, heq⟩ := Option.map_eq_some_iff.mp h
  obtain ⟨-, rfl⟩ := Prod.mk.inj heq
  exact Varint.decode_suffix hdec

/-- A varint that needs more bytes takes some of them. -/
theorem length_lt_of_getVarint32_append {bs more rest : List Byte} {t : ℕ}
    (hnone : getVarint32 bs = none) (h : getVarint32 (bs ++ more) = some (t, rest)) :
    rest.length < more.length := by
  obtain ⟨⟨v, rest'⟩, hdec, heq⟩ := Option.map_eq_some_iff.mp h
  obtain ⟨-, rfl⟩ := Prod.mk.inj heq
  exact Varint.length_lt_of_decodeFrom_append (getVarint32_eq_none.mp hnone) hdec

/-- The length of a value has 31 bits. -/
theorem sqlite3VdbeSerialTypeLen_lt {t : ℕ} (h : t < 2^32) : sqlite3VdbeSerialTypeLen t < 2^31 := by
  unfold sqlite3VdbeSerialTypeLen
  split_ifs with ht
  · omega
  · have : ∀ k < 12, SIZE_INFO_OF_SERIAL_TYPES.getD k 0 < 2^31 := by decide
    exact this t (by omega)

section loop

variable {zData : List Byte} {zEndHdr : ℕ}

/-- A serial type in the header is read as from the header alone, unless it does not end there. -/
theorem readVarint32_spec (hlen : zEndHdr ≤ zData.length) {pos : ℕ} (hpos : pos < zEndHdr)
    (hread : getVarint32 (zData.drop pos) ≠ none) :
    ∃ t pos', readVarint32 zData pos = .ok (t, pos') ∧ t < 2^32 ∧
      ((pos < pos' ∧ pos' ≤ zEndHdr ∧ getVarint32 ((zData.take zEndHdr).drop pos) =
          some (t, (zData.take zEndHdr).drop pos')) ∨
        (zEndHdr < pos' ∧ getVarint32 ((zData.take zEndHdr).drop pos) = none)) := by
  obtain ⟨⟨t, rest⟩, hsome⟩ := Option.ne_none_iff_exists'.mp hread
  have hsplit : zData.drop pos = (zData.take zEndHdr).drop pos ++ zData.drop zEndHdr := by
    have := congrArg (List.drop pos) (List.take_append_drop zEndHdr zData)
    rw [List.drop_append_of_le_length (by rw [List.length_take]; omega)] at this
    exact this.symm
  refine ⟨t, zData.length - rest.length, ?_, getVarint32_lt hsome, ?_⟩
  · unfold readVarint32
    rw [hsome]
  rw [hsplit] at hsome
  rcases hhdr : getVarint32 ((zData.take zEndHdr).drop pos) with _ | ⟨t', left⟩
  · -- The varint goes on behind the header.
    have := length_lt_of_getVarint32_append hhdr hsome
    rw [List.length_drop] at this
    exact Or.inr ⟨by omega, rfl⟩
  · have heq := getVarint32_append hhdr (zData.drop zEndHdr)
    rw [hsome, Option.some.injEq, Prod.mk.injEq] at heq
    obtain ⟨rfl, rfl⟩ := heq
    have hlt := length_getVarint32_lt hhdr
    have hsuffix := List.suffix_iff_eq_drop.mp (getVarint32_suffix hhdr)
    rw [List.length_drop, List.length_take] at hlt
    have hend : zData.length - (left ++ zData.drop zEndHdr).length = zEndHdr - left.length := by
      rw [List.length_append, List.length_drop]; omega
    rw [hend]
    refine Or.inl ⟨by omega, by omega, ?_⟩
    rw [List.length_drop, List.length_take, List.drop_drop] at hsuffix
    rw [show zEndHdr - left.length = pos + (min zEndHdr zData.length - pos - left.length) by omega,
      ← hsuffix]

/-- The state `s'` of the loop is `s` with the columns of types `ts` added. -/
structure HeaderScan.Extends (s : HeaderScan) (ts : List ℕ) (s' : HeaderScan) : Prop where
  /-- The columns are counted. -/
  i : s'.i = s.i + ts.length
  /-- The offset is where they end. -/
  offset : s'.offset = s.offset + contentLength ts
  /-- It has not overflowed. -/
  offset_lt : s'.offset < 2^32
  /-- Their ends are filled in. -/
  aOffset : ∀ k, s'.aOffset[k]? = if s.i ≤ k ∧ k ≤ s.i + ts.length then
    some (s.offset + contentLength (ts.take (k - s.i))) else s.aOffset[k]?
  /-- Their types are filled in. -/
  aType : ∀ k, s'.aType[k]? = if s.i ≤ k ∧ k < s.i + ts.length then ts[k - s.i]? else s.aType[k]?
  /-- The arrays stay as long as they are. -/
  length_aOffset : s'.aOffset.length = s.aOffset.length
  /-- The same for the types. -/
  length_aType : s'.aType.length = s.aType.length

/-- No values have no content. -/
@[simp] theorem contentLength_nil : contentLength [] = 0 := rfl

/-- The content of one value more. -/
@[simp] theorem contentLength_cons (t : ℕ) (ts : List ℕ) :
    contentLength (t :: ts) = sqlite3VdbeSerialTypeLen t + contentLength ts := by
  simp [contentLength]

/-- The content of two lists of values. -/
theorem contentLength_append (ts us : List ℕ) :
    contentLength (ts ++ us) = contentLength ts + contentLength us := by
  simp [contentLength]

/-- A scan that has not gone on. -/
theorem HeaderScan.Extends.refl {s : HeaderScan} (hoff : s.offset < 2^32)
    (hcur : s.aOffset[s.i]? = some s.offset) : s.Extends [] s where
  i := rfl
  offset := rfl
  offset_lt := hoff
  aOffset k := by
    split_ifs with h
    · obtain rfl : k = s.i := by simpa using le_antisymm h.2 h.1
      simpa using hcur
    · rfl
  aType k := by
    rw [if_neg]
    simp
  length_aOffset := rfl
  length_aType := rfl

/-- One turn of the loop adds a column. -/
theorem HeaderScan.Extends.cons {s s' : HeaderScan} {t zHdr : ℕ} {ts : List ℕ}
    (hT : s.i < s.aType.length) (hcur : s.aOffset[s.i]? = some s.offset)
    (h : HeaderScan.Extends ⟨s.i + 1, s.offset + sqlite3VdbeSerialTypeLen t, zHdr,
      s.aOffset.set (s.i + 1) (s.offset + sqlite3VdbeSerialTypeLen t), s.aType.set s.i t⟩ ts s') :
    s.Extends (t :: ts) s' where
  i := by
    rw [h.i, List.length_cons]
    exact Nat.add_right_comm ..
  offset := by
    rw [h.offset, contentLength_cons]
    exact Nat.add_assoc ..
  offset_lt := h.offset_lt
  aOffset k := by
    rw [h.aOffset k]
    dsimp only
    rw [List.length_cons]
    by_cases hk : s.i + 1 ≤ k ∧ k ≤ s.i + 1 + ts.length
    · rw [if_pos hk, if_pos (by omega), show k - s.i = k - (s.i + 1) + 1 by omega,
        List.take_succ_cons, contentLength_cons, add_assoc]
    · rw [if_neg hk]
      by_cases hki : k = s.i
      · subst hki
        rw [if_pos (by omega), List.getElem?_set_ne (by omega), hcur, Nat.sub_self]
        rfl
      · rw [if_neg (by omega), List.getElem?_set_ne (by omega)]
  aType k := by
    rw [h.aType k]
    dsimp only
    rw [List.length_cons]
    by_cases hk : s.i + 1 ≤ k ∧ k < s.i + 1 + ts.length
    · rw [if_pos hk, if_pos (by omega), show k - s.i = k - (s.i + 1) + 1 by omega,
        List.getElem?_cons_succ]
    · rw [if_neg hk]
      by_cases hki : k = s.i
      · subst hki
        rw [if_pos (by omega), List.getElem?_set_self hT, Nat.sub_self]
        rfl
      · rw [if_neg (by omega), List.getElem?_set_ne (by omega)]
  length_aOffset := by rw [h.length_aOffset]; exact List.length_set ..
  length_aType := by rw [h.length_aType]; exact List.length_set ..

/-- An empty header has no serial types. -/
@[simp] theorem columnTypes_nil (n : ℕ) : columnTypes n [] = some ([], []) := by cases n <;> rfl

/-- A header with a broken varint has none. -/
theorem columnTypes_of_none {header : List Byte} (n : ℕ) (hne : header ≠ [])
    (h : getVarint32 header = none) : columnTypes (n + 1) header = none := by
  rw [columnTypes, if_neg hne, h]
  rfl

/-- The first serial type and the others. -/
theorem columnTypes_of_some {header rest : List Byte} {t : ℕ} (n : ℕ)
    (h : getVarint32 header = some (t, rest)) :
    columnTypes (n + 1) header = (columnTypes n rest).map fun x => (t :: x.1, x.2) := by
  have hne : header ≠ [] := by
    rintro rfl
    exact absurd (length_getVarint32_lt h) (Nat.not_lt_zero _)
  rw [columnTypes, if_neg hne, h, Option.bind_eq_bind, Option.bind_some]
  dsimp only
  rcases columnTypes n rest with _ | x <;> rfl

/-- The ends of the columns so far and of those added. -/
theorem HeaderScan.Extends.offsets {s s' : HeaderScan} {ts us : List ℕ} {base : ℕ}
    (h : s.Extends us s') (hi : s.i = ts.length) (hbase : s.offset = base + contentLength ts)
    (hoff : ∀ k ≤ ts.length, s.aOffset[k]? = some (base + contentLength (ts.take k))) :
    ∀ k ≤ (ts ++ us).length,
      s'.aOffset[k]? = some (base + contentLength ((ts ++ us).take k)) := by
  intro k hk
  rw [List.length_append] at hk
  rw [h.aOffset k, hi, hbase]
  by_cases hkt : ts.length ≤ k
  · rw [if_pos ⟨hkt, hk⟩, List.take_append, List.take_of_length_le hkt, contentLength_append,
      Nat.add_assoc]
  · rw [if_neg (by omega), hoff k (by omega), List.take_append_of_le_length (by omega)]

/-- The types of the columns so far and of those added. -/
theorem HeaderScan.Extends.types {s s' : HeaderScan} {ts us : List ℕ} (h : s.Extends us s')
    (hi : s.i = ts.length) (htype : ∀ k < ts.length, s.aType[k]? = ts[k]?) :
    ∀ k < (ts ++ us).length, s'.aType[k]? = (ts ++ us)[k]? := by
  intro k hk
  rw [List.length_append] at hk
  rw [h.aType k, hi]
  by_cases hkt : ts.length ≤ k
  · rw [if_pos ⟨hkt, hk⟩, List.getElem?_append_right hkt]
  · rw [if_neg (by omega), htype k (by omega), List.getElem?_append_left (by omega)]

/-- The loop reads as many columns as decoding the header does, or ends behind the header where
that fails or the fields are too long for an offset. -/
theorem headerLoop_spec (hlen : zEndHdr ≤ zData.length)
    (hread : ∀ pos < zEndHdr, getVarint32 (zData.drop pos) ≠ none) (n : ℕ) (s : HeaderScan)
    (hpos : s.zHdr < zEndHdr) (hoff : s.offset < 2^32) (hO : s.i + n < s.aOffset.length)
    (hT : s.i + n ≤ s.aType.length) (hcur : s.aOffset[s.i]? = some s.offset) :
    ∃ s', headerLoop zData zEndHdr n s = .ok s' ∧
      ((zEndHdr < s'.zHdr ∧ ∀ ts left,
          columnTypes n ((zData.take zEndHdr).drop s.zHdr) = some (ts, left) →
            2^32 ≤ s.offset + contentLength ts) ∨
        (s'.zHdr ≤ zEndHdr ∧ ∃ ts, columnTypes n ((zData.take zEndHdr).drop s.zHdr) =
          some (ts, (zData.take zEndHdr).drop s'.zHdr) ∧ s.Extends ts s')) := by
  -- The induction is on the columns still to parse, with the scan's state general.
  induction n generalizing s with
  | zero => exact ⟨s, rfl, Or.inr ⟨hpos.le, [], rfl, HeaderScan.Extends.refl hoff hcur⟩⟩
  | succ n ih =>
    obtain ⟨t, pos', hvarint, ht, hcases⟩ := readVarint32_spec hlen hpos (hread _ hpos)
    have hszField := sqlite3VdbeSerialTypeLen_lt ht
    have hne : (zData.take zEndHdr).drop s.zHdr ≠ [] := by
      rw [Ne, List.drop_eq_nil_iff, List.length_take]
      omega
    unfold headerLoop
    rw [hvarint]
    dsimp only [Bind.bind, Except.bind, Pure.pure, Except.pure]
    by_cases hwrap : 2^32 ≤ s.offset + sqlite3VdbeSerialTypeLen t
    · -- The offset overflows, and the sum of the lengths is no smaller.
      rw [if_pos (by omega)]
      refine ⟨_, rfl, Or.inl ⟨Nat.lt_succ_self _, fun ts left hts => ?_⟩⟩
      rcases hcases with ⟨-, -, hget⟩ | ⟨-, hget⟩
      · rw [columnTypes_of_some n hget] at hts
        obtain ⟨x, -, heq⟩ := Option.map_eq_some_iff.mp hts
        obtain ⟨rfl, -⟩ := Prod.mk.inj heq
        rw [contentLength_cons]
        omega
      · rw [columnTypes_of_none n hne hget] at hts
        cases hts
    · have hmod : (s.offset + sqlite3VdbeSerialTypeLen t) % 2^32 =
          s.offset + sqlite3VdbeSerialTypeLen t := Nat.mod_eq_of_lt (by omega)
      rw [hmod, if_neg (by omega)]
      rcases hcases with ⟨-, hle, hget⟩ | ⟨hgt, hget⟩
      · -- A type was read.
        have htypes := columnTypes_of_some n hget
        have hcur₁ : (s.aOffset.set (s.i + 1) (s.offset + sqlite3VdbeSerialTypeLen t))[s.i + 1]? =
            some (s.offset + sqlite3VdbeSerialTypeLen t) := List.getElem?_set_self (by omega)
        -- The loop also ends where the header does.
        by_cases hmore : pos' < zEndHdr
        · rw [if_pos hmore]
          -- The rest of the header is parsed from the new offset.
          obtain ⟨s', hloop, hend⟩ := ih ⟨s.i + 1, s.offset + sqlite3VdbeSerialTypeLen t, pos',
            s.aOffset.set (s.i + 1) (s.offset + sqlite3VdbeSerialTypeLen t), s.aType.set s.i t⟩
            hmore (by dsimp only; omega) (by dsimp only; rw [List.length_set]; omega)
            (by dsimp only; rw [List.length_set]; omega) hcur₁
          refine ⟨s', hloop, ?_⟩
          rcases hend with ⟨hout, hlong⟩ | ⟨hin, ts, hts, hext⟩
          · refine Or.inl ⟨hout, fun ts left hts => ?_⟩
            rw [htypes] at hts
            obtain ⟨x, hx, heq⟩ := Option.map_eq_some_iff.mp hts
            obtain ⟨rfl, -⟩ := Prod.mk.inj heq
            rw [contentLength_cons, ← Nat.add_assoc]
            exact hlong x.1 x.2 hx
          · refine Or.inr ⟨hin, t :: ts, ?_, hext.cons (by omega) hcur⟩
            dsimp only at hts
            rw [htypes, hts, Option.map_some]
        · -- The header ends here.
          obtain rfl : pos' = zEndHdr := by omega
          rw [if_neg hmore]
          have hnil : (zData.take pos').drop pos' = [] := by
            rw [List.drop_eq_nil_iff, List.length_take]
            omega
          refine ⟨_, rfl, Or.inr ⟨le_refl _, [t], ?_, HeaderScan.Extends.cons (by omega) hcur
            (HeaderScan.Extends.refl (by dsimp only; omega) hcur₁)⟩⟩
          rw [htypes, hnil, columnTypes_nil, Option.map_some]
      · -- The header ends within a type.
        rw [if_neg (by omega)]
        refine ⟨_, rfl, Or.inl ⟨hgt, fun ts left hts => ?_⟩⟩
        rw [columnTypes_of_none n hne hget] at hts
        cases hts

end loop

/-! ## Parts of a header -/

section types

variable {header left : List Byte} {ts : List ℕ} {n : ℕ}

/-- What is left of a header is its end. -/
theorem columnTypes_suffix (h : columnTypes n header = some (ts, left)) : left <:+ header := by
  induction n generalizing header ts with
  | zero =>
    obtain ⟨-, rfl⟩ := Prod.mk.inj (Option.some.inj h)
    exact List.suffix_refl _
  | succ n ih =>
    by_cases hne : header = []
    · subst hne
      rw [columnTypes_nil] at h
      obtain ⟨-, rfl⟩ := Prod.mk.inj (Option.some.inj h)
      exact List.suffix_refl _
    rcases hget : getVarint32 header with _ | ⟨t, rest⟩
    · rw [columnTypes_of_none n hne hget] at h
      cases h
    · rw [columnTypes_of_some n hget] at h
      obtain ⟨x, hx, heq⟩ := Option.map_eq_some_iff.mp h
      obtain ⟨-, rfl⟩ := Prod.mk.inj heq
      exact (ih hx).trans (getVarint32_suffix hget)

/-- There are as many types as asked for, unless the header ends. -/
theorem length_columnTypes (h : columnTypes n header = some (ts, left)) :
    ts.length ≤ n ∧ (ts.length = n ∨ left = []) := by
  induction n generalizing header ts with
  | zero =>
    obtain ⟨rfl, -⟩ := Prod.mk.inj (Option.some.inj h)
    exact ⟨le_refl _, Or.inl rfl⟩
  | succ n ih =>
    by_cases hne : header = []
    · subst hne
      rw [columnTypes_nil] at h
      obtain ⟨rfl, rfl⟩ := Prod.mk.inj (Option.some.inj h)
      exact ⟨Nat.zero_le _, Or.inr rfl⟩
    rcases hget : getVarint32 header with _ | ⟨t, rest⟩
    · rw [columnTypes_of_none n hne hget] at h
      cases h
    · rw [columnTypes_of_some n hget] at h
      obtain ⟨x, hx, heq⟩ := Option.map_eq_some_iff.mp h
      obtain ⟨rfl, rfl⟩ := Prod.mk.inj heq
      obtain ⟨hle, hor⟩ := ih hx
      rw [List.length_cons]
      exact ⟨by omega, hor.imp_left (by omega)⟩

/-- Asking for no more columns than there are gives the same. -/
theorem columnTypes_length (h : columnTypes n header = some (ts, left)) :
    columnTypes ts.length header = some (ts, left) := by
  induction n generalizing header ts with
  | zero =>
    obtain ⟨rfl, -⟩ := Prod.mk.inj (Option.some.inj h)
    exact h
  | succ n ih =>
    by_cases hne : header = []
    · subst hne
      rw [columnTypes_nil] at h ⊢
      exact h
    rcases hget : getVarint32 header with _ | ⟨t, rest⟩
    · rw [columnTypes_of_none n hne hget] at h
      cases h
    · rw [columnTypes_of_some n hget] at h
      obtain ⟨x, hx, heq⟩ := Option.map_eq_some_iff.mp h
      obtain ⟨rfl, rfl⟩ := Prod.mk.inj heq
      rw [List.length_cons, columnTypes_of_some _ hget, ih hx, Option.map_some]

/-- Decoding goes on where it stopped. -/
theorem columnTypes_add (h : columnTypes n header = some (ts, left)) (m : ℕ) :
    columnTypes (n + m) header = (columnTypes m left).map fun x => (ts ++ x.1, x.2) := by
  induction n generalizing header ts with
  | zero =>
    obtain ⟨rfl, rfl⟩ := Prod.mk.inj (Option.some.inj h)
    rw [Nat.zero_add]
    rcases columnTypes m header with _ | x <;> rfl
  | succ n ih =>
    by_cases hne : header = []
    · subst hne
      rw [columnTypes_nil] at h
      obtain ⟨rfl, rfl⟩ := Prod.mk.inj (Option.some.inj h)
      rw [columnTypes_nil, columnTypes_nil]
      rfl
    rcases hget : getVarint32 header with _ | ⟨t, rest⟩
    · rw [columnTypes_of_none n hne hget] at h
      cases h
    · rw [columnTypes_of_some n hget] at h
      obtain ⟨x, hx, heq⟩ := Option.map_eq_some_iff.mp h
      obtain ⟨rfl, rfl⟩ := Prod.mk.inj heq
      rw [Nat.add_right_comm, columnTypes_of_some _ hget, ih hx, Option.map_map]
      rfl

/-- Where more columns can be decoded, fewer can be. -/
theorem columnTypes_ne_none {m : ℕ} (h : columnTypes n header = some (ts, left)) (hm : m ≤ n) :
    columnTypes m header ≠ none := by
  induction m generalizing n header ts with
  | zero => exact nofun
  | succ m ih =>
    obtain ⟨k, rfl⟩ : ∃ k, n = k + 1 := ⟨n - 1, by omega⟩
    by_cases hne : header = []
    · rw [hne, columnTypes_nil]
      exact nofun
    rcases hget : getVarint32 header with _ | ⟨t, rest⟩
    · rw [columnTypes_of_none k hne hget] at h
      cases h
    · rw [columnTypes_of_some k hget] at h
      obtain ⟨x, hx, heq⟩ := Option.map_eq_some_iff.mp h
      obtain ⟨-, rfl⟩ := Prod.mk.inj heq
      rw [columnTypes_of_some m hget, Ne, Option.map_eq_none_iff]
      exact ih hx (show m ≤ k by omega)

/-- Fewer columns are the first of more columns. -/
theorem columnTypes_of_le {m : ℕ} (h : columnTypes n header = some (ts, left)) (hm : m ≤ n) :
    ∃ left', columnTypes m header = some (ts.take m, left') ∧
      (left' = [] → ts.take m = ts ∧ left = []) := by
  obtain ⟨⟨us, left'⟩, hcol⟩ := Option.ne_none_iff_exists'.mp (columnTypes_ne_none h hm)
  obtain ⟨k, rfl⟩ : ∃ k, n = m + k := ⟨n - m, by omega⟩
  rw [columnTypes_add hcol] at h
  obtain ⟨x, hx, heq⟩ := Option.map_eq_some_iff.mp h
  obtain ⟨rfl, rfl⟩ := Prod.mk.inj heq
  obtain ⟨hle, hor⟩ := length_columnTypes hcol
  rcases hor with rfl | rfl
  · rw [List.take_left]
    refine ⟨left', hcol, ?_⟩
    rintro rfl
    rw [columnTypes_nil] at hx
    obtain rfl := Option.some.inj hx
    exact ⟨(List.append_nil _).symm, rfl⟩
  · rw [columnTypes_nil] at hx
    obtain rfl := Option.some.inj hx
    rw [List.append_nil, List.take_of_length_le hle]
    exact ⟨[], hcol, fun _ => ⟨rfl, rfl⟩⟩

end types

namespace Row

variable {r : Row} {ts : List ℕ} {left : List Byte} {n : ℕ}

/-- The record is not corrupt as far as the types `ts` of its first columns show. -/
structure Consistent (r : Row) (ts : List ℕ) (left : List Byte) : Prop where
  /-- The header is not too long. -/
  header_le : r.szHdr ≤ MAX_HEADER
  /-- It is part of the record. -/
  header_fits : r.szHdr ≤ r.payload.length
  /-- The fields are part of the record. -/
  content_fits : r.szHdr + contentLength ts ≤ r.payload.length
  /-- They are all of it if the header ends. -/
  content_eq : r.header ≠ [] → left = [] → r.szHdr + contentLength ts = r.payload.length

/-- The serial types are those of a header that is consistent. -/
theorem types_eq_some_iff : r.types n = some (ts, left) ↔
    columnTypes n r.header = some (ts, left) ∧ r.Consistent ts left := by
  unfold types
  by_cases h1 : MAX_HEADER < r.szHdr ∨ r.payload.length < r.szHdr
  · rw [if_pos h1]
    refine iff_of_false nofun fun h => ?_
    have := h.2.header_le
    have := h.2.header_fits
    omega
  rw [if_neg h1]
  rcases columnTypes n r.header with _ | ⟨us, left'⟩
  · exact iff_of_false nofun fun h => nomatch h.1
  dsimp only
  by_cases h2 : r.payload.length < r.szHdr + contentLength us ∨
      (r.header ≠ [] ∧ left' = [] ∧ r.szHdr + contentLength us ≠ r.payload.length)
  · rw [if_pos h2]
    refine iff_of_false nofun fun ⟨h, hc⟩ => ?_
    obtain ⟨rfl, rfl⟩ := Prod.mk.inj (Option.some.inj h)
    rcases h2 with h2 | ⟨hne, hnil, h2⟩
    · exact absurd hc.content_fits (by omega)
    · exact h2 (hc.content_eq hne hnil)
  · rw [if_neg h2]
    refine ⟨fun h => ⟨h, ?_⟩, fun h => h.1⟩
    obtain ⟨rfl, rfl⟩ := Prod.mk.inj (Option.some.inj h)
    refine ⟨by omega, by omega, by omega, fun hne hnil => ?_⟩
    by_contra h
    exact h2 (Or.inr ⟨hne, hnil, h⟩)

/-- Fewer columns of a record that is consistent are consistent. -/
theorem types_of_le {m : ℕ} (h : r.types n = some (ts, left)) (hm : m ≤ n) :
    ∃ left', r.types m = some (ts.take m, left') := by
  obtain ⟨hcol, hc⟩ := types_eq_some_iff.mp h
  obtain ⟨left', hcol', hnil⟩ := columnTypes_of_le hcol hm
  refine ⟨left', types_eq_some_iff.mpr ⟨hcol', hc.header_le, hc.header_fits, ?_, ?_⟩⟩
  · calc r.szHdr + contentLength (ts.take m)
        ≤ r.szHdr + (contentLength (ts.take m) + contentLength (ts.drop m)) := by omega
      _ = r.szHdr + contentLength ts := by rw [← contentLength_append, List.take_append_drop]
      _ ≤ r.payload.length := hc.content_fits
  · intro hne hleft
    obtain ⟨hts, rfl⟩ := hnil hleft
    rw [hts]
    exact hc.content_eq hne rfl

/-- Once the header is used up, there are no more columns. -/
theorem types_of_nil {m : ℕ} (h : r.types n = some (ts, [])) (hm : n ≤ m) :
    r.types m = some (ts, []) := by
  obtain ⟨hcol, hc⟩ := types_eq_some_iff.mp h
  obtain ⟨k, rfl⟩ : ∃ k, m = n + k := ⟨m - n, by omega⟩
  refine types_eq_some_iff.mpr ⟨?_, hc⟩
  rw [columnTypes_add hcol, columnTypes_nil, Option.map_some, List.append_nil]

end Row

/-! ## What a cursor keeps -/

/-- What the cursor keeps is what the record says of the first `nHdrParsed` columns. The arrays are
for `nField` columns. -/
structure RowCache.Describes (pC : RowCache) (r : Row) (nField : ℕ) : Prop where
  /-- The size is that of the record. -/
  payloadSize : pC.payloadSize = r.payload.length
  /-- The row is in memory up to the end of the header, if that is on the page. -/
  aRow : pC.aRow = if r.szHdr ≤ r.avail then some r.memory else none
  /-- In that case the whole page can be used. -/
  szRow : pC.szRow = if r.szHdr ≤ r.avail then r.avail else 0
  /-- There is a place for the end of each column. -/
  length_aOffset : pC.aOffset.length = nField + 1
  /-- There is a place for the type of each column. -/
  length_aType : pC.aType.length = nField
  /-- The columns so far are those of the record. -/
  parsed : ∃ ts left, r.types pC.nHdrParsed = some (ts, left) ∧ ts.length = pC.nHdrParsed ∧
    pC.iHdrOffset = r.headerStart.2 + (r.header.length - left.length) ∧
    (∀ k ≤ ts.length, pC.aOffset[k]? = some (r.szHdr + contentLength (ts.take k))) ∧
    ∀ k < ts.length, pC.aType[k]? = ts[k]?

namespace RowCache.Describes

variable {pC : RowCache} {r : Row} {nField p2 : ℕ}

/-- The first offset is the size of the header. -/
theorem aOffset_zero (h : pC.Describes r nField) : pC.aOffset[0]? = some r.szHdr := by
  obtain ⟨ts, left, -, -, -, hoff, -⟩ := h.parsed
  exact hoff 0 (Nat.zero_le _)

/-- A column that is parsed is the column of the record. -/
theorem fieldAt_of_lt (h : pC.Describes r nField) (hp2 : p2 < pC.nHdrParsed) :
    ∃ offset t, r.fieldAt p2 = some (some (offset, t)) ∧ pC.aOffset[p2]? = some offset ∧
      pC.aOffset[p2 + 1]? = some (offset + sqlite3VdbeSerialTypeLen t) ∧ pC.aType[p2]? = some t ∧
      offset + sqlite3VdbeSerialTypeLen t ≤ r.payload.length ∧ r.szHdr ≤ offset := by
  obtain ⟨ts, left, htypes, hlen, -, hoff, htype⟩ := h.parsed
  obtain ⟨left', htypes'⟩ := Row.types_of_le htypes (show p2 + 1 ≤ pC.nHdrParsed by omega)
  have hget : ts[p2]? = some ts[p2] := List.getElem?_eq_getElem (by omega)
  have htake : ts.take (p2 + 1) = ts.take p2 ++ [ts[p2]] := by
    rw [List.take_add_one, hget]
    rfl
  have hend : r.szHdr + contentLength (ts.take (p2 + 1)) =
      r.szHdr + contentLength (ts.take p2) + sqlite3VdbeSerialTypeLen ts[p2] := by
    rw [htake, contentLength_append, contentLength_cons, contentLength_nil]
    omega
  refine ⟨_, ts[p2], ?_, hoff p2 (by omega), ?_, ?_, ?_, Nat.le_add_right _ _⟩
  · unfold Row.fieldAt
    rw [htypes', Option.map_some]
    dsimp only
    rw [List.getElem?_take_of_lt (Nat.lt_succ_self _), hget, List.take_take,
      Nat.min_eq_left (Nat.le_succ _)]
    rfl
  · rw [hoff (p2 + 1) (by omega), hend]
  · rw [htype p2 (by omega), hget]
  · rw [← hend]
    exact (Row.types_eq_some_iff.mp htypes').2.content_fits

/-- A record whose header is used up has no further columns. -/
theorem fieldAt_of_le (h : pC.Describes r nField) (hp2 : pC.nHdrParsed ≤ p2)
    (hend : r.szHdr ≤ pC.iHdrOffset) : r.fieldAt p2 = some none := by
  obtain ⟨ts, left, htypes, hlen, hhdr, -, -⟩ := h.parsed
  obtain ⟨hcol, hc⟩ := Row.types_eq_some_iff.mp htypes
  have hfits := hc.header_fits
  have hle := (columnTypes_suffix hcol).length_le
  have hheader : r.header.length = r.szHdr - r.headerStart.2 := by
    unfold Row.header
    rw [List.length_drop, List.length_take, Nat.min_eq_left hfits]
  obtain rfl : left = [] := List.eq_nil_of_length_eq_zero (by omega)
  unfold Row.fieldAt
  rw [Row.types_of_nil htypes (show pC.nHdrParsed ≤ p2 + 1 by omega), Option.map_some]
  dsimp only
  rw [List.getElem?_eq_none (by omega)]
  rfl

end RowCache.Describes

/-! ## Parsing on -/

/-- The memory holds the header of the row, and no varint in it is read beyond the memory. -/
structure HoldsHeader (zData : List Byte) (r : Row) : Prop where
  /-- The header is there. -/
  take_eq : zData.take r.szHdr = r.payload.take r.szHdr
  /-- It is complete. -/
  length_le : r.szHdr ≤ zData.length
  /-- Every varint that starts in it has an end. -/
  read : ∀ pos < r.szHdr, getVarint32 (zData.drop pos) ≠ none

/-- The page holds a header that is on the page. -/
theorem Row.holdsHeader_memory {r : Row} (h : r.szHdr ≤ r.avail) : HoldsHeader r.memory r where
  take_eq := by
    have hle := r.avail_le
    unfold Row.memory
    rw [List.take_append_of_le_length (by rw [List.length_take]; omega), List.take_take,
      Nat.min_eq_left h]
  length_le := by
    have hle := r.avail_le
    unfold Row.memory
    rw [List.length_append, List.length_take]
    omega
  read pos hpos := by
    have hle := r.avail_le
    have hslack := r.slack_length
    rw [Ne, getVarint32_eq_none]
    apply Varint.decode_ne_none
    unfold Row.memory
    rw [List.length_drop, List.length_append, List.length_take]
    omega

/-- So does a copy of the header with a zero after it. -/
theorem Row.holdsHeader_copy {r : Row} (h : r.szHdr ≤ r.payload.length) (more : List Byte) :
    HoldsHeader (r.payload.take r.szHdr ++ 0 :: more) r where
  take_eq := List.take_left' (by rw [List.length_take]; omega)
  length_le := by
    rw [List.length_append, List.length_take]
    omega
  read pos hpos := by
    rw [Ne, getVarint32_eq_none, List.drop_append_of_le_length (by rw [List.length_take]; omega)]
    exact Varint.decodeFrom_zero_ne_none 8 0 _ more

namespace RowCache

variable {pC : RowCache} {r : Row} {nField p2 : ℕ} {zData : List Byte}

/-- At a new row, the size of the header is read. -/
theorem startHeader_spec (r : Row) (hO : pC.aOffset.length = nField + 1)
    (hT : pC.aType.length = nField) : ∃ rc pC',
      startHeader r.memory r.payload.length r.avail r.avail pC = .ok (rc, pC') ∧
      ((rc = SQLITE_OK ∧ pC'.Describes r nField ∧ pC'.nHdrParsed = 0) ∨
        (rc = SQLITE_CORRUPT ∧ ∀ n, r.types n = none)) := by
  have hmem : 9 ≤ r.memory.length := by
    have := r.slack_length
    unfold Row.memory
    rw [List.length_append]
    omega
  obtain ⟨⟨szHdr, rest⟩, hget⟩ : ∃ x, getVarint32 r.memory = some x :=
    Option.ne_none_iff_exists'.mp (mt getVarint32_eq_none.mp (Varint.decode_ne_none hmem))
  have hstart : r.headerStart = (szHdr, r.memory.length - rest.length) := by
    unfold Row.headerStart
    rw [hget]
  have hsz : r.szHdr = szHdr := congrArg Prod.fst hstart
  have hread : readVarint32 r.memory 0 = .ok (r.szHdr, r.headerStart.2) := by
    unfold readVarint32
    rw [List.drop_zero, hget, hsz, hstart]
  unfold startHeader
  rw [hread]
  dsimp only [Bind.bind, Except.bind, Pure.pure, Except.pure]
  -- A header that is longer than the row or than any header is corrupt.
  by_cases hbad : MAX_HEADER < r.szHdr ∨ r.payload.length < r.szHdr
  · rw [if_pos hbad]
    refine ⟨_, _, rfl, Or.inr ⟨rfl, fun n => ?_⟩⟩
    unfold Row.types
    exact if_pos hbad
  · have hzero : (pC.aOffset.set 0 r.szHdr)[0]? = some r.szHdr :=
      List.getElem?_set_self (by omega)
    -- No column is parsed yet, and the first one starts where the header ends.
    have hparsed : ∃ ts left, r.types 0 = some (ts, left) ∧ ts.length = 0 ∧
        r.headerStart.2 = r.headerStart.2 + (r.header.length - left.length) ∧
        (∀ k ≤ ts.length,
          (pC.aOffset.set 0 r.szHdr)[k]? = some (r.szHdr + contentLength (ts.take k))) ∧
        ∀ k < ts.length, pC.aType[k]? = ts[k]? := by
      refine ⟨[], r.header, Row.types_eq_some_iff.mpr ⟨rfl, by omega, by omega, ?_, ?_⟩, rfl, ?_, ?_,
        ?_⟩
      · rw [contentLength_nil]; omega
      · exact fun hne hnil => absurd hnil hne
      · omega
      · intro k hk
        obtain rfl : k = 0 := Nat.le_zero.mp hk
        rw [hzero, List.take_nil, contentLength_nil, Nat.add_zero]
      · exact nofun
    rw [if_neg hbad]
    -- The page is kept as it is only when it holds the whole header.
    by_cases havail : r.avail < r.szHdr
    · rw [if_pos havail]
      exact ⟨_, _, rfl, Or.inl ⟨rfl, ⟨rfl, (if_neg (by omega)).symm, (if_neg (by omega)).symm,
        (List.length_set ..).trans hO, hT, hparsed⟩, rfl⟩⟩
    · rw [if_neg havail]
      exact ⟨_, _, rfl, Or.inl ⟨rfl, ⟨rfl, (if_pos (by omega)).symm, (if_pos (by omega)).symm,
        (List.length_set ..).trans hO, hT, hparsed⟩, rfl⟩⟩

/-- Parsing on describes the row up to the column asked for, or to the end of the header, unless the
record is found corrupt, as it is when decoded from the start. -/
theorem Describes.parseHeader_spec (h : pC.Describes r nField) (hz : HoldsHeader zData r)
    (hle : pC.nHdrParsed ≤ p2) (hp2 : p2 < nField) (hmore : pC.iHdrOffset < r.szHdr) :
    ∃ rc pC', parseHeader zData p2 pC = .ok (rc, pC') ∧
      ((rc = SQLITE_OK ∧ pC'.Describes r nField ∧
          (p2 < pC'.nHdrParsed ∨ r.szHdr ≤ pC'.iHdrOffset)) ∨
        (rc = SQLITE_CORRUPT ∧ r.types (p2 + 1) = none)) := by
  obtain ⟨ts, left, htypes, hlents, hhdr, hoff, htype⟩ := h.parsed
  obtain ⟨hcol, hc⟩ := Row.types_eq_some_iff.mp htypes
  have hlen := r.length_lt
  have hfits := hc.header_fits
  have hcontent := hc.content_fits
  have hsuffix := columnTypes_suffix hcol
  have hheader : r.header.length = r.szHdr - r.headerStart.2 := by
    unfold Row.header
    rw [List.length_drop, List.length_take, Nat.min_eq_left hfits]
  -- What is left of the header is where the next byte is.
  have hleft : (zData.take r.szHdr).drop pC.iHdrOffset = left := by
    rw [hz.take_eq, hhdr, ← List.drop_drop]
    exact (List.suffix_iff_eq_drop.mp hsuffix).symm
  have hadd : ∀ us left', columnTypes (p2 + 1) r.header = some (us, left') ↔
      ∃ x, columnTypes (p2 + 1 - pC.nHdrParsed) left = some x ∧ (ts ++ x.1, x.2) = (us, left') := by
    intro us left'
    have := columnTypes_add hcol (p2 + 1 - pC.nHdrParsed)
    rw [show pC.nHdrParsed + (p2 + 1 - pC.nHdrParsed) = p2 + 1 by omega] at this
    rw [this, Option.map_eq_some_iff]
  have hcur : pC.aOffset[pC.nHdrParsed]? = some (r.szHdr + contentLength ts) := by
    rw [hoff _ hlents.ge, List.take_of_length_le hlents.le]
  have hzero : pC.aOffset.getD 0 0 = r.szHdr := by
    rw [List.getD_eq_getElem?_getD, h.aOffset_zero]
    rfl
  have hgetD : pC.aOffset.getD pC.nHdrParsed 0 = r.szHdr + contentLength ts := by
    rw [List.getD_eq_getElem?_getD, hcur]
    rfl
  obtain ⟨s, hloop, hend⟩ := headerLoop_spec hz.length_le hz.read (p2 + 1 - pC.nHdrParsed)
    ⟨pC.nHdrParsed, r.szHdr + contentLength ts, pC.iHdrOffset, pC.aOffset, pC.aType⟩ hmore
    (by dsimp only; omega) (by dsimp only; rw [h.length_aOffset]; omega)
    (by dsimp only; rw [h.length_aType]; omega) hcur
  dsimp only at hend
  rw [hleft] at hend
  unfold parseHeader
  rw [hzero, hgetD]
  dsimp only
  rw [hloop]
  dsimp only [Bind.bind, Except.bind, Pure.pure, Except.pure]
  rw [h.payloadSize]
  rcases hend with ⟨hout, hlong⟩ | ⟨hin, us, hus, hext⟩
  · -- A varint does not end in the header, or an offset overflows.
    rw [if_pos (Or.inl ⟨hout.le, Or.inl hout⟩)]
    refine ⟨_, _, rfl, Or.inr ⟨rfl, ?_⟩⟩
    rw [Option.eq_none_iff_forall_ne_some]
    rintro ⟨vs, left'⟩ hvs
    obtain ⟨hcol', hc'⟩ := Row.types_eq_some_iff.mp hvs
    obtain ⟨x, hx, heq⟩ := (hadd vs left').mp hcol'
    obtain ⟨rfl, -⟩ := Prod.mk.inj heq
    have := hlong x.1 x.2 hx
    have := hc'.content_fits
    rw [contentLength_append] at this
    omega
  · have hcol' := (hadd _ _).mpr ⟨_, hus, rfl⟩
    dsimp only at hcol'
    have hoffset : s.offset = r.szHdr + contentLength (ts ++ us) := by
      rw [hext.offset, contentLength_append, Nat.add_assoc]
    have hlength : ((zData.take r.szHdr).drop s.zHdr).length = r.szHdr - s.zHdr := by
      have := hz.length_le
      rw [List.length_drop, List.length_take, Nat.min_eq_left this]
    have hlength' : left.length = r.szHdr - pC.iHdrOffset := by
      have := hz.length_le
      rw [← hleft, List.length_drop, List.length_take, Nat.min_eq_left this]
    have hsub := (columnTypes_suffix hus).length_le
    have hne : r.header ≠ [] := by
      intro hnil
      rw [hnil] at hheader hhdr
      simp only [List.length_nil] at hheader hhdr
      omega
    have hused : (zData.take r.szHdr).drop s.zHdr = [] ↔ r.szHdr ≤ s.zHdr := by
      rw [← List.length_eq_zero_iff, hlength]
      omega
    by_cases hbad : (r.szHdr ≤ s.zHdr ∧ (r.szHdr < s.zHdr ∨ s.offset ≠ r.payload.length)) ∨
        r.payload.length < s.offset
    · rw [if_pos hbad]
      refine ⟨_, _, rfl, Or.inr ⟨rfl, ?_⟩⟩
      rw [Option.eq_none_iff_forall_ne_some]
      rintro ⟨vs, left'⟩ hvs
      obtain ⟨hcol'', hc'⟩ := Row.types_eq_some_iff.mp hvs
      rw [hcol'] at hcol''
      obtain ⟨rfl, rfl⟩ := Prod.mk.inj (Option.some.inj hcol'')
      have hle := hc'.content_fits
      have heq := fun h => hc'.content_eq hne (hused.mpr h)
      omega
    · rw [if_neg hbad]
      have hi : s.i = (ts ++ us).length := by rw [hext.i, List.length_append, hlents]
      have htypes' : r.types s.i = some (ts ++ us, (zData.take r.szHdr).drop s.zHdr) := by
        rw [hi]
        refine Row.types_eq_some_iff.mpr
          ⟨columnTypes_length hcol', hc.header_le, hfits, ?_, fun _ hnil => ?_⟩
        · rw [← hoffset]; omega
        · have := hused.mp hnil
          rw [← hoffset]; omega
      refine ⟨_, _, rfl, Or.inl ⟨rfl, ⟨rfl, h.aRow, h.szRow,
        hext.length_aOffset.trans h.length_aOffset, hext.length_aType.trans h.length_aType, ts ++ us,
        _, htypes', hi.symm, ?_, hext.offsets hlents.symm rfl hoff,
        hext.types hlents.symm htype⟩, ?_⟩⟩
      · dsimp only
        rw [hheader, hlength]
        omega
      · dsimp only
        rcases (length_columnTypes hcol').2 with heq | hnil
        · exact Or.inl (by omega)
        · exact Or.inr (hused.mp hnil)

end RowCache

/-! ## Records of values -/

/-- All serial types of a header, column by column. -/
theorem columnTypes_of_serialTypes (header : List Byte) (ts : List ℕ)
    (h : serialTypes header = some ts) : columnTypes ts.length header = some (ts, []) := by
  induction ts generalizing header with
  | nil =>
    rw [serialTypes] at h
    split_ifs at h with hnil
    · rw [hnil]
      rfl
    · split at h
      · cases h
      · obtain ⟨us, -, hus⟩ := Option.map_eq_some_iff.mp h
        cases hus
  | cons t ts ih =>
    rw [serialTypes] at h
    split_ifs at h with hnil
    · cases h
    split at h
    · cases h
    · rename_i t' rest hget
      obtain ⟨us, hus, heq⟩ := Option.map_eq_some_iff.mp h
      obtain ⟨rfl, rfl⟩ := List.cons.inj heq
      rw [List.length_cons, columnTypes_of_some _ hget, ih rest hus, Option.map_some]

/-- The fields of a record, one by one. -/
theorem fields_getElem? {ts : List ℕ} {data : List Byte} {vs : List Value}
    (h : fields ts data = some vs) (j : ℕ) :
    vs[j]? = ts[j]?.map fun t => sqlite3VdbeSerialGet
      ((data.drop (contentLength (ts.take j))).take (sqlite3VdbeSerialTypeLen t)) t := by
  induction ts generalizing data vs j with
  | nil =>
    obtain rfl := Option.some.inj h
    rfl
  | cons t ts ih =>
    rw [fields] at h
    split_ifs at h with hshort
    obtain ⟨us, hus, rfl⟩ := Option.map_eq_some_iff.mp h
    rcases j with _ | j
    · rfl
    · rw [List.getElem?_cons_succ, List.getElem?_cons_succ, ih hus, List.take_succ_cons,
        contentLength_cons, List.drop_drop]

namespace Row

variable {r : Row} {vs : List Value}

/-- The row holds the record of the values, and its header has a size that is accepted. -/
structure IsRecordOf (r : Row) (vs : List Value) : Prop where
  /-- The bytes are the record. -/
  recordOf : RecordOf r.payload vs
  /-- The header is not too long. -/
  header_le : r.szHdr ≤ MAX_HEADER

/-- The size of the header is that in the record. -/
theorem headerStart_eq {szHdr : ℕ} {rest : List Byte}
    (h : getVarint32 r.payload = some (szHdr, rest)) :
    r.headerStart = (szHdr, r.payload.length - rest.length) := by
  -- The page has all of the record, or enough of it.
  have hmem : ∃ left, getVarint32 r.memory = some (szHdr, left) ∧
      r.memory.length - left.length = r.payload.length - rest.length := by
    unfold memory
    rcases r.reach with heq | hnine
    · rw [heq, List.take_length]
      refine ⟨_, getVarint32_append h _, ?_⟩
      rw [List.length_append, List.length_append]
      omega
    · have hne : getVarint32 (r.payload.take r.avail) ≠ none := by
        rw [Ne, getVarint32_eq_none]
        apply Varint.decode_ne_none
        have := r.avail_le
        rw [List.length_take]
        omega
      obtain ⟨⟨v, left⟩, hget⟩ := Option.ne_none_iff_exists'.mp hne
      have hfull := getVarint32_append hget (r.payload.drop r.avail)
      rw [List.take_append_drop, h] at hfull
      obtain ⟨rfl, rfl⟩ := Prod.mk.inj (Option.some.inj hfull)
      refine ⟨_, getVarint32_append hget _, ?_⟩
      have := r.avail_le
      rw [List.length_append, List.length_append, List.length_take, List.length_append,
        List.length_drop]
      omega
  obtain ⟨left, hget, hlen⟩ := hmem
  unfold headerStart
  rw [hget]
  dsimp only
  rw [hlen]

/-- Column `j` of the record of some values is the `j`-th value. -/
theorem IsRecordOf.column_eq (h : r.IsRecordOf vs) (j : ℕ) : r.column j = some vs[j]? := by
  obtain ⟨szHdr, rest, ts, hget, htypes, -, hlen⟩ := h.recordOf.header
  have hstart := headerStart_eq hget
  have hsz : r.szHdr = szHdr := congrArg Prod.fst hstart
  have hheader : r.header = (r.payload.take szHdr).drop (r.payload.length - rest.length) := by
    unfold header
    rw [hsz, hstart]
  have hall : r.types ts.length = some (ts, []) := by
    refine types_eq_some_iff.mpr ⟨?_, h.header_le, ?_, ?_, fun _ _ => ?_⟩
    · rw [hheader]
      exact columnTypes_of_serialTypes _ _ htypes
    · rw [hsz]; omega
    · rw [hsz]; exact hlen.ge
    · rw [hsz]; exact hlen.symm
  have hfields : fields ts (r.payload.drop szHdr) = some vs := by
    have hdec := h.recordOf.decode
    unfold decodeRecord at hdec
    rw [hget] at hdec
    simp only [Option.bind_eq_bind, Option.bind_some] at hdec
    rw [htypes, Option.bind_some] at hdec
    exact hdec
  -- Also of a column behind the last one, the types show what there is.
  have hcol : ∃ us left, r.types (j + 1) = some (us, left) ∧ us[j]? = ts[j]? ∧
      us.take j = ts.take j := by
    rcases Nat.lt_or_ge j ts.length with hj | hj
    · obtain ⟨left, hleft⟩ := types_of_le hall (show j + 1 ≤ ts.length by omega)
      refine ⟨_, left, hleft, List.getElem?_take_of_lt (Nat.lt_succ_self j), ?_⟩
      rw [List.take_take, Nat.min_eq_left (Nat.le_succ j)]
    · exact ⟨ts, [], types_of_nil hall (by omega), rfl, rfl⟩
  obtain ⟨us, left, hus, hget, htake⟩ := hcol
  unfold column fieldAt
  rw [hus, Option.map_some, Option.map_some, fields_getElem? hfields]
  dsimp only
  rw [hget, htake, Option.map_map, hsz]
  unfold valueAt
  simp only [Function.comp_def, List.drop_drop]

end Row

end SQPyte
