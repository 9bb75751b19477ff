import SQPyte.Record.LazyHeader
import SQPyte.Vdbe.Copies
import SQPyte.Vdbe.RowidSeek

/-!
# `OP_Column`

`impl_OP_Column` brings the cursor to its row, describes the row if the description it keeps is not
current, parses the header up to the column, and takes the field out of the page or, if it is not
there, out of the overflow pages. A text or blob is copied at last, so that it does not change when
the cursor moves on.

The b-tree is a parameter, as it is for the seeks: `RowBtree.Holds` says of a cursor which `Row` it
is on and what the routines of `btree.c` make of that. `Keeps` is what a cursor has to satisfy
before and after each opcode: a description that counts as current is one of the row.
`impl_OP_Column_spec` is the result: the field that decoding the whole record would give.
-/

namespace SQPyte

open Commands

/-! ## The code -/

/-- A cursor with what it keeps of its row. -/
structure ColumnCursor (β : Type) extends VdbeCursor β where
  /-- The description of the row. -/
  row : RowCache

/-- The routines of `btree.c` that rows are read with. The first argument of the last three is
whether the entry is the key of an index. -/
structure RowBtree (β κ : Type) extends Btree β κ where
  /-- `sqlite3BtreeCursorHasMoved`. -/
  HasMoved : β → κ → Bool
  /-- `sqlite3BtreeCursorRestore`: `rc` and `*pDifferentRow`. -/
  CursorRestore : β → κ → (ℕ × Bool) × β × κ
  /-- `sqlite3BtreeFirst`: `rc` and `*pRes`. -/
  First : β → κ → (ℕ × ℤ) × β × κ
  /-- `sqlite3BtreeClearCursor`. -/
  ClearCursor : β → κ → β × κ
  /-- `sqlite3BtreeKeySize` and `sqlite3BtreeDataSize`. The first one gives the rowid of an entry of
  a table. -/
  Size : Bool → β → κ → ℤ
  /-- `sqlite3BtreeKeyFetch` and `sqlite3BtreeDataFetch`: the memory from the entry on, and how much
  of the entry is in it. -/
  Fetch : Bool → β → κ → List Byte × ℕ
  /-- `sqlite3BtreeKey` and `sqlite3BtreeData`: `rc` and the bytes from an offset on. -/
  Read : Bool → ℕ → ℕ → β → κ → (ℕ × List Byte) × β × κ

/-- `OPFLAG_LENGTHARG`. -/
def OPFLAG_LENGTHARG : BitVec 8 := 0x40#8
/-- `OPFLAG_TYPEOFARG`. -/
def OPFLAG_TYPEOFARG : BitVec 8 := 0x80#8

/-- How `impl_OP_Column` ends. -/
inductive ColumnExit where
  /-- With a result code and the flags of the register. -/
  | result (rc : ℕ)
  | abort_due_to_error (rc : ℕ)
  | too_big
  | no_mem
deriving DecidableEq, Repr

variable {β κ : Type} (L : CLib κ) (B : RowBtree β κ)

/-- `handleDeferredMoveto`. -/
def handleDeferredMoveto (pC : ColumnCursor β) (pCursor : β) (w : κ) : ℕ × ColumnCursor β × κ :=
  let ((rc, res), pCursor, w) := B.MovetoUnpacked none pC.movetoTarget pCursor w
  let pC := { pC with pCursor := some pCursor }
  if rc ≠ SQLITE_OK then (rc, pC, w)
  else if res ≠ 0 then (SQLITE_CORRUPT, pC, w)
  else (SQLITE_OK, { pC with deferredMoveto := false, cacheStatus := CACHE_STALE }, w)

/-- `handleMovedCursor`. -/
def handleMovedCursor (pC : ColumnCursor β) (pCursor : β) (w : κ) : ℕ × ColumnCursor β × κ :=
  let ((rc, isDifferentRow), pCursor, w) := B.CursorRestore pCursor w
  (rc, { pC with
    pCursor := some pCursor, cacheStatus := CACHE_STALE, nullRow := pC.nullRow || isDifferentRow }, w)

/-- `sqlite3VdbeCursorMoveto`. -/
def sqlite3VdbeCursorMoveto (pC : ColumnCursor β) (w : κ) : Except Exc (ℕ × ColumnCursor β × κ) :=
  match pC.pCursor with
  | none => if pC.deferredMoveto then .error .memory else .ok (SQLITE_OK, pC, w)
  | some pCursor =>
    if pC.deferredMoveto then .ok (handleDeferredMoveto B pC pCursor w)
    else if B.HasMoved pCursor w then .ok (handleMovedCursor B pC pCursor w)
    else .ok (SQLITE_OK, pC, w)

/-- The word that `serialGet` reads. -/
def serialWord (buf : List Byte) : Binary64 :=
  BitVec.ofInt 64 (2^32 * FOUR_BYTE_UINT buf + FOUR_BYTE_UINT (buf.drop 4))

namespace Mem

/-- The part of `sqlite3VdbeMemFromBtree` that reads an entry into a cell with enough room. -/
def readEntry (key : Bool) (offset amt : ℕ) (pMem : Mem) (pCursor : β) (w : κ) :
    Except Exc (ℕ × Mem × β × κ) := do
  let ((rc, bytes), pCursor, w) := B.Read key offset amt pCursor w
  if rc = SQLITE_OK then
    let pMem ← pMem.writeOwn 0 bytes
    let pMem ← pMem.writeOwn amt [0, 0]
    return (SQLITE_OK, { pMem with flags := MEM_Blob ||| MEM_Term, n := amt }, pCursor, w)
  else
    let (pMem, w) := pMem.sqlite3VdbeMemRelease L w
    return (rc, pMem, pCursor, w)

/-- `sqlite3VdbeMemFromBtree`. -/
def sqlite3VdbeMemFromBtree (key : Bool) (offset amt : ℕ) (pMem : Mem) (pCursor : β) (w : κ) :
    Except Exc (ℕ × Mem × β × κ) := do
  let (zData, available) := B.Fetch key pCursor w
  if (offset + amt) % 2^32 ≤ available then
    return (SQLITE_OK, { pMem with
      z := .ext (zData.drop offset), flags := MEM_Blob ||| MEM_Ephem, n := amt }, pCursor, w)
  else
    let pMem := { pMem with flags := MEM_Null }
    let (rc, pMem, w) ← pMem.sqlite3VdbeMemClearAndResize L (amt + 2) w
    if rc ≠ SQLITE_OK then return (rc, pMem, pCursor, w)
    else readEntry L B key offset amt pMem pCursor w

/-- The bytes behind a pointer. -/
def behind (pMem : Mem) : ZPtr → List Byte
  | .null => []
  | .own => pMem.zMalloc
  | .ext bytes => bytes

/-- `sqlite3VdbeSerialGet`, from the pointer `buf`. -/
def sqlite3VdbeSerialGet (buf : ZPtr) (serial_type : ℕ) (pMem : Mem) : Mem :=
  if 12 ≤ serial_type then
    { pMem with
      z := buf, n := (serial_type - 12) / 2
      flags := if serial_type % 2 = 0 then MEM_Blob ||| MEM_Ephem else MEM_Str ||| MEM_Ephem }
  else
    let bytes := pMem.behind buf
    match SQPyte.sqlite3VdbeSerialGet bytes serial_type with
    | .int i => { pMem with u := BitVec.ofInt 64 i, flags := MEM_Int }
    | .real r => { pMem with u := r, flags := MEM_Real }
    | _ =>
      -- A double that is no number is stored, but the value is NULL.
      { pMem with u := if serial_type = 7 then serialWord bytes else pMem.u, flags := MEM_Null }

/-- The pointer of a cell for another cell, which has not the allocation of this one. -/
def lent (pMem : Mem) : ZPtr :=
  match pMem.z with
  | .own => .ext pMem.zMalloc
  | z => z

/-- `sqlite3VdbeMemShallowCopy` of `vdbemem.c`. -/
def c_sqlite3VdbeMemShallowCopy (pFrom : Mem) (srcType : Flags) (pTo : Mem) (w : κ) : Mem × κ :=
  let (pTo, w) :=
    if VdbeMemDynamic pTo.flags then pTo.vdbeMemClearExternAndSetNull L w else (pTo, w)
  let flags := if pFrom.flags.has MEM_Static then pFrom.flags
    else (pFrom.flags &&& ~~~(MEM_Dyn ||| MEM_Static ||| MEM_Ephem)) ||| srcType
  ({ pTo with u := pFrom.u, flags := flags, enc := pFrom.enc, n := pFrom.n, z := pFrom.lent }, w)

end Mem

/-- What is known once the cursor's description is current. -/
inductive RowFound where
  /-- The description can be used. -/
  | row
  /-- The cursor is on no row. -/
  | null
  | too_big
  /-- The way to `op_column_error`. -/
  | error (rc : ℕ)

/-- The start of a row's description, from the memory it is in. -/
def describeRow (cacheCtr : ℕ) (pC : ColumnCursor β) (zData : List Byte)
    (payloadSize szRow avail : ℕ) : Except Exc (RowFound × ColumnCursor β) := do
  let (rc, row) ← startHeader zData payloadSize szRow avail pC.row
  let pC := { pC with cacheStatus := cacheCtr, row := row }
  return (if rc ≠ SQLITE_OK then .error rc else .row, pC)

/-- The same for the entry that a cursor of a b-tree is on. -/
def describeEntry (limit : ℤ) (cacheCtr : ℕ) (pC : ColumnCursor β) (pCursor : β) (w : κ) :
    Except Exc (RowFound × ColumnCursor β) :=
  let (zData, avail) := B.Fetch (!pC.isTable) pCursor w
  let payloadSize := (B.Size (!pC.isTable) pCursor w % 2^32).toNat
  let szRow := if payloadSize ≤ avail then payloadSize else avail
  if limit < payloadSize then
    .ok (.too_big, { pC with
      row := { pC.row with aRow := some zData, payloadSize := payloadSize, szRow := szRow } })
  else describeRow cacheCtr pC zData payloadSize szRow avail

/-- The part that describes the row, if the cursor's description is not current. `pReg` is the
register of a pseudo-table. -/
def columnRow (limit : ℤ) (cacheCtr : ℕ) (pReg : Option Mem) (pC : ColumnCursor β) (w : κ) :
    Except Exc (RowFound × ColumnCursor β) :=
  if pC.cacheStatus = cacheCtr then .ok (.row, pC)
  else
    match pC.nullRow, pC.pCursor, pReg with
    | true, none, some pReg =>
      describeRow cacheCtr pC pReg.buffer pReg.n.toNat pReg.n.toNat pReg.n.toNat
    | true, some _, _ => .ok (.null, pC)
    | false, some pCursor, _ => describeEntry B limit cacheCtr pC pCursor w
    | _, none, _ => .error .memory

/-- The part that parses the header up to the column `p2`: the result code. -/
def columnHeader (p2 : ℕ) (pC : ColumnCursor β) (w : κ) : Except Exc (ℕ × ColumnCursor β × κ) := do
  if pC.row.nHdrParsed ≤ p2 ∧ pC.row.iHdrOffset < pC.row.aOffset.getD 0 0 then
    match pC.row.aRow, pC.pCursor with
    | some zData, _ =>
      let (rc, row) ← parseHeader zData p2 pC.row
      return (rc, { pC with row := row }, w)
    | none, some pCursor =>
      -- The header is not on the page.
      let sMem : Mem := ⟨0, 0, 0, .null, [], 0, 0, false⟩
      let (rc, sMem, pCursor, w) ← sMem.sqlite3VdbeMemFromBtree L B (!pC.isTable) 0
        (pC.row.aOffset.getD 0 0) pCursor w
      let pC := { pC with pCursor := some pCursor }
      if rc ≠ SQLITE_OK then return (rc, pC, w)
      else
        let (rc, row) ← parseHeader sMem.buffer p2 pC.row
        let (_, w) := sMem.sqlite3VdbeMemRelease L w
        return (rc, { pC with row := row }, w)
    | none, none => throw .memory
  else return (SQLITE_OK, pC, w)

/-- The part that takes column `p2` into the register. `payloadSize64` are the bytes of a local
variable, which may have no value. -/
def columnContent (payloadSize64 : List Byte) (op : Op) (pC : ColumnCursor β) (pDest : Mem) (w : κ) :
    Except Exc (ℕ × ColumnCursor β × Mem × κ) := do
  let p2 := op.p2.toNat
  let offset := pC.row.aOffset.getD p2 0
  let t := pC.row.aType.getD p2 0
  let len := sqlite3VdbeSerialTypeLen t
  let (pDest, w) :=
    if VdbeMemDynamic pDest.flags then pDest.sqlite3VdbeMemSetNull L w else (pDest, w)
  if pC.row.aOffset.getD (p2 + 1) 0 ≤ pC.row.szRow then
    match pC.row.aRow with
    | some aRow => return (SQLITE_OK, pC, pDest.sqlite3VdbeSerialGet (.ext (aRow.drop offset)) t, w)
    | none => throw .memory
  else if (op.p5_has (OPFLAG_LENGTHARG ||| OPFLAG_TYPEOFARG) ∧
      ((12 ≤ t ∧ t % 2 = 0) ∨ op.p5_has OPFLAG_TYPEOFARG)) ∨ len = 0 then
    -- The content does not matter.
    return (SQLITE_OK, pC,
      pDest.sqlite3VdbeSerialGet (if t ≤ 13 then .ext payloadSize64 else .null) t, w)
  else
    match pC.pCursor with
    | none => throw .memory
    | some pCursor =>
      let (rc, pDest, pCursor, w) ←
        pDest.sqlite3VdbeMemFromBtree L B (!pC.isTable) offset len pCursor w
      let pC := { pC with pCursor := some pCursor }
      if rc ≠ SQLITE_OK then return (rc, pC, pDest, w)
      else
        let pDest := pDest.sqlite3VdbeSerialGet pDest.z t
        return (SQLITE_OK, pC, { pDest with flags := pDest.flags &&& ~~~MEM_Ephem }, w)

/-- `op_column_out`: a text or blob that is not the register's own is copied. -/
def columnOut (pDest : Mem) (w : κ) : Except Exc (ColumnExit × Mem × κ) := do
  if pDest.flags.has MEM_Ephem ∧ pDest.z ≠ .null then
    let fx := pDest.flags &&& (MEM_Str ||| MEM_Blob)
    let zData := pDest.buffer
    let len := pDest.n.toNat
    let (rc, pDest, w) ← pDest.sqlite3VdbeMemClearAndResize L (len + 2) w
    if rc ≠ SQLITE_OK then return (.no_mem, pDest, w)
    else if zData.length < len then throw .memory
    else
      let pDest ← pDest.writeOwn 0 (zData.take len)
      let pDest ← pDest.writeOwn len [0, 0]
      return (.result SQLITE_OK, { pDest with flags := fx ||| MEM_Term }, w)
  else return (.result SQLITE_OK, pDest, w)

/-- `impl_OP_Column`. `p4` is the default if there is one, `P4_MEM`. -/
def impl_OP_Column (encoding : ℕ) (limit : ℤ) (cacheCtr : ℕ) (payloadSize64 : List Byte)
    (op : Op) (p4 pReg : Option Mem) (pC : ColumnCursor β) (pDest : Mem) (w : κ) :
    Except Exc (ColumnExit × ColumnCursor β × Mem × κ) := do
  let (rc, pC, w) ← sqlite3VdbeCursorMoveto B pC w
  if rc ≠ SQLITE_OK then return (.abort_due_to_error rc, pC, pDest, w)
  let (found, pC) ← columnRow B limit cacheCtr pReg pC w
  match found with
  | .too_big => return (.too_big, pC, pDest, w)
  | .error rc => return (.result rc, pC, pDest, w)
  | .null =>
    let (pDest, w) := pDest.sqlite3VdbeMemSetNull L w
    let (exit, pDest, w) ← columnOut L pDest w
    return (exit, pC, pDest, w)
  | .row =>
    let (rc, pC, w) ← columnHeader L B op.p2.toNat pC w
    if rc ≠ SQLITE_OK then return (.result rc, pC, pDest, w)
    if pC.row.nHdrParsed ≤ op.p2.toNat then
      -- The record has fewer columns.
      let (pDest, w) := match p4 with
        | some pMem => Mem.c_sqlite3VdbeMemShallowCopy L pMem MEM_Static pDest w
        | none => pDest.sqlite3VdbeMemSetNull L w
      let (exit, pDest, w) ← columnOut L pDest w
      return (exit, pC, pDest, w)
    let (rc, pC, pDest, w) ← columnContent L B payloadSize64 op pC pDest w
    if rc ≠ SQLITE_OK then return (.result rc, pC, pDest, w)
    let (exit, pDest, w) ← columnOut L { pDest with enc := encoding } w
    return (exit, pC, pDest, w)

/-! ## Values of fields -/

section fields

variable {bytes : List Byte} {t : ℕ}

/-- A byte without a sign. -/
theorem u8_bounds (buf : List Byte) (k : ℕ) : 0 ≤ u8 buf k ∧ u8 buf k < 256 := by
  have := (buf.getD k 0).toNat_lt
  unfold u8
  omega

/-- A byte with a sign. -/
theorem i8_bounds (buf : List Byte) (k : ℕ) : -128 ≤ i8 buf k ∧ i8 buf k < 128 := by
  have := u8_bounds buf k
  unfold i8
  split_ifs <;> omega

/-- A field that is no text or blob is NULL, an integer of 64 bits, or a real that is no NaN. -/
theorem sqlite3VdbeSerialGet_of_lt (h : t < 12) : sqlite3VdbeSerialGet bytes t = .null ∨
    (∃ i, sqlite3VdbeSerialGet bytes t = .int i ∧ -2^63 ≤ i ∧ i < 2^63) ∨
      ∃ x : Binary64, sqlite3VdbeSerialGet bytes t = .real x ∧ x.isNaN = false := by
  have hi := i8_bounds bytes 0
  have h1 := u8_bounds bytes 1
  have h2 := u8_bounds bytes 2
  have h3 := u8_bounds bytes 3
  have hint : ∀ i : ℤ, sqlite3VdbeSerialGet bytes t = .int i → -2^63 ≤ i ∧ i < 2^63 →
      sqlite3VdbeSerialGet bytes t = .null ∨
      (∃ i, sqlite3VdbeSerialGet bytes t = .int i ∧ -2^63 ≤ i ∧ i < 2^63) ∨
      ∃ x : Binary64, sqlite3VdbeSerialGet bytes t = .real x ∧ x.isNaN = false :=
    fun i heq hb => Or.inr (Or.inl ⟨i, heq, hb⟩)
  interval_cases t
  · exact Or.inl rfl
  · exact hint _ rfl (by unfold ONE_BYTE_INT; omega)
  · exact hint _ rfl (by unfold TWO_BYTE_INT; omega)
  · exact hint _ rfl (by unfold THREE_BYTE_INT; omega)
  · exact hint _ rfl (by unfold FOUR_BYTE_INT; omega)
  · have := u8_bounds (bytes.drop 2) 0
    have := u8_bounds (bytes.drop 2) 1
    have := u8_bounds (bytes.drop 2) 2
    have := u8_bounds (bytes.drop 2) 3
    exact hint _ rfl (by unfold FOUR_BYTE_UINT TWO_BYTE_INT; omega)
  · exact hint _ rfl ⟨BitVec.le_toInt _, BitVec.toInt_lt⟩
  · have hget : sqlite3VdbeSerialGet bytes 7 = if (serialWord bytes).isNaN then .null
      else .real (serialWord bytes) := rfl
    rw [hget]
    split_ifs with hnan
    · exact Or.inl rfl
    · exact Or.inr (Or.inr ⟨_, rfl, by simpa using hnan⟩)
  · exact hint _ rfl (by decide)
  · exact hint _ rfl (by decide)
  · exact Or.inl rfl
  · exact Or.inl rfl

/-- The field of a text or blob. -/
theorem sqlite3VdbeSerialGet_of_le (h : 12 ≤ t) : sqlite3VdbeSerialGet bytes t =
    if t % 2 = 0 then .blob (bytes.take ((t - 12) / 2)) else .text (bytes.take ((t - 12) / 2)) := by
  obtain ⟨k, rfl⟩ : ∃ k, t = k + 12 := ⟨t - 12, by omega⟩
  rfl

/-- A byte of a part of the buffer. -/
theorem u8_take {n k : ℕ} (h : k < n) (buf : List Byte) : u8 (buf.take n) k = u8 buf k := by
  unfold u8
  rw [List.getD_eq_getElem?_getD, List.getD_eq_getElem?_getD, List.getElem?_take_of_lt h]

/-- A field does not depend on the bytes after it. -/
theorem sqlite3VdbeSerialGet_take :
    sqlite3VdbeSerialGet (bytes.take (sqlite3VdbeSerialTypeLen t)) t =
      sqlite3VdbeSerialGet bytes t := by
  by_cases ht : 12 ≤ t
  · have hlen : sqlite3VdbeSerialTypeLen t = (t - 12) / 2 := by
      unfold sqlite3VdbeSerialTypeLen
      rw [if_pos ht]
    rw [sqlite3VdbeSerialGet_of_le ht, sqlite3VdbeSerialGet_of_le ht, hlen, List.take_take,
      Nat.min_self]
  · -- A type reads its own bytes only, so those after them do not matter.
    have h8 : ∀ n k, k < n → i8 (bytes.take n) k = i8 bytes k := by
      intro n k hk
      unfold i8
      rw [u8_take hk]
    have hdrop : ∀ n m k, k + m < n → u8 ((bytes.take n).drop m) k = u8 (bytes.drop m) k := by
      intro n m k hk
      unfold u8
      rw [List.getD_eq_getElem?_getD, List.getD_eq_getElem?_getD, List.getElem?_drop,
        List.getElem?_drop, List.getElem?_take_of_lt (by omega)]
    have hword : serialWord (bytes.take 8) = serialWord bytes := by
      unfold serialWord FOUR_BYTE_UINT
      simp only [u8_take (n := 8) (k := 0) (by decide), u8_take (n := 8) (k := 1) (by decide),
        u8_take (n := 8) (k := 2) (by decide), u8_take (n := 8) (k := 3) (by decide),
        hdrop 8 4 0 (by decide), hdrop 8 4 1 (by decide), hdrop 8 4 2 (by decide),
        hdrop 8 4 3 (by decide)]
    -- Types 0 to 11: each is read byte by byte, types 6 and 7 as one word.
    interval_cases t
    · rfl
    · exact congrArg Value.int (h8 1 0 (by decide))
    · show Value.int (256 * i8 (bytes.take 2) 0 + u8 (bytes.take 2) 1) = .int (TWO_BYTE_INT bytes)
      rw [h8 2 0 (by decide), u8_take (by decide)]
      rfl
    · show Value.int (65536 * i8 (bytes.take 3) 0 + 256 * u8 (bytes.take 3) 1 +
        u8 (bytes.take 3) 2) = .int (THREE_BYTE_INT bytes)
      rw [h8 3 0 (by decide), u8_take (by decide), u8_take (by decide)]
      rfl
    · show Value.int (16777216 * i8 (bytes.take 4) 0 + 65536 * u8 (bytes.take 4) 1 +
        256 * u8 (bytes.take 4) 2 + u8 (bytes.take 4) 3) = .int (FOUR_BYTE_INT bytes)
      rw [h8 4 0 (by decide), u8_take (by decide), u8_take (by decide), u8_take (by decide)]
      rfl
    · show Value.int (FOUR_BYTE_UINT ((bytes.take 6).drop 2) + 2^32 *
        (256 * i8 (bytes.take 6) 0 + u8 (bytes.take 6) 1)) =
          .int (FOUR_BYTE_UINT (bytes.drop 2) + 2^32 * TWO_BYTE_INT bytes)
      unfold FOUR_BYTE_UINT
      rw [h8 6 0 (by decide), u8_take (by decide), hdrop 6 2 0 (by decide), hdrop 6 2 1 (by decide),
        hdrop 6 2 2 (by decide), hdrop 6 2 3 (by decide)]
      rfl
    · exact congrArg (fun x : BitVec 64 => Value.int x.toInt) hword
    · exact congrArg (fun x : Binary64 => if x.isNaN then Value.null else .real x) hword
    · rfl
    · rfl
    · rfl
    · rfl

end fields

/-! ## Registers -/

/-- The allocator may have no memory. -/
def CLib.RunsOut {ρ : Type} (L : CLib ρ) : Prop := ∃ n r, (L.malloc n r).1 = none

namespace Mem

variable {ρ : Type} {L : CLib ρ} {enc : ℕ} {c : Mem} {v : Value}

/-- The register holds a value of its own: no change outside it can change the value. -/
structure Settled (enc : ℕ) (c : Mem) (v : Value) : Prop where
  /-- It is a register. -/
  isValue : c.IsValue enc
  /-- Its value. -/
  value : c.value = v
  /-- The value is in no place that goes away. -/
  ephem : c.flags.has MEM_Ephem = false
  /-- A text or blob is in the register's own allocation. -/
  own : (c.flags.has MEM_Str || c.flags.has MEM_Blob) = true → c.z = .own

/-- A register with NULL. -/
theorem settled_null (hf : c.flags = MEM_Null) (ha : c.szMalloc = c.zMalloc.length) :
    c.Settled enc .null := by
  refine ⟨?_, ?_, ?_, ?_⟩
  · constructor <;> simp [hf, ha]
  · simp [value, hf]
  · simp [hf]
  · simp [hf]

/-- A register with an integer. -/
theorem settled_int {i : ℤ} (hf : c.flags = MEM_Int) (hu : c.u = BitVec.ofInt 64 i)
    (hi : -2^63 ≤ i ∧ i < 2^63) (ha : c.szMalloc = c.zMalloc.length) :
    c.Settled enc (.int i) := by
  have hval : (BitVec.ofInt 64 i).toInt = i :=
    BitVec.toInt_ofInt_eq_self (by decide) hi.1 hi.2
  refine ⟨?_, ?_, ?_, ?_⟩
  · constructor <;> simp [hf, ha]
  · simp [value, hf, u_i, hu, hval]
  · simp [hf]
  · simp [hf]

/-- A register with a real. -/
theorem settled_real {x : Binary64} (hf : c.flags = MEM_Real) (hu : c.u = x)
    (hx : x.isNaN = false) (ha : c.szMalloc = c.zMalloc.length) : c.Settled enc (.real x) := by
  refine ⟨?_, ?_, ?_, ?_⟩
  · constructor <;> simp [hf, ha, u_r, hu, hx]
  · simp [value, hf, u_r, hu]
  · simp [hf]
  · simp [hf]

/-- Text and blob. -/
theorem settled_bytes (bs : List Byte) (hz : c.z = .own) (hn : c.n = bs.length)
    (hbs : c.zMalloc.take bs.length = bs) (ha : c.szMalloc = c.zMalloc.length) (he : c.enc = enc)
    (hv : ((c.flags = MEM_Str ∨ c.flags = MEM_Str ||| MEM_Term) ∧ v = .text bs) ∨
      ((c.flags = MEM_Blob ∨ c.flags = MEM_Blob ||| MEM_Term) ∧ v = .blob bs)) :
    c.Settled enc v := by
  have hbytes : c.bytes = bs := by
    unfold bytes buffer
    rw [hz, hn]
    exact hbs
  have hstored : 0 ≤ c.n ∧ c.n.toNat ≤ c.buffer.length := by
    have := congrArg List.length hbs
    rw [List.length_take] at this
    unfold buffer
    rw [hz, hn]
    dsimp only
    omega
  rcases hv with ⟨hf, rfl⟩ | ⟨hf, rfl⟩ <;> rcases hf with hf | hf <;> refine ⟨?_, ?_, ?_, fun _ => hz⟩
  all_goals first
    | (constructor <;> simp [hf, ha, he, hstored])
    | simp [value, fullBytes, hf, hbytes]

/-- Room for `n` bytes, or no memory. -/
theorem sqlite3VdbeMemClearAndResize_spec (hL : L.Sized) (ha : c.szMalloc = c.zMalloc.length) (n : ℕ)
    (r : ρ) : ∃ rc c' r', c.sqlite3VdbeMemClearAndResize L n r = .ok (rc, c', r') ∧
      L.Allocates r r' ∧ ((rc = SQLITE_OK ∧ c'.z = .own ∧ c'.szMalloc = c'.zMalloc.length ∧
        n ≤ c'.zMalloc.length ∧ c'.n = c.n ∧ c'.enc = c.enc) ∨
        (rc = SQLITE_NOMEM ∧ L.RunsOut)) := by
  unfold sqlite3VdbeMemClearAndResize
  by_cases hlt : c.szMalloc < n
  · rw [if_pos hlt]
    cases hs : c.served L n r
    · unfold served at hs
      obtain ⟨hlt', hnone⟩ := Bool.or_eq_false_iff.mp hs
      rw [decide_eq_false_iff_not, not_le] at hlt'
      have hm : L.malloc (max (n : ℤ) 32).toNat r = (none, (L.malloc (max (n : ℤ) 32).toNat r).2) :=
        Prod.ext (Option.isNone_iff_eq_none.mp (by simpa using hnone)) rfl
      unfold sqlite3VdbeMemGrow growAlloc
      rw [if_pos hlt', hm]
      dsimp only
      unfold sqlite3VdbeMemSetNull vdbeMemClearExternAndSetNull
      have hout : L.RunsOut := ⟨_, _, congrArg Prod.fst hm⟩
      split_ifs
      · exact ⟨_, _, _, rfl, ⟨_, Or.inr ⟨_, rfl⟩, Or.inr ⟨_, rfl⟩⟩, Or.inr ⟨rfl, hout⟩⟩
      · exact ⟨_, _, _, rfl, ⟨_, Or.inr ⟨_, rfl⟩, Or.inl rfl⟩, Or.inr ⟨rfl, hout⟩⟩
    · obtain ⟨c', r', hgrow, hg, hr'⟩ := sqlite3VdbeMemGrow_served hL ha false (by simp) hs
      refine ⟨_, c', r', hgrow, hr', Or.inl ⟨rfl, hg.z, hg.alloc, ?_, hg.n_eq, hg.enc⟩⟩
      have := hg.size
      have := hg.alloc
      omega
  · rw [if_neg hlt]
    exact ⟨_, _, r, rfl, ⟨r, Or.inl rfl, Or.inl rfl⟩,
      Or.inl ⟨rfl, rfl, ha, show n ≤ c.zMalloc.length by omega, rfl, rfl⟩⟩

/-- Bytes and two zeros after them fit the allocation. -/
theorem writeOwn_terminated (bs : List Byte) (h : bs.length + 2 ≤ c.zMalloc.length) :
    ∃ more, (c.writeOwn 0 bs >>= fun c => c.writeOwn bs.length [0, 0]) =
        .ok { c with zMalloc := bs ++ 0 :: more } ∧
      (bs ++ 0 :: more).length = c.zMalloc.length := by
  have hfirst : c.writeOwn 0 bs = .ok { c with zMalloc := bs ++ c.zMalloc.drop bs.length } := by
    unfold writeOwn
    rw [if_pos (by omega), List.take_zero, List.nil_append, Nat.zero_add]
  have hlen : (bs ++ c.zMalloc.drop bs.length).length = c.zMalloc.length := by
    rw [List.length_append, List.length_drop]
    omega
  refine ⟨0 :: c.zMalloc.drop (bs.length + 2), ?_, ?_⟩
  · rw [hfirst]
    show writeOwn bs.length [0, 0] _ = _
    unfold writeOwn
    rw [if_pos (by rw [hlen]; exact h)]
    dsimp only
    rw [List.take_left, List.drop_append, List.drop_drop]
    simp
  · simp only [List.length_append, List.length_cons, List.length_drop]
    omega

end Mem

/-- A value in memory that is not the register's own is copied, as long as there is room. -/
theorem columnOut_of_ephem {L : CLib κ} (hL : L.Sized) {c : Mem} (ha : c.szMalloc = c.zMalloc.length)
    (heph : c.flags.has MEM_Ephem = true) (hz : c.z ≠ .null) (hlen : c.n.toNat ≤ c.buffer.length)
    (w : κ) : ∃ exit c' w', columnOut L c w = .ok (exit, c', w') ∧ L.Allocates w w' ∧
      ((exit = .result SQLITE_OK ∧ c'.z = .own ∧ c'.szMalloc = c'.zMalloc.length ∧
          c'.zMalloc.take c.n.toNat = c.bytes ∧ c'.n = c.n ∧ c'.enc = c.enc ∧
          c'.flags = (c.flags &&& (MEM_Str ||| MEM_Blob)) ||| MEM_Term) ∨
        (exit = .no_mem ∧ L.RunsOut)) := by
  unfold columnOut
  rw [if_pos ⟨heph, hz⟩]
  dsimp only
  obtain ⟨rc, c₁, w₁, hrun, hw, hcase⟩ :=
    Mem.sqlite3VdbeMemClearAndResize_spec hL ha (c.n.toNat + 2) w
  rw [hrun]
  dsimp only [Bind.bind, Except.bind, Pure.pure, Except.pure]
  rcases hcase with ⟨rfl, hz₁, ha₁, hroom, hn₁, henc₁⟩ | ⟨rfl, hout⟩
  · have hbs : (c.buffer.take c.n.toNat).length = c.n.toNat := by
      rw [List.length_take]; omega
    obtain ⟨more, hwrite, hmore⟩ := Mem.writeOwn_terminated (c := c₁)
      (c.buffer.take c.n.toNat) (by rw [hbs]; exact hroom)
    rw [hbs] at hwrite
    rw [if_neg (by simp), if_neg (by omega)]
    rcases hfirst : c₁.writeOwn 0 (c.buffer.take c.n.toNat) with e | c₂ <;> rw [hfirst] at hwrite
    · cases hwrite
    dsimp only [Bind.bind, Except.bind] at hwrite ⊢
    rw [hwrite]
    refine ⟨_, _, _, rfl, hw, Or.inl ⟨rfl, hz₁, ?_, ?_, hn₁, henc₁, rfl⟩⟩
    · dsimp only
      rw [hmore, ha₁]
    · dsimp only
      rw [List.take_left' hbs]
      rfl
  · rw [if_pos (by decide)]
    exact ⟨_, _, _, rfl, hw, Or.inr ⟨rfl, hout⟩⟩

/-- A value that stays where it is. -/
theorem columnOut_of_not_ephem (L : CLib κ) {c : Mem} (heph : c.flags.has MEM_Ephem = false) (w : κ) :
    columnOut L c w = .ok (.result SQLITE_OK, c, w) := by
  unfold columnOut
  rw [if_neg fun h => absurd h.1 (by rw [heph]; decide)]
  rfl

/-- A number or NULL gets into the register. -/
theorem settled_serialGet_of_lt {c : Mem} (ha : c.szMalloc = c.zMalloc.length) (buf : ZPtr) {t : ℕ}
    (ht : t < 12) (enc : ℕ) : Mem.Settled enc { c.sqlite3VdbeSerialGet buf t with enc := enc }
      (sqlite3VdbeSerialGet (c.behind buf) t) := by
  unfold Mem.sqlite3VdbeSerialGet
  rw [if_neg (by omega)]
  dsimp only
  rcases sqlite3VdbeSerialGet_of_lt ht with heq | ⟨i, heq, hi⟩ | ⟨x, heq, hx⟩ <;> rw [heq]
  · exact Mem.settled_null rfl ha
  · exact Mem.settled_int rfl rfl hi ha
  · exact Mem.settled_real rfl rfl hx ha

/-- The cell of a text or blob. -/
theorem Mem.sqlite3VdbeSerialGet_of_le {c : Mem} (buf : ZPtr) {t : ℕ} (ht : 12 ≤ t) :
    c.sqlite3VdbeSerialGet buf t = { c with
      z := buf, n := (sqlite3VdbeSerialTypeLen t : ℕ)
      flags := if t % 2 = 0 then MEM_Blob ||| MEM_Ephem else MEM_Str ||| MEM_Ephem } := by
  have hn : sqlite3VdbeSerialTypeLen t = (t - 12) / 2 := by
    unfold sqlite3VdbeSerialTypeLen
    rw [if_pos ht]
  unfold Mem.sqlite3VdbeSerialGet
  rw [if_pos ht, hn]
  congr 1
  omega

/-- A field in memory that is not the register's own gets into the register. -/
theorem columnOut_serialGet {L : CLib κ} (hL : L.Sized) {c : Mem} (ha : c.szMalloc = c.zMalloc.length)
    {bytes : List Byte} {t : ℕ} (hlen : sqlite3VdbeSerialTypeLen t ≤ bytes.length) (enc : ℕ) (w : κ) :
    ∃ exit c' w',
      columnOut L { c.sqlite3VdbeSerialGet (.ext bytes) t with enc := enc } w = .ok (exit, c', w') ∧
      L.Allocates w w' ∧ ((exit = .result SQLITE_OK ∧
        c'.Settled enc (sqlite3VdbeSerialGet bytes t)) ∨ (exit = .no_mem ∧ L.RunsOut)) := by
  by_cases ht : 12 ≤ t
  · rw [Mem.sqlite3VdbeSerialGet_of_le _ ht]
    have hn : sqlite3VdbeSerialTypeLen t = (t - 12) / 2 := by
      unfold sqlite3VdbeSerialTypeLen
      rw [if_pos ht]
    obtain ⟨exit, c', w', hrun, hw, hcase⟩ := columnOut_of_ephem hL (c := { c with
      z := .ext bytes, n := (sqlite3VdbeSerialTypeLen t : ℕ), enc := enc
      flags := if t % 2 = 0 then MEM_Blob ||| MEM_Ephem else MEM_Str ||| MEM_Ephem }) ha
      (by dsimp only; split_ifs <;> decide) nofun hlen w
    refine ⟨exit, c', w', hrun, hw, ?_⟩
    rcases hcase with ⟨hexit, hz, ha', hbytes, hn', henc, hflags⟩ | hexit
    · refine Or.inl ⟨hexit, ?_⟩
      have htake : (bytes.take (sqlite3VdbeSerialTypeLen t)).length = sqlite3VdbeSerialTypeLen t := by
        rw [List.length_take]; omega
      rw [sqlite3VdbeSerialGet_of_le ht, ← hn]
      refine Mem.settled_bytes (bytes.take (sqlite3VdbeSerialTypeLen t)) hz ?_ ?_ ha' henc ?_
      · rw [hn', htake]
      · rw [htake]
        exact hbytes
      · rw [hflags]
        dsimp only
        split_ifs with heven
        · exact Or.inr ⟨Or.inr (by decide), rfl⟩
        · exact Or.inl ⟨Or.inr (by decide), rfl⟩
    · exact Or.inr hexit
  · have hs := settled_serialGet_of_lt ha (.ext bytes) (show t < 12 by omega) enc
    exact ⟨_, _, w, columnOut_of_not_ephem L hs.ephem w, ⟨w, Or.inl rfl, Or.inl rfl⟩,
      Or.inl ⟨rfl, hs⟩⟩

/-- A field in the register's own memory. -/
theorem settled_serialGet_own {c : Mem} (hz : c.z = .own) (ha : c.szMalloc = c.zMalloc.length) {t : ℕ}
    (hlen : sqlite3VdbeSerialTypeLen t ≤ c.zMalloc.length) (enc : ℕ) :
    let q := c.sqlite3VdbeSerialGet c.z t
    Mem.Settled enc { q with flags := q.flags &&& ~~~MEM_Ephem, enc := enc }
      (sqlite3VdbeSerialGet c.zMalloc t) := by
  dsimp only
  rw [hz]
  by_cases ht : 12 ≤ t
  · have hn : sqlite3VdbeSerialTypeLen t = (t - 12) / 2 := by
      unfold sqlite3VdbeSerialTypeLen
      rw [if_pos ht]
    have htake : (c.zMalloc.take (sqlite3VdbeSerialTypeLen t)).length =
        sqlite3VdbeSerialTypeLen t := by
      rw [List.length_take]; omega
    rw [Mem.sqlite3VdbeSerialGet_of_le _ ht, sqlite3VdbeSerialGet_of_le ht, ← hn]
    refine Mem.settled_bytes (c.zMalloc.take (sqlite3VdbeSerialTypeLen t)) rfl ?_ ?_ ha rfl ?_
    · rw [htake]
    · rw [htake]
    · dsimp only
      split_ifs with heven
      · exact Or.inr ⟨Or.inl (by decide), rfl⟩
      · exact Or.inl ⟨Or.inl (by decide), rfl⟩
  · have hs := settled_serialGet_of_lt ha .own (show t < 12 by omega) enc
    have hflags : (c.sqlite3VdbeSerialGet .own t).flags &&& ~~~MEM_Ephem =
        (c.sqlite3VdbeSerialGet .own t).flags := by
      unfold Mem.sqlite3VdbeSerialGet
      rw [if_neg ht]
      dsimp only
      have hvalue := @sqlite3VdbeSerialGet_of_lt (c.behind .own) t (by omega)
      rcases hvalue with heq | ⟨i, heq, -⟩ | ⟨x, heq, -⟩ <;> rw [heq]
      · exact (by decide : MEM_Null &&& ~~~MEM_Ephem = MEM_Null)
      · exact (by decide : MEM_Int &&& ~~~MEM_Ephem = MEM_Int)
      · exact (by decide : MEM_Real &&& ~~~MEM_Ephem = MEM_Real)
    rw [hflags]
    exact hs

/-! ## The cursor and its row -/

/-- For a cursor, the b-tree is as it was. What else there is to know of a cursor is its `view`, and
other cursors keep theirs. -/
structure RowBtree.Same {ν : Type} (B : RowBtree β κ) (row : β → κ → Option Row) (view : β → κ → ν)
    (b : β) (w : κ) (b' : β) (w' : κ) : Prop where
  /-- The cursor is on the same row. -/
  row_eq : row b' w' = row b w
  /-- It has moved if it had. -/
  moved_eq : B.HasMoved b' w' = B.HasMoved b w
  /-- It has the same view. -/
  view_eq : view b' w' = view b w
  /-- Every cursor has. -/
  others : ∀ c, view c w' = view c w

section same

variable {ν : Type} {B : RowBtree β κ} {row : β → κ → Option Row} {view : β → κ → ν} {b b' b'' : β}
  {w w' w'' : κ}

/-- Nothing has changed. -/
theorem RowBtree.Same.refl (b : β) (w : κ) : B.Same row view b w b w :=
  ⟨rfl, rfl, rfl, fun _ => rfl⟩

/-- Two steps that change nothing. -/
theorem RowBtree.Same.trans (h : B.Same row view b w b' w') (h' : B.Same row view b' w' b'' w'') :
    B.Same row view b w b'' w'' :=
  ⟨h'.row_eq.trans h.row_eq, h'.moved_eq.trans h.moved_eq, h'.view_eq.trans h.view_eq,
    fun c => (h'.others c).trans (h.others c)⟩

end same

/-- What `OP_Column` relies on in `btree.c` and in the allocator. The cursor `b` is on the row
`row b w`, if on any. -/
structure RowBtree.Holds {ν : Type} (B : RowBtree β κ) (L : CLib κ) (key : Bool)
    (row : β → κ → Option Row) (view : β → κ → ν) : Prop where
  /-- A valid cursor is on a row. -/
  valid : ∀ b w, B.HasMoved b w = false → ∃ r, row b w = some r
  /-- The size of an entry. -/
  size : ∀ b w r, row b w = some r → B.Size key b w = r.payload.length
  /-- The part of an entry on its page. -/
  fetch : ∀ b w r, row b w = some r → B.Fetch key b w = (r.memory, r.avail)
  /-- Any part of an entry, unless it cannot be read. -/
  read : ∀ offset amt b w r, row b w = some r → offset + amt ≤ r.payload.length →
    ∃ rc bytes b' w', B.Read key offset amt b w = ((rc, bytes), b', w') ∧ B.Same row view b w b' w' ∧
      (rc = SQLITE_OK → bytes = (r.payload.drop offset).take amt)
  /-- A search that finds its key leaves the cursor valid. -/
  moveto : ∀ iKey b w b' w', B.MovetoUnpacked none iKey b w = ((SQLITE_OK, 0), b', w') →
    B.HasMoved b' w' = false
  /-- So does the restoration of a position. -/
  restore : ∀ b w b' w', B.CursorRestore b w = ((SQLITE_OK, false), b', w') →
    B.HasMoved b' w' = false
  /-- The allocator does not touch the b-tree. -/
  malloc : ∀ n b w, B.Same row view b w b (L.malloc n w).2
  /-- Nor does a destructor. -/
  destroy : ∀ p b w, B.Same row view b w b (L.destroy p w)

/-- The code of a failure that is none of the record: there is no memory, or the b-tree cannot be
read. -/
def RowBtree.Fails (B : RowBtree β κ) (L : CLib κ) (key : Bool) (rc : ℕ) : Prop :=
  rc ≠ SQLITE_OK ∧ ((rc = SQLITE_NOMEM ∧ L.RunsOut) ∨
    ∃ offset amt b w, (B.Read key offset amt b w).1.1 = rc)

/-- A description that counts as current describes the row, unless the cursor has moved. -/
structure ColumnCursor.Keeps (B : RowBtree β κ) (row : β → κ → Option Row) (nField : ℕ)
    (pC : ColumnCursor β) (w : κ) : Prop where
  /-- The cursor is one of a b-tree. -/
  cursor : ∃ b, pC.pCursor = some b
  /-- There is a place for the end of each column. -/
  length_aOffset : pC.row.aOffset.length = nField + 1
  /-- There is a place for the type of each column. -/
  length_aType : pC.row.aType.length = nField
  /-- The description is of the row. -/
  current : pC.cacheStatus ≠ CACHE_STALE → pC.nullRow = false ∧ ∀ b, pC.pCursor = some b →
    B.HasMoved b w = false → ∃ r, row b w = some r ∧ pC.row.Describes r nField

/-- The cursors differ at most in what they keep of the row and of the b-tree. -/
structure ColumnCursor.Alike (pC pC' : ColumnCursor β) : Prop where
  /-- The kind of the cursor. -/
  isTable_eq : pC'.isTable = pC.isTable
  /-- Whether it is on a row of NULLs. -/
  nullRow_eq : pC'.nullRow = pC.nullRow
  /-- Whether it has a movement to do. -/
  deferredMoveto_eq : pC'.deferredMoveto = pC.deferredMoveto
  /-- The target of the movement. -/
  movetoTarget_eq : pC'.movetoTarget = pC.movetoTarget

/-- A cursor is like itself. -/
theorem ColumnCursor.Alike.refl (pC : ColumnCursor β) : pC.Alike pC := ⟨rfl, rfl, rfl, rfl⟩

/-- Like what is like. -/
theorem ColumnCursor.Alike.trans {pC pC' pC'' : ColumnCursor β} (h : pC.Alike pC')
    (h' : pC'.Alike pC'') : pC.Alike pC'' :=
  ⟨h'.isTable_eq.trans h.isTable_eq, h'.nullRow_eq.trans h.nullRow_eq,
    h'.deferredMoveto_eq.trans h.deferredMoveto_eq, h'.movetoTarget_eq.trans h.movetoTarget_eq⟩

/-- The cursor is on the row `r`. -/
def ColumnCursor.On (B : RowBtree β κ) (row : β → κ → Option Row) (pC : ColumnCursor β) (w : κ)
    (r : Row) : Prop :=
  pC.nullRow = false ∧ ∃ b, pC.pCursor = some b ∧ B.HasMoved b w = false ∧ row b w = some r

section spec

variable {ν : Type} {L : CLib κ} {B : RowBtree β κ} {key : Bool} {row : β → κ → Option Row}
  {view : β → κ → ν} {nField : ℕ}
  {pC : ColumnCursor β} {b : β} {w w' : κ} {r : Row}

/-- Allocations change nothing of the b-tree. -/
theorem RowBtree.Holds.allocates (hB : B.Holds L key row view) (h : L.Allocates w w') (b : β) :
    B.Same row view b w b w' := by
  obtain ⟨w₁, h₁, h₂⟩ := h
  have hfirst : B.Same row view b w b w₁ := by
    rcases h₁ with rfl | ⟨n, rfl⟩
    · exact .refl b w₁
    · exact hB.malloc n b w
  rcases h₂ with rfl | ⟨p, rfl⟩
  · exact hfirst
  · exact hfirst.trans (hB.destroy p b w₁)

/-- Nor does setting a register to NULL. -/
theorem RowBtree.Holds.setNull (hB : B.Holds L key row view) (c : Mem) (b : β) (w : κ) :
    B.Same row view b w b (c.sqlite3VdbeMemSetNull L w).2 := by
  unfold Mem.sqlite3VdbeMemSetNull Mem.vdbeMemClearExternAndSetNull
  split_ifs
  · exact hB.destroy c b w
  · exact .refl b w

/-- Nor does releasing a register. -/
theorem RowBtree.Holds.release (hB : B.Holds L key row view) (c : Mem) (b : β) (w : κ) :
    B.Same row view b w b (c.sqlite3VdbeMemRelease L w).2 := by
  unfold Mem.sqlite3VdbeMemRelease Mem.vdbeMemClearExternAndSetNull
  split_ifs
  · exact hB.destroy c b w
  · exact .refl b w
  · exact .refl b w

/-- A cursor that is brought to its row is on it, or on no row. -/
theorem sqlite3VdbeCursorMoveto_spec (hB : B.Holds L key row view) (hk : pC.Keeps B row nField w) :
    ∃ rc pC' w' b', sqlite3VdbeCursorMoveto B pC w = .ok (rc, pC', w') ∧ pC'.pCursor = some b' ∧
      pC'.isTable = pC.isTable ∧
      (rc = SQLITE_OK → pC'.Keeps B row nField w' ∧
        (pC'.nullRow = true ∨ ∃ b, pC'.pCursor = some b ∧ B.HasMoved b w' = false)) := by
  obtain ⟨b, hb⟩ := hk.cursor
  unfold sqlite3VdbeCursorMoveto
  rw [hb]
  dsimp only
  by_cases hdef : pC.deferredMoveto = true
  · rw [if_pos hdef]
    unfold handleDeferredMoveto
    rcases hmove : B.MovetoUnpacked none pC.movetoTarget b w with ⟨⟨rc, res⟩, b', w'⟩
    dsimp only
    by_cases hrc : rc = SQLITE_OK
    · rw [if_neg (not_not.mpr hrc)]
      by_cases hres : res = 0
      · rw [if_neg (not_not.mpr hres)]
        refine ⟨_, _, _, b', rfl, rfl, rfl, fun _ => ⟨⟨⟨b', rfl⟩, hk.length_aOffset, hk.length_aType,
            ?_⟩,
          Or.inr ⟨b', rfl, ?_⟩⟩⟩
        · exact fun h => absurd rfl h
        · subst hrc hres
          exact hB.moveto _ _ _ _ _ hmove
      · rw [if_pos hres]
        exact ⟨_, _, _, b', rfl, rfl, rfl, fun h => absurd h (by decide)⟩
    · rw [if_pos hrc]
      exact ⟨_, _, _, b', rfl, rfl, rfl, fun h => absurd h hrc⟩
  · rw [if_neg hdef]
    cases hmoved : B.HasMoved b w
    · exact ⟨_, _, _, b, rfl, hb, rfl, fun _ => ⟨hk, Or.inr ⟨b, hb, hmoved⟩⟩⟩
    · rw [if_pos rfl]
      unfold handleMovedCursor
      rcases hrestore : B.CursorRestore b w with ⟨⟨rc, isDifferentRow⟩, b', w'⟩
      refine ⟨_, _, _, b', rfl, rfl, rfl, fun hrc => ⟨⟨⟨b', rfl⟩, hk.length_aOffset, hk.length_aType,
        fun h => absurd rfl h⟩, ?_⟩⟩
      cases isDifferentRow
      · obtain rfl : rc = SQLITE_OK := hrc
        exact Or.inr ⟨b', rfl, hB.restore _ _ _ _ hrestore⟩
      · exact Or.inl (Bool.or_true _)

/-- The row of a cursor that is on one is described, unless it is too long, or corrupt from its
start. -/
theorem describeEntry_spec (hB : B.Holds L key row view) (hkey : pC.isTable = !key)
    (hk : pC.Keeps B row nField w) (hr : row b w = some r) (limit : ℤ) (cacheCtr : ℕ) :
    ∃ found pC', describeEntry B limit cacheCtr pC b w = .ok (found, pC') ∧
      pC'.pCursor = pC.pCursor ∧ pC.Alike pC' ∧
      ((found = .row ∧ pC'.row.Describes r nField ∧ pC'.cacheStatus = cacheCtr) ∨
        (found = .too_big ∧ limit < r.payload.length) ∨
        (found = .error SQLITE_CORRUPT ∧ ∀ n, r.types n = none)) := by
  have hk' : (!pC.isTable) = key := by rw [hkey, Bool.not_not]
  have hmin : (if r.payload.length ≤ r.avail then r.payload.length else r.avail) = r.avail := by
    have := r.avail_le
    split_ifs <;> omega
  have hsize : ((r.payload.length : ℤ) % 2^32).toNat = r.payload.length := by
    have := r.length_lt
    omega
  unfold describeEntry
  rw [hk', hB.fetch b w r hr, hB.size b w r hr]
  dsimp only
  rw [hsize, hmin]
  by_cases hlimit : limit < r.payload.length
  · rw [if_pos hlimit]
    exact ⟨_, _, rfl, rfl, ⟨rfl, rfl, rfl, rfl⟩, Or.inr (Or.inl ⟨rfl, hlimit⟩)⟩
  · rw [if_neg hlimit]
    obtain ⟨rc, row', hstart, hcase⟩ :=
      RowCache.startHeader_spec r hk.length_aOffset hk.length_aType
    unfold describeRow
    rw [hstart]
    dsimp only [Bind.bind, Except.bind, Pure.pure, Except.pure]
    rcases hcase with ⟨rfl, hd, -⟩ | ⟨rfl, hbad⟩
    · rw [if_neg (by decide)]
      exact ⟨_, _, rfl, rfl, ⟨rfl, rfl, rfl, rfl⟩, Or.inl ⟨rfl, hd, rfl⟩⟩
    · rw [if_pos (by decide)]
      exact ⟨_, _, rfl, rfl, ⟨rfl, rfl, rfl, rfl⟩, Or.inr (Or.inr ⟨rfl, hbad⟩)⟩

/-- The description is brought up to date: the cursor is on no row, or on a row that is described,
too long, or corrupt from its start. -/
theorem columnRow_spec (hB : B.Holds L key row view) (hkey : pC.isTable = !key)
    (hk : pC.Keeps B row nField w)
    (hplace : pC.nullRow = true ∨ ∃ b, pC.pCursor = some b ∧ B.HasMoved b w = false)
    {cacheCtr : ℕ} (hctr : cacheCtr ≠ CACHE_STALE) (limit : ℤ) (pReg : Option Mem) :
    ∃ found pC', columnRow B limit cacheCtr pReg pC w = .ok (found, pC') ∧
      pC'.pCursor = pC.pCursor ∧ pC.Alike pC' ∧
      ((found = .null ∧ pC' = pC ∧ pC.nullRow = true) ∨
        ∃ r, pC.On B row w r ∧
          ((found = .row ∧ pC'.row.Describes r nField ∧ pC'.cacheStatus = cacheCtr) ∨
            (found = .too_big ∧ limit < r.payload.length) ∨
            (found = .error SQLITE_CORRUPT ∧ ∀ n, r.types n = none))) := by
  obtain ⟨b, hb⟩ := hk.cursor
  have hvalid : pC.nullRow = false → B.HasMoved b w = false := by
    intro hnull
    rcases hplace with h | ⟨b', hb', h⟩
    · exact absurd h (by rw [hnull]; decide)
    · obtain rfl : b = b' := Option.some.inj (hb.symm.trans hb')
      exact h
  unfold columnRow
  by_cases hcur : pC.cacheStatus = cacheCtr
  · rw [if_pos hcur]
    obtain ⟨hnull, hdesc⟩ := hk.current (hcur ▸ hctr)
    obtain ⟨r, hr, hd⟩ := hdesc b hb (hvalid hnull)
    exact ⟨_, _, rfl, rfl, .refl pC,
      Or.inr ⟨r, ⟨hnull, b, hb, hvalid hnull, hr⟩, Or.inl ⟨rfl, hd, hcur⟩⟩⟩
  · rw [if_neg hcur]
    cases hnull : pC.nullRow
    · obtain ⟨r, hr⟩ := hB.valid _ _ (hvalid hnull)
      obtain ⟨found, pC', hrun, hcursor, halike, hcase⟩ :=
        describeEntry_spec hB hkey hk hr limit cacheCtr
      refine ⟨found, pC', ?_, hcursor, halike,
        Or.inr ⟨r, ⟨hnull, b, hb, hvalid hnull, hr⟩, hcase⟩⟩
      simp only [hb]
      exact hrun
    · refine ⟨.null, pC, ?_, rfl, .refl pC, Or.inl ⟨rfl, rfl, rfl⟩⟩
      simp only [hb]

/-- A part of an entry gets into a cell with enough room. -/
theorem readEntry_spec (hB : B.Holds L key row view) (hr : row b w = some r) {c : Mem} (hz : c.z = .own)
    (ha : c.szMalloc = c.zMalloc.length) {offset amt : ℕ} (hroom : amt + 2 ≤ c.zMalloc.length)
    (hfit : offset + amt ≤ r.payload.length) :
    ∃ rc c' b' w', c.readEntry L B key offset amt b w = .ok (rc, c', b', w') ∧
      B.Same row view b w b' w' ∧ ((rc = SQLITE_OK ∧ c'.z = .own ∧ c'.szMalloc = c'.zMalloc.length ∧
        ∃ more, c'.zMalloc = (r.payload.drop offset).take amt ++ 0 :: more) ∨ B.Fails L key rc) := by
  obtain ⟨rc, bytes, b', w', hread, hsame, hbytes⟩ := hB.read offset amt b w r hr hfit
  unfold Mem.readEntry
  rw [hread]
  dsimp only
  by_cases hrc : rc = SQLITE_OK
  · obtain rfl := hbytes hrc
    have hlen : ((r.payload.drop offset).take amt).length = amt := by
      rw [List.length_take, List.length_drop]; omega
    obtain ⟨more, hwrite, hmore⟩ := Mem.writeOwn_terminated (c := c)
      ((r.payload.drop offset).take amt) (by rw [hlen]; exact hroom)
    rw [hlen] at hwrite
    rw [if_pos hrc]
    rcases hfirst : c.writeOwn 0 ((r.payload.drop offset).take amt) with e | c₂ <;>
      rw [hfirst] at hwrite
    · cases hwrite
    dsimp only [Bind.bind, Except.bind] at hwrite ⊢
    rw [hwrite]
    exact ⟨_, _, _, _, rfl, hsame, Or.inl ⟨rfl, hz, ha.trans hmore.symm, more, rfl⟩⟩
  · rw [if_neg hrc]
    exact ⟨_, _, _, _, rfl, hsame.trans (hB.release c b' w'),
      Or.inr ⟨hrc, Or.inr ⟨offset, amt, b, w, by rw [hread]⟩⟩⟩

/-- A part of an entry that is not all on the page gets into the cell's own allocation. -/
theorem sqlite3VdbeMemFromBtree_spec (hB : B.Holds L key row view) (hL : L.Sized)
    (hr : row b w = some r) {c : Mem} (ha : c.szMalloc = c.zMalloc.length) {offset amt : ℕ}
    (hfar : r.avail < offset + amt) (hfit : offset + amt ≤ r.payload.length) :
    ∃ rc c' b' w', c.sqlite3VdbeMemFromBtree L B key offset amt b w = .ok (rc, c', b', w') ∧
      B.Same row view b w b' w' ∧ ((rc = SQLITE_OK ∧ c'.z = .own ∧ c'.szMalloc = c'.zMalloc.length ∧
        ∃ more, c'.zMalloc = (r.payload.drop offset).take amt ++ 0 :: more) ∨ B.Fails L key rc) := by
  have hlt := r.length_lt
  have hmod : (offset + amt) % 2^32 = offset + amt := Nat.mod_eq_of_lt (by omega)
  unfold Mem.sqlite3VdbeMemFromBtree
  rw [hB.fetch b w r hr]
  dsimp only
  rw [hmod, if_neg (by omega)]
  obtain ⟨rc, c₁, w₁, hrun, hw, hcase⟩ := Mem.sqlite3VdbeMemClearAndResize_spec
    (c := { c with flags := MEM_Null }) hL ha (amt + 2) w
  have hsame₁ := hB.allocates hw b
  rw [hrun]
  dsimp only [Bind.bind, Except.bind, Pure.pure, Except.pure]
  rcases hcase with ⟨rfl, hz, ha₁, hroom, -, -⟩ | ⟨rfl, hout⟩
  · rw [if_neg (by simp)]
    obtain ⟨rc, c', b', w', hread, hsame₂, hcase⟩ :=
      readEntry_spec hB (hsame₁.row_eq.trans hr) hz ha₁ hroom hfit
    exact ⟨rc, c', b', w', hread, hsame₁.trans hsame₂, hcase⟩
  · rw [if_pos (by decide)]
    exact ⟨_, _, _, _, rfl, hsame₁, Or.inr ⟨by decide, Or.inl ⟨rfl, hout⟩⟩⟩

/-- The header is parsed up to the column, or to its end, unless the record is corrupt. -/
theorem columnHeader_spec (hB : B.Holds L key row view) (hL : L.Sized) (hkey : pC.isTable = !key)
    (hb : pC.pCursor = some b) (hr : row b w = some r) (hd : pC.row.Describes r nField) {p2 : ℕ}
    (hp2 : p2 < nField) :
    ∃ rc pC' b' w', columnHeader L B p2 pC w = .ok (rc, pC', w') ∧ pC'.pCursor = some b' ∧
      B.Same row view b w b' w' ∧ pC.Alike pC' ∧
      ((rc = SQLITE_OK ∧ pC'.row.Describes r nField ∧
          (p2 < pC'.row.nHdrParsed ∨ r.szHdr ≤ pC'.row.iHdrOffset)) ∨
        (rc = SQLITE_CORRUPT ∧ r.types (p2 + 1) = none) ∨ B.Fails L key rc) := by
  have hk' : (!pC.isTable) = key := by rw [hkey, Bool.not_not]
  have hzero : pC.row.aOffset.getD 0 0 = r.szHdr := by
    rw [List.getD_eq_getElem?_getD, hd.aOffset_zero]
    rfl
  obtain ⟨ts, left, htypes, -⟩ := hd.parsed
  have hfits := (Row.types_eq_some_iff.mp htypes).2.header_fits
  unfold columnHeader
  rw [hzero]
  -- The header is parsed on only as far as the column asks for.
  by_cases hmore : pC.row.nHdrParsed ≤ p2 ∧ pC.row.iHdrOffset < r.szHdr
  · rw [if_pos hmore, hd.aRow]
    by_cases hnear : r.szHdr ≤ r.avail
    · -- The whole header is on the page.
      rw [if_pos hnear]
      obtain ⟨rc, row', hparse, hcase⟩ :=
        hd.parseHeader_spec (r.holdsHeader_memory hnear) hmore.1 hp2 hmore.2
      dsimp only
      rw [hparse]
      refine ⟨_, _, b, w, rfl, hb, .refl b w, ⟨rfl, rfl, rfl, rfl⟩, ?_⟩
      rcases hcase with h | h
      · exact Or.inl h
      · exact Or.inr (Or.inl h)
    · -- The header is copied to `sMem` first.
      rw [if_neg hnear, hb, hk']
      have hfar : r.avail < 0 + r.szHdr := by omega
      have hfit : 0 + r.szHdr ≤ r.payload.length := by omega
      obtain ⟨rc, sMem, b', w', hfrom, hsame, hcase⟩ := sqlite3VdbeMemFromBtree_spec hB hL hr
        (c := ⟨0, 0, 0, .null, [], 0, 0, false⟩) rfl hfar hfit
      dsimp only
      rw [hfrom]
      dsimp only [Bind.bind, Except.bind, Pure.pure, Except.pure]
      rcases hcase with ⟨rfl, hz, -, more, hbytes⟩ | hfail
      · rw [if_neg (by simp)]
        -- The copy has the header's bytes, and a terminator after them.
        have hbuf : sMem.buffer = r.payload.take r.szHdr ++ 0 :: more := by
          unfold Mem.buffer
          rw [hz]
          exact hbytes
        obtain ⟨rc, row', hparse, hcase⟩ :=
          hd.parseHeader_spec (r.holdsHeader_copy hfits more) hmore.1 hp2 hmore.2
        rw [hbuf, hparse]
        refine ⟨_, _, b', _, rfl, rfl, hsame.trans (hB.release sMem b' w'), ⟨rfl, rfl, rfl, rfl⟩, ?_⟩
        rcases hcase with h | h
        · exact Or.inl h
        · exact Or.inr (Or.inl h)
      · -- The copy failed, and the opcode leaves with its error.
        rw [if_pos hfail.1]
        exact ⟨_, _, b', w', rfl, rfl, hsame, ⟨rfl, rfl, rfl, rfl⟩, Or.inr (Or.inr hfail)⟩
  · -- The column is parsed already, or there is nothing more to parse.
    rw [if_neg hmore]
    refine ⟨_, _, b, w, rfl, hb, .refl b w, .refl pC, Or.inl ⟨rfl, hd, ?_⟩⟩
    omega

/-- A register that is set to NULL still knows its allocation. -/
theorem Mem.szMalloc_setNull (L : CLib κ) {c : Mem} (ha : c.szMalloc = c.zMalloc.length) (w : κ) :
    (c.sqlite3VdbeMemSetNull L w).1.szMalloc = (c.sqlite3VdbeMemSetNull L w).1.zMalloc.length ∧
      (c.sqlite3VdbeMemSetNull L w).1.flags = MEM_Null := by
  unfold Mem.sqlite3VdbeMemSetNull Mem.vdbeMemClearExternAndSetNull
  split_ifs <;> exact ⟨ha, rfl⟩

/-- The bytes of a field that are read anywhere give its value. -/
theorem Row.valueAt_eq {bytes : List Byte} {offset t : ℕ}
    (h : bytes.take (sqlite3VdbeSerialTypeLen t) =
      (r.payload.drop offset).take (sqlite3VdbeSerialTypeLen t)) :
    sqlite3VdbeSerialGet bytes t = r.valueAt offset t := by
  unfold Row.valueAt
  rw [← h, sqlite3VdbeSerialGet_take]

/-- A column that is parsed gets into the register. -/
theorem columnContent_spec (hB : B.Holds L key row view) (hL : L.Sized) (hkey : pC.isTable = !key)
    (hb : pC.pCursor = some b) (hr : row b w = some r) (hd : pC.row.Describes r nField) {op : Op}
    (hp2 : op.p2.toNat < pC.row.nHdrParsed)
    (hp5 : op.p5_has (OPFLAG_LENGTHARG ||| OPFLAG_TYPEOFARG) = false) {pDest : Mem}
    (ha : pDest.szMalloc = pDest.zMalloc.length) (payloadSize64 : List Byte) (enc : ℕ) :
    ∃ rc pC' pDest' b' w' v, columnContent L B payloadSize64 op pC pDest w =
        .ok (rc, pC', pDest', w') ∧ pC' = { pC with pCursor := some b' } ∧ B.Same row view b w b' w' ∧
      r.column op.p2.toNat = some (some v) ∧
      ((rc = SQLITE_OK ∧ ∃ exit c w'', columnOut L { pDest' with enc := enc } w' =
          .ok (exit, c, w'') ∧ L.Allocates w' w'' ∧
          ((exit = .result SQLITE_OK ∧ c.Settled enc v) ∨ (exit = .no_mem ∧ L.RunsOut))) ∨
        B.Fails L key rc) := by
  obtain ⟨offset, t, hfield, hoff, hend, htype, hfit, hhdr⟩ := hd.fieldAt_of_lt hp2
  have hcolumn : r.column op.p2.toNat = some (some (r.valueAt offset t)) := by
    unfold Row.column
    rw [hfield]
    rfl
  have hgetD : ∀ (xs : List ℕ) (k x : ℕ), xs[k]? = some x → xs.getD k 0 = x := by
    intro xs k x h
    rw [List.getD_eq_getElem?_getD, h]
    rfl
  have hk' : (!pC.isTable) = key := by rw [hkey, Bool.not_not]
  have hsame₀ : pC = { pC with pCursor := some b } := by rw [← hb]
  -- The register is free of what it owned.
  obtain ⟨q, w₁, hq, haq, hsame₁⟩ : ∃ q w₁, (if VdbeMemDynamic pDest.flags then
      pDest.sqlite3VdbeMemSetNull L w else (pDest, w)) = (q, w₁) ∧ q.szMalloc = q.zMalloc.length ∧
      B.Same row view b w b w₁ := by
    split_ifs
    · exact ⟨_, _, rfl, (Mem.szMalloc_setNull L ha w).1, hB.setNull pDest b w⟩
    · exact ⟨_, _, rfl, ha, .refl b w⟩
  unfold columnContent
  dsimp only
  rw [hgetD _ _ _ hoff, hgetD _ _ _ hend, hgetD _ _ _ htype, hq, hd.szRow, hd.aRow, hb, hk', hp5]
  dsimp only
  by_cases hnear : offset + sqlite3VdbeSerialTypeLen t ≤ if r.szHdr ≤ r.avail then r.avail else 0
  · -- The field is on the page.
    rw [if_pos hnear]
    have hpage : r.szHdr ≤ r.avail ∧ offset + sqlite3VdbeSerialTypeLen t ≤ r.avail := by
      split_ifs at hnear <;> omega
    rw [if_pos hpage.1]
    have hle := r.avail_le
    have hmem : (r.memory.drop offset).take (sqlite3VdbeSerialTypeLen t) =
        (r.payload.drop offset).take (sqlite3VdbeSerialTypeLen t) := by
      unfold Row.memory
      rw [List.drop_append_of_le_length (by rw [List.length_take]; omega),
        List.take_append_of_le_length (by rw [List.length_drop, List.length_take]; omega),
        List.drop_take, List.take_take, Nat.min_eq_left (by omega)]
    have hlong : sqlite3VdbeSerialTypeLen t ≤ (r.memory.drop offset).length := by
      unfold Row.memory
      rw [List.length_drop, List.length_append, List.length_take]
      omega
    obtain ⟨exit, c, w'', hout, hw, hcase⟩ := columnOut_serialGet hL haq hlong enc w₁
    rw [Row.valueAt_eq hmem] at hcase
    exact ⟨_, _, _, b, w₁, _, rfl, hsame₀, hsame₁, hcolumn, Or.inl ⟨rfl, exit, c, w'', hout, hw, hcase⟩⟩
  · rw [if_neg hnear]
    have hfar : r.avail < offset + sqlite3VdbeSerialTypeLen t := by
      split_ifs at hnear <;> omega
    by_cases hlen : sqlite3VdbeSerialTypeLen t = 0
    · -- There is no content.
      rw [if_pos (Or.inr hlen)]
      have ht : t ≤ 13 := by
        unfold sqlite3VdbeSerialTypeLen at hlen
        split_ifs at hlen <;> omega
      rw [if_pos ht]
      have hempty : sqlite3VdbeSerialTypeLen t ≤ payloadSize64.length := by omega
      have hvalue : sqlite3VdbeSerialGet payloadSize64 t = r.valueAt offset t :=
        Row.valueAt_eq (by rw [hlen, List.take_zero, List.take_zero])
      obtain ⟨exit, c, w'', hout, hw, hcase⟩ := columnOut_serialGet hL haq hempty enc w₁
      rw [hvalue] at hcase
      exact ⟨_, _, _, b, w₁, _, rfl, hsame₀, hsame₁, hcolumn,
        Or.inl ⟨rfl, exit, c, w'', hout, hw, hcase⟩⟩
    · rw [if_neg (by simp [hlen])]
      obtain ⟨rc, c', b', w', hfrom, hsame₂, hcase⟩ := sqlite3VdbeMemFromBtree_spec hB hL
        (hsame₁.row_eq.trans hr) haq hfar hfit
      rw [hfrom]
      dsimp only [Bind.bind, Except.bind, Pure.pure, Except.pure]
      rcases hcase with ⟨rfl, hz, ha', more, hbytes⟩ | hfail
      · rw [if_neg (by simp)]
        have hcontent : ((r.payload.drop offset).take (sqlite3VdbeSerialTypeLen t)).length =
            sqlite3VdbeSerialTypeLen t := by
          rw [List.length_take, List.length_drop]; omega
        have hs := settled_serialGet_own hz ha' (t := t)
          (by rw [hbytes, List.length_append, hcontent]; omega) enc
        rw [Row.valueAt_eq (by rw [hbytes, List.take_left' hcontent])] at hs
        exact ⟨_, _, _, b', w', _, rfl, rfl, hsame₁.trans hsame₂, hcolumn,
          Or.inl ⟨rfl, _, _, w', columnOut_of_not_ephem L hs.ephem w',
            ⟨w', Or.inl rfl, Or.inl rfl⟩, Or.inl ⟨rfl, hs⟩⟩⟩
      · rw [if_pos hfail.1]
        exact ⟨_, _, _, b', w', _, rfl, rfl, hsame₁.trans hsame₂, hcolumn, Or.inr hfail⟩

/-- A default that is a value and not ephemeral. -/
def DefaultOk (enc : ℕ) (p4 : Option Mem) : Prop :=
  ∀ d, p4 = some d → d.IsValue enc ∧ d.flags.has MEM_Ephem = false

/-- The register holds what the record says of a column: its value, or else the default or NULL. -/
inductive ColumnIs (enc : ℕ) : Option Mem → Option Value → Mem → Prop
  /-- The value of the column. -/
  | value {p4 : Option Mem} {v : Value} {c : Mem} (h : c.Settled enc v) : ColumnIs enc p4 (some v) c
  /-- The default. -/
  | default {d c : Mem} (h : c.IsValue enc) (hv : c.value = d.value)
      (he : c.flags.has MEM_Ephem = false) : ColumnIs enc (some d) none c
  /-- NULL. -/
  | null {c : Mem} (h : c.Settled enc .null) : ColumnIs enc none none c

/-- A shallow copy of a default is that value. -/
theorem columnIs_shallowCopy (L : CLib κ) {enc : ℕ} {d c : Mem} (hd : d.IsValue enc)
    (he : d.flags.has MEM_Ephem = false) (ha : c.szMalloc = c.zMalloc.length) (w : κ) :
    ColumnIs enc (some d) none (Mem.c_sqlite3VdbeMemShallowCopy L d MEM_Static c w).1 := by
  obtain ⟨q, w₁, hq, haq⟩ : ∃ q w₁, (if VdbeMemDynamic c.flags then
      c.vdbeMemClearExternAndSetNull L w else (c, w)) = (q, w₁) ∧ q.szMalloc = q.zMalloc.length := by
    split_ifs
    · exact ⟨_, _, rfl, ha⟩
    · exact ⟨_, _, rfl, ha⟩
  unfold Mem.c_sqlite3VdbeMemShallowCopy
  rw [hq]
  dsimp only
  -- The copy is static: it borrows the default's bytes, whose flags it has otherwise.
  set f : Flags := if d.flags.has MEM_Static then d.flags
    else (d.flags &&& ~~~(MEM_Dyn ||| MEM_Static ||| MEM_Ephem)) ||| MEM_Static with hf
  -- Bits 10, 11 and 12 are `MEM_Dyn`, `MEM_Static` and `MEM_Ephem`; all others are the default's.
  have hbits : ∀ k, k ≠ 10 → k ≠ 11 → k ≠ 12 → f.getLsbD k = d.flags.getLsbD k := by
    intro k h10 h11 h12
    rw [hf]
    split_ifs
    · rfl
    · by_cases hk : k < 16
      · simp only [MEM_Dyn, MEM_Static, MEM_Ephem, BitVec.getLsbD_or, BitVec.getLsbD_and,
          BitVec.getLsbD_not]
        interval_cases k <;> simp_all
      · rw [BitVec.getLsbD_of_ge _ _ (by omega), BitVec.getLsbD_of_ge _ _ (by omega)]
  have heph : f.has MEM_Ephem = false := by
    rw [hf]
    split_ifs
    · exact he
    · simp
  -- Lent bytes read as the owner's do.
  have hbuf : ∀ m : Mem, m.z = d.lent → m.buffer = d.buffer := by
    intro m hm
    unfold Mem.lent at hm
    unfold Mem.buffer
    cases hz : d.z <;> rw [hz] at hm <;> rw [hm]
  have hhas : ∀ (mask : Flags) (k : ℕ), (∀ g : Flags, g.has mask = g.getLsbD k) →
      (k ≠ 10 ∧ k ≠ 11 ∧ k ≠ 12) → f.has mask = d.flags.has mask := by
    intro mask k hm hk
    rw [hm, hm, hbits k hk.1 hk.2.1 hk.2.2]
  have h0 := hhas MEM_Null 0 Flags.has_MEM_Null (by decide)
  have h1 := hhas MEM_Str 1 Flags.has_MEM_Str (by decide)
  have h2 := hhas MEM_Int 2 Flags.has_MEM_Int (by decide)
  have h3 := hhas MEM_Real 3 Flags.has_MEM_Real (by decide)
  have h4 := hhas MEM_Blob 4 Flags.has_MEM_Blob (by decide)
  have h5 := hhas MEM_RowSet 5 Flags.has_MEM_RowSet (by decide)
  have h6 := hhas MEM_Frame 6 Flags.has_MEM_Frame (by decide)
  have h7 := hhas MEM_Undefined 7 Flags.has_MEM_Undefined (by decide)
  have h13 := hhas MEM_Agg 13 Flags.has_MEM_Agg (by decide)
  have h14 := hhas MEM_Zero 14 Flags.has_MEM_Zero (by decide)
  -- That the copy is a value is a matter of the flags, which say of it what they say of the
  -- default.
  refine .default ⟨?_, ?_, ?_, ?_, ?_, ?_, ?_, ?_, ?_, haq⟩ ?_ heph
  · rw [h0, h1, h2, h3, h4]; exact hd.null
  · rw [h0, h1, h2, h3, h4]; exact hd.nonempty
  · rw [h2, h3]; exact hd.int_real
  · rw [h1, h2, h3, h4]; exact hd.blob
  · rw [h3]; exact hd.real
  · rw [h5, h6, h7, h13]; exact hd.plain
  · rw [h4, h14]; exact hd.zero
  · rw [h1, h4, hbuf _ rfl]; exact hd.stored
  · rw [h1]; exact hd.enc_eq
  · unfold Mem.value Mem.fullBytes Mem.bytes
    rw [h0, h1, h2, h3, h14, hbuf _ rfl]
    rfl

/-- A cursor whose b-tree is as it was is on its row. -/
theorem ColumnCursor.On.of_same (hmoved : B.HasMoved b w = false) (hr : row b w = some r)
    {pC' : ColumnCursor β} {b' : β} (hb : pC'.pCursor = some b') (hnull : pC'.nullRow = false)
    (h : B.Same row view b w b' w') : pC'.On B row w' r :=
  ⟨hnull, b', hb, h.moved_eq.trans hmoved, h.row_eq.trans hr⟩

/-- The same where the b-tree is as it was for every cursor. -/
theorem ColumnCursor.On.of_world (h : pC.On B row w r) (hw : ∀ b, B.Same row view b w b w') :
    pC.On B row w' r := by
  obtain ⟨hnull, b, hb, hmoved, hr⟩ := h
  exact .of_same hmoved hr hb hnull (hw b)

/-- A cursor with a description of its row keeps it. -/
theorem ColumnCursor.On.keeps (h : pC.On B row w r) (hd : pC.row.Describes r nField) :
    pC.Keeps B row nField w := by
  obtain ⟨hnull, b, hb, -, hr⟩ := h
  refine ⟨⟨b, hb⟩, hd.length_aOffset, hd.length_aType, fun _ => ⟨hnull, fun b' hb' _ => ?_⟩⟩
  obtain rfl : b = b' := Option.some.inj (hb.symm.trans hb')
  exact ⟨r, hr, hd⟩

/-- What a cursor keeps stays right as long as the b-tree is as it was. -/
theorem ColumnCursor.Keeps.of_same (hk : pC.Keeps B row nField w)
    (h : ∀ b, B.Same row view b w b w') : pC.Keeps B row nField w' := by
  refine ⟨hk.cursor, hk.length_aOffset, hk.length_aType, fun hs => ?_⟩
  obtain ⟨hnull, hdesc⟩ := hk.current hs
  refine ⟨hnull, fun b hb hmoved => ?_⟩
  rw [(h b).moved_eq] at hmoved
  rw [(h b).row_eq]
  exact hdesc b hb hmoved

/-- The outcome of `OP_Column` on column `p2`. -/
structure ReadsColumn (L : CLib κ) (B : RowBtree β κ) (key : Bool) (row : β → κ → Option Row)
    (nField enc : ℕ) (limit : ℤ) (p2 : ℕ) (p4 : Option Mem) (exit : ColumnExit)
    (pC : ColumnCursor β) (c : Mem) (w : κ) : Prop where
  /-- A result is what the record says of the column, or NULL if the cursor is on no row. -/
  ok : exit = .result SQLITE_OK → pC.Keeps B row nField w ∧
    ((pC.nullRow = true ∧ c.Settled enc .null) ∨
      ∃ r x, pC.On B row w r ∧ r.column p2 = some x ∧ ColumnIs enc p4 x c)
  /-- An error means that the record is corrupt, or that something else failed. -/
  error : ∀ rc, exit = .result rc → rc ≠ SQLITE_OK →
    (rc = SQLITE_CORRUPT ∧ ∃ r, pC.On B row w r ∧ r.column p2 = none) ∨ B.Fails L key rc
  /-- A record may be longer than the limit of the connection. -/
  too_big : exit = .too_big → ∃ r, pC.On B row w r ∧ limit < r.payload.length
  /-- There may be no memory for a text or blob. -/
  no_mem : exit = .no_mem → L.RunsOut

section outcomes

variable {limit : ℤ} {enc p2 : ℕ} {p4 : Option Mem} {c : Mem} {rc : ℕ}

/-- The column is read. -/
theorem ReadsColumn.of_ok (hk : pC.Keeps B row nField w)
    (h : (pC.nullRow = true ∧ c.Settled enc .null) ∨
      ∃ r x, pC.On B row w r ∧ r.column p2 = some x ∧ ColumnIs enc p4 x c) :
    ReadsColumn L B key row nField enc limit p2 p4 (.result SQLITE_OK) pC c w :=
  ⟨fun _ => ⟨hk, h⟩, fun _ heq hne => absurd (ColumnExit.result.inj heq).symm hne,
    fun heq => (nomatch heq), fun heq => (nomatch heq)⟩

/-- The opcode returns an error. -/
theorem ReadsColumn.of_error (hrc : rc ≠ SQLITE_OK)
    (h : (rc = SQLITE_CORRUPT ∧ ∃ r, pC.On B row w r ∧ r.column p2 = none) ∨ B.Fails L key rc) :
    ReadsColumn L B key row nField enc limit p2 p4 (.result rc) pC c w :=
  ⟨fun heq => absurd (ColumnExit.result.inj heq) hrc,
    fun _ heq _ => (ColumnExit.result.inj heq) ▸ h, fun heq => (nomatch heq),
    fun heq => (nomatch heq)⟩

/-- The cursor could not be moved to its row. -/
theorem ReadsColumn.of_abort :
    ReadsColumn L B key row nField enc limit p2 p4 (.abort_due_to_error rc) pC c w :=
  ⟨fun heq => (nomatch heq), fun _ heq => (nomatch heq), fun heq => (nomatch heq),
    fun heq => (nomatch heq)⟩

/-- The record is too long. -/
theorem ReadsColumn.of_too_big (h : ∃ r, pC.On B row w r ∧ limit < r.payload.length) :
    ReadsColumn L B key row nField enc limit p2 p4 .too_big pC c w :=
  ⟨fun heq => (nomatch heq), fun _ heq => (nomatch heq), fun _ => h, fun heq => (nomatch heq)⟩

/-- There is no memory. -/
theorem ReadsColumn.of_no_mem (h : L.RunsOut) :
    ReadsColumn L B key row nField enc limit p2 p4 .no_mem pC c w :=
  ⟨fun heq => (nomatch heq), fun _ heq => (nomatch heq), fun heq => (nomatch heq), fun _ => h⟩

end outcomes

/-- `OP_Column` brings the cursor to its row, and does nothing else to the b-tree. -/
structure ColumnCursor.Brought (B : RowBtree β κ) (row : β → κ → Option Row) {ν : Type}
    (view : β → κ → ν) (pC : ColumnCursor β) (w : κ) (exit : ColumnExit) (pC' : ColumnCursor β)
    (w' : κ) : Prop where
  /-- The movement is that of `sqlite3VdbeCursorMoveto`, whose failure ends the opcode. -/
  moved : ∃ rc pC₁ w₁, sqlite3VdbeCursorMoveto B pC w = .ok (rc, pC₁, w₁) ∧
    ((exit = .abort_due_to_error rc ∧ rc ≠ SQLITE_OK) ∨
      (rc = SQLITE_OK ∧ ∀ rc', exit ≠ .abort_due_to_error rc')) ∧ pC₁.Alike pC' ∧
    ∃ b₁ b', pC₁.pCursor = some b₁ ∧ pC'.pCursor = some b' ∧ B.Same row view b₁ w₁ b' w'

/-- NULL is left in the register. -/
theorem columnOut_setNull (L : CLib κ) {c : Mem} (ha : c.szMalloc = c.zMalloc.length) (enc : ℕ)
    (w : κ) : columnOut L (c.sqlite3VdbeMemSetNull L w).1 (c.sqlite3VdbeMemSetNull L w).2 =
        .ok (.result SQLITE_OK, (c.sqlite3VdbeMemSetNull L w).1, (c.sqlite3VdbeMemSetNull L w).2) ∧
      (c.sqlite3VdbeMemSetNull L w).1.Settled enc .null := by
  have hc := Mem.szMalloc_setNull L ha w
  have hs : (c.sqlite3VdbeMemSetNull L w).1.Settled enc .null := Mem.settled_null hc.2 hc.1
  exact ⟨columnOut_of_not_ephem L hs.ephem _, hs⟩

/-- The default is left in the register. -/
theorem columnOut_shallowCopy (hB : B.Holds L key row view) {enc : ℕ} {d c : Mem}
    (hd : d.IsValue enc) (he : d.flags.has MEM_Ephem = false) (ha : c.szMalloc = c.zMalloc.length)
    (w : κ) : ∃ c' w', Mem.c_sqlite3VdbeMemShallowCopy L d MEM_Static c w = (c', w') ∧
      columnOut L c' w' = .ok (.result SQLITE_OK, c', w') ∧ ColumnIs enc (some d) none c' ∧
      ∀ b, B.Same row view b w b w' := by
  have hc := columnIs_shallowCopy L hd he ha w
  have he' : (Mem.c_sqlite3VdbeMemShallowCopy L d MEM_Static c w).1.flags.has MEM_Ephem = false := by
    cases hc with
    | default _ _ he => exact he
  refine ⟨(Mem.c_sqlite3VdbeMemShallowCopy L d MEM_Static c w).1,
    (Mem.c_sqlite3VdbeMemShallowCopy L d MEM_Static c w).2, rfl, columnOut_of_not_ephem L he' _, hc,
    fun b => ?_⟩
  -- Only a value that the register had is destroyed.
  unfold Mem.c_sqlite3VdbeMemShallowCopy Mem.vdbeMemClearExternAndSetNull
  cases VdbeMemDynamic c.flags
  · exact .refl b w
  · exact hB.destroy c b w

/-- `OP_Column` leaves the column of the row that the cursor is on, as decoding the whole record
would give it, whatever part of the header was parsed before. -/
theorem impl_OP_Column_spec (hB : B.Holds L key row view) (hL : L.Sized) (hkey : pC.isTable = !key)
    (hk : pC.Keeps B row nField w) {cacheCtr : ℕ} (hctr : cacheCtr ≠ CACHE_STALE) {op : Op}
    (hp2 : op.p2.toNat < nField)
    (hp5 : op.p5_has (OPFLAG_LENGTHARG ||| OPFLAG_TYPEOFARG) = false) {enc : ℕ} {p4 : Option Mem}
    (hp4 : DefaultOk enc p4) {pDest : Mem} (ha : pDest.szMalloc = pDest.zMalloc.length) (limit : ℤ)
    (payloadSize64 : List Byte) (pReg : Option Mem) :
    ∃ exit pC' c w', impl_OP_Column L B enc limit cacheCtr payloadSize64 op p4 pReg pC pDest w =
        .ok (exit, pC', c, w') ∧ pC.Brought B row view w exit pC' w' ∧
      ReadsColumn L B key row nField enc limit op.p2.toNat p4 exit pC' c w' := by
  obtain ⟨rc, pC₁, w₁, b, hmove, hb, htable₁, hplaced⟩ := sqlite3VdbeCursorMoveto_spec hB hk
  unfold impl_OP_Column
  rw [hmove]
  dsimp only [Bind.bind, Except.bind, Pure.pure, Except.pure]
  by_cases hrc : rc = SQLITE_OK
  swap
  · rw [if_pos hrc]
    exact ⟨_, _, _, _, rfl,
      ⟨rc, pC₁, w₁, hmove, Or.inl ⟨rfl, hrc⟩, .refl pC₁, b, b, hb, hb, .refl b w₁⟩, .of_abort⟩
  rw [if_neg (not_not.mpr hrc)]
  have hbrought : ∀ {exit : ColumnExit} {pC' : ColumnCursor β} {b' : β} {w' : κ},
      (∀ rc', exit ≠ .abort_due_to_error rc') → pC₁.Alike pC' → pC'.pCursor = some b' →
      B.Same row view b w₁ b' w' → pC.Brought B row view w exit pC' w' :=
    fun hexit halike hb' hsame =>
      ⟨rc, pC₁, w₁, hmove, Or.inr ⟨hrc, hexit⟩, halike, b, _, hb, hb', hsame⟩
  obtain ⟨hk₁, hplace⟩ := hplaced hrc
  obtain ⟨found, pC₂, hrow, hcursor, halike₂, hcase⟩ :=
    columnRow_spec hB (htable₁.trans hkey) hk₁ hplace hctr limit pReg
  rw [hrow]
  dsimp only
  have hkey₂ := halike₂.isTable_eq.trans (htable₁.trans hkey)
  rcases hcase with ⟨rfl, rfl, hnull⟩ | ⟨r, hon, hcase⟩
  · -- The cursor is on no row.
    obtain ⟨hout, hs⟩ := columnOut_setNull L ha enc w₁
    dsimp only
    rw [hout]
    exact ⟨_, _, _, _, rfl, hbrought (fun _ h => nomatch h) halike₂ hb (hB.setNull pDest b w₁),
      .of_ok (hk₁.of_same fun b => hB.setNull pDest b w₁) (Or.inl ⟨hnull, hs⟩)⟩
  have hbad : ∀ {pC' : ColumnCursor β} {c : Mem} {w' : κ} {rc : ℕ}, rc ≠ SQLITE_OK →
      ((rc = SQLITE_CORRUPT ∧ pC'.On B row w' r ∧ r.types (op.p2.toNat + 1) = none) ∨
        B.Fails L key rc) →
      ReadsColumn L B key row nField enc limit op.p2.toNat p4 (.result rc) pC' c w' := by
    intro pC' c w' rc hrc h
    refine .of_error hrc (h.imp_left fun ⟨hcorrupt, hon', htypes⟩ => ⟨hcorrupt, r, hon', ?_⟩)
    unfold Row.column Row.fieldAt
    rw [htypes]
    rfl
  obtain ⟨hnull, b', hb', hmoved, hr⟩ := hon
  obtain rfl : b = b' := Option.some.inj (hb.symm.trans hb')
  have hb₂ := hcursor.trans hb
  have hn₂ := halike₂.nullRow_eq.trans hnull
  rcases hcase with ⟨rfl, hd, hstatus⟩ | ⟨rfl, hbig⟩ | ⟨rfl, htypes⟩
  · dsimp only
    obtain ⟨rc, pC₃, b₃, w₃, hheader, hb₃, hsame₃, halike, hcase⟩ :=
      columnHeader_spec hB hL hkey₂ hb₂ hr hd hp2
    have hon₃ : pC₃.On B row w₃ r := .of_same hmoved hr hb₃ (halike.nullRow_eq.trans hn₂) hsame₃
    have halike₃ := halike₂.trans halike
    have hkey₃ := halike.isTable_eq.trans hkey₂
    rw [hheader]
    dsimp only
    rcases hcase with ⟨rfl, hd₃, hend⟩ | hcase
    · rw [if_neg (by simp)]
      by_cases hfew : pC₃.row.nHdrParsed ≤ op.p2.toNat
      · -- The record has fewer columns.
        rw [if_pos hfew]
        have hcolumn : r.column op.p2.toNat = some none := by
          unfold Row.column
          rw [hd₃.fieldAt_of_le hfew (hend.resolve_left (by omega))]
          rfl
        cases p4 with
        | none =>
          obtain ⟨hout, hs⟩ := columnOut_setNull L ha enc w₃
          dsimp only
          rw [hout]
          have hw := fun b => hB.setNull pDest b w₃
          exact ⟨_, _, _, _, rfl, hbrought (fun _ h => nomatch h) halike₃ hb₃ (hsame₃.trans (hw b₃)),
            .of_ok ((hon₃.of_world hw).keeps hd₃)
              (Or.inr ⟨r, none, hon₃.of_world hw, hcolumn, .null hs⟩)⟩
        | some d =>
          obtain ⟨hvalue, heph⟩ := hp4 d rfl
          obtain ⟨c, w₄, hcopy, hout, hc, hw⟩ := columnOut_shallowCopy hB hvalue heph ha w₃
          dsimp only
          rw [hcopy]
          dsimp only
          rw [hout]
          exact ⟨_, _, _, _, rfl, hbrought (fun _ h => nomatch h) halike₃ hb₃ (hsame₃.trans (hw b₃)),
            .of_ok ((hon₃.of_world hw).keeps hd₃)
              (Or.inr ⟨r, none, hon₃.of_world hw, hcolumn, hc⟩)⟩
      · -- The record has the column.
        rw [if_neg hfew]
        obtain ⟨hnull₃, b₃', hb₃', hmoved₃, hr₃⟩ := hon₃
        obtain rfl : b₃ = b₃' := Option.some.inj (hb₃.symm.trans hb₃')
        have hparsed : op.p2.toNat < pC₃.row.nHdrParsed := by omega
        obtain ⟨rc, pC₄, q, b₄, w₄, v, hcontent, rfl, hsame₄, hcolumn, hcase⟩ :=
          columnContent_spec hB hL hkey₃ hb₃ hr₃ hd₃ hparsed hp5 ha payloadSize64 enc
        have hon₄ : ColumnCursor.On B row { pC₃ with pCursor := some b₄ } w₄ r :=
          .of_same hmoved₃ hr₃ rfl hnull₃ hsame₄
        have halike₄ : pC₁.Alike { pC₃ with pCursor := some b₄ } :=
          halike₃.trans ⟨rfl, rfl, rfl, rfl⟩
        have hsame := hsame₃.trans hsame₄
        rw [hcontent]
        dsimp only
        rcases hcase with ⟨rfl, exit, c, w₅, hout, halloc, hexit⟩ | hfail
        · rw [if_neg (by simp), hout]
          have hw := fun b => hB.allocates halloc b
          have hsame₅ := hsame.trans (hw b₄)
          rcases hexit with ⟨rfl, hs⟩ | ⟨rfl, hout'⟩
          · exact ⟨_, _, _, _, rfl, hbrought (fun _ h => nomatch h) halike₄ rfl hsame₅,
              .of_ok ((hon₄.of_world hw).keeps hd₃)
                (Or.inr ⟨r, some v, hon₄.of_world hw, hcolumn, .value hs⟩)⟩
          · exact ⟨_, _, _, _, rfl, hbrought (fun _ h => nomatch h) halike₄ rfl hsame₅,
              .of_no_mem hout'⟩
        · rw [if_pos hfail.1]
          exact ⟨_, _, _, _, rfl, hbrought (fun _ h => nomatch h) halike₄ rfl hsame,
            hbad hfail.1 (Or.inr hfail)⟩
    · -- The header is corrupt, or could not be read.
      have hrc : rc ≠ SQLITE_OK := by
        rcases hcase with ⟨rfl, -⟩ | hfail
        · decide
        · exact hfail.1
      rw [if_pos hrc]
      refine ⟨_, _, _, _, rfl, hbrought (fun _ h => nomatch h) halike₃ hb₃ hsame₃, hbad hrc ?_⟩
      exact hcase.imp_left fun ⟨hcorrupt, htypes⟩ => ⟨hcorrupt, hon₃, htypes⟩
  · -- The record is longer than the limit.
    have hsame : B.Same row view b w₁ b w₁ := .refl b w₁
    exact ⟨_, _, _, _, rfl, hbrought (fun _ h => nomatch h) halike₂ hb₂ hsame,
      .of_too_big ⟨r, .of_same hmoved hr hb₂ hn₂ hsame, hbig⟩⟩
  · -- The size of the header cannot be right.
    have hsame : B.Same row view b w₁ b w₁ := .refl b w₁
    exact ⟨_, _, _, _, rfl, hbrought (fun _ h => nomatch h) halike₂ hb₂ hsame,
      hbad (by decide) (Or.inl ⟨rfl, .of_same hmoved hr hb₂ hn₂ hsame, htypes _⟩)⟩

end spec

end SQPyte
