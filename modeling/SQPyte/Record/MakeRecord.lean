import SQPyte.Record.Format
import SQPyte.Vdbe.Op
import SQPyte.Mem.Allocation

/-!
# The opcode `OP_MakeRecord`

`OP_MakeRecord` goes over the registers twice. The first pass (`recordSizeStep`) chooses the serial
types and adds up the sizes, the second (`recordWriteStep`) writes the header entry and the content
of each field. Implied zeros at the end of a blob are stored before it is written if there is data
before it. Otherwise they are to be implied at the end of the record too.
-/

namespace SQPyte

open Commands

variable {ρ : Type} (L : CLib ρ)

/-- An entry of `types_lengths_and_hdrlens`. -/
structure RecordField where
  /-- The serial type. -/
  serial_type : ℕ
  /-- The length of the content. -/
  length : ℕ
  /-- The length of the serial type in the header. -/
  hdrlen : ℕ
deriving DecidableEq, Repr

/-- `_type_size_and_hdrsize`. -/
def _type_size_and_hdrsize (serial_type : ℕ) : RecordField :=
  ⟨serial_type, SIZE_INFO_OF_SERIAL_TYPES.getD serial_type 0, 1⟩

/-- `Mem.sqlite3VdbeSerialType_Len_and_HdrLen`. -/
def sqlite3VdbeSerialType_Len_and_HdrLen (self file_format : ℕ) : MemM ρ RecordField := do
  let flags ← get_flags self
  if flags.has MEM_Null then return _type_size_and_hdrsize 0
  else if flags.has MEM_Int then
    return _type_size_and_hdrsize (_get_serial_type_of_int_hidden (← get_u_i self) file_format)
  else if flags.has MEM_Real then return _type_size_and_hdrsize 7
  else
    let n ← peek self fun pMem => if flags.has MEM_Zero then pMem.n + pMem.u_nZero else pMem.n
    pyAssert (0 ≤ n)
    let serial_type := n.toNat * 2 + (12 + if flags.has MEM_Str then 1 else 0)
    return ⟨serial_type, n.toNat, if serial_type ≤ 127 then 1 else sqlite3VarintLen serial_type⟩

/-- `Mem.memIsValid`. -/
def memIsValid (self : ℕ) : MemM ρ Bool := do return !(← get_flags self).has MEM_Undefined

/-! ## The buffer of the record -/

/-- Replaces the bytes of `z` from offset `at_` on by `bs`. -/
def overwrite (at_ : ℕ) (bs z : List Byte) : List Byte := z.take at_ ++ bs ++ z.drop (at_ + bs.length)

/-- A write to the cell's own allocation. -/
def overwriteOwn (at_ : ℕ) (bs : List Byte) : FieldUpdate where
  write m := { m with zMalloc := overwrite at_ bs m.zMalloc }
  flags_eq _ := rfl
  u_eq _ := rfl

/-- Writes `bs` at offset `at_` of `zNewRecord`, the allocation of `pOut`. -/
def putBytes (pOut at_ : ℕ) (bs : List Byte) : MemM ρ Unit := do
  if at_ + bs.length ≤ (← peek pOut fun pMem => pMem.zMalloc.length) then
    poke pOut (overwriteOwn at_ bs)
  else throwExc .memory

/-- `putVarint32`. -/
def putVarint32 (buf : ℕ) (val index : ℕ) : MemM ρ ℕ := do
  if val < 0x80 then
    putBytes buf index [UInt8.ofNat val]
    return 1
  else
    putBytes buf index (Varint.encode val)
    return (Varint.encode val).length

/-- `_write_int_to_buf`. -/
def _write_int_to_buf (pOut buf : ℕ) (v : BitVec 64) (length : ℕ) : MemM ρ Unit :=
  putBytes pOut buf (BigEndian.toBytes length v.toNat)

/-- `Mem._sqlite3VdbeSerialPut_with_length`, to offset `buf` of `zNewRecord`. -/
def _sqlite3VdbeSerialPut_with_length (self pOut buf length : ℕ) : MemM ρ ℕ := do
  let flags ← get_flags self
  if flags.has MEM_Null then return 0
  else if flags.has (MEM_Int ||| MEM_Real) then
    if flags.has MEM_Int then
      _write_int_to_buf pOut buf (BitVec.ofInt 64 (← get_u_i self)) length
    else _write_int_to_buf pOut buf (← get_u_r self) length
    return length
  else
    let z ← peek self Mem.buffer
    -- The C code reads as many bytes as it is told.
    if length ≤ z.length then
      putBytes pOut buf (z.take length)
      return length
    else throwExc .memory

/-! ## The opcode -/

/-- What the first pass adds up. -/
structure RecordSize where
  /-- `types_lengths_and_hdrlens`. -/
  fields : List RecordField := []
  /-- Number of bytes of data space. -/
  nData : ℤ := 0
  /-- Number of bytes of header space. -/
  nHdr : ℕ := 0
  /-- Number of zero bytes at the end of the record. -/
  nZero : ℤ := 0

/-- The body of the first loop. -/
def recordSizeStep (file_format : ℕ) (memindex : ℤ) (s : RecordSize) : MemM ρ RecordSize := do
  let pRec ← mem_with_index memindex
  pyAssert (← memIsValid pRec)
  let field ← sqlite3VdbeSerialType_Len_and_HdrLen pRec file_format
  let fields := s.fields ++ [field]
  let nHdr := s.nHdr + field.hdrlen
  if (← get_flags pRec).has MEM_Zero then
    if s.nData ≠ 0 then
      let _ ← ExpandBlob L pRec
      return ⟨fields, s.nData + field.length, nHdr, s.nZero⟩
    else
      let nZero ← peek pRec Mem.u_nZero
      let nZero := nZero + nZero
      return ⟨fields, s.nData + (field.length - nZero), nHdr, nZero⟩
  else return ⟨fields, s.nData + field.length, nHdr, s.nZero⟩

/-- Where the second pass is. -/
structure RecordWrite where
  /-- Space used in the header. -/
  i : ℕ
  /-- `curr_content_ptr`, as an offset. -/
  content : ℕ
  /-- The entries of `types_lengths_and_hdrlens` from `index` on. -/
  fields : List RecordField

/-- The header entry of a field, at offset `i`: how long it is. -/
def putSerialType (pOut i : ℕ) (field : RecordField) : MemM ρ ℕ := do
  if field.hdrlen = 1 then
    putBytes pOut i [UInt8.ofNat field.serial_type]
    return 1
  else putVarint32 pOut field.serial_type i

/-- The body of the second loop. -/
def recordWriteStep (pOut : ℕ) (memindex : ℤ) (s : RecordWrite) : MemM ρ RecordWrite := do
  let pRec ← mem_with_index memindex
  match s.fields with
  | [] => throwExc .index
  | field :: fields =>
    let hdrlen ← putSerialType pOut s.i field
    let addj ← _sqlite3VdbeSerialPut_with_length pRec pOut s.content field.length
    pyAssert (addj == field.length)
    return ⟨s.i + hdrlen, s.content + field.length, fields⟩

/-- `pOut.set_n(n)`. -/
def setN (n : ℤ) : FieldUpdate where
  write m := { m with n := n }
  flags_eq _ := rfl
  u_eq _ := rfl

/-- `pOut.set_xDel_null()`. -/
def setXDelNull : FieldUpdate where
  write m := { m with xDel := false }
  flags_eq _ := rfl
  u_eq _ := rfl

/-- `pOut.set_enc_utf8()`. -/
def setEncUtf8 : FieldUpdate where
  write m := { m with enc := SQLITE_UTF8 }
  flags_eq _ := rfl
  u_eq _ := rfl

/-- How the encoding ends. -/
inductive RecordEnd where
  /-- The record is in the output register. -/
  | done
  /-- `goto too_big`. -/
  | too_big
  /-- `goto no_mem`. -/
  | no_mem
deriving DecidableEq

/-- The second pass, and what `OP_MakeRecord` leaves in the output register. -/
def writeRecord (pOut : ℕ) (data0 : ℤ) (nField : ℕ) (size : RecordSize) : MemM ρ RecordEnd := do
  let nHdr := headerSize size.nHdr
  let i ← putVarint32 pOut nHdr 0
  let w ← Prog.forRange data0 nField ⟨i, nHdr, size.fields⟩ (recordWriteStep pOut)
  pyAssert (w.i == nHdr)
  poke pOut (setN (nHdr + size.nData))
  set_flags pOut MEM_Blob
  poke pOut setXDelNull
  if size.nZero ≠ 0 then
    set_u_nZero pOut size.nZero
    set_flags pOut ((← get_flags pOut) ||| MEM_Zero)
  poke pOut setEncUtf8
  return .done

/-- `OP_MakeRecord` from the first loop on, in a database with the length limit `limit`. -/
def makeRecord (file_format : ℕ) (limit : ℤ) (pOut : ℕ) (data0 : ℤ) (nField : ℕ) :
    MemM ρ RecordEnd := do
  let size ← Prog.forRange data0 nField {} (recordSizeStep L file_format)
  let nByte := headerSize size.nHdr + size.nData
  if nByte > limit then return .too_big
  else
    if (← sqlite3VdbeMemGrow L pOut nByte false) ≠ SQLITE_OK then return .no_mem
    else writeRecord pOut data0 nField size

/-- The affinity loop of `OP_MakeRecord`. Its index `j` stays 0. -/
def recordAffinity (enc : ℕ) (zAffinity : List Byte) (data0 : ℤ) (nField : ℕ) : MemM ρ Unit :=
  match zAffinity with
  | [] => pure ()
  | z :: _ => Prog.forRange data0 nField () fun memindex _ => do
      applyAffinity L (← mem_with_index memindex) z.toNat enc

/-- `OP_MakeRecord`. -/
def OP_MakeRecord (V : CVdbe ρ) (enc file_format : ℕ) (limit : ℤ) (rc : ℕ) (op : Op) : MemM ρ ℕ := do
  let pOut ← op.mem_of_p3
  recordAffinity L enc op.p4_z op.p1 op.p2.toNat
  match ← makeRecord L file_format limit pOut op.p1 op.p2.toNat with
  | .done => return rc
  | .too_big => c_mems fun mems r => .ok (V.gotoTooBig mems r)
  | .no_mem => c_mems fun mems r => .ok (V.gotoNoMem mems r)

/-- `OP_Affinity`. -/
def OP_Affinity (enc : ℕ) (op : Op) : MemM ρ Unit := do
  let zAffinity := op.p4_z
  pyAssert (zAffinity.length == op.p2)
  Prog.forRange op.p1 op.p2.toNat () fun index _ => do
    let pRec ← mem_with_index index
    match zAffinity[(index - op.p1).toNat]? with
    | some z => applyAffinity L pRec z.toNat enc
    | none => throwExc .index

end SQPyte
