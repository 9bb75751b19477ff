import SQPyte.Mem.Cell

/-!
# The C routines on one cell

The routines of `vdbemem.c`, `vdbe.c` and `vdbeaux.c` that the methods of `Mem` call, as functions
of the cell. What they need of the C library and of `util.c` is a parameter: the allocator, the
destructors, the parsing and printing of numbers, and the translation between text encodings.
-/

namespace SQPyte

/-- `SQLITE_OK`. -/
def SQLITE_OK : ℕ := 0
/-- `SQLITE_NOMEM`. -/
def SQLITE_NOMEM : ℕ := 7

/-- `SQLITE_AFF_NONE`. -/
def SQLITE_AFF_NONE : ℕ := 65
/-- `SQLITE_AFF_TEXT`. -/
def SQLITE_AFF_TEXT : ℕ := 66
/-- `SQLITE_AFF_NUMERIC`. -/
def SQLITE_AFF_NUMERIC : ℕ := 67
/-- `SQLITE_AFF_INTEGER`. -/
def SQLITE_AFF_INTEGER : ℕ := 68
/-- `SQLITE_AFF_REAL`. -/
def SQLITE_AFF_REAL : ℕ := 69

/-- What the routines call. `ρ` is the state outside the cell. -/
structure CLib (ρ : Type) where
  /-- `sqlite3DbMallocRaw`: a block of at least the requested size with arbitrary content. -/
  malloc : ℕ → ρ → Option (List Byte) × ρ
  /-- The destructor or finaliser of a cell that owns something outside its buffer. -/
  destroy : Mem → ρ → ρ
  /-- `sqlite3AtoF(z, &r, n, enc)`: whether the text is a number, and the value `r`. -/
  AtoF : List Byte → ℤ → ℕ → Bool × Binary64
  /-- `sqlite3Atoi64(z, &i, n, enc)`: zero if the text is an integer in range, and the value `i`. -/
  Atoi64 : List Byte → ℤ → ℕ → ℕ × ℤ
  /-- `sqlite3_snprintf` with `%lld`. -/
  printInt : ℤ → List Byte
  /-- `sqlite3_snprintf` with `%!.15g`. -/
  printReal : Binary64 → List Byte
  /-- `sqlite3VdbeMemTranslate`. -/
  translate : ℕ → Mem → ρ → Mem × ρ

/-- `CollSeq`: the encoding and the function of a collation, and the conversion of a text to that
encoding where it has another. -/
structure CollSeq where
  /-- Text encoding handled by `xCmp`. -/
  enc : ℕ
  /-- The comparison. -/
  xCmp : List Byte → List Byte → ℤ
  /-- `sqlite3ValueText` on a copy of the cell. -/
  convert : Mem → List Byte

namespace Mem

variable {ρ : Type} (L : CLib ρ)

/-- `vdbeMemClearExternAndSetNull`. -/
def vdbeMemClearExternAndSetNull (p : Mem) (r : ρ) : Mem × ρ :=
  ({ p with flags := MEM_Null }, L.destroy p r)

/-- `sqlite3VdbeMemSetNull`. -/
def sqlite3VdbeMemSetNull (p : Mem) (r : ρ) : Mem × ρ :=
  if VdbeMemDynamic p.flags then p.vdbeMemClearExternAndSetNull L r
  else ({ p with flags := MEM_Null }, r)

/-- The allocation that `sqlite3VdbeMemGrow` gets for `n` bytes, and whether the old content is in
it already. -/
def growAlloc (n : ℕ) (bPreserve : Bool) (p : Mem) (r : ρ) : Option (Mem × Bool) × ρ :=
  let realloc := bPreserve && p.szMalloc > 0 && p.z == .own
  match L.malloc n r with
  | (none, r) => (none, r)
  | (some block, r) =>
    let block := if realloc then p.zMalloc.take block.length ++ block.drop p.zMalloc.length else block
    (some ({ p with zMalloc := block, szMalloc := block.length, z := if realloc then .own else p.z },
      bPreserve && !realloc), r)

/-- The end of `sqlite3VdbeMemGrow`: the content is copied if that is still to be done, and `z` is
set to the allocation. -/
def growFinish (bPreserve : Bool) (p : Mem) (r : ρ) : Except Exc (Mem × ρ) :=
  let r := if p.flags.has MEM_Dyn then L.destroy p r else r
  let flags := p.flags &&& ~~~(MEM_Dyn ||| MEM_Ephem ||| MEM_Static)
  match p.z with
  | .ext z =>
    if bPreserve then
      if p.n.toNat ≤ z.length ∧ p.n.toNat ≤ p.zMalloc.length then
        .ok ({ p with
          zMalloc := z.take p.n.toNat ++ p.zMalloc.drop p.n.toNat, z := .own, flags := flags }, r)
      else .error .memory
    else .ok ({ p with z := .own, flags := flags }, r)
  | _ => .ok ({ p with z := .own, flags := flags }, r)

/-- `sqlite3VdbeMemGrow`. -/
def sqlite3VdbeMemGrow (n : ℤ) (bPreserve : Bool) (p : Mem) (r : ρ) : Except Exc (ℕ × Mem × ρ) :=
  if (p.szMalloc : ℤ) < n then
    match p.growAlloc L (max n 32).toNat bPreserve r with
    | (none, r) =>
      let (p, r) := p.sqlite3VdbeMemSetNull L r
      .ok (SQLITE_NOMEM, { p with z := .null, zMalloc := [], szMalloc := 0 }, r)
    | (some (p, bPreserve), r) => do
      let (p, r) ← p.growFinish L bPreserve r
      .ok (SQLITE_OK, p, r)
  else do
    let (p, r) ← p.growFinish L bPreserve r
    .ok (SQLITE_OK, p, r)

/-- `sqlite3VdbeMemClearAndResize`. -/
def sqlite3VdbeMemClearAndResize (szNew : ℕ) (p : Mem) (r : ρ) : Except Exc (ℕ × Mem × ρ) :=
  if p.szMalloc < szNew then p.sqlite3VdbeMemGrow L szNew false r
  else
    .ok (SQLITE_OK,
      { p with z := .own, flags := p.flags &&& (MEM_Null ||| MEM_Int ||| MEM_Real) }, r)

/-- Writes `bs` at offset `at_` of the cell's own allocation. -/
def writeOwn (at_ : ℕ) (bs : List Byte) (p : Mem) : Except Exc Mem :=
  if at_ + bs.length ≤ p.zMalloc.length then
    .ok { p with zMalloc := p.zMalloc.take at_ ++ bs ++ p.zMalloc.drop (at_ + bs.length) }
  else .error .memory

/-- `sqlite3VdbeMemExpandBlob`. -/
def sqlite3VdbeMemExpandBlob (p : Mem) (r : ρ) : Except Exc (ℕ × Mem × ρ) :=
  if p.flags.has MEM_Zero then do
    let nByte := p.n + p.u_nZero
    let nByte := if nByte ≤ 0 then 1 else nByte
    let (rc, p, r) ← p.sqlite3VdbeMemGrow L nByte true r
    if rc ≠ SQLITE_OK then .ok (SQLITE_NOMEM, p, r)
    else do
      let p ← p.writeOwn p.n.toNat (List.replicate p.u_nZero.toNat 0)
      .ok (SQLITE_OK, { p with
        n := p.n + p.u_nZero, flags := p.flags &&& ~~~(MEM_Zero ||| MEM_Term) }, r)
  else .ok (SQLITE_OK, p, r)

/-- `sqlite3VdbeChangeEncoding`. -/
def sqlite3VdbeChangeEncoding (desiredEnc : ℕ) (p : Mem) (r : ρ) : Mem × ρ :=
  if !p.flags.has MEM_Str || p.enc == desiredEnc then (p, r) else L.translate desiredEnc p r

/-- `sqlite3VdbeMemStringify`. -/
def sqlite3VdbeMemStringify (enc : ℕ) (bForce : Bool) (p : Mem) (r : ρ) :
    Except Exc (ℕ × Mem × ρ) := do
  let fg := p.flags
  let (rc, p, r) ← p.sqlite3VdbeMemClearAndResize L 32 r
  if rc ≠ SQLITE_OK then .ok (SQLITE_NOMEM, p, r)
  else do
    let text := if fg.has MEM_Int then L.printInt p.u_i else L.printReal p.u_r
    let p ← p.writeOwn 0 (text ++ [0])
    let flags := p.flags ||| (MEM_Str ||| MEM_Term)
    let flags := if bForce then flags &&& ~~~(MEM_Int ||| MEM_Real) else flags
    let (p, r) := { p with n := text.length, enc := SQLITE_UTF8, flags := flags }
      |>.sqlite3VdbeChangeEncoding L enc r
    .ok (SQLITE_OK, p, r)

/-- `doubleToInt64`. -/
def doubleToInt64 (r : Binary64) : ℤ :=
  if r.le (Binary64.ofInt (-2^63)) then -2^63
  else if (Binary64.ofInt (2^63 - 1)).le r then 2^63 - 1
  else r.toInt64

/-- `sqlite3VdbeIntegerAffinity` of `vdbemem.c`. -/
def sqlite3VdbeIntegerAffinity (p : Mem) : Mem :=
  let ix := doubleToInt64 p.u_r
  if p.u_r.feq (Binary64.ofInt ix) && ix > -2^63 && ix < 2^63 - 1 then
    { p with u := BitVec.ofInt 64 ix, flags := withTypeFlag p.flags MEM_Int }
  else p

/-- `applyNumericAffinity` of `vdbe.c`. -/
def applyNumericAffinity (bTryForInt : Bool) (p : Mem) : Mem :=
  let (isNumber, rValue) := L.AtoF p.buffer p.n p.enc
  if !isNumber then p
  else
    let (rc, iValue) := L.Atoi64 p.buffer p.n p.enc
    if rc = 0 then { p with u := BitVec.ofInt 64 iValue, flags := p.flags ||| MEM_Int }
    else
      let p := { p with u := rValue, flags := p.flags ||| MEM_Real }
      if bTryForInt then p.sqlite3VdbeIntegerAffinity else p

/-- `applyAffinity` of `vdbe.c`. -/
def applyAffinity (affinity enc : ℕ) (p : Mem) (r : ρ) : Except Exc (Mem × ρ) :=
  if affinity ≥ SQLITE_AFF_NUMERIC then
    if !p.flags.has MEM_Int then
      if !p.flags.has MEM_Real then
        if p.flags.has MEM_Str then .ok (p.applyNumericAffinity L true, r) else .ok (p, r)
      else .ok (p.sqlite3VdbeIntegerAffinity, r)
    else .ok (p, r)
  else if affinity = SQLITE_AFF_TEXT then
    if !p.flags.has MEM_Str && p.flags.has (MEM_Real ||| MEM_Int) then
      (p.sqlite3VdbeMemStringify L enc true r).map Prod.snd
    else .ok (p, r)
  else .ok (p, r)

end Mem

/-! ## Comparison -/

/-- `memcmp` on the first bytes of both, up to the shorter. -/
def memcmp : List Byte → List Byte → ℤ
  | a :: as, b :: bs => if a = b then memcmp as bs else (a.toNat : ℤ) - b.toNat
  | _, _ => 0

/-- `sqlite3BlobCompare`. -/
def sqlite3BlobCompare (pB1 pB2 : Mem) : ℤ :=
  let c := memcmp pB1.bytes pB2.bytes
  if c ≠ 0 then c else pB1.n - pB2.n

/-- `vdbeCompareMemString`. -/
def vdbeCompareMemString (pMem1 pMem2 : Mem) (pColl : CollSeq) : ℤ :=
  if pMem1.enc = pColl.enc then pColl.xCmp pMem1.bytes pMem2.bytes
  else pColl.xCmp (pColl.convert pMem1) (pColl.convert pMem2)

/-- `MEM_Null` of a flag word as a number. -/
def nullBit (f : Flags) : ℤ := ((f &&& MEM_Null).toNat : ℤ)

/-- `sqlite3MemCompare` of `vdbeaux.c`. -/
def c_sqlite3MemCompare (pMem1 pMem2 : Mem) (pColl : Option CollSeq) : ℤ :=
  let f1 := pMem1.flags
  let f2 := pMem2.flags
  let combined_flags := f1 ||| f2
  if combined_flags.has MEM_Null then nullBit f2 - nullBit f1
  else if combined_flags.has (MEM_Int ||| MEM_Real) then
    if Flags.has (f1 &&& f2) MEM_Int then
      if pMem1.u_i < pMem2.u_i then -1 else if pMem1.u_i > pMem2.u_i then 1 else 0
    else if !f1.has MEM_Real && !f1.has MEM_Int then 1
    else if !f2.has MEM_Real && !f2.has MEM_Int then -1
    else
      let r1 := if f1.has MEM_Real then pMem1.u_r else Binary64.ofInt pMem1.u_i
      let r2 := if f2.has MEM_Real then pMem2.u_r else Binary64.ofInt pMem2.u_i
      if r1.lt r2 then -1 else if r2.lt r1 then 1 else 0
  else if combined_flags.has MEM_Str then
    if !f1.has MEM_Str then 1
    else if !f2.has MEM_Str then -1
    else
      match pColl with
      | some pColl => vdbeCompareMemString pMem1 pMem2 pColl
      | none => sqlite3BlobCompare pMem1 pMem2
  else sqlite3BlobCompare pMem1 pMem2

end SQPyte
