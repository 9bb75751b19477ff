import Mathlib.Data.PNat.Notation
import Mathlib.Logic.Function.Basic
import SQPyte.Mem.Cell

/-!
# The buffers of the cells

Here the pointers `z` and `zMalloc` of a cell are addresses, so that two cells can point to one
allocation and an allocation can be freed twice. What is in the buffers is left out. The cells are
read without the flag cache, which does not change what a read gives.

A read through a pointer to an allocation that has been freed is a fault, as is a write or another
free. `sqlite3DbMallocRaw` is a parameter, which returns any address that is not live. The destructors of
values outside the cells are a parameter too; a cell that owns nothing never gets to them.
-/

namespace SQPyte.Buffers

/-- An address. -/
inductive Ptr where
  | null
  /-- An allocation, live or not. -/
  | heap (a : ℕ)
  /-- Memory that no cell manages. -/
  | ext (id : ℕ)
deriving DecidableEq, Repr

/-- The live allocations with their sizes. -/
abbrev Heap := ℕ → Option ℕ

/-- What goes wrong with a pointer. -/
inductive Fault where
  /-- An `assert` of the Python code failed. -/
  | assertion
  /-- What is freed is no live allocation. -/
  | free
  /-- What is written to is no live allocation. -/
  | write
  /-- What is read is an allocation that has been freed. -/
  | read
deriving DecidableEq, Repr

/-- The allocator of a connection. -/
structure Allocator where
  /-- `sqlite3DbMallocRaw`: an address and the size of what is there. -/
  malloc : Heap → ℕ → Option (ℕ × ℕ)
  /-- It is not in use. -/
  fresh : ∀ {h n a size}, malloc h n = some (a, size) → h a = none
  /-- It is large enough. -/
  enough : ∀ {h n a size}, malloc h n = some (a, size) → n ≤ size

/-- A memory cell with its pointers. -/
structure Cell where
  /-- Some combination of the `MEM_*` masks. -/
  flags : Flags
  /-- The word of the union `u`. -/
  u : BitVec 64
  /-- Number of characters in the string or blob value, excluding the terminator. -/
  n : ℤ
  /-- The text encoding. -/
  enc : ℕ
  /-- The string or blob value. -/
  z : Ptr
  /-- Space to hold `MEM_Str` or `MEM_Blob` if `szMalloc>0`. -/
  zMalloc : Ptr
  /-- Size of the `zMalloc` allocation. -/
  szMalloc : ℕ
deriving DecidableEq, Repr

/-- `u.nZero`. -/
def Cell.u_nZero (c : Cell) : ℤ := (c.u.setWidth 32).toInt

/-- The destructors of values outside the cells. -/
structure Destructors where
  /-- `vdbeMemClearExternAndSetNull`. -/
  vdbeMemClearExternAndSetNull : Cell → Heap → Except Fault (Cell × Heap)
  /-- `xDel(z)`. -/
  xDel : Ptr → Heap → Except Fault Heap

/-- `sqlite3DbFree`. -/
def sqlite3DbFree (p : Ptr) (h : Heap) : Except Fault Heap :=
  match p with
  | .null => .ok h
  | .heap a => if (h a).isSome then .ok (Function.update h a none) else .error .free
  | .ext _ => .error .free

/-- A write through a pointer to a buffer of a cell. -/
def writeTo (p : Ptr) (h : Heap) : Except Fault Unit :=
  match p with
  | .heap a => if (h a).isSome then .ok () else .error .write
  | _ => .error .write

/-- A read of `n` bytes through a pointer to a text or blob. -/
def readFrom (p : Ptr) (n : ℤ) (h : Heap) : Except Fault Unit :=
  match p with
  | .heap a => if n = 0 ∨ (h a).isSome then .ok () else .error .read
  | _ => .ok ()

/-- `sqlite3DbMallocSize`. -/
def sqlite3DbMallocSize (p : Ptr) (h : Heap) : ℕ :=
  match p with
  | .heap a => (h a).getD 0
  | _ => 0

variable (A : Allocator) (D : Destructors)

/-- `sqlite3DbMallocRaw`. -/
def sqlite3DbMallocRaw (n : ℕ) (h : Heap) : Ptr × Heap :=
  match A.malloc h n with
  | none => (.null, h)
  | some (a, size) => (.heap a, Function.update h a (some size))

/-! ## Functions of C -/

namespace Cell

/-- `sqlite3VdbeMemSetNull` of `vdbemem.c`. -/
def c_sqlite3VdbeMemSetNull (p : Cell) (h : Heap) : Except Fault (Cell × Heap) :=
  if VdbeMemDynamic p.flags then D.vdbeMemClearExternAndSetNull p h
  else .ok ({ p with flags := MEM_Null }, h)

/-- `sqlite3DbReallocOrFree`, or else `sqlite3DbFree` and `sqlite3DbMallocRaw`, for `n` bytes. The
`Bool` says whether the content is still to be copied. -/
def growAlloc (n : ℕ) (bPreserve : Bool) (p : Cell) (h : Heap) :
    Except Fault (Bool × Cell × Heap) := do
  -- `realloc` brings the content along, so nothing is left to copy.
  if bPreserve && 0 < p.szMalloc && p.z = p.zMalloc then
    let (z, h) := sqlite3DbMallocRaw A n (← sqlite3DbFree p.z h)
    return (false, { p with z := z, zMalloc := z }, h)
  else
    let h ← if 0 < p.szMalloc then sqlite3DbFree p.zMalloc h else pure h
    let (z, h) := sqlite3DbMallocRaw A n h
    return (bPreserve, { p with zMalloc := z }, h)

/-- The end of `sqlite3VdbeMemGrow`, with the `memcpy` of the content. -/
def growFinish (bPreserve : Bool) (p : Cell) (h : Heap) : Except Fault (Cell × Heap) := do
  -- `memcpy(pMem->zMalloc, pMem->z, pMem->n)`.
  if bPreserve && p.z ≠ .null && p.z ≠ p.zMalloc then
    readFrom p.z p.n h
    writeTo p.zMalloc h
  let h ← if p.flags.has MEM_Dyn then D.xDel p.z h else pure h
  return ({ p with
    z := p.zMalloc, flags := p.flags &&& ~~~(MEM_Dyn ||| MEM_Ephem ||| MEM_Static) }, h)

/-- `sqlite3VdbeMemGrow`. -/
def sqlite3VdbeMemGrow (n : ℤ) (bPreserve : Bool) (p : Cell) (h : Heap) :
    Except Fault (ℕ × Cell × Heap) := do
  if (p.szMalloc : ℤ) < n then
    let (bPreserve, p, h) ← p.growAlloc A (max n 32).toNat bPreserve h
    -- Out of memory. The C routine leaves a NULL, and `z` is set after it.
    if p.zMalloc = .null then
      let (p, h) ← p.c_sqlite3VdbeMemSetNull D h
      return (7, { p with z := .null, szMalloc := 0 }, h)
    else
      let p := { p with szMalloc := sqlite3DbMallocSize p.zMalloc h }
      let (p, h) ← p.growFinish D bPreserve h
      return (0, p, h)
  else
    let (p, h) ← p.growFinish D bPreserve h
    return (0, p, h)

/-- `sqlite3VdbeMemExpandBlob`, for a cell with `MEM_Zero`. -/
def sqlite3VdbeMemExpandBlob (p : Cell) (h : Heap) : Except Fault (ℕ × Cell × Heap) := do
  let nByte := p.n + p.u_nZero
  let nByte := if nByte ≤ 0 then 1 else nByte
  let (rc, p, h) ← p.sqlite3VdbeMemGrow A D nByte true h
  if rc ≠ 0 then return (7, p, h)
  else
    writeTo p.z h
    return (0, { p with
      n := p.n + p.u_nZero, flags := p.flags &&& ~~~(MEM_Zero ||| MEM_Term) }, h)

/-! ## Methods of Python -/

/-- `Mem.VdbeMemRelease`. -/
def VdbeMemRelease (self : Cell) (h : Heap) : Except Fault (Cell × Heap) :=
  if VdbeMemDynamic self.flags then D.vdbeMemClearExternAndSetNull self h else .ok (self, h)

/-- `Mem.vdbeMemClear`. -/
def vdbeMemClear (self : Cell) (h : Heap) : Except Fault (Cell × Heap) := do
  let (self, h) ← self.VdbeMemRelease D h
  if self.szMalloc ≠ 0 then
    let h ← sqlite3DbFree self.zMalloc h
    return ({ self with zMalloc := .null, z := .null }, h)
  else return ({ self with z := .null }, h)

/-- `Mem.sqlite3VdbeMemRelease`. -/
def sqlite3VdbeMemRelease (self : Cell) (h : Heap) : Except Fault (Cell × Heap) := do
  let (self, h) ← self.VdbeMemRelease D h
  if VdbeMemDynamic self.flags || self.szMalloc ≠ 0 then self.vdbeMemClear D h
  else return (self, h)

/-- `Mem.sqlite3VdbeMemSetInt64`. -/
def sqlite3VdbeMemSetInt64 (val : ℤ) (self : Cell) (h : Heap) : Except Fault (Cell × Heap) := do
  let (self, h) ←
    if self.flags ≠ MEM_Int then do
      let (self, h) ← self.sqlite3VdbeMemRelease D h
      pure ({ self with flags := MEM_Int }, h)
    else pure (self, h)
  return ({ self with u := BitVec.ofInt 64 val }, h)

/-- `Mem.sqlite3VdbeMemSetNull`. -/
def sqlite3VdbeMemSetNull (self : Cell) (h : Heap) : Except Fault (Cell × Heap) :=
  if self.flags.has MEM_Frame || self.flags.has MEM_RowSet then self.c_sqlite3VdbeMemSetNull D h
  else .ok ({ self with flags := withTypeFlag self.flags MEM_Null }, h)

/-- `Mem.sqlite3VdbeMemSetDouble`. -/
def sqlite3VdbeMemSetDouble (val : Binary64) (self : Cell) (h : Heap) :
    Except Fault (Cell × Heap) := do
  if val.isNaN then self.sqlite3VdbeMemSetNull D h
  else
    let (self, h) ←
      if self.flags ≠ MEM_Real then do
        let (self, h) ← self.sqlite3VdbeMemRelease D h
        pure ({ self with flags := MEM_Real }, h)
      else pure (self, h)
    return ({ self with u := val }, h)

/-- `Mem.ExpandBlob`. -/
def ExpandBlob (self : Cell) (h : Heap) : Except Fault (ℕ × Cell × Heap) :=
  if self.flags.has MEM_Zero then self.sqlite3VdbeMemExpandBlob A D h else .ok (0, self, h)

/-- `Mem.sqlite3VdbeMemMakeWriteable`. The flags that it sets in the end are those from before
`sqlite3VdbeMemGrow`. -/
def sqlite3VdbeMemMakeWriteable (self : Cell) (h : Heap) : Except Fault (Cell × Heap) := do
  if self.flags.has MEM_RowSet then throw .assertion
  let (_, self, h) ← self.ExpandBlob A D h
  let f := self.flags
  if f.has (MEM_Str ||| MEM_Blob) && self.z ≠ self.zMalloc then
    let (rc, self, h) ← self.sqlite3VdbeMemGrow A D (self.n + 2) true h
    if rc ≠ 0 then return (self, h)
    else
      writeTo self.z h
      return ({ self with flags := f ||| MEM_Term }, h)
  else return (self, h)

/-- `MEM_Ephem` or `MEM_Static`. -/
inductive SrcType where
  | ephem
  | static
deriving DecidableEq, Repr

/-- The mask of a `srcType`. -/
def SrcType.mask : SrcType → Flags
  | .ephem => MEM_Ephem
  | .static => MEM_Static

/-- The assignments of `Mem.sqlite3VdbeMemShallowCopy`. -/
def copyFields (self from_ : Cell) (srcType : SrcType) : Except Fault Cell := do
  let f := from_.flags
  -- The members of `u` are copied one by one, each as its flag says.
  let u := if f.has MEM_Real || f.has MEM_Int then from_.u else self.u
  let u := if f.has MEM_Zero then Mem.nZeroWord u from_.u_nZero else u
  if f.has MEM_Agg && f ≠ MEM_Agg then throw .assertion
  let u := if f.has MEM_Agg then from_.u else u
  if f.has MEM_Frame && f ≠ MEM_Frame then throw .assertion
  let u := if f.has MEM_Frame then from_.u else u
  let flags := if f.has MEM_Static then f
    else f &&& ~~~(MEM_Dyn ||| MEM_Static ||| MEM_Ephem) ||| srcType.mask
  return { self with u := u, enc := from_.enc, n := from_.n, z := from_.z, flags := flags }

end Cell

/-! ## Any number of cells -/

/-- The cells and the live allocations. -/
structure State (ι : Type) where
  /-- The cells. -/
  cells : ι → Cell
  /-- The live allocations. -/
  heap : Heap

/-- A register operation. -/
inductive Op (ι : Type) where
  | sqlite3VdbeMemMove (self from_ : ι)
  | sqlite3VdbeMemShallowCopy (self from_ : ι) (srcType : Cell.SrcType)
  | sqlite3VdbeMemMakeWriteable (self : ι)
  | sqlite3VdbeMemGrow (self : ι) (n : ℕ+) (bPreserve : Bool)
  | sqlite3VdbeMemRelease (self : ι)
  | vdbeMemClear (self : ι)
  | sqlite3VdbeMemSetInt64 (self : ι) (val : ℤ)
  | sqlite3VdbeMemSetDouble (self : ι) (val : Binary64)
  | sqlite3VdbeMemSetNull (self : ι)

variable {ι : Type} [DecidableEq ι]

/-- Writes one cell. -/
def State.set (s : State ι) (i : ι) (c : Cell) : State ι :=
  { s with cells := Function.update s.cells i c }

/-- A method of one cell. -/
def State.onCell (s : State ι) (i : ι) (f : Cell → Heap → Except Fault (Cell × Heap)) :
    Except Fault (State ι) := do
  let (c, h) ← f (s.cells i) s.heap
  return { cells := Function.update s.cells i c, heap := h }

/-- `Mem.sqlite3VdbeMemMove`. -/
def State.sqlite3VdbeMemMove (s : State ι) (self from_ : ι) : Except Fault (State ι) := do
  let s ← s.onCell self (Cell.sqlite3VdbeMemRelease D)
  let s := s.set self (s.cells from_)
  return s.set from_ { s.cells from_ with flags := MEM_Null, szMalloc := 0 }

/-- `Mem.sqlite3VdbeMemShallowCopy`. -/
def State.sqlite3VdbeMemShallowCopy (s : State ι) (self from_ : ι) (srcType : Cell.SrcType) :
    Except Fault (State ι) := do
  if (s.cells from_).flags.has MEM_RowSet then throw .assertion
  let s ← s.onCell self (Cell.VdbeMemRelease D)
  s.onCell self fun c h => do return (← c.copyFields (s.cells from_) srcType, h)

/-- One operation. -/
def State.step (s : State ι) : Op ι → Except Fault (State ι)
  | .sqlite3VdbeMemMove self from_ => s.sqlite3VdbeMemMove D self from_
  | .sqlite3VdbeMemShallowCopy self from_ srcType => s.sqlite3VdbeMemShallowCopy D self from_ srcType
  | .sqlite3VdbeMemMakeWriteable self => s.onCell self (Cell.sqlite3VdbeMemMakeWriteable A D)
  | .sqlite3VdbeMemGrow self n bPreserve =>
    s.onCell self fun c h => return (← c.sqlite3VdbeMemGrow A D n bPreserve h).2
  | .sqlite3VdbeMemRelease self => s.onCell self (Cell.sqlite3VdbeMemRelease D)
  | .vdbeMemClear self => s.onCell self (Cell.vdbeMemClear D)
  | .sqlite3VdbeMemSetInt64 self val => s.onCell self (Cell.sqlite3VdbeMemSetInt64 D val)
  | .sqlite3VdbeMemSetDouble self val => s.onCell self (Cell.sqlite3VdbeMemSetDouble D val)
  | .sqlite3VdbeMemSetNull self => s.onCell self (Cell.sqlite3VdbeMemSetNull D)

end SQPyte.Buffers
