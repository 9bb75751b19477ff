import SQPyte.Mem.Buffers

/-!
# The buffers of the cells with their contents

The cells with their pointers, as in `Buffers`, and with what is in the allocations. Memory that no
cell manages has contents too: the pages of the database, the constants of the program, the values
of the bound variables. Some of it never changes while the program runs.

A method that copies nothing is the one of `Buffers`, run on the sizes of the allocations
(`freeing`). Here are the methods that copy.
-/

namespace SQPyte.Memory

open Buffers (Ptr Cell Destructors)

/-- What goes wrong. -/
inductive Fault where
  /-- An `assert` of the Python code failed. -/
  | assertion
  /-- What is freed is no live allocation. -/
  | free
  /-- What is written to is no live allocation, or too small. -/
  | write
  /-- What is read is not there. -/
  | read
  /-- A `SQPyteException`. -/
  | sqpyte
deriving DecidableEq, Repr

/-- The faults that have to do with no contents. -/
def Fault.of : Buffers.Fault → Fault
  | .assertion => .assertion
  | .free => .free
  | .write => .write
  | .read => .read

/-- The allocator of a connection, with what it leaves in an allocation. -/
structure Allocator extends Buffers.Allocator where
  /-- What is in a new allocation, for its address and its size. -/
  content : ℕ → ℕ → List Byte
  /-- It is as long as the allocation. -/
  length_content : ∀ a size, (content a size).length = size

/-- The memory. -/
structure World where
  /-- The live allocations. -/
  heap : ℕ → Option (List Byte)
  /-- What no cell manages. -/
  ext : ℕ → List Byte

namespace World

/-- The live allocations with their sizes. -/
def sizes (w : World) : Buffers.Heap := fun a => (w.heap a).map List.length

/-- What is behind a pointer. -/
def content (w : World) : Ptr → List Byte
  | .null => []
  | .heap a => (w.heap a).getD []
  | .ext id => w.ext id

/-- One allocation is changed. -/
def set (w : World) (a : ℕ) (bs : Option (List Byte)) : World :=
  { w with heap := Function.update w.heap a bs }

/-- A read of `n` bytes, such as that of a `memcpy`. -/
def read (p : Ptr) (n : ℤ) (w : World) : Except Fault (List Byte) :=
  if 0 ≤ n ∧ n ≤ (w.content p).length then .ok ((w.content p).take n.toNat) else .error .read

/-- `bs` in the place of what is at `at_`. -/
def splice (at_ : ℕ) (bs old : List Byte) : List Byte :=
  old.take at_ ++ bs ++ old.drop (at_ + bs.length)

/-- A write of `bs` from `p[at_]` on. -/
def write (p : Ptr) (at_ : ℤ) (bs : List Byte) (w : World) : Except Fault World :=
  match p with
  | .heap a =>
    match w.heap a with
    | none => .error .write
    | some old =>
      if 0 ≤ at_ ∧ at_ + bs.length ≤ old.length then
        .ok (w.set a (some (splice at_.toNat bs old)))
      else .error .write
  | _ => .error .write

/-- `memset(&p[at_], 0, count)`. -/
def clear (p : Ptr) (at_ count : ℤ) (w : World) : Except Fault World :=
  if count < 0 then .error .write else w.write p at_ (List.replicate count.toNat 0)

/-- The memory with the allocations `h`, in which only those of a new size are not as they were. -/
def resized (A : Allocator) (w : World) (h : Buffers.Heap) : World where
  heap a := (h a).map fun size =>
    if w.sizes a = some size then (w.heap a).getD [] else A.content a size
  ext := w.ext

/-- `sqlite3DbFree`. -/
def sqlite3DbFree (p : Ptr) (w : World) : Except Fault World :=
  match p with
  | .null => .ok w
  | .heap a => if (w.heap a).isSome then .ok (w.set a none) else .error .free
  | .ext _ => .error .free

variable (A : Allocator)

/-- `sqlite3DbMallocRaw`. -/
def sqlite3DbMallocRaw (n : ℕ) (w : World) : Ptr × World :=
  match A.malloc w.sizes n with
  | none => (.null, w)
  | some (a, size) => (.heap a, w.set a (some (A.content a size)))

/-- `sqlite3DbReallocOrFree`. -/
def sqlite3DbReallocOrFree (p : Ptr) (n : ℕ) (w : World) : Except Fault (Ptr × World) := do
  let old := w.content p
  let w ← w.sqlite3DbFree p
  match A.malloc w.sizes n with
  | none => return (.null, w)
  | some (a, size) =>
    return (.heap a, w.set a (some (old.take size ++ (A.content a size).drop old.length)))

end World

/-- `sqlite3DbMallocSize`. -/
def sqlite3DbMallocSize (p : Ptr) (w : World) : ℕ := Buffers.sqlite3DbMallocSize p w.sizes

/-! ## The methods of a cell -/

variable (A : Allocator) (D : Destructors)

/-- A method that copies nothing. -/
def freeing (f : Cell → Buffers.Heap → Except Buffers.Fault (Cell × Buffers.Heap)) (c : Cell)
    (w : World) : Except Fault (Cell × World) :=
  match f c w.sizes with
  | .ok (c, h) => .ok (c, w.resized A h)
  | .error e => .error (.of e)

/-- `xDel(z)`. -/
def xDel (p : Ptr) (w : World) : Except Fault World :=
  match D.xDel p w.sizes with
  | .ok h => .ok (w.resized A h)
  | .error e => .error (.of e)

/-- `sqlite3DbReallocOrFree`, or else `sqlite3DbFree` and `sqlite3DbMallocRaw`, for `n` bytes. The
`Bool` says whether the content is still to be copied. -/
def growAlloc (n : ℕ) (bPreserve : Bool) (p : Cell) (w : World) :
    Except Fault (Bool × Cell × World) := do
  if bPreserve && 0 < p.szMalloc && p.z = p.zMalloc then
    let (z, w) ← w.sqlite3DbReallocOrFree A p.z n
    return (false, { p with z := z, zMalloc := z }, w)
  else
    let w ← if 0 < p.szMalloc then w.sqlite3DbFree p.zMalloc else pure w
    let (z, w) := w.sqlite3DbMallocRaw A n
    return (bPreserve, { p with zMalloc := z }, w)

/-- The end of `sqlite3VdbeMemGrow`. -/
def growFinish (bPreserve : Bool) (p : Cell) (w : World) : Except Fault (Cell × World) := do
  let w ←
    if bPreserve && p.z ≠ .null && p.z ≠ p.zMalloc then do
      let bs ← w.read p.z p.n
      w.write p.zMalloc 0 bs
    else pure w
  let w ← if p.flags.has MEM_Dyn then xDel A D p.z w else pure w
  return ({ p with
    z := p.zMalloc, flags := p.flags &&& ~~~(MEM_Dyn ||| MEM_Ephem ||| MEM_Static) }, w)

/-- `sqlite3VdbeMemGrow`. -/
def sqlite3VdbeMemGrow (n : ℤ) (bPreserve : Bool) (p : Cell) (w : World) :
    Except Fault (ℕ × Cell × World) := do
  if (p.szMalloc : ℤ) < n then
    let (bPreserve, p, w) ← growAlloc A (max n 32).toNat bPreserve p w
    if p.zMalloc = .null then
      let (p, w) ← freeing A (Cell.c_sqlite3VdbeMemSetNull D) p w
      return (7, { p with z := .null, szMalloc := 0 }, w)
    else
      let p := { p with szMalloc := sqlite3DbMallocSize p.zMalloc w }
      let (p, w) ← growFinish A D bPreserve p w
      return (0, p, w)
  else
    let (p, w) ← growFinish A D bPreserve p w
    return (0, p, w)

/-- `sqlite3VdbeMemExpandBlob`, for a cell with `MEM_Zero`. -/
def sqlite3VdbeMemExpandBlob (p : Cell) (w : World) : Except Fault (ℕ × Cell × World) := do
  let nByte := p.n + p.u_nZero
  let nByte := if nByte ≤ 0 then 1 else nByte
  let (rc, p, w) ← sqlite3VdbeMemGrow A D nByte true p w
  if rc ≠ 0 then return (7, p, w)
  else
    let w ← w.clear p.z p.n p.u_nZero
    return (0, { p with
      n := p.n + p.u_nZero, flags := p.flags &&& ~~~(MEM_Zero ||| MEM_Term) }, w)

/-- `Mem.ExpandBlob`. -/
def ExpandBlob (self : Cell) (w : World) : Except Fault (ℕ × Cell × World) :=
  if self.flags.has MEM_Zero then sqlite3VdbeMemExpandBlob A D self w else .ok (0, self, w)

/-- The two zeros after a text or blob. -/
def terminate (p : Cell) (w : World) : Except Fault World := do
  let w ← w.write p.z p.n [0]
  w.write p.z (p.n + 1) [0]

/-- `Mem.sqlite3VdbeMemMakeWriteable`. The flags that it sets in the end are those from before
`sqlite3VdbeMemGrow`. -/
def sqlite3VdbeMemMakeWriteable (self : Cell) (w : World) : Except Fault (ℕ × Cell × World) := do
  if self.flags.has MEM_RowSet then throw .assertion
  let (_, self, w) ← ExpandBlob A D self w
  let f := self.flags
  if f.has (MEM_Str ||| MEM_Blob) && self.z ≠ self.zMalloc then
    let (rc, self, w) ← sqlite3VdbeMemGrow A D (self.n + 2) true self w
    if rc ≠ 0 then return (7, self, w)
    else
      let w ← terminate self w
      return (0, { self with flags := f ||| MEM_Term }, w)
  else return (0, self, w)

/-- `vdbeMemAddTerminator`. -/
def vdbeMemAddTerminator (p : Cell) (w : World) : Except Fault (ℕ × Cell × World) := do
  let (rc, p, w) ← sqlite3VdbeMemGrow A D (p.n + 2) true p w
  if rc ≠ 0 then return (7, p, w)
  else
    let w ← terminate p w
    return (0, { p with flags := p.flags ||| MEM_Term }, w)

/-- `Mem.sqlite3VdbeMemNulTerminate`. -/
def sqlite3VdbeMemNulTerminate (self : Cell) (w : World) : Except Fault (ℕ × Cell × World) :=
  if self.flags &&& (MEM_Term ||| MEM_Str) ≠ MEM_Str then .ok (0, self, w)
  else vdbeMemAddTerminator A D self w

/-! ## The registers -/

/-- The registers and the memory. -/
structure State where
  /-- The registers. -/
  cells : ℕ → Cell
  /-- The memory. -/
  world : World

/-- Without contents. -/
def State.sizes (s : State) : Buffers.State ℕ := ⟨s.cells, s.world.sizes⟩

/-- A method of one register, with what it returns. -/
def State.onCell (s : State) (i : ℕ) (f : Cell → World → Except Fault (ℕ × Cell × World)) :
    Except Fault (ℕ × State) := do
  let (rc, c, w) ← f (s.cells i) s.world
  return (rc, ⟨Function.update s.cells i c, w⟩)

/-- What a method that copies nothing leaves of the sizes is what it leaves. -/
def State.freeing (s : State) : Except Buffers.Fault (Buffers.State ℕ) → Except Fault State
  | .ok b => .ok ⟨b.cells, s.world.resized A b.heap⟩
  | .error e => .error (.of e)

/-- What happens to the registers and to the rest of the memory. -/
inductive Access where
  /-- A method. -/
  | op (o : Buffers.Op ℕ)
  /-- `sqlite3VdbeMemNulTerminate`. -/
  | sqlite3VdbeMemNulTerminate (self : ℕ)
  /-- The fields but for `zMalloc` and `szMalloc` are assigned. -/
  | assign (self : ℕ) (flags : Flags) (u : BitVec 64) (n : ℤ) (enc : ℕ) (z : Ptr)
  /-- `bs` is written to the register's own buffer. -/
  | write (self : ℕ) (at_ : ℤ) (bs : List Byte)
  /-- Memory that no register manages is changed. -/
  | outside (id : ℕ) (bs : List Byte)

/-- One access. -/
def State.step (s : State) : Access → Except Fault State
  | .op (.sqlite3VdbeMemGrow self n bPreserve) => do
    let (_, s) ← s.onCell self (sqlite3VdbeMemGrow A D n bPreserve)
    return s
  | .op (.sqlite3VdbeMemMakeWriteable self) => do
    let (_, s) ← s.onCell self (sqlite3VdbeMemMakeWriteable A D)
    return s
  | .op o => s.freeing A (s.sizes.step A.toAllocator D o)
  | .sqlite3VdbeMemNulTerminate self => do
    let (_, s) ← s.onCell self (sqlite3VdbeMemNulTerminate A D)
    return s
  | .assign self flags u n enc z =>
    .ok { s with
      cells := Function.update s.cells self
        { s.cells self with flags := flags, u := u, n := n, enc := enc, z := z } }
  | .write self at_ bs =>
    if 0 < (s.cells self).szMalloc then do
      let w ← s.world.write (s.cells self).zMalloc at_ bs
      return { s with world := w }
    else .error .write
  | .outside id bs =>
    .ok { s with world := { s.world with ext := Function.update s.world.ext id bs } }

/-- The registers that an access may change. -/
def Access.registers : Access → List ℕ
  | .op (.sqlite3VdbeMemMove self from_) => [self, from_]
  | .op (.sqlite3VdbeMemShallowCopy self _ _) => [self]
  | .op (.sqlite3VdbeMemMakeWriteable self) => [self]
  | .op (.sqlite3VdbeMemGrow self _ _) => [self]
  | .op (.sqlite3VdbeMemRelease self) => [self]
  | .op (.vdbeMemClear self) => [self]
  | .op (.sqlite3VdbeMemSetInt64 self _) => [self]
  | .op (.sqlite3VdbeMemSetDouble self _) => [self]
  | .op (.sqlite3VdbeMemSetNull self) => [self]
  | .sqlite3VdbeMemNulTerminate self => [self]
  | .assign self .. => [self]
  | .write self .. => [self]
  | .outside .. => []

/-- One access after another. -/
def State.run (s : State) (accesses : List Access) : Except Fault State :=
  accesses.foldlM (State.step A D) s

end SQPyte.Memory
