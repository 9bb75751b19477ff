import SQPyte.Mem.Methods

/-!
# Opcodes

An `Op` is one instruction of a bytecode program, as the methods of `class Op` read it. The union
`p4` is an inductive type, so that reading a member other than the one stored gives what a null
pointer or a zero gives.
-/

namespace SQPyte

/-- The opcodes that `mainloop` handles. -/
inductive Opcode where
  | Init | OpenRead | OpenWrite | Rewind | Transaction | TableLock | Goto | Column | ResultRow | Next
  | Close | Halt | Eq | Ne | Lt | Le | Gt | Ge | Integer | Null | AggStep | AggFinal | Copy
  | MustBeInt | NotExists | String | String8 | Function | Real | RealAffinity | Add | Subtract
  | Multiply | Divide | Remainder | If | IfNot | Rowid | IsNull | SeekLT | SeekLE | SeekGE | SeekGT
  | Move | IfZero | IdxRowid | IdxLE | IdxGT | IdxLT | IdxGE | Seek | Once | SCopy | Affinity
  | OpenAutoindex | OpenEphemeral | MakeRecord | SorterInsert | IdxInsert | NoConflict | NotFound
  | Found | RowSetTest | Gosub | Return | SorterOpen | NextIfOpen | Sequence | OpenPseudo
  | SorterSort | Sort | SorterData | SorterNext | Noop | Explain | Compare | Jump | IfPos | CollSeq
  | NotNull | InitCoroutine | Yield | NullRow | EndCoroutine | ReadCookie | NewRowid | Insert
  | InsertInt | SetCookie | ParseSchema | RowSetAdd | RowSetRead | Delete | DropTable | RowKey
  | RowData | Blob | Cast | Concat | Variable | CreateTable | CreateIndex | Clear
deriving DecidableEq, Repr

/-- What `SQLite3DB.funcregistry` makes of a function definition. -/
inductive Func where
  /-- `CFunc`: a function of SQLite. -/
  | CFunc (name : String) (nArg : ℤ)
  /-- `RPyAggregate`: an aggregate defined in Python, with its index in `FuncRegistry.funcs`. -/
  | RPyAggregate (index : ℕ)
deriving DecidableEq, Repr

/-- `P4` with its type. -/
inductive P4 where
  /-- `P4_NOTUSED`. -/
  | NOTUSED
  /-- `P4_INT32`. -/
  | INT32 (i : ℤ)
  /-- `P4_REAL`. -/
  | REAL (r : Binary64)
  /-- `P4_DYNAMIC` and `P4_STATIC`: a text. -/
  | TEXT (z : List Byte)
  /-- `P4_COLLSEQ`. -/
  | COLLSEQ (pColl : CollSeq)
  /-- `P4_KEYINFO`: the collation and the sort order of each field. -/
  | KEYINFO (fields : List (Option CollSeq × Bool))
  /-- `P4_INTARRAY`. -/
  | INTARRAY (ai : List ℕ)
  /-- `P4_FUNCDEF`. -/
  | FUNCDEF (func : Func)
  /-- Any other type. -/
  | OTHER

/-- `SQLITE_AFF_MASK`. -/
def SQLITE_AFF_MASK : BitVec 8 := 0x47#8
/-- `SQLITE_JUMPIFNULL`. -/
def SQLITE_JUMPIFNULL : BitVec 8 := 0x10#8
/-- `SQLITE_STOREP2`. -/
def SQLITE_STOREP2 : BitVec 8 := 0x20#8
/-- `SQLITE_NULLEQ`. -/
def SQLITE_NULLEQ : BitVec 8 := 0x80#8

/-- `struct VdbeOp`. -/
structure Op where
  /-- What operation to perform. -/
  opcode : Opcode
  /-- First operand. -/
  p1 : ℤ
  /-- Second parameter, often the jump destination. -/
  p2 : ℤ
  /-- The third parameter. -/
  p3 : ℤ
  /-- The fourth parameter. -/
  p4 : P4
  /-- Fifth parameter, an unsigned character. -/
  p5 : BitVec 8

namespace Op

variable {ρ : Type} (op : Op)

/-- Some bit of the mask is set in `p5`. -/
def p5_has (mask : BitVec 8) : Bool := op.p5 &&& mask != 0#8

/-- `p5 & SQLITE_AFF_MASK`. -/
def affinity : ℕ := (op.p5 &&& SQLITE_AFF_MASK).toNat

/-- `Op.p4_pColl`. -/
def p4_pColl : Option CollSeq :=
  match op.p4 with
  | .COLLSEQ pColl => some pColl
  | _ => none

/-- `op.p4type() == P4_COLLSEQ or not op.p4_pColl()`. -/
def p4_is_coll_or_null : Bool :=
  match op.p4 with
  | .COLLSEQ _ => true
  | .NOTUSED => true
  | _ => false

/-- `Op.p4_z`. -/
def p4_z : List Byte :=
  match op.p4 with
  | .TEXT z => z
  | _ => []

/-- `Op.p4_i`. -/
def p4_i : ℤ :=
  match op.p4 with
  | .INT32 i => i
  | _ => 0

/-- `Op.p4_pFunc`. -/
def p4_pFunc : Option Func :=
  match op.p4 with
  | .FUNCDEF func => some func
  | _ => none

/-- `Op.p2as_pc`. -/
def p2as_pc : ℤ := op.p2 - 1

/-- `Op.mem_of_p(1)`. -/
def mem_of_p1 : MemM ρ ℕ := mem_with_index op.p1
/-- `Op.mem_of_p(2)`. -/
def mem_of_p2 : MemM ρ ℕ := mem_with_index op.p2
/-- `Op.mem_of_p(3)`. -/
def mem_of_p3 : MemM ρ ℕ := mem_with_index op.p3

end Op

/-- `SQLITE_TOOBIG`. -/
def SQLITE_TOOBIG : ℕ := 18

/-- What the opcodes need of the database connection. -/
structure CVdbe (ρ : Type) where
  /-- `db->mallocFailed`. -/
  mallocFailed : ρ → Bool
  /-- `gotoNoMem`, which halts the statement. -/
  gotoNoMem : List Mem → ρ → ℕ × List Mem × ρ
  /-- `gotoTooBig`, which halts the statement. -/
  gotoTooBig : List Mem → ρ → ℕ × List Mem × ρ

/-- A connection that never runs out of memory. -/
def CVdbe.never : CVdbe Unit where
  mallocFailed _ := false
  gotoNoMem mems r := (SQLITE_NOMEM, mems, r)
  gotoTooBig mems r := (SQLITE_TOOBIG, mems, r)

/-- `p` is the number of a register. -/
def IsRegister (length nMem : ℕ) (p : ℤ) : Prop := 0 ≤ p ∧ p ≤ nMem ∧ nMem < length

instance (length nMem : ℕ) (p : ℤ) : Decidable (IsRegister length nMem p) :=
  inferInstanceAs (Decidable (_ ∧ _))

/-- A register is one of the cells. -/
theorem IsRegister.lt {length nMem : ℕ} {p : ℤ} (h : IsRegister length nMem p) :
    p.toNat < length := by
  obtain ⟨h0, h1, h2⟩ := h
  omega

/-- The cell with the index of a register is that register. -/
theorem IsRegister.memIndex_eq {length nMem : ℕ} {p : ℤ} (h : IsRegister length nMem p) :
    Machine.memIndex length nMem p = .ok p.toNat := by
  obtain ⟨h0, h1, h2⟩ := h
  unfold Machine.memIndex pyIndex
  rw [if_pos (by omega)]

end SQPyte
