import SQPyte.Vdbe.Copies
import SQPyte.Vdbe.Statement

/-!
# The loop of the interpreter

One iteration of the loop in `SQPyteQuery.mainloop`: the preparation of the output register, the
invalidation of the flag cache around the opcodes that are not cache safe, and the opcode itself.

The opcodes that read or write the fields of the statement, of its connection, or the global
variable `lastRowid` are written out: `OP_ResultRow`, `OP_Halt`, `OP_Transaction`, `OP_Insert`,
`OP_InsertInt`, `OP_Function` and `OP_Variable`. Any other opcode works on cells and on the world
only, and its body comes from the `Backend`. Frames and sub-programs do not occur, since `mainloop`
does not implement `OP_Program`.
-/

namespace SQPyte

open Commands

/-- One instruction: an opcode that `mainloop` handles, or another one with its operand `P2`. -/
inductive Instr where
  | op (o : Op)
  | unimplemented (p2 : ℤ) (out2_prerelease : Bool)

/-- `self._hlops`. -/
structure Program where
  /-- The instructions. -/
  hlops : List Instr
  /-- The registers of a result row do not begin at register 0. -/
  resultRow_pos : ∀ op, Instr.op op ∈ hlops → op.opcode = .ResultRow → 0 < op.p1

/-- `opflags & OPFLG_OUT2_PRERELEASE`. -/
def Opcode.out2_prerelease : Opcode → Bool
  | .Integer | .Real | .String8 | .String | .Null | .Blob | .Variable | .ReadCookie | .Sequence
  | .NewRowid | .Rowid | .IdxRowid | .CreateIndex | .CreateTable => true
  | _ => false

/-- `_cache_safe_opcodes`. -/
def Opcode.is_cache_safe : Opcode → Bool
  | .CreateTable | .CreateIndex | .Clear | .ParseSchema | .ReadCookie | .RowSetAdd | .RowSetRead
  | .DropTable | .Blob | .OpenAutoindex | .OpenEphemeral | .OpenPseudo | .RowSetTest | .SetCookie
  | .SorterSort | .Sort | .SorterOpen | .Noop | .Explain => false
  | _ => true

/-- The second operand of an instruction that has an output register to prepare. -/
def Instr.prerelease : Instr → Option ℤ
  | .op o => if o.opcode.out2_prerelease then some o.p2 else none
  | .unimplemented p2 out2_prerelease => if out2_prerelease then some p2 else none

/-- `self.is_op_cache_safe(opcode)`. -/
def Instr.is_cache_safe : Instr → Bool
  | .op o => o.opcode.is_cache_safe
  | .unimplemented _ _ => false

/-- `OPFLAG_LASTROWID`. -/
def OPFLAG_LASTROWID : BitVec 8 := 0x02#8

section opcodes

variable {κ : Type} (B : Backend κ)

/-- C code that halts the statement, called from an opcode. -/
def gotoLabel (label : List Mem → Env κ → ℕ × List Mem × Env κ) : MemM (Env κ) ℕ :=
  c_mems fun mems e => .ok (label mems e)

/-- The way on from an opcode, as the address of the next one and `rc`. -/
def leaveOpcode (nMem pc : ℕ) : Exit → MemM (Env κ) (ℕ × ℕ)
  | .next target rc => pure (target, rc.val)
  | .transaction_busy => do
    tell fun e => Env.vdbe_return { e with p := { e.p with pc := pc, rc := SQLITE_BUSY } }
    return (pc + 1, SQLITE_BUSY)
  | .vdbe_error_halt rc => do return (pc + 1, ← gotoLabel (gotoVdbeErrorHalt B nMem rc))
  | .abort_due_to_error rc => do return (pc + 1, ← gotoLabel (gotoAbortDueToError B nMem rc))
  | .no_mem => do return (pc + 1, ← gotoLabel (gotoNoMem B nMem))
  | .too_big => do return (pc + 1, ← gotoLabel (gotoTooBig B nMem))
  | .abort_due_to_interrupt => do return (pc + 1, ← gotoLabel (gotoAbortDueToInterrupt B nMem))

/-- An opcode that works on the cells and the world only. -/
def bodyOf (nMem pc rc : ℕ) (op : Op) : MemM (Env κ) (ℕ × ℕ) := do
  leaveOpcode B nMem pc (← onWorld (B.body op pc rc))

/-- `sqlite3VdbeCheckFk(p, 0)`. -/
def sqlite3VdbeCheckFk : MemM (Env κ) ℕ := do
  if ← ask fun e => B.fkViolated e.world then
    tell fun e => { e with p := { e.p with
      rc := SQLITE_CONSTRAINT_FOREIGNKEY, errorAction := OE_Abort } }
    return SQLITE_ERROR
  else return SQLITE_OK

/-- The body of the loop of `OP_ResultRow`: whether memory ran out. -/
def resultColumn (i : ℤ) : MemM κ Bool := do
  let pMem ← mem_with_index i
  pyAssert (← memIsValid pMem)
  let no_mem ← if (← get_flags pMem).has MEM_Ephem then
      (· != SQLITE_OK) <$> sqlite3VdbeMemMakeWriteable B.lib pMem
    else pure false
  if no_mem then return true
  else
    let _ ← sqlite3VdbeMemNulTerminate B.lib pMem
    return false

/-- The loop of `OP_ResultRow`. After the column whose memory ran out it is left. -/
def resultColumns (start : ℤ) (n : ℕ) : MemM κ Bool :=
  Prog.forRange start n false fun i no_mem => if no_mem then pure true else resultColumn B i

/-- `OP_ResultRow`. -/
def OP_ResultRow (nMem pc : ℕ) (op : Op) : MemM (Env κ) ℕ := do
  pyAssert ((← ask fun e => (e.p.nResColumn : ℤ)) == op.p2)
  let rc ← sqlite3VdbeCheckFk B
  if rc ≠ SQLITE_OK then return rc
  else
    let rc ← worldStep B.closeStatement
    if rc.val ≠ SQLITE_OK then return rc.val
    else
      tell fun e => { e with p := { e.p with cacheCtr := (e.p.cacheCtr + 2) ||| 1 } }
      tell fun e => { e with result_set_index := op.p1 }
      let result_set ← op.mem_of_p1
      tell fun e => { e with p := { e.p with pResultSet := some result_set } }
      if ← onWorld (resultColumns B op.p1 op.p2.toNat) then gotoLabel (gotoNoMem B nMem)
      else if ← ask fun e => B.mallocFailed e.world then gotoLabel (gotoNoMem B nMem)
      else
        tell fun e => { e with p := { e.p with pc := pc + 1 } }
        tell Env.vdbe_return
        return SQLITE_ROW

/-- `impl_OP_Halt`, where no frame is active. -/
def impl_OP_Halt (nMem pc : ℕ) (op : Op) (mems : List Mem) (e : Env κ) : ℕ × List Mem × Env κ :=
  let e := { e with p := { e.p with rc := op.p1.toNat, errorAction := op.p2, pc := pc } }
  let (rc, mems, e) := sqlite3VdbeHalt B nMem mems e
  let (rc, e) :=
    if rc = SQLITE_BUSY then (SQLITE_BUSY, { e with p := { e.p with rc := SQLITE_BUSY } })
    else (if e.p.rc ≠ SQLITE_OK then SQLITE_ERROR else SQLITE_DONE, e)
  (rc, mems, e.vdbe_return)

/-- `OP_Insert` and `OP_InsertInt`. -/
def OP_Insert_InsertInt (nMem pc rc : ℕ) (op : Op) : MemM (Env κ) (ℕ × ℕ) := do
  let iKey ← if op.opcode = .Insert then
      c_mems fun mems e =>
        match mems[op.p3.toNat]? with
        | some pKey => .ok (pKey.u_i, mems, e)
        | none => .error .memory
    else pure op.p3
  if op.p5_has OPFLAG_LASTROWID then
    tell fun e => { e with lastRowid := iKey, db := { e.db with lastRowid := iKey } }
  bodyOf B nMem pc rc op

/-- `OP_Function`. A function of C sees the row id in the connection, and may change it. -/
def OP_Function (nMem pc rc : ℕ) (op : Op) : MemM (Env κ) (ℕ × ℕ) := do
  if B.func_exists_in_python op then bodyOf B nMem pc rc op
  else
    tell fun e => { e with db := { e.db with lastRowid := e.lastRowid } }
    let exit ← onWorld (B.body op pc rc)
    tell fun e => { e with lastRowid := e.db.lastRowid }
    leaveOpcode B nMem pc exit

/-- `OP_Variable`. -/
def OP_Variable (nMem pc rc : ℕ) (op : Op) : MemM (Env κ) (ℕ × ℕ) := do
  let pVar ← var_with_index (op.p1 - 1)
  if ← sqlite3VdbeMemTooBig B.limit pVar then return (pc + 1, ← gotoLabel (gotoTooBig B nMem))
  else
    let pOut ← op.mem_of_p2
    onWorld (sqlite3VdbeMemShallowCopy B.lib pOut pVar MEM_Static)
    return (pc + 1, rc)

end opcodes

/-! ## One iteration -/

/-- How the last call of `mainloop` since the statement was prepared or reset ended. -/
inductive Ending where
  /-- There was no call. -/
  | fresh
  /-- With `SQLITE_ROW`, at the `OP_ResultRow` with the address `pc`. -/
  | row (pc : ℕ)
  /-- With `SQLITE_BUSY`, and the opcode is to be tried again. -/
  | busy
  /-- With `SQLITE_DONE` or an error. -/
  | ended (rc : ℕ)
  /-- With an exception. -/
  | raised (e : Exc)
deriving DecidableEq, Repr

/-- What an iteration of the loop ends with. -/
inductive Iteration where
  /-- The end of the loop's body: the address of the next opcode, and `rc`. -/
  | again (pc rc : ℕ)
  /-- A `break`. -/
  | leave (ending : Ending)

section iteration

variable {κ : Type} (B : Backend κ)

/-- A `break` with the code `rc`. With `SQLITE_BUSY` the statement may be running still. -/
def leaveWith (rc : ℕ) : MemM (Env κ) Iteration := do
  if rc = SQLITE_BUSY && (← ask fun e => e.p.magic == .RUN) then return .leave .busy
  else return .leave (.ended rc)

/-- The branch of `mainloop` for an opcode. -/
def dispatch (nMem pc rc : ℕ) (op : Op) : MemM (Env κ) Iteration :=
  match op.opcode with
  | .ResultRow => do
    let rc ← OP_ResultRow B nMem pc op
    if rc = SQLITE_ROW then return .leave (.row pc) else return .again (pc + 1) rc
  | .Halt => do leaveWith (← gotoLabel (impl_OP_Halt B nMem pc op))
  | .Transaction => do
    let (pc, rc) ← bodyOf B nMem pc rc op
    if rc = SQLITE_BUSY then leaveWith rc else return .again pc rc
  | .Insert | .InsertInt => do
    let (pc, rc) ← OP_Insert_InsertInt B nMem pc rc op
    return .again pc rc
  | .Function => do
    let (pc, rc) ← OP_Function B nMem pc rc op
    return .again pc rc
  | .Variable => do
    let (pc, rc) ← OP_Variable B nMem pc rc op
    return .again pc rc
  | _ => do
    let (pc, rc) ← bodyOf B nMem pc rc op
    return .again pc rc

/-- The chain of branches of `mainloop`. -/
def executeInstr (nMem pc rc : ℕ) : Instr → MemM (Env κ) Iteration
  | .op op => dispatch B nMem pc rc op
  | .unimplemented _ _ => throwExc .sqpyte

/-- The preparation of the output register. -/
def prerelease (instr : Instr) : MemM (Env κ) Unit :=
  match instr.prerelease with
  | some p2 => do
    let pOut ← mem_with_index p2
    onWorld (VdbeMemRelease B.lib pOut)
    set_flags pOut MEM_Int
  | none => pure ()

/-- `if not self.is_op_cache_safe(opcode): self.invalidate_caches()`. -/
def invalidateUnlessSafe (instr : Instr) : MemM (Env κ) Unit :=
  if instr.is_cache_safe then pure () else invalidate_caches

/-- One iteration of the loop, from `op = self._hlops[pc]` on. -/
def iteration (nMem pc rc : ℕ) (instr : Instr) : MemM (Env κ) Iteration := do
  prerelease B instr
  invalidateUnlessSafe instr
  match ← executeInstr B nMem pc rc instr with
  | .leave ending => return .leave ending
  | .again pc rc => do
    invalidateUnlessSafe instr
    return .again pc rc

end iteration

end SQPyte
