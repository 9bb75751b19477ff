import SQPyte.Record.MakeRecord

/-!
# Prepared statements

The fields of a `Vdbe` and of its connection that the interpreter itself reads or writes, and the C
functions that halt and reset a statement. What lies behind them (cursors, b-trees, transactions and
the rest of the process) is a type `κ`, on which `Backend` collects the C functions. They are
parameters: a result about statements holds whatever they do.

A program over the cells and `κ` is one over the cells and the whole environment that leaves the
other fields alone (`onWorld`).
-/

namespace SQPyte

open Commands

/-- `SQLITE_ERROR`. -/
def SQLITE_ERROR : ℕ := 1
/-- `SQLITE_BUSY`. -/
def SQLITE_BUSY : ℕ := 5
/-- `SQLITE_INTERRUPT`. -/
def SQLITE_INTERRUPT : ℕ := 9
/-- `SQLITE_MISUSE`. -/
def SQLITE_MISUSE : ℕ := 21
/-- `SQLITE_RANGE`. -/
def SQLITE_RANGE : ℕ := 25
/-- `SQLITE_ROW`. -/
def SQLITE_ROW : ℕ := 100
/-- `SQLITE_DONE`. -/
def SQLITE_DONE : ℕ := 101
/-- `SQLITE_CONSTRAINT_FOREIGNKEY`. -/
def SQLITE_CONSTRAINT_FOREIGNKEY : ℕ := 787
/-- `SQLITE_IOERR_NOMEM`. -/
def SQLITE_IOERR_NOMEM : ℕ := 3082
/-- `OE_Abort`. -/
def OE_Abort : ℤ := 2

/-- A result code of a function that is no step of a statement. -/
structure ResultCode where
  /-- The code. -/
  val : ℕ
  /-- It is not `SQLITE_ROW`. -/
  ne_row : val ≠ SQLITE_ROW
  /-- It is not `SQLITE_DONE`. -/
  ne_done : val ≠ SQLITE_DONE

/-- `SQLITE_OK` as a result code. -/
def ResultCode.ok : ResultCode := ⟨SQLITE_OK, by decide, by decide⟩

/-- `Vdbe.magic`. -/
inductive Magic where
  | INIT
  | RUN
  | HALT
  | DEAD
deriving DecidableEq, Repr

/-- `struct Vdbe`. -/
structure Vdbe where
  /-- Magic number for sanity checking. -/
  magic : Magic
  /-- The program counter, negative before the first step. -/
  pc : ℤ
  /-- Value to return. -/
  rc : ℕ
  /-- Recovery action to do in case of an error. -/
  errorAction : ℤ
  /-- The first register of the current row. -/
  pResultSet : Option ℕ
  /-- Number of columns in one row of the result set. -/
  nResColumn : ℕ
  /-- Binding to these vars invalidates VM. -/
  expmask : BitVec 32
  /-- True if the VM needs to be recompiled. -/
  expired : Bool
  /-- `VdbeCursor` row cache generation counter. -/
  cacheCtr : BitVec 32
  /-- True for statements that do not write. -/
  readOnly : Bool
  /-- True for statements that read. -/
  bIsReader : Bool
  /-- Automatically expire on reset. -/
  runOnlyOnce : Bool
deriving DecidableEq, Repr

/-- `struct sqlite3`, a connection. -/
structure Connection where
  /-- ROWID of most recent insert. -/
  lastRowid : ℤ
  /-- Number of VDBEs currently running. -/
  nVdbeActive : ℤ
  /-- Number of active VDBEs that read and write. -/
  nVdbeWrite : ℤ
  /-- Number of active VDBEs that read or write. -/
  nVdbeRead : ℤ
deriving DecidableEq, Repr

/-- What a statement runs in: its own fields, its connection, the global variable `lastRowid` of
`sqpyte.c`, the attribute of `SQPyteQuery`, and everything else. -/
structure Env (κ : Type) where
  /-- `self.p`. -/
  p : Vdbe
  /-- `self.db`. -/
  db : Connection
  /-- The global variable `lastRowid`. -/
  lastRowid : ℤ
  /-- `self.result_set_index`. -/
  result_set_index : ℤ
  /-- Everything else. -/
  world : κ

/-- How an opcode goes on: with the next one, or with one of the labels at the end of
`sqlite3VdbeExec`. -/
inductive Exit where
  /-- A return to `mainloop`. The opcode leaves `target - 1` in `pc`, to which `mainloop` adds one:
  a jump goes to an address of the program. -/
  | next (target : ℕ) (rc : ResultCode)
  /-- The return of `impl_OP_Transaction` where the database is busy. -/
  | transaction_busy
  | vdbe_error_halt (rc : ℕ)
  | abort_due_to_error (rc : ℕ)
  | no_mem
  | too_big
  | abort_due_to_interrupt

/-- The functions of C, and the opcodes of which nothing but their exit matters here. -/
structure Backend (κ : Type) where
  /-- The library of the cells. -/
  lib : CLib κ
  /-- `ENC(db)`. -/
  enc : ℕ
  /-- `db->aLimit[SQLITE_LIMIT_LENGTH]`. -/
  limit : ℤ
  /-- The body of an opcode, from `pc` and `rc`, with the cache entries that it invalidates. -/
  body : Op → ℕ → ℕ → MemM κ Exit
  /-- `func.func_exists_in_python()`. -/
  func_exists_in_python : Op → Bool
  /-- A foreign key constraint is violated, for `sqlite3VdbeCheckFk`. -/
  fkViolated : κ → Bool
  /-- `sqlite3VdbeCloseStatement`. -/
  closeStatement : κ → ResultCode × κ
  /-- `closeAllCursors`, up to the registers. -/
  closeCursors : κ → κ
  /-- The commit or rollback in `sqlite3VdbeHalt`, with the new `p->rc`. There is none where it
  returns `SQLITE_BUSY` at once. -/
  commit : Vdbe → κ → Option ResultCode × κ
  /-- `db->mallocFailed`. -/
  mallocFailed : κ → Bool
  /-- `db->mallocFailed = 1`. -/
  setMallocFailed : κ → κ
  /-- `db->mallocFailed = 0`. -/
  clearMallocFailed : κ → κ
  /-- `sqlite3ResetOneSchema`, if `resetSchemaOnFault` says so. -/
  resetSchema : κ → κ

/-! ## Programs on the world -/

section onWorld

variable {κ α : Type}

/-- A step of the world as one of the environment. -/
def Env.onWorld (step : κ → Except Exc (α × κ)) (e : Env κ) : Except Exc (α × Env κ) :=
  (step e.world).map fun x => (x.1, { e with world := x.2 })

/-- A command on the world as one on the environment. -/
def MemCmd.onWorld : MemCmd κ α → MemCmd (Env κ) α
  | .mem_with_index i => .mem_with_index i
  | .var_with_index i => .var_with_index i
  | .get_flags i => .get_flags i
  | .set_flags i f => .set_flags i f
  | .assure_flags i f => .assure_flags i f
  | .get_u_i i => .get_u_i i
  | .set_u_i i v constant => .set_u_i i v constant
  | .get_u_r i => .get_u_r i
  | .set_u_r i v constant => .set_u_r i v constant
  | .is_constant_u_i i => .is_constant_u_i i
  | .invalidate_cache i => .invalidate_cache i
  | .invalidate_caches => .invalidate_caches
  | .peek i read => .peek i read
  | .poke i update => .poke i update
  | .set_u_nZero i v => .set_u_nZero i v
  | .c_mem i routine => .c_mem i fun pMem e =>
      (routine pMem e.world).map fun x => (x.1, x.2.1, { e with world := x.2.2 })
  | .other step => .other (Env.onWorld step)
  | .c_mems step => .c_mems fun mems e =>
      (step mems e.world).map fun x => (x.1, x.2.1, { e with world := x.2.2 })

/-- A program on the cells and the world. -/
def onWorld (p : MemM κ α) : MemM (Env κ) α := p.mapCmd fun _ => MemCmd.onWorld

/-- A C function on the world alone. -/
def worldStep (step : κ → α × κ) : MemM (Env κ) α :=
  other fun e => .ok ((step e.world).1, { e with world := (step e.world).2 })

/-- A read of the environment. -/
def ask (read : Env κ → α) : MemM (Env κ) α := other fun e => .ok (read e, e)

/-- A write to the environment. -/
def tell (write : Env κ → Env κ) : MemM (Env κ) Unit := other fun e => .ok ((), write e)

end onWorld

/-! ## Halting and resetting -/

section halt

variable {κ : Type} (B : Backend κ)

/-- The body of the loop of `releaseMemArray`. -/
def releaseMem (p : Mem) (w : κ) : Mem × κ :=
  if VdbeMemDynamic p.flags then
    ({ p with flags := MEM_Undefined, z := .null, zMalloc := [], szMalloc := 0 }, B.lib.destroy p w)
  else if p.szMalloc ≠ 0 then ({ p with flags := MEM_Undefined, zMalloc := [], szMalloc := 0 }, w)
  else ({ p with flags := MEM_Undefined }, w)

/-- `releaseMemArray`. -/
def releaseMemArray : List Mem → κ → List Mem × κ
  | [], w => ([], w)
  | p :: ps, w =>
    let (p, w) := releaseMem B p w
    let (ps, w) := releaseMemArray ps w
    (p :: ps, w)

/-- `closeAllCursors`: the cursors are closed and the registers `1 … nMem` are released. -/
def closeAllCursors (nMem : ℕ) (mems : List Mem) (w : κ) : List Mem × κ :=
  let w := B.closeCursors w
  let (released, w) := releaseMemArray B ((mems.drop 1).take nMem) w
  (mems.take 1 ++ released ++ mems.drop (nMem + 1), w)

/-- `p->rc = SQLITE_NOMEM` if memory ran out. -/
def Env.noteMallocFailed (e : Env κ) : Env κ :=
  if B.mallocFailed e.world then { e with p := { e.p with rc := SQLITE_NOMEM } } else e

/-- The end of `sqlite3VdbeHalt`: the VM is halted and the counters of the connection go down. -/
def Env.markHalted (e : Env κ) : Env κ :=
  let db := if 0 ≤ e.p.pc then
      { e.db with
        nVdbeActive := e.db.nVdbeActive - 1
        nVdbeWrite := if e.p.readOnly then e.db.nVdbeWrite else e.db.nVdbeWrite - 1
        nVdbeRead := if e.p.bIsReader then e.db.nVdbeRead - 1 else e.db.nVdbeRead }
    else e.db
  { e with db := db, p := { e.p with magic := .HALT } }

/-- `sqlite3VdbeHalt`. -/
def sqlite3VdbeHalt (nMem : ℕ) (mems : List Mem) (e : Env κ) : ℕ × List Mem × Env κ :=
  let e := e.noteMallocFailed B
  let (mems, w) := closeAllCursors B nMem mems e.world
  let e := { e with world := w }
  if e.p.magic ≠ .RUN then (SQLITE_OK, mems, e)
  else
    let (committed, w) := if 0 ≤ e.p.pc ∧ e.p.bIsReader then
        let (rc, w) := B.commit e.p e.world
        (rc.map ResultCode.val, w)
      else (some e.p.rc, e.world)
    match committed with
    | none => (SQLITE_BUSY, mems, { e with world := w })
    | some rc =>
      let e := Env.noteMallocFailed B
        (Env.markHalted { e with p := { e.p with rc := rc }, world := w })
      (if e.p.rc = SQLITE_BUSY then SQLITE_BUSY else SQLITE_OK, mems, e)

/-- The label `vdbe_return`. -/
def Env.vdbe_return (e : Env κ) : Env κ := { e with db := { e.db with lastRowid := e.lastRowid } }

/-- `gotoVdbeErrorHalt`. -/
def gotoVdbeErrorHalt (nMem rc : ℕ) (mems : List Mem) (e : Env κ) : ℕ × List Mem × Env κ :=
  let (_, mems, e) := sqlite3VdbeHalt B nMem mems { e with p := { e.p with rc := rc } }
  let w := if rc = SQLITE_IOERR_NOMEM then B.setMallocFailed e.world else e.world
  (SQLITE_ERROR, mems, Env.vdbe_return { e with world := B.resetSchema w })

/-- `gotoAbortDueToError`. -/
def gotoAbortDueToError (nMem rc : ℕ) (mems : List Mem) (e : Env κ) : ℕ × List Mem × Env κ :=
  gotoVdbeErrorHalt B nMem (if B.mallocFailed e.world then SQLITE_NOMEM else rc) mems e

/-- `gotoNoMem`. -/
def gotoNoMem (nMem : ℕ) (mems : List Mem) (e : Env κ) : ℕ × List Mem × Env κ :=
  gotoVdbeErrorHalt B nMem SQLITE_NOMEM mems { e with world := B.setMallocFailed e.world }

/-- `gotoTooBig`. -/
def gotoTooBig (nMem : ℕ) (mems : List Mem) (e : Env κ) : ℕ × List Mem × Env κ :=
  gotoVdbeErrorHalt B nMem SQLITE_TOOBIG mems e

/-- `gotoAbortDueToInterrupt`. -/
def gotoAbortDueToInterrupt (nMem : ℕ) (mems : List Mem) (e : Env κ) : ℕ × List Mem × Env κ :=
  gotoVdbeErrorHalt B nMem SQLITE_INTERRUPT mems e

/-- `sqlite3VdbeReset`. -/
def sqlite3VdbeReset (nMem : ℕ) (mems : List Mem) (e : Env κ) : List Mem × Env κ :=
  let (_, mems, e) := sqlite3VdbeHalt B nMem mems e
  (mems, { e with p := { e.p with
    expired := e.p.expired || (0 ≤ e.p.pc && e.p.runOnlyOnce)
    pResultSet := none
    magic := .INIT } })

/-- `sqlite3VdbeRewind`. -/
def sqlite3VdbeRewind (p : Vdbe) : Vdbe :=
  { p with magic := .RUN, pc := -1, rc := SQLITE_OK, errorAction := OE_Abort, cacheCtr := 1 }

/-- `sqlite3ApiExit`, for a code within `db->errMask`. -/
def sqlite3ApiExit (rc : ℕ) (w : κ) : ℕ × κ :=
  if B.mallocFailed w then (SQLITE_NOMEM, B.clearMallocFailed w) else (rc, w)

/-- `sqlite3_reset`. -/
def sqlite3_reset (nMem : ℕ) (mems : List Mem) (e : Env κ) : List Mem × Env κ :=
  let (mems, e) := sqlite3VdbeReset B nMem mems e
  let (_, w) := sqlite3ApiExit B e.p.rc e.world
  (mems, { e with p := sqlite3VdbeRewind e.p, world := w })

end halt

end SQPyte
