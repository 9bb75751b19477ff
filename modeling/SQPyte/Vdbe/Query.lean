import SQPyte.Library.Runs
import SQPyte.Vdbe.Mainloop

/-!
# Queries

`SQPyteQuery` as its callers see it: the calls of `mainloop`, `reset_query`, the methods that bind a
parameter, and the accessors of a column. A call of `mainloop` is one event for its start and one for
each iteration, so that between two events the query is in any state that a caller or another
statement can find it in. `Query.step` says what an event does. An exception ends the call and
leaves what was done before it.
-/

namespace SQPyte

open Commands

/-- Whether the interpreter is in `mainloop`. -/
inductive Control where
  /-- Between two calls. -/
  | outside (last : Ending)
  /-- In the loop, with its local variables. -/
  | inside (pc rc : ℕ) (cache_state : CacheState)

/-- An `SQPyteQuery`. -/
structure Query (κ : Type) where
  /-- The cells, the flag cache, and the fields of the statement. -/
  machine : Machine (Env κ)
  /-- Whether the interpreter is in `mainloop`. -/
  control : Control

section calls

variable {κ α : Type} (B : Backend κ)

/-! ## `mainloop` -/

/-- `mainloop` up to its loop. -/
def Query.enter (q : Query κ) : Query κ :=
  match q.machine.cache.reenter with
  | .error e => { q with control := .outside (.raised e) }
  | .ok (cache_state, cache) =>
    let e := q.machine.rest
    { machine := { q.machine with
        cache := cache
        rest := { e with p := { e.p with pResultSet := none }, result_set_index := -1 } }
      control := .inside e.p.pc.toNat SQLITE_OK cache_state }

/-- `prepare_return` and the return from `mainloop`. -/
def Query.leave (m : Machine (Env κ)) (ending : Ending) : Query κ :=
  match m.cache.prepare_return with
  | .error e => ⟨m, .outside (.raised e)⟩
  | .ok cache => ⟨{ m with cache := cache }, .outside ending⟩

/-- What the loop does with the outcome of an iteration that began at `oldpc`. -/
def Query.proceed (oldpc : ℕ) (r : Except Exc Iteration × Machine (Env κ)) : Query κ :=
  match r with
  | (.error e, m) => ⟨m, .outside (.raised e)⟩
  | (.ok (.leave ending), m) => Query.leave m ending
  | (.ok (.again pc rc), m) =>
    let cache_state := m.cache.cache_state
    ⟨if pc ≤ oldpc then { m with cache := m.cache.hide } else m, .inside pc rc cache_state⟩

/-- The loop of `mainloop`, once around. -/
def Query.turn (program : Program) (q : Query κ) (pc rc : ℕ) (cache_state : CacheState) : Query κ :=
  let m := { q.machine with cache := q.machine.cache.reveal cache_state }
  if rc ≠ SQLITE_OK then Query.leave m (.ended rc)
  else
    match program.hlops[pc]? with
    | none => ⟨m, .outside (.raised .index)⟩
    | some instr =>
      Query.proceed pc (runTo (SQPyte.machine (Env κ)) (iteration B m.nMem pc rc instr) m)

/-! ## The other methods -/

/-- `reset_query`. -/
def Query.reset_query (q : Query κ) : Except Exc Unit × Query κ :=
  match q.machine.cache.invalidate_all_outside with
  | .error e => (.error e, q)
  | .ok cache =>
    let (mems, e) := sqlite3_reset B q.machine.nMem q.machine.mems q.machine.rest
    (.ok (), ⟨{ q.machine with cache := cache, mems := mems, rest := e }, .outside .fresh⟩)

/-- A method that is a program. -/
def Query.call (p : MemM (Env κ) α) (q : Query κ) : Except Exc α × Query κ :=
  let r := runTo (SQPyte.machine (Env κ)) p q.machine
  (r.1, { q with machine := r.2 })

/-- `magic != VDBE_MAGIC_RUN or pc >= 0`. -/
def Vdbe.busy (p : Vdbe) : Bool := p.magic != .RUN || 0 ≤ p.pc

/-- The end of `vdbeUnbind`. -/
def checkExpmask (i : ℤ) (expmask : BitVec 32) : MemM (Env κ) Unit :=
  if i < 32 then
    if i < 0 then throwExc .value
    else if expmask.getLsbD i.toNat || expmask == 0xffffffff#32 then throwExc .sqpyte
    else pure ()
  else pure ()

/-- `SQPyteQuery.vdbeUnbind`. -/
def vdbeUnbind (i : ℤ) : MemM (Env κ) Unit := do
  let p ← ask Env.p
  if p.busy then throwExc .sqpyte
  else
    let pVar ← var_with_index (i - 1)
    onWorld (sqlite3VdbeMemRelease B.lib pVar)
    set_flags pVar MEM_Null
    checkExpmask (i - 1) p.expmask

/-- `SQPyteQuery.bind_int64`. -/
def bind_int64 (i : ℤ) (val : BitVec 64) : MemM (Env κ) ℕ := do
  vdbeUnbind B i
  onWorld (sqlite3VdbeMemSetInt64 B.lib (← var_with_index (i - 1)) val.toInt false)
  return SQLITE_OK

/-- `SQPyteQuery.bind_double`. -/
def bind_double (i : ℤ) (val : Binary64) : MemM (Env κ) ℕ := do
  vdbeUnbind B i
  onWorld (sqlite3VdbeMemSetDouble B.lib (← var_with_index (i - 1)) val)
  return SQLITE_OK

/-- `SQPyteQuery.bind_null`. -/
def bind_null (i : ℤ) : MemM (Env κ) ℕ := do
  vdbeUnbind B i
  return SQLITE_OK

/-- What `vdbeUnbind` of `vdbeapi.c` makes of the expiry. -/
def Vdbe.expireFor (p : Vdbe) (i : ℕ) : Vdbe :=
  if (i < 32 && p.expmask.getLsbD i) || p.expmask == 0xffffffff#32 then { p with expired := true }
  else p

/-- `sqlite3VdbeChangeEncoding` with its code, which says whether the text has the encoding. -/
def changeEncoding (pVar : Mem) (w : κ) : ℕ × Mem × κ :=
  let (pVar, w) := pVar.sqlite3VdbeChangeEncoding B.lib B.enc w
  (if pVar.enc = B.enc then SQLITE_OK else SQLITE_NOMEM, pVar, w)

/-- `sqlite3_bind_text` with `SQLITE_TRANSIENT`. The variables begin at the cell `nMem + 1`. -/
def sqlite3_bind_text (nMem : ℕ) (i : ℤ) (z : List Byte) (n : ℤ) (mems : List Mem) (e : Env κ) :
    Except Exc (ℕ × List Mem × Env κ) :=
  if e.p.busy then .ok (SQLITE_MISUSE, mems, e)
  else if i < 1 then .ok (SQLITE_RANGE, mems, e)
  else
    match mems[nMem + i.toNat]? with
    | none => .ok (SQLITE_RANGE, mems, e)
    | some pVar => do
      let (pVar, w) := pVar.sqlite3VdbeMemRelease B.lib e.world
      let pVar := { pVar with flags := MEM_Null }
      let (rc, pVar, w) ← pVar.sqlite3VdbeMemSetStr B.lib B.limit z n w
      let (rc, pVar, w) := if rc = SQLITE_OK then changeEncoding B pVar w else (rc, pVar, w)
      let (rc, w) := sqlite3ApiExit B rc w
      return (rc, mems.set (nMem + i.toNat) pVar,
        { e with p := e.p.expireFor (i.toNat - 1), world := w })

/-- An integer as an `int` of C. -/
def cInt (i : ℤ) : ℤ := (BitVec.ofInt 32 i).toInt

/-- `SQPyteQuery.bind_str`. -/
def Query.bind_str (i : ℤ) (s : List Byte) (q : Query κ) : Except Exc ℕ × Query κ :=
  match q.machine.cache.invalidate_all_outside with
  | .error e => (.error e, q)
  | .ok cache =>
    { q with machine := { q.machine with cache := cache } }.call
      (c_mems (sqlite3_bind_text B q.machine.nMem (cInt i) s (cInt s.length)))

/-- `SQPyteQuery.columnMem`. -/
def columnMem (i : ℤ) : MemM (Env κ) ℕ := do
  mem_with_index ((← ask Env.result_set_index) + i)

/-- `SQPyteQuery.column_type`. -/
def column_type (iCol : ℤ) : MemM (Env κ) ℕ := do sqlite3_value_type (← columnMem iCol)

/-- `SQPyteQuery.column_text`. -/
def column_text (iCol : ℤ) : MemM (Env κ) (Option (List Byte)) := do
  onWorld (sqlite3ValueText B.lib (← columnMem iCol) SQLITE_UTF8)

/-- `SQPyteQuery.column_bytes`. -/
def column_bytes (iCol : ℤ) : MemM (Env κ) ℤ := do
  onWorld (sqlite3ValueBytes B.lib (← columnMem iCol) SQLITE_UTF8)

/-- `SQPyteQuery.column_int64`. -/
def column_int64 (iCol : ℤ) : MemM (Env κ) ℤ := do
  onWorld (sqlite3VdbeIntValue B.lib (← columnMem iCol))

/-- `SQPyteQuery.column_double`. -/
def column_double (iCol : ℤ) : MemM (Env κ) Binary64 := do
  onWorld (sqlite3VdbeRealValue B.lib (← columnMem iCol))

end calls

/-! ## Events -/

/-- A method that is called between two calls of `mainloop`. -/
inductive Method where
  | reset_query
  | bind_int64 (i : ℤ) (val : BitVec 64)
  | bind_double (i : ℤ) (val : Binary64)
  | bind_null (i : ℤ)
  | bind_str (i : ℤ) (s : List Byte)
  | column_type (iCol : ℤ)
  | column_text (iCol : ℤ)
  | column_bytes (iCol : ℤ)
  | column_int64 (iCol : ℤ)
  | column_double (iCol : ℤ)

/-- What can happen to a query. -/
inductive Event (κ : Type) where
  /-- `mainloop` is called. -/
  | mainloop
  /-- The loop goes around once. -/
  | turn
  /-- Another method is called. -/
  | method (method : Method)
  /-- Something happens elsewhere in the process: other statements run, on this connection too. -/
  | elsewhere (world : κ) (db : Connection) (lastRowid : ℤ) (expired : Bool)

section step

variable {κ : Type} (B : Backend κ)

/-- A call of a method: the exception it ends with, if any, and the query. -/
def Query.invoke (q : Query κ) : Method → Except Exc Unit × Query κ
  | .reset_query => q.reset_query B
  | .bind_int64 i val => (q.call (bind_int64 B i val)).map (·.map fun _ => ()) id
  | .bind_double i val => (q.call (bind_double B i val)).map (·.map fun _ => ()) id
  | .bind_null i => (q.call (bind_null B i)).map (·.map fun _ => ()) id
  | .bind_str i s => (q.bind_str B i s).map (·.map fun _ => ()) id
  | .column_type iCol => (q.call (column_type iCol)).map (·.map fun _ => ()) id
  | .column_text iCol => (q.call (column_text B iCol)).map (·.map fun _ => ()) id
  | .column_bytes iCol => (q.call (column_bytes B iCol)).map (·.map fun _ => ()) id
  | .column_int64 iCol => (q.call (column_int64 B iCol)).map (·.map fun _ => ()) id
  | .column_double iCol => (q.call (column_double B iCol)).map (·.map fun _ => ()) id

/-- The process did something else. -/
def Query.disturb (q : Query κ) (world : κ) (db : Connection) (lastRowid : ℤ) (expired : Bool) :
    Query κ :=
  let e := q.machine.rest
  { q with machine := { q.machine with rest := { e with
    p := { e.p with expired := expired }, db := db, lastRowid := lastRowid, world := world } } }

/-- What an event does. -/
def Query.step (program : Program) (q : Query κ) : Event κ → Option (Query κ)
  | .mainloop =>
    match q.control with
    | .outside _ => some q.enter
    | .inside _ _ _ => none
  | .turn =>
    match q.control with
    | .outside _ => none
    | .inside pc rc cache_state => some (q.turn B program pc rc cache_state)
  | .method method =>
    match q.control with
    | .outside _ => some (q.invoke B method).2
    | .inside _ _ _ => none
  | .elsewhere world db lastRowid expired => some (q.disturb world db lastRowid expired)

/-- A method that binds a parameter. -/
def Method.binds : Method → Bool
  | .bind_int64 _ _ | .bind_double _ _ | .bind_null _ | .bind_str _ _ => true
  | _ => false

/-- A query as `prepare` leaves it. -/
structure Query.Prepared (q : Query κ) : Prop where
  /-- `mainloop` was not called. -/
  control : q.control = .outside .fresh
  /-- The statement is ready to run. -/
  magic : q.machine.rest.p.magic = .RUN
  /-- It is not running. -/
  pc : q.machine.rest.p.pc = -1
  /-- There is no current row. -/
  result_set_index : q.machine.rest.result_set_index = -1
  /-- The flag cache is new. -/
  cache : q.machine.cache.toCacheHolder =
    CacheHolder.init q.machine.mems.length q.machine.cache.use_cache
  /-- The registers are there. -/
  nMem : q.machine.nMem < q.machine.mems.length
  /-- No parameter is bound. -/
  vars : ∀ pVar ∈ q.machine.mems.drop (q.machine.nMem + 1), pVar.flags = MEM_Null

end step

/-! ## A process for concrete runs -/

/-- A connection on which nothing fails and every other opcode does nothing. -/
def Backend.quiet : Backend Unit where
  lib := CLib.decimal
  enc := SQLITE_UTF8
  limit := 1000000000
  body _ pc _ := pure (.next (pc + 1) .ok)
  func_exists_in_python _ := false
  fkViolated _ := false
  closeStatement w := (.ok, w)
  closeCursors w := w
  commit _ w := (some .ok, w)
  mallocFailed _ := false
  setMallocFailed w := w
  clearMallocFailed w := w
  resetSchema w := w

/-- A statement as `sqlite3_prepare_v2` leaves it. -/
def Vdbe.prepared (nResColumn : ℕ) (expmask : BitVec 32) : Vdbe where
  magic := .RUN
  pc := -1
  rc := SQLITE_OK
  errorAction := OE_Abort
  pResultSet := none
  nResColumn := nResColumn
  expmask := expmask
  expired := false
  cacheCtr := 1
  readOnly := true
  bIsReader := true
  runOnlyOnce := false

/-- A new query for the statement `p`. -/
def Query.prepared (p : Vdbe) (mems : List Mem) (nMem : ℕ) : Query Unit where
  machine := { mems := mems, nMem := nMem
               cache := { CacheHolder.init mems.length true with table := [], jitted := false }
               rest := ⟨p, ⟨0, 0, 0, 0⟩, 0, -1, ()⟩ }
  control := .outside .fresh

/-- An opcode without its fourth and fifth operand. -/
def Op.simple (opcode : Opcode) (p1 p2 p3 : ℤ) : Op := ⟨opcode, p1, p2, p3, .NOTUSED, 0⟩

end SQPyte
