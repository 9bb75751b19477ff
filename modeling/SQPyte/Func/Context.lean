import SQPyte.Library.Binary64Arith
import SQPyte.Vdbe.Op

/-!
# Aggregates in Python

The context of an aggregate is an object in the attribute `_python_ctx` of the wrapper of its
accumulator register, outside the cell. `OP_AggStep` makes it at the first row and steps it, and
`OP_AggFinal` finalises it and takes it away. The contexts of `count`, `sum` and `avg` are those of
the source. The classes that a user registers are a parameter.

Integers of Python are unbounded, except that `iSum` is checked for overflow.
-/

namespace SQPyte

/-- The attributes of an `AbstractSumCtx`. -/
structure SumState where
  /-- Floating point sum. -/
  rSum : Binary64 := 0
  /-- Integer sum. -/
  iSum : ℤ := 0
  /-- Number of elements summed. -/
  cnt : ℤ := 0
  /-- True if integer overflow seen. -/
  overflow : Bool := false
  /-- True if non-integer value was input to the sum. -/
  approx : Bool := false
deriving DecidableEq, Repr

/-- An instance of a context class. The type `κ` is that of the objects of a user's classes. -/
inductive PyContext (κ : Type) where
  | CountCtx (n : ℤ)
  | SumCtx (self : SumState)
  | AvgCtx (self : SumState)
  | user (self : κ)
deriving DecidableEq, Repr

/-- A context class. The class `Context` stands for an aggregate that is left to C. -/
inductive ContextClass where
  | CountCtx
  | SumCtx
  | AvgCtx
  | Context
  | user (index : ℕ)
deriving DecidableEq, Repr

/-- `python_context_class`. -/
def Func.python_context_class : Func → ContextClass
  | .CFunc name nArg =>
    if name = "count" then .CountCtx
    else if name = "sum" ∧ nArg = 1 then .SumCtx
    else if name = "avg" ∧ nArg = 1 then .AvgCtx
    else .Context
  | .RPyAggregate index => .user index

/-- `agg_exists_in_python`. -/
def Func.agg_exists_in_python (func : Func) : Bool := func.python_context_class != .Context

/-- The attributes `_python_ctx` of the registers, with the rest of the state. -/
structure Wrappers (κ ρ : Type) where
  /-- The attribute of each register's wrapper. -/
  _python_ctx : ℕ → Option (PyContext κ)
  /-- Everything else. -/
  rest : ρ

/-- `mem._python_ctx = ctx`. -/
def Wrappers.set {κ ρ : Type} (r : Wrappers κ ρ) (mem : ℕ) (ctx : Option (PyContext κ)) :
    Wrappers κ ρ :=
  { r with _python_ctx := Function.update r._python_ctx mem ctx }

/-- The context classes of a user, by their index in the registry. -/
structure UserClasses (κ ρ : Type) where
  /-- `cls(func)`. -/
  new : ℕ → κ
  /-- `self.step(args)`. -/
  step : κ → List ℕ → MemM (Wrappers κ ρ) κ
  /-- `cls.finalize(self, memout)`. -/
  finalize : ℕ → Option (PyContext κ) → ℕ → MemM (Wrappers κ ρ) Unit

variable {κ ρ : Type} (L : CLib (Wrappers κ ρ)) (U : UserClasses κ ρ)

/-! ## The methods of the contexts -/

/-- `CountCtx.step`. -/
def CountCtx.step (n : ℤ) (args : List ℕ) : MemM ρ ℤ := do
  match args with
  | [] => return n + 1
  | arg :: _ => if (← sqlite3_value_type arg) ≠ SQLITE_NULL then return n + 1 else return n

/-- The integer sum with one more integer. -/
def SumState.addInt (self : SumState) (v : ℤ) : SumState :=
  if !self.approx && !self.overflow then
    if -2^63 ≤ self.iSum + v ∧ self.iSum + v < 2^63 then { self with iSum := self.iSum + v }
    else { self with overflow := true }
  else self

/-- `AbstractSumCtx.step`. -/
def AbstractSumCtx.step (self : SumState) (args : List ℕ) : MemM (Wrappers κ ρ) SumState := do
  match args with
  | [arg] =>
    let typ ← sqlite3_value_numeric_type L arg
    let self := { self with cnt := self.cnt + 1 }
    if typ = SQLITE_INTEGER then
      let v ← sqlite3VdbeIntValue L arg
      return { self with rSum := self.rSum.add (Binary64.ofInt v) }.addInt v
    else
      return { self with rSum := self.rSum.add (← sqlite3VdbeRealValue L arg), approx := true }
  | _ => throwExc .value

/-- `CountCtx.finalize`. -/
def CountCtx.finalize (self : Option (PyContext κ)) (memout : ℕ) : MemM (Wrappers κ ρ) Unit :=
  match self with
  | none => sqlite3VdbeMemSetInt64 L memout 0 false
  | some (.CountCtx n) => sqlite3VdbeMemSetInt64 L memout n false
  | some _ => throwExc .assertion

/-- `SumCtx.finalize`. -/
def SumCtx.finalize (self : Option (PyContext κ)) (memout : ℕ) : MemM (Wrappers κ ρ) Unit :=
  match self with
  | none => pure ()
  | some (.SumCtx self) =>
    if self.cnt > 0 then
      if self.overflow then throwExc .function
      else if self.approx then sqlite3VdbeMemSetDouble L memout self.rSum
      else sqlite3VdbeMemSetInt64 L memout self.iSum false
    else pure ()
  | some _ => throwExc .assertion

/-- `AvgCtx.finalize`. -/
def AvgCtx.finalize (self : Option (PyContext κ)) (memout : ℕ) : MemM (Wrappers κ ρ) Unit :=
  match self with
  | none => pure ()
  | some (.AvgCtx self) =>
    if self.cnt > 0 then
      sqlite3VdbeMemSetDouble L memout (self.rSum.div (Binary64.ofInt self.cnt))
    else pure ()
  | some _ => throwExc .assertion

/-! ## Any context -/

/-- `cls(func)`. The class `Context` is never called. -/
def ContextClass.new : ContextClass → Option (PyContext κ)
  | .CountCtx => some (.CountCtx 0)
  | .SumCtx => some (.SumCtx {})
  | .AvgCtx => some (.AvgCtx {})
  | .Context => none
  | .user index => some (.user (U.new index))

/-- `p.step(args)`: the method of the class of the object. -/
def PyContext.step (args : List ℕ) : PyContext κ → MemM (Wrappers κ ρ) (PyContext κ)
  | .CountCtx n => .CountCtx <$> CountCtx.step n args
  | .SumCtx self => .SumCtx <$> AbstractSumCtx.step L self args
  | .AvgCtx self => .AvgCtx <$> AbstractSumCtx.step L self args
  | .user self => .user <$> U.step self args

/-- `cls.finalize(p, memout)`: the static method of the class of the function. -/
def ContextClass.finalize (cls : ContextClass) (p : Option (PyContext κ)) (memout : ℕ) :
    MemM (Wrappers κ ρ) Unit :=
  match cls with
  | .CountCtx => CountCtx.finalize L p memout
  | .SumCtx => SumCtx.finalize L p memout
  | .AvgCtx => AvgCtx.finalize L p memout
  | .Context => throwExc .attribute
  | .user index => U.finalize index p memout

/-! ## The opcodes -/

/-- `mem._python_ctx`. -/
def get_python_ctx (mem : ℕ) : MemM (Wrappers κ ρ) (Option (PyContext κ)) :=
  other fun r => .ok (r._python_ctx mem, r)

/-- `mem._python_ctx = ctx`. -/
def set_python_ctx (mem : ℕ) (ctx : Option (PyContext κ)) : MemM (Wrappers κ ρ) Unit :=
  other fun r => .ok ((), r.set mem ctx)

/-- `aggregate_context`. -/
def aggregate_context (mem : ℕ) (cls : ContextClass) : MemM (Wrappers κ ρ) (PyContext κ) := do
  match ← get_python_ctx mem with
  | some ctx => return ctx
  | none =>
    match cls.new U with
    | none => throwExc .attribute
    | some ctx =>
      set_python_ctx mem (some ctx)
      return ctx

/-- `[hlquery.mem_with_index(index + i) for i in range(numargs)]`. -/
def argMems (index : ℤ) (numargs : ℕ) : MemM ρ (List ℕ) :=
  (List.range numargs).mapM fun i : ℕ => mem_with_index (index + i)

/-- `aggstep_in_python`. The step changes the object that is in the attribute. -/
def aggstep_in_python (func : Func) (op : Op) : MemM (Wrappers κ ρ) ℕ := do
  let cls := func.python_context_class
  let args ← argMems op.p2 op.p5.toNat
  let mem ← op.mem_of_p3
  let p ← aggregate_context U mem cls
  let p ← p.step L U args
  set_python_ctx mem (some p)
  return 0

/-- `aggfinal_in_python`. -/
def aggfinal_in_python (func : Func) (memout : ℕ) : MemM (Wrappers κ ρ) ℕ := do
  let cls := func.python_context_class
  let p ← get_python_ctx memout
  cls.finalize L U p memout
  set_python_ctx memout none
  return 0

/-- The aggregates that are left to C. -/
structure CAggregates (ρ : Type) where
  /-- `impl_OP_AggStep`. -/
  step : Op → List Mem → ρ → Except Exc (ℕ × List Mem × ρ)
  /-- `impl_OP_AggFinal`. -/
  final : Op → List Mem → ρ → Except Exc (ℕ × List Mem × ρ)

variable (C : CAggregates (Wrappers κ ρ))

/-- `OP_AggStep`. -/
def OP_AggStep (op : Op) : MemM (Wrappers κ ρ) ℕ :=
  match op.p4_pFunc with
  | none => throwExc .memory
  | some func =>
    if func.agg_exists_in_python then aggstep_in_python L U func op
    else do
      invalidate_caches
      c_mems (C.step op)

/-- `OP_AggFinal`. -/
def OP_AggFinal (op : Op) : MemM (Wrappers κ ρ) ℕ :=
  match op.p4_pFunc with
  | none => throwExc .memory
  | some func =>
    if func.agg_exists_in_python then do
      aggfinal_in_python L U func (← op.mem_of_p1)
    else do
      invalidate_caches
      c_mems (C.final op)

end SQPyte
