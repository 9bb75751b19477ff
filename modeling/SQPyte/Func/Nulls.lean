import SQPyte.Func.Context
import SQPyte.Mem.Results
import SQPyte.Mem.Value

/-!
# NULLs and the built-in aggregates

`count` leaves NULLs out, as it should. The step of `sum` and `avg` does not look for them, unlike
`sumStep` of `func.c`: a NULL counts as a row and as the double zero, and makes the sum a real.
`ignoresNulls_iff` says when the three aggregates still do what they should.

A step of a context changes the argument register and the context alone (`run_step`), so the context
after any number of rows is a fold over their values (`run_stepRows`).
-/

namespace SQPyte

open Commands

variable {κ ρ : Type} (L : CLib (Wrappers κ ρ)) (U : UserClasses κ ρ) (C : CAggregates (Wrappers κ ρ))

/-! ## One row -/

/-- The double that a value adds to a sum. -/
def sumTerm (v : Mem) : Binary64 :=
  let c := v.numericForm L
  if valueTypeOf c.flags = SQLITE_INTEGER then Binary64.ofInt (c.intValue L) else c.realValue L

/-- The sum with one more value. -/
def SumState.stepValue (self : SumState) (v : Mem) : SumState :=
  let c := v.numericForm L
  let self := { self with cnt := self.cnt + 1, rSum := self.rSum.add (sumTerm L v) }
  if valueTypeOf c.flags = SQLITE_INTEGER then self.addInt (c.intValue L)
  else { self with approx := true }

/-- A context with one more value. -/
def PyContext.stepValue (v : Mem) : PyContext κ → PyContext κ
  | .CountCtx n => .CountCtx (if valueTypeOf v.flags ≠ SQLITE_NULL then n + 1 else n)
  | .SumCtx self => .SumCtx (self.stepValue L v)
  | .AvgCtx self => .AvgCtx (self.stepValue L v)
  | .user self => .user self

/-- The context is one of the source. -/
def PyContext.BuiltIn : PyContext κ → Prop
  | .user _ => False
  | _ => True

/-- The value is NULL. -/
def Mem.isNull (v : Mem) : Bool := v.flags.has MEM_Null

variable {L U C} {s : Strict (Wrappers κ ρ)} {arg acc : ℕ} {c v : Mem} {w : Member}

/-- A context of a built-in aggregate stays one. -/
theorem PyContext.BuiltIn.stepValue {ctx : PyContext κ} (h : ctx.BuiltIn) (v : Mem) :
    (ctx.stepValue L v).BuiltIn := by
  cases ctx with
  | user self => exact h
  | _ => exact trivial

/-- A step of a sum takes the value in its numeric form. -/
theorem run_AbstractSumCtx_step (self : SumState) (h : s.At arg v w) (ha : Announces v w) :
    ∃ w', run (strictMachine _) (AbstractSumCtx.step L self [arg]) s =
        .ok (self.stepValue L v, s.setMem arg (v.numericForm L) w') ∧
      Announces (v.numericForm L) w' := by
  obtain ⟨w', htype, hann⟩ := h.run_sqlite3_value_numeric_type L
  have hat := h.setMem (v.numericForm L) w'
  refine ⟨w', ?_, hann ha⟩
  unfold AbstractSumCtx.step SumState.stepValue sumTerm
  simp only
  rw [run_bind_ok htype]
  by_cases ht : valueTypeOf (v.numericForm L).flags = SQLITE_INTEGER
  · rw [if_pos ht, if_pos ht, if_pos ht, run_bind_ok (hat.run_sqlite3VdbeIntValue L (hann ha)),
      run_pure]
  · rw [if_neg ht, if_neg ht, if_neg ht, run_bind_ok (hat.run_sqlite3VdbeRealValue L (hann ha)),
      run_pure]

/-- A step changes the argument register and the context alone. -/
theorem run_step {ctx : PyContext κ} (hctx : ctx.BuiltIn) (h : s.At arg v w)
    (ha : Announces v w) :
    ∃ c' w', run (strictMachine _) (ctx.step L U [arg]) s =
        .ok (ctx.stepValue L v, s.setMem arg c' w') ∧ Announces c' w' := by
  cases ctx with
  | CountCtx n =>
    refine ⟨v, w, ?_, ha⟩
    unfold PyContext.step PyContext.stepValue CountCtx.step
    have hrun : run (strictMachine _) (do
        if (← sqlite3_value_type arg) ≠ SQLITE_NULL then return n + 1 else return n) s =
          .ok (if valueTypeOf v.flags ≠ SQLITE_NULL then n + 1 else n, s) := by
      rw [run_bind_ok h.run_sqlite3_value_type]
      split_ifs <;> exact run_pure ..
    rw [run_map_ok hrun, h.setMem_self]
  | SumCtx self =>
    obtain ⟨w', hrun, hann⟩ := run_AbstractSumCtx_step (L := L) self h ha
    exact ⟨_, w', run_map_ok hrun _, hann⟩
  | AvgCtx self =>
    obtain ⟨w', hrun, hann⟩ := run_AbstractSumCtx_step (L := L) self h ha
    exact ⟨_, w', run_map_ok hrun _, hann⟩
  | user self => exact absurd hctx id

/-! ## Any number of rows -/

/-- `AggStep` of `func` on the argument register `arg` and the accumulator `acc`. -/
def aggStepOp (func : Func) (arg acc : ℕ) : Op := ⟨.AggStep, 0, arg, acc, .FUNCDEF func, 1#8⟩

/-- `AggFinal` of `func` on the accumulator `acc`. -/
def aggFinalOp (func : Func) (acc : ℕ) : Op := ⟨.AggFinal, acc, 1, 0, .FUNCDEF func, 0#8⟩

variable (L U C) in
/-- The rows of a query: each value is loaded into the argument register and then stepped. -/
def stepRows (func : Func) (arg acc : ℕ) : List Mem → MemM (Wrappers κ ρ) Unit
  | [] => pure ()
  | v :: vs => do
    c_mem_total arg fun _ r => ((), v, r)
    let _ ← OP_AggStep L U C (aggStepOp func arg acc)
    stepRows func arg acc vs

variable (L U C) in
/-- An aggregate over the rows. -/
def aggregateRows (func : Func) (arg acc : ℕ) (vs : List Mem) : MemM (Wrappers κ ρ) Unit := do
  stepRows L U C func arg acc vs
  let _ ← OP_AggFinal L U C (aggFinalOp func acc)

variable (L) in
/-- The context after the rows `vs`, from the context `ctx` and with new contexts `new`. -/
def contextAfter (new : PyContext κ) (ctx : Option (PyContext κ)) (vs : List Mem) :
    Option (PyContext κ) :=
  vs.foldl (fun ctx v => some ((ctx.getD new).stepValue L v)) ctx

/-- The only argument. -/
theorem argMems_one (arg : ℕ) (harg : IsRegister s.mems.length s.nMem arg) :
    run (strictMachine (Wrappers κ ρ)) (argMems arg 1) s = .ok ([arg], s) := by
  unfold argMems
  simp only [List.range_one, List.mapM_cons, List.mapM_nil, Nat.cast_zero, add_zero]
  rw [run_bind_ok (Strict.run_mem_with_index s harg.memIndex_eq)]
  rfl

/-- Reading the context of an accumulator. -/
theorem run_get_python_ctx (mem : ℕ) :
    run (strictMachine (Wrappers κ ρ)) (get_python_ctx mem) s =
      .ok (s.rest._python_ctx mem, s) := by
  unfold get_python_ctx SQPyte.other
  rw [run_perform, strictMachine]

/-- Writing the context of an accumulator. -/
theorem run_set_python_ctx (mem : ℕ) (ctx : Option (PyContext κ)) :
    run (strictMachine (Wrappers κ ρ)) (set_python_ctx mem ctx) s =
      .ok ((), { s with rest := s.rest.set mem ctx }) := by
  unfold set_python_ctx SQPyte.other
  rw [run_perform, strictMachine]

/-- The last of two writes to a context counts. -/
theorem Wrappers.set_set (r : Wrappers κ ρ) (mem : ℕ) (ctx ctx' : Option (PyContext κ)) :
    (r.set mem ctx).set mem ctx' = r.set mem ctx' := by
  unfold Wrappers.set
  rw [Function.update_idem]

/-- The context of an accumulator is the one there or a new one. -/
theorem run_aggregate_context {cls : ContextClass} {new : PyContext κ} (hnew : cls.new U = some new)
    (mem : ℕ) :
    ∃ s', run (strictMachine (Wrappers κ ρ)) (aggregate_context U mem cls) s =
        .ok ((s.rest._python_ctx mem).getD new, s') ∧
      (s' = s ∨ s' = { s with rest := s.rest.set mem (some new) }) := by
  unfold aggregate_context
  rw [run_bind_ok (run_get_python_ctx mem)]
  cases hctx : s.rest._python_ctx mem with
  | some ctx => exact ⟨s, rfl, Or.inl rfl⟩
  | none =>
    refine ⟨_, ?_, Or.inr rfl⟩
    dsimp only
    rw [hnew]
    dsimp only
    rw [run_bind_ok (run_set_python_ctx mem _), run_pure]
    rfl

/-- One row. -/
theorem run_row {func : Func} {new : PyContext κ} (hpy : func.agg_exists_in_python = true)
    (hnew : func.python_context_class.new U = some new) (hbuiltin : new.BuiltIn)
    (hctx : ∀ ctx, s.rest._python_ctx acc = some ctx → ctx.BuiltIn)
    (hat : s.At arg c w) (harg : IsRegister s.mems.length s.nMem arg)
    (hacc : IsRegister s.mems.length s.nMem acc) (v : Mem) :
    ∃ c' w', Announces c' w' ∧ run (strictMachine (Wrappers κ ρ)) (do
        c_mem_total arg fun _ r => ((), v, r)
        OP_AggStep L U C (aggStepOp func arg acc)) s =
      .ok (0, { s.setMem arg c' w' with
        rest := s.rest.set acc (some (((s.rest._python_ctx acc).getD new).stepValue L v)) }) := by
  have hload : run (strictMachine (Wrappers κ ρ)) (c_mem_total arg fun _ r => ((), v, r)) s =
      .ok ((), s.setMem arg v .foreign) := hat.run_c_mem rfl
  have hlen : (s.setMem arg v .foreign).mems.length = s.mems.length := List.length_set ..
  have hann : Announces v .foreign := ⟨fun _ => Or.inr rfl, fun _ => Or.inr rfl⟩
  rw [run_bind_ok hload]
  unfold OP_AggStep
  simp only [aggStepOp, Op.p4_pFunc]
  rw [if_pos hpy]
  unfold aggstep_in_python
  have hargs : run (strictMachine (Wrappers κ ρ)) (argMems arg 1) (s.setMem arg v .foreign) =
      .ok ([arg], s.setMem arg v .foreign) := argMems_one arg (hlen.symm ▸ harg)
  have hmem : run (strictMachine (Wrappers κ ρ)) (mem_with_index acc) (s.setMem arg v .foreign) =
      .ok (acc, s.setMem arg v .foreign) :=
    Strict.run_mem_with_index _ (by rw [hlen]; exact hacc.memIndex_eq)
  obtain ⟨s', hget, hs'⟩ := run_aggregate_context (s := s.setMem arg v .foreign) hnew acc
  have hget : run (strictMachine (Wrappers κ ρ))
      (aggregate_context U acc func.python_context_class) (s.setMem arg v .foreign) =
        .ok ((s.rest._python_ctx acc).getD new, s') := hget
  have hat' : s'.At arg v .foreign := by
    rcases hs' with rfl | rfl <;> exact hat.setMem v .foreign
  have hcur : ((s.rest._python_ctx acc).getD new).BuiltIn := by
    cases hc : s.rest._python_ctx acc with
    | none => exact hbuiltin
    | some ctx => exact hctx ctx hc
  obtain ⟨c', w', hstep, hann'⟩ := run_step (L := L) (U := U) hcur hat' hann
  refine ⟨c', w', hann', ?_⟩
  simp only [Op.mem_of_p3]
  rw [show (1#8 : BitVec 8).toNat = 1 from rfl, run_bind_ok hargs, run_bind_ok hmem,
    run_bind_ok hget, run_bind_ok hstep, run_bind_ok (run_set_python_ctx acc _), run_pure]
  rcases hs' with rfl | rfl
  · simp [Strict.setMem]
  · simp [Strict.setMem, Wrappers.set_set]

/-- The rows leave the accumulator register alone, and their context in its wrapper. -/
structure Stepped (acc : ℕ) (s s' : Strict (Wrappers κ ρ)) (ctx : Option (PyContext κ)) : Prop where
  /-- There are as many cells. -/
  length : s'.mems.length = s.mems.length
  /-- There are as many registers. -/
  nMem : s'.nMem = s.nMem
  /-- The accumulator register. -/
  register : ∀ c w, s.At acc c w → s'.At acc c w
  /-- The context. -/
  ctx : s'.rest._python_ctx acc = ctx

/-- The context after any number of rows is the fold over them. -/
theorem run_stepRows {func : Func} {new : PyContext κ} (hpy : func.agg_exists_in_python = true)
    (hnew : func.python_context_class.new U = some new) (hbuiltin : new.BuiltIn) (hne : arg ≠ acc)
    (vs : List Mem) :
    ∀ s : Strict (Wrappers κ ρ), (∀ ctx, s.rest._python_ctx acc = some ctx → ctx.BuiltIn) →
      IsRegister s.mems.length s.nMem arg → IsRegister s.mems.length s.nMem acc →
      ∃ s', run (strictMachine (Wrappers κ ρ)) (stepRows L U C func arg acc vs) s = .ok ((), s') ∧
        Stepped acc s s' (contextAfter L new (s.rest._python_ctx acc) vs) := by
  induction vs with
  | nil => exact fun s _ _ _ => ⟨s, rfl, rfl, rfl, fun _ _ h => h, rfl⟩
  | cons v vs ih =>
    intro s hctx harg hacc
    have hlt : arg < s.mems.length := by simpa using harg.lt
    have hat : s.At arg s.mems[arg] (s.written arg) := ⟨List.getElem?_eq_getElem hlt, rfl⟩
    obtain ⟨c', w', -, hrow⟩ := run_row (L := L) (U := U) (C := C) hpy hnew hbuiltin hctx hat harg
      hacc v
    set s₁ : Strict (Wrappers κ ρ) := { s.setMem arg c' w' with
      rest := s.rest.set acc (some (((s.rest._python_ctx acc).getD new).stepValue L v)) } with hs₁
    have hctx₁ : s₁.rest._python_ctx acc =
        some (((s.rest._python_ctx acc).getD new).stepValue L v) := Function.update_self ..
    have hlen : s₁.mems.length = s.mems.length := List.length_set ..
    obtain ⟨s', hrun, hstepped⟩ := ih s₁ (by
      intro ctx h
      obtain rfl := Option.some.inj (hctx₁.symm.trans h)
      refine PyContext.BuiltIn.stepValue ?_ v
      cases hc : s.rest._python_ctx acc with
      | none => exact hbuiltin
      | some ctx => exact hctx ctx hc) (hlen.symm ▸ harg) (hlen.symm ▸ hacc)
    refine ⟨s', ?_, hstepped.length.trans hlen, hstepped.nMem, fun c w h => ?_, ?_⟩
    · unfold stepRows
      rw [← bind_assoc, run_bind_ok hrow, hrun]
    · exact hstepped.register c w (h.setMem_ne hne c' w')
    · rw [hstepped.ctx, hctx₁]
      rfl

/-! ## The state of a sum -/

/-- The context after some rows, from one that is there. -/
theorem contextAfter_some (new ctx : PyContext κ) (vs : List Mem) :
    contextAfter L new (some ctx) vs = some (vs.foldl (fun ctx v => ctx.stepValue L v) ctx) := by
  induction vs generalizing ctx with
  | nil => rfl
  | cons v vs ih => exact ih (ctx.stepValue L v)

/-- Without rows there is no context, and with some it is that of the rows. -/
theorem contextAfter_none (new : PyContext κ) (vs : List Mem) :
    contextAfter L new none vs =
      if vs = [] then none else some (vs.foldl (fun ctx v => ctx.stepValue L v) new) := by
  cases vs with
  | nil => rfl
  | cons v vs =>
    rw [if_neg (List.cons_ne_nil v vs)]
    exact contextAfter_some new (new.stepValue L v) vs

/-- `CountCtx` counts its steps. -/
theorem foldl_CountCtx (vs : List Mem) (n : ℤ) :
    vs.foldl (fun ctx v => ctx.stepValue L v) (PyContext.CountCtx (κ := κ) n) =
      .CountCtx (n + (vs.filter fun v => valueTypeOf v.flags ≠ SQLITE_NULL).length) := by
  induction vs generalizing n with
  | nil => simp
  | cons v vs ih =>
    rw [List.foldl_cons, List.filter_cons]
    have hstep : PyContext.stepValue L v (PyContext.CountCtx (κ := κ) n) =
        .CountCtx (if valueTypeOf v.flags ≠ SQLITE_NULL then n + 1 else n) := rfl
    rw [hstep]
    by_cases h : valueTypeOf v.flags ≠ SQLITE_NULL
    · rw [if_pos h, if_pos (by simpa using h), List.length_cons, ih]
      congr 1
      push_cast
      omega
    · rw [if_neg h, if_neg (by simpa using h), ih]

/-- `SumCtx` takes the steps of its sum. -/
theorem foldl_SumCtx (vs : List Mem) (st : SumState) :
    vs.foldl (fun ctx v => ctx.stepValue L v) (PyContext.SumCtx (κ := κ) st) =
      .SumCtx (vs.foldl (fun st v => st.stepValue L v) st) := by
  induction vs generalizing st with
  | nil => rfl
  | cons v vs ih => exact ih (st.stepValue L v)

/-- So does `AvgCtx`. -/
theorem foldl_AvgCtx (vs : List Mem) (st : SumState) :
    vs.foldl (fun ctx v => ctx.stepValue L v) (PyContext.AvgCtx (κ := κ) st) =
      .AvgCtx (vs.foldl (fun st v => st.stepValue L v) st) := by
  induction vs generalizing st with
  | nil => rfl
  | cons v vs ih => exact ih (st.stepValue L v)

/-- The integer sum does not count. -/
@[simp] theorem SumState.addInt_cnt (self : SumState) (v : ℤ) : (self.addInt v).cnt = self.cnt := by
  unfold addInt
  split_ifs <;> rfl

/-- Nor does it add to the real sum. -/
@[simp] theorem SumState.addInt_rSum (self : SumState) (v : ℤ) :
    (self.addInt v).rSum = self.rSum := by
  unfold addInt
  split_ifs <;> rfl

/-- Each step counts one row. -/
@[simp] theorem SumState.stepValue_cnt (self : SumState) (v : Mem) :
    (self.stepValue L v).cnt = self.cnt + 1 := by
  unfold stepValue
  dsimp only
  split_ifs <;> simp

/-- Each step adds one term to the real sum. -/
@[simp] theorem SumState.stepValue_rSum (self : SumState) (v : Mem) :
    (self.stepValue L v).rSum = self.rSum.add (sumTerm L v) := by
  unfold stepValue
  dsimp only
  split_ifs <;> simp

/-- Every row counts. -/
theorem foldl_cnt (vs : List Mem) (st : SumState) :
    (vs.foldl (fun st v => st.stepValue L v) st).cnt = st.cnt + vs.length := by
  induction vs generalizing st with
  | nil => simp
  | cons v vs ih =>
    rw [List.foldl_cons, ih, List.length_cons, SumState.stepValue_cnt]
    push_cast
    omega

variable (L) in
/-- The values added up as doubles, one after the other. -/
def floatSum (vs : List Mem) : Binary64 := vs.foldl (fun sum v => sum.add (sumTerm L v)) 0

/-- The real sum is the sum of the terms from the left. -/
theorem foldl_rSum (vs : List Mem) (st : SumState) :
    (vs.foldl (fun st v => st.stepValue L v) st).rSum =
      vs.foldl (fun sum v => sum.add (sumTerm L v)) st.rSum := by
  induction vs generalizing st with
  | nil => rfl
  | cons v vs ih =>
    rw [List.foldl_cons, List.foldl_cons, ih, SumState.stepValue_rSum]

/-! ## NULLs -/

/-- The type of a value is NULL exactly if the flag is set. -/
theorem valueTypeOf_eq_null_iff (f : Flags) : valueTypeOf f = SQLITE_NULL ↔ f.has MEM_Null = true := by
  have hlist : ∀ k : Fin 32, (_type_encoding_list ++ _type_encoding_list).getD k SQLITE_BLOB =
      SQLITE_NULL ↔ (k : ℕ) % 2 = 1 := by decide
  have hmask : (f &&& MEM_AffMask).toNat = f.toNat % 32 := by
    rw [BitVec.toNat_and]
    exact Nat.and_two_pow_sub_one_eq_mod f.toNat 5
  have hlt : f.toNat % 32 < 32 := Nat.mod_lt _ (by decide)
  unfold valueTypeOf
  rw [hmask, show (_type_encoding_list ++ _type_encoding_list).getD (f.toNat % 32) SQLITE_BLOB =
    SQLITE_NULL ↔ _ from hlist ⟨f.toNat % 32, hlt⟩]
  rw [MEM_Null, Flags.has_MEM_Null, BitVec.getLsbD]
  simp only [Nat.testBit_zero, decide_eq_true_eq]
  omega

/-- A NULL counts as a row and as the double zero, and makes the sum a real. -/
theorem stepValue_null {enc : ℕ} (self : SumState) (hv : v.IsValue enc) (hnull : v.isNull = true) :
    self.stepValue L v =
      { self with cnt := self.cnt + 1, rSum := self.rSum.add 0, approx := true } := by
  have htype := (valueTypeOf_eq_null_iff v.flags).mpr hnull
  obtain ⟨hi, hr, hs, hb⟩ := hv.null hnull
  have hform : v.numericForm L = v := by
    unfold Mem.numericForm
    rw [htype, if_neg (by decide)]
  have hterm : sumTerm L v = 0 := by
    unfold sumTerm Mem.realValue
    dsimp only
    rw [hform, htype, if_neg (by decide), hr, hi, Flags.has_or_right, hs, hb]
    rfl
  unfold SumState.stepValue
  dsimp only
  rw [hterm, hform, htype, if_neg (by decide)]

/-- NULLs alone add up to the double zero, without an overflow. -/
theorem foldl_nulls {enc : ℕ} (vs : List Mem) (hvs : ∀ v ∈ vs, v.IsValue enc)
    (hnull : ∀ v ∈ vs, v.isNull = true) (st : SumState) (h0 : st.rSum = 0) :
    let st' := vs.foldl (fun st v => st.stepValue L v) st
    st'.rSum = 0 ∧ st'.overflow = st.overflow ∧ (vs ≠ [] ∨ st.approx = true → st'.approx = true) := by
  induction vs generalizing st with
  | nil => exact ⟨h0, rfl, fun h => h.resolve_left fun h => h rfl⟩
  | cons v vs ih =>
    have hstep := stepValue_null (L := L) st (hvs v List.mem_cons_self) (hnull v List.mem_cons_self)
    obtain ⟨hr, ho, ha⟩ := ih (fun v h => hvs v (List.mem_cons_of_mem _ h))
      (fun v h => hnull v (List.mem_cons_of_mem _ h)) (st.stepValue L v) (by
        rw [hstep, h0]
        show Binary64.add 0 0 = 0
        decide)
    refine ⟨hr, ?_, fun _ => ha (Or.inr ?_)⟩
    · rw [List.foldl_cons, ho, hstep]
    · rw [hstep]

/-! ## The outcome -/

/-- An accumulator before its first row, and the register that its arguments are in. -/
structure Accumulator (enc : ℕ) (m : Machine (Wrappers κ ρ)) (arg acc : ℕ) : Prop where
  /-- The cache knows nothing false. -/
  sound : m.Sound
  /-- The argument is a register. -/
  arg_register : IsRegister m.mems.length m.nMem arg
  /-- The accumulator is a register. -/
  acc_register : IsRegister m.mems.length m.nMem acc
  /-- The accumulator is not the argument. -/
  ne : arg ≠ acc
  /-- The accumulator is NULL. -/
  null : ∃ c : Mem, m.mems[acc]? = some c ∧ c.IsValue enc ∧ c.isNull = true
  /-- It has no context. -/
  ctx : m.rest._python_ctx acc = none

variable (L U C) in
/-- What is in the accumulator in the end. -/
def aggregated (func : Func) (m : Machine (Wrappers κ ρ)) (arg acc : ℕ) (vs : List Mem) :
    Except Exc (Option Mem) :=
  (execute (aggregateRows L U C func arg acc vs) m).map fun x => x.2.1[acc]?

variable (L U C) in
/-- The context before the end. -/
def steppedContext (func : Func) (m : Machine (Wrappers κ ρ)) (arg acc : ℕ) (vs : List Mem) :
    Except Exc (Option (PyContext κ)) :=
  (execute (stepRows L U C func arg acc vs) m).map fun x => x.2.2._python_ctx acc

/-- `OP_AggFinal` finishes the context and takes it off the accumulator. -/
theorem run_OP_AggFinal {func : Func} (hpy : func.agg_exists_in_python = true)
    (hacc : IsRegister s.mems.length s.nMem acc) :
    run (strictMachine (Wrappers κ ρ)) (OP_AggFinal L U C (aggFinalOp func acc)) s =
      (run (strictMachine (Wrappers κ ρ))
        (func.python_context_class.finalize L U (s.rest._python_ctx acc) acc) s).map
          fun x => (0, { x.2 with rest := x.2.rest.set acc none }) := by
  have hmem : run (strictMachine (Wrappers κ ρ)) (mem_with_index acc) s = .ok (acc, s) :=
    Strict.run_mem_with_index s hacc.memIndex_eq
  unfold OP_AggFinal aggfinal_in_python Op.mem_of_p1
  simp only [aggFinalOp, Op.p4_pFunc, hpy, ↓reduceIte]
  rw [run_bind_ok hmem, run_bind_ok (run_get_python_ctx acc), run_bind]
  cases run (strictMachine (Wrappers κ ρ))
    (func.python_context_class.finalize L U (s.rest._python_ctx acc) acc) s with
  | error e => rfl
  | ok x =>
    show run _ _ x.2 = _
    rw [run_bind_ok (run_set_python_ctx acc none), run_pure]
    rfl

section outcome

variable {enc : ℕ} {m : Machine (Wrappers κ ρ)} {func : Func} {new : PyContext κ}

/-- `OP_AggStep` on every row steps the context by every value. -/
theorem run_rows (h : Accumulator enc m arg acc) (hpy : func.agg_exists_in_python = true)
    (hnew : func.python_context_class.new U = some new) (hbuiltin : new.BuiltIn) (vs : List Mem)
    (written : ℕ → Member) :
    ∃ s', run (strictMachine (Wrappers κ ρ)) (stepRows L U C func arg acc vs) (m.strict written) =
        .ok ((), s') ∧ Stepped acc (m.strict written) s' (contextAfter L new none vs) := by
  have hnone : (m.strict written).rest._python_ctx acc = none := h.ctx
  rw [← hnone]
  refine run_stepRows hpy hnew hbuiltin h.ne vs (m.strict written) (fun ctx hctx => ?_)
    h.arg_register h.acc_register
  rw [hnone] at hctx
  cases hctx

/-- The rows return, with the fold over them as the context. -/
theorem steppedContext_eq (h : Accumulator enc m arg acc) (hpy : func.agg_exists_in_python = true)
    (hnew : func.python_context_class.new U = some new) (hbuiltin : new.BuiltIn) (vs : List Mem) :
    steppedContext L U C func m arg acc vs = .ok (contextAfter L new none vs) := by
  obtain ⟨written, hR, -⟩ := h.sound
  obtain ⟨s', hrun, hs'⟩ := run_rows (L := L) (C := C) h hpy hnew hbuiltin vs written
  unfold steppedContext
  rw [execute_of_strict hR hrun]
  simp only [Except.map, hs'.ctx]

/-- What the finalisation of the fold over the rows leaves in the accumulator. -/
theorem aggregated_of {cls : ContextClass} (new : PyContext κ) (P : Except Exc (Option Mem) → Prop)
    (h : Accumulator enc m arg acc) (hcls : func.python_context_class = cls) (hne : cls ≠ .Context)
    (hnew : cls.new U = some new) (hbuiltin : new.BuiltIn) (vs : List Mem)
    (hfinal : ∀ (s : Strict (Wrappers κ ρ)) c w, s.At acc c w → c.IsValue enc → c.isNull = true →
      match run (strictMachine (Wrappers κ ρ))
          (cls.finalize L U (contextAfter L new none vs) acc) s with
      | .error (some e) => P (.error e)
      | .error none => False
      | .ok x => P (.ok x.2.mems[acc]?)) :
    P (aggregated L U C func m arg acc vs) := by
  subst hcls
  have hpy : func.agg_exists_in_python = true := by
    unfold Func.agg_exists_in_python
    simpa using hne
  obtain ⟨written, hR, -⟩ := h.sound
  obtain ⟨c, hc, hvalue, hnull⟩ := h.null
  -- All rows are stepped first; the context is then folded over them and the accumulator still
  -- NULL.
  obtain ⟨s', hrun, hs'⟩ := run_rows (L := L) (C := C) h hpy hnew hbuiltin vs written
  have hacc : IsRegister s'.mems.length s'.nMem acc := by
    rw [hs'.length, hs'.nMem]
    exact h.acc_register
  have hfinal := hfinal s' c _ (hs'.register c (written acc) ⟨hc, rfl⟩) hvalue hnull
  have hlast := run_OP_AggFinal (L := L) (U := U) (C := C) (s := s') hpy hacc
  rw [hs'.ctx] at hlast
  unfold aggregated
  -- What `finalize` does is what the whole run does.
  cases hr : run (strictMachine (Wrappers κ ρ)) (func.python_context_class.finalize L U
      (contextAfter L new none vs) acc) s' with
  | error e =>
    rw [hr] at hfinal hlast
    cases e with
    | none => exact absurd hfinal id
    | some e =>
      have hall : run (strictMachine (Wrappers κ ρ)) (aggregateRows L U C func arg acc vs)
          (m.strict written) = .error (some e) := by
        unfold aggregateRows
        rw [run_bind_ok hrun, run_bind_error hlast]
      rw [execute_of_strict_error hR hall]
      exact hfinal
  | ok x =>
    rw [hr] at hfinal hlast
    have hall : run (strictMachine (Wrappers κ ρ)) (aggregateRows L U C func arg acc vs)
        (m.strict written) = .ok ((), { x.2 with rest := x.2.rest.set acc none }) := by
      unfold aggregateRows
      rw [run_bind_ok hrun, run_bind_ok hlast, run_pure]
    rw [execute_of_strict hR hall]
    exact hfinal

/-- The outcome is a NULL in the accumulator. -/
def IsNullOutcome (r : Except Exc (Option Mem)) : Prop := ∃ c : Mem, r = .ok (some c) ∧ c.isNull = true

/-- An outcome is NULL if its cell is. -/
theorem isNullOutcome_ok (c : Mem) : IsNullOutcome (.ok (some c)) ↔ c.isNull = true := by
  constructor
  · rintro ⟨c', h, hnull⟩
    obtain rfl := Option.some.inj (Except.ok.inj h)
    exact hnull
  · exact fun h => ⟨c, rfl, h⟩

/-- `count(x)`, `sum(x)` and `avg(x)`. -/
def countFunc : Func := .CFunc "count" 1
@[inherit_doc countFunc] def sumFunc : Func := .CFunc "sum" 1
@[inherit_doc countFunc] def avgFunc : Func := .CFunc "avg" 1

/-- The context of `count`. -/
theorem countFunc_class : countFunc.python_context_class = .CountCtx := by decide

/-- The context of `sum`. -/
theorem sumFunc_class : sumFunc.python_context_class = .SumCtx := by decide

/-- The context of `avg`. -/
theorem avgFunc_class : avgFunc.python_context_class = .AvgCtx := by decide

/-- The values other than NULL. -/
def nonNull (vs : List Mem) : List Mem := vs.filter fun v => !v.isNull

/-- The accumulator that was written is read. -/
theorem getElem?_setMem {c : Mem} {w : Member} (hat : s.At acc c w) (c' : Mem) (w' : Member) :
    (s.setMem acc c' w').mems[acc]? = some c' := List.getElem?_set_self hat.lt

/-- `count` leaves the number of values other than NULL. -/
theorem aggregated_count (h : Accumulator enc m arg acc) (vs : List Mem) :
    ∃ c : Mem, aggregated L U C countFunc m arg acc vs = .ok (some c) ∧ c.flags = MEM_Int ∧
      c.u = BitVec.ofInt 64 (nonNull vs).length := by
  refine aggregated_of (.CountCtx 0) (fun r => ∃ c : Mem, r = .ok (some c) ∧
    c.flags = MEM_Int ∧ c.u = BitVec.ofInt 64 (nonNull vs).length) h countFunc_class (by decide) rfl
    trivial vs fun s c w hat hvalue hnull => ?_
  have hfilter : (vs.filter fun v => valueTypeOf v.flags ≠ SQLITE_NULL) = nonNull vs := by
    refine List.filter_congr fun v _ => ?_
    rw [Bool.eq_iff_iff, decide_eq_true_eq, ne_eq, valueTypeOf_eq_null_iff, Bool.not_eq_true,
      Bool.not_eq_true']
    rfl
  have hset : ∀ n : ℤ, n = (nonNull vs).length →
      match run (strictMachine (Wrappers κ ρ)) (sqlite3VdbeMemSetInt64 L acc n false) s with
      | .error (some e) => ∃ c : Mem, (.error e : Except Exc (Option Mem)) = .ok (some c) ∧
          c.flags = MEM_Int ∧ c.u = BitVec.ofInt 64 (nonNull vs).length
      | .error none => False
      | .ok x => ∃ c : Mem, (.ok x.2.mems[acc]? : Except Exc (Option Mem)) = .ok (some c) ∧
          c.flags = MEM_Int ∧ c.u = BitVec.ofInt 64 (nonNull vs).length := by
    rintro n rfl
    rw [hat.run_sqlite3VdbeMemSetInt64 L]
    exact ⟨_, congrArg Except.ok (getElem?_setMem hat _ .i), rfl, rfl⟩
  rw [contextAfter_none]
  by_cases hvs : vs = []
  · rw [if_pos hvs]
    exact hset 0 (by rw [hvs]; rfl)
  · rw [if_neg hvs, foldl_CountCtx, hfilter]
    exact hset _ (Int.zero_add _)

/-- What storing a double leaves is NULL if the double is a NaN. -/
theorem setDouble_null_iff {val : Binary64} {w : Member} (hat : s.At acc c w)
    (hvalue : c.IsValue enc) {P : Prop} (hP : val.isNaN = true ↔ P) :
    match run (strictMachine (Wrappers κ ρ)) (sqlite3VdbeMemSetDouble L acc val) s with
    | .error (some e) => IsNullOutcome (.error e) ↔ P
    | .error none => False
    | .ok x => IsNullOutcome (.ok x.2.mems[acc]?) ↔ P := by
  rw [← hP]
  cases hval : val.isNaN with
  | true =>
    rw [hat.run_sqlite3VdbeMemSetDouble_nan L hval hvalue.plain.2.1 hvalue.plain.1]
    show IsNullOutcome (.ok (s.setMem acc _ w).mems[acc]?) ↔ _
    rw [getElem?_setMem hat _, isNullOutcome_ok]
    simp [Mem.isNull, withTypeFlag]
  | false =>
    rw [hat.run_sqlite3VdbeMemSetDouble L hval]
    show IsNullOutcome (.ok (s.setMem acc _ .r).mems[acc]?) ↔ _
    rw [getElem?_setMem hat _, isNullOutcome_ok]
    simp [Mem.isNull]

/-- `avg` is NULL without rows, and where the quotient is no number. -/
theorem aggregated_avg_null_iff (h : Accumulator enc m arg acc) (vs : List Mem) :
    IsNullOutcome (aggregated L U C avgFunc m arg acc vs) ↔
      vs = [] ∨ ((floatSum L vs).div (Binary64.ofInt vs.length)).isNaN = true := by
  refine aggregated_of (.AvgCtx {}) (fun r => IsNullOutcome r ↔ vs = [] ∨
    ((floatSum L vs).div (Binary64.ofInt vs.length)).isNaN = true) h avgFunc_class (by decide) rfl
    trivial vs fun s c w hat hvalue hnull => ?_
  rw [contextAfter_none]
  by_cases hvs : vs = []
  · rw [if_pos hvs]
    show IsNullOutcome (.ok s.mems[acc]?) ↔ _
    rw [hat.1, isNullOutcome_ok]
    simp only [hnull, hvs, true_or]
  · rw [if_neg hvs, foldl_AvgCtx]
    have hcnt := foldl_cnt (L := L) vs {}
    have hsum : (vs.foldl (fun st v => st.stepValue L v) ({} : SumState)).rSum = floatSum L vs :=
      foldl_rSum vs {}
    have hpos : (0 : ℤ) < vs.length := by
      have := List.length_pos_iff.mpr hvs
      omega
    rw [show ({} : SumState).cnt = 0 from rfl, zero_add] at hcnt
    dsimp only [ContextClass.finalize, AvgCtx.finalize]
    rw [hcnt, hsum, if_pos hpos]
    exact setDouble_null_iff hat hvalue ⟨Or.inr, fun h => h.resolve_left hvs⟩

/-- `sum` is NULL without rows, and where a sum of doubles is no number. -/
theorem aggregated_sum_null_iff (h : Accumulator enc m arg acc) (vs : List Mem) :
    IsNullOutcome (aggregated L U C sumFunc m arg acc vs) ↔
      vs = [] ∨ ((vs.foldl (fun st v => st.stepValue L v) ({} : SumState)).overflow = false ∧
        (vs.foldl (fun st v => st.stepValue L v) ({} : SumState)).approx = true ∧
        (floatSum L vs).isNaN = true) := by
  set st := vs.foldl (fun st v => st.stepValue L v) ({} : SumState) with hst
  refine aggregated_of (.SumCtx {}) (fun r => IsNullOutcome r ↔ vs = [] ∨
    (st.overflow = false ∧ st.approx = true ∧ (floatSum L vs).isNaN = true)) h sumFunc_class
    (by decide) rfl trivial vs fun s c w hat hvalue hnull => ?_
  rw [contextAfter_none]
  -- Without a row the accumulator stays NULL.
  by_cases hvs : vs = []
  · rw [if_pos hvs]
    show IsNullOutcome (.ok s.mems[acc]?) ↔ _
    rw [hat.1, isNullOutcome_ok]
    simp only [hnull, hvs, true_or]
  · rw [if_neg hvs, foldl_SumCtx]
    have hcnt : st.cnt = vs.length := (foldl_cnt vs {}).trans (zero_add _)
    have hsum : st.rSum = floatSum L vs := foldl_rSum vs {}
    have hpos : st.cnt > 0 := by
      have := List.length_pos_iff.mpr hvs
      omega
    dsimp only [ContextClass.finalize, SumCtx.finalize]
    rw [← hst, if_pos hpos]
    -- An overflow raises, an integer is not NULL, and a real is NULL when it is not a number.
    cases hover : st.overflow with
    | true =>
      show IsNullOutcome (.error .function) ↔ _
      constructor
      · rintro ⟨c, hc, -⟩
        cases hc
      · rintro (h | ⟨h, -⟩)
        · exact absurd h hvs
        · cases h
    | false =>
      rw [if_neg (by simp)]
      cases happrox : st.approx with
      | true =>
        rw [if_pos rfl, hsum]
        refine setDouble_null_iff hat hvalue ⟨fun h => Or.inr ⟨rfl, rfl, h⟩, fun h => ?_⟩
        exact (h.resolve_left hvs).2.2
      | false =>
        rw [if_neg (by simp), hat.run_sqlite3VdbeMemSetInt64 L]
        show IsNullOutcome (.ok (s.setMem acc _ .i).mems[acc]?) ↔ _
        rw [getElem?_setMem hat _, isNullOutcome_ok]
        simp [Mem.isNull, hvs]

/-! ## When NULLs are ignored -/

variable (L U C) in
/-- What the three aggregates have to do with the NULLs among their values. -/
structure IgnoresNulls (m : Machine (Wrappers κ ρ)) (arg acc : ℕ) (vs : List Mem) : Prop where
  /-- `count` is the number of the other values. -/
  count : ∃ c : Mem, aggregated L U C countFunc m arg acc vs = .ok (some c) ∧ c.flags = MEM_Int ∧
    c.u_i = (nonNull vs).length
  /-- `sum` is NULL iff there is no other value. -/
  sum_null : IsNullOutcome (aggregated L U C sumFunc m arg acc vs) ↔ nonNull vs = []
  /-- `avg` is NULL iff there is no other value. -/
  avg_null : IsNullOutcome (aggregated L U C avgFunc m arg acc vs) ↔ nonNull vs = []
  /-- `sum` is that of the other values, if there are any. -/
  sum : nonNull vs ≠ [] → aggregated L U C sumFunc m arg acc vs =
    aggregated L U C sumFunc m arg acc (nonNull vs)
  /-- `avg` is that of the other values, if there are any. -/
  avg : nonNull vs ≠ [] → aggregated L U C avgFunc m arg acc vs =
    aggregated L U C avgFunc m arg acc (nonNull vs)
  /-- The divisor of `avg` is the number of the other values, if there are any. -/
  divisor : nonNull vs ≠ [] → ∃ st : SumState,
    steppedContext L U C avgFunc m arg acc vs = .ok (some (.AvgCtx st)) ∧
      st.cnt = (nonNull vs).length

/-- Nothing is left out exactly if no value is NULL. -/
theorem nonNull_eq_self_iff {vs : List Mem} : nonNull vs = vs ↔ ∀ v ∈ vs, v.isNull = false := by
  unfold nonNull
  rw [List.filter_eq_self]
  simp

/-- A count is exact as a 64-bit integer below 2^63. -/
theorem toInt_ofInt_length_iff {n : ℕ} : (BitVec.ofInt 64 (n : ℤ)).toInt = n ↔ n < 2^63 := by
  constructor
  · intro h
    have := BitVec.toInt_lt (x := BitVec.ofInt 64 (n : ℤ))
    rw [h] at this
    omega
  · intro h
    rw [BitVec.toInt_ofInt, Int.bmod_eq_of_le (by omega) (by omega)]

/-- The quotient by a number of rows is a NaN only if the sum is. -/
theorem isNaN_div_length {sum : Binary64} {vs : List Mem} (hvs : vs ≠ [])
    (hlen : vs.length < 2^63) : (sum.div (Binary64.ofInt vs.length)).isNaN = sum.isNaN := by
  have hpos := List.length_pos_iff.mpr hvs
  refine Binary64.isNaN_div (Binary64.isFinite_ofInt (by omega) (by omega)) ?_
  rw [Binary64.mag_ofInt (by omega) (by omega)]
  exact Binary64.ofNatMag_ne_zero (by omega)

/-- After some rows the context of `avg` has counted them. -/
theorem steppedContext_avg (h : Accumulator enc m arg acc) {vs : List Mem} (hvs : vs ≠ []) :
    ∃ st : SumState, steppedContext L U C avgFunc m arg acc vs = .ok (some (.AvgCtx st)) ∧
      st.cnt = vs.length := by
  refine ⟨vs.foldl (fun st v => st.stepValue L v) {}, ?_, (foldl_cnt vs {}).trans (zero_add _)⟩
  have heq : steppedContext L U C avgFunc m arg acc vs = .ok (contextAfter L (.AvgCtx {}) none vs) :=
    steppedContext_eq h (by decide) rfl (show (PyContext.AvgCtx {}).BuiltIn from trivial) vs
  rw [heq, contextAfter_none, if_neg hvs, foldl_AvgCtx]

/-- The aggregates ignore NULLs exactly on values without NULLs, as far as integers can count them
and doubles can add them up. -/
theorem ignoresNulls_iff (h : Accumulator enc m arg acc) {vs : List Mem}
    (hvs : ∀ v ∈ vs, v.IsValue enc) :
    IgnoresNulls L U C m arg acc vs ↔
      (∀ v ∈ vs, v.isNull = false) ∧ vs.length < 2^63 ∧ (floatSum L vs).isNaN = false := by
  constructor
  · intro hig
    by_cases hnil : vs = []
    · subst hnil
      exact ⟨fun v hv => absurd hv List.not_mem_nil, by decide, rfl⟩
    have hsome : nonNull vs ≠ [] := by
      -- NULLs alone make a real sum, which is not NULL
      intro hall
      have hnull : ∀ v ∈ vs, v.isNull = true := by
        unfold nonNull at hall
        rw [List.filter_eq_nil_iff] at hall
        simpa using hall
      obtain ⟨hsum, -, -⟩ := foldl_nulls (L := L) vs hvs hnull {} rfl
      have hfloat : floatSum L vs = 0 := (foldl_rSum vs {}).symm.trans hsum
      rcases (aggregated_sum_null_iff h vs).mp (hig.sum_null.mpr hall) with hvs | ⟨-, -, hnan⟩
      · exact hnil hvs
      · rw [hfloat] at hnan
        cases hnan
    -- `avg` divides by the number of all rows, which is that of the others only without NULLs.
    obtain ⟨st, hst, hcnt⟩ := hig.divisor hsome
    obtain ⟨st', hst', hcnt'⟩ := steppedContext_avg (L := L) (U := U) (C := C) h hnil
    rw [hst] at hst'
    obtain rfl : st = st' := by
      injection hst' with hst'
      injection hst' with hst'
      injection hst'
    have hlen : (nonNull vs).length = vs.length := by omega
    have hself : nonNull vs = vs := List.filter_sublist.eq_of_length hlen
    -- `count` gives the number of rows as a 64-bit integer.
    have hlt : vs.length < 2^63 := by
      obtain ⟨c, hc, -, hu⟩ := hig.count
      obtain ⟨c', hc', -, hu'⟩ := aggregated_count (L := L) (U := U) (C := C) h vs
      obtain rfl := Option.some.inj (Except.ok.inj (hc.symm.trans hc'))
      rw [hself] at hu hu'
      unfold Mem.u_i at hu
      rw [hu'] at hu
      exact toInt_ofInt_length_iff.mp hu
    refine ⟨nonNull_eq_self_iff.mp hself, hlt, ?_⟩
    -- `avg` is NULL when the sum is not a number.
    have havg := (not_congr ((aggregated_avg_null_iff h vs).symm.trans hig.avg_null)).mpr hsome
    rw [isNaN_div_length hnil hlt] at havg
    exact Bool.eq_false_iff.mpr fun hnan => havg (Or.inr hnan)
  · rintro ⟨hnull, hlen, hnan⟩
    -- Without NULLs there is nothing to ignore.
    have hself : nonNull vs = vs := nonNull_eq_self_iff.mpr hnull
    refine ⟨?_, ?_, ?_, fun _ => by rw [hself], fun _ => by rw [hself], ?_⟩
    · obtain ⟨c, hc, hflags, hu⟩ := aggregated_count (L := L) (U := U) (C := C) h vs
      refine ⟨c, hc, hflags, ?_⟩
      unfold Mem.u_i
      rw [hu, hself]
      exact toInt_ofInt_length_iff.mpr hlen
    · rw [aggregated_sum_null_iff h, hself, hnan]
      simp
    · rw [aggregated_avg_null_iff h, hself]
      refine ⟨fun hor => hor.elim id fun hdiv => by_contra fun hnil => ?_, Or.inl⟩
      rw [isNaN_div_length hnil hlen, hnan] at hdiv
      cases hdiv
    · rw [hself]
      exact fun hnil => steppedContext_avg h hnil

end outcome

/-! ## Concrete rows -/

/-- No user registers an aggregate. -/
def UserClasses.none : UserClasses Unit Unit :=
  ⟨fun _ => (), fun self _ => pure self, fun _ _ _ => pure ()⟩

/-- The aggregates of C do nothing. -/
def CAggregates.none : CAggregates (Wrappers Unit Unit) :=
  ⟨fun _ mems r => .ok (0, mems, r), fun _ mems r => .ok (0, mems, r)⟩

/-- Two NULL registers, without contexts. -/
def twoNulls : Machine (Wrappers Unit Unit) :=
  Machine.fresh [Mem.ofNull, Mem.ofNull] 1 ⟨fun _ => Option.none, ()⟩

/-- Two registers, an argument and an accumulator. -/
theorem accumulator_twoNulls : Accumulator SQLITE_UTF8 twoNulls 0 1 where
  sound := Machine.Sound.fresh _ _ _
  arg_register := by decide
  acc_register := by decide
  ne := by decide
  null := ⟨Mem.ofNull, rfl, Mem.isValue_ofNull, rfl⟩
  ctx := rfl

/-- Without a NULL there is nothing to ignore. -/
theorem ignoresNulls_one_two :
    IgnoresNulls (CLib.decimalOver _) UserClasses.none CAggregates.none twoNulls 0 1
      [Mem.ofInt 1, Mem.ofInt 2] := by
  refine (ignoresNulls_iff accumulator_twoNulls fun v hv => ?_).mpr ⟨by decide, by decide, by
    decide +kernel⟩
  simp only [List.mem_cons, List.not_mem_nil, or_false] at hv
  rcases hv with rfl | rfl
  · exact Mem.isValue_ofInt 1
  · exact Mem.isValue_ofInt 2

/-- The flags of what is in the accumulator. -/
def outcomeFlags (r : Except Exc (Option Mem)) : Option Flags :=
  match r with
  | .ok (some c) => some c.flags
  | _ => Option.none

/-- A NULL after the integer 1 makes its sum a real. -/
theorem sum_one_null :
    Accumulator SQLITE_UTF8 twoNulls 0 1 ∧
    (∀ v ∈ [Mem.ofInt 1, Mem.ofNull], v.IsValue SQLITE_UTF8) ∧
    outcomeFlags (aggregated (CLib.decimalOver _) UserClasses.none CAggregates.none sumFunc twoNulls
      0 1 [Mem.ofInt 1, Mem.ofNull]) = some MEM_Real ∧
    ¬ IgnoresNulls (CLib.decimalOver _) UserClasses.none CAggregates.none twoNulls 0 1
      [Mem.ofInt 1, Mem.ofNull] := by
  have hboth : outcomeFlags (aggregated (CLib.decimalOver _) UserClasses.none CAggregates.none sumFunc
      twoNulls 0 1 [Mem.ofInt 1, Mem.ofNull]) = some MEM_Real := by
    decide +kernel
  have hone : outcomeFlags (aggregated (CLib.decimalOver _) UserClasses.none CAggregates.none sumFunc
      twoNulls 0 1 [Mem.ofInt 1]) = some MEM_Int := by
    decide +kernel
  refine ⟨accumulator_twoNulls, fun v hv => ?_, hboth, fun h => ?_⟩
  · simp only [List.mem_cons, List.not_mem_nil, or_false] at hv
    rcases hv with rfl | rfl
    · exact Mem.isValue_ofInt 1
    · exact Mem.isValue_ofNull
  · have hsum := h.sum (by decide)
    rw [show nonNull [Mem.ofInt 1, Mem.ofNull] = [Mem.ofInt 1] from by decide] at hsum
    rw [hsum, hone] at hboth
    revert hboth
    decide

end SQPyte
