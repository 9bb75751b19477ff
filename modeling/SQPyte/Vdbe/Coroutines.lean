import SQPyte.Mem.Conversions
import SQPyte.Mem.OneCell
import SQPyte.Vdbe.CompareJump

/-!
# Co-routines and subroutines

The register `P1` of a co-routine or of a subroutine holds an address. The opcodes store the address
of an instruction as `OP_Yield` and `OP_Gosub` find it in `pc`, and return an address that the loop
then adds 1 to. `OP_InitCoroutine` stores `P3 - 1`, so that the same addition leads to `P3`.

A run keeps for each register what was done with it: where the co-routine begins, and the most recent
`OP_Yield` of either side (`Coroutine`). The register holds the address by which control is to be
transferred next (`ControlInvariant`). Each of the opcodes keeps this for its own register and leaves
the cells beside it alone, so it holds of all registers at once, whatever is executed in between and
whatever the cache holds of other cells (`control_transfers`).
-/

namespace SQPyte

open Commands

section opcodes

variable {ρ : Type}

/-- `p1_mutation`. -/
def p1_mutation (op : Op) : MemM ρ Unit := invalidate_cache op.p1.toNat

/-- `OP_InitCoroutine`: the address it returns. -/
def OP_InitCoroutine (pc : ℤ) (op : Op) : MemM ρ ℤ := do
  let pOut ← op.mem_of_p1
  pyAssert (!VdbeMemDynamic (← get_flags pOut))
  set_u_i pOut (op.p3 - 1) true
  set_flags pOut MEM_Int
  return if op.p2 ≠ 0 then op.p2as_pc else pc

/-- `OP_Yield`: the address it returns. -/
def OP_Yield (pc : ℤ) (op : Op) : MemM ρ ℤ := do
  let pIn1 ← op.mem_of_p1
  pyAssert (!VdbeMemDynamic (← get_flags pIn1))
  set_flags pIn1 MEM_Int
  let pcDest ← get_u_i pIn1
  set_u_i pIn1 pc true
  return pcDest

/-- The end of `OP_EndCoroutine`, once it has found the caller. -/
def endCoroutine (pIn1 : ℕ) : Option Op → MemM ρ ℤ
  | none => throwExc .index
  | some pCaller => do
    pyAssert (pCaller.opcode == .Yield)
    set_flags pIn1 MEM_Undefined
    return pCaller.p2as_pc

/-- `OP_EndCoroutine`: the address it returns. -/
def OP_EndCoroutine (hlops : List Op) (op : Op) : MemM ρ ℤ := do
  let pIn1 ← op.mem_of_p1
  let i ← get_u_i pIn1
  endCoroutine pIn1 ((pyIndex hlops.length i).bind (hlops[·]?))

/-- `OP_Gosub`: the address it returns. -/
def OP_Gosub (nMem nCursor : ℕ) (pc : ℤ) (op : Op) : MemM ρ ℤ := do
  pyAssert (decide (0 < op.p1) && decide (op.p1 ≤ (nMem : ℤ) - nCursor))
  let pIn1 ← op.mem_of_p1
  pyAssert (!VdbeMemDynamic (← get_flags pIn1))
  set_flags pIn1 MEM_Int
  set_u_i pIn1 pc true
  return op.p2as_pc

/-- `OP_Return`: the address it returns. -/
def OP_Return (op : Op) : MemM ρ ℤ := do
  let pIn1 ← op.mem_of_p1
  let flags1 ← get_flags pIn1
  pyAssert (flags1 == MEM_Int)
  let pc ← get_u_i pIn1
  set_flags pIn1 MEM_Undefined
  return pc

/-- The opcodes that transfer control by an address in a register. -/
def Opcode.isControl : Opcode → Bool
  | .InitCoroutine | .Yield | .EndCoroutine | .Gosub | .Return => true
  | _ => false

/-- Such an opcode as `mainloop` executes it. -/
def controlOpcode (nMem nCursor : ℕ) (hlops : List Op) (pc : ℤ) (op : Op) : MemM ρ ℤ :=
  match op.opcode with
  | .InitCoroutine => OP_InitCoroutine pc op
  | .Yield => do
    let pc ← OP_Yield pc op
    p1_mutation op
    return pc
  | .EndCoroutine => OP_EndCoroutine hlops op
  | .Gosub => OP_Gosub nMem nCursor pc op
  | .Return => OP_Return op
  | _ => throwExc .sqpyte

end opcodes

/-! ## The opcodes, one by one -/

section specs

variable {ρ : Type} {m m' : Machine ρ} {op : Op} {c : Mem}

/-- An assertion that holds. -/
theorem run_pyAssert {cond : Bool} (h : cond = true) (m : Machine ρ) :
    run (machine ρ) (pyAssert cond) m = .ok ((), m) := by
  unfold pyAssert
  rw [if_pos h, run_pure]

/-- Fetching the register `p1`. -/
theorem run_mem_of_p1 (hreg : IsRegister m.mems.length m.nMem op.p1) :
    run (machine ρ) op.mem_of_p1 m = .ok (op.p1.toNat, m) :=
  Machine.run_mem_with_index hreg.memIndex_eq

/-- The cell that holds the address `v`. -/
def Mem.withAddress (c : Mem) (v : ℤ) : Mem := { c with u := BitVec.ofInt 64 v, flags := MEM_Int }

/-- The address that was stored is read. -/
theorem Mem.u_i_withAddress (c : Mem) {v : ℤ} (hlo : -2^63 ≤ v) (hhi : v < 2^63) :
    (c.withAddress v).u_i = v := Mem.toInt_ofInt_of_fits hlo hhi

/-- `OP_InitCoroutine` stores the address before the first opcode of the coroutine. -/
theorem OP_InitCoroutine_spec (pc : ℤ) (hreg : IsRegister m.mems.length m.nMem op.p1)
    (hat : m.At op.p1.toNat c .other) (hdyn : VdbeMemDynamic c.flags = false) :
    ∃ m', run (machine ρ) (OP_InitCoroutine pc op) m =
        .ok (if op.p2 ≠ 0 then op.p2as_pc else pc, m') ∧
      m'.At op.p1.toNat (c.withAddress (op.p3 - 1)) .i := by
  obtain ⟨m₁, h₁, hat₁⟩ := hat.run_get_flags (Or.inr rfl)
  obtain ⟨m₂, h₂, hat₂⟩ := hat₁.run_set_u_i (op.p3 - 1)
  obtain ⟨m₃, h₃, hat₃⟩ := hat₂.run_set_flags (Or.inl rfl) MEM_Int
  refine ⟨m₃, ?_, hat₃⟩
  unfold OP_InitCoroutine
  rw [run_bind_ok (run_mem_of_p1 hreg), run_bind_ok h₁,
    run_bind_ok (run_pyAssert (by rw [hdyn]; rfl) m₁), run_bind_ok h₂, run_bind_ok h₃, run_pure]

/-- `OP_Yield` swaps the address in the register and `pc`. -/
theorem OP_Yield_spec (pc : ℤ) (hreg : IsRegister m.mems.length m.nMem op.p1)
    (hat : m.At op.p1.toNat c .i) (hf : c.flags = MEM_Int) :
    ∃ m', run (machine ρ) (OP_Yield pc op) m = .ok (c.u_i, m') ∧
      m'.At op.p1.toNat (c.withAddress pc) .i := by
  obtain ⟨m₁, h₁, hat₁⟩ := hat.run_get_flags (Or.inl rfl)
  obtain ⟨m₂, h₂, hat₂⟩ := hat₁.run_set_flags (Or.inl rfl) MEM_Int
  obtain ⟨m₃, h₃, hat₃⟩ := hat₂.run_set_u_i pc
  refine ⟨m₃, ?_, hat₃⟩
  unfold OP_Yield
  rw [run_bind_ok (run_mem_of_p1 hreg), run_bind_ok h₁,
    run_bind_ok (run_pyAssert (by rw [hf]; rfl) m₁), run_bind_ok h₂, run_bind_ok hat₂.run_get_u_i,
    run_bind_ok h₃, run_pure]
  rfl

/-- `OP_EndCoroutine` goes by the `OP_Yield` whose address is in the register. -/
theorem OP_EndCoroutine_spec {hlops : List Op} {pCaller : Op}
    (hreg : IsRegister m.mems.length m.nMem op.p1) (hat : m.At op.p1.toNat c .i)
    (hfetch : fetch hlops c.u_i = some pCaller) (hyield : pCaller.opcode = .Yield) :
    ∃ m', run (machine ρ) (OP_EndCoroutine hlops op) m = .ok (pCaller.p2 - 1, m') := by
  obtain ⟨m₁, h₁, -⟩ := hat.run_set_flags (Or.inl rfl) MEM_Undefined
  refine ⟨m₁, ?_⟩
  have hindex : (pyIndex hlops.length c.u_i).bind (hlops[·]?) = some pCaller := by
    unfold fetch at hfetch
    split_ifs at hfetch with h0
    have hlt := (List.getElem?_eq_some_iff.mp hfetch).1
    unfold pyIndex
    rw [if_pos (by omega)]
    exact hfetch
  unfold OP_EndCoroutine
  rw [run_bind_ok (run_mem_of_p1 hreg), run_bind_ok hat.run_get_u_i, hindex]
  unfold endCoroutine
  rw [run_bind_ok (run_pyAssert (by rw [hyield]; rfl) m), run_bind_ok h₁, run_pure]
  rfl

/-- `OP_Gosub` stores its own address and jumps. -/
theorem OP_Gosub_spec {nMem nCursor : ℕ} (pc : ℤ) (hreg : IsRegister m.mems.length m.nMem op.p1)
    (hrange : 0 < op.p1 ∧ op.p1 ≤ (nMem : ℤ) - nCursor) (hat : m.At op.p1.toNat c .other)
    (hdyn : VdbeMemDynamic c.flags = false) :
    ∃ m', run (machine ρ) (OP_Gosub nMem nCursor pc op) m = .ok (op.p2 - 1, m') ∧
      m'.At op.p1.toNat (c.withAddress pc) .i := by
  obtain ⟨m₁, h₁, hat₁⟩ := hat.run_get_flags (Or.inr rfl)
  obtain ⟨m₂, h₂, hat₂⟩ := hat₁.run_set_flags (Or.inr rfl) MEM_Int
  obtain ⟨m₃, h₃, hat₃⟩ := hat₂.run_set_u_i pc
  refine ⟨m₃, ?_, hat₃⟩
  unfold OP_Gosub
  rw [run_bind_ok (run_pyAssert (by rw [decide_eq_true hrange.1, decide_eq_true hrange.2]; rfl) m),
    run_bind_ok (run_mem_of_p1 hreg), run_bind_ok h₁,
    run_bind_ok (run_pyAssert (by rw [hdyn]; rfl) m₁), run_bind_ok h₂, run_bind_ok h₃, run_pure]
  rfl

/-- `OP_Return` goes on after the address that is stored. -/
theorem OP_Return_spec (hreg : IsRegister m.mems.length m.nMem op.p1)
    (hat : m.At op.p1.toNat c .i) (hf : c.flags = MEM_Int) :
    ∃ m', run (machine ρ) (OP_Return op) m = .ok (c.u_i, m') := by
  obtain ⟨m₁, h₁, hat₁⟩ := hat.run_get_flags (Or.inl rfl)
  obtain ⟨m₂, h₂, -⟩ := hat₁.run_set_flags (Or.inl rfl) MEM_Undefined
  refine ⟨m₂, ?_⟩
  unfold OP_Return
  rw [run_bind_ok (run_mem_of_p1 hreg), run_bind_ok h₁,
    run_bind_ok (run_pyAssert (by rw [hf]; rfl) m₁), run_bind_ok hat₁.run_get_u_i, run_bind_ok h₂,
    run_pure]

/-! ## What they leave alone -/

/-- An opcode that works on the register `P1` leaves alone what is beside it. -/
theorem beside_of_mem_of_p1 {body : ℕ → MemM ρ ℤ} (hp1 : 0 ≤ op.p1)
    (hbody : (body op.p1.toNat).All (MemCmd.OnInteger op.p1.toNat))
    (hs : m.cache.Shaped m.mems.length) {pc : ℤ}
    (h : run (machine ρ) (op.mem_of_p1 >>= body) m = .ok (pc, m')) : m.Beside op.p1.toNat m' := by
  obtain ⟨k, m₁, h₁, h₂⟩ := run_bind_eq_ok.mp h
  have hk : k = op.p1.toNat ∧ m₁ = m := by
    unfold Op.mem_of_p1 SQPyte.mem_with_index at h₁
    rw [run_perform, machine] at h₁
    unfold Machine.memIndex pyIndex at h₁
    split_ifs at h₁ with hlt hneg
    · obtain ⟨rfl, rfl⟩ := Prod.mk.inj (Except.ok.inj h₁)
      exact ⟨rfl, rfl⟩
    · omega
    · cases h₁
  obtain ⟨rfl, rfl⟩ := hk
  exact Machine.run_beside hbody hs h₂

/-- Each of the opcodes leaves alone what is beside its register, whatever it finds there. -/
theorem controlOpcode_beside {nMem nCursor : ℕ} {hlops : List Op} {pc pc' : ℤ}
    (hcontrol : op.opcode.isControl = true) (hp1 : 0 ≤ op.p1) (hs : m.cache.Shaped m.mems.length)
    (h : run (machine ρ) (controlOpcode nMem nCursor hlops pc op) m = .ok (pc', m')) :
    m.Beside op.p1.toNat m' := by
  have hassert := fun cond => pyAssert_onInteger (ρ := ρ) op.p1.toNat cond
  -- The opcode proper, before what the dispatch adds to it.
  have hyield : ∀ m', run (machine ρ) (OP_Yield pc op) m = .ok (pc', m') →
      m.Beside op.p1.toNat m' := by
    intro m' h
    refine beside_of_mem_of_p1 hp1 ?_ hs h
    refine (Prog.All.perform rfl).bind fun _ => (hassert _).bind fun _ => ?_
    refine (Prog.All.perform rfl).bind fun _ => (Prog.All.perform rfl).bind fun _ => ?_
    exact (Prog.All.perform ⟨rfl, rfl⟩).bind fun _ => Prog.All.pure _
  unfold controlOpcode at h
  -- One case for each of the five opcodes; all others are no control opcodes.
  cases hop : op.opcode <;> rw [hop] at h hcontrol <;> dsimp only at h <;>
    first | (exfalso; exact absurd hcontrol (by decide)) | skip
  case InitCoroutine =>
    refine beside_of_mem_of_p1 hp1 ?_ hs h
    refine (Prog.All.perform rfl).bind fun _ => (hassert _).bind fun _ => ?_
    refine (Prog.All.perform ⟨rfl, rfl⟩).bind fun _ => ?_
    exact (Prog.All.perform rfl).bind fun _ => Prog.All.pure _
  case Yield =>
    obtain ⟨pc₁, m₁, h₁, h₂⟩ := run_bind_eq_ok.mp h
    obtain ⟨_, m₂, h₂, h₃⟩ := run_bind_eq_ok.mp h₂
    rw [run_pure] at h₃
    obtain ⟨rfl, rfl⟩ := Prod.mk.inj (Except.ok.inj h₃)
    have hb := hyield m₁ h₁
    refine hb.trans (Machine.run_beside ?_ hb.shaped h₂)
    exact Prog.All.perform rfl
  case EndCoroutine =>
    refine beside_of_mem_of_p1 hp1 ?_ hs h
    refine (Prog.All.perform rfl).bind fun i => ?_
    cases (pyIndex hlops.length i).bind (hlops[·]?) with
    | none => exact Prog.All.perform trivial
    | some pCaller =>
      exact (hassert _).bind fun _ => (Prog.All.perform rfl).bind fun _ => Prog.All.pure _
  case Gosub =>
    obtain ⟨_, m₁, h₁, h₂⟩ := run_bind_eq_ok.mp h
    have hb := Machine.run_beside (hassert _) hs h₁
    have hb₂ := beside_of_mem_of_p1 hp1 ?_ hb.shaped h₂
    · exact hb.trans hb₂
    · refine (Prog.All.perform rfl).bind fun _ => (hassert _).bind fun _ => ?_
      refine (Prog.All.perform rfl).bind fun _ => ?_
      exact (Prog.All.perform ⟨rfl, rfl⟩).bind fun _ => Prog.All.pure _
  case Return =>
    refine beside_of_mem_of_p1 hp1 ?_ hs h
    refine (Prog.All.perform rfl).bind fun _ => (hassert _).bind fun _ => ?_
    refine (Prog.All.perform rfl).bind fun _ => ?_
    exact (Prog.All.perform rfl).bind fun _ => Prog.All.pure _

end specs

/-! ## What was done with a register -/

/-- A co-routine, between two transfers of control. -/
structure Coroutine where
  /-- The address it begins at. -/
  start : ℤ
  /-- The address of the main side's most recent `OP_Yield`. -/
  mainYield : Option ℤ
  /-- The address of the co-routine's most recent `OP_Yield`. -/
  coYield : Option ℤ
  /-- Control is on the side of the co-routine. -/
  inside : Bool

namespace Coroutine

/-- Where the next `OP_Yield` is to transfer control to: right after the most recent `OP_Yield` of the
other side, and to the beginning if the co-routine has not run yet. -/
def next (c : Coroutine) : Option ℤ :=
  if c.inside then c.mainYield.map (· + 1)
  else
    match c.coYield with
    | some a => some (a + 1)
    | none => some c.start

/-- The side that has control executes the `OP_Yield` at `pc`. -/
def yield (c : Coroutine) (pc : ℤ) : Coroutine :=
  if c.inside then { c with coYield := some pc, inside := false }
  else { c with mainYield := some pc, inside := true }

end Coroutine

/-- What a register is in use for. -/
inductive Pending where
  /-- A co-routine. -/
  | coroutine (c : Coroutine)
  /-- A subroutine, called by the `OP_Gosub` at the address. -/
  | subroutine (gosub : ℤ)

/-- The address that the register holds. -/
def Pending.address : Pending → ℤ
  | .coroutine c =>
    if c.inside then c.mainYield.getD 0
    else
      match c.coYield with
      | some a => a
      | none => c.start - 1
  | .subroutine gosub => gosub

/-! ## Runs -/

section runs

variable {ρ : Type}

/-- A query between two opcodes. -/
structure ControlState (ρ : Type) where
  /-- The registers and the cache. -/
  m : Machine ρ
  /-- The address of the next opcode. -/
  pc : ℤ
  /-- What the registers are in use for. -/
  pending : ℤ → Option Pending
  /-- The exception that ended the run. -/
  raised : Option Exc

/-- No register is in use. -/
def ControlState.init (m : Machine ρ) : ControlState ρ := ⟨m, 0, fun _ => none, none⟩

/-- What happens next. -/
inductive ControlEvent (ρ : Type) where
  /-- The opcode at `pc`, which is one of the five, is executed. -/
  | execute
  /-- Anything else goes on at `pc` with the registers and the cache `m`. The registers `touched` are
  not in use any more. -/
  | elsewhere (pc : ℤ) (m : Machine ρ) (touched : List ℤ)

/-- The register may be taken into use: nothing is to be released, and the cache knows no wrong flags
of it. -/
def Machine.ready (m : Machine ρ) (p : ℤ) : Bool :=
  decide (IsRegister m.mems.length m.nMem p) &&
    match m.mems[p.toNat]? with
    | some c => !VdbeMemDynamic c.flags && (!m.cache.cache_state.is_flag_known p.toNat ||
        m.cache.cache_state.flagsAt p.toNat == c.flags)
    | none => false

/-- The range that `OP_Gosub` asserts. -/
def InGosubRange (nMem nCursor : ℕ) (op : Op) : Prop := 0 < op.p1 ∧ op.p1 ≤ (nMem : ℤ) - nCursor

/-- What register `P1` is in use for after the opcode. -/
def ControlState.use (s : ControlState ρ) (op : Op) : Option Pending :=
  match op.opcode, s.pending op.p1 with
  | .InitCoroutine, _ =>
    if s.m.ready op.p1 then some (.coroutine ⟨op.p3, none, none, false⟩) else none
  | .Gosub, _ => if s.m.ready op.p1 then some (.subroutine s.pc) else none
  | .Yield, some (.coroutine c) => some (.coroutine (c.yield s.pc))
  | _, _ => none

/-- The opcode is executed. The loop adds 1 to the address it returns. -/
def ControlState.executed (nCursor : ℕ) (program : List Op) (s : ControlState ρ) (op : Op) :
    ControlState ρ :=
  match run (machine ρ) (controlOpcode s.m.nMem nCursor program s.pc op) s.m with
  | .ok (pc, m) => ⟨m, pc + 1, Function.update s.pending op.p1 (s.use op), none⟩
  | .error e => { s with raised := some e }

/-- The next state. -/
def controlStep (nCursor : ℕ) (program : List Op) (s : ControlState ρ) (e : ControlEvent ρ) :
    Option (ControlState ρ) :=
  if s.raised.isSome then none
  else
    match e with
    | .execute =>
      match fetch program s.pc with
      | some op => if op.opcode.isControl then some (s.executed nCursor program op) else none
      | none => none
    | .elsewhere pc m touched =>
      some ⟨m, pc, fun p => if p ∈ touched then none else s.pending p, none⟩

/-- Nothing happens to the cell: it is as before, and the cache knows of it what it knew, or
nothing. -/
structure Untouched (m m' : Machine ρ) (i : ℕ) : Prop where
  /-- The cell. -/
  cell : m'.mems[i]? = m.mems[i]?
  /-- What the cache knows of it, unless it was forgotten. -/
  slot : (m'.cache.cache_state.slot i).Alike (m.cache.cache_state.slot i) ∨
    (m'.cache.cache_state.slot i).status = 0

/-- The event leaves the registers that stay in use alone. -/
def LeavesInUse (s : ControlState ρ) (e : ControlEvent ρ) : Prop :=
  ∀ pc m touched, e = .elsewhere pc m touched →
    m.nMem = s.m.nMem ∧ m.mems.length = s.m.mems.length ∧ m.cache.Shaped m.mems.length ∧
      ∀ p, p ∉ touched → (s.pending p).isSome = true → Untouched s.m m p.toNat

/-- Control goes to `pc`, without an exception. -/
def GoesTo (s' : ControlState ρ) (pc : ℤ) : Prop := s'.raised = none ∧ s'.pc = pc

/-- What an executed opcode is to do. -/
structure Transfers (nCursor : ℕ) (program : List Op) (s : ControlState ρ) (op : Op)
    (s' : ControlState ρ) : Prop where
  /-- `OP_InitCoroutine` goes on at `P2`, or with the next opcode. -/
  init : op.opcode = .InitCoroutine → s.m.ready op.p1 = true →
    GoesTo s' (if op.p2 ≠ 0 then op.p2 else s.pc + 1)
  /-- `OP_Yield` goes to where the other side left off. -/
  yield : op.opcode = .Yield → ∀ c, s.pending op.p1 = some (.coroutine c) →
    ∃ pc, c.next = some pc ∧ GoesTo s' pc
  /-- `OP_EndCoroutine` goes to `P2` of the main side's most recent `OP_Yield`. -/
  ending : op.opcode = .EndCoroutine → ∀ c, s.pending op.p1 = some (.coroutine c) → c.inside = true →
    ∃ a caller, c.mainYield = some a ∧ fetch program a = some caller ∧ caller.opcode = .Yield ∧
      caller.p1 = op.p1 ∧ GoesTo s' caller.p2
  /-- `OP_Gosub` goes to `P2`. -/
  gosub : op.opcode = .Gosub → s.m.ready op.p1 = true → InGosubRange s.m.nMem nCursor op →
    GoesTo s' op.p2
  /-- `OP_Return` goes right after the `OP_Gosub`. -/
  return' : op.opcode = .Return → ∀ a, s.pending op.p1 = some (.subroutine a) → GoesTo s' (a + 1)

/-- An executed opcode transfers control as it is to. -/
def TransfersControl (nCursor : ℕ) (program : List Op) (s : ControlState ρ) (e : ControlEvent ρ)
    (s' : ControlState ρ) : Prop :=
  ∀ op, e = .execute → fetch program s.pc = some op → Transfers nCursor program s op s'

/-- The number of opcodes and the operands `P3` are of the type `int`, and the operands `P1` are
numbers of registers. -/
structure ControlProgram (program : List Op) : Prop where
  /-- Addresses are 32-bit numbers. -/
  length : program.length < 2^31
  /-- The register of a coroutine or subroutine. -/
  p1 : ∀ op ∈ program, op.opcode.isControl = true → 0 ≤ op.p1
  /-- An operand is a 32-bit number. -/
  p3 : ∀ op ∈ program, -2^31 ≤ op.p3 ∧ op.p3 < 2^31

/-! ## The invariant -/

/-- The register holds the address by which control is transferred next. -/
structure InUse (program : List Op) (m : Machine ρ) (p : ℤ) (x : Pending) : Prop where
  /-- It is a register. -/
  register : IsRegister m.mems.length m.nMem p
  /-- It holds the address at which to go on. -/
  cell : ∃ c, m.At p.toNat c .i ∧ c.flags = MEM_Int ∧ c.u_i = x.address
  /-- While the co-routine runs, the main side has executed an `OP_Yield`. -/
  yielded : ∀ c, x = .coroutine c → c.inside = true → ∃ a caller, c.mainYield = some a ∧
    fetch program a = some caller ∧ caller.opcode = .Yield ∧ caller.p1 = p

/-- Every register in use does. -/
structure ControlInvariant (program : List Op) (s : ControlState ρ) : Prop where
  /-- The cache fits the cells. -/
  shaped : s.m.cache.Shaped s.m.mems.length
  /-- Every register with something pending is in use for it. -/
  inUse : ∀ p x, s.pending p = some x → InUse program s.m p x

variable {program : List Op} {nCursor : ℕ} {s s' : ControlState ρ} {m m' : Machine ρ} {op : Op}
  {p : ℤ} {x : Pending}

/-- A register in use stays so while another one is written. -/
theorem InUse.beside {i : ℕ} (h : InUse program m p x) (hb : m.Beside i m') (hp : p.toNat ≠ i) :
    InUse program m' p x := by
  obtain ⟨c, hat, hf, haddress⟩ := h.cell
  refine ⟨?_, ⟨c, hb.at hp hat (Or.inl rfl), hf, haddress⟩, h.yielded⟩
  rw [hb.length, hb.nMem]
  exact h.register

/-- And while it is not touched. -/
theorem InUse.untouched (h : InUse program m p x) (hnMem : m'.nMem = m.nMem)
    (hlength : m'.mems.length = m.mems.length) (hs : m'.cache.Shaped m'.mems.length)
    (hu : Untouched m m' p.toNat) : InUse program m' p x := by
  obtain ⟨c, hat, hf, haddress⟩ := h.cell
  refine ⟨?_, ⟨c, ⟨hs, hu.cell.trans hat.cell, ?_⟩, hf, haddress⟩, h.yielded⟩
  · rw [hlength, hnMem]
    exact h.register
  · rcases hu.slot with hslot | hslot
    · exact hat.slot.alike hslot (Or.inl rfl)
    · exact SlotRelated.of_unknown hslot _ _

/-- A register that is ready can be written without a destructor. -/
theorem Machine.ready_iff (hs : m.cache.Shaped m.mems.length) : m.ready p = true ↔
    IsRegister m.mems.length m.nMem p ∧
      ∃ c, m.At p.toNat c .other ∧ VdbeMemDynamic c.flags = false := by
  unfold Machine.ready
  rw [Bool.and_eq_true, decide_eq_true_eq]
  refine and_congr_right fun hreg => ?_
  cases hc : m.mems[p.toNat]? with
  | none =>
    refine ⟨fun h => (by cases h), fun ⟨c, hat, _⟩ => ?_⟩
    rw [hat.cell] at hc
    cases hc
  | some c =>
    dsimp only
    rw [Bool.and_eq_true, Bool.or_eq_true, Bool.not_eq_true', Bool.not_eq_true', beq_iff_eq]
    constructor
    · rintro ⟨hdyn, hflags⟩
      refine ⟨c, ⟨hs, hc, fun hk => ?_, fun _ h => ?_, fun _ h => ?_⟩, hdyn⟩
      · rcases hflags with hflags | hflags
        · rw [(Cache.is_flag_known_iff _ _).mpr hk] at hflags
          cases hflags
        · exact hflags
      · rcases h with h | h <;> cases h
      · rcases h with h | h <;> cases h
    · rintro ⟨c', hat, hdyn⟩
      obtain rfl := Option.some.inj (hc.symm.trans hat.cell)
      refine ⟨hdyn, ?_⟩
      cases hk : m.cache.cache_state.is_flag_known p.toNat with
      | false => exact Or.inl rfl
      | true => exact Or.inr (hat.slot.flags ((Cache.is_flag_known_iff _ _).mp hk))

/-- A register in use leads to where control is to go next. -/
theorem InUse.next_eq {c : Coroutine} (h : InUse program m p (.coroutine c)) :
    c.next = some ((Pending.coroutine c).address + 1) := by
  unfold Coroutine.next Pending.address
  dsimp only
  cases hinside : c.inside with
  | true =>
    obtain ⟨a, -, ha, -⟩ := h.yielded c rfl hinside
    rw [ha]
    rfl
  | false =>
    cases c.coYield with
    | some a => rfl
    | none =>
      show some c.start = some (c.start - 1 + 1)
      rw [sub_add_cancel]

/-- A coroutine that has yielded goes on after that. -/
theorem Coroutine.address_yield (c : Coroutine) (pc : ℤ) :
    (Pending.coroutine (c.yield pc)).address = pc := by
  unfold Coroutine.yield Pending.address
  cases c.inside <;> rfl

/-- An opcode is fetched from the program. -/
theorem fetch_range {op : Op} {pc : ℤ} (h : fetch program pc = some op) :
    0 ≤ pc ∧ pc < program.length ∧ op ∈ program := by
  unfold fetch at h
  split_ifs at h with h0
  have hlt := (List.getElem?_eq_some_iff.mp h).1
  exact ⟨h0, by omega, List.mem_of_getElem? h⟩

/-- The state after an opcode that returned. -/
theorem executed_of_run {pc' : ℤ}
    (hrun : run (machine ρ) (controlOpcode s.m.nMem nCursor program s.pc op) s.m = .ok (pc', m')) :
    s.executed nCursor program op =
      ⟨m', pc' + 1, Function.update s.pending op.p1 (s.use op), none⟩ := by
  unfold ControlState.executed
  rw [hrun]

/-- An assertion that is passed holds. -/
theorem cond_of_run_pyAssert {cond : Bool} {r : Unit × Machine ρ}
    (h : run (machine ρ) (pyAssert cond) m = .ok r) : cond = true := by
  unfold pyAssert throwExc SQPyte.other at h
  cases cond with
  | true => rfl
  | false => cases h

/-! ## One opcode -/

section step

variable (hprogram : ControlProgram program) (hinv : ControlInvariant program s)
  (hop : fetch program s.pc = some op)

include hprogram hop in
/-- The address of an opcode fits in a register. -/
theorem u_i_withAddress_pc (c : Mem) : (c.withAddress s.pc).u_i = s.pc := by
  have hlength := hprogram.length
  obtain ⟨h0, hlt, -⟩ := fetch_range hop
  exact Mem.u_i_withAddress c (by omega) (by omega)

include hprogram hinv hop

/-- `OP_InitCoroutine` in a run. -/
theorem run_init (nCursor : ℕ) (hinit : op.opcode = .InitCoroutine) (hready : s.m.ready op.p1 = true) :
    ∃ m', run (machine ρ) (controlOpcode s.m.nMem nCursor program s.pc op) s.m =
        .ok (if op.p2 ≠ 0 then op.p2as_pc else s.pc, m') ∧
      (s.m.Beside op.p1.toNat m' → InUse program m' op.p1 (.coroutine ⟨op.p3, none, none, false⟩)) := by
  obtain ⟨hreg, c, hat, hdyn⟩ := (Machine.ready_iff hinv.shaped).mp hready
  obtain ⟨m', hrun, hat'⟩ := OP_InitCoroutine_spec s.pc hreg hat hdyn
  have hp3 := hprogram.p3 op (fetch_range hop).2.2
  refine ⟨m', ?_, fun hb => ⟨?_, ⟨_, hat', rfl, ?_⟩, fun c hc hinside => ?_⟩⟩
  · unfold controlOpcode
    rw [hinit]
    exact hrun
  · rw [hb.length, hb.nMem]
    exact hreg
  · exact Mem.u_i_withAddress c (by omega) (by omega)
  · obtain rfl := Pending.coroutine.inj hc
    cases hinside

/-- `OP_Gosub` in a run. -/
theorem run_gosub (hgosub : op.opcode = .Gosub) (hready : s.m.ready op.p1 = true)
    (hrange : InGosubRange s.m.nMem nCursor op) :
    ∃ m', run (machine ρ) (controlOpcode s.m.nMem nCursor program s.pc op) s.m =
        .ok (op.p2 - 1, m') ∧
      (s.m.Beside op.p1.toNat m' → InUse program m' op.p1 (.subroutine s.pc)) := by
  obtain ⟨hreg, c, hat, hdyn⟩ := (Machine.ready_iff hinv.shaped).mp hready
  obtain ⟨m', hrun, hat'⟩ := OP_Gosub_spec s.pc hreg hrange hat hdyn
  refine ⟨m', ?_, fun hb => ⟨?_, ⟨_, hat', rfl, ?_⟩, fun c hc => (by cases hc)⟩⟩
  · unfold controlOpcode
    rw [hgosub]
    exact hrun
  · rw [hb.length, hb.nMem]
    exact hreg
  · exact u_i_withAddress_pc hprogram hop c

/-- `OP_Yield` in a run. -/
theorem run_yield (nCursor : ℕ) (hyield : op.opcode = .Yield) {c : Coroutine}
    (hc : s.pending op.p1 = some (.coroutine c)) :
    ∃ m', run (machine ρ) (controlOpcode s.m.nMem nCursor program s.pc op) s.m =
        .ok ((Pending.coroutine c).address, m') ∧
      (s.m.Beside op.p1.toNat m' → InUse program m' op.p1 (.coroutine (c.yield s.pc))) := by
  obtain ⟨hreg, ⟨pMem, hat, hf, haddress⟩, -⟩ := hinv.inUse op.p1 _ hc
  obtain ⟨m₁, hrun, hat₁⟩ := OP_Yield_spec s.pc hreg hat hf
  obtain ⟨m₂, hrun₂, hat₂⟩ := hat₁.run_invalidate_cache
  refine ⟨m₂, ?_, fun hb => ⟨?_, ⟨_, hat₂, rfl, ?_⟩, fun c' hc' hinside => ?_⟩⟩
  · unfold controlOpcode
    rw [hyield]
    dsimp only
    rw [run_bind_ok hrun, haddress]
    unfold p1_mutation
    rw [run_bind_ok hrun₂, run_pure]
  · rw [hb.length, hb.nMem]
    exact hreg
  · rw [Coroutine.address_yield]
    exact u_i_withAddress_pc hprogram hop pMem
  · -- Control is on the side of the co-routine now, so it was the main side that yielded.
    obtain rfl := Pending.coroutine.inj hc'
    unfold Coroutine.yield at hinside ⊢
    cases hside : c.inside with
    | true =>
      rw [hside] at hinside
      cases hinside
    | false => exact ⟨s.pc, op, rfl, hop, hyield, rfl⟩

/-- An executed opcode transfers control as it is to. -/
theorem executed_transfers : Transfers nCursor program s op (s.executed nCursor program op) where
  init hinit hready := by
    obtain ⟨m', hrun, -⟩ := run_init hprogram hinv hop nCursor hinit hready
    rw [executed_of_run hrun]
    refine ⟨rfl, ?_⟩
    dsimp only
    unfold Op.p2as_pc
    split_ifs <;> omega
  yield hyield c hc := by
    obtain ⟨m', hrun, -⟩ := run_yield hprogram hinv hop nCursor hyield hc
    rw [executed_of_run hrun]
    exact ⟨_, (hinv.inUse op.p1 _ hc).next_eq, rfl, rfl⟩
  -- The address in the register is that of the `OP_Yield` that called, whose P2 is jumped to.
  ending hending c hc hinside := by
    obtain ⟨hreg, ⟨pMem, hat, -, haddress⟩, hyielded⟩ := hinv.inUse op.p1 _ hc
    obtain ⟨a, caller, ha, hfetch, hyield, hp1⟩ := hyielded c rfl hinside
    have hu_i : pMem.u_i = a := by
      rw [haddress]
      unfold Pending.address
      dsimp only
      rw [if_pos hinside, ha, Option.getD_some]
    obtain ⟨m', hrun⟩ := OP_EndCoroutine_spec hreg hat (hu_i ▸ hfetch) hyield
    have hrun' : run (machine ρ) (controlOpcode s.m.nMem nCursor program s.pc op) s.m =
        .ok (caller.p2 - 1, m') := by
      unfold controlOpcode
      rw [hending]
      exact hrun
    rw [executed_of_run hrun']
    exact ⟨a, caller, ha, hfetch, hyield, hp1, rfl, sub_add_cancel _ _⟩
  gosub hgosub hready hrange := by
    obtain ⟨m', hrun, -⟩ := run_gosub hprogram hinv hop hgosub hready hrange
    rw [executed_of_run hrun]
    exact ⟨rfl, sub_add_cancel _ _⟩
  return' hreturn a ha := by
    obtain ⟨hreg, ⟨pMem, hat, hf, haddress⟩, -⟩ := hinv.inUse op.p1 _ ha
    obtain ⟨m', hrun⟩ := OP_Return_spec hreg hat hf
    have hrun' : run (machine ρ) (controlOpcode s.m.nMem nCursor program s.pc op) s.m =
        .ok (a, m') := by
      unfold controlOpcode
      rw [hreturn]
      exact hrun.trans (by rw [haddress]; rfl)
    rw [executed_of_run hrun']
    exact ⟨rfl, rfl⟩

/-- What the register is in use for after the opcode, the address in it says. -/
theorem inUse_of_use (hcontrol : op.opcode.isControl = true) {pc' : ℤ}
    (hrun : run (machine ρ) (controlOpcode s.m.nMem nCursor program s.pc op) s.m = .ok (pc', m'))
    (hx : s.use op = some x) : InUse program m' op.p1 x := by
  have hp1 := hprogram.p1 op (fetch_range hop).2.2 hcontrol
  have hb := controlOpcode_beside hcontrol hp1 hinv.shaped hrun
  have hsame : ∀ {pc''} {m'' : Machine ρ}, run (machine ρ)
      (controlOpcode s.m.nMem nCursor program s.pc op) s.m = .ok (pc'', m'') → m'' = m' := by
    intro pc'' m'' h
    exact (Prod.mk.inj (Except.ok.inj (h.symm.trans hrun))).2
  unfold ControlState.use at hx
  split at hx
  case h_1 hinit =>
    split_ifs at hx with hready
    obtain rfl := Option.some.inj hx
    obtain ⟨m'', hrun', huse⟩ := run_init hprogram hinv hop nCursor hinit hready
    obtain rfl := hsame hrun'
    exact huse hb
  case h_2 hgosub =>
    split_ifs at hx with hready
    obtain rfl := Option.some.inj hx
    -- The opcode asserts this range itself, and it has returned.
    have hrange : InGosubRange s.m.nMem nCursor op := by
      unfold controlOpcode at hrun
      rw [hgosub] at hrun
      obtain ⟨_, m₁, h₁, -⟩ := run_bind_eq_ok.mp hrun
      have hcond := cond_of_run_pyAssert h₁
      rw [Bool.and_eq_true, decide_eq_true_eq, decide_eq_true_eq] at hcond
      exact hcond
    obtain ⟨m'', hrun', huse⟩ := run_gosub hprogram hinv hop hgosub hready hrange
    obtain rfl := hsame hrun'
    exact huse hb
  case h_3 c hyield hc =>
    obtain rfl := Option.some.inj hx
    obtain ⟨m'', hrun', huse⟩ := run_yield hprogram hinv hop nCursor hyield hc
    obtain rfl := hsame hrun'
    exact huse hb
  case h_4 => cases hx

/-- An opcode that moves control keeps the invariant. -/
theorem executed_invariant (hcontrol : op.opcode.isControl = true) :
    ControlInvariant program (s.executed nCursor program op) := by
  cases hrun : run (machine ρ) (controlOpcode s.m.nMem nCursor program s.pc op) s.m with
  | error e =>
    unfold ControlState.executed
    rw [hrun]
    exact ⟨hinv.shaped, hinv.inUse⟩
  | ok r =>
    obtain ⟨pc', m'⟩ := r
    have hp1 := hprogram.p1 op (fetch_range hop).2.2 hcontrol
    have hb := controlOpcode_beside hcontrol hp1 hinv.shaped hrun
    rw [executed_of_run hrun]
    refine ⟨hb.shaped, fun q x hx => ?_⟩
    dsimp only at hx ⊢
    by_cases hq : q = op.p1
    · subst hq
      rw [Function.update_self] at hx
      exact inUse_of_use hprogram hinv hop hcontrol hrun hx
    · rw [Function.update_of_ne hq] at hx
      have huse := hinv.inUse q x hx
      have hq0 := huse.register.1
      exact huse.beside hb (by omega)

end step

/-! ## Whole runs -/

/-- In every run of a program, each co-routine and subroutine transfers control as it is to, if what
is executed in between leaves the registers in use alone. -/
theorem control_transfers (nCursor : ℕ) (program : List Op) (hprogram : ControlProgram program)
    (m : Machine ρ) (hm : m.cache.Shaped m.mems.length) (es : List (ControlEvent ρ))
    (hes : Runs.Each (controlStep nCursor program) LeavesInUse es (.init m)) :
    Runs.Throughout (controlStep nCursor program) (TransfersControl nCursor program) es (.init m) := by
  refine Runs.Throughout.of_each (I := ControlInvariant program) (fun s e s' hinv hleaves hs' => ?_)
    ⟨hm, fun p x hx => (by cases hx)⟩ hes
  unfold controlStep at hs'
  split_ifs at hs' with hraised
  cases e with
  | execute =>
    dsimp only at hs'
    cases hop : fetch program s.pc with
    | none => rw [hop] at hs'; cases hs'
    | some op =>
      rw [hop] at hs'
      dsimp only at hs'
      split_ifs at hs' with hcontrol
      obtain rfl := Option.some.inj hs'
      refine ⟨executed_invariant hprogram hinv hop hcontrol, fun op' _ hop' => ?_⟩
      obtain rfl := Option.some.inj (hop.symm.trans hop')
      exact executed_transfers hprogram hinv hop
  | elsewhere pc m touched =>
    obtain rfl := Option.some.inj hs'
    obtain ⟨hnMem, hlength, hshaped, huntouched⟩ := hleaves pc m touched rfl
    refine ⟨⟨hshaped, fun p x hx => ?_⟩, fun op he => (by cases he)⟩
    dsimp only at hx ⊢
    split_ifs at hx with htouched
    exact (hinv.inUse p x hx).untouched hnMem hlength hshaped
      (huntouched p htouched (by rw [hx]; rfl))

/-- Whatever is executed of the five opcodes alone, nothing else touches the registers. -/
theorem each_execute (nCursor : ℕ) (program : List Op) (n : ℕ) (s : ControlState ρ) :
    Runs.Each (controlStep nCursor program) LeavesInUse (List.replicate n .execute) s := by
  induction n generalizing s with
  | zero => trivial
  | succ n ih => exact ⟨fun pc m touched he => (by cases he), fun s' _ => ih s'⟩

/-- A co-routine of two opcodes, which the main side resumes twice with a subroutine in between. -/
def twoSides : List Op :=
  [⟨.InitCoroutine, 1, 3, 1, .NOTUSED, 0⟩, ⟨.Yield, 1, 0, 0, .NOTUSED, 0⟩,
    ⟨.EndCoroutine, 1, 0, 0, .NOTUSED, 0⟩, ⟨.Yield, 1, 6, 0, .NOTUSED, 0⟩,
    ⟨.Gosub, 2, 7, 0, .NOTUSED, 0⟩, ⟨.Yield, 1, 6, 0, .NOTUSED, 0⟩, ⟨.Noop, 0, 0, 0, .NOTUSED, 0⟩,
    ⟨.Return, 2, 0, 0, .NOTUSED, 0⟩]

/-- The registers of `twoSides`. -/
def freshRegisters : Machine Unit :=
  Machine.fresh [Mem.ofNull, Mem.ofNull, Mem.ofNull, Mem.ofNull] 2 ()

/-- The run ends at the `P2` of the second `OP_Yield` of the main side. -/
theorem control_transfers_twoSides :
    Runs.Throughout (controlStep 0 twoSides) (TransfersControl 0 twoSides)
      (.elsewhere 0 freshRegisters [] :: List.replicate 7 .execute) (.init freshRegisters) ∧
    (Runs.after (controlStep 0 twoSides) (.elsewhere 0 freshRegisters [] :: List.replicate 7 .execute)
      (.init freshRegisters)).map (·.pc) = some 6 := by
  have hshaped : freshRegisters.cache.Shaped freshRegisters.mems.length :=
    ⟨rfl, CacheState.all_unknown_covers 4, fun _ => rfl⟩
  refine ⟨control_transfers 0 twoSides ⟨by decide, by decide, by decide⟩ freshRegisters hshaped _
    ⟨fun pc m touched he => ?_, fun s' _ => each_execute 0 twoSides 7 s'⟩, by decide⟩
  obtain ⟨rfl, rfl, rfl⟩ := ControlEvent.elsewhere.inj he
  exact ⟨rfl, rfl, hshaped, fun p _ hp => (by cases hp)⟩

end runs

end SQPyte
