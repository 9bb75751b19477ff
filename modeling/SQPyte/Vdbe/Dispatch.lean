import SQPyte.Vdbe.OpcodeStatus
import SQPyte.Vdbe.Query

/-!
# The dispatchers of the opcodes with two implementations

`mainloop` calls a method `python_OP_…` for each opcode, and the methods of the opcodes with two
implementations ask the `OpcodeStatus` which of them to call. A dispatcher is given here by the
implementations that it calls, in order.

All but three of them call one implementation, that of the side their own switch says. `OP_Integer`
and `OP_Null` have no `else` branch, and `OP_Cast` asks for the switch of `OP_IfPos`
(`dispatch_served_iff`). So a program runs as it should under a status exactly if it executes none of
these three where the switches make a difference, and then it runs as under any other such status
(`switching_iff_each`).

The cache invalidations that some branches make are not written out: a switch can be off only where
the flag cache is not in use.
-/

namespace SQPyte

/-- The two sides that an opcode can be implemented on. -/
inductive Side where
  | python
  | c
deriving DecidableEq, Repr

/-- The side that the opcode's own switch says. -/
def OpcodeStatus.side (self : OpcodeStatus) (op : DualOpcode) : Side :=
  if self.switch op then .python else .c

/-! ## The dispatchers -/

section dispatchers

variable (self : OpcodeStatus)

/-- `if self.use_translated.op: translated… else: capi…` -/
def ifTranslated (op : DualOpcode) : Except Exc (List Side) :=
  .ok (if self.switch op then [.python] else [.c])

/-- `if self.use_translated.op: translated…`, with nothing else to be done. -/
def ifTranslatedOnly (op : DualOpcode) : Except Exc (List Side) :=
  .ok (if self.switch op then [.python] else [])

/-- `if self.use_translated.op: assert self.use_translated.other …`, and the same on the other side. -/
def ifBothTranslated (op other : DualOpcode) : Except Exc (List Side) :=
  if self.switch op then if self.switch other then .ok [.python] else .error .assertion
  else if !self.switch other then .ok [.c] else .error .assertion

/-- `python_OP_AggFinal`. The Python branch gives `rc` and `pc` in the wrong order, which an
`impl_OP_AggFinal` called from there does not show but in a log message. -/
def python_OP_AggFinal := ifTranslated self .AggFinal

/-- `python_OP_AggStep`. -/
def python_OP_AggStep := ifTranslated self .AggStep

/-- `python_OP_Function`. -/
def python_OP_Function := ifTranslated self .Function

/-- `python_OP_Goto`. -/
def python_OP_Goto := ifTranslated self .Goto

/-- `python_OP_OpenRead_OpenWrite`. -/
def python_OP_OpenRead_OpenWrite := ifTranslated self .OpenRead_OpenWrite

/-- `python_OP_ResultRow`. -/
def python_OP_ResultRow := ifTranslated self .ResultRow

/-- `python_OP_Next`. -/
def python_OP_Next := ifTranslated self .Next

/-- `python_OP_Ne_Eq_Gt_Le_Lt_Ge`. -/
def python_OP_Ne_Eq_Gt_Le_Lt_Ge := ifTranslated self .Ne_Eq_Gt_Le_Lt_Ge

/-- `python_OP_Integer`. -/
def python_OP_Integer := ifTranslatedOnly self .Integer

/-- `python_OP_Null`. -/
def python_OP_Null := ifTranslatedOnly self .Null

/-- `python_OP_MustBeInt`. -/
def python_OP_MustBeInt := ifTranslated self .MustBeInt

/-- `python_OP_Copy`. -/
def python_OP_Copy := ifTranslated self .Copy

/-- `python_OP_NotExists`. -/
def python_OP_NotExists := ifTranslated self .NotExists

/-- `python_OP_Real`. -/
def python_OP_Real := ifTranslated self .Real

/-- `python_OP_RealAffinity`. -/
def python_OP_RealAffinity := ifTranslated self .RealAffinity

/-- `python_OP_Add_Subtract_Multiply_Divide_Remainder`. -/
def python_OP_Add_Subtract_Multiply_Divide_Remainder :=
  ifTranslated self .Add_Subtract_Multiply_Divide_Remainder

/-- `python_OP_If_IfNot`. -/
def python_OP_If_IfNot := ifTranslated self .If_IfNot

/-- `python_OP_IsNull`. -/
def python_OP_IsNull := ifTranslated self .IsNull

/-- `python_OP_SeekLT_SeekLE_SeekGE_SeekGT`. -/
def python_OP_SeekLT_SeekLE_SeekGE_SeekGT := ifTranslated self .SeekLT_SeekLE_SeekGE_SeekGT

/-- `python_OP_Move`. -/
def python_OP_Move := ifTranslated self .Move

/-- `python_OP_IfZero`. -/
def python_OP_IfZero := ifTranslated self .IfZero

/-- `python_OP_IdxRowid`. -/
def python_OP_IdxRowid := ifTranslated self .IdxRowid

/-- `python_OP_IdxLE_IdxGT_IdxLT_IdxGE`. -/
def python_OP_IdxLE_IdxGT_IdxLT_IdxGE := ifTranslated self .IdxLE_IdxGT_IdxLT_IdxGE

/-- `python_OP_Seek`. -/
def python_OP_Seek := ifTranslated self .Seek

/-- `python_OP_Once`. -/
def python_OP_Once := ifTranslated self .Once

/-- `python_OP_SCopy`. -/
def python_OP_SCopy := ifTranslated self .SCopy

/-- `python_OP_Affinity`. -/
def python_OP_Affinity := ifTranslated self .Affinity

/-- `python_OP_MakeRecord`. -/
def python_OP_MakeRecord := ifTranslated self .MakeRecord

/-- `python_OP_Gosub`. -/
def python_OP_Gosub := ifTranslated self .Gosub

/-- `python_OP_Return`. -/
def python_OP_Return := ifTranslated self .Return

/-- `python_OP_NextIfOpen`. -/
def python_OP_NextIfOpen := ifTranslated self .NextIfOpen

/-- `python_OP_Sequence`. -/
def python_OP_Sequence := ifTranslated self .Sequence

/-- `python_OP_Compare`. -/
def python_OP_Compare := ifBothTranslated self .Compare .Jump

/-- `python_OP_Jump`. -/
def python_OP_Jump := ifBothTranslated self .Jump .Compare

/-- `python_OP_Variable`. -/
def python_OP_Variable := ifTranslated self .Variable

/-- `python_OP_CollSeq`. -/
def python_OP_CollSeq := ifTranslated self .CollSeq

/-- `python_OP_NotNull`. -/
def python_OP_NotNull := ifTranslated self .NotNull

/-- `python_OP_InitCoroutine`. -/
def python_OP_InitCoroutine := ifTranslated self .InitCoroutine

/-- `python_OP_Yield`. -/
def python_OP_Yield := ifTranslated self .Yield

/-- `python_OP_EndCoroutine`. -/
def python_OP_EndCoroutine := ifTranslated self .EndCoroutine

/-- `python_OP_IfPos`. -/
def python_OP_IfPos := ifTranslated self .IfPos

/-- `python_OP_Cast`. It asks for the switch of another opcode. -/
def python_OP_Cast := ifTranslated self .IfPos

/-- The dispatcher of an opcode. -/
def dispatcher (op : DualOpcode) : Except Exc (List Side) :=
  match op with
  | .Add_Subtract_Multiply_Divide_Remainder => python_OP_Add_Subtract_Multiply_Divide_Remainder self
  | .AggFinal => python_OP_AggFinal self
  | .AggStep => python_OP_AggStep self
  | .Affinity => python_OP_Affinity self
  | .Cast => python_OP_Cast self
  | .CollSeq => python_OP_CollSeq self
  | .Compare => python_OP_Compare self
  | .Copy => python_OP_Copy self
  | .EndCoroutine => python_OP_EndCoroutine self
  | .Function => python_OP_Function self
  | .Gosub => python_OP_Gosub self
  | .Goto => python_OP_Goto self
  | .IdxLE_IdxGT_IdxLT_IdxGE => python_OP_IdxLE_IdxGT_IdxLT_IdxGE self
  | .IdxRowid => python_OP_IdxRowid self
  | .IfPos => python_OP_IfPos self
  | .IfZero => python_OP_IfZero self
  | .If_IfNot => python_OP_If_IfNot self
  | .InitCoroutine => python_OP_InitCoroutine self
  | .Integer => python_OP_Integer self
  | .IsNull => python_OP_IsNull self
  | .Jump => python_OP_Jump self
  | .MakeRecord => python_OP_MakeRecord self
  | .Move => python_OP_Move self
  | .MustBeInt => python_OP_MustBeInt self
  | .Ne_Eq_Gt_Le_Lt_Ge => python_OP_Ne_Eq_Gt_Le_Lt_Ge self
  | .Next => python_OP_Next self
  | .NextIfOpen => python_OP_NextIfOpen self
  | .NotExists => python_OP_NotExists self
  | .NotNull => python_OP_NotNull self
  | .Null => python_OP_Null self
  | .Once => python_OP_Once self
  | .OpenRead_OpenWrite => python_OP_OpenRead_OpenWrite self
  | .Real => python_OP_Real self
  | .RealAffinity => python_OP_RealAffinity self
  | .ResultRow => python_OP_ResultRow self
  | .Return => python_OP_Return self
  | .SCopy => python_OP_SCopy self
  | .Seek => python_OP_Seek self
  | .SeekLT_SeekLE_SeekGE_SeekGT => python_OP_SeekLT_SeekLE_SeekGE_SeekGT self
  | .Sequence => python_OP_Sequence self
  | .Variable => python_OP_Variable self
  | .Yield => python_OP_Yield self

end dispatchers

/-- The branch of `mainloop` for an opcode that has two implementations. -/
def Opcode.dual : Opcode → Option DualOpcode
  | .Add | .Subtract | .Multiply | .Divide | .Remainder =>
    some .Add_Subtract_Multiply_Divide_Remainder
  | .AggFinal => some .AggFinal
  | .AggStep => some .AggStep
  | .Affinity => some .Affinity
  | .Cast => some .Cast
  | .CollSeq => some .CollSeq
  | .Compare => some .Compare
  | .Copy => some .Copy
  | .EndCoroutine => some .EndCoroutine
  | .Function => some .Function
  | .Gosub => some .Gosub
  | .Goto => some .Goto
  | .IdxLE | .IdxGT | .IdxLT | .IdxGE => some .IdxLE_IdxGT_IdxLT_IdxGE
  | .IdxRowid => some .IdxRowid
  | .IfPos => some .IfPos
  | .IfZero => some .IfZero
  | .If | .IfNot => some .If_IfNot
  | .InitCoroutine => some .InitCoroutine
  | .Integer => some .Integer
  | .IsNull => some .IsNull
  | .Jump => some .Jump
  | .MakeRecord => some .MakeRecord
  | .Move => some .Move
  | .MustBeInt => some .MustBeInt
  | .Ne | .Eq | .Gt | .Le | .Lt | .Ge => some .Ne_Eq_Gt_Le_Lt_Ge
  | .Next => some .Next
  | .NextIfOpen => some .NextIfOpen
  | .NotExists => some .NotExists
  | .NotNull => some .NotNull
  | .Null => some .Null
  | .Once => some .Once
  | .OpenRead | .OpenWrite => some .OpenRead_OpenWrite
  | .Real => some .Real
  | .RealAffinity => some .RealAffinity
  | .ResultRow => some .ResultRow
  | .Return => some .Return
  | .SCopy => some .SCopy
  | .Seek => some .Seek
  | .SeekLT | .SeekLE | .SeekGE | .SeekGT => some .SeekLT_SeekLE_SeekGE_SeekGT
  | .Sequence => some .Sequence
  | .Variable => some .Variable
  | .Yield => some .Yield
  | _ => none

/-! ## One opcode -/

/-- The dispatcher calls one implementation, that of the side that the opcode's own switch says. -/
def Served (self : OpcodeStatus) (op : DualOpcode) : Prop := dispatcher self op = .ok [self.side op]

/-- The missing branches of `OP_Integer` and `OP_Null` are not taken, and the switch that `OP_Cast`
asks for is where its own is. -/
def Dispatches (self : OpcodeStatus) (op : DualOpcode) : Prop :=
  match op with
  | .Integer => self.switch .Integer = true
  | .Null => self.switch .Null = true
  | .Cast => self.switch .IfPos = self.switch .Cast
  | _ => True

variable {self : OpcodeStatus}

/-- A method with two sides runs the one that its switch selects. -/
theorem ifTranslated_eq (op : DualOpcode) : ifTranslated self op = .ok [self.side op] := by
  unfold ifTranslated OpcodeStatus.side
  split_ifs <;> rfl

/-- A method with the translated side alone runs it only if the switch selects that. -/
theorem ifTranslatedOnly_eq_iff (op : DualOpcode) :
    ifTranslatedOnly self op = .ok [self.side op] ↔ self.switch op = true := by
  unfold ifTranslatedOnly OpcodeStatus.side
  split_ifs with h <;> simp [h]

/-- A method that looks at two switches runs the side they select, if they agree. -/
theorem ifBothTranslated_eq {op other : DualOpcode} (h : self.switch op = self.switch other) :
    ifBothTranslated self op other = .ok [self.side op] := by
  unfold ifBothTranslated OpcodeStatus.side
  rw [← h]
  cases self.switch op <;> rfl

/-- Opcodes are on the same side exactly if their switches agree. -/
theorem side_eq_iff {op op' : DualOpcode} :
    self.side op = self.side op' ↔ self.switch op = self.switch op' := by
  unfold OpcodeStatus.side
  cases self.switch op <;> cases self.switch op' <;> simp

/-- When a dispatcher does what it should, for a status with its pairs on one side. -/
theorem dispatch_served_iff (hpair : self.switch .Compare = self.switch .Jump) (op : DualOpcode) :
    Served self op ↔ Dispatches self op := by
  unfold Served Dispatches
  cases op
  case Integer => exact ifTranslatedOnly_eq_iff .Integer
  case Null => exact ifTranslatedOnly_eq_iff .Null
  case Compare => exact ⟨fun _ => trivial, fun _ => ifBothTranslated_eq hpair⟩
  case Jump => exact ⟨fun _ => trivial, fun _ => ifBothTranslated_eq hpair.symm⟩
  case Cast =>
    show ifTranslated self .IfPos = .ok [self.side .Cast] ↔ _
    rw [ifTranslated_eq]
    simp only [Except.ok.injEq, List.cons.injEq, and_true]
    exact side_eq_iff
  all_goals exact ⟨fun _ => trivial, fun _ => ifTranslated_eq _⟩

/-! ## The loop -/

/-- The local variables of `mainloop`, and everything else. -/
structure LoopState (σ : Type) where
  /-- The program counter. -/
  pc : ℤ
  /-- The result code. -/
  rc : ℕ
  /-- Everything else. -/
  rest : σ

/-- What the opcodes do with the state of the loop, each of them on its side. An exception ends the
call. -/
structure Implementations (σ : Type) where
  /-- An opcode that has two implementations, on one of the sides. -/
  dual : Side → DualOpcode → Op → LoopState σ → Except Exc (LoopState σ)
  /-- An opcode that has one. -/
  single : Op → LoopState σ → Except Exc (LoopState σ)
  /-- The preparation of the output register, and of the flag cache. -/
  before : Instr → LoopState σ → Except Exc (LoopState σ)

/-- The two implementations of each opcode do the same. -/
def Implementations.Agree {σ : Type} (I : Implementations σ) : Prop :=
  ∀ op, I.dual .python op = I.dual .c op

/-- Where `mainloop` stands. -/
inductive LoopStage (σ : Type) where
  /-- At the head of the loop. -/
  | loop (l : LoopState σ)
  /-- After a return. -/
  | left (l : LoopState σ)
  /-- After an exception. -/
  | raised (e : Exc)

section loop

variable {σ : Type} (I : Implementations σ) (status : OpcodeStatus) (program : Program)

/-- The implementations that a dispatcher calls, one after the other. -/
def perform (op : DualOpcode) (instr : Op) : List Side → LoopState σ → Except Exc (LoopState σ)
  | [], l => .ok l
  | side :: sides, l => do perform op instr sides (← I.dual side op instr l)

/-- The branch of `mainloop` for the opcode. -/
def branch (instr : Op) (l : LoopState σ) : Except Exc (LoopState σ) :=
  match instr.opcode.dual with
  | some op => do perform I op instr (← dispatcher status op) l
  | none => I.single instr l

/-- `break` after an opcode. -/
def Opcode.breaks (opcode : Opcode) (rc : ℕ) : Bool :=
  match opcode with
  | .Halt => true
  | .ResultRow => rc == SQLITE_ROW
  | .Transaction => rc == SQLITE_BUSY
  | _ => false

/-- `self._hlops[pc]`. -/
def Program.fetch (pc : ℤ) : Option Instr :=
  (pyIndex program.hlops.length pc).bind (program.hlops[·]?)

/-- The loop, once around. -/
def LoopState.turn (l : LoopState σ) : LoopStage σ :=
  if l.rc ≠ SQLITE_OK then .left l
  else
    match program.fetch l.pc with
    | none => .raised .index
    | some instr =>
      match I.before instr l with
      | .error e => .raised e
      | .ok l =>
        match instr with
        | .unimplemented _ _ => .raised .sqpyte
        | .op op =>
          match branch I status op l with
          | .error e => .raised e
          | .ok l => if op.opcode.breaks l.rc then .left l else .loop { l with pc := l.pc + 1 }

/-- What the loop does next, if it goes on. -/
def LoopStage.step : LoopStage σ → Unit → Option (LoopStage σ)
  | .loop l, _ => some (l.turn I status program)
  | _, _ => none

/-- The opcode that is executed next has two implementations. -/
def Executes (r : LoopStage σ) (op : DualOpcode) : Prop :=
  ∃ l l' instr, r = .loop l ∧ l.rc = SQLITE_OK ∧ program.fetch l.pc = some (.op instr) ∧
    I.before (.op instr) l = .ok l' ∧ instr.opcode.dual = some op

/-- Every opcode with two implementations that is executed in the next `n` turns has the property. -/
def EachExecuted (P : DualOpcode → Prop) (n : ℕ) (r : LoopStage σ) : Prop :=
  Runs.Each (LoopStage.step I status program) (fun r _ => ∀ op, Executes I program r op → P op)
    (List.replicate n ()) r

/-- The loop after `n` turns. -/
def LoopStage.after (n : ℕ) (r : LoopStage σ) : Option (LoopStage σ) :=
  Runs.after (LoopStage.step I status program) (List.replicate n ()) r

end loop

/-- The status after a sequence of calls, which begins without the flag cache. -/
def OpcodeStatus.reached (calls : List StatusCall) : OpcodeStatus :=
  calls.foldl (fun self call => (self.call call).2) (.init false)

/-! ## Whole runs -/

/-- Whatever is called, `Compare` and `Jump` stay on one side. -/
theorem reached_compare_jump (calls : List StatusCall) :
    (OpcodeStatus.reached calls).switch .Compare = (OpcodeStatus.reached calls).switch .Jump := by
  have hcall : ∀ (self : OpcodeStatus) (call : StatusCall),
      self.switch .Compare = self.switch .Jump →
      (self.call call).2.switch .Compare = (self.call call).2.switch .Jump := by
    intro self call h
    cases call with
    | set_use_translated op value => exact (set_use_translated_changes self op value).compare_jump h
    | freeze => exact h
    | disable_from_cmdline s =>
      show (self.disable_from_cmdline s).2.switch .Compare =
        (self.disable_from_cmdline s).2.switch .Jump
      by_cases hs : s = "all"
      · subst hs
        rw [disable_all]
      · rw [disable_from_cmdline_of_ne hs]
        exact (disable_specs_changes _ self).compare_jump h
  have hfold : ∀ (calls : List StatusCall) (self : OpcodeStatus),
      self.switch .Compare = self.switch .Jump →
      (calls.foldl (fun self call => (self.call call).2) self).switch .Compare =
        (calls.foldl (fun self call => (self.call call).2) self).switch .Jump := by
    intro calls
    induction calls with
    | nil => exact fun self h => h
    | cons call calls ih => exact fun self h => ih _ (hcall self call h)
  exact hfold calls _ rfl

section runs

variable {σ : Type} {I : Implementations σ} {status status' : OpcodeStatus} {program : Program}

/-- A condition that is as good as another one. -/
theorem eachExecuted_congr {P Q : DualOpcode → Prop} (h : ∀ op, P op ↔ Q op) (n : ℕ)
    (r : LoopStage σ) : EachExecuted I status program P n r ↔ EachExecuted I status program Q n r := by
  have hPQ : P = Q := funext fun op => propext (h op)
  rw [hPQ]

/-- Where the dispatcher does what it should, an opcode does the same under any status. -/
theorem branch_eq (hI : I.Agree) {instr : Op}
    (h : ∀ op, instr.opcode.dual = some op → Served status op ∧ Served status' op) (l : LoopState σ) :
    branch I status instr l = branch I status' instr l := by
  unfold branch
  cases hop : instr.opcode.dual with
  | none => rfl
  | some op =>
    obtain ⟨hs, hs'⟩ := h op hop
    dsimp only
    rw [hs, hs']
    have hside : ∀ side side' : Side, I.dual side op = I.dual side' op := by
      intro side side'
      cases side <;> cases side' <;> first | rfl | exact hI op | exact (hI op).symm
    simp only [bind, Except.bind, perform]
    rw [hside (status.side op) (status'.side op)]

/-- Then the whole turn does. -/
theorem turn_eq (hI : I.Agree) {l : LoopState σ}
    (h : ∀ op, Executes I program (.loop l) op → Served status op ∧ Served status' op) :
    l.turn I status program = l.turn I status' program := by
  unfold LoopState.turn
  split_ifs with hrc
  · rfl
  · cases hfetch : program.fetch l.pc with
    | none => rfl
    | some instr =>
      dsimp only
      cases hbefore : I.before instr l with
      | error e => rfl
      | ok l' =>
        cases instr with
        | unimplemented p2 out2_prerelease => rfl
        | op instr =>
          dsimp only
          rw [branch_eq hI fun op hop =>
            h op ⟨l, l', instr, rfl, not_not.mp hrc, hfetch, hbefore, hop⟩]

/-- Runs under two statuses whose dispatchers do what they should are the same. -/
theorem after_eq (hI : I.Agree) (n : ℕ) (r : LoopStage σ)
    (h : EachExecuted I status program (Served status) n r)
    (h' : EachExecuted I status' program (Served status') n r) :
    LoopStage.after I status program n r = LoopStage.after I status' program n r := by
  induction n generalizing r with
  | zero => rfl
  | succ n ih =>
    unfold EachExecuted at h h'
    rw [List.replicate_succ] at h h'
    unfold LoopStage.after
    rw [List.replicate_succ]
    cases r with
    | left l => rfl
    | raised e => rfl
    | loop l =>
      have hturn := turn_eq hI fun op hop => ⟨h.1 op hop, h'.1 op hop⟩
      have hnext := h.2 _ rfl
      have hnext' := h'.2 _ rfl
      rw [← hturn] at hnext'
      simp only [Runs.after, LoopStage.step, Option.bind_some]
      rw [← hturn]
      exact ih _ hnext hnext'

end runs

/-- Under a status that was reached without the flag cache, every executed opcode with two
implementations calls one of them, and the right one, exactly if none of them is `OP_Integer` or
`OP_Null` switched off, or `OP_Cast` with its switch not where that of `OP_IfPos` is. If the
implementations agree, all these runs have the same results. -/
theorem switching_iff_each {σ : Type} (I : Implementations σ) (program : Program)
    (calls : List StatusCall) (n : ℕ) (r : LoopStage σ) :
    (EachExecuted I (.reached calls) program (Served (.reached calls)) n r ↔
      EachExecuted I (.reached calls) program (Dispatches (.reached calls)) n r) ∧
    (I.Agree → ∀ calls', EachExecuted I (.reached calls) program (Dispatches (.reached calls)) n r →
      EachExecuted I (.reached calls') program (Dispatches (.reached calls')) n r →
      LoopStage.after I (.reached calls) program n r =
        LoopStage.after I (.reached calls') program n r) := by
  have hiff : ∀ calls, EachExecuted I (.reached calls) program (Served (.reached calls)) n r ↔
      EachExecuted I (.reached calls) program (Dispatches (.reached calls)) n r := fun calls =>
    eachExecuted_congr (dispatch_served_iff (reached_compare_jump calls)) n r
  exact ⟨hiff calls, fun hI calls' h h' => after_eq hI n r ((hiff calls).mpr h) ((hiff calls').mpr h')⟩

/-- A machine of one register, which `OP_Integer` sets on both sides. -/
def oneRegister : Implementations ℤ where
  dual _ op instr l := .ok (if op = .Integer then { l with rest := instr.p1 } else l)
  single _ l := .ok l
  before _ l := .ok l

/-- A program that sets the register. -/
def integerProgram : Program where
  hlops := [.op (.simple .Integer 7 1 0), .op (.simple .Halt 0 0 0)]
  resultRow_pos op hop h := by
    simp only [List.mem_cons, Instr.op.injEq, List.not_mem_nil, or_false] at hop
    rcases hop with rfl | rfl <;> cases h

/-- The register after the program. -/
def registerAfter (calls : List StatusCall) : Option ℤ :=
  match LoopStage.after oneRegister (.reached calls) integerProgram 2 (.loop ⟨0, 0, 0⟩) with
  | some (.left l) => some l.rest
  | _ => none

/-- With `OP_Integer` switched off, the opcode is skipped, and the register keeps its value. -/
theorem not_served_integer :
    ¬ (EachExecuted oneRegister (.reached [.set_use_translated "Integer" false]) integerProgram
        (Served (.reached [.set_use_translated "Integer" false])) 2 (.loop ⟨0, 0, 0⟩)) ∧
      registerAfter [] = some 7 ∧
      registerAfter [.set_use_translated "Integer" false] = some 0 := by
  refine ⟨fun h => ?_, by decide, by decide⟩
  have hserved := h.1 .Integer ⟨_, _, _, rfl, rfl, rfl, rfl, rfl⟩
  revert hserved
  unfold Served
  decide

end SQPyte
