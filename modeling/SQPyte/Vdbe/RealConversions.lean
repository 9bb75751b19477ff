import SQPyte.Mem.Conversions
import SQPyte.Vdbe.Arithmetic
import SQPyte.Vdbe.Binding
import SQPyte.Vdbe.Columns
import SQPyte.Vdbe.RowidSeek

/-!
# Conversions of reals to integers

Wherever the interpreter needs the integer of a real, it is to be the truncation, clamped to the
64-bit integers as in `doubleToInt64` of `vdbemem.c` (`ClampsReal`). The conversion of the machine
does that below `2^63` (`clampsReal_iff`). `sqlite3VdbeIntegerAffinity` asks whether the integer has
the value of the real, and so is right about all of them.
-/

namespace SQPyte

open Commands

/-- Cell `i` of a sound machine is the value `c`, the real `x`. -/
structure HoldsReal {ρ : Type} (m : Machine ρ) (i : ℕ) (c : Mem) (x : Binary64) : Prop where
  /-- The cache knows nothing false. -/
  sound : m.Sound
  /-- The cell. -/
  cell : m.mems[i]? = some c
  /-- It holds a value. -/
  value : ∃ enc, c.IsValue enc
  /-- The value is a real. -/
  real : c.flags.has MEM_Real = true
  /-- It is `x`. -/
  u_r : c.u_r = x

section programs

variable {β κ : Type} (L : CLib (Cursors β κ))

/-- `p.apCsr[op.p_Signed(1)]`, which is to be an open cursor. -/
def openCursor (op : Op) (r : Cursors β κ) : Except Exc (VdbeCursor β) :=
  if 0 ≤ op.p1 then
    match r.apCsr[op.p1.toNat]? with
    | some (some pC) => if pC.pCursor.isSome then .ok pC else .error .assertion
    | some none => .error .assertion
    | none => .error .memory
  else .error .memory

/-- `OP_Seek`. -/
def OP_Seek (op : Op) : MemM (Cursors β κ) Unit := do
  let pC ← other fun r => (openCursor op r).map fun pC =>
    ({ pC with nullRow := false }, r.set op.p1 { pC with nullRow := false })
  let pIn2 ← op.mem_of_p2
  let movetoTarget ← sqlite3VdbeIntValue L pIn2
  other fun r => .ok ((), r.set op.p1 { pC with
    movetoTarget := movetoTarget, deferredMoveto := true })

end programs

/-- What `OP_Remainder` stores for two operands of which one is a real, whose integers are `iA` and
`iB`. -/
def remainderNumber (iA iB : ℤ) : Number :=
  if iA = 0 then .null else Number.ofReal (iB.fmod (if iA = -1 then 1 else iA))

/-- The integer of the real `x` is the clamped one wherever one is needed. -/
structure ClampsReal (x : Binary64) : Prop where
  /-- `sqlite3VdbeIntValue`. -/
  intValue : ∀ {ρ : Type} (L : CLib ρ) {m : Machine ρ} {i : ℕ} {c : Mem}, HoldsReal m i c x →
    execute (sqlite3VdbeIntValue L i) m = .ok (clampInt64 x, m.mems, m.rest)
  /-- `sqlite3VdbeMemIntegerify`. -/
  integerify : ∀ {ρ : Type} (L : CLib ρ) {m : Machine ρ} {i : ℕ} {c : Mem}, HoldsReal m i c x →
    execute (sqlite3VdbeMemIntegerify L i) m = .ok (SQLITE_OK, m.mems.set i { c with
      u := BitVec.ofInt 64 (clampInt64 x), flags := withTypeFlag c.flags MEM_Int }, m.rest)
  /-- `column_int64`. -/
  column : ∀ {κ : Type} (B : Backend κ) {q : Query κ} {iCol : ℤ} {k : ℕ} {c : Mem},
    (q.call (columnMem iCol)).1 = .ok k → HoldsReal q.machine.toWorld k c x →
    (q.call (column_int64 B iCol)).1 = .ok (clampInt64 x)
  /-- `OP_Seek`. -/
  seek : ∀ {β κ : Type} (L : CLib (Cursors β κ)) {m : Machine (Cursors β κ)} {op : Op} {c : Mem}
    {pC : VdbeCursor β}, HoldsReal m op.p2.toNat c x → IsRegister m.mems.length m.nMem op.p2 →
    openCursor op m.rest = .ok pC →
    execute (OP_Seek L op) m = .ok ((), m.mems, m.rest.set op.p1 { pC with
      nullRow := false, movetoTarget := clampInt64 x, deferredMoveto := true })
  /-- The four seeks on a table. -/
  tableSeek : ∀ {β κ : Type} (L : CLib (Cursors β κ)) (B : Btree β κ) (OP_SeekLT pc : ℕ)
    (rc : ResultCode) {m : Machine (Cursors β κ)} {op : Op} {c : Mem} {pC : VdbeCursor β} {b : β},
    TableSeek m op c pC b → HoldsReal m op.p3.toNat c x →
    execute (OP_SeekLT_SeekLE_SeekGE_SeekGT L B OP_SeekLT pc rc op) m =
      (seekMove B OP_SeekLT (seekAdjust OP_SeekLT (op.opcode.seekNumber OP_SeekLT) (clampInt64 x) x)
        none (clampInt64 x) pc op (m.rest.started op pC)).map fun y => (y.1, m.mems, y.2)
  /-- `OP_Remainder` by the real. -/
  divisor : ∀ {ρ : Type} (L : CLib ρ) {m : Machine ρ} {enc : ℕ} {op : Op} {c d : Mem},
    HoldsReal m op.p1.toNat c x → Operands enc op m.mems m.nMem c d → op.opcode = .Remainder →
    d.operand L ≠ .null → ∃ mems r,
      execute (OP_Add_Subtract_Multiply_Divide_Remainder L op) m = .ok ((), mems, r) ∧
      StoresNumber op mems (remainderNumber (clampInt64 x) (d.operand L).value.toInt64)
  /-- `OP_Remainder` of the real. -/
  dividend : ∀ {ρ : Type} (L : CLib ρ) {m : Machine ρ} {enc : ℕ} {op : Op} {c d : Mem},
    HoldsReal m op.p2.toNat d x → Operands enc op m.mems m.nMem c d → op.opcode = .Remainder →
    c.operand L ≠ .null → ∃ mems r,
      execute (OP_Add_Subtract_Multiply_Divide_Remainder L op) m = .ok ((), mems, r) ∧
      StoresNumber op mems (remainderNumber (c.operand L).value.toInt64 (clampInt64 x))
  /-- `sqlite3VdbeIntegerAffinity` makes an integer of a real that is one strictly inside the range. -/
  affinity_int : ∀ {ρ : Type} {m : Machine ρ} {i : ℕ} {c : Mem}, HoldsReal m i c x → ∀ v, x.Is v →
    -2^63 < v → v < 2^63 - 1 →
    execute (sqlite3VdbeIntegerAffinity i) m = .ok (c.flags, m.mems.set i { c with
      u := BitVec.ofInt 64 v, flags := withTypeFlag c.flags MEM_Int }, m.rest)
  /-- It leaves every other real as it is. -/
  affinity_real : ∀ {ρ : Type} {m : Machine ρ} {i : ℕ} {c : Mem}, HoldsReal m i c x →
    (∀ v, x.Is v → ¬ (-2^63 < v ∧ v < 2^63 - 1)) →
    execute (sqlite3VdbeIntegerAffinity i) m = .ok (c.flags, m.mems, m.rest)

/-! ## What the conversions give -/

section conversions

variable {ρ : Type} {L : CLib ρ} {m : Machine ρ} {i : ℕ} {c : Mem} {x : Binary64}

/-- A real is no integer. -/
theorem HoldsReal.not_int (h : HoldsReal m i c x) : ¬ c.flags.has MEM_Int = true := by
  obtain ⟨enc, hvalue⟩ := h.value
  exact fun hi => hvalue.int_real ⟨hi, h.real⟩

/-- Its integer is clamped. -/
theorem HoldsReal.intValue_eq (h : HoldsReal m i c x) (L : CLib ρ) : c.intValue L = x.toInt64 := by
  unfold Mem.intValue
  rw [if_neg h.not_int, if_pos h.real, h.u_r]

/-- `sqlite3VdbeIntValue` clamps it. -/
theorem HoldsReal.execute_intValue (h : HoldsReal m i c x) (L : CLib ρ) :
    execute (sqlite3VdbeIntValue L i) m = .ok (x.toInt64, m.mems, m.rest) := by
  obtain ⟨written, hR, hann⟩ := h.sound
  have hat : (m.strict written).At i c (written i) := ⟨h.cell, rfl⟩
  rw [← h.intValue_eq L]
  exact execute_of_strict hR (hat.run_sqlite3VdbeIntValue L (hann i c h.cell))

/-- So does `sqlite3VdbeMemIntegerify`. -/
theorem HoldsReal.execute_integerify (h : HoldsReal m i c x) (L : CLib ρ) :
    execute (sqlite3VdbeMemIntegerify L i) m = .ok (SQLITE_OK, m.mems.set i { c with
      u := BitVec.ofInt 64 x.toInt64, flags := withTypeFlag c.flags MEM_Int }, m.rest) := by
  obtain ⟨written, hR, hann⟩ := h.sound
  have hat : (m.strict written).At i c (written i) := ⟨h.cell, rfl⟩
  obtain ⟨w', hrun, -⟩ := hat.run_sqlite3VdbeMemIntegerify L (hann i c h.cell)
  rw [h.intValue_eq L] at hrun
  exact execute_of_strict hR hrun

/-- So does `column_int64`. -/
theorem HoldsReal.call_column {κ : Type} (B : Backend κ) {q : Query κ} {iCol : ℤ} {k : ℕ}
    (hk : (q.call (columnMem iCol)).1 = .ok k) (h : HoldsReal q.machine.toWorld k c x) :
    (q.call (column_int64 B iCol)).1 = .ok x.toInt64 := by
  obtain ⟨written, hR, hann⟩ := h.sound
  have hat : (q.machine.toWorld.strict written).At k c (written k) := ⟨h.cell, rfl⟩
  have hvalue := hat.run_sqlite3VdbeIntValue B.lib (hann k c h.cell)
  rw [h.intValue_eq B.lib] at hvalue
  obtain ⟨m', hrun, -⟩ := runTo_onWorld_of_strict hR hvalue
  have hindex : runTo (machine (Env κ)) (columnMem iCol) q.machine = (.ok k, q.machine) := by
    rw [call_columnMem] at hk
    unfold columnMem
    rw [runTo_bind]
    show runTo (machine (Env κ)) (mem_with_index (q.machine.rest.result_set_index + iCol))
      q.machine = _
    simp only [mem_with_index, Prog.perform, runTo, machine, hk]
    rfl
  unfold Query.call column_int64
  rw [runTo_bind, hindex]
  dsimp only
  rw [hrun]

/-- The integer affinity. -/
theorem HoldsReal.execute_affinity (h : HoldsReal m i c x) :
    execute (sqlite3VdbeIntegerAffinity i) m =
      .ok (c.flags, m.mems.set i c.sqlite3VdbeIntegerAffinity, m.rest) := by
  obtain ⟨written, hR, hann⟩ := h.sound
  obtain ⟨enc, hvalue⟩ := h.value
  have hat : (m.strict written).At i c (written i) := ⟨h.cell, rfl⟩
  obtain ⟨w', hrun, -⟩ := hat.run_sqlite3VdbeIntegerAffinity (hann i c h.cell) h.real hvalue.plain.1
  exact execute_of_strict hR hrun

end conversions

section cursors

variable {β κ : Type} {m : Machine (Cursors β κ)} {op : Op} {c : Mem} {x : Binary64}
  {pC : VdbeCursor β}

/-- `OP_Seek` clamps its key. -/
theorem HoldsReal.execute_seek (L : CLib (Cursors β κ)) (h : HoldsReal m op.p2.toNat c x)
    (hp2 : IsRegister m.mems.length m.nMem op.p2) (hopen : openCursor op m.rest = .ok pC) :
    execute (OP_Seek L op) m = .ok ((), m.mems, m.rest.set op.p1 { pC with
      nullRow := false, movetoTarget := x.toInt64, deferredMoveto := true }) := by
  obtain ⟨written, hR, hann⟩ := h.sound
  set s := m.strict written with hs
  have hat : s.At op.p2.toNat c (written op.p2.toNat) := ⟨h.cell, rfl⟩
  -- The cursor is entered before the register is read, with its target set afterwards.
  have hstart : run (strictMachine (Cursors β κ)) (other fun r => (openCursor op r).map fun pC =>
      ({ pC with nullRow := false }, r.set op.p1 { pC with nullRow := false })) s =
        .ok ({ pC with nullRow := false },
          { s with rest := s.rest.set op.p1 { pC with nullRow := false } }) := by
    refine run_other_ok ?_
    show (openCursor op m.rest).map _ = _
    rw [hopen]
    rfl
  have hat₁ : Strict.At { s with rest := s.rest.set op.p1 { pC with nullRow := false } } op.p2.toNat c
      (written op.p2.toNat) := hat
  have hvalue := hat₁.run_sqlite3VdbeIntValue L (hann _ _ h.cell)
  rw [h.intValue_eq L] at hvalue
  have hrun : run (strictMachine (Cursors β κ)) (OP_Seek L op) s =
      .ok ((), { s with rest := (s.rest.set op.p1 { pC with nullRow := false }).set op.p1 { pC with
        nullRow := false, movetoTarget := x.toInt64, deferredMoveto := true } }) := by
    unfold OP_Seek Op.mem_of_p2
    rw [run_bind_ok hstart]
    rw [run_bind_ok (run_mem_of_p (s := { s with rest := _ }) hp2), run_bind_ok hvalue]
    exact run_other_ok rfl
  have hset : ∀ pC' : VdbeCursor β, (m.rest.set op.p1 { pC with nullRow := false }).set op.p1 pC' =
      m.rest.set op.p1 pC' := fun pC' => by
    unfold Cursors.set
    rw [List.set_set]
  rw [execute_of_strict hR hrun]
  show Except.ok ((), m.mems, (m.rest.set op.p1 _).set op.p1 _) = _
  rw [hset]

/-- A real is not converted, and the opcode is adjusted to its integer. -/
theorem HoldsReal.run_seekKey (L : CLib (Cursors β κ)) (OP_SeekLT : ℕ)
    (h : HoldsReal m op.p3.toNat c x) {s : Strict (Cursors β κ)} {w : Member}
    (hat : s.At op.p3.toNat c w) (ha : Announces c w)
    (hp3 : IsRegister s.mems.length s.nMem op.p3) :
    run (strictMachine _) (seekKey OP_SeekLT L op) s =
      .ok (some (seekAdjust OP_SeekLT (op.opcode.seekNumber OP_SeekLT) x.toInt64 x,
        x.toInt64), s) := by
  have hint : c.flags.has MEM_Int = false := by simpa using h.not_int
  -- The conversion is tried on a text only.
  have hstr : ¬ c.flags &&& (MEM_Int ||| MEM_Real ||| MEM_Str) = MEM_Str := by
    rw [strOnly_iff]
    rintro ⟨-, -, hr⟩
    rw [h.real] at hr
    cases hr
  unfold seekKey Op.mem_of_p3
  dsimp only
  rw [run_bind_ok (run_mem_of_p hp3), run_bind_ok hat.run_get_flags, if_neg hstr,
    run_bind_ok (hat.run_sqlite3VdbeIntValue L ha), h.intValue_eq L, hint, h.real]
  simp only [Bool.not_false, Bool.not_true, Bool.false_eq_true, ↓reduceIte]
  rw [run_bind_ok (hat.run_get_u_r h.real (ha.2 h.real)), h.u_r, run_pure]

/-- The four seeks clamp their key, and adjust the opcode. -/
theorem HoldsReal.execute_tableSeek (L : CLib (Cursors β κ)) (B : Btree β κ) (OP_SeekLT pc : ℕ)
    (rc : ResultCode) {b : β} (hseek : TableSeek m op c pC b) (h : HoldsReal m op.p3.toNat c x) :
    execute (OP_SeekLT_SeekLE_SeekGE_SeekGT L B OP_SeekLT pc rc op) m =
      (seekMove B OP_SeekLT (seekAdjust OP_SeekLT (op.opcode.seekNumber OP_SeekLT) x.toInt64 x)
        none x.toInt64 pc op (m.rest.started op pC)).map fun y => (y.1, m.mems, y.2) := by
  obtain ⟨written, hR, hann⟩ := h.sound
  have hat : Strict.At { m.strict written with rest := m.rest.started op pC } op.p3.toNat c
      (written op.p3.toNat) := ⟨h.cell, rfl⟩
  have hkey := h.run_seekKey L OP_SeekLT hat (hann _ _ h.cell) hseek.p3
  have hrun := run_seek B OP_SeekLT pc (s := m.strict written) hseek.cursor hseek.table
    rc hkey
  dsimp only at hrun
  -- The key is converted first; the rest, with its errors, is the movement for that key.
  cases hmove : seekMove B OP_SeekLT
      (seekAdjust OP_SeekLT (op.opcode.seekNumber OP_SeekLT) x.toInt64 x) none x.toInt64 pc op
      (m.rest.started op pC) with
  | ok y =>
    rw [run_other_ok (s := { m.strict written with rest := m.rest.started op pC }) hmove] at hrun
    exact execute_of_strict hR hrun
  | error e =>
    have hother : run (strictMachine (Cursors β κ)) (other (seekMove B OP_SeekLT
        (seekAdjust OP_SeekLT (op.opcode.seekNumber OP_SeekLT) x.toInt64 x) none x.toInt64 pc op))
        { m.strict written with rest := m.rest.started op pC } = .error (some e) := by
      unfold other
      rw [run_perform, strictMachine]
      simp only [hmove]
    rw [hother] at hrun
    exact execute_of_strict_error hR hrun

end cursors

section remainder

variable {ρ : Type} {L : CLib ρ} {m : Machine ρ} {enc : ℕ} {op : Op} {c d : Mem} {x : Binary64}
  {X Y : NumericOperand}

/-- As an operand it is itself. -/
theorem HoldsReal.operand {i : ℕ} (h : HoldsReal m i c x) (L : CLib ρ) : c.operand L = .real x := by
  obtain ⟨enc, hvalue⟩ := h.value
  -- A value that is a real is neither NULL nor an integer.
  have hnull : c.flags.has MEM_Null = false := by
    rw [Bool.eq_false_iff]
    intro hn
    have := (hvalue.null hn).2.1
    rw [h.real] at this
    cases this
  have hnum : c.flags.has (MEM_Int ||| MEM_Real) = true := by
    rw [Flags.has_or_right, h.real, Bool.or_true]
  have hint : c.flags.has MEM_Int = false := by simpa using h.not_int
  have hreal := h.real
  unfold Mem.operand Mem.realValue
  rw [Mem.numericType_of_number hnum, hnull]
  simp at hint hreal ⊢
  simp [hint, hreal, h.u_r]

/-- The conversion of the machine gives a 64-bit integer. -/
theorem fitsInt64_toInt64 (x : Binary64) : FitsInt64 x.toInt64 := by
  unfold Binary64.toInt64 FitsInt64 SMALLEST_INT64 LARGEST_INT64
  split_ifs <;> omega

/-- What `OP_Remainder` stores. -/
theorem fpNumber_remainder (rA rB : Binary64) :
    fpNumber false (realOperation .Remainder rA rB) =
      some (remainderNumber rA.toInt64 rB.toInt64) := by
  unfold realOperation remainderNumber
  dsimp only
  by_cases h0 : rA.toInt64 = 0
  · rw [if_pos h0, if_pos h0]
    rfl
  · rw [if_neg h0, if_neg h0, fmod_guard]
    exact fpNumber_ofInt (fitsInt64_fmod (fitsInt64_toInt64 rA) h0)

/-- With a real on either side, the opcode works on the real values. -/
theorem arithmetic_remainder (hX : X ≠ .null) (hY : Y ≠ .null) (h : X.isReal || Y.isReal) :
    arithmetic (intOperation .Remainder) (realOperation .Remainder) X Y =
      some (remainderNumber X.value.toInt64 Y.value.toInt64) := by
  rw [← fpNumber_remainder]
  cases X <;> cases Y <;> simp_all [arithmetic, NumericOperand.isReal]

/-- A real on either side has the opcode store the remainder of the integers. -/
theorem execute_remainder (hs : m.Sound) (h : Operands enc op m.mems m.nMem c d)
    (hop : op.opcode = .Remainder) (hc : c.operand L ≠ .null) (hd : d.operand L ≠ .null)
    (hreal : (c.operand L).isReal || (d.operand L).isReal) : ∃ mems r,
      execute (OP_Add_Subtract_Multiply_Divide_Remainder L op) m = .ok ((), mems, r) ∧
      StoresNumber op mems
        (remainderNumber (c.operand L).value.toInt64 (d.operand L).value.toInt64) := by
  obtain ⟨written, hR, hann⟩ := hs
  obtain ⟨e, he⟩ := h.output (L := L)
  have hx : arithmetic (intOperation op.opcode) (realOperation op.opcode) (c.operand L)
      (d.operand L) =
        some (remainderNumber (c.operand L).value.toInt64 (d.operand L).value.toInt64) := by
    rw [hop]
    exact arithmetic_remainder hc hd hreal
  have hfits : (remainderNumber (c.operand L).value.toInt64 (d.operand L).value.toInt64).Fits := by
    unfold remainderNumber Number.ofReal
    split_ifs <;> trivial
  obtain ⟨s', hlead, hmems, -⟩ := leads_arithmetic (s := m.strict written) hann h hx he
  refine ⟨s'.mems, s'.rest, hlead.execute hR, ?_⟩
  rw [hmems]
  exact ⟨_, List.getElem?_set_self (List.getElem?_eq_some_iff.mp he).1,
    number_store hfits e _ (has_null_pySetNull L e _)⟩

end remainder

/-! ## The condition -/

/-- The integer of a real is the clamped one wherever one is needed exactly if the real is below
`2^63`. -/
theorem clampsReal_iff {x : Binary64} (hnan : x.isNaN = false) : ClampsReal x ↔ x.value < 2^63 := by
  rw [← toInt64_eq_doubleToInt64_iff hnan, doubleToInt64_eq hnan]
  constructor
  · intro h
    have hholds : HoldsReal (Machine.fresh [Mem.ofReal x] 0 ()) 0 (Mem.ofReal x) x :=
      { sound := Machine.Sound.fresh _ _ _
        cell := rfl
        value := ⟨SQLITE_UTF8, Mem.isValue_ofReal x hnan⟩
        real := by simp [Mem.ofReal, Mem.ofWord]
        u_r := rfl }
    have heq := (hholds.execute_intValue CLib.decimal).symm.trans (h.intValue CLib.decimal hholds)
    exact (Prod.mk.inj (Except.ok.inj heq)).1
  · intro hclamp
    exact
      { intValue := fun L _ _ _ h => by rw [← hclamp]; exact h.execute_intValue L
        integerify := fun L _ _ _ h => by rw [← hclamp]; exact h.execute_integerify L
        column := fun B _ _ _ _ hk h => by rw [← hclamp]; exact h.call_column B hk
        seek := fun L _ _ _ _ h hp2 hopen => by rw [← hclamp]; exact h.execute_seek L hp2 hopen
        tableSeek := fun L B OP_SeekLT pc rc _ _ _ _ _ hseek h => by
          rw [← hclamp]
          exact h.execute_tableSeek L B OP_SeekLT pc rc hseek
        divisor := fun L m _ op c d h hops hop hd => by
          have hc := h.operand L
          rw [← hclamp]
          have hrun := execute_remainder (L := L) h.sound hops hop (by rw [hc]; simp) hd
            (by rw [hc]; rfl)
          rwa [hc] at hrun
        dividend := fun L m _ op c d h hops hop hc => by
          have hd := h.operand L
          rw [← hclamp]
          have hrun := execute_remainder (L := L) h.sound hops hop hc (by rw [hd]; simp)
            (by rw [hd, Bool.or_comm]; rfl)
          rwa [hd] at hrun
        affinity_int := fun h v his hlo hhi => by
          rw [h.execute_affinity, sqlite3VdbeIntegerAffinity_of_is (by rw [h.u_r]; exact his) hhi hlo]
        affinity_real := fun {_ _ _ c} h hno => by
          have hsmall : ¬ IsSmallInt c.u_r := by
            rintro ⟨v, his, hhi, hlo⟩
            exact hno v (h.u_r ▸ his) ⟨hlo, hhi⟩
          rw [h.execute_affinity, sqlite3VdbeIntegerAffinity_of_not hsmall, set_self h.cell] }

/-- The smallest 64-bit integer is clamped as it should be. -/
theorem clampsReal_smallest : ClampsReal (Binary64.ofInt (-2^63)) := by
  refine (clampsReal_iff (by decide)).mpr ?_
  have his : (Binary64.ofInt (-2^63)).Is (-2^63) :=
    Binary64.is_ofInt (by omega) (by omega) (by decide)
  rw [his.value_eq]
  norm_num

/-- `2^63` becomes the smallest integer in Python and the largest in C. -/
theorem not_clampsReal_two_pow :
    (Binary64.ofInt (2^63)).isNaN = false ∧
    execute (sqlite3VdbeIntValue CLib.decimal 0)
        (Machine.fresh [Mem.ofReal (Binary64.ofInt (2^63))] 0 ()) =
      .ok (-2^63, [Mem.ofReal (Binary64.ofInt (2^63))], ()) ∧
    Mem.doubleToInt64 (Binary64.ofInt (2^63)) = 2^63 - 1 ∧
    ¬ ClampsReal (Binary64.ofInt (2^63)) := by
  refine ⟨by decide, by decide +kernel, by decide +kernel, fun h => ?_⟩
  have hlt := (clampsReal_iff (by decide)).mp h
  have his : (Binary64.ofInt (2^63)).Is (2^63) :=
    Binary64.is_ofInt (by omega) (by omega) (by decide)
  rw [his.value_eq] at hlt
  norm_num at hlt

end SQPyte
