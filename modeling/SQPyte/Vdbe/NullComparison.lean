import SQPyte.Vdbe.Comparison

/-!
# Comparisons with NULL

`nullOutcome` says what a comparison with a NULL operand is to leave. The Python translation and the
C version each have a flaw under `SQLITE_NULLEQ`. The translation does not look at the opcode again,
so that `OP_Eq` gets the outcome of `OP_Ne`. The C version puts the flags of the operands back after
it stored the result, also where the result is stored in an operand. `nullSemantics_iff` says that
otherwise both leave what they should.
-/

namespace SQPyte

open Commands

variable {ρ : Type} {L : CLib ρ} {V : CVdbe ρ} {s : Strict ρ} {op : Op} {enc : ℕ} {pc : ℤ} {rc : ℕ}

/-! ## Delivering a result -/

/-- Fetching a register. -/
theorem run_mem_of_p {p : ℤ} (h : IsRegister s.mems.length s.nMem p) :
    run (strictMachine ρ) (mem_with_index p) s = .ok (p.toNat, s) :=
  Strict.run_mem_with_index s h.memIndex_eq

/-- Under `SQLITE_STOREP2`, the result is stored. -/
theorem run_deliver_store (hst : op.p5_has SQLITE_STOREP2 = true) {c : Mem} {w : Member}
    (hp2 : IsRegister s.mems.length s.nMem op.p2) (hi : s.At op.p2.toNat c w) (res : ℤ) :
    run (strictMachine ρ) (deliver op pc res) s = .ok (pc, s.setMem op.p2.toNat { c with
      flags := withTypeFlag c.flags MEM_Int, u := BitVec.ofInt 64 res } .i) := by
  unfold deliver Op.mem_of_p2 MemSetTypeFlag
  rw [if_pos hst, run_bind_ok (run_mem_of_p hp2), bind_assoc, run_bind_ok hi.run_get_flags,
    run_bind_ok (hi.run_set_flags _), run_bind_ok ((hi.setMem _ _).run_set_u_i _ _), run_pure,
    Strict.setMem_setMem]

/-- Otherwise it decides the jump. -/
theorem run_deliver_jump (hst : op.p5_has SQLITE_STOREP2 = false) (res : Bool) :
    run (strictMachine ρ) (deliver op pc (truth res)) s =
      .ok (if res then op.p2as_pc else pc, s) := by
  unfold deliver
  rw [if_neg (by simp [hst]), run_pure]
  cases res <;> rfl

/-- A routine on one register. -/
theorem onMem_eq {α : Type} {mems : List Mem} {i : ℤ} {c : Mem} (h : mems[i.toNat]? = some c)
    (routine : Mem → Except Exc (α × Mem × ρ)) :
    onMem mems i routine = (routine c).map fun (a, c', r) => (a, mems.set i.toNat c', r) := by
  unfold onMem aMem
  rw [h]
  cases hr : routine c with
  | error e => simp [bind, Except.bind, hr, Except.map]
  | ok x => simp [bind, Except.bind, hr, Except.map, pure, Except.pure]

section c_version

variable {mems : List Mem} {c1 c2 c3 : Mem} {r : ρ}

/-- The C version decides the jump in the same way. -/
theorem c_deliver_jump (hst : op.p5_has SQLITE_STOREP2 = false)
    (h1 : mems[op.p1.toNat]? = some c1) (h3 : mems[op.p3.toNat]? = some c3) (res : Bool) :
    c_deliver op pc rc res c1.flags c3.flags mems r =
      .ok ((if res then op.p2as_pc else pc, rc), mems, r) := by
  unfold c_deliver
  rw [if_neg (by simp [hst])]
  simp only [bind, Except.bind, pure, Except.pure]
  rw [onMem_eq h1, Except.map]
  dsimp only
  rw [set_self h1, onMem_eq h3, Except.map]
  dsimp only
  rw [set_self h3]

/-- The C version stores the result. If it stores it in an operand, the flags of that operand are put
back over the new ones. -/
theorem c_deliver_store (hst : op.p5_has SQLITE_STOREP2 = true)
    (h1 : mems[op.p1.toNat]? = some c1) (h2 : mems[op.p2.toNat]? = some c2)
    (h3 : mems[op.p3.toNat]? = some c3) (res : Bool) :
    c_deliver op pc rc res c1.flags c3.flags mems r = .ok ((pc, rc), mems.set op.p2.toNat { c2 with
      flags := if op.p2.toNat = op.p1.toNat ∨ op.p2.toNat = op.p3.toNat then c2.flags
        else withTypeFlag c2.flags MEM_Int, u := BitVec.ofInt 64 (truth res) }, r) := by
  have hset : ∀ {l : List Mem} {i j : ℕ} {c d : Mem}, l[i]? = some c → i ≠ j →
      (l.set j d)[i]? = some c := fun hc hij => by rw [List.getElem?_set_ne hij.symm]; exact hc
  have hself : ∀ {l : List Mem} {i : ℕ} {c d : Mem}, l[i]? = some c → (l.set i d)[i]? = some d :=
    fun hc => List.getElem?_set_self (List.getElem?_eq_some_iff.mp hc).1
  unfold c_deliver
  rw [if_pos hst, onMem_eq h2]
  simp only [bind, Except.bind, pure, Except.pure, Except.map]
  by_cases h21 : op.p2.toNat = op.p1.toNat
  · obtain rfl : c2 = c1 := by rw [h21, h1] at h2; exact (Option.some.inj h2).symm
    rw [h21, onMem_eq (hself h1), Except.map]
    dsimp only
    rw [List.set_set]
    by_cases h31 : op.p3.toNat = op.p1.toNat
    · obtain rfl : c3 = c2 := by rw [h31, h1] at h3; exact (Option.some.inj h3).symm
      have hset3 : ∀ d : Mem, (mems.set op.p1.toNat d)[op.p3.toNat]? = some d := fun d => by
        rw [h31]; exact hself h1
      rw [onMem_eq (hset3 _), Except.map]
      dsimp only
      rw [h31, List.set_set]
      simp
    · rw [onMem_eq (hset h3 h31), Except.map]
      dsimp only
      rw [set_self (hset h3 h31)]
      simp
  · rw [onMem_eq (hset h1 (Ne.symm h21)), Except.map]
    dsimp only
    rw [set_self (hset h1 (Ne.symm h21))]
    by_cases h23 : op.p2.toNat = op.p3.toNat
    · obtain rfl : c2 = c3 := by rw [h23, h3] at h2; exact (Option.some.inj h2).symm
      rw [h23, onMem_eq (hself h3), Except.map]
      dsimp only
      rw [List.set_set]
      simp
    · rw [onMem_eq (hset h3 (Ne.symm h23)), Except.map]
      dsimp only
      rw [set_self (hset h3 (Ne.symm h23))]
      simp [h21, h23]

end c_version

/-! ## What a comparison with NULL is to leave -/

/-- The outcome under `SQLITE_NULLEQ`: `OP_Eq` holds iff both operands are NULL and the second is
not `MEM_Cleared`, and `OP_Ne` iff `OP_Eq` does not. -/
def nulleqOutcome (opcode : Opcode) (flags1 flags3 : Flags) : Bool :=
  if opcode = .Eq then nullsEqual flags1 flags3 else !nullsEqual flags1 flags3

/-- What a comparison with a NULL operand leaves, if `outcome` is its outcome under
`SQLITE_NULLEQ`: the program counter and the result code, and the registers. -/
def nullComparison (outcome : Bool) (op : Op) (pc : ℤ) (rc : ℕ) (mems : List Mem) :
    (ℤ × ℕ) × List Mem :=
  if op.p5_has SQLITE_NULLEQ then
    if op.p5_has SQLITE_STOREP2 then
      ((pc, rc), mems.modify op.p2.toNat fun c => { c with
        flags := withTypeFlag c.flags MEM_Int, u := BitVec.ofInt 64 (truth outcome) })
    else ((if outcome then op.p2as_pc else pc, rc), mems)
  else if op.p5_has SQLITE_STOREP2 then
    ((pc, rc), mems.modify op.p2.toNat fun c => { c with flags := withTypeFlag c.flags MEM_Null })
  else ((if op.p5_has SQLITE_JUMPIFNULL then op.p2as_pc else pc, rc), mems)

/-- The operands of a comparison of which at least one is NULL, under the conditions on `P5` that the
code asserts. -/
structure NullOperands (m : Machine ρ) (op : Op) (c1 c3 : Mem) : Prop where
  /-- The opcode is a comparison. -/
  comparison : op.opcode.isComparison = true
  /-- `P1` is a register. -/
  p1 : IsRegister m.mems.length m.nMem op.p1
  /-- `P3` is a register. -/
  p3 : IsRegister m.mems.length m.nMem op.p3
  /-- `P2` is a register if the result is stored. -/
  p2 : op.p5_has SQLITE_STOREP2 = true → IsRegister m.mems.length m.nMem op.p2
  /-- The first operand. -/
  cell1 : m.mems[op.p1.toNat]? = some c1
  /-- The second operand. -/
  cell3 : m.mems[op.p3.toNat]? = some c3
  /-- One is NULL. -/
  null : Flags.has (c1.flags ||| c3.flags) MEM_Null = true
  /-- `SQLITE_NULLEQ` is only used with `OP_Eq` and `OP_Ne`, and not with `SQLITE_JUMPIFNULL`. -/
  nulleq : op.p5_has SQLITE_NULLEQ = true → (op.opcode = .Eq ∨ op.opcode = .Ne) ∧
    c1.flags.has MEM_Cleared = false ∧ op.p5_has SQLITE_JUMPIFNULL = false

/-- Both versions leave what a comparison with a NULL operand is to leave. -/
def NullSemantics (L : CLib ρ) (V : CVdbe ρ) (enc : ℕ) (pc : ℤ) (rc : ℕ) (op : Op) (m : Machine ρ)
    (c1 c3 : Mem) : Prop :=
  let out := nullComparison (nulleqOutcome op.opcode c1.flags c3.flags) op pc rc m.mems
  execute (OP_Ne_Eq_Gt_Le_Lt_Ge L enc pc rc op) m = .ok (out.1, out.2, m.rest) ∧
    impl_OP_Ne_Eq_Gt_Le_Lt_Ge L V enc pc rc op m.mems m.rest = .ok (out.1, out.2, m.rest)

section outcomes

variable {m : Machine ρ} {c1 c2 c3 : Mem}

/-- The translation, run up to the test for NULL. -/
theorem run_comparison_start (h1 : IsRegister s.mems.length s.nMem op.p1)
    (h3 : IsRegister s.mems.length s.nMem op.p3) {w1 w3 : Member} (hc1 : s.At op.p1.toNat c1 w1)
    (hc3 : s.At op.p3.toNat c3 w3) {k : ℕ → Flags → ℕ → Flags → MemM ρ (ℤ × ℕ)} :
    run (strictMachine ρ) (do
      let pIn1 ← op.mem_of_p1
      let flags1 ← get_flags pIn1
      let pIn3 ← op.mem_of_p3
      let flags3 ← get_flags pIn3
      k pIn1 flags1 pIn3 flags3) s =
    run (strictMachine ρ) (k op.p1.toNat c1.flags op.p3.toNat c3.flags) s := by
  unfold Op.mem_of_p1 Op.mem_of_p3
  rw [run_bind_ok (run_mem_of_p h1), run_bind_ok hc1.run_get_flags, run_bind_ok (run_mem_of_p h3),
    run_bind_ok hc3.run_get_flags]

/-- What the translation leaves: under `SQLITE_NULLEQ`, the outcome is that of `OP_Ne`. -/
theorem execute_nullComparison (hs : m.Sound) (h : NullOperands m op c1 c3) :
    execute (OP_Ne_Eq_Gt_Le_Lt_Ge L enc pc rc op) m =
      (let out := nullComparison (nulleqOutcome .Ne c1.flags c3.flags) op pc rc m.mems
      .ok (out.1, out.2, m.rest)) := by
  obtain ⟨written, hR, -⟩ := hs
  have hc1 : (m.strict written).At op.p1.toNat c1 (written op.p1.toNat) := ⟨h.cell1, rfl⟩
  have hc3 : (m.strict written).At op.p3.toNat c3 (written op.p3.toNat) := ⟨h.cell3, rfl⟩
  have hc2 : op.p5_has SQLITE_STOREP2 = true → ∃ c2, m.mems[op.p2.toNat]? = some c2 ∧
      (m.strict written).At op.p2.toNat c2 (written op.p2.toNat) := fun hst =>
    ⟨_, List.getElem?_eq_getElem (h.p2 hst).lt, List.getElem?_eq_getElem (h.p2 hst).lt, rfl⟩
  have hres : (if nullsEqual c1.flags c3.flags = true then 0 else 1 : ℤ) =
      truth (nulleqOutcome .Ne c1.flags c3.flags) := by
    unfold nulleqOutcome truth
    cases nullsEqual c1.flags c3.flags <;> simp
  -- It is enough to run the opcode in the strict machine.
  suffices hrun : ∃ s', run (strictMachine ρ) (OP_Ne_Eq_Gt_Le_Lt_Ge L enc pc rc op)
      (m.strict written) = .ok ((nullComparison (nulleqOutcome .Ne c1.flags c3.flags) op pc rc
        m.mems).1, s') ∧
      s'.mems = (nullComparison (nulleqOutcome .Ne c1.flags c3.flags) op pc rc m.mems).2 ∧
      s'.rest = m.rest by
    obtain ⟨s', hrun, hmems, hrest⟩ := hrun
    rw [execute_of_strict hR hrun, hmems, hrest]
  unfold OP_Ne_Eq_Gt_Le_Lt_Ge nullComparison
  rw [run_comparison_start h.p1 h.p3 hc1 hc3, if_pos h.null]
  -- Under `SQLITE_NULLEQ` two NULLs are equal, and a NULL differs from a value.
  by_cases hnq : op.p5_has SQLITE_NULLEQ = true
  · obtain ⟨hop, hcl, hjn⟩ := h.nulleq hnq
    have hassert : (op.opcode == .Eq || op.opcode == .Ne) = true := by
      rcases hop with hop | hop <;> rw [hop] <;> rfl
    rw [if_pos hnq, if_pos hnq, run_bind_ok (Strict.run_pyAssert _ hassert),
      run_bind_ok (Strict.run_pyAssert _ (by rw [hcl]; rfl)),
      run_bind_ok (Strict.run_pyAssert _ (by rw [hjn]; rfl)), hres]
    -- Without it the result is NULL, which is stored in `r[P2]` when the opcode stores.
    cases hst : op.p5_has SQLITE_STOREP2 with
    | true =>
      obtain ⟨c2, hmem, hc2⟩ := hc2 hst
      rw [run_bind_ok (run_deliver_store hst (h.p2 hst) hc2 _), run_pure, if_pos rfl,
        modify_eq_set hmem]
      exact ⟨_, rfl, rfl, rfl⟩
    | false =>
      rw [run_bind_ok (run_deliver_jump hst _), run_pure, if_neg Bool.false_ne_true]
      exact ⟨_, rfl, rfl, rfl⟩
  · rw [if_neg hnq, if_neg hnq]
    cases hst : op.p5_has SQLITE_STOREP2 with
    | true =>
      obtain ⟨c2, hmem, hc2⟩ := hc2 hst
      unfold Op.mem_of_p2 MemSetTypeFlag
      rw [if_pos rfl, run_bind_ok (run_mem_of_p (h.p2 hst)), bind_assoc,
        run_bind_ok hc2.run_get_flags, run_bind_ok (hc2.run_set_flags _), run_pure, if_pos rfl,
        modify_eq_set hmem]
      exact ⟨_, rfl, rfl, rfl⟩
    | false =>
      rw [if_neg Bool.false_ne_true, if_neg Bool.false_ne_true, run_pure]
      exact ⟨_, rfl, rfl, rfl⟩

/-- What the C version leaves: if the result is stored in an operand, the flags of the operand stay
what they were. -/
theorem impl_nullComparison (h : NullOperands m op c1 c3) (r : ρ) :
    impl_OP_Ne_Eq_Gt_Le_Lt_Ge L V enc pc rc op m.mems r =
      (let outcome := nulleqOutcome op.opcode c1.flags c3.flags
      let out := nullComparison outcome op pc rc m.mems
      .ok (out.1, if op.p5_has SQLITE_NULLEQ ∧ op.p5_has SQLITE_STOREP2 ∧
          (op.p2.toNat = op.p1.toNat ∨ op.p2.toNat = op.p3.toNat) then
        m.mems.modify op.p2.toNat fun c => { c with u := BitVec.ofInt 64 (truth outcome) }
        else out.2, r)) := by
  have hc2 : op.p5_has SQLITE_STOREP2 = true → ∃ c2, m.mems[op.p2.toNat]? = some c2 := fun hst =>
    ⟨_, List.getElem?_eq_getElem (h.p2 hst).lt⟩
  unfold impl_OP_Ne_Eq_Gt_Le_Lt_Ge nullComparison
  simp only [aMem, h.cell1, h.cell3, bind, Except.bind]
  rw [if_pos h.null]
  by_cases hnq : op.p5_has SQLITE_NULLEQ = true
  · have hres : relation op.opcode (if nullsEqual c1.flags c3.flags = true then 0 else 1) =
        nulleqOutcome op.opcode c1.flags c3.flags := by
      unfold relation nulleqOutcome
      rcases (h.nulleq hnq).1 with hop | hop <;> rw [hop] <;>
        cases nullsEqual c1.flags c3.flags <;> rfl
    rw [if_pos hnq, if_pos hnq, hres]
    cases hst : op.p5_has SQLITE_STOREP2 with
    | true =>
      obtain ⟨c2, hmem⟩ := hc2 hst
      rw [c_deliver_store hst h.cell1 hmem h.cell3]
      simp only [hnq, true_and, ↓reduceIte, modify_eq_set hmem]
      split_ifs <;> rfl
    | false =>
      rw [c_deliver_jump hst h.cell1 h.cell3]
      simp
  · rw [if_neg hnq, if_neg hnq]
    cases hst : op.p5_has SQLITE_STOREP2 with
    | true =>
      obtain ⟨c2, hmem⟩ := hc2 hst
      rw [if_pos rfl, onMem_eq hmem]
      simp [Except.map, pure, Except.pure, hnq, modify_eq_set hmem]
    | false =>
      simp [pure, Except.pure]

end outcomes

/-- Both versions leave what they should exactly if, under `SQLITE_NULLEQ`, the opcode is `OP_Ne` (or
the jump goes to the next instruction), and the result is not stored in an operand (unless its flags
are those of an integer already). -/
theorem nullSemantics_iff (L : CLib ρ) (V : CVdbe ρ) (enc : ℕ) (pc : ℤ) (rc : ℕ) (op : Op)
    (m : Machine ρ) (c1 c3 : Mem) (hs : m.Sound) (h : NullOperands m op c1 c3) :
    NullSemantics L V enc pc rc op m c1 c3 ↔ (op.p5_has SQLITE_NULLEQ = true →
      (op.opcode = .Ne ∨ op.p5_has SQLITE_STOREP2 = false ∧ op.p2as_pc = pc) ∧
      (op.p5_has SQLITE_STOREP2 = true → op.p2 = op.p1 ∨ op.p2 = op.p3 →
        ∀ c2, m.mems[op.p2.toNat]? = some c2 → withTypeFlag c2.flags MEM_Int = c2.flags)) := by
  unfold NullSemantics
  rw [execute_nullComparison hs h, impl_nullComparison h]
  by_cases hnq : op.p5_has SQLITE_NULLEQ = true
  · have hop := (h.nulleq hnq).1
    -- The translation always gives the outcome of `OP_Ne`.
    have houtcome : nulleqOutcome .Ne c1.flags c3.flags =
        nulleqOutcome op.opcode c1.flags c3.flags ↔ op.opcode = .Ne := by
      unfold nulleqOutcome
      rcases hop with hop | hop <;> rw [hop] <;> cases nullsEqual c1.flags c3.flags <;> simp
    unfold nullComparison
    cases hst : op.p5_has SQLITE_STOREP2 with
    | true =>
      have hp1 := h.p1
      have hp2 := h.p2 hst
      have hp3 := h.p3
      obtain ⟨c2, hmem⟩ : ∃ c2, m.mems[op.p2.toNat]? = some c2 :=
        ⟨_, List.getElem?_eq_getElem hp2.lt⟩
      -- A result stored over an operand changes its flags.
      have halias : (op.p2.toNat = op.p1.toNat ∨ op.p2.toNat = op.p3.toNat) ↔
          (op.p2 = op.p1 ∨ op.p2 = op.p3) := by
        have := hp1.1
        have := hp2.1
        have := hp3.1
        omega
      have htruth : ∀ a b : Bool, BitVec.ofInt 64 (truth a) = BitVec.ofInt 64 (truth b) ↔ a = b := by
        decide
      simp only [hnq, ↓reduceIte, modify_eq_set hmem, true_and, Except.ok.injEq, Prod.mk.injEq,
        and_true, set_eq_set_iff hp2.lt, halias, htruth, houtcome, Mem.mk.injEq]
      by_cases hal : op.p2 = op.p1 ∨ op.p2 = op.p3
      · simp [set_eq_set_iff hp2.lt, eq_comm, hmem]
      · simp [hal]
    | false =>
      -- A jump to the next opcode is the same as none.
      have hjump : ∀ a b : Bool, ((if a = true then op.p2as_pc else pc) =
          if b = true then op.p2as_pc else pc) ↔ a = b ∨ op.p2as_pc = pc := by
        intro a b
        cases a <;> cases b <;> simp [eq_comm]
      simp only [hnq, ↓reduceIte, Bool.false_eq_true, Except.ok.injEq, Prod.mk.injEq, and_true,
        hjump, houtcome]
      simp
  · simp [nullComparison, hnq]

/-- The comparison `1 IS NOT NULL`, stored. -/
theorem nullSemantics_one_isnot_null :
    NullSemantics CLib.decimal CVdbe.never SQLITE_UTF8 4 SQLITE_OK
      ⟨.Ne, 0, 2, 1, .NOTUSED, SQLITE_NULLEQ ||| SQLITE_STOREP2⟩
      (Machine.fresh [Mem.ofInt 1, Mem.ofNull, Mem.ofNull] 2 ()) (Mem.ofInt 1) Mem.ofNull := by
  refine (nullSemantics_iff _ _ _ _ _ _ _ _ _ (Machine.Sound.fresh _ _ _) ⟨by decide, by decide,
    by decide, by decide, rfl, rfl, by decide, by decide⟩).mpr fun _ => ⟨Or.inl rfl, ?_⟩
  rintro - (h | h) <;> exact absurd h (by decide)

/-- The comparison `NULL IS NULL`, stored. -/
def nullIsNull : Op := ⟨.Eq, 0, 2, 1, .NOTUSED, SQLITE_NULLEQ ||| SQLITE_STOREP2⟩

/-- The translation stores 0 for `NULL IS NULL`, where the C version stores 1. -/
theorem comparison_null_is_null :
    let m := Machine.fresh [Mem.ofNull, Mem.ofNull, Mem.ofNull] 2 ()
    m.Sound ∧ NullOperands m nullIsNull Mem.ofNull Mem.ofNull ∧
      execute (OP_Ne_Eq_Gt_Le_Lt_Ge CLib.decimal SQLITE_UTF8 4 SQLITE_OK nullIsNull) m =
        .ok ((4, SQLITE_OK), [Mem.ofNull, Mem.ofNull, Mem.ofInt 0], ()) ∧
      impl_OP_Ne_Eq_Gt_Le_Lt_Ge CLib.decimal CVdbe.never SQLITE_UTF8 4 SQLITE_OK nullIsNull
        m.mems m.rest = .ok ((4, SQLITE_OK), [Mem.ofNull, Mem.ofNull, Mem.ofInt 1], ()) ∧
      ¬ NullSemantics CLib.decimal CVdbe.never SQLITE_UTF8 4 SQLITE_OK nullIsNull m Mem.ofNull
        Mem.ofNull := by
  have hrun : execute (OP_Ne_Eq_Gt_Le_Lt_Ge CLib.decimal SQLITE_UTF8 4 SQLITE_OK nullIsNull)
      (Machine.fresh [Mem.ofNull, Mem.ofNull, Mem.ofNull] 2 ()) =
        .ok ((4, SQLITE_OK), [Mem.ofNull, Mem.ofNull, Mem.ofInt 0], ()) := rfl
  refine ⟨Machine.Sound.fresh _ _ _, ⟨by decide, by decide, by decide, by decide, rfl, rfl,
    by decide, by decide⟩, hrun, rfl, fun h => ?_⟩
  have := hrun.symm.trans h.1
  revert this
  decide

end SQPyte
