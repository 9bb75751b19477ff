import SQPyte.Record.ZeroBlob
import SQPyte.Vdbe.OperandChanges

/-!
# Comparisons do not disturb their operands

A comparison that completes has one of three courses (`Decides`): with a NULL operand, on the fast
path for numbers, and on the slow path, where the operands are converted, expanded and put back. In
each it delivers a verdict, to `P2` or to the program counter, and leaves the other registers alone
(`Completed`).

The operands have the values and flags of before, exactly if the allocator has room for the implied
zeros that the slow path stores (`disturbs_iff`): the translation goes on where the C version leaves
for `no_mem`. While memory lasts, a second evaluation has the outcome of the first.
-/

namespace SQPyte

open Commands

variable {ρ : Type} {L : CLib ρ} {V : CVdbe ρ} {s s' t : Strict ρ} {op : Op} {enc : ℕ} {pc : ℤ}
  {rc : ℕ}

/-! ## Verdicts -/

/-- What a comparison comes to. -/
inductive Verdict where
  /-- A truth value. -/
  | result (res : Bool)
  /-- NULL. -/
  | null
deriving DecidableEq

namespace Verdict

/-- The next instruction. -/
def next (d : Verdict) (op : Op) (pc : ℤ) : ℤ :=
  if op.p5_has SQLITE_STOREP2 then pc
  else match d with
    | .result res => if res then op.p2as_pc else pc
    | .null => if op.p5_has SQLITE_JUMPIFNULL then op.p2as_pc else pc

/-- The cell in which the verdict is stored. -/
def write (d : Verdict) (c : Mem) : Mem :=
  match d with
  | .result res =>
    { c with flags := withTypeFlag c.flags MEM_Int, u := BitVec.ofInt 64 (truth res) }
  | .null => { c with flags := withTypeFlag c.flags MEM_Null }

/-- The registers after the verdict has been delivered. -/
def store (d : Verdict) (op : Op) (mems : List Mem) : List Mem :=
  if op.p5_has SQLITE_STOREP2 then mems.modify op.p2.toNat d.write else mems

variable {d : Verdict} {mems : List Mem} {i : ℕ}

/-- Storing keeps the number of registers. -/
theorem length_store : (d.store op mems).length = mems.length := by
  unfold store
  split_ifs
  · exact List.length_modify ..
  · rfl

/-- And the registers that it does not write. -/
theorem store_getElem? (h : op.p5_has SQLITE_STOREP2 = true → op.p2.toNat ≠ i) :
    (d.store op mems)[i]? = mems[i]? := by
  unfold store
  split_ifs with hst
  · rw [List.getElem?_modify]
    simp [h hst]
  · rfl

/-- It can be exchanged with a write to another register. -/
theorem store_set (h : op.p5_has SQLITE_STOREP2 = true → op.p2.toNat ≠ i) (c : Mem) :
    d.store op (mems.set i c) = (d.store op mems).set i c := by
  unfold store
  split_ifs with hst
  · apply List.ext_getElem? fun j => ?_
    have hne := h hst
    rw [List.getElem?_modify, List.getElem?_set, List.getElem?_set, List.getElem?_modify,
      List.length_modify]
    by_cases hij : i = j
    · subst hij
      simp [hne]
    · simp [hij]
  · rfl

/-- Writing the verdict a second time changes nothing. -/
theorem write_write (d : Verdict) (c : Mem) : d.write (d.write c) = d.write c := by
  cases d with
  | result res =>
    unfold write
    dsimp only
    rw [withTypeFlag_withTypeFlag _ _ (by decide)]
  | null =>
    unfold write
    dsimp only
    rw [withTypeFlag_withTypeFlag _ _ (by decide)]

end Verdict

/-- The state `s'` is `s` with the verdict delivered. -/
structure VerdictDelivered (d : Verdict) (op : Op) (s s' : Strict ρ) : Prop where
  /-- The registers. -/
  mems : s'.mems = d.store op s.mems
  /-- Their number. -/
  nMem : s'.nMem = s.nMem
  /-- The state outside. -/
  rest : s'.rest = s.rest
  /-- Only `P2` has been written. -/
  written : ∀ i, (op.p5_has SQLITE_STOREP2 = true → op.p2.toNat ≠ i) → s'.written i = s.written i

/-- A truth value is delivered. -/
theorem run_deliver (hp2 : op.p5_has SQLITE_STOREP2 = true → IsRegister s.mems.length s.nMem op.p2)
    (pc : ℤ) (res : Bool) :
    ∃ s', run (strictMachine ρ) (deliver op pc (truth res)) s =
      .ok ((Verdict.result res).next op pc, s') ∧ VerdictDelivered (.result res) op s s' := by
  unfold Verdict.next
  cases hst : op.p5_has SQLITE_STOREP2 with
  | true =>
    have hc := List.getElem?_eq_getElem (hp2 hst).lt
    refine ⟨_, run_deliver_store hst (hp2 hst) ⟨hc, rfl⟩ (truth res), ?_, rfl, rfl, fun i hi => ?_⟩
    · unfold Verdict.store
      rw [if_pos hst, modify_eq_set hc]
      rfl
    · exact Function.update_of_ne (Ne.symm (hi hst)) _ _
  | false =>
    refine ⟨s, run_deliver_jump hst res, ?_, rfl, rfl, fun _ _ => rfl⟩
    unfold Verdict.store
    rw [hst, if_neg Bool.false_ne_true]

/-- NULL is delivered. -/
theorem run_deliver_null
    (hp2 : op.p5_has SQLITE_STOREP2 = true → IsRegister s.mems.length s.nMem op.p2) (pc : ℤ)
    (rc : ℕ) :
    ∃ s', run (strictMachine ρ) (if op.p5_has SQLITE_STOREP2 then do
        let pOut ← op.mem_of_p2
        MemSetTypeFlag pOut MEM_Null
        return (pc, rc)
      else return (if op.p5_has SQLITE_JUMPIFNULL then op.p2as_pc else pc, rc)) s =
      .ok ((Verdict.null.next op pc, rc), s') ∧ VerdictDelivered .null op s s' := by
  unfold Verdict.next
  cases hst : op.p5_has SQLITE_STOREP2 with
  | true =>
    have hc : s.At op.p2.toNat _ _ := ⟨List.getElem?_eq_getElem (hp2 hst).lt, rfl⟩
    unfold Op.mem_of_p2 MemSetTypeFlag
    rw [if_pos rfl, if_pos rfl, run_bind_ok (run_mem_of_p (hp2 hst)), bind_assoc,
      run_bind_ok hc.run_get_flags, run_bind_ok (hc.run_set_flags _), run_pure]
    refine ⟨_, rfl, ?_, rfl, rfl, fun i hi => ?_⟩
    · unfold Verdict.store
      rw [if_pos hst, modify_eq_set hc.1]
      rfl
    · exact Function.update_of_ne (Ne.symm (hi hst)) _ _
  | false =>
    rw [if_neg Bool.false_ne_true, if_neg Bool.false_ne_true, run_pure]
    refine ⟨s, rfl, ?_, rfl, rfl, fun _ _ => rfl⟩
    unfold Verdict.store
    rw [hst, if_neg Bool.false_ne_true]

/-- The flags of the operands are put back. -/
theorem run_undo {e1 e3 : Mem} {w1 w3 : Member} {f1 f3 : Flags} {changed : Bool}
    (h1 : t.At op.p1.toNat e1 w1) (h3 : t.At op.p3.toNat e3 w3)
    (hsame : changed = false → f1 = e1.flags ∧ f3 = e3.flags) (x : ℤ × ℕ) :
    ∃ t', run (strictMachine ρ) (do
        if changed then
          set_flags op.p1.toNat f1
          set_flags op.p3.toNat f3
        return x) t = .ok (x, t') ∧
      t'.mems = (t.mems.set op.p1.toNat { e1 with flags := f1 }).set op.p3.toNat
        { e3 with flags := f3 } ∧ t'.nMem = t.nMem ∧ t'.rest = t.rest ∧ t'.written = t.written := by
  cases changed with
  | false =>
    obtain ⟨rfl, rfl⟩ := hsame rfl
    refine ⟨t, rfl, ?_, rfl, rfl, rfl⟩
    rw [set_self h1.1, set_self h3.1]
  | true =>
    have hset1 := h1.run_set_flags f1
    by_cases hne : op.p1.toNat = op.p3.toNat
    · obtain ⟨rfl, rfl⟩ := h1.unique (hne ▸ h3)
      have h3' : (t.setMem op.p1.toNat { e1 with flags := f1 } w1).At op.p3.toNat
          { e1 with flags := f1 } w1 := hne ▸ h1.setMem _ _
      refine ⟨(t.setMem op.p1.toNat { e1 with flags := f1 } w1).setMem op.p3.toNat
        { e1 with flags := f3 } w1, ?_, rfl, rfl, rfl, ?_⟩
      · simp only [↓reduceIte]
        rw [run_bind_ok hset1, run_bind_ok (h3'.run_set_flags f3), run_pure]
      · unfold Strict.setMem
        dsimp only
        rw [← hne, Function.update_idem, ← h1.2, Function.update_eq_self]
    · have h3' := h3.setMem_ne hne { e1 with flags := f1 } w1
      refine ⟨(t.setMem op.p1.toNat { e1 with flags := f1 } w1).setMem op.p3.toNat
        { e3 with flags := f3 } w3, ?_, rfl, rfl, rfl, ?_⟩
      · simp only [↓reduceIte]
        rw [run_bind_ok hset1, run_bind_ok (h3'.run_set_flags f3), run_pure]
      · unfold Strict.setMem
        dsimp only
        rw [← h1.2, Function.update_eq_self, ← h3.2, Function.update_eq_self]

/-! ## The course of a comparison -/

/-- The comparison is one of numbers. -/
def takesFastPath (op : Op) (flags1 flags3 : Flags) : Bool :=
  op.affinity ≥ SQLITE_AFF_NUMERIC && Flags.has (flags1 ||| flags3) (MEM_Int ||| MEM_Real)

/-- No assertion of the opcode fails on these operands. -/
def admits (op : Op) (c1 c3 : Mem) : Bool :=
  if Flags.has (c1.flags ||| c3.flags) MEM_Null then
    !op.p5_has SQLITE_NULLEQ || ((op.opcode == .Eq || op.opcode == .Ne) &&
      !c1.flags.has MEM_Cleared && !op.p5_has SQLITE_JUMPIFNULL)
  else if takesFastPath op c1.flags c3.flags then c1.isNumber == c3.isNumber
  else op.p4_is_coll_or_null

/-- The verdict on operands of which one is NULL. -/
def nullVerdict (op : Op) (flags1 flags3 : Flags) : Verdict :=
  if op.p5_has SQLITE_NULLEQ then .result !nullsEqual flags1 flags3 else .null

/-- The state outside after the conversions of the operands. -/
def afterConversions (L : CLib ρ) (affinity enc : ℕ) (c1 c3 : Mem) (r : ρ) : Except Exc ρ := do
  let (_, r) ← c_convertOperand L affinity enc c1.flags c1 r
  let (_, r) ← c_convertOperand L affinity enc c3.flags c3 r
  return r

/-- The verdict on the operands `c1` and `c3`, and what is left of them. -/
inductive Decides (L : CLib ρ) (enc : ℕ) (op : Op) (c1 c3 : Mem) (r : ρ) :
    Verdict → Mem → Mem → Prop
  /-- One operand is NULL. -/
  | nulls (hnull : Flags.has (c1.flags ||| c3.flags) MEM_Null = true) :
      Decides L enc op c1 c3 r (nullVerdict op c1.flags c3.flags) c1 c3
  /-- Both are numbers. -/
  | fast (hnull : Flags.has (c1.flags ||| c3.flags) MEM_Null = false)
      (hfast : takesFastPath op c1.flags c3.flags = true) :
      Decides L enc op c1 c3 r (.result (relation op.opcode (numberCompare c3 c1))) c1 c3
  /-- Converted and expanded, they are compared. -/
  | slow (hnull : Flags.has (c1.flags ||| c3.flags) MEM_Null = false)
      (hfast : takesFastPath op c1.flags c3.flags = false) {e1 e3 g1 g3 : Mem} {r₂ r₃ : ρ}
      (h1 : Prepares L op.affinity enc (op.p1.toNat == op.p3.toNat) c1 e1 g1 r₂)
      (h3 : Prepares L op.affinity enc (op.p1.toNat == op.p3.toNat) c3 e3 g3 r₃)
      (h₂ : c1.flags.has MEM_Zero = true ∨ c3.flags.has MEM_Zero = true →
        afterConversions L op.affinity enc c1 c3 r = .ok r₂)
      (h₃ : if op.p1.toNat = op.p3.toNat then r₃ = r₂
        else ∃ e, c_expandOperand L c1.flags c1 r₂ = .ok (e, r₃)) :
      Decides L enc op c1 c3 r (.result (relation op.opcode (methodCompare op.p4_pColl e3 e1)))
        g1 g3

/-- The comparison has come to the verdict `d` and left `g1` and `g3` of its operands. -/
structure Completed (op : Op) (pc : ℤ) (rc : ℕ) (d : Verdict) (g1 g3 : Mem) (s : Strict ρ)
    (x : ℤ × ℕ) (s' : Strict ρ) : Prop where
  /-- The next instruction. -/
  answer : x = (d.next op pc, rc)
  /-- The registers. -/
  mems : s'.mems = d.store op ((s.mems.set op.p1.toNat g1).set op.p3.toNat g3)
  /-- Their number. -/
  nMem : s'.nMem = s.nMem
  /-- One register holds one cell. -/
  same : op.p1.toNat = op.p3.toNat → g1 = g3
  /-- The first operand can be read. -/
  announces1 : Announces g1 (s'.written op.p1.toNat)
  /-- The second operand can be read. -/
  announces3 : Announces g3 (s'.written op.p3.toNat)

/-- The operands of a comparison: `P2` is none of them if the result is stored. -/
structure ComparisonOperands (mems : List Mem) (nMem : ℕ) (op : Op) (enc : ℕ) (c1 c3 : Mem) :
    Prop where
  /-- The opcode is a comparison. -/
  comparison : op.opcode.isComparison = true
  /-- `P1` is a register. -/
  p1 : IsRegister mems.length nMem op.p1
  /-- `P3` is a register. -/
  p3 : IsRegister mems.length nMem op.p3
  /-- `P2` is a register if the result is stored. -/
  p2 : op.p5_has SQLITE_STOREP2 = true → IsRegister mems.length nMem op.p2
  /-- It is another one then. -/
  apart : op.p5_has SQLITE_STOREP2 = true → op.p2 ≠ op.p1 ∧ op.p2 ≠ op.p3
  /-- The first operand. -/
  cell1 : mems[op.p1.toNat]? = some c1
  /-- The second operand. -/
  cell3 : mems[op.p3.toNat]? = some c3
  /-- The first operand is a value. -/
  value1 : c1.IsValue enc
  /-- The second operand is a value. -/
  value3 : c3.IsValue enc

section course

variable {c1 c3 : Mem} {mems : List Mem} {nMem : ℕ}

/-- The output is not an operand. -/
theorem ComparisonOperands.toNat_ne (h : ComparisonOperands mems nMem op enc c1 c3) :
    (op.p5_has SQLITE_STOREP2 = true → op.p2.toNat ≠ op.p1.toNat) ∧
      (op.p5_has SQLITE_STOREP2 = true → op.p2.toNat ≠ op.p3.toNat) := by
  have h1 := h.p1.1
  have h3 := h.p3.1
  constructor <;> intro hst <;> have h2 := (h.p2 hst).1 <;> have := h.apart hst <;> omega

/-- Where the operands are as before, the verdict is all that the comparison leaves. -/
theorem VerdictDelivered.completed {d : Verdict} {w1 w3 : Member}
    (h : ComparisonOperands s.mems s.nMem op enc c1 c3)
    (h1 : s.At op.p1.toNat c1 w1) (h3 : s.At op.p3.toNat c3 w3) (hw1 : Announces c1 w1)
    (hw3 : Announces c3 w3) (hd : VerdictDelivered d op s s') :
    Completed op pc rc d c1 c3 s (d.next op pc, rc) s' where
  answer := rfl
  mems := by rw [set_self h1.1, set_self h3.1]; exact hd.mems
  nMem := hd.nMem
  same hne := (h1.unique (hne ▸ h3)).1
  announces1 := by rw [hd.written _ h.toNat_ne.1, h1.2]; exact hw1
  announces3 := by rw [hd.written _ h.toNat_ne.2, h3.2]; exact hw3

/-- With a NULL operand. -/
theorem run_comparison_null {w1 w3 : Member} (pc : ℤ) (rc : ℕ)
    (h : ComparisonOperands s.mems s.nMem op enc c1 c3)
    (h1 : s.At op.p1.toNat c1 w1) (h3 : s.At op.p3.toNat c3 w3) (hw1 : Announces c1 w1)
    (hw3 : Announces c3 w3) (hnull : Flags.has (c1.flags ||| c3.flags) MEM_Null = true) :
    (admits op c1 c3 = false → run (strictMachine ρ) (OP_Ne_Eq_Gt_Le_Lt_Ge L enc pc rc op) s =
      .error (some .assertion)) ∧
    (admits op c1 c3 = true → ∃ x s', run (strictMachine ρ)
        (OP_Ne_Eq_Gt_Le_Lt_Ge L enc pc rc op) s = .ok (x, s') ∧
      Completed op pc rc (nullVerdict op c1.flags c3.flags) c1 c3 s x s' ∧ s'.rest = s.rest) := by
  unfold admits nullVerdict OP_Ne_Eq_Gt_Le_Lt_Ge
  rw [run_comparison_start h.p1 h.p3 h1 h3, if_pos hnull, if_pos hnull]
  cases hnq : op.p5_has SQLITE_NULLEQ with
  | true =>
    simp only [Bool.not_true, Bool.false_or, ↓reduceIte]
    constructor
    · -- One of the three assertions fails.
      intro hno
      cases ha : (op.opcode == .Eq || op.opcode == .Ne) with
      | false => exact run_bind_error (Strict.run_pyAssert_false s rfl) _
      | true =>
        rw [run_bind_ok (Strict.run_pyAssert s rfl)]
        cases hb : c1.flags.has MEM_Cleared with
        | true => exact run_bind_error (Strict.run_pyAssert_false s rfl) _
        | false =>
          rw [run_bind_ok (Strict.run_pyAssert s (show (!false) = true from rfl))]
          rw [ha, hb] at hno
          exact run_bind_error (Strict.run_pyAssert_false s (by simpa using hno)) _
    · intro hyes
      simp only [Bool.and_eq_true] at hyes
      obtain ⟨⟨ha, hb⟩, hj⟩ := hyes
      -- All three hold, and the comparison result is 0 for two NULLs and 1 for one.
      have hres : (if nullsEqual c1.flags c3.flags = true then 0 else 1 : ℤ) =
          truth (!nullsEqual c1.flags c3.flags) := by
        unfold truth
        cases nullsEqual c1.flags c3.flags <;> rfl
      obtain ⟨s', hrun, hd⟩ := run_deliver (s := s) h.p2 pc (!nullsEqual c1.flags c3.flags)
      rw [run_bind_ok (Strict.run_pyAssert s ha), run_bind_ok (Strict.run_pyAssert s hb),
        run_bind_ok (Strict.run_pyAssert s hj), hres, run_bind_ok hrun, run_pure]
      exact ⟨_, s', rfl, hd.completed h h1 h3 hw1 hw3, hd.rest⟩
  | false =>
    simp only [Bool.not_false, Bool.true_or, Bool.false_eq_true, ↓reduceIte]
    refine ⟨fun h => absurd h (by simp), fun _ => ?_⟩
    obtain ⟨s', hrun, hd⟩ := run_deliver_null (s := s) h.p2 pc rc
    exact ⟨_, s', hrun, hd.completed h h1 h3 hw1 hw3, hd.rest⟩

/-- On numbers. -/
theorem run_comparison_fast {w1 w3 : Member} (pc : ℤ) (rc : ℕ)
    (h : ComparisonOperands s.mems s.nMem op enc c1 c3)
    (h1 : s.At op.p1.toNat c1 w1) (h3 : s.At op.p3.toNat c3 w3) (hw1 : Announces c1 w1)
    (hw3 : Announces c3 w3) (hnull : Flags.has (c1.flags ||| c3.flags) MEM_Null = false)
    (hfast : takesFastPath op c1.flags c3.flags = true) :
    (admits op c1 c3 = false → run (strictMachine ρ) (OP_Ne_Eq_Gt_Le_Lt_Ge L enc pc rc op) s =
      .error (some .assertion)) ∧
    (admits op c1 c3 = true → ∃ x s', run (strictMachine ρ)
        (OP_Ne_Eq_Gt_Le_Lt_Ge L enc pc rc op) s = .ok (x, s') ∧
      Completed op pc rc (.result (relation op.opcode (numberCompare c3 c1))) c1 c3 s x s' ∧
      s'.rest = s.rest) := by
  have hsome := (fast_path_iff.mp hfast).2
  unfold admits OP_Ne_Eq_Gt_Le_Lt_Ge
  rw [run_comparison_start h.p1 h.p3 h1 h3, hnull, hfast]
  unfold takesFastPath at hfast
  rw [hfast]
  simp only [Bool.false_eq_true, ↓reduceIte]
  constructor
  · intro hno
    exact run_bind_error (run_compareFast_mixed h1 hw1 h.value1 (by simpa using hno)) _
  · intro hyes
    rw [beq_iff_eq] at hyes
    have hn1 : c1.isNumber = true := hsome.elim id fun hn => hyes.trans hn
    obtain ⟨s', hrun, hd⟩ := run_deliver (s := s) h.p2 pc
      (relation op.opcode (numberCompare c3 c1))
    rw [run_bind_ok (run_compareFast h.comparison h1 h3 hw1 hw3 h.value1 h.value3 hn1
      (hyes.symm.trans hn1)), run_bind_ok hrun, run_pure]
    exact ⟨_, s', rfl, hd.completed h h1 h3 hw1 hw3, hd.rest⟩

/-- A cell that was handed to C can be read with the flags put back, and one that was not is read as
before. -/
theorem announces_left {c e : Mem} {w w' : Member} (new : Flags) (hw : Announces c w)
    (h : Handed c e w w') : Announces { e with flags := clearZero new c.flags } w' := by
  rcases h with rfl | ⟨rfl, rfl⟩
  · exact ⟨fun _ => Or.inr rfl, fun _ => Or.inr rfl⟩
  · have hbits : (clearZero new e.flags).has MEM_Int = e.flags.has MEM_Int ∧
        (clearZero new e.flags).has MEM_Real = e.flags.has MEM_Real := by
      unfold clearZero
      split_ifs <;> simp
    refine ⟨fun hi => hw.1 ?_, fun hr => hw.2 ?_⟩
    · rw [← hbits.1]; exact hi
    · rw [← hbits.2]; exact hr

/-- A conversion that the flags do not ask for leaves the operand. -/
theorem convert_zero {c a : Mem} {r r' : ρ} (hc : c.IsValue enc) {affinity : ℕ}
    (h : c_convertOperand L affinity enc c.flags c r = .ok (a, r')) :
    (converts affinity c.flags = false → a = c) ∧ (c.flags.has MEM_Zero = true → a = c) := by
  have hnone : converts affinity c.flags = false → a = c := fun hconv => by
    rw [c_convertOperand_none hconv] at h
    exact (Prod.mk.inj (Except.ok.inj h)).1.symm
  exact ⟨hnone, fun hz => hnone (converts_of_zero hc hz affinity)⟩

/-- The end of the slow path: the verdict is delivered, and the flags are put back. -/
theorem run_slow_end {e1 e3 : Mem} {f1 f3 : Flags} (changed res : Bool) (pc : ℤ) (rc : ℕ)
    (h : ComparisonOperands s.mems s.nMem op enc c1 c3)
    (hmems : s'.mems = (s.mems.set op.p1.toNat e1).set op.p3.toNat e3) (hnMem : s'.nMem = s.nMem)
    (heq : op.p1.toNat = op.p3.toNat → e1 = e3)
    (hsame : changed = false → f1 = e1.flags ∧ f3 = e3.flags)
    (heq' : op.p1.toNat = op.p3.toNat → f1 = f3)
    (ha1 : Announces { e1 with flags := f1 } (s'.written op.p1.toNat))
    (ha3 : Announces { e3 with flags := f3 } (s'.written op.p3.toNat)) :
    ∃ x t, run (strictMachine ρ) (do
        let pc ← deliver op pc (truth res)
        if changed then
          set_flags op.p1.toNat f1
          set_flags op.p3.toNat f3
        return (pc, rc)) s' = .ok (x, t) ∧
      Completed op pc rc (.result res) { e1 with flags := f1 } { e3 with flags := f3 } s x t ∧
      t.rest = s'.rest := by
  have hlen : s'.mems.length = s.mems.length := by
    rw [hmems, List.length_set, List.length_set]
  -- The result goes to a third register or to the program counter, so the operands are still there.
  obtain ⟨s₂, hdel, hd⟩ := run_deliver (s := s')
    (fun hst => by rw [hlen, hnMem]; exact h.p2 hst) pc res
  have hat3 : s₂.At op.p3.toNat e3 (s₂.written op.p3.toNat) := by
    refine ⟨?_, rfl⟩
    rw [hd.mems, Verdict.store_getElem? h.toNat_ne.2, hmems,
      List.getElem?_set_self (by rw [List.length_set]; exact h.p3.lt)]
  have hat1 : s₂.At op.p1.toNat e1 (s₂.written op.p1.toNat) := by
    refine ⟨?_, rfl⟩
    rw [hd.mems, Verdict.store_getElem? h.toNat_ne.1, hmems]
    by_cases hne : op.p1.toNat = op.p3.toNat
    · rw [hne, List.getElem?_set_self (by rw [List.length_set]; exact h.p3.lt), heq hne]
    · rw [List.getElem?_set_ne (Ne.symm hne), List.getElem?_set_self h.p1.lt]
  -- Then the operands get their flags back.
  obtain ⟨t, hundo, htm, htn, htr, htw⟩ := run_undo hat1 hat3 hsame
    ((Verdict.result res).next op pc, rc)
  refine ⟨_, t, (run_bind_ok hdel _).trans hundo, ⟨rfl, ?_, ?_, fun hne => ?_, ?_, ?_⟩,
    htr.trans hd.rest⟩
  · rw [htm, hd.mems, hmems, ← Verdict.store_set h.toNat_ne.1, ← Verdict.store_set h.toNat_ne.2]
    congr 1
    by_cases hne : op.p1.toNat = op.p3.toNat
    · rw [hne, List.set_set, List.set_set, List.set_set, List.set_set]
    · rw [List.set_comm _ _ (Ne.symm hne), List.set_set, List.set_set]
  · exact htn.trans (hd.nMem.trans hnMem)
  · rw [heq hne, heq' hne]
  · rw [htw, hd.written _ h.toNat_ne.1]
    exact ha1
  · rw [htw, hd.written _ h.toNat_ne.2]
    exact ha3

/-- The slow path on two registers. -/
theorem run_comparison_distinct {w1 w3 : Member} (pc : ℤ) (rc : ℕ) (hS : L.Sized)
    (hT : L.Translates) (h : ComparisonOperands s.mems s.nMem op enc c1 c3)
    (h1 : s.At op.p1.toNat c1 w1) (h3 : s.At op.p3.toNat c3 w3) (hw1 : Announces c1 w1)
    (hw3 : Announces c3 w3) (hnull : Flags.has (c1.flags ||| c3.flags) MEM_Null = false)
    (hfast : takesFastPath op c1.flags c3.flags = false) (hp4 : op.p4_is_coll_or_null = true)
    (hne : op.p1.toNat ≠ op.p3.toNat) :
    ∃ x s' d g1 g3, run (strictMachine ρ) (OP_Ne_Eq_Gt_Le_Lt_Ge L enc pc rc op) s = .ok (x, s') ∧
      Completed op pc rc d g1 g3 s x s' ∧ Decides L enc op c1 c3 s.rest d g1 g3 := by
  -- The operands are converted, then expanded, the one of P1 first each time.
  obtain ⟨a1, r1, hconv1, -, -, hz1⟩ := convert_returns (L := L) hS hT op.affinity enc
    h.value1.alloc (zero_of_converts op.affinity h.value1) s.rest
  obtain ⟨a3, r2, hconv3, -, -, hz3⟩ := convert_returns (L := L) hS hT op.affinity enc
    h.value3.alloc (zero_of_converts op.affinity h.value3) r1
  obtain ⟨hsame1, hzero1⟩ := convert_zero h.value1 hconv1
  obtain ⟨hsame3, hzero3⟩ := convert_zero h.value3 hconv3
  obtain ⟨e1, r3, hexp1, -⟩ := expand_converted_returns hS h.value1 hz1 hzero1 hz1 r2
  obtain ⟨e3, r4, hexp3, -⟩ := expand_converted_returns hS h.value3 hz3 hzero3 hz3 r3
  obtain ⟨s₁, hrun, hmems, hnMem, -, ht1, ht3⟩ := run_compareSlow_distinct hne h1 h3 hw1 hw3 hp4
    hconv1 hsame1 hconv3 hsame3 hexp1 hexp3
  -- Without a conversion or expansion, the flags are as they were.
  have hunchanged : (converts op.affinity c1.flags || converts op.affinity c3.flags ||
      a1.flags.has MEM_Zero || a3.flags.has MEM_Zero) = false →
      clearZero a1.flags c1.flags = e1.flags ∧ clearZero a3.flags c3.flags = e3.flags := by
    intro hch
    simp only [Bool.or_eq_false_iff] at hch
    obtain ⟨⟨⟨hc1, hc3⟩, hf1⟩, hf3⟩ := hch
    rw [c_expandOperand_none hf1] at hexp1
    rw [c_expandOperand_none hf3] at hexp3
    obtain ⟨rfl, -⟩ := Prod.mk.inj (Except.ok.inj hexp1)
    obtain ⟨rfl, -⟩ := Prod.mk.inj (Except.ok.inj hexp3)
    unfold clearZero
    rw [hf1, hf3, hsame1 hc1, hsame3 hc3]
    exact ⟨rfl, rfl⟩
  obtain ⟨x, t, hend, hcompleted, -⟩ := run_slow_end _
    (relation op.opcode (methodCompare op.p4_pColl e3 e1)) pc rc h hmems hnMem
    (fun heq => absurd heq hne) hunchanged (fun heq => absurd heq hne)
    (announces_left a1.flags hw1 ht1) (announces_left a3.flags hw3 ht3)
  have hprep1 : Prepares L op.affinity enc (op.p1.toNat == op.p3.toNat) c1 e1
      { e1 with flags := clearZero a1.flags c1.flags } r2 := by
    rw [beq_false_of_ne hne]
    exact ⟨a1, a1, a1.flags, s.rest, r1, r1, r1, r3, hconv1, rfl, hz1, hexp1, rfl⟩
  have hprep3 : Prepares L op.affinity enc (op.p1.toNat == op.p3.toNat) c3 e3
      { e3 with flags := clearZero a3.flags c3.flags } r3 := by
    rw [beq_false_of_ne hne]
    exact ⟨a3, a3, a3.flags, r1, r2, r2, r2, r4, hconv3, rfl, hz3, hexp3, rfl⟩
  refine ⟨x, t, _, _, _, ?_, hcompleted, .slow hnull hfast hprep1 hprep3 (fun _ => ?_) ?_⟩
  · unfold takesFastPath at hfast
    unfold OP_Ne_Eq_Gt_Le_Lt_Ge
    rw [run_comparison_start h.p1 h.p3 h1 h3, if_neg (by rw [hnull]; simp),
      if_neg (by rw [hfast]; simp), run_bind_ok hrun]
    exact hend
  · unfold afterConversions
    rw [hconv1]
    simp only [bind, Except.bind]
    rw [hconv3]
    rfl
  · rw [if_neg hne]
    -- P1's zeros are expanded in the state after both conversions.
    cases hz : c1.flags.has MEM_Zero with
    | true =>
      rw [hzero1 hz] at hexp1
      exact ⟨e1, hexp1⟩
    | false =>
      rw [c_expandOperand_none (hz1.trans hz)] at hexp1
      rw [c_expandOperand_none hz]
      obtain ⟨-, rfl⟩ := Prod.mk.inj (Except.ok.inj hexp1)
      exact ⟨c1, rfl⟩

/-- The slow path on one register. -/
theorem run_comparison_same {w1 : Member} (pc : ℤ) (rc : ℕ) (hS : L.Sized)
    (hT : L.Translates) (h : ComparisonOperands s.mems s.nMem op enc c1 c1)
    (h1 : s.At op.p1.toNat c1 w1) (hw1 : Announces c1 w1)
    (hnull : Flags.has (c1.flags ||| c1.flags) MEM_Null = false)
    (hfast : takesFastPath op c1.flags c1.flags = false) (hp4 : op.p4_is_coll_or_null = true)
    (hsame : op.p1.toNat = op.p3.toNat) :
    ∃ x s' d g1 g3, run (strictMachine ρ) (OP_Ne_Eq_Gt_Le_Lt_Ge L enc pc rc op) s = .ok (x, s') ∧
      Completed op pc rc d g1 g3 s x s' ∧ Decides L enc op c1 c1 s.rest d g1 g3 := by
  -- Both operands are one cell, which is converted twice.
  obtain ⟨a, r1, hconv1, -, haa, hz1⟩ := convert_returns (L := L) hS hT op.affinity enc
    h.value1.alloc (zero_of_converts op.affinity h.value1) s.rest
  obtain ⟨hsame1, hzero1⟩ := convert_zero h.value1 hconv1
  -- The second conversion goes by the flags from before the first.
  obtain ⟨b, r2, hconv3, -, -, hz3⟩ := convert_returns (L := L) hS hT op.affinity enc haa
    (fun hconv => hz1.trans (zero_of_converts op.affinity h.value1 hconv)) r1
  have hnone : converts op.affinity c1.flags = false → b = c1 := fun hconv => by
    rw [c_convertOperand_none hconv] at hconv3
    exact (Prod.mk.inj (Except.ok.inj hconv3)).1.symm.trans (hsame1 hconv)
  have hzero : c1.flags.has MEM_Zero = true → b = c1 := fun hz =>
    hnone (converts_of_zero h.value1 hz op.affinity)
  set new1 := if converts op.affinity c1.flags then a.flags else c1.flags with hnew1
  set new3 := if converts op.affinity c1.flags then b.flags else c1.flags with hnew3
  -- The conversions leave the zeros of a blob alone.
  have hf1 : new1.has MEM_Zero = c1.flags.has MEM_Zero := by
    rw [hnew1]
    split_ifs
    · exact hz1
    · rfl
  have hf3 : new3.has MEM_Zero = c1.flags.has MEM_Zero := by
    rw [hnew3]
    split_ifs
    · exact hz3.trans hz1
    · rfl
  -- The first expansion does all there is to do; the second finds no zeros.
  obtain ⟨e, r3, hexp1, hez⟩ := expand_converted_returns hS h.value1 (hz3.trans hz1) hzero hf1 r2
  have hexp3 := c_expandOperand_stored (L := L) new3 hez r3
  have hclear : clearZero new1 c1.flags = clearZero new3 c1.flags := by
    unfold clearZero
    rw [hf1, hf3]
  obtain ⟨s₁, hrun, hmems, hnMem, -, ht⟩ := run_compareSlow_same h1 hw1 hp4 hconv1 hconv3 hexp1
    hexp3
  rw [← hnew1, ← hnew3] at hrun
  -- Nothing converted and nothing expanded: the flags are as they were.
  have hunchanged : (converts op.affinity c1.flags || converts op.affinity c1.flags ||
      new1.has MEM_Zero || new3.has MEM_Zero) = false →
      clearZero new1 c1.flags = e.flags ∧ clearZero new3 c1.flags = e.flags := by
    intro hch
    simp only [Bool.or_eq_false_iff] at hch
    obtain ⟨⟨⟨hc1, -⟩, hn1⟩, hn3⟩ := hch
    rw [c_expandOperand_none hn1] at hexp1
    obtain ⟨rfl, -⟩ := Prod.mk.inj (Except.ok.inj hexp1)
    unfold clearZero
    rw [hn1, hn3, hnone hc1]
    exact ⟨rfl, rfl⟩
  obtain ⟨x, t, hend, hcompleted, -⟩ := run_slow_end _
    (relation op.opcode (methodCompare op.p4_pColl e e)) pc rc h
    (by rw [hmems, ← hsame, List.set_set]) hnMem (fun _ => rfl) hunchanged (fun _ => hclear)
    (announces_left new1 hw1 ht) (hsame ▸ announces_left new3 hw1 ht)
  have hprep : Prepares L op.affinity enc (op.p1.toNat == op.p3.toNat) c1 e
      { e with flags := clearZero new1 c1.flags } r2 := by
    rw [hsame, beq_self_eq_true]
    exact ⟨a, b, new1, s.rest, r1, r1, r2, r3, hconv1, hconv3, hf1, hexp1, rfl⟩
  refine ⟨x, t, _, _, _, ?_, hcompleted, .slow hnull hfast hprep (hclear ▸ hprep) ?_
    (by rw [if_pos hsame])⟩
  · unfold takesFastPath at hfast
    unfold OP_Ne_Eq_Gt_Le_Lt_Ge
    rw [run_comparison_start h.p1 h.p3 h1 (hsame ▸ h1), if_neg (by rw [hnull]; simp),
      if_neg (by rw [hfast]; simp), ← hsame, run_bind_ok hrun]
    exact hsame ▸ hend
  · rw [or_self]
    intro hz
    -- A zero blob is not converted, so only the expansion changes it.
    have hconv := converts_of_zero h.value1 hz op.affinity
    rw [c_convertOperand_none hconv] at hconv1 hconv3
    obtain ⟨-, rfl⟩ := Prod.mk.inj (Except.ok.inj hconv1)
    obtain ⟨-, rfl⟩ := Prod.mk.inj (Except.ok.inj hconv3)
    unfold afterConversions
    rw [c_convertOperand_none hconv]
    simp only [bind, Except.bind]
    rw [c_convertOperand_none hconv]
    rfl

/-- The slow path fails if `P4` is neither a collation nor unused. -/
theorem run_comparison_p4 {w1 w3 : Member} (pc : ℤ) (rc : ℕ) (hS : L.Sized)
    (hT : L.Translates) (h : ComparisonOperands s.mems s.nMem op enc c1 c3)
    (h1 : s.At op.p1.toNat c1 w1) (h3 : s.At op.p3.toNat c3 w3) (hw1 : Announces c1 w1)
    (hw3 : Announces c3 w3) (hnull : Flags.has (c1.flags ||| c3.flags) MEM_Null = false)
    (hfast : takesFastPath op c1.flags c3.flags = false) (hp4 : op.p4_is_coll_or_null = false) :
    run (strictMachine ρ) (OP_Ne_Eq_Gt_Le_Lt_Ge L enc pc rc op) s = .error (some .assertion) := by
  obtain ⟨a1, r1, hconv1, -, haa, hz1⟩ := convert_returns (L := L) hS hT op.affinity enc
    h.value1.alloc (zero_of_converts op.affinity h.value1) s.rest
  obtain ⟨v1, hrun1, hv1, -⟩ := run_convertOperand h1 hw1 hconv1
  -- The second operand may be the cell that has just been converted.
  obtain ⟨b, w, hat, hw, hba, hbz⟩ : ∃ b w, ({ s.setMem op.p1.toNat a1 v1 with rest := r1 } :
      Strict ρ).At op.p3.toNat b w ∧ Announces b w ∧ b.szMalloc = b.zMalloc.length ∧
      b.flags.has MEM_Zero = c3.flags.has MEM_Zero := by
    by_cases hne : op.p1.toNat = op.p3.toNat
    · obtain ⟨rfl, -⟩ := h1.unique (hne ▸ h3)
      exact ⟨a1, v1, hne ▸ h1.setMem a1 v1, hv1, haa, hz1⟩
    · exact ⟨c3, w3, h3.setMem_ne hne a1 v1, hw3, h.value3.alloc, rfl⟩
  obtain ⟨a3, r2, hconv3, -⟩ := convert_returns (L := L) hS hT op.affinity enc hba
    (fun hconv => hbz.trans (zero_of_converts op.affinity h.value3 hconv)) r1
  obtain ⟨v3, hrun3, -⟩ := run_convertOperand hat hw hconv3
  unfold takesFastPath at hfast
  unfold OP_Ne_Eq_Gt_Le_Lt_Ge
  rw [run_comparison_start h.p1 h.p3 h1 h3, if_neg (by rw [hnull]; simp),
    if_neg (by rw [hfast]; simp)]
  apply run_bind_error
  unfold compareSlow
  rw [run_bind_ok hrun1, run_bind_ok hrun3]
  exact run_bind_error (Strict.run_pyAssert_false _ hp4) _

/-- The comparison fails an assertion, or comes to a verdict. -/
theorem run_comparison {w1 w3 : Member} (pc : ℤ) (rc : ℕ) (hS : L.Sized)
    (hT : L.Translates) (h : ComparisonOperands s.mems s.nMem op enc c1 c3)
    (h1 : s.At op.p1.toNat c1 w1) (h3 : s.At op.p3.toNat c3 w3) (hw1 : Announces c1 w1)
    (hw3 : Announces c3 w3) :
    (admits op c1 c3 = false → run (strictMachine ρ) (OP_Ne_Eq_Gt_Le_Lt_Ge L enc pc rc op) s =
      .error (some .assertion)) ∧
    (admits op c1 c3 = true → ∃ x s' d g1 g3,
      run (strictMachine ρ) (OP_Ne_Eq_Gt_Le_Lt_Ge L enc pc rc op) s = .ok (x, s') ∧
      Completed op pc rc d g1 g3 s x s' ∧ Decides L enc op c1 c3 s.rest d g1 g3) := by
  cases hnull : Flags.has (c1.flags ||| c3.flags) MEM_Null with
  | true =>
    obtain ⟨hno, hyes⟩ := run_comparison_null (L := L) pc rc h h1 h3 hw1 hw3 hnull
    refine ⟨hno, fun ha => ?_⟩
    obtain ⟨x, s', hrun, hc, -⟩ := hyes ha
    exact ⟨x, s', _, _, _, hrun, hc, .nulls hnull⟩
  | false =>
    cases hfast : takesFastPath op c1.flags c3.flags with
    | true =>
      obtain ⟨hno, hyes⟩ := run_comparison_fast (L := L) pc rc h h1 h3 hw1 hw3 hnull hfast
      refine ⟨hno, fun ha => ?_⟩
      obtain ⟨x, s', hrun, hc, -⟩ := hyes ha
      exact ⟨x, s', _, _, _, hrun, hc, .fast hnull hfast⟩
    | false =>
      have hadm : admits op c1 c3 = op.p4_is_coll_or_null := by
        unfold admits
        rw [hnull, hfast]
        rfl
      rw [hadm]
      refine ⟨run_comparison_p4 pc rc hS hT h h1 h3 hw1 hw3 hnull hfast, fun hp4 => ?_⟩
      by_cases hne : op.p1.toNat = op.p3.toNat
      · obtain ⟨rfl, rfl⟩ := h1.unique (hne ▸ h3)
        exact run_comparison_same pc rc hS hT h h1 hw1 hnull hfast hp4 hne
      · exact run_comparison_distinct pc rc hS hT h h1 h3 hw1 hw3 hnull hfast hp4 hne

/-! ## The operands -/

/-- The registers `mems'` are `mems` with the operands undisturbed, and with nothing else written but
`P2` under `SQLITE_STOREP2`. -/
structure LeavesOperands (op : Op) (c1 c3 : Mem) (mems mems' : List Mem) : Prop where
  /-- The first operand. -/
  operand1 : ∃ g, mems'[op.p1.toNat]? = some g ∧ Undisturbed c1 g
  /-- The second operand. -/
  operand3 : ∃ g, mems'[op.p3.toNat]? = some g ∧ Undisturbed c3 g
  /-- The other registers. -/
  others : ∀ i, i ≠ op.p1.toNat → i ≠ op.p3.toNat →
    (op.p5_has SQLITE_STOREP2 = true → i ≠ op.p2.toNat) → mems'[i]? = mems[i]?

/-- The allocator has room for the implied zeros of the operands when the slow path stores them. -/
def ServesZeros (L : CLib ρ) (enc : ℕ) (op : Op) (c1 c3 : Mem) (r : ρ) : Prop :=
  ∀ r₂, afterConversions L op.affinity enc c1 c3 r = .ok r₂ → c1.ZerosServed L r₂ ∧
    (op.p1.toNat ≠ op.p3.toNat → ∀ e r₃, c_expandOperand L c1.flags c1 r₂ = .ok (e, r₃) →
      c3.ZerosServed L r₃)

/-- The operands are compared on the slow path, and its assertion does not fail. -/
def takesSlowPath (op : Op) (c1 c3 : Mem) : Bool :=
  !Flags.has (c1.flags ||| c3.flags) MEM_Null && !takesFastPath op c1.flags c3.flags &&
    op.p4_is_coll_or_null

/-- What is left at the operands. -/
theorem Completed.cells {d : Verdict} {g1 g3 : Mem} {x : ℤ × ℕ}
    (h : ComparisonOperands s.mems s.nMem op enc c1 c3) (hc : Completed op pc rc d g1 g3 s x s') :
    s'.mems[op.p1.toNat]? = some g1 ∧ s'.mems[op.p3.toNat]? = some g3 ∧
      ∀ i, i ≠ op.p1.toNat → i ≠ op.p3.toNat →
        (op.p5_has SQLITE_STOREP2 = true → i ≠ op.p2.toNat) → s'.mems[i]? = s.mems[i]? := by
  have hg3 : s'.mems[op.p3.toNat]? = some g3 := by
    rw [hc.mems, Verdict.store_getElem? h.toNat_ne.2,
      List.getElem?_set_self (by rw [List.length_set]; exact h.p3.lt)]
  refine ⟨?_, hg3, fun i h1 h3 h2 => ?_⟩
  · by_cases hne : op.p1.toNat = op.p3.toNat
    · rw [hne, hg3, hc.same hne]
    · rw [hc.mems, Verdict.store_getElem? h.toNat_ne.1, List.getElem?_set_ne (Ne.symm hne),
        List.getElem?_set_self h.p1.lt]
  · rw [hc.mems, Verdict.store_getElem? (fun hst => (h2 hst).symm),
      List.getElem?_set_ne (Ne.symm h3), List.getElem?_set_ne (Ne.symm h1)]

/-- A prepared operand is undisturbed exactly if its implied zeros have been served. -/
theorem Prepares.undisturbed_iff (hS : L.Sized) (hT : L.Translates) {affinity : ℕ} {again : Bool}
    {c e g : Mem} {r₂ : ρ} (hc : c.IsValue enc) (h : Prepares L affinity enc again c e g r₂) :
    Undisturbed c g ↔ c.ZerosServed L r₂ := by
  obtain ⟨b, new, r₃, hconv, hzero, hnew, hexp, rfl⟩ := h.converted hS hT hc
  exact undisturbed_left_iff hS hc hconv hzero hnew hexp

/-- The operands are undisturbed exactly if, on the slow path, their implied zeros are served. -/
theorem Decides.undisturbed_iff (hS : L.Sized) (hT : L.Translates) {d : Verdict} {g1 g3 : Mem}
    {r : ρ} (hv1 : c1.IsValue enc) (hv3 : c3.IsValue enc)
    (hsame : op.p1.toNat = op.p3.toNat → c1 = c3 ∧ g1 = g3)
    (hadm : admits op c1 c3 = true) (h : Decides L enc op c1 c3 r d g1 g3) :
    Undisturbed c1 g1 ∧ Undisturbed c3 g3 ↔
      (takesSlowPath op c1 c3 = true → ServesZeros L enc op c1 c3 r) := by
  unfold takesSlowPath
  cases h with
  | nulls hnull =>
    rw [hnull]
    exact ⟨fun _ h => absurd h (by simp), fun _ => ⟨Undisturbed.refl c1, Undisturbed.refl c3⟩⟩
  | fast hnull hfast =>
    rw [hnull, hfast]
    exact ⟨fun _ h => absurd h (by simp), fun _ => ⟨Undisturbed.refl c1, Undisturbed.refl c3⟩⟩
  | @slow hnull hfast e1 e3 _ _ r₂ r₃ h1 h3 h₂ h₃ =>
    have hp4 : op.p4_is_coll_or_null = true := by
      unfold admits at hadm
      rw [hnull, hfast] at hadm
      exact hadm
    rw [hnull, hfast, hp4, h1.undisturbed_iff hS hT hv1, h3.undisturbed_iff hS hT hv3]
    unfold ServesZeros
    constructor
    · -- The conversions lead to one state, and P1's expansion to one after it.
      rintro ⟨hz1, hz3⟩ - r₂' hr₂'
      have hstate : c1.flags.has MEM_Zero = true ∨ c3.flags.has MEM_Zero = true → r₂' = r₂ :=
        fun hz => Except.ok.inj (hr₂'.symm.trans (h₂ hz))
      refine ⟨fun hz => ?_, fun hne e r₃' hexp hz => ?_⟩
      · rw [hstate (Or.inl hz)]
        exact hz1 hz
      · obtain ⟨e', hexp'⟩ := (if_neg hne) ▸ h₃
        rw [hstate (Or.inr hz), hexp'] at hexp
        obtain ⟨-, rfl⟩ := Prod.mk.inj (Except.ok.inj hexp)
        exact hz3 hz
    · intro hserves
      have hserves := hserves rfl
      refine ⟨fun hz => (hserves r₂ (h₂ (Or.inl hz))).1 hz, fun hz => ?_⟩
      -- One register in both places is expanded once.
      by_cases hne : op.p1.toNat = op.p3.toNat
      · rw [if_pos hne] at h₃
        obtain ⟨rfl, -⟩ := hsame hne
        rw [h₃]
        exact (hserves r₂ (h₂ (Or.inl hz))).1 hz
      · rw [if_neg hne] at h₃
        obtain ⟨e', hexp'⟩ := h₃
        exact (hserves r₂ (h₂ (Or.inr hz))).2 hne e' r₃ hexp' hz

/-! ## A second evaluation -/

/-- What is left of a prepared operand is a value, while memory lasts. -/
theorem Prepares.isValue {mallocFailed : ρ → Bool} (hL : L.Lawful mallocFailed)
    (hT : L.Translates) {affinity : ℕ} {again : Bool} {c e g : Mem} {r₂ : ρ}
    (hc : c.IsValue enc) (h : Prepares L affinity enc again c e g r₂) : g.IsValue enc := by
  obtain ⟨b, new, r₃, hconv, hzero, hnew, hexp, rfl⟩ := h.converted hL.sized hT hc
  exact isValue_left hL.sized hc hconv hzero hnew hexp (Mem.served_of_lawful hL _ _ _)

section bits

variable {g g1 g3 : Mem}

/-- A number that was not disturbed is one. -/
theorem Undisturbed.isNumber (h : Undisturbed c1 g) : g.isNumber = c1.isNumber := by
  unfold Mem.isNumber
  rw [h.has.2.1, h.has.2.2.1]

/-- An operand that is undisturbed is compared on the same path. -/
theorem Undisturbed.path (op : Op) (h1 : Undisturbed c1 g1) (h3 : Undisturbed c3 g3) :
    Flags.has (g1.flags ||| g3.flags) MEM_Null = Flags.has (c1.flags ||| c3.flags) MEM_Null ∧
      takesFastPath op g1.flags g3.flags = takesFastPath op c1.flags c3.flags := by
  constructor
  · rw [Flags.has_or_left, Flags.has_or_left, h1.has.1, h3.has.1]
  · rw [Bool.eq_iff_iff]
    unfold takesFastPath
    rw [fast_path_iff, fast_path_iff, h1.isNumber, h3.isNumber]

/-- Operands that were not disturbed are admitted alike. -/
theorem Undisturbed.admits (h1 : Undisturbed c1 g1) (h3 : Undisturbed c3 g3) :
    admits op g1 g3 = admits op c1 c3 := by
  obtain ⟨hnull, hfast⟩ := Undisturbed.path op h1 h3
  unfold SQPyte.admits
  rw [hnull, hfast, h1.has.2.2.2, h1.isNumber, h3.isNumber]

end bits

variable {mallocFailed : ρ → Bool}

/-- While memory lasts, the operands are left undisturbed, and as values. -/
theorem Decides.lawful (hL : L.Lawful mallocFailed) (hT : L.Translates) {d : Verdict}
    {g1 g3 : Mem} {r : ρ} (hv1 : c1.IsValue enc) (hv3 : c3.IsValue enc)
    (h : Decides L enc op c1 c3 r d g1 g3) :
    Undisturbed c1 g1 ∧ Undisturbed c3 g3 ∧ g1.IsValue enc ∧ g3.IsValue enc := by
  cases h with
  | nulls => exact ⟨Undisturbed.refl c1, Undisturbed.refl c3, hv1, hv3⟩
  | fast => exact ⟨Undisturbed.refl c1, Undisturbed.refl c3, hv1, hv3⟩
  | slow _ _ h1 h3 =>
    refine ⟨(h1.undisturbed_iff hL.sized hT hv1).mpr fun _ => Or.inl ?_,
      (h3.undisturbed_iff hL.sized hT hv3).mpr fun _ => Or.inl ?_, h1.isValue hL hT hv1,
      h3.isValue hL hT hv3⟩
    · exact Mem.served_of_lawful hL _ _ _
    · exact Mem.served_of_lawful hL _ _ _

/-- While memory lasts, the verdict on what is left is the same. -/
theorem Decides.again (hL : L.Lawful mallocFailed) (hT : L.Translates) (hR : L.Recodes)
    (hcoll : ∀ coll ∈ op.p4_pColl, coll.OfText) {d d' : Verdict} {g1 g3 h1 h3 : Mem} {r r' : ρ}
    (hv1 : c1.IsValue enc) (hv3 : c3.IsValue enc) (h : Decides L enc op c1 c3 r d g1 g3)
    (h' : Decides L enc op g1 g3 r' d' h1 h3) : d' = d := by
  obtain ⟨hu1, hu3, -, -⟩ := h.lawful hL hT hv1 hv3
  obtain ⟨hnull', hfast'⟩ := Undisturbed.path op hu1 hu3
  cases h with
  | nulls hnull =>
    cases h' with
    | nulls => rfl
    | fast hn => rw [hnull] at hn; cases hn
    | slow hn => rw [hnull] at hn; cases hn
  | fast hnull hfast =>
    cases h' with
    | nulls hn => rw [hnull] at hn; cases hn
    | fast => rfl
    | slow _ hf => rw [hfast] at hf; cases hf
  | slow hnull hfast hp1 hp3 =>
    cases h' with
    | nulls hn => rw [hnull', hnull] at hn; cases hn
    | fast _ hf => rw [hfast', hfast] at hf; cases hf
    | slow _ _ hp1' hp3' =>
      rw [Flags.has_or_left] at hnull
      obtain ⟨hn1, hn3⟩ := Bool.or_eq_false_iff.mp hnull
      rw [methodCompare_congr hcoll (hp3.again hL hT hR hv3 hn3 hp3')
        (hp1.again hL hT hR hv1 hn1 hp1')]

/-- What is stored in `P2`. -/
theorem Completed.stored {d : Verdict} {g1 g3 : Mem} {x : ℤ × ℕ}
    (h : ComparisonOperands s.mems s.nMem op enc c1 c3) (hc : Completed op pc rc d g1 g3 s x s')
    (hst : op.p5_has SQLITE_STOREP2 = true) :
    s'.mems[op.p2.toNat]? = (s.mems[op.p2.toNat]?).map d.write := by
  rw [hc.mems]
  unfold Verdict.store
  rw [if_pos hst, List.getElem?_modify_eq, List.getElem?_set_ne (h.toNat_ne.2 hst).symm,
    List.getElem?_set_ne (h.toNat_ne.1 hst).symm]
  rfl

/-- The operands of a second evaluation. -/
theorem Completed.operands {d : Verdict} {g1 g3 : Mem} {x : ℤ × ℕ}
    (h : ComparisonOperands s.mems s.nMem op enc c1 c3) (hc : Completed op pc rc d g1 g3 s x s')
    (hv1 : g1.IsValue enc) (hv3 : g3.IsValue enc) :
    ComparisonOperands s'.mems s'.nMem op enc g1 g3 := by
  have hlen : s'.mems.length = s.mems.length := by
    rw [hc.mems, Verdict.length_store, List.length_set, List.length_set]
  obtain ⟨hcell1, hcell3, -⟩ := hc.cells h
  refine ⟨h.comparison, ?_, ?_, ?_, h.apart, hcell1, hcell3, hv1, hv3⟩
  · rw [hlen, hc.nMem]; exact h.p1
  · rw [hlen, hc.nMem]; exact h.p3
  · rw [hlen, hc.nMem]; exact h.p2

end course

/-- Whenever the comparison completes, it leaves its operands undisturbed. -/
def Undisturbs (L : CLib ρ) (enc : ℕ) (pc : ℤ) (rc : ℕ) (op : Op) (c1 c3 : Mem) (m : Machine ρ) :
    Prop :=
  ∀ x m', run (machine ρ) (OP_Ne_Eq_Gt_Le_Lt_Ge L enc pc rc op) m = .ok (x, m') →
    LeavesOperands op c1 c3 m.mems m'.mems

/-- Whenever the comparison completes, it completes a second time, with the same outcome. -/
def Repeats (L : CLib ρ) (enc : ℕ) (pc : ℤ) (rc : ℕ) (op : Op) (m : Machine ρ) : Prop :=
  ∀ x m', run (machine ρ) (OP_Ne_Eq_Gt_Le_Lt_Ge L enc pc rc op) m = .ok (x, m') →
    ∃ y m'', run (machine ρ) (OP_Ne_Eq_Gt_Le_Lt_Ge L enc pc rc op) m' = .ok (y, m'') ∧
      comparisonOutcome op (y, m''.mems, m''.rest) = comparisonOutcome op (x, m'.mems, m'.rest)

/-- A comparison leaves its operands undisturbed exactly if, on the slow path, the allocator has room
for their implied zeros. While memory lasts, it has the same outcome a second time. -/
theorem undisturbs_iff (L : CLib ρ) (mallocFailed : ρ → Bool) (enc : ℕ) (pc : ℤ) (rc : ℕ) (op : Op)
    (m : Machine ρ) (c1 c3 : Mem) (hs : m.Sound) (hS : L.Sized) (hT : L.Translates)
    (h : ComparisonOperands m.mems m.nMem op enc c1 c3) :
    (Undisturbs L enc pc rc op c1 c3 m ↔
      (takesSlowPath op c1 c3 = true → ServesZeros L enc op c1 c3 m.rest)) ∧
    (L.Lawful mallocFailed → L.Recodes → (∀ coll ∈ op.p4_pColl, coll.OfText) →
      Repeats L enc pc rc op m) := by
  obtain ⟨written, hR, hann⟩ := hs
  have hw1 := hann _ _ h.cell1
  have hw3 := hann _ _ h.cell3
  obtain ⟨hno, hyes⟩ := run_comparison (s := m.strict written) pc rc hS hT h ⟨h.cell1, rfl⟩
    ⟨h.cell3, rfl⟩ hw1 hw3
  cases hadm : admits op c1 c3 with
  | false =>
    -- An assertion fails, so that the comparison does not complete.
    have herror := run_machine_of_strict_error hR (hno hadm)
    have hslow : ¬ takesSlowPath op c1 c3 = true := by
      intro hslow
      unfold takesSlowPath at hslow
      unfold admits at hadm
      simp only [Bool.and_eq_true, Bool.not_eq_true'] at hslow
      rw [hslow.1.1, hslow.1.2, hslow.2] at hadm
      cases hadm
    refine ⟨⟨fun _ hslow' => absurd hslow' hslow, fun _ x m' hrun => ?_⟩, fun _ _ _ x m' hrun => ?_⟩
    · rw [herror] at hrun; cases hrun
    · rw [herror] at hrun; cases hrun
  | true =>
    -- The comparison completes, and `g1` and `g3` are what it leaves of the operands.
    obtain ⟨x, s', d, g1, g3, hrun, hc, hd⟩ := hyes hadm
    obtain ⟨m', hmrun, hR'⟩ := run_machine_of_strict hR hrun
    have hcells := hc.cells h
    have hone : op.p1.toNat = op.p3.toNat → c1 = c3 ∧ g1 = g3 := fun hne =>
      ⟨Option.some.inj (h.cell1.symm.trans (hne ▸ h.cell3)), hc.same hne⟩
    constructor
    · refine Iff.trans ?_ (hd.undisturbed_iff hS hT h.value1 h.value3 hone hadm)
      constructor
      · intro hall
        obtain ⟨⟨k1, hk1, hu1⟩, ⟨k3, hk3, hu3⟩, -⟩ := hall x m' hmrun
        rw [hR'.mems, hcells.1] at hk1
        rw [hR'.mems, hcells.2.1] at hk3
        exact ⟨Option.some.inj hk1 ▸ hu1, Option.some.inj hk3 ▸ hu3⟩
      · rintro ⟨hu1, hu3⟩ x' m'' hrun'
        rw [hmrun] at hrun'
        obtain ⟨-, rfl⟩ := Prod.mk.inj (Except.ok.inj hrun')
        refine ⟨⟨g1, ?_, hu1⟩, ⟨g3, ?_, hu3⟩, fun i h1 h3 h2 => ?_⟩
        · rw [hR'.mems]; exact hcells.1
        · rw [hR'.mems]; exact hcells.2.1
        · rw [hR'.mems]; exact hcells.2.2 i h1 h3 h2
    · intro hL hRec hcoll x' m₁ hrun'
      rw [hmrun] at hrun'
      obtain ⟨rfl, rfl⟩ := Prod.mk.inj (Except.ok.inj hrun')
      -- The second evaluation starts from what the first has left.
      obtain ⟨hu1, hu3, hv1, hv3⟩ := hd.lawful hL hT h.value1 h.value3
      have h' := hc.operands h hv1 hv3
      obtain ⟨y, s'', d', h1, h3, hrun₂, hc', hd'⟩ :=
        (run_comparison pc rc hS hT h' ⟨h'.cell1, rfl⟩ ⟨h'.cell3, rfl⟩ hc.announces1
          hc.announces3).2 ((hu1.admits hu3).trans hadm)
      obtain ⟨m'', hmrun₂, hR''⟩ := run_machine_of_strict hR' hrun₂
      obtain rfl := hd.again hL hT hRec hcoll h.value1 h.value3 hd'
      refine ⟨y, m'', hmrun₂, ?_⟩
      unfold comparisonOutcome storedOutcome
      rw [hc'.answer, hc.answer, hR''.mems, hR'.mems]
      cases hst : op.p5_has SQLITE_STOREP2 with
      | false => rfl
      | true =>
        have hww : d'.write ∘ d'.write = d'.write := funext d'.write_write
        rw [if_pos rfl, if_pos rfl, hc'.stored h' hst, hc.stored h hst, Option.map_map d'.write,
          hww]

/-- The comparison of the integer 1 with the text `1` under text affinity. -/
theorem undisturbs_integer_text :
    let m := Machine.fresh [Mem.ofInt 1, Mem.ofText [49]] 1 ()
    let op : Op := ⟨.Eq, 0, 9, 1, .NOTUSED, 66⟩
    Undisturbs CLib.decimal SQLITE_UTF8 4 SQLITE_OK op (Mem.ofInt 1) (Mem.ofText [49]) m ∧
      Repeats CLib.decimal SQLITE_UTF8 4 SQLITE_OK op m := by
  obtain ⟨hiff, hrepeats⟩ := undisturbs_iff CLib.decimal (fun _ => false) SQLITE_UTF8 4 SQLITE_OK
    ⟨.Eq, 0, 9, 1, .NOTUSED, 66⟩ (Machine.fresh [Mem.ofInt 1, Mem.ofText [49]] 1 ()) (Mem.ofInt 1)
    (Mem.ofText [49]) (Machine.Sound.fresh _ _ _) CLib.lawful_decimal.sized CLib.translates_decimal
    ⟨by decide, by decide, by decide, by decide, by decide, rfl, rfl, Mem.isValue_ofInt 1,
      Mem.isValue_ofText [49]⟩
  refine ⟨hiff.mpr fun _ r₂ _ => ⟨fun hz => ?_, fun _ e r₃ _ hz => ?_⟩,
    hrepeats CLib.lawful_decimal CLib.recodes_decimal (by rintro _ ⟨⟩)⟩
  · exact absurd hz (by decide)
  · exact absurd hz (by decide)

/-- A library whose allocator refuses every request. -/
def CLib.refusing : CLib Unit := { CLib.decimal with malloc := fun _ r => (none, r) }

/-- It gives no blocks of the wrong size. -/
theorem CLib.sized_refusing : CLib.refusing.Sized where
  malloc n r block r' h := by cases h
  printInt := CLib.lawful_decimal.printInt
  printReal := CLib.lawful_decimal.printReal

/-- Its translations are texts. -/
theorem CLib.translates_refusing : CLib.refusing.Translates :=
  ⟨fun _ _ _ => rfl, fun _ _ _ h => h, fun _ _ _ h => h⟩

/-- Where the allocator refuses, the comparison of two zeros with the blob `x'00'` leaves the empty
blob in the place of the two zeros. -/
theorem not_undisturbs_zeroblob :
    let m := Machine.fresh [Mem.ofZeroBlob 2, Mem.ofBlob [0]] 1 ()
    let op : Op := ⟨.Eq, 0, 9, 1, .NOTUSED, 65⟩
    m.Sound ∧ CLib.refusing.Sized ∧ CLib.refusing.Translates ∧
      ComparisonOperands m.mems m.nMem op SQLITE_UTF8 (Mem.ofZeroBlob 2) (Mem.ofBlob [0]) ∧
      (Mem.ofZeroBlob 2).value = .blob [0, 0] ∧
      (execute (OP_Ne_Eq_Gt_Le_Lt_Ge CLib.refusing SQLITE_UTF8 4 SQLITE_OK op) m).map
        (fun x => (x.1, x.2.1.map Mem.value)) = .ok ((4, SQLITE_OK), [.blob [], .blob [0]]) ∧
      ¬ Undisturbs CLib.refusing SQLITE_UTF8 4 SQLITE_OK op (Mem.ofZeroBlob 2) (Mem.ofBlob [0])
        m := by
  have hrun : (execute (OP_Ne_Eq_Gt_Le_Lt_Ge CLib.refusing SQLITE_UTF8 4 SQLITE_OK
      ⟨.Eq, 0, 9, 1, .NOTUSED, 65⟩) (Machine.fresh [Mem.ofZeroBlob 2, Mem.ofBlob [0]] 1 ())).map
        (fun x => (x.1, x.2.1.map Mem.value)) = .ok ((4, SQLITE_OK), [.blob [], .blob [0]]) := by
    decide +kernel
  refine ⟨Machine.Sound.fresh _ _ _, CLib.sized_refusing, CLib.translates_refusing, ⟨by decide,
    by decide, by decide, by decide, by decide, rfl, rfl, Mem.isValue_ofZeroBlob,
    Mem.isValue_ofBlob [0]⟩, by decide, hrun, fun hall => ?_⟩
  unfold execute at hrun
  cases hm : run (machine Unit) (OP_Ne_Eq_Gt_Le_Lt_Ge CLib.refusing SQLITE_UTF8 4 SQLITE_OK
      ⟨.Eq, 0, 9, 1, .NOTUSED, 65⟩) (Machine.fresh [Mem.ofZeroBlob 2, Mem.ofBlob [0]] 1 ()) with
  | error e => rw [hm] at hrun; cases hrun
  | ok x =>
    rw [hm] at hrun
    obtain ⟨g, hg, hu⟩ := (hall x.1 x.2 hm).operand1
    have hvals : x.2.mems.map Mem.value = [.blob [], .blob [0]] :=
      (Prod.mk.inj (Except.ok.inj hrun)).2
    have hvalue : some g.value = some (.blob []) := by
      rw [← Option.map_some, ← hg, ← List.getElem?_map, hvals]
      rfl
    rw [hu.value] at hvalue
    exact absurd hvalue (by decide)

end SQPyte
