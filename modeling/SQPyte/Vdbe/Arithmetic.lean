import SQPyte.Library.Division
import SQPyte.Mem.Affinity
import SQPyte.Mem.Numeric
import SQPyte.Vdbe.NullComparison

/-!
# The arithmetic opcodes

`OP_Add_Subtract_Multiply_Divide_Remainder` and the C version it replaces. Both compute what they
store from what they see of the two operands (`arithmetic`), with operations on integers and on
reals that differ: Python's division rounds down, that of C towards zero.
-/

namespace SQPyte

open Commands

variable {ρ : Type} (L : CLib ρ)

/-- `LARGEST_INT64`. -/
def LARGEST_INT64 : ℤ := 2^63 - 1
/-- `SMALLEST_INT64`. -/
def SMALLEST_INT64 : ℤ := -2^63

/-- The value is one of a signed 64-bit integer. -/
def FitsInt64 (v : ℤ) : Prop := SMALLEST_INT64 ≤ v ∧ v ≤ LARGEST_INT64

instance (v : ℤ) : Decidable (FitsInt64 v) := inferInstanceAs (Decidable (_ ∧ _))

/-- What an operation on two numbers of the type `α` gives. -/
inductive OpOutcome (α : Type) where
  /-- NULL is stored. -/
  | null
  /-- The value is stored. -/
  | value (v : α)
  /-- The value does not fit. -/
  | overflow
  /-- The opcode is not one of these. -/
  | assertion
deriving DecidableEq, Repr

/-! ## The operations in Python -/

/-- `ovfcheck`. -/
def ovfcheck (v : ℤ) : OpOutcome ℤ := if FitsInt64 v then .value v else .overflow

/-- The operations on integers. -/
def intOperation (opcode : Opcode) (iA iB : ℤ) : OpOutcome ℤ :=
  match opcode with
  | .Add => ovfcheck (iA + iB)
  | .Subtract => ovfcheck (iB - iA)
  | .Multiply => ovfcheck (iA * iB)
  | .Divide => if iA = 0 then .null else ovfcheck (iB.fdiv iA)
  | .Remainder => if iA = 0 then .null else .value (iB.fmod (if iA = -1 then 1 else iA))
  | _ => .assertion

/-- The operations on reals. -/
def realOperation (opcode : Opcode) (rA rB : Binary64) : OpOutcome Binary64 :=
  match opcode with
  | .Add => .value (rB.add rA)
  | .Subtract => .value (rB.sub rA)
  | .Multiply => .value (rB.mul rA)
  | .Divide => if rA.feq 0 then .null else .value (rB.div rA)
  | .Remainder =>
    let iA := rA.toInt64
    let iB := rB.toInt64
    if iA = 0 then .null
    else .value (Binary64.ofInt (iB.fmod (if iA = -1 then 1 else iA)))
  | _ => .assertion

/-- The operation on reals, and its result in the cell `pOut`. -/
def realArithmetic (opcode : Opcode) (pIn1 pIn2 pOut : ℕ) (type1 type2 : Flags) (bIntint : Bool) :
    MemM ρ Unit := do
  let rA ← sqlite3VdbeRealValue L pIn1
  let rB ← sqlite3VdbeRealValue L pIn2
  match realOperation opcode rA rB with
  | .null => sqlite3VdbeMemSetNull L pOut
  | .value rB =>
    if rB.isNaN then sqlite3VdbeMemSetNull L pOut
    else
      set_u_r pOut rB
      MemSetTypeFlag pOut MEM_Real
      if !Flags.has (type1 ||| type2) MEM_Real && !bIntint then
        let _ ← sqlite3VdbeIntegerAffinity pOut
  | _ => throwExc .assertion

/-- The operation on the cells `pIn1` and `pIn2`, whose types are known, and its result in `pOut`. -/
def cellArithmetic (opcode : Opcode) (pIn1 pIn2 pOut : ℕ) (flags type1 type2 : Flags) :
    MemM ρ Unit := do
  if flags.has MEM_Null then sqlite3VdbeMemSetNull L pOut
  else if Flags.has (type1 &&& type2) MEM_Int then
    let iA ← get_u_i pIn1
    let iB ← get_u_i pIn2
    let constant1 ← is_constant_u_i pIn1
    let constant ← if constant1 then is_constant_u_i pIn2 else pure false
    match intOperation opcode iA iB with
    | .null => sqlite3VdbeMemSetNull L pOut
    | .value iR =>
      set_u_i pOut iR constant
      MemSetTypeFlag pOut MEM_Int
    | .overflow => realArithmetic L opcode pIn1 pIn2 pOut type1 type2 true
    | .assertion => throwExc .assertion
  else realArithmetic L opcode pIn1 pIn2 pOut type1 type2 false

/-- `OP_Add_Subtract_Multiply_Divide_Remainder`. -/
def OP_Add_Subtract_Multiply_Divide_Remainder (op : Op) : MemM ρ Unit := do
  let pIn1 ← op.mem_of_p1
  let flags1 ← get_flags pIn1
  let type1 ← numericType L pIn1
  let pIn2 ← op.mem_of_p2
  let flags2 ← get_flags pIn2
  let type2 ← numericType L pIn2
  let pOut ← op.mem_of_p3
  cellArithmetic L op.opcode pIn1 pIn2 pOut (flags1 ||| flags2) type1 type2

/-! ## The operations in C -/

/-- `sqlite3AddInt64`: the sum, or nothing if it overflows. -/
def sqlite3AddInt64 (iA iB : ℤ) : Option ℤ :=
  if iB ≥ 0 then if iA > 0 ∧ LARGEST_INT64 - iA < iB then none else some (iA + iB)
  else if iA < 0 ∧ -(iA + LARGEST_INT64) > iB + 1 then none
  else some (iA + iB)

/-- `sqlite3SubInt64`. -/
def sqlite3SubInt64 (iA iB : ℤ) : Option ℤ :=
  if iB = SMALLEST_INT64 then if iA ≥ 0 then none else some (iA - iB)
  else sqlite3AddInt64 iA (-iB)

/-- `TWOPOWER32`. -/
def TWOPOWER32 : ℤ := 2^32
/-- `TWOPOWER31`. -/
def TWOPOWER31 : ℤ := 2^31

/-- `sqlite3MulInt64`. The products of two low halves are machine words. -/
def sqlite3MulInt64 (iA iB : ℤ) : Option ℤ :=
  let word (v : ℤ) : ℤ := (BitVec.ofInt 64 v).toInt
  let iA1 := iA.tdiv TWOPOWER32
  let iA0 := iA.tmod TWOPOWER32
  let iB1 := iB.tdiv TWOPOWER32
  let iB0 := iB.tmod TWOPOWER32
  if iA1 = 0 ∧ iB1 = 0 then some (word (iA * iB))
  else if iA1 ≠ 0 ∧ iB1 ≠ 0 then none
  else
    let r := if iA1 = 0 then iA0 * iB1 else iA1 * iB0
    if r < -TWOPOWER31 ∨ r ≥ TWOPOWER31 then none
    else sqlite3AddInt64 (r * TWOPOWER32) (word (iA0 * iB0))

/-- What is stored, or `goto fp_math`. -/
def orFpMath : Option ℤ → OpOutcome ℤ
  | some iB => .value iB
  | none => .overflow

/-- The operations on integers. -/
def c_intOperation (opcode : Opcode) (iA iB : ℤ) : OpOutcome ℤ :=
  match opcode with
  | .Add => orFpMath (sqlite3AddInt64 iB iA)
  | .Subtract => orFpMath (sqlite3SubInt64 iB iA)
  | .Multiply => orFpMath (sqlite3MulInt64 iB iA)
  | .Divide =>
    if iA = 0 then .null
    else if iA = -1 ∧ iB = SMALLEST_INT64 then .overflow
    else .value (iB.tdiv iA)
  | _ => if iA = 0 then .null else .value (iB.tmod (if iA = -1 then 1 else iA))

/-- The operations on reals. -/
def c_realOperation (opcode : Opcode) (rA rB : Binary64) : OpOutcome Binary64 :=
  match opcode with
  | .Add => .value (rB.add rA)
  | .Subtract => .value (rB.sub rA)
  | .Multiply => .value (rB.mul rA)
  | .Divide => if rA.feq 0 then .null else .value (rB.div rA)
  | _ =>
    let iA := rA.toInt64
    let iB := rB.toInt64
    if iA = 0 then .null
    else .value (Binary64.ofInt (iB.tmod (if iA = -1 then 1 else iA)))

/-- From `fp_math` to the end, in the cell `pOut`. -/
def c_realArithmetic (opcode : Opcode) (rA rB : Binary64) (type1 type2 : Flags) (bIntint : Bool)
    (pOut : Mem) (r : ρ) : Mem × ρ :=
  match c_realOperation opcode rA rB with
  | .value rB =>
    if rB.isNaN then pOut.sqlite3VdbeMemSetNull L r
    else
      let pOut := { pOut with u := rB, flags := withTypeFlag pOut.flags MEM_Real }
      if !Flags.has (type1 ||| type2) MEM_Real && !bIntint then
        (pOut.sqlite3VdbeIntegerAffinity, r)
      else (pOut, r)
  | _ => pOut.sqlite3VdbeMemSetNull L r

/-- The operation on `pIn1` and `pIn2`, whose types are known, and its result in `pOut`. -/
def c_cellArithmetic (opcode : Opcode) (pIn1 pIn2 : Mem) (type1 type2 : Flags) (pOut : Mem) (r : ρ) :
    Mem × ρ :=
  let fp_math (bIntint : Bool) := c_realArithmetic L opcode (pIn1.realValue L) (pIn2.realValue L)
    type1 type2 bIntint pOut r
  if Flags.has (pIn1.flags ||| pIn2.flags) MEM_Null then pOut.sqlite3VdbeMemSetNull L r
  else if Flags.has (type1 &&& type2) MEM_Int then
    match c_intOperation opcode pIn1.u_i pIn2.u_i with
    | .value iB =>
      ({ pOut with u := BitVec.ofInt 64 iB, flags := withTypeFlag pOut.flags MEM_Int }, r)
    | .overflow => fp_math true
    | _ => pOut.sqlite3VdbeMemSetNull L r
  else fp_math false

/-- `impl_OP_Add_Subtract_Multiply_Divide_Remainder`. -/
def impl_OP_Add_Subtract_Multiply_Divide_Remainder (op : Op) (mems : List Mem) (r : ρ) :
    Except Exc (List Mem × ρ) := do
  let (type1, mems, r) ← onMem mems op.p1 fun pIn =>
    .ok ((pIn.numericType L).1, (pIn.numericType L).2, r)
  let (type2, mems, r) ← onMem mems op.p2 fun pIn =>
    .ok ((pIn.numericType L).1, (pIn.numericType L).2, r)
  let pIn1 ← aMem mems op.p1
  let pIn2 ← aMem mems op.p2
  let (_, mems, r) ← onMem mems op.p3 fun pOut =>
    .ok ((), c_cellArithmetic L op.opcode pIn1 pIn2 type1 type2 pOut r)
  return (mems, r)

/-! ## What is stored -/

/-- What a real result is stored as: NULL for a NaN, and if `tryInt` the integer that it is. -/
def realNumber (tryInt : Bool) (r : Binary64) : Number :=
  if r.isNaN then .null
  else
    match if tryInt then smallInt r else none with
    | some v => .int v
    | none => .real r

/-- What the operation on reals stores. -/
def fpNumber (tryInt : Bool) : OpOutcome Binary64 → Option Number
  | .null => some .null
  | .value r => some (realNumber tryInt r)
  | _ => none

/-- What the opcode stores, with its operations on integers and on reals. -/
def arithmetic (int : ℤ → ℤ → OpOutcome ℤ) (real : Binary64 → Binary64 → OpOutcome Binary64) :
    NumericOperand → NumericOperand → Option Number
  | .null, _ => some .null
  | _, .null => some .null
  | .int iA rA, .int iB rB =>
    match int iA iB with
    | .null => some .null
    | .value v => some (.int v)
    | .overflow => fpNumber false (real rA rB)
    | .assertion => none
  | x, y => fpNumber (!x.isReal && !y.isReal) (real x.value y.value)

/-! ## The Python version -/

section python

variable {L} {s : Strict ρ} {i j k : ℕ} {c d e : Mem} {w w' w'' : Member} {opcode : Opcode}

/-- The real result is stored, and converted if neither operand is a real. -/
theorem run_realArithmetic (hi : s.At i c w) (ha : Announces c w) (hj : s.At j d w')
    (ha' : Announces d w') (hk : s.At k e w'') {type1 type2 : Flags} {bIntint : Bool} {x : Number}
    (hx : fpNumber (!Flags.has (type1 ||| type2) MEM_Real && !bIntint)
      (realOperation opcode (c.realValue L) (d.realValue L)) = some x) :
    ∃ v, run (strictMachine ρ) (realArithmetic L opcode i j k type1 type2 bIntint) s =
        .ok ((), { s.setMem k (e.store (Mem.pySetNull L) x s.rest).1 v with
          rest := (e.store (Mem.pySetNull L) x s.rest).2 }) ∧
      Announces (e.store (Mem.pySetNull L) x s.rest).1 v := by
  unfold realArithmetic
  rw [run_bind_ok (hi.run_sqlite3VdbeRealValue L ha), run_bind_ok (hj.run_sqlite3VdbeRealValue L ha')]
  -- A zero divisor gives NULL. Doubles do not overflow, and `hx` says that no assertion failed.
  cases hop : realOperation opcode (c.realValue L) (d.realValue L) with
  | null =>
    rw [hop] at hx
    obtain rfl := Option.some.inj hx
    exact hk.run_setNull L
  | overflow =>
    rw [hop] at hx
    cases hx
  | assertion =>
    rw [hop] at hx
    cases hx
  | value r =>
    rw [hop] at hx
    obtain rfl := Option.some.inj hx
    unfold realNumber
    dsimp only
    -- A result that is not a number is stored as NULL.
    by_cases hnan : r.isNaN = true
    · rw [if_pos hnan, if_pos hnan]
      exact hk.run_setNull L
    rw [if_neg hnan, if_neg hnan]
    -- The value is written first, then its type.
    have hat := hk.setMem { e with u := r } .r
    have hat' := hat.setMem { e with u := r, flags := withTypeFlag e.flags MEM_Real } .r
    rw [Strict.setMem_setMem] at hat'
    have hann : Announces { e with u := r, flags := withTypeFlag e.flags MEM_Real } .r :=
      ⟨by simp [withTypeFlag], fun _ => Or.inl rfl⟩
    unfold MemSetTypeFlag
    rw [run_bind_ok (hk.run_set_u_r r), bind_assoc, run_bind_ok hat.run_get_flags,
      run_bind_ok (hat.run_set_flags _), Strict.setMem_setMem]
    -- Without a real operand the result becomes an integer where it is a small one.
    by_cases htry : (!Flags.has (type1 ||| type2) MEM_Real && !bIntint) = true
    · obtain ⟨v, hrun, hannv⟩ := hat'.run_sqlite3VdbeIntegerAffinity hann
        (by simp [withTypeFlag]) (by simp [withTypeFlag])
      rw [if_pos htry, if_pos htry, run_bind_ok hrun, Strict.setMem_setMem]
      rw [Mem.sqlite3VdbeIntegerAffinity_eq] at hannv ⊢
      have htype := withTypeFlag_withTypeFlag e.flags (f := MEM_Real) MEM_Int (by decide)
      have hu : ({ e with u := r, flags := withTypeFlag e.flags MEM_Real } : Mem).u_r = r := rfl
      rw [hu] at hannv ⊢
      refine ⟨v, ?_⟩
      cases hsmall : smallInt r with
      | some v' =>
        rw [hsmall] at hannv
        dsimp only at hannv ⊢
        rw [htype] at hannv ⊢
        exact ⟨rfl, hannv⟩
      | none =>
        rw [hsmall] at hannv
        exact ⟨rfl, hannv⟩
    · rw [if_neg htry, if_neg htry]
      exact ⟨.r, rfl, hann⟩

/-- The cells after both operands have been filled. -/
def filledMems (L : CLib ρ) (op : Op) (mems : List Mem) (c d : Mem) : List Mem :=
  (mems.set op.p1.toNat (c.numericType L).2).set op.p2.toNat (d.numericType L).2

/-- The operands `c` and `d` of an arithmetic opcode. -/
structure Operands (enc : ℕ) (op : Op) (mems : List Mem) (nMem : ℕ) (c d : Mem) : Prop where
  /-- `P1` is a register. -/
  register1 : IsRegister mems.length nMem op.p1
  /-- `P2` is a register. -/
  register2 : IsRegister mems.length nMem op.p2
  /-- `P3` is a register. -/
  register3 : IsRegister mems.length nMem op.p3
  /-- The first operand. -/
  cell1 : mems[op.p1.toNat]? = some c
  /-- The second operand. -/
  cell2 : mems[op.p2.toNat]? = some d
  /-- The first operand is a value. -/
  value1 : c.IsValue enc
  /-- The second operand is a value. -/
  value2 : d.IsValue enc

variable {enc : ℕ} {op : Op}

/-- The output register before the opcode stores in it. -/
theorem Operands.output {mems : List Mem} {nMem : ℕ} (h : Operands enc op mems nMem c d) :
    ∃ e, (filledMems L op mems c d)[op.p3.toNat]? = some e := by
  have hlt : op.p3.toNat < (filledMems L op mems c d).length := by
    unfold filledMems
    rw [List.length_set, List.length_set]
    exact h.register3.lt
  exact ⟨_, List.getElem?_eq_getElem hlt⟩

/-- The operation on cells whose types are known. -/
theorem leads_cellArithmetic (hcv : c.IsValue enc) (hdv : d.IsValue enc)
    (hi : s.Filled L i c) (hj : s.Filled L j d) (hk : s.At k e w) {x : Number}
    (hx : arithmetic (intOperation opcode) (realOperation opcode) (c.operand L) (d.operand L) =
      some x) :
    ∃ v, Leads (cellArithmetic L opcode i j k (c.flags ||| d.flags) (c.numericType L).1
        (d.numericType L).1) s () { s.setMem k (e.store (Mem.pySetNull L) x s.rest).1 v with
          rest := (e.store (Mem.pySetNull L) x s.rest).2 } ∧
      Announces (e.store (Mem.pySetNull L) x s.rest).1 v := by
  obtain ⟨w₁, hat₁, hann₁, hread₁⟩ := hi
  obtain ⟨w₂, hat₂, hann₂, hread₂⟩ := hj
  have hnull : ∃ v, Leads (sqlite3VdbeMemSetNull L k) s ()
      { s.setMem k (e.store (Mem.pySetNull L) .null s.rest).1 v with
        rest := (e.store (Mem.pySetNull L) .null s.rest).2 } ∧
      Announces (e.store (Mem.pySetNull L) .null s.rest).1 v := by
    obtain ⟨v, hrun, hann⟩ := hk.run_setNull L
    exact ⟨v, Leads.of_strict hrun, hann⟩
  -- The real values of the operands are those before they were filled.
  have hfp : ∀ (bIntint : Bool),
      fpNumber (!Flags.has ((c.numericType L).1 ||| (d.numericType L).1) MEM_Real && !bIntint)
        (realOperation opcode (c.realValue L) (d.realValue L)) = some x →
      ∃ v, Leads (realArithmetic L opcode i j k (c.numericType L).1 (d.numericType L).1 bIntint) s ()
          { s.setMem k (e.store (Mem.pySetNull L) x s.rest).1 v with
            rest := (e.store (Mem.pySetNull L) x s.rest).2 } ∧
        Announces (e.store (Mem.pySetNull L) x s.rest).1 v := by
    intro bIntint hfp
    rw [← Mem.realValue_numericType c, ← Mem.realValue_numericType d] at hfp
    obtain ⟨v, hrun, hann⟩ := run_realArithmetic hat₁ hann₁ hat₂ hann₂ hk hfp
    exact ⟨v, Leads.of_strict hrun, hann⟩
  unfold cellArithmetic
  rw [Flags.has_or_left]
  -- A NULL operand gives NULL, whichever it is.
  cases hc : c.flags.has MEM_Null with
  | true =>
    have hop : c.operand L = .null := if_pos hc
    rw [hop] at hx
    obtain rfl := Option.some.inj hx
    exact hnull
  | false =>
    cases hd : d.flags.has MEM_Null with
    | true =>
      have hop : d.operand L = .null := if_pos hd
      rw [hop] at hx
      cases hcop : c.operand L <;> rw [hcop] at hx <;> obtain rfl := Option.some.inj hx <;>
        exact hnull
    | false =>
      rw [Bool.or_self, if_neg (by simp)]
      have hboth : Flags.has ((c.numericType L).1 &&& (d.numericType L).1) MEM_Int =
          ((c.numericType L).1.has MEM_Int && (d.numericType L).1.has MEM_Int) :=
        Flags.has_and_twoPow _ _ 2 (by decide)
      have hreals : Flags.has ((c.numericType L).1 ||| (d.numericType L).1) MEM_Real =
          ((c.numericType L).1.has MEM_Real || (d.numericType L).1.has MEM_Real) :=
        Flags.has_or_left _ _ _
      rw [hboth]
      rw [hreals] at hfp
      rcases hcv.numericOperand (L := L) hc with
          ⟨hci, hcr, hcop⟩ | ⟨hci, hcr, hcop⟩ | ⟨hci, hcr, hcop⟩ <;>
        rcases hdv.numericOperand (L := L) hd with
          ⟨hdi, hdr, hdop⟩ | ⟨hdi, hdr, hdop⟩ | ⟨hdi, hdr, hdop⟩ <;>
        rw [hci, hdi] <;> rw [hcr, hdr] at hfp <;> rw [hcop, hdop] at hx
      case inl.inl =>
        -- Whether the result is marked as a constant depends on the cache, what is stored does not.
        have hread : ∀ {f : ℤ → ℤ → Bool → MemM ρ Unit} {t : Strict ρ},
            (∀ constant, Leads (f (c.numericType L).2.u_i (d.numericType L).2.u_i constant) s () t) →
            Leads (do
              let iA ← get_u_i i
              let iB ← get_u_i j
              let constant1 ← is_constant_u_i i
              let constant ← if constant1 then is_constant_u_i j else pure false
              f iA iB constant) s () t := by
          intro f t hf
          refine (Leads.get_u_i hat₁ (hread₁ hci)).bind ((Leads.get_u_i hat₂ (hread₂ hdi)).bind ?_)
          refine Leads.is_constant_u_i hat₁ fun constant1 => ?_
          cases constant1 with
          | true => exact Leads.is_constant_u_i hat₂ hf
          | false => exact hf false
        simp only [Bool.and_self, ↓reduceIte]
        unfold arithmetic at hx
        dsimp only at hx
        cases hop : intOperation opcode (c.numericType L).2.u_i (d.numericType L).2.u_i with
        | null =>
          rw [hop] at hx
          obtain rfl := Option.some.inj hx
          obtain ⟨v, hlead, hann⟩ := hnull
          exact ⟨v, hread fun constant => by rw [hop]; exact hlead, hann⟩
        | value iR =>
          rw [hop] at hx
          obtain rfl := Option.some.inj hx
          refine ⟨.i, hread fun constant => ?_, fun _ => Or.inl rfl, by
            simp [Mem.store, withTypeFlag]⟩
          have hat := hk.setMem { e with u := BitVec.ofInt 64 iR } .i
          rw [hop]
          unfold MemSetTypeFlag
          refine Leads.of_strict ?_
          dsimp only
          rw [run_bind_ok (hk.run_set_u_i iR constant), run_bind_ok hat.run_get_flags,
            hat.run_set_flags, Strict.setMem_setMem]
          rfl
        | overflow =>
          rw [hop] at hx
          obtain ⟨v, hlead, hann⟩ := hfp true (by rw [Bool.not_true, Bool.and_false]; exact hx)
          exact ⟨v, hread fun constant => by rw [hop]; exact hlead, hann⟩
        | assertion =>
          rw [hop] at hx
          cases hx
      all_goals exact hfp false hx

/-- The Python version stores what it computes from what it sees of the operands. -/
theorem leads_arithmetic (ha : s.Announced) (h : Operands enc op s.mems s.nMem c d) {x : Number}
    (hx : arithmetic (intOperation op.opcode) (realOperation op.opcode) (c.operand L) (d.operand L) =
      some x) (he : (filledMems L op s.mems c d)[op.p3.toNat]? = some e) :
    ∃ s', Leads (OP_Add_Subtract_Multiply_Divide_Remainder L op) s () s' ∧
      s'.mems = (filledMems L op s.mems c d).set op.p3.toNat
        (e.store (Mem.pySetNull L) x s.rest).1 ∧
      s'.rest = (e.store (Mem.pySetNull L) x s.rest).2 ∧ s'.Announced := by
  obtain ⟨s₁, s₂, hrun₁, hlen₁, hn₁, hflags₁, hrun₂, hfill⟩ :=
    Strict.run_numericType_two L ha h.cell1 h.cell2
  have hat : s.At op.p1.toNat c (s.written op.p1.toNat) := ⟨h.cell1, rfl⟩
  have hlen₂ : s₂.mems.length = s.mems.length := by
    rw [hfill.mems, List.length_set, List.length_set]
  have hat₃ : s₂.At op.p3.toNat e (s₂.written op.p3.toNat) := ⟨hfill.mems ▸ he, rfl⟩
  obtain ⟨v, hlead, hann⟩ := leads_cellArithmetic h.value1 h.value2 hfill.fst hfill.snd hat₃ hx
  rw [hfill.rest] at hlead hann
  refine ⟨{ s₂.setMem op.p3.toNat (e.store (Mem.pySetNull L) x s.rest).1 v with
    rest := (e.store (Mem.pySetNull L) x s.rest).2 }, ?_, ?_, rfl,
    hfill.announced.setMem hann op.p3.toNat⟩
  · unfold OP_Add_Subtract_Multiply_Divide_Remainder Op.mem_of_p1 Op.mem_of_p2 Op.mem_of_p3
    refine Leads.step (Strict.run_mem_with_index s h.register1.memIndex_eq) ?_
    refine Leads.step hat.run_get_flags (Leads.step hrun₁ ?_)
    have hindex₂ : Machine.memIndex s₁.mems.length s₁.nMem op.p2 = .ok op.p2.toNat := by
      rw [hlen₁, hn₁]
      exact h.register2.memIndex_eq
    have hindex₃ : Machine.memIndex s₂.mems.length s₂.nMem op.p3 = .ok op.p3.toNat := by
      rw [hlen₂, hfill.nMem]
      exact h.register3.memIndex_eq
    refine Leads.step (Strict.run_mem_with_index s₁ hindex₂) ?_
    refine Leads.step hflags₁ (Leads.step hrun₂ ?_)
    exact Leads.step (Strict.run_mem_with_index s₂ hindex₃) hlead
  · unfold filledMems
    rw [← hfill.mems]
    rfl

end python

/-! ## The C version -/

section c_version

variable {L} {enc nMem : ℕ} {op : Op} {mems : List Mem} {c d e : Mem} {r : ρ}

/-- What `fp_math` leaves in the output register. -/
theorem c_realArithmetic_eq {opcode : Opcode} {rA rB : Binary64} {type1 type2 : Flags}
    {bIntint : Bool} {x : Number}
    (hx : fpNumber (!Flags.has (type1 ||| type2) MEM_Real && !bIntint)
      (c_realOperation opcode rA rB) = some x) :
    c_realArithmetic L opcode rA rB type1 type2 bIntint e r =
      e.store (Mem.sqlite3VdbeMemSetNull L) x r := by
  unfold c_realArithmetic
  cases hop : c_realOperation opcode rA rB with
  | null =>
    rw [hop] at hx
    obtain rfl := Option.some.inj hx
    rfl
  | overflow =>
    rw [hop] at hx
    cases hx
  | assertion =>
    rw [hop] at hx
    cases hx
  | value v =>
    rw [hop] at hx
    obtain rfl := Option.some.inj hx
    unfold realNumber
    dsimp only
    by_cases hnan : v.isNaN = true
    · rw [if_pos hnan, if_pos hnan]
      rfl
    rw [if_neg hnan, if_neg hnan]
    by_cases htry : (!Flags.has (type1 ||| type2) MEM_Real && !bIntint) = true
    · have htype := withTypeFlag_withTypeFlag e.flags (f := MEM_Real) MEM_Int (by decide)
      have hu : ({ e with u := v, flags := withTypeFlag e.flags MEM_Real } : Mem).u_r = v := rfl
      rw [if_pos htry, if_pos htry, Mem.sqlite3VdbeIntegerAffinity_eq, hu]
      cases hsmall : smallInt v with
      | some v' =>
        dsimp only
        rw [htype]
        rfl
      | none => rfl
    · rw [if_neg htry, if_neg htry]
      rfl

/-- The operation on cells whose types are known. -/
theorem c_cellArithmetic_eq {opcode : Opcode} (hcv : c.IsValue enc) (hdv : d.IsValue enc) {x : Number}
    (hx : arithmetic (c_intOperation opcode) (c_realOperation opcode) (c.operand L) (d.operand L) =
      some x) :
    c_cellArithmetic L opcode (c.numericType L).2 (d.numericType L).2 (c.numericType L).1
      (d.numericType L).1 e r = e.store (Mem.sqlite3VdbeMemSetNull L) x r := by
  unfold c_cellArithmetic
  dsimp only
  rw [Mem.realValue_numericType, Mem.realValue_numericType,
    (Mem.numericType_sameButUnion c).flags_eq, (Mem.numericType_sameButUnion d).flags_eq,
    Flags.has_or_left]
  -- A NULL operand gives NULL, whichever it is.
  cases hc : c.flags.has MEM_Null with
  | true =>
    have hop : c.operand L = .null := if_pos hc
    rw [hop] at hx
    obtain rfl := Option.some.inj hx
    rfl
  | false =>
    cases hd : d.flags.has MEM_Null with
    | true =>
      have hop : d.operand L = .null := if_pos hd
      rw [hop] at hx
      cases hcop : c.operand L <;> rw [hcop] at hx <;> obtain rfl := Option.some.inj hx <;> rfl
    | false =>
      rw [Bool.or_self, if_neg (by simp)]
      have hboth : Flags.has ((c.numericType L).1 &&& (d.numericType L).1) MEM_Int =
          ((c.numericType L).1.has MEM_Int && (d.numericType L).1.has MEM_Int) :=
        Flags.has_and_twoPow _ _ 2 (by decide)
      have hreals : Flags.has ((c.numericType L).1 ||| (d.numericType L).1) MEM_Real =
          ((c.numericType L).1.has MEM_Real || (d.numericType L).1.has MEM_Real) :=
        Flags.has_or_left _ _ _
      -- Whenever the code gets as far as the doubles, the result is that of `c_realArithmetic`.
      have hfp : ∀ bIntint, fpNumber (!((c.numericType L).1.has MEM_Real ||
          (d.numericType L).1.has MEM_Real) && !bIntint)
          (c_realOperation opcode (c.realValue L) (d.realValue L)) = some x →
          c_realArithmetic L opcode (c.realValue L) (d.realValue L) (c.numericType L).1
            (d.numericType L).1 bIntint e r = e.store (Mem.sqlite3VdbeMemSetNull L) x r :=
        fun bIntint hfp => c_realArithmetic_eq (by rw [hreals]; exact hfp)
      rw [hboth]
      -- An operand that is not NULL is an integer, a real, or neither of them and counts as one.
      rcases hcv.numericOperand (L := L) hc with
          ⟨hci, hcr, hcop⟩ | ⟨hci, hcr, hcop⟩ | ⟨hci, hcr, hcop⟩ <;>
        rcases hdv.numericOperand (L := L) hd with
          ⟨hdi, hdr, hdop⟩ | ⟨hdi, hdr, hdop⟩ | ⟨hdi, hdr, hdop⟩ <;>
        rw [hci, hdi] <;> rw [hcr, hdr] at hfp <;> rw [hcop, hdop] at hx
      -- Two integers are computed as integers, and as doubles where that overflows.
      case inl.inl =>
        simp only [Bool.and_self, ↓reduceIte]
        unfold arithmetic at hx
        dsimp only at hx
        cases hop : c_intOperation opcode (c.numericType L).2.u_i (d.numericType L).2.u_i with
        | overflow =>
          rw [hop] at hx
          exact hfp true hx
        | assertion =>
          rw [hop] at hx
          cases hx
        | _ =>
          rw [hop] at hx
          obtain rfl := Option.some.inj hx
          rfl
      all_goals exact hfp false hx

/-- The C version stores what it computes from what it sees of the operands. -/
theorem impl_arithmetic (h : Operands enc op mems nMem c d) {x : Number}
    (hx : arithmetic (c_intOperation op.opcode) (c_realOperation op.opcode) (c.operand L)
      (d.operand L) = some x)
    (he : (filledMems L op mems c d)[op.p3.toNat]? = some e) :
    impl_OP_Add_Subtract_Multiply_Divide_Remainder L op mems r =
      .ok ((filledMems L op mems c d).set op.p3.toNat
        (e.store (Mem.sqlite3VdbeMemSetNull L) x r).1,
        (e.store (Mem.sqlite3VdbeMemSetNull L) x r).2) := by
  set mems₁ := mems.set op.p1.toNat (c.numericType L).2 with hmems₁
  -- The second operand is as it was, but for what the first has filled.
  obtain ⟨d', hd', htype⟩ : ∃ d', mems₁[op.p2.toNat]? = some d' ∧
      d'.numericType L = d.numericType L := by
    by_cases hij : op.p1.toNat = op.p2.toNat
    · have heq : c = d := Option.some.inj ((hij ▸ h.cell1).symm.trans h.cell2)
      subst heq
      rw [hmems₁, ← hij]
      exact ⟨_, List.getElem?_set_self h.register1.lt, Mem.numericType_numericType c⟩
    · exact ⟨d, (List.getElem?_set_ne hij).trans h.cell2, rfl⟩
  have hlen₁ : op.p2.toNat < mems₁.length := by
    rw [hmems₁, List.length_set]
    exact h.register2.lt
  have hcell₂ : (filledMems L op mems c d)[op.p2.toNat]? = some (d.numericType L).2 :=
    List.getElem?_set_self hlen₁
  have hcell₁ : (filledMems L op mems c d)[op.p1.toNat]? = some (c.numericType L).2 := by
    by_cases hij : op.p1.toNat = op.p2.toNat
    · have heq : c = d := Option.some.inj ((hij ▸ h.cell1).symm.trans h.cell2)
      rw [hij, hcell₂, heq]
    · exact (List.getElem?_set_ne (Ne.symm hij)).trans (List.getElem?_set_self h.register1.lt)
  have hmems₂ : mems₁.set op.p2.toNat (d.numericType L).2 = filledMems L op mems c d := rfl
  have haMem : ∀ {i : ℤ} {b : Mem}, (filledMems L op mems c d)[i.toNat]? = some b →
      aMem (filledMems L op mems c d) i = .ok b := by
    intro i b hb
    unfold aMem
    rw [hb]
  unfold impl_OP_Add_Subtract_Multiply_Divide_Remainder
  rw [onMem_eq h.cell1]
  simp only [Except.map, bind, Except.bind]
  rw [onMem_eq hd']
  simp only [Except.map, htype, hmems₂, haMem hcell₁, haMem hcell₂]
  rw [onMem_eq he]
  simp only [Except.map, pure, Except.pure, c_cellArithmetic_eq h.value1 h.value2 hx]

end c_version

/-! ## What both versions leave -/

/-- The number is one of SQL: its integer has 64 bits. -/
def Number.Fits : Number → Prop
  | .int i => FitsInt64 i
  | _ => True

/-- The register `P3` holds the number. -/
def StoresNumber (op : Op) (mems : List Mem) (x : Number) : Prop :=
  ∃ e, mems[op.p3.toNat]? = some e ∧ e.number = some x

/-- One number is stored. -/
theorem StoresNumber.unique {op : Op} {mems : List Mem} {x y : Number} (hx : StoresNumber op mems x)
    (hy : StoresNumber op mems y) : x = y := by
  obtain ⟨e, he, hx⟩ := hx
  obtain ⟨e', he', hy⟩ := hy
  obtain rfl := Option.some.inj (he.symm.trans he')
  exact Option.some.inj (hx.symm.trans hy)

/-- What is stored is what is read. -/
theorem number_store {setNull : Mem → ρ → Mem × ρ} {x : Number} (hx : x.Fits) (e : Mem) (r : ρ)
    (hnull : (setNull e r).1.flags.has MEM_Null = true) :
    (e.store setNull x r).1.number = some x := by
  unfold Mem.number Mem.store
  cases x with
  | null => rw [if_pos hnull]
  | int i =>
    have hfits : FitsInt64 i := hx
    unfold FitsInt64 SMALLEST_INT64 LARGEST_INT64 at hfits
    have hu := Mem.toInt_ofInt_of_fits (v := i) (by omega) (by omega)
    simp [withTypeFlag, Mem.u_i, hu]
  | real x => simp [withTypeFlag, Mem.u_r]

/-- A register that is set to NULL is NULL. -/
theorem has_null_pySetNull (e : Mem) (r : ρ) :
    (e.pySetNull L r).1.flags.has MEM_Null = true := by
  unfold Mem.pySetNull Mem.sqlite3VdbeMemSetNull Mem.vdbeMemClearExternAndSetNull
  split_ifs <;> simp [withTypeFlag]

/-- The same for the routine of C. -/
theorem has_null_sqlite3VdbeMemSetNull (e : Mem) (r : ρ) :
    (e.sqlite3VdbeMemSetNull L r).1.flags.has MEM_Null = true := by
  unfold Mem.sqlite3VdbeMemSetNull Mem.vdbeMemClearExternAndSetNull
  split_ifs <;> simp

section both

variable {L} {m : Machine ρ} {enc : ℕ} {op : Op} {c d : Mem} {x y : Number}

/-- The numbers that both versions store, and that the other registers are the same after both. -/
structure Leave (L : CLib ρ) (m : Machine ρ) (op : Op) (x y : Number) (mems mems' : List Mem) :
    Prop where
  /-- The Python version. -/
  python : ∃ r, execute (OP_Add_Subtract_Multiply_Divide_Remainder L op) m = .ok ((), mems, r)
  /-- The C version. -/
  c : ∃ r, impl_OP_Add_Subtract_Multiply_Divide_Remainder L op m.mems m.rest = .ok (mems', r)
  /-- What the Python version stores. -/
  stored : StoresNumber op mems x
  /-- What the C version stores. -/
  c_stored : StoresNumber op mems' y
  /-- The other registers. -/
  others : ∀ j, j ≠ op.p3.toNat → mems[j]? = mems'[j]?

/-- Both versions leave their number in the register. -/
theorem leave_arithmetic (hs : m.Sound) (h : Operands enc op m.mems m.nMem c d)
    (hx : arithmetic (intOperation op.opcode) (realOperation op.opcode) (c.operand L) (d.operand L) =
      some x) (hxf : x.Fits)
    (hy : arithmetic (c_intOperation op.opcode) (c_realOperation op.opcode) (c.operand L)
      (d.operand L) = some y) (hyf : y.Fits) :
    ∃ mems mems', Leave L m op x y mems mems' := by
  obtain ⟨written, hR, hann⟩ := hs
  obtain ⟨e, he⟩ := h.output (L := L)
  obtain ⟨s', hlead, hmems, hrest, -⟩ := leads_arithmetic (s := m.strict written) hann h hx he
  have hlt : op.p3.toNat < (filledMems L op m.mems c d).length :=
    (List.getElem?_eq_some_iff.mp he).1
  refine ⟨s'.mems, _, ⟨s'.rest, hlead.execute hR⟩, ⟨_, impl_arithmetic h hy he⟩, ?_, ?_, ?_⟩
  · rw [hmems]
    exact ⟨_, List.getElem?_set_self hlt, number_store hxf e _ (has_null_pySetNull L e _)⟩
  · exact ⟨_, List.getElem?_set_self hlt,
      number_store hyf e _ (has_null_sqlite3VdbeMemSetNull L e _)⟩
  · intro j hj
    rw [hmems, List.getElem?_set_ne (Ne.symm hj), List.getElem?_set_ne (Ne.symm hj)]
    rfl

end both

/-! ## Division and remainder -/

open Division

/-- What the quotient of `b` by `a` is to be: NULL by zero, a real where it does not fit, and
otherwise rounded towards zero. -/
structure IsQuotient (a b : ℤ) (x : Number) : Prop where
  /-- A quotient by zero. -/
  zero : a = 0 → x = .null
  /-- The one quotient that does not fit. -/
  overflow : a = -1 → b = SMALLEST_INT64 → x = .real ((Binary64.ofInt b).div (Binary64.ofInt a))
  /-- Any other quotient. -/
  int : a ≠ 0 → ¬ (a = -1 ∧ b = SMALLEST_INT64) → x = .int (b.tdiv a)

/-- What the remainder of `b` by `a` is to be: NULL by zero, and otherwise what is left of `b` by the
quotient that is rounded towards zero. It is smaller than `a` and has the sign of `b`. -/
structure IsRemainder (toNumber : ℤ → Number) (a b : ℤ) (x : Number) : Prop where
  /-- A remainder by zero. -/
  zero : a = 0 → x = .null
  /-- Any other remainder. -/
  nonzero : a ≠ 0 → ∃ v, x = toNumber v ∧ v = b - a * b.tdiv a ∧ |v| < |a| ∧ 0 ≤ v * b

/-- An integer as a real. -/
def Number.ofReal (v : ℤ) : Number := .real (Binary64.ofInt v)

/-- The operands `c` and `d` of the opcode have the opcode divide `b` by `a`, and this is what it is
to store. -/
inductive Divided (L : CLib ρ) (opcode : Opcode) (c d : Mem) : ℤ → ℤ → (Number → Prop) → Prop where
  /-- The quotient of two integers. -/
  | quotient {a b : ℤ} {rA rB : Binary64} (hop : opcode = .Divide) (hc : c.operand L = .int a rA)
      (hd : d.operand L = .int b rB) : Divided L opcode c d a b (IsQuotient a b)
  /-- The remainder of two integers. -/
  | remainder {a b : ℤ} {rA rB : Binary64} (hop : opcode = .Remainder)
      (hc : c.operand L = .int a rA) (hd : d.operand L = .int b rB) :
      Divided L opcode c d a b (IsRemainder .int a b)
  /-- The remainder of two reals whose integer parts fit, which is that of the integer parts. -/
  | real {rA rB : Binary64} (hop : opcode = .Remainder) (hc : c.operand L = .real rA)
      (hd : d.operand L = .real rB) (hA : FitsInt64 rA.trunc) (hB : FitsInt64 rB.trunc) :
      Divided L opcode c d rA.trunc rB.trunc (IsRemainder Number.ofReal rA.trunc rB.trunc)

/-- Both versions store what the division is to be. -/
def DividesRight (L : CLib ρ) (m : Machine ρ) (op : Op) (spec : Number → Prop) : Prop :=
  ∃ x mems mems', Leave L m op x x mems mems' ∧ spec x

section division

variable {L : CLib ρ} {opcode : Opcode} {c d : Mem} {a b : ℤ} {spec : Number → Prop} {x y : Number}

/-- What they leave is determined. -/
theorem Leave.unique {m : Machine ρ} {op : Op} {x' y' : Number} {mems mems' mems₁ mems₂ : List Mem}
    (h : Leave L m op x y mems mems') (h' : Leave L m op x' y' mems₁ mems₂) : x = x' ∧ y = y' := by
  obtain ⟨⟨r, hrun⟩, ⟨q, hc⟩, hx, hy, -⟩ := h
  obtain ⟨⟨r', hrun'⟩, ⟨q', hc'⟩, hx', hy', -⟩ := h'
  have hmems := Except.ok.inj (hrun.symm.trans hrun')
  have hmems' := Except.ok.inj (hc.symm.trans hc')
  simp only [Prod.mk.injEq, true_and] at hmems hmems'
  obtain ⟨rfl, -⟩ := hmems
  obtain ⟨rfl, -⟩ := hmems'
  exact ⟨hx.unique hx', hy.unique hy'⟩

/-- There is one quotient. -/
theorem IsQuotient.unique (hx : IsQuotient a b x) (hy : IsQuotient a b y) : x = y := by
  by_cases ha : a = 0
  · rw [hx.zero ha, hy.zero ha]
  by_cases ho : a = -1 ∧ b = SMALLEST_INT64
  · rw [hx.overflow ho.1 ho.2, hy.overflow ho.1 ho.2]
  · rw [hx.int ha ho, hy.int ha ho]

/-- There is one remainder. -/
theorem IsRemainder.unique {toNumber : ℤ → Number} (hx : IsRemainder toNumber a b x)
    (hy : IsRemainder toNumber a b y) : x = y := by
  by_cases ha : a = 0
  · rw [hx.zero ha, hy.zero ha]
  obtain ⟨v, rfl, hv, -⟩ := hx.nonzero ha
  obtain ⟨v', rfl, hv', -⟩ := hy.nonzero ha
  rw [hv, hv']

/-- There is one number that the opcode is to store. -/
theorem Divided.unique (h : Divided L opcode c d a b spec) (hx : spec x) (hy : spec y) : x = y := by
  cases h with
  | quotient => exact hx.unique hy
  | remainder => exact hx.unique hy
  | real => exact hx.unique hy

/-! ### Integers -/

/-- A quotient rounded towards zero fits, but for one. -/
theorem fitsInt64_tdiv (hb : FitsInt64 b) (ha : a ≠ 0) (ho : ¬ (a = -1 ∧ b = SMALLEST_INT64)) :
    FitsInt64 (b.tdiv a) := by
  unfold FitsInt64 SMALLEST_INT64 LARGEST_INT64 at *
  have habs : (b.tdiv a).natAbs = b.natAbs / a.natAbs := Int.natAbs_tdiv b a
  have hle : b.natAbs / a.natAbs ≤ b.natAbs := Nat.div_le_self _ _
  by_cases hone : a = -1
  · subst hone
    have hneg : b.tdiv (-1) = -b := by rw [Int.tdiv_neg, Int.tdiv_one]
    omega
  · by_cases hpos : a = 1
    · subst hpos
      rw [Int.tdiv_one]
      exact hb
    · have hhalf : b.natAbs / a.natAbs ≤ b.natAbs / 2 := Nat.div_le_div_left (by omega) (by decide)
      omega

/-- A quotient that is rounded down fits as well. -/
theorem fitsInt64_fdiv (hb : FitsInt64 b) (ha : a ≠ 0) (ho : ¬ (a = -1 ∧ b = SMALLEST_INT64)) :
    FitsInt64 (b.fdiv a) := by
  by_cases halike : RoundsAlike a b
  · rw [(fdiv_eq_tdiv_iff a b).mpr halike]
    exact fitsInt64_tdiv hb ha ho
  · -- The divisor is neither `1` nor `-1`, so the quotient is far from the limits.
    have hone : a.natAbs ≠ 1 := fun h => halike (Or.inl (Int.natAbs_dvd.mp (by rw [h]; simp)))
    have habs : (b.tdiv a).natAbs = b.natAbs / a.natAbs := Int.natAbs_tdiv b a
    have hhalf : b.natAbs / a.natAbs ≤ b.natAbs / 2 := Nat.div_le_div_left (by omega) (by decide)
    rw [fdiv_eq, if_neg halike]
    unfold FitsInt64 SMALLEST_INT64 LARGEST_INT64 at *
    omega

/-- A remainder fits. -/
theorem fitsInt64_tmod (ha : FitsInt64 a) (hne : a ≠ 0) : FitsInt64 (b.tmod a) := by
  unfold FitsInt64 SMALLEST_INT64 LARGEST_INT64 at *
  have hlt := abs_tmod_lt b hne
  have habs : |a| ≤ 2^63 := abs_le.mpr (by omega)
  have := abs_lt.mp (hlt.trans_le habs)
  omega

/-- A remainder fits, also if the division rounds down. -/
theorem fitsInt64_fmod (ha : FitsInt64 a) (hne : a ≠ 0) : FitsInt64 (b.fmod a) := by
  unfold FitsInt64 SMALLEST_INT64 LARGEST_INT64 at *
  have hlt := abs_fmod_lt b hne
  have habs : |a| ≤ 2^63 := abs_le.mpr (by omega)
  have := abs_lt.mp (hlt.trans_le habs)
  omega

/-- The remainder that both versions take in place of one by `-1`. -/
theorem tmod_guard (a b : ℤ) : b.tmod (if a = -1 then 1 else a) = b.tmod a := by
  split_ifs with h
  · rw [h, Int.tmod_neg]
  · rfl

/-- The remainder by -1 is the one by 1. -/
theorem fmod_guard (a b : ℤ) : b.fmod (if a = -1 then 1 else a) = b.fmod a := by
  split_ifs with h
  · have halike : RoundsAlike (-1) b := Or.inl (Int.neg_dvd.mpr (one_dvd b))
    rw [h, (fmod_eq_tmod_iff (-1) b).mpr halike, Int.tmod_neg, Int.tmod_one, Int.fmod_one]
  · rfl

/-- The remainder that is rounded towards zero is what it is to be. -/
theorem isRemainder_tmod (toNumber : ℤ → Number) (ha : a ≠ 0) :
    IsRemainder toNumber a b (toNumber (b.tmod a)) :=
  ⟨fun h => absurd h ha, fun _ => ⟨_, rfl, Int.tmod_def b a, abs_tmod_lt b ha, tmod_mul_nonneg a b⟩⟩

/-- The one quotient that does not fit is a real. -/
theorem fpNumber_overflow : fpNumber false
    (.value ((Binary64.ofInt SMALLEST_INT64).div (Binary64.ofInt (-1)))) =
      some (.real ((Binary64.ofInt SMALLEST_INT64).div (Binary64.ofInt (-1)))) := by
  decide +kernel

/-- Without a NULL, and without two integers, the operation is one on reals. -/
theorem arithmetic_of_not_ints {int : ℤ → ℤ → OpOutcome ℤ}
    {real : Binary64 → Binary64 → OpOutcome Binary64} {x y : NumericOperand}
    (h : ¬ ∃ a rA b rB, x = .int a rA ∧ y = .int b rB) (hx : x ≠ .null) (hy : y ≠ .null) :
    arithmetic int real x y = fpNumber (!x.isReal && !y.isReal) (real x.value y.value) := by
  cases x with
  | null => exact absurd rfl hx
  | int a rA =>
    cases y with
    | null => exact absurd rfl hy
    | int b rB => exact absurd ⟨a, rA, b, rB, rfl, rfl⟩ h
    | real rB => rfl
    | other rB => rfl
  | real rA => cases y <;> first | rfl | exact absurd rfl hy
  | other rA => cases y <;> first | rfl | exact absurd rfl hy

/-- Reals are not converted to integers. -/
theorem arithmetic_reals (int : ℤ → ℤ → OpOutcome ℤ) (real : Binary64 → Binary64 → OpOutcome Binary64)
    (rA rB : Binary64) :
    arithmetic int real (.real rA) (.real rB) = fpNumber false (real rA rB) := rfl

/-- A real whose integer part fits is converted to it. -/
theorem toInt64_of_fits {r : Binary64} (h : FitsInt64 r.trunc) : r.toInt64 = r.trunc := by
  unfold FitsInt64 SMALLEST_INT64 LARGEST_INT64 at h
  exact if_pos (by omega)

/-- An integer is stored as a real. -/
theorem fpNumber_ofInt {v : ℤ} (h : FitsInt64 v) :
    fpNumber false (.value (Binary64.ofInt v)) = some (Number.ofReal v) := by
  unfold FitsInt64 SMALLEST_INT64 LARGEST_INT64 at h
  have hfin := Binary64.isFinite_ofInt (v := v) (by omega) (by omega)
  have hnan := Binary64.isNaN_of_isFinite hfin
  unfold fpNumber realNumber
  dsimp only
  rw [hnan]
  rfl

/-- Integers of opposite signs are different reals. -/
theorem ofReal_ne {v w : ℤ} (hv : FitsInt64 v) (hw : FitsInt64 w) (h : v * w < 0) :
    Number.ofReal v ≠ Number.ofReal w := by
  unfold FitsInt64 SMALLEST_INT64 LARGEST_INT64 at hv hw
  intro heq
  injection heq with heq
  have hmsb := congrArg BitVec.msb heq
  rw [Binary64.msb_ofInt (by omega) (by omega), Binary64.msb_ofInt (by omega) (by omega),
    decide_eq_decide] at hmsb
  rcases mul_neg_iff.mp h with ⟨hpos, hneg⟩ | ⟨hneg, hpos⟩ <;> omega

/-- The C version stores what it is to store. -/
theorem c_divides {enc : ℕ} (hL : L.ReadsIntegers) (hcv : c.IsValue enc) (hdv : d.IsValue enc)
    (h : Divided L opcode c d a b spec) :
    ∃ y, arithmetic (c_intOperation opcode) (c_realOperation opcode) (c.operand L) (d.operand L) =
      some y ∧ y.Fits ∧ spec y := by
  cases h with
  | @quotient a b rA rB hop hc hd =>
    obtain ⟨hb, -, hrB⟩ := Mem.operand_int hL hdv hd
    obtain ⟨-, -, hrA⟩ := Mem.operand_int hL hcv hc
    subst hop
    rw [hc, hd]
    unfold arithmetic c_intOperation
    dsimp only
    -- The cases are those of the C code: a zero divisor, the one quotient that overflows, the
    -- others.
    by_cases ha : a = 0
    · rw [if_pos ha]
      exact ⟨.null, rfl, trivial, fun _ => rfl, fun h => by omega, fun h => absurd ha h⟩
    rw [if_neg ha]
    by_cases ho : a = -1 ∧ b = SMALLEST_INT64
    · obtain ⟨rfl, rfl⟩ := ho
      rw [if_pos ⟨rfl, rfl⟩, hrA (Or.inl rfl), hrB (Or.inr rfl)]
      exact ⟨_, fpNumber_overflow, trivial, fun h => absurd h (by decide), fun _ _ => rfl,
        fun _ h => absurd ⟨rfl, rfl⟩ h⟩
    · rw [if_neg ho]
      refine ⟨_, rfl, fitsInt64_tdiv ?_ ha ho, fun h => absurd h ha, fun h h' => absurd ⟨h, h'⟩ ho,
        fun _ _ => rfl⟩
      unfold FitsInt64 SMALLEST_INT64 LARGEST_INT64
      omega
  | @remainder a b rA rB hop hc hd =>
    obtain ⟨ha, -, -⟩ := Mem.operand_int hL hcv hc
    subst hop
    rw [hc, hd]
    unfold arithmetic c_intOperation
    dsimp only
    by_cases h0 : a = 0
    · rw [if_pos h0]
      exact ⟨.null, rfl, trivial, fun _ => rfl, fun h => absurd h0 h⟩
    rw [if_neg h0, tmod_guard]
    refine ⟨_, rfl, fitsInt64_tmod ?_ h0, isRemainder_tmod _ h0⟩
    unfold FitsInt64 SMALLEST_INT64 LARGEST_INT64
    omega
  | @real rA rB hop hc hd hA hB =>
    subst hop
    rw [hc, hd]
    rw [arithmetic_reals]
    unfold c_realOperation
    dsimp only
    rw [toInt64_of_fits hA, toInt64_of_fits hB, tmod_guard]
    by_cases h0 : rA.trunc = 0
    · rw [if_pos h0]
      exact ⟨.null, rfl, trivial, fun _ => rfl, fun h => absurd h0 h⟩
    · rw [if_neg h0]
      exact ⟨_, fpNumber_ofInt (fitsInt64_tmod hA h0), trivial, isRemainder_tmod Number.ofReal h0⟩

/-- A remainder that is rounded down is what it is to be if both roundings agree. -/
theorem isRemainder_fmod_iff {toNumber : ℤ → Number} (ha : a ≠ 0)
    (hne : ¬ RoundsAlike a b → toNumber (b.fmod a) ≠ toNumber (b.tmod a)) :
    IsRemainder toNumber a b (toNumber (b.fmod a)) ↔ RoundsAlike a b := by
  constructor
  · intro h
    by_contra halike
    exact hne halike (h.unique (isRemainder_tmod toNumber ha))
  · intro halike
    rw [(fmod_eq_tmod_iff a b).mpr halike]
    exact isRemainder_tmod toNumber ha

/-- The Python version stores it if both roundings agree. -/
theorem python_divides {enc : ℕ} (hL : L.ReadsIntegers) (hcv : c.IsValue enc) (hdv : d.IsValue enc)
    (h : Divided L opcode c d a b spec) :
    ∃ x, arithmetic (intOperation opcode) (realOperation opcode) (c.operand L) (d.operand L) =
      some x ∧ x.Fits ∧ (spec x ↔ RoundsAlike a b) := by
  -- A division by zero gives NULL in both, so the roundings do not matter.
  have hzero : RoundsAlike 0 b := Or.inr (by simp)
  cases h with
  | @quotient a b rA rB hop hc hd =>
    obtain ⟨hb, -, hrB⟩ := Mem.operand_int hL hdv hd
    obtain ⟨-, -, hrA⟩ := Mem.operand_int hL hcv hc
    have hbf : FitsInt64 b := by
      unfold FitsInt64 SMALLEST_INT64 LARGEST_INT64
      omega
    subst hop
    rw [hc, hd]
    unfold arithmetic intOperation
    dsimp only
    -- `OP_Divide` tests the divisor first.
    by_cases ha : a = 0
    · subst ha
      rw [if_pos rfl]
      refine ⟨.null, rfl, trivial, fun _ => hzero, fun _ => ?_⟩
      exact ⟨fun _ => rfl, fun h => by omega, fun h => absurd rfl h⟩
    rw [if_neg ha]
    -- The one quotient that does not fit is computed in doubles, as in C.
    by_cases ho : a = -1 ∧ b = SMALLEST_INT64
    · obtain ⟨rfl, rfl⟩ := ho
      have hov : ovfcheck (SMALLEST_INT64.fdiv (-1)) = .overflow := by decide
      rw [hov, hrA (Or.inl rfl), hrB (Or.inr rfl)]
      refine ⟨_, fpNumber_overflow, trivial, fun _ => Or.inl (by decide), fun _ => ?_⟩
      exact ⟨fun h => absurd h (by decide), fun _ _ => rfl, fun _ h => absurd ⟨rfl, rfl⟩ h⟩
    -- Any other quotient fits, and is C's exactly when the floor and the truncation agree.
    have hfits := fitsInt64_fdiv hbf ha ho
    have hov : ovfcheck (b.fdiv a) = .value (b.fdiv a) := if_pos hfits
    rw [hov]
    refine ⟨_, rfl, hfits, fun h => ?_, fun h => ?_⟩
    · have heq := h.int ha ho
      injection heq with heq
      exact (fdiv_eq_tdiv_iff a b).mp heq
    · rw [(fdiv_eq_tdiv_iff a b).mpr h]
      exact ⟨fun h => absurd h ha, fun h h' => absurd ⟨h, h'⟩ ho, fun _ _ => rfl⟩
  | @remainder a b rA rB hop hc hd =>
    -- A remainder always fits, so it needs no check for overflow.
    obtain ⟨ha, -, -⟩ := Mem.operand_int hL hcv hc
    subst hop
    rw [hc, hd]
    unfold arithmetic intOperation
    dsimp only
    by_cases h0 : a = 0
    · subst h0
      rw [if_pos rfl]
      refine ⟨.null, rfl, trivial, fun _ => hzero, fun _ => ?_⟩
      exact ⟨fun _ => rfl, fun h => absurd rfl h⟩
    rw [if_neg h0, fmod_guard]
    refine ⟨_, rfl, fitsInt64_fmod ?_ h0, isRemainder_fmod_iff h0 fun halike heq => ?_⟩
    · unfold FitsInt64 SMALLEST_INT64 LARGEST_INT64
      omega
    · injection heq with heq
      exact halike ((fmod_eq_tmod_iff a b).mp heq)
  | @real rA rB hop hc hd hA hB =>
    subst hop
    rw [hc, hd]
    rw [arithmetic_reals]
    unfold realOperation
    dsimp only
    -- The remainder of two reals is that of their integer parts, as a double.
    rw [toInt64_of_fits hA, toInt64_of_fits hB, fmod_guard]
    by_cases h0 : rA.trunc = 0
    · rw [if_pos h0]
      refine ⟨.null, rfl, trivial, fun _ => h0 ▸ hzero, fun _ => ?_⟩
      exact ⟨fun _ => rfl, fun h => absurd h0 h⟩
    · rw [if_neg h0]
      refine ⟨_, fpNumber_ofInt (fitsInt64_fmod hA h0), trivial,
        isRemainder_fmod_iff h0 fun halike => ?_⟩
      exact ofReal_ne (fitsInt64_fmod hA h0) (fitsInt64_tmod hA h0) (fmod_mul_tmod_neg halike)

end division

/-- Both versions store what the division is to be exactly if it is exact or the operands do not have
opposite signs. -/
theorem dividesRight_iff {L : CLib ρ} (hL : L.ReadsIntegers) {m : Machine ρ} (hs : m.Sound) {enc : ℕ}
    {op : Op} {c d : Mem} (h : Operands enc op m.mems m.nMem c d) {a b : ℤ} {spec : Number → Prop}
    (hdiv : Divided L op.opcode c d a b spec) :
    DividesRight L m op spec ↔ RoundsAlike a b := by
  obtain ⟨x, hx, hxf, hiff⟩ := python_divides hL h.value1 h.value2 hdiv
  obtain ⟨y, hy, hyf, hspec⟩ := c_divides hL h.value1 h.value2 hdiv
  obtain ⟨mems, mems', hleave⟩ := leave_arithmetic hs h hx hxf hy hyf
  rw [← hiff]
  constructor
  · rintro ⟨x', mems₁, mems₂, hleave', hspec'⟩
    rw [(hleave.unique hleave').1]
    exact hspec'
  · intro hspec'
    obtain rfl := hdiv.unique hspec' hspec
    exact ⟨x, mems, mems', hleave, hspec⟩

/-! ### Concrete divisions -/

/-- `CLib.decimal` with the integers of 64 bits only. -/
def CLib.decimal64 : CLib Unit :=
  { CLib.decimal with
    Atoi64 := fun z n enc =>
      let (rc, v) := CLib.decimal.Atoi64 z n enc
      if FitsInt64 v then (rc, v) else (1, 0) }

/-- The library reads integers of 64 bits. -/
theorem readsIntegers_decimal64 : CLib.decimal64.ReadsIntegers := by
  have haccepted : ∀ z n enc, (CLib.decimal64.Atoi64 z n enc).1 = SQLITE_OK →
      ∃ v, FitsInt64 v ∧ CLib.decimal64.Atoi64 z n enc = (0, v) ∧
        (CLib.decimal64.AtoF z n enc).2 = Binary64.ofInt v := by
    intro z n enc hrc
    unfold CLib.decimal64 CLib.decimal at hrc ⊢
    dsimp only at hrc ⊢
    cases hv : decimalValue (z.take n.toNat) with
    | none =>
      rw [hv] at hrc
      exact absurd hrc (by decide)
    | some v =>
      rw [hv] at hrc
      dsimp only at hrc ⊢
      by_cases hfits : FitsInt64 v
      · exact ⟨v, hfits, if_pos hfits, rfl⟩
      · rw [if_neg hfits] at hrc
        exact absurd hrc (by decide)
  constructor
  · intro z n enc hrc
    obtain ⟨v, hfits, heq, -⟩ := haccepted z n enc hrc
    unfold FitsInt64 SMALLEST_INT64 LARGEST_INT64 at hfits
    rw [heq]
    dsimp only
    omega
  · intro z n enc hrc
    obtain ⟨v, hfits, -, hr⟩ := haccepted z n enc hrc
    unfold FitsInt64 SMALLEST_INT64 LARGEST_INT64 at hfits
    rw [hr]
    exact Binary64.isFinite_ofInt (by omega) (by omega)
  · intro z n enc hrc hv
    obtain ⟨v, -, heq, hr⟩ := haccepted z n enc hrc
    rw [hr, heq]

/-- Registers `1` and `2` with the operands `c` and `d`, and `3` for the result. -/
def threeRegisters (c d : Mem) : Machine Unit :=
  Machine.fresh [Mem.ofNull, c, d, Mem.ofNull] 3 ()

/-- An arithmetic opcode on these registers. -/
def arithmeticOp (opcode : Opcode) : Op := ⟨opcode, 1, 2, 3, .NOTUSED, 0#8⟩

/-- The operands are in the first two of three registers. -/
theorem operands_threeRegisters {c d : Mem} (opcode : Opcode) (hc : c.IsValue SQLITE_UTF8)
    (hd : d.IsValue SQLITE_UTF8) : Operands SQLITE_UTF8 (arithmeticOp opcode)
      (threeRegisters c d).mems (threeRegisters c d).nMem c d := by
  have hregister : IsRegister 4 3 1 ∧ IsRegister 4 3 2 ∧ IsRegister 4 3 3 := by decide
  exact ⟨hregister.1, hregister.2.1, hregister.2.2, rfl, rfl, hc, hd⟩

/-- `7 / 2` is `3`. -/
theorem dividesRight_seven_two :
    DividesRight CLib.decimal64 (threeRegisters (Mem.ofInt 2) (Mem.ofInt 7)) (arithmeticOp .Divide)
      (IsQuotient 2 7) :=
  (dividesRight_iff readsIntegers_decimal64 (Machine.Sound.fresh _ _ _)
    (operands_threeRegisters .Divide (Mem.isValue_ofInt 2) (Mem.isValue_ofInt 7))
    (.quotient rfl rfl rfl)).mpr (by decide)

/-- In Python `-7 / 2` is `-4`, and `-3` in C. -/
theorem not_dividesRight_minus_seven_two :
    (threeRegisters (Mem.ofInt 2) (Mem.ofInt (-7))).Sound ∧
    Divided CLib.decimal64 .Divide (Mem.ofInt 2) (Mem.ofInt (-7)) 2 (-7) (IsQuotient 2 (-7)) ∧
    (execute (OP_Add_Subtract_Multiply_Divide_Remainder CLib.decimal64 (arithmeticOp .Divide))
      (threeRegisters (Mem.ofInt 2) (Mem.ofInt (-7)))).map (fun x => (x.2.1[3]?).bind Mem.number) =
        .ok (some (.int (-4))) ∧
    (impl_OP_Add_Subtract_Multiply_Divide_Remainder CLib.decimal64 (arithmeticOp .Divide)
      [Mem.ofNull, Mem.ofInt 2, Mem.ofInt (-7), Mem.ofNull] ()).map
        (fun x => (x.1[3]?).bind Mem.number) = .ok (some (.int (-3))) ∧
    ¬ DividesRight CLib.decimal64 (threeRegisters (Mem.ofInt 2) (Mem.ofInt (-7)))
      (arithmeticOp .Divide) (IsQuotient 2 (-7)) := by
  have hpy : (execute (OP_Add_Subtract_Multiply_Divide_Remainder CLib.decimal64
      (arithmeticOp .Divide)) (threeRegisters (Mem.ofInt 2) (Mem.ofInt (-7)))).map
        (fun x => (x.2.1[3]?).bind Mem.number) = .ok (some (.int (-4))) := by
    decide +kernel
  refine ⟨Machine.Sound.fresh _ _ _, .quotient rfl rfl rfl, hpy, by decide +kernel, ?_⟩
  rintro ⟨x, mems, mems', ⟨⟨r, hrun⟩, -, ⟨e, he, hx⟩, -, -⟩, hspec⟩
  rw [hrun] at hpy
  have hread : (mems[3]?).bind Mem.number = some (.int (-4)) := Except.ok.inj hpy
  have hcell : mems[3]? = some e := he
  rw [hcell] at hread
  have hfour : x = .int (-4) := Option.some.inj (hx.symm.trans hread)
  rw [hfour] at hspec
  exact absurd (hspec.int (by decide) (by decide)) (by decide)

/-! ## Addition, subtraction and multiplication -/

/-- The opcode is one of the three. -/
def IsRingOp (opcode : Opcode) : Prop := opcode = .Add ∨ opcode = .Subtract ∨ opcode = .Multiply

instance (opcode : Opcode) : Decidable (IsRingOp opcode) := inferInstanceAs (Decidable (_ ∨ _))

/-- The mathematical result `r[P2] op r[P1]`. -/
def exactResult (opcode : Opcode) (a b : ℤ) : ℤ :=
  match opcode with
  | .Add => b + a
  | .Subtract => b - a
  | _ => b * a

/-- The floating operation `r[P2] op r[P1]`. -/
def floatResult (opcode : Opcode) (rA rB : Binary64) : Binary64 :=
  match opcode with
  | .Add => rB.add rA
  | .Subtract => rB.sub rA
  | _ => rB.mul rA

/-- What the opcode is to store, given which real results become integers. -/
structure IsResult (converted : NumericOperand → NumericOperand → Binary64 → Option ℤ)
    (opcode : Opcode) (x y : NumericOperand) (result : Number) : Prop where
  /-- A NULL operand. -/
  null : x = .null ∨ y = .null → result = .null
  /-- Two integers whose exact result fits. -/
  int : ∀ a rA b rB, x = .int a rA → y = .int b rB → FitsInt64 (exactResult opcode a b) →
    result = .int (exactResult opcode a b)
  /-- Two integers whose exact result does not fit. -/
  overflow : ∀ a rA b rB, x = .int a rA → y = .int b rB → ¬ FitsInt64 (exactResult opcode a b) →
    result = .real (floatResult opcode rA rB)
  /-- Any other operands. -/
  float : x ≠ .null → y ≠ .null → (¬ ∃ a rA b rB, x = .int a rA ∧ y = .int b rB) →
    result =
      if (floatResult opcode x.value y.value).isNaN then .null
      else
        match converted x y (floatResult opcode x.value y.value) with
        | some v => .int v
        | none => .real (floatResult opcode x.value y.value)

/-- No real result becomes an integer. -/
def neverConverted : NumericOperand → NumericOperand → Binary64 → Option ℤ := fun _ _ _ => none

/-- Without a real among the operands, a real result becomes the integer strictly inside the 64-bit
range that it is. -/
def convertedUnlessReal : NumericOperand → NumericOperand → Binary64 → Option ℤ := fun x y r =>
  if !x.isReal && !y.isReal then smallInt r else none

/-- The opcode stores what it is to store. Of the other registers it fills at most the union of an
operand that is a text or blob, and a constant of the output register that its flags announce is
what is stored. -/
structure Calculates (converted : NumericOperand → NumericOperand → Binary64 → Option ℤ) (L : CLib ρ)
    (m : Machine ρ) (op : Op) (c d : Mem) (m' : Machine ρ) (x : Number) : Prop where
  /-- The opcode returns. -/
  run_eq : run (machine ρ) (OP_Add_Subtract_Multiply_Divide_Remainder L op) m = .ok ((), m')
  /-- It stores a number. -/
  stored : StoresNumber op m'.mems x
  /-- That is the number it is to store. -/
  result : IsResult converted op.opcode (c.operand L) (d.operand L) x
  /-- The other registers. -/
  others : ∀ j e, j ≠ op.p3.toNat → m.mems[j]? = some e → ∃ e', m'.mems[j]? = some e' ∧
    Mem.SameButUnion e e' ∧ (e' = e ∨ (j = op.p1.toNat ∨ j = op.p2.toNat) ∧
      e.flags.has (MEM_Int ||| MEM_Real) = false ∧ e.flags.has (MEM_Str ||| MEM_Blob) = true)
  /-- The constants of the output register. -/
  constant : ∀ e, m'.mems[op.p3.toNat]? = some e →
    (e.flags.has MEM_Int = true → m'.cache.cache_state.is_constant_u_i op.p3.toNat = true →
      m'.cache.cache_state.get_constant_u_i op.p3.toNat = e.u_i) ∧
    (e.flags.has MEM_Real = true → m'.cache.cache_state.is_constant_u_r op.p3.toNat = true →
      m'.cache.cache_state.get_constant_u_r op.p3.toNat = e.u_r)

section ring

variable {L : CLib ρ} {enc : ℕ} {opcode : Opcode} {c d : Mem}

/-- Addition, subtraction and multiplication of integers check for overflow. -/
theorem intOperation_ring (h : IsRingOp opcode) (a b : ℤ) :
    intOperation opcode a b = ovfcheck (exactResult opcode a b) := by
  rcases h with rfl | rfl | rfl
  · show ovfcheck (a + b) = ovfcheck (b + a)
    rw [add_comm]
  · rfl
  · show ovfcheck (a * b) = ovfcheck (b * a)
    rw [mul_comm]

/-- On reals they are those of floats. -/
theorem realOperation_ring (h : IsRingOp opcode) (rA rB : Binary64) :
    realOperation opcode rA rB = .value (floatResult opcode rA rB) := by
  rcases h with rfl | rfl | rfl <;> rfl

/-- The floating operation on finite numbers gives a number. -/
theorem isNaN_floatResult {rA rB : Binary64} (hA : rA.isFinite = true) (hB : rB.isFinite = true) :
    (floatResult opcode rA rB).isNaN = false := by
  unfold floatResult
  split
  · exact Binary64.isNaN_add hB hA
  · exact Binary64.isNaN_sub hB hA
  · exact Binary64.isNaN_mul hB hA

/-- A real result fits a register. -/
theorem fits_realNumber (tryInt : Bool) (r : Binary64) : (realNumber tryInt r).Fits := by
  unfold realNumber
  by_cases hnan : r.isNaN = true
  · rw [if_pos hnan]
    exact trivial
  rw [if_neg hnan]
  cases tryInt with
  | false => exact trivial
  | true =>
    simp only [↓reduceIte]
    cases hsmall : smallInt r with
    | none => exact trivial
    | some v =>
      obtain ⟨-, hhi, hlo⟩ := smallInt_eq_some.mp hsmall
      show FitsInt64 v
      unfold FitsInt64 SMALLEST_INT64 LARGEST_INT64
      omega

/-- What the opcode computes is what it is to store. -/
theorem isResult_arithmetic (hL : L.ReadsIntegers) (hcv : c.IsValue enc) (hdv : d.IsValue enc)
    (hop : IsRingOp opcode) :
    ∃ x, arithmetic (intOperation opcode) (realOperation opcode) (c.operand L) (d.operand L) =
      some x ∧ x.Fits ∧ IsResult convertedUnlessReal opcode (c.operand L) (d.operand L) x := by
  -- Unless both operands are integers, the opcode computes in doubles.
  have hother : ∀ x y : NumericOperand, x ≠ .null → y ≠ .null →
      (¬ ∃ a rA b rB, x = .int a rA ∧ y = .int b rB) →
      arithmetic (intOperation opcode) (realOperation opcode) x y =
          some (realNumber (!x.isReal && !y.isReal) (floatResult opcode x.value y.value)) ∧
        IsResult convertedUnlessReal opcode x y
          (realNumber (!x.isReal && !y.isReal) (floatResult opcode x.value y.value)) := by
    intro x y hx hy hints
    constructor
    · rw [arithmetic_of_not_ints hints hx hy, realOperation_ring hop]
      rfl
    · exact ⟨fun h => absurd h (by tauto), fun a rA b rB ha hb => absurd ⟨a, rA, b, rB, ha, hb⟩ hints,
        fun a rA b rB ha hb => absurd ⟨a, rA, b, rB, ha, hb⟩ hints, fun _ _ _ => rfl⟩
  -- A NULL operand gives NULL.
  by_cases hx : c.operand L = .null
  · rw [hx]
    exact ⟨.null, rfl, trivial, fun _ => rfl, fun a rA b rB ha => (nomatch ha),
      fun a rA b rB ha => (nomatch ha), fun h => absurd rfl h⟩
  by_cases hy : d.operand L = .null
  · rw [hy]
    refine ⟨.null, ?_, trivial, fun _ => rfl, fun a rA b rB _ hb => (nomatch hb),
      fun a rA b rB _ hb => (nomatch hb), fun _ h => absurd rfl h⟩
    cases c.operand L <;> rfl
  by_cases hints : ∃ a rA b rB, c.operand L = .int a rA ∧ d.operand L = .int b rB
  · obtain ⟨a, rA, b, rB, ha, hb⟩ := hints
    obtain ⟨-, hA, -⟩ := Mem.operand_int hL hcv ha
    obtain ⟨-, hB, -⟩ := Mem.operand_int hL hdv hb
    rw [ha, hb]
    -- Two integers give an integer when their exact result fits, else a double.
    by_cases hfits : FitsInt64 (exactResult opcode a b)
    · refine ⟨.int (exactResult opcode a b), ?_, hfits, by simp, ?_, ?_, ?_⟩
      · unfold arithmetic
        dsimp only
        rw [intOperation_ring hop, show ovfcheck (exactResult opcode a b) = .value _ from if_pos hfits]
      · rintro a' rA' b' rB' ha' hb' -
        obtain ⟨rfl, rfl⟩ := NumericOperand.int.inj ha'
        obtain ⟨rfl, rfl⟩ := NumericOperand.int.inj hb'
        rfl
      · rintro a' rA' b' rB' ha' hb' hno
        obtain ⟨rfl, rfl⟩ := NumericOperand.int.inj ha'
        obtain ⟨rfl, rfl⟩ := NumericOperand.int.inj hb'
        exact absurd hfits hno
      · exact fun _ _ h => absurd ⟨a, rA, b, rB, rfl, rfl⟩ h
    · refine ⟨.real (floatResult opcode rA rB), ?_, trivial, by simp, ?_, ?_, ?_⟩
      · unfold arithmetic
        dsimp only
        rw [intOperation_ring hop, show ovfcheck (exactResult opcode a b) = .overflow from if_neg hfits,
          realOperation_ring hop]
        unfold fpNumber realNumber
        dsimp only
        rw [isNaN_floatResult hA hB]
        rfl
      · rintro a' rA' b' rB' ha' hb' hyes
        obtain ⟨rfl, rfl⟩ := NumericOperand.int.inj ha'
        obtain ⟨rfl, rfl⟩ := NumericOperand.int.inj hb'
        exact absurd hyes hfits
      · rintro a' rA' b' rB' ha' hb' -
        obtain ⟨rfl, rfl⟩ := NumericOperand.int.inj ha'
        obtain ⟨rfl, rfl⟩ := NumericOperand.int.inj hb'
        rfl
      · exact fun _ _ h => absurd ⟨a, rA, b, rB, rfl, rfl⟩ h
  · obtain ⟨heq, hres⟩ := hother _ _ hx hy hints
    exact ⟨_, heq, fits_realNumber _ _, hres⟩

/-- A register other than the output is an operand that was filled, or as it was. -/
theorem filledMems_others {op : Op} {mems : List Mem} {nMem : ℕ} (h : Operands enc op mems nMem c d)
    {j : ℕ} {e : Mem} (hj : mems[j]? = some e) :
    ∃ e', (filledMems L op mems c d)[j]? = some e' ∧ Mem.SameButUnion e e' ∧
      (e' = e ∨ (j = op.p1.toNat ∨ j = op.p2.toNat) ∧
        e.flags.has (MEM_Int ||| MEM_Real) = false ∧ e.flags.has (MEM_Str ||| MEM_Blob) = true) := by
  -- An operand keeps everything if it is no text or blob.
  have hoperand : ∀ {a : Mem}, (a.numericType L).2 = a ∨ a.flags.has (MEM_Int ||| MEM_Real) = false ∧
      a.flags.has (MEM_Str ||| MEM_Blob) = true := by
    intro a
    cases hnum : a.flags.has (MEM_Int ||| MEM_Real) with
    | true => exact Or.inl (by rw [Mem.numericType_of_number hnum])
    | false =>
      cases hstr : a.flags.has (MEM_Str ||| MEM_Blob) with
      | true => exact Or.inr ⟨rfl, rfl⟩
      | false => exact Or.inl (by rw [Mem.numericType_of_neither hnum hstr])
  unfold filledMems
  by_cases h2 : op.p2.toNat = j
  · subst h2
    obtain rfl : d = e := Option.some.inj (h.cell2.symm.trans hj)
    refine ⟨(d.numericType L).2, List.getElem?_set_self ?_, Mem.numericType_sameButUnion d,
      hoperand.imp_right fun h => ⟨Or.inr rfl, h⟩⟩
    rw [List.length_set]
    exact h.register2.lt
  rw [List.getElem?_set_ne h2]
  by_cases h1 : op.p1.toNat = j
  · subst h1
    obtain rfl : c = e := Option.some.inj (h.cell1.symm.trans hj)
    exact ⟨(c.numericType L).2, List.getElem?_set_self h.register1.lt, Mem.numericType_sameButUnion c,
      hoperand.imp_right fun h => ⟨Or.inl rfl, h⟩⟩
  · rw [List.getElem?_set_ne h1]
    exact ⟨e, hj, Mem.SameButUnion.refl e, Or.inl rfl⟩

end ring

/-- A constant that the cache has for the member that the flags announce is what is stored. -/
theorem constant_eq_of_related {m : Machine ρ} {s : Strict ρ} (hR : Related m s) (ha : s.Announced)
    {i : ℕ} {e : Mem} (he : m.mems[i]? = some e) :
    (e.flags.has MEM_Int = true → m.cache.cache_state.is_constant_u_i i = true →
      m.cache.cache_state.get_constant_u_i i = e.u_i) ∧
    (e.flags.has MEM_Real = true → m.cache.cache_state.is_constant_u_r i = true →
      m.cache.cache_state.get_constant_u_r i = e.u_r) := by
  have he' : s.mems[i]? = some e := hR.mems ▸ he
  have hslot := hR.slots i e he'
  obtain ⟨hint, hreal⟩ := ha i e he'
  constructor
  · intro hf hconst
    rw [← Cache.get_u_i_spec hslot (hint hf)]
    exact (if_pos hconst).symm
  · intro hf hconst
    rw [← Cache.get_u_r_spec hslot (hreal hf)]
    exact (if_pos hconst).symm

/-- The opcodes store what they are to store, where without a real among the operands a real result
becomes the integer that it is. -/
theorem calculates_of_isRingOp {L : CLib ρ} (hL : L.ReadsIntegers) {m : Machine ρ} (hs : m.Sound)
    {enc : ℕ} {op : Op} {c d : Mem} (h : Operands enc op m.mems m.nMem c d)
    (hop : IsRingOp op.opcode) :
    ∃ m' x, Calculates convertedUnlessReal L m op c d m' x := by
  obtain ⟨x, hx, hfits, hres⟩ := isResult_arithmetic hL h.value1 h.value2 hop
  obtain ⟨written, hR, hann⟩ := hs
  obtain ⟨e, he⟩ := h.output (L := L)
  obtain ⟨s', hlead, hmems, -, hann'⟩ := leads_arithmetic (s := m.strict written) hann h hx he
  obtain ⟨m', hrun, hR'⟩ := hlead m hR
  have hmems' : m'.mems = (filledMems L op m.mems c d).set op.p3.toNat
      (e.store (Mem.pySetNull L) x m.rest).1 := hR'.mems.trans hmems
  have hlt := (List.getElem?_eq_some_iff.mp he).1
  refine ⟨m', x, hrun, ?_, hres, fun j a hj ha => ?_, fun a ha => ?_⟩
  · rw [hmems']
    exact ⟨_, List.getElem?_set_self hlt, number_store hfits e _ (has_null_pySetNull L e _)⟩
  · rw [hmems', List.getElem?_set_ne (Ne.symm hj)]
    exact filledMems_others h ha
  · exact constant_eq_of_related hR' hann' ha

/-- `2 + 3` is the integer `5`. -/
theorem calculates_two_three :
    ∃ m' x, Calculates convertedUnlessReal CLib.decimal64 (threeRegisters (Mem.ofInt 2) (Mem.ofInt 3))
      (arithmeticOp .Add) (Mem.ofInt 2) (Mem.ofInt 3) m' x :=
  calculates_of_isRingOp readsIntegers_decimal64 (Machine.Sound.fresh _ _ _)
    (operands_threeRegisters .Add (Mem.isValue_ofInt 2) (Mem.isValue_ofInt 3)) (by decide)

/-- The text `abc` plus `1` is the integer `1`, though only one operand is an integer. -/
theorem not_calculates_text :
    (threeRegisters (Mem.ofText [97, 98, 99]) (Mem.ofInt 1)).Sound ∧
    Operands SQLITE_UTF8 (arithmeticOp .Add) (threeRegisters (Mem.ofText [97, 98, 99])
      (Mem.ofInt 1)).mems 3 (Mem.ofText [97, 98, 99]) (Mem.ofInt 1) ∧
    ¬ ∃ m' x, Calculates neverConverted CLib.decimal64
      (threeRegisters (Mem.ofText [97, 98, 99]) (Mem.ofInt 1)) (arithmeticOp .Add)
      (Mem.ofText [97, 98, 99]) (Mem.ofInt 1) m' x := by
  have hpy : (execute (OP_Add_Subtract_Multiply_Divide_Remainder CLib.decimal64
      (arithmeticOp .Add)) (threeRegisters (Mem.ofText [97, 98, 99]) (Mem.ofInt 1))).map
        (fun x => (x.2.1[3]?).bind Mem.number) = .ok (some (.int 1)) := by
    decide +kernel
  refine ⟨Machine.Sound.fresh _ _ _,
    operands_threeRegisters .Add (Mem.isValue_ofText _) (Mem.isValue_ofInt 1), ?_⟩
  rintro ⟨m', x, hrun, ⟨e, he, hx⟩, hres, -⟩
  unfold execute at hpy
  rw [hrun] at hpy
  have hread : (m'.mems[3]?).bind Mem.number = some (.int 1) := Except.ok.inj hpy
  have hcell : m'.mems[3]? = some e := he
  rw [hcell] at hread
  have hone : x = .int 1 := Option.some.inj (hx.symm.trans hread)
  have hop : (Mem.ofText [97, 98, 99]).operand CLib.decimal64 = .other 0 := by decide +kernel
  have hreal := hres.float (by decide) (by decide) fun ⟨a, rA, b, rB, ha, _⟩ => by
    rw [hop] at ha
    cases ha
  rw [hone] at hreal
  revert hreal
  decide +kernel

end SQPyte
