import SQPyte.Vdbe.Op
import SQPyte.Mem.Allocation
import SQPyte.Mem.Compare

/-!
# The comparison opcodes

`OP_Ne_Eq_Gt_Le_Lt_Ge` is the Python translation of the six comparison opcodes, and
`impl_OP_Ne_Eq_Gt_Le_Lt_Ge` the C version it replaces. The translation has a fast path for numbers
(`compareFast`) that C does not have. Its slow path (`compareSlow`) goes through the same steps as C:
both operands are converted as the affinity asks, implied zeros are stored, the two are compared, and
the flags are put back.
-/

namespace SQPyte

open Commands

/-- The opcode is one of the six. -/
def Opcode.isComparison (opcode : Opcode) : Bool :=
  opcode ∈ [Opcode.Eq, .Ne, .Lt, .Le, .Gt, .Ge]

/-- The opcode orders its operands. -/
def Opcode.isOrder (opcode : Opcode) : Bool := opcode ∈ [Opcode.Lt, .Le, .Gt, .Ge]

/-- `_cmp_depending_on_opcode`, for values with the comparisons `eq`, `lt` and `le`. -/
def _cmp_depending_on_opcode {α : Type} (eq lt le : α → α → Bool) (opcode : Opcode) (a b : α) :
    Bool :=
  match opcode with
  | .Eq => eq a b
  | .Ne => !eq a b
  | .Lt => lt a b
  | .Le => le a b
  | .Gt => lt b a
  | _ => le b a

/-- The relation of the opcode, as a condition on the sign of a comparison. -/
def relation (opcode : Opcode) (res : ℤ) : Bool :=
  match opcode with
  | .Eq => res == 0
  | .Ne => res != 0
  | .Lt => decide (res < 0)
  | .Le => decide (res ≤ 0)
  | .Gt => decide (res > 0)
  | _ => decide (res ≥ 0)

/-- A truth value as an integer. -/
def truth (b : Bool) : ℤ := if b then 1 else 0

/-- Both operands are NULL, and equal under `SQLITE_NULLEQ`. -/
def nullsEqual (flags1 flags3 : Flags) : Bool :=
  flags1.has MEM_Null && flags3.has MEM_Null && !flags3.has MEM_Cleared

/-- The operand has a text and no number. -/
def textOnly (flags : Flags) : Bool := flags &&& (MEM_Int ||| MEM_Real ||| MEM_Str) == MEM_Str

/-- The operand has a number and no text. -/
def numberOnly (flags : Flags) : Bool := !flags.has MEM_Str && flags.has (MEM_Int ||| MEM_Real)

variable {ρ : Type} (L : CLib ρ)

/-! ## The Python translation -/

/-- The fast path for numbers. -/
def compareFast (opcode : Opcode) (pIn1 pIn3 : ℕ) (flags1 flags3 : Flags) : MemM ρ Bool := do
  if Flags.has (flags1 &&& flags3) MEM_Int then
    let i1 ← get_u_i pIn1
    let i3 ← get_u_i pIn3
    return _cmp_depending_on_opcode (fun a b : ℤ => a == b) (fun a b => decide (a < b))
      (fun a b => decide (a ≤ b)) opcode i3 i1
  else
    let n1 ← number pIn1 flags1
    let n3 ← number pIn3 flags3
    return _cmp_depending_on_opcode Binary64.feq Binary64.lt Binary64.le opcode n3 n1
where
  /-- An operand as a double. -/
  number (pIn : ℕ) (flags : Flags) : MemM ρ Binary64 := do
    if flags.has MEM_Int then
      return Binary64.ofInt (← get_u_i pIn)
    else
      pyAssert (flags.has MEM_Real)
      get_u_r pIn

/-- The conversion of an operand: the flags it has then, and whether they can have changed. -/
def convertOperand (affinity enc : ℕ) (pIn : ℕ) (flags : Flags) : MemM ρ (Flags × Bool) :=
  if affinity ≥ SQLITE_AFF_NUMERIC then
    if textOnly flags then do
      applyNumericAffinity L pIn false
      return (← get_flags pIn, true)
    else return (flags, false)
  else if affinity = SQLITE_AFF_TEXT then
    if numberOnly flags then do
      let _ ← sqlite3VdbeMemStringify L pIn enc true
      return (← get_flags pIn, true)
    else return (flags, false)
  else return (flags, false)

/-- The implied zeros of an operand are stored: the flags to put back, and whether the flags can
have changed. -/
def expandOperand (pIn : ℕ) (flags orig_flags : Flags) : MemM ρ (Flags × Bool) :=
  if flags.has MEM_Zero then do
    let _ ← sqlite3VdbeMemExpandBlob L pIn
    return (orig_flags &&& ~~~MEM_Zero, true)
  else return (orig_flags, false)

/-- The slow path: the result, the flags to put back, and whether the flags can have changed. -/
def compareSlow (enc : ℕ) (op : Op) (pIn1 pIn3 : ℕ) (flags1 flags3 : Flags) :
    MemM ρ (Bool × Flags × Flags × Bool) := do
  let (new1, converted1) ← convertOperand L op.affinity enc pIn1 flags1
  let (new3, converted3) ← convertOperand L op.affinity enc pIn3 flags3
  pyAssert op.p4_is_coll_or_null
  let (orig_flags1, expanded1) ← expandOperand L pIn1 new1 flags1
  let (orig_flags3, expanded3) ← expandOperand L pIn3 new3 flags3
  let res ← sqlite3MemCompare pIn3 pIn1 op.p4_pColl
  return (relation op.opcode res, orig_flags1, orig_flags3,
    converted1 || converted3 || expanded1 || expanded3)

/-- The result is stored in `P2` or decides the jump. -/
def deliver (op : Op) (pc res : ℤ) : MemM ρ ℤ := do
  if op.p5_has SQLITE_STOREP2 then
    let pOut ← op.mem_of_p2
    MemSetTypeFlag pOut MEM_Int
    set_u_i pOut res
    return pc
  else return if res ≠ 0 then op.p2as_pc else pc

/-- `OP_Ne_Eq_Gt_Le_Lt_Ge`. -/
def OP_Ne_Eq_Gt_Le_Lt_Ge (enc : ℕ) (pc : ℤ) (rc : ℕ) (op : Op) : MemM ρ (ℤ × ℕ) := do
  let pIn1 ← op.mem_of_p1
  let flags1 ← get_flags pIn1
  let pIn3 ← op.mem_of_p3
  let flags3 ← get_flags pIn3
  if Flags.has (flags1 ||| flags3) MEM_Null then
    if op.p5_has SQLITE_NULLEQ then
      pyAssert (op.opcode == .Eq || op.opcode == .Ne)
      pyAssert (!flags1.has MEM_Cleared)
      pyAssert (!op.p5_has SQLITE_JUMPIFNULL)
      -- The opcode is not looked at again: `res` is 1 if the operands are not equal.
      let pc ← deliver op pc (if nullsEqual flags1 flags3 then 0 else 1)
      return (pc, rc)
    else if op.p5_has SQLITE_STOREP2 then
      let pOut ← op.mem_of_p2
      MemSetTypeFlag pOut MEM_Null
      return (pc, rc)
    else return (if op.p5_has SQLITE_JUMPIFNULL then op.p2as_pc else pc, rc)
  else if op.affinity ≥ SQLITE_AFF_NUMERIC &&
      Flags.has (flags1 ||| flags3) (MEM_Int ||| MEM_Real) then
    let res ← compareFast op.opcode pIn1 pIn3 flags1 flags3
    let pc ← deliver op pc (truth res)
    return (pc, rc)
  else
    let (res, orig_flags1, orig_flags3, changed) ← compareSlow L enc op pIn1 pIn3 flags1 flags3
    let pc ← deliver op pc (truth res)
    if changed then
      set_flags pIn1 orig_flags1
      set_flags pIn3 orig_flags3
    return (pc, rc)

/-! ## The C version -/

/-- `aMem[i]`. -/
def aMem (mems : List Mem) (i : ℤ) : Except Exc Mem :=
  match mems[i.toNat]? with
  | some c => .ok c
  | none => .error .memory

/-- A routine on `aMem[i]`. -/
def onMem {α : Type} (mems : List Mem) (i : ℤ) (routine : Mem → Except Exc (α × Mem × ρ)) :
    Except Exc (α × List Mem × ρ) := do
  let (a, c, r) ← routine (← aMem mems i)
  return (a, mems.set i.toNat c, r)

/-- The conversion of an operand, decided by `flags`. -/
def c_convertOperand (affinity enc : ℕ) (flags : Flags) (pIn : Mem) (r : ρ) :
    Except Exc (Mem × ρ) :=
  if affinity ≥ SQLITE_AFF_NUMERIC then
    .ok (if textOnly flags then pIn.applyNumericAffinity L false else pIn, r)
  else if affinity = SQLITE_AFF_TEXT then
    if numberOnly flags then (pIn.sqlite3VdbeMemStringify L enc true r).map Prod.snd
    else .ok (pIn, r)
  else .ok (pIn, r)

/-- The implied zeros of an operand are stored if `flags` say that there are any. -/
def c_expandOperand (flags : Flags) (pIn : Mem) (r : ρ) : Except Exc (Mem × ρ) :=
  if flags.has MEM_Zero then (pIn.sqlite3VdbeMemExpandBlob L r).map Prod.snd else .ok (pIn, r)

/-- The flags to put back. -/
def clearZero (flags orig_flags : Flags) : Flags :=
  if flags.has MEM_Zero then orig_flags &&& ~~~MEM_Zero else orig_flags

/-- The end of the C version: the result is stored in `P2` or decides the jump, and the flags of the
operands are put back. -/
def c_deliver (op : Op) (pc : ℤ) (rc : ℕ) (res : Bool) (flags1 flags3 : Flags) (mems : List Mem)
    (r : ρ) : Except Exc ((ℤ × ℕ) × List Mem × ρ) := do
  let setFlags (flags : Flags) (c : Mem) (r : ρ) : Except Exc (Unit × Mem × ρ) :=
    .ok ((), { c with flags := flags }, r)
  let (pc, mems, r) ←
    if op.p5_has SQLITE_STOREP2 then
      onMem mems op.p2 fun pOut => .ok (pc, { pOut with
        flags := withTypeFlag pOut.flags MEM_Int, u := BitVec.ofInt 64 (truth res) }, r)
    else .ok (if res then op.p2as_pc else pc, mems, r)
  let (_, mems, r) ← onMem mems op.p1 (setFlags flags1 · r)
  let (_, mems, r) ← onMem mems op.p3 (setFlags flags3 · r)
  return ((pc, rc), mems, r)

/-- `impl_OP_Ne_Eq_Gt_Le_Lt_Ge`. -/
def impl_OP_Ne_Eq_Gt_Le_Lt_Ge (V : CVdbe ρ) (enc : ℕ) (pc : ℤ) (rc : ℕ) (op : Op)
    (mems : List Mem) (r : ρ) : Except Exc ((ℤ × ℕ) × List Mem × ρ) := do
  let flags1 := (← aMem mems op.p1).flags
  let flags3 := (← aMem mems op.p3).flags
  if Flags.has (flags1 ||| flags3) MEM_Null then
    if op.p5_has SQLITE_NULLEQ then
      let res := if nullsEqual flags1 flags3 then 0 else 1
      c_deliver op pc rc (relation op.opcode res) flags1 flags3 mems r
    else if op.p5_has SQLITE_STOREP2 then
      let (_, mems, r) ← onMem mems op.p2 fun pOut =>
        .ok ((), { pOut with flags := withTypeFlag pOut.flags MEM_Null }, r)
      return ((pc, rc), mems, r)
    else return ((if op.p5_has SQLITE_JUMPIFNULL then op.p2as_pc else pc, rc), mems, r)
  else
    let convert (c : Mem) (r : ρ) : Except Exc (Unit × Mem × ρ) :=
      (c_convertOperand L op.affinity enc c.flags c r).map ((), ·)
    let (_, mems, r) ← onMem mems op.p1 (convert · r)
    let (_, mems, r) ← onMem mems op.p3 (convert · r)
    let expand (orig_flags : Flags) (c : Mem) (r : ρ) : Except Exc (Flags × Mem × ρ) :=
      (c_expandOperand L c.flags c r).map (clearZero c.flags orig_flags, ·)
    let (flags1, mems, r) ← onMem mems op.p1 (expand flags1 · r)
    let (flags3, mems, r) ← onMem mems op.p3 (expand flags3 · r)
    if V.mallocFailed r then
      let (rc, mems, r) := V.gotoNoMem mems r
      return ((pc, rc), mems, r)
    else
      let res := c_sqlite3MemCompare (← aMem mems op.p3) (← aMem mems op.p1) op.p4_pColl
      c_deliver op pc rc (relation op.opcode res) flags1 flags3 mems r

end SQPyte
