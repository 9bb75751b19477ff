import SQPyte.Library.Neighbours
import SQPyte.Library.Truncation
import SQPyte.Mem.Numeric
import SQPyte.Vdbe.NullComparison
import SQPyte.Vdbe.Statement

/-!
# Seeks

`OP_SeekLT`, `OP_SeekLE`, `OP_SeekGE` and `OP_SeekGT`. On a table, the key in `r[P3]` becomes an
integer, and where that is not the key itself the opcode becomes the one that says the same of the
integer (`seeks_adjust`). The b-tree then comes to rest on a neighbour of that integer, and at most
one step leads to the row (`seekMove_spec`).

The routines of the b-tree are a parameter. `Btree.Correct` says what a seek relies on.
-/

namespace SQPyte

open Commands

/-- `CACHE_STALE`. -/
def CACHE_STALE : ℕ := 0

/-- `struct UnpackedRecord`. -/
structure UnpackedRecord where
  /-- Collation and sort order of each field. -/
  pKeyInfo : List (Option CollSeq × Bool)
  /-- Number of entries in `aMem`. -/
  nField : ℕ
  /-- Comparison result if keys are equal. -/
  default_rc : ℤ
  /-- Values. -/
  aMem : List Mem

/-- `struct VdbeCursor`. The type `β` is that of the cursors of the b-tree. -/
structure VdbeCursor (β : Type) where
  /-- The cursor structure of the backend. -/
  pCursor : Option β
  /-- Info about index keys needed by index cursors. -/
  pKeyInfo : List (Option CollSeq × Bool)
  /-- Register holding pseudotable content. -/
  pseudoTableReg : ℤ
  /-- True if pointing to a row with no data. -/
  nullRow : Bool
  /-- A call to `sqlite3BtreeMoveto()` is needed. -/
  deferredMoveto : Bool
  /-- True if a table requiring integer keys. -/
  isTable : Bool
  /-- True if the underlying table is `BTREE_UNORDERED`. -/
  isOrdered : Bool
  /-- Argument to the deferred `sqlite3BtreeMoveto()`. -/
  movetoTarget : ℤ
  /-- The generation of the row cache. -/
  cacheStatus : ℕ

/-- The cursors of a statement, with the rest of the state. -/
structure Cursors (β κ : Type) where
  /-- `p->apCsr`. -/
  apCsr : List (Option (VdbeCursor β))
  /-- Everything else. -/
  rest : κ

/-- The routines of `btree.c` that a seek calls, each on a cursor and everything else. -/
structure Btree (β κ : Type) where
  /-- `sqlite3BtreeMovetoUnpacked`, to a record or else to a rowid: `rc` and `*pRes`. -/
  MovetoUnpacked : Option UnpackedRecord → ℤ → β → κ → (ℕ × ℤ) × β × κ
  /-- `sqlite3BtreeNext`, from `*pRes`. -/
  Next : ℤ → β → κ → (ℕ × ℤ) × β × κ
  /-- `sqlite3BtreePrevious`, from `*pRes`. -/
  Previous : ℤ → β → κ → (ℕ × ℤ) × β × κ
  /-- `eState == CURSOR_VALID`. -/
  valid : β → Bool

variable {β κ : Type}

/-- `p->apCsr[i] = pC`. -/
def Cursors.set (r : Cursors β κ) (i : ℤ) (pC : VdbeCursor β) : Cursors β κ :=
  { r with apCsr := r.apCsr.set i.toNat (some pC) }

variable (L : CLib (Cursors β κ)) (B : Btree β κ) (OP_SeekLT : ℕ)

/-! ## The opcodes -/

/-- The number of a seek opcode. The build chooses that of `OP_SeekLT`. -/
def Opcode.seekNumber : Opcode → ℕ
  | .SeekLE => OP_SeekLT + 1
  | .SeekGE => OP_SeekLT + 2
  | .SeekGT => OP_SeekLT + 3
  | _ => OP_SeekLT

/-- The cursor of the opcode, with that of the b-tree, under the assertions of the opcode. -/
def seekCursor (op : Op) (r : Cursors β κ) : Except Exc (VdbeCursor β × β) :=
  if 0 ≤ op.p1 ∧ op.p1 < r.apCsr.length ∧ op.p2 ≠ 0 then
    match r.apCsr[op.p1.toNat]? with
    | some (some pC) =>
      match pC.pCursor with
      | some pCursor =>
        if pC.pseudoTableReg = 0 ∧ pC.isOrdered then .ok (pC, pCursor) else .error .assertion
      | none => .error .assertion
    | _ => .error .assertion
  else .error .assertion

/-- The opcode that says of `iKey` what `oc` says of the real key. -/
def seekAdjust (oc : ℕ) (iKey : ℤ) (key : Binary64) : ℕ :=
  if key.lt (Binary64.ofInt iKey) then
    if oc % 2 = Opcode.SeekGT.seekNumber OP_SeekLT % 2 then oc - 1 else oc
  else if (Binary64.ofInt iKey).lt key then
    if oc % 2 = Opcode.SeekLT.seekNumber OP_SeekLT % 2 then oc + 1 else oc
  else oc

/-- The end of the opcode: whether it jumps. -/
def seekJump (pc : ℕ) (op : Op) (res : ℤ) : Except Exc Exit :=
  if 0 < op.p2 then .ok (.next (if res ≠ 0 then op.p2.toNat else pc + 1) .ok) else .error .assertion

/-- What `sqlite3BtreeNext` or `sqlite3BtreePrevious` is followed by. -/
def seekArrive (pc : ℕ) (op : Op) (pC : VdbeCursor β) (x : (ℕ × ℤ) × β × κ) :
    Except Exc (Exit × VdbeCursor β × κ) :=
  let ((rc, res), pCursor, w) := x
  let pC := { pC with pCursor := some pCursor }
  if rc ≠ SQLITE_OK then .ok (.abort_due_to_error rc, pC, w)
  else (seekJump pc op res).map (·, pC, w)

/-- The step away from the neighbour of the key, and the end of the opcode. -/
def seekStep (oc pc : ℕ) (op : Op) (res : ℤ) (pC : VdbeCursor β) (pCursor : β) (w : κ) :
    Except Exc (Exit × VdbeCursor β × κ) :=
  if Opcode.SeekGE.seekNumber OP_SeekLT ≤ oc then
    if res < 0 ∨ (res = 0 ∧ oc = Opcode.SeekGT.seekNumber OP_SeekLT) then
      seekArrive pc op pC (B.Next 0 pCursor w)
    else (seekJump pc op 0).map (·, pC, w)
  else
    if 0 < res ∨ (res = 0 ∧ oc = Opcode.SeekLT.seekNumber OP_SeekLT) then
      seekArrive pc op pC (B.Previous 0 pCursor w)
    else (seekJump pc op (if B.valid pCursor then 0 else 1)).map (·, pC, w)

/-- The movement of the cursor, which is the same in both versions. -/
def seekMove (oc : ℕ) (pIdxKey : Option UnpackedRecord) (iKey : ℤ) (pc : ℕ) (op : Op)
    (r : Cursors β κ) : Except Exc (Exit × Cursors β κ) := do
  let (pC, pCursor) ← seekCursor op r
  let ((rc, res), pCursor, w) := B.MovetoUnpacked pIdxKey iKey pCursor r.rest
  let pC := { pC with
    pCursor := some pCursor
    movetoTarget := if pIdxKey.isNone then iKey else pC.movetoTarget }
  if rc ≠ SQLITE_OK then
    return (.abort_due_to_error rc, { r with rest := w }.set op.p1 pC)
  else
    let pC := { pC with deferredMoveto := false, cacheStatus := CACHE_STALE }
    let (exit, pC, w) ← seekStep B OP_SeekLT oc pc op res pC pCursor w
    return (exit, { r with rest := w }.set op.p1 pC)

/-- The record that an index is searched for. -/
def seekRecord (oc : ℕ) (op : Op) (pC : VdbeCursor β) (mems : List Mem) :
    Except Exc UnpackedRecord :=
  match op.p4 with
  | .INT32 nField =>
    if 0 < nField then .ok ⟨pC.pKeyInfo, (BitVec.ofInt 16 nField).toNat,
      if (oc - OP_SeekLT) % 2 = 1 then -1 else 1, mems.drop op.p3.toNat⟩
    else .error .assertion
  | _ => .error .assertion

/-- The key of a table seek: the opcode number and the integer to search for, unless the key is no
number. -/
def seekKey {ρ : Type} (L : CLib ρ) (op : Op) : MemM ρ (Option (ℕ × ℤ)) := do
  let oc := op.opcode.seekNumber OP_SeekLT
  let pIn3 ← op.mem_of_p3
  let flags3 ← get_flags pIn3
  if flags3 &&& (MEM_Int ||| MEM_Real ||| MEM_Str) = MEM_Str then
    applyNumericAffinity L pIn3 false
  let iKey ← sqlite3VdbeIntValue L pIn3
  if !flags3.has MEM_Int then
    if !flags3.has MEM_Real then return none
    else return some (seekAdjust OP_SeekLT oc iKey (← get_u_r pIn3), iKey)
  else return some (oc, iKey)

/-- `OP_SeekLT_SeekLE_SeekGE_SeekGT`. -/
def OP_SeekLT_SeekLE_SeekGE_SeekGT (pc : ℕ) (rc : ResultCode) (op : Op) :
    MemM (Cursors β κ) Exit := do
  let oc := op.opcode.seekNumber OP_SeekLT
  let pC ← other fun r =>
    (seekCursor op r).map fun x => (x.1, r.set op.p1 { x.1 with nullRow := false })
  if pC.isTable then
    match ← seekKey OP_SeekLT L op with
    | none => return .next op.p2.toNat rc
    | some (oc, iKey) => other (seekMove B OP_SeekLT oc none iKey pc op)
  else
    let _ ← ExpandBlob L (← op.mem_of_p3)
    c_mems fun mems r => do
      let record ← seekRecord OP_SeekLT oc op pC mems
      let (exit, r) ← seekMove B OP_SeekLT oc (some record) 0 pc op r
      return (exit, mems, r)

/-! ## The C version -/

/-- The key of a table seek in `sqpyte.c`. -/
def c_seekKey {ρ : Type} (L : CLib ρ) (op : Op) (mems : List Mem) (r : ρ) :
    Except Exc (Option (ℕ × ℤ) × List Mem × ρ) := do
  let oc := op.opcode.seekNumber OP_SeekLT
  let (_, mems, r) ← onMem mems op.p3 fun pIn3 =>
    .ok ((), if pIn3.flags &&& (MEM_Int ||| MEM_Real ||| MEM_Str) = MEM_Str then
      pIn3.applyNumericAffinity L false else pIn3, r)
  let pIn3 ← aMem mems op.p3
  let iKey := pIn3.sqlite3VdbeIntValue L
  if !pIn3.flags.has MEM_Int then
    if !pIn3.flags.has MEM_Real then return (none, mems, r)
    else return (some (seekAdjust OP_SeekLT oc iKey pIn3.u_r, iKey), mems, r)
  else return (some (oc, iKey), mems, r)

/-- `impl_OP_SeekLT_SeekLE_SeekGE_SeekGT`. -/
def impl_OP_SeekLT_SeekLE_SeekGE_SeekGT (pc : ℕ) (rc : ResultCode) (op : Op) (mems : List Mem)
    (r : Cursors β κ) : Except Exc (Exit × List Mem × Cursors β κ) := do
  let oc := op.opcode.seekNumber OP_SeekLT
  let (pC, _) ← seekCursor op r
  let r := r.set op.p1 { pC with nullRow := false }
  if pC.isTable then
    let (key, mems, r) ← c_seekKey OP_SeekLT L op mems r
    match key with
    | none => return (.next op.p2.toNat rc, mems, r)
    | some (oc, iKey) =>
      let (exit, r) ← seekMove B OP_SeekLT oc none iKey pc op r
      return (exit, mems, r)
  else
    let (_, mems, r) ← onMem mems op.p3 fun pIn3 =>
      pIn3.sqlite3VdbeMemExpandBlob L r
    let record ← seekRecord OP_SeekLT oc op pC mems
    let (exit, r) ← seekMove B OP_SeekLT oc (some record) 0 pc op r
    return (exit, mems, r)

/-! ## What a seek is for -/

/-- The opcode is one of the four seeks. -/
def Opcode.IsSeek (opcode : Opcode) : Prop :=
  opcode = .SeekLT ∨ opcode = .SeekLE ∨ opcode = .SeekGE ∨ opcode = .SeekGT

/-- The row `x` is the one that a seek goes to. -/
def Opcode.Seeks (opcode : Opcode) (rows : Finset ℤ) (key : ℚ) (x : ℤ) : Prop :=
  match opcode with
  | .SeekLT => IsGreatest {z : ℤ | z ∈ rows ∧ (z : ℚ) < key} x
  | .SeekLE => IsGreatest {z : ℤ | z ∈ rows ∧ (z : ℚ) ≤ key} x
  | .SeekGE => IsLeast {z : ℤ | z ∈ rows ∧ key ≤ z} x
  | .SeekGT => IsLeast {z : ℤ | z ∈ rows ∧ key < z} x
  | _ => False

/-- The opcode that says of an integer what the given one says of a key that compares to it so. -/
def Opcode.adjust : Opcode → Ordering → Opcode
  | .SeekLE, .lt => .SeekLT
  | .SeekGT, .lt => .SeekGE
  | .SeekLT, .gt => .SeekLE
  | .SeekGE, .gt => .SeekGT
  | opcode, _ => opcode

/-- The opcode for an adjusted key is one of the four as well. -/
theorem Opcode.IsSeek.adjust {opcode : Opcode} (h : opcode.IsSeek) (o : Ordering) :
    (opcode.adjust o).IsSeek := by
  rcases h with rfl | rfl | rfl | rfl <;> cases o <;> simp [Opcode.adjust, Opcode.IsSeek]

/-- A key less than one away from an integer has the same rows before and behind it, once the
comparison is adjusted. -/
theorem seeks_adjust {opcode : Opcode} (hseek : opcode.IsSeek) {rows : Finset ℤ} {key : ℚ}
    {iKey x : ℤ} (hlo : (iKey : ℚ) - 1 < key) (hhi : key < iKey + 1) :
    (opcode.adjust (compare key iKey)).Seeks rows iKey x ↔ opcode.Seeks rows key x := by
  -- The key is between `iKey - 1` and `iKey + 1`; the cases are those of the code's comparison.
  rcases lt_trichotomy key iKey with hlt | rfl | hgt
  · -- The integers below the key are those below `iKey`.
    have hbelow : ∀ z : ℤ, (z : ℚ) < iKey ↔ (z : ℚ) ≤ key := fun z => by
      constructor
      · intro h
        have : z ≤ iKey - 1 := by
          have : z < iKey := by exact_mod_cast h
          omega
        have : (z : ℚ) ≤ iKey - 1 := by exact_mod_cast this
        exact this.trans hlo.le
      · exact fun h => h.trans_lt hlt
    have hne : ∀ z : ℤ, (z : ℚ) ≤ key ↔ (z : ℚ) < key := fun z => by
      refine ⟨fun h => h.lt_of_ne ?_, le_of_lt⟩
      rintro rfl
      have h1 : (iKey : ℤ) - 1 < z := by exact_mod_cast hlo
      have h2 : z < iKey := by exact_mod_cast hlt
      omega
    have hcmp : compare key (iKey : ℚ) = .lt := compare_lt_iff_lt.mpr hlt
    have hge : ∀ z : ℤ, key ≤ z ↔ (iKey : ℚ) ≤ z := fun z => by
      rw [← not_lt, ← not_lt, hbelow, hne]
    have hgt : ∀ z : ℤ, key < z ↔ (iKey : ℚ) ≤ z := fun z => by
      rw [← not_le, ← hbelow, not_lt]
    rw [hcmp]
    rcases hseek with rfl | rfl | rfl | rfl
    · simp only [Opcode.adjust, Opcode.Seeks, hbelow, hne]
    · simp only [Opcode.adjust, Opcode.Seeks, hbelow]
    · simp only [Opcode.adjust, Opcode.Seeks, hge]
    · simp only [Opcode.adjust, Opcode.Seeks, hgt]
  · rw [compare_eq_iff_eq.mpr rfl]
    rcases hseek with rfl | rfl | rfl | rfl <;> rfl
  · -- The integers above the key are those above `iKey`.
    have habove : ∀ z : ℤ, (iKey : ℚ) < z ↔ key ≤ z := fun z => by
      constructor
      · intro h
        have : iKey + 1 ≤ z := by
          have : iKey < z := by exact_mod_cast h
          omega
        have : (iKey : ℚ) + 1 ≤ z := by exact_mod_cast this
        exact hhi.le.trans this
      · exact fun h => hgt.trans_le h
    have hne : ∀ z : ℤ, key ≤ z ↔ key < z := fun z => by
      refine ⟨fun h => h.lt_of_ne ?_, le_of_lt⟩
      rintro rfl
      have h1 : iKey < z := by exact_mod_cast hgt
      have h2 : z < iKey + 1 := by exact_mod_cast hhi
      omega
    have hcmp : compare key (iKey : ℚ) = .gt := compare_gt_iff_gt.mpr hgt
    have hlt : ∀ z : ℤ, (z : ℚ) < key ↔ (z : ℚ) ≤ iKey := fun z => by
      rw [← not_le, ← habove, not_lt]
    have hle : ∀ z : ℤ, (z : ℚ) ≤ key ↔ (z : ℚ) ≤ iKey := fun z => by
      rw [← not_lt, ← not_lt, habove, hne]
    rw [hcmp]
    rcases hseek with rfl | rfl | rfl | rfl
    · simp only [Opcode.adjust, Opcode.Seeks, hlt]
    · simp only [Opcode.adjust, Opcode.Seeks, hle]
    · simp only [Opcode.adjust, Opcode.Seeks, habove]
    · simp only [Opcode.adjust, Opcode.Seeks, habove, hne]

/-! ## The movement -/

open Neighbours

/-- What a seek relies on in `btree.c`: the b-tree holds the rowids `rows b`, and its cursor is on
the row `row b`, if it is on any. -/
structure Btree.Correct (B : Btree β κ) (rows : β → Finset ℤ) (row : β → Option ℤ) : Prop where
  /-- A search comes to rest on a neighbour of its key, and tells on which side it is. -/
  moveto : ∀ iKey b w, -2^63 ≤ iKey → iKey < 2^63 → ∃ res b' w',
    B.MovetoUnpacked none iKey b w = ((SQLITE_OK, res), b', w') ∧ rows b' = rows b ∧
      Rests (rows b) iKey (row b') res
  /-- A step upwards reports the end. -/
  next : ∀ b w, ∃ res b' w', B.Next 0 b w = ((SQLITE_OK, res), b', w') ∧ rows b' = rows b ∧
    StepsUp (rows b) (row b) (row b') ∧ (res ≠ 0 ↔ row b' = none)
  /-- A step downwards reports the end. -/
  previous : ∀ b w, ∃ res b' w', B.Previous 0 b w = ((SQLITE_OK, res), b', w') ∧
    rows b' = rows b ∧ StepsDown (rows b) (row b) (row b') ∧ (res ≠ 0 ↔ row b' = none)
  /-- A valid cursor is on a row. -/
  valid : ∀ b, B.valid b = true ↔ row b ≠ none

variable {B} {rows : β → Finset ℤ} {row : β → Option ℤ} {op : Op} {pc : ℕ} {pC : VdbeCursor β} {b : β}
  {w : κ} {opcode : Opcode} {iKey res : ℤ}

/-- The end of a seek whose b-tree cursor is on the row `pos`. -/
def seekExit (pc : ℕ) (op : Op) (pos : Option ℤ) : Exit :=
  .next (if pos = none then op.p2.toNat else pc + 1) .ok

/-- The jump at the end of a seek. -/
theorem seekJump_eq (hp2 : 0 < op.p2) {pos : Option ℤ} (h : res ≠ 0 ↔ pos = none) :
    seekJump pc op res = .ok (seekExit pc op pos) := by
  unfold seekJump seekExit
  rw [if_pos hp2]
  by_cases hres : res ≠ 0
  · rw [if_pos hres, if_pos (h.mp hres)]
  · rw [if_neg hres, if_neg fun hpos => hres (h.mpr hpos)]

/-- The end of a seek that takes a step. -/
theorem seekArrive_eq (hp2 : 0 < op.p2) {pos : Option ℤ} (h : res ≠ 0 ↔ pos = none) :
    seekArrive pc op pC ((SQLITE_OK, res), b, w) =
      .ok (seekExit pc op pos, { pC with pCursor := some b }, w) := by
  unfold seekArrive
  dsimp only
  rw [if_neg (by decide), seekJump_eq hp2 h]
  rfl

/-- The step of `OP_SeekLT`: down, unless the search rests below the key. -/
theorem seekStep_SeekLT : seekStep B OP_SeekLT (Opcode.SeekLT.seekNumber OP_SeekLT) pc op res pC b w =
    if 0 < res ∨ res = 0 then seekArrive pc op pC (B.Previous 0 b w)
    else (seekJump pc op (if B.valid b then 0 else 1)).map (·, pC, w) := by
  simp [seekStep, Opcode.seekNumber]

/-- The step of `OP_SeekLE`: down, if the search rests above the key. -/
theorem seekStep_SeekLE : seekStep B OP_SeekLT (Opcode.SeekLE.seekNumber OP_SeekLT) pc op res pC b w =
    if 0 < res then seekArrive pc op pC (B.Previous 0 b w)
    else (seekJump pc op (if B.valid b then 0 else 1)).map (·, pC, w) := by
  simp [seekStep, Opcode.seekNumber]

/-- The step of `OP_SeekGE`: up, if the search rests below the key. -/
theorem seekStep_SeekGE : seekStep B OP_SeekLT (Opcode.SeekGE.seekNumber OP_SeekLT) pc op res pC b w =
    if res < 0 then seekArrive pc op pC (B.Next 0 b w)
    else (seekJump pc op 0).map (·, pC, w) := by
  simp [seekStep, Opcode.seekNumber]

/-- The step of `OP_SeekGT`: up, unless the search rests above the key. -/
theorem seekStep_SeekGT : seekStep B OP_SeekLT (Opcode.SeekGT.seekNumber OP_SeekLT) pc op res pC b w =
    if res < 0 ∨ res = 0 then seekArrive pc op pC (B.Next 0 b w)
    else (seekJump pc op 0).map (·, pC, w) := by
  simp [seekStep, Opcode.seekNumber]

variable (pc pC w) in
/-- From a neighbour of the key, the opcode gets to its row. -/
theorem seekStep_spec (hB : B.Correct rows row) (hseek : opcode.IsSeek) (hp2 : 0 < op.p2)
    (hpC : pC.pCursor = some b) {from_ : Finset ℤ} (hrows : rows b = from_)
    (h : Rests from_ iKey (row b) res) :
    ∃ b' w', seekStep B OP_SeekLT (opcode.seekNumber OP_SeekLT) pc op res pC b w =
        .ok (seekExit pc op (row b'), { pC with pCursor := some b' }, w') ∧
      rows b' = from_ ∧ ∀ x, row b' = some x ↔ opcode.Seeks from_ iKey x := by
  subst hrows
  have hsame : { pC with pCursor := some b } = pC := by rw [← hpC]
  -- Without a step, an upward seek is on its row.
  have hstay : 0 ≤ res → (seekJump pc op 0).map (·, pC, w) =
      .ok (seekExit pc op (row b), { pC with pCursor := some b }, w) := by
    intro hres
    have hjump : seekJump pc op 0 = .ok (seekExit pc op (row b)) :=
      seekJump_eq hp2 (by simp [h.ne_none hres])
    rw [hjump, hsame]
    rfl
  -- A downward seek looks whether the cursor is on any row.
  have hvalid : (seekJump pc op (if B.valid b then 0 else 1)).map (·, pC, w) =
      .ok (seekExit pc op (row b), { pC with pCursor := some b }, w) := by
    have hiff : (if B.valid b then 0 else 1 : ℤ) ≠ 0 ↔ row b = none := by
      have := hB.valid b
      by_cases hrow : row b = none <;> simp_all
    rw [seekJump_eq hp2 hiff, hsame]
    rfl
  obtain ⟨resN, bN, wN, hnext, hrowsN, hup, hendN⟩ := hB.next b w
  obtain ⟨resP, bP, wP, hprev, hrowsP, hdown, hendP⟩ := hB.previous b w
  have hgoN : seekArrive pc op pC ((SQLITE_OK, resN), bN, wN) =
      .ok (seekExit pc op (row bN), { pC with pCursor := some bN }, wN) := seekArrive_eq hp2 hendN
  have hgoP : seekArrive pc op pC ((SQLITE_OK, resP), bP, wP) =
      .ok (seekExit pc op (row bP), { pC with pCursor := some bP }, wP) := seekArrive_eq hp2 hendP
  rw [← hnext] at hgoN
  rw [← hprev] at hgoP
  rcases hseek with rfl | rfl | rfl | rfl <;> simp only [Opcode.Seeks, Int.cast_lt, Int.cast_le]
  · rw [seekStep_SeekLT]
    by_cases hres : 0 < res ∨ res = 0
    · rw [if_pos hres, hgoP]
      exact ⟨bP, wP, rfl, hrowsP, fun x => by rw [← h.lt hdown, if_pos hres]⟩
    · rw [if_neg hres, hvalid]
      exact ⟨b, w, rfl, rfl, fun x => by rw [← h.lt hdown, if_neg hres]⟩
  · rw [seekStep_SeekLE]
    by_cases hres : 0 < res
    · rw [if_pos hres, hgoP]
      exact ⟨bP, wP, rfl, hrowsP, fun x => by rw [← h.le hdown, if_pos hres]⟩
    · rw [if_neg hres, hvalid]
      exact ⟨b, w, rfl, rfl, fun x => by rw [← h.le hdown, if_neg hres]⟩
  · rw [seekStep_SeekGE]
    by_cases hres : res < 0
    · rw [if_pos hres, hgoN]
      exact ⟨bN, wN, rfl, hrowsN, fun x => by rw [← h.ge hup, if_pos hres]⟩
    · rw [if_neg hres, hstay (by omega)]
      exact ⟨b, w, rfl, rfl, fun x => by rw [← h.ge hup, if_neg hres]⟩
  · rw [seekStep_SeekGT]
    by_cases hres : res < 0 ∨ res = 0
    · rw [if_pos hres, hgoN]
      exact ⟨bN, wN, rfl, hrowsN, fun x => by rw [← h.gt hup, if_pos hres]⟩
    · rw [if_neg hres, hstay (by omega)]
      exact ⟨b, w, rfl, rfl, fun x => by rw [← h.gt hup, if_neg hres]⟩

/-- The cursor after a seek for the integer `iKey`. -/
def VdbeCursor.sought (pC : VdbeCursor β) (iKey : ℤ) (b : β) : VdbeCursor β :=
  { pC with
    pCursor := some b, movetoTarget := iKey, deferredMoveto := false, cacheStatus := CACHE_STALE }

variable (pc) in
/-- The cursor gets to the row of an integer key. -/
theorem seekMove_spec (hB : B.Correct rows row) (hseek : opcode.IsSeek) (hp2 : 0 < op.p2)
    {r : Cursors β κ} (hcursor : seekCursor op r = .ok (pC, b)) (hlo : -2^63 ≤ iKey)
    (hhi : iKey < 2^63) :
    ∃ b' w', seekMove B OP_SeekLT (opcode.seekNumber OP_SeekLT) none iKey pc op r =
        .ok (seekExit pc op (row b'), { r with rest := w' }.set op.p1 (pC.sought iKey b')) ∧
      rows b' = rows b ∧ ∀ x, row b' = some x ↔ opcode.Seeks (rows b) iKey x := by
  obtain ⟨res, b₁, w₁, hmove, hrows, hrests⟩ := hB.moveto iKey b r.rest hlo hhi
  obtain ⟨b', w', hstep, hrows', hrow⟩ := seekStep_spec OP_SeekLT pc { pC with
      pCursor := some b₁, movetoTarget := iKey, deferredMoveto := false, cacheStatus := CACHE_STALE }
    w₁ hB hseek hp2 rfl hrows hrests
  refine ⟨b', w', ?_, hrows', hrow⟩
  unfold seekMove
  rw [hcursor]
  simp only [bind, Except.bind, hmove]
  rw [if_neg (by decide)]
  simp only [Option.isNone_none, ↓reduceIte]
  rw [hstep]
  rfl

/-! ## Numeric keys -/

/-- The value of a numeric key. -/
def Mem.keyValue (c : Mem) : ℚ := if c.flags.has MEM_Int then c.u_i else c.u_r.value

/-- The key is an integer, or a real whose integer part has 64 bits. -/
def Mem.IsSeekKey (c : Mem) : Prop :=
  c.flags.has MEM_Int = true ∨ (c.flags.has MEM_Real = true ∧ c.u_r.isFinite = true ∧
    -2^63 ≤ c.u_r.trunc ∧ c.u_r.trunc < 2^63)

section keys

variable {ρ : Type} {L : CLib ρ} {c : Mem}

/-- A text that is no number. -/
theorem strOnly_iff (f : Flags) : f &&& (MEM_Int ||| MEM_Real ||| MEM_Str) = MEM_Str ↔
    f.has MEM_Str = true ∧ f.has MEM_Int = false ∧ f.has MEM_Real = false := by
  simp only [MEM_Int, MEM_Real, MEM_Str, Flags.has_MEM_Int, Flags.has_MEM_Real, Flags.has_MEM_Str]
  constructor
  · intro h
    have hbit : ∀ k, (f &&& (0x0004#16 ||| 0x0008#16 ||| 0x0002#16)).getLsbD k =
        (0x0002#16 : Flags).getLsbD k := fun k => by rw [h]
    have h1 := hbit 1
    have h2 := hbit 2
    have h3 := hbit 3
    simp at h1 h2 h3
    exact ⟨h1, h2, h3⟩
  · rintro ⟨h1, h2, h3⟩
    refine BitVec.eq_of_getLsbD_eq fun k hk => ?_
    rw [BitVec.getLsbD_eq_getElem (by decide)] at h1 h2 h3
    interval_cases k <;> simp [h1, h2, h3]

/-- What a numeric key is truncated to has 64 bits, and is within one of the key. -/
theorem Mem.IsSeekKey.intValue (h : c.IsSeekKey) :
    -2^63 ≤ c.intValue L ∧ c.intValue L < 2^63 ∧ (c.intValue L : ℚ) - 1 < c.keyValue ∧
      c.keyValue < c.intValue L + 1 := by
  unfold Mem.intValue Mem.keyValue
  by_cases hi : c.flags.has MEM_Int = true
  · rw [if_pos hi, if_pos hi]
    have := Mem.u_i_fits c
    refine ⟨by omega, by omega, by linarith, by linarith⟩
  · obtain ⟨hr, -, hlo, hhi⟩ := h.resolve_left hi
    have htrunc : c.u_r.toInt64 = c.u_r.trunc := if_pos ⟨hlo, hhi⟩
    rw [if_neg hi, if_neg hi, if_pos hr, htrunc]
    exact ⟨hlo, hhi, c.u_r.trunc_bounds⟩

/-- The opcode is adjusted as its key compares to the truncation. -/
theorem seekAdjust_eq {opcode : Opcode} (hseek : opcode.IsSeek) {x : Binary64}
    (hfin : x.isFinite = true) (hlo : -2^63 ≤ x.trunc) (hhi : x.trunc < 2^63) :
    seekAdjust OP_SeekLT (opcode.seekNumber OP_SeekLT) x.trunc x =
      (opcode.adjust (compare x.value x.trunc)).seekNumber OP_SeekLT := by
  have his := Binary64.is_ofInt_trunc hfin hlo hhi.le
  have hnan := Binary64.isNaN_of_isFinite hfin
  have hnan' := Binary64.isNaN_of_isFinite his.1
  have hlt := Binary64.lt_iff_value hnan hnan'
  have hgt := Binary64.lt_iff_value hnan' hnan
  rw [his.value_eq] at hlt hgt
  have h0 : OP_SeekLT % 2 ≠ (OP_SeekLT + 3) % 2 := by omega
  have h1 : (OP_SeekLT + 1) % 2 = (OP_SeekLT + 3) % 2 := by omega
  have h2 : (OP_SeekLT + 2) % 2 = OP_SeekLT % 2 := by omega
  unfold seekAdjust
  rcases lt_trichotomy x.value x.trunc with h | h | h
  · rw [if_pos (hlt.mpr h), compare_lt_iff_lt.mpr h]
    rcases hseek with rfl | rfl | rfl | rfl <;>
      simp [Opcode.adjust, Opcode.seekNumber, h0, h1, h2]
  · rw [if_neg fun hx => (hlt.mp hx).ne h, if_neg fun hx => (hgt.mp hx).ne h.symm,
      compare_eq_iff_eq.mpr h]
    rcases hseek with rfl | rfl | rfl | rfl <;> rfl
  · rw [if_neg fun hx => (hlt.mp hx).not_gt h, if_pos (hgt.mpr h), compare_gt_iff_gt.mpr h]
    rcases hseek with rfl | rfl | rfl | rfl <;>
      simp [Opcode.adjust, Opcode.seekNumber, h0.symm, h1, h2]

/-- The opcode that a numeric key is searched with, and the integer that is searched for. -/
def Mem.seekTarget (L : CLib ρ) (opcode : Opcode) (c : Mem) : Opcode × ℤ :=
  (opcode.adjust (compare c.keyValue (c.intValue L)), c.intValue L)

/-- A key that is exact needs no other opcode. -/
theorem adjust_eq (opcode : Opcode) : opcode.adjust .eq = opcode := by cases opcode <;> rfl

variable {s : Strict ρ} {w : Member}

/-- A numeric key is not converted. -/
theorem run_seekKey_of_number (hseek : op.opcode.IsSeek) (h : s.At op.p3.toNat c w)
    (ha : Announces c w) (hp3 : IsRegister s.mems.length s.nMem op.p3) (hkey : c.IsSeekKey) :
    run (strictMachine ρ) (seekKey OP_SeekLT L op) s =
      .ok (some ((c.seekTarget L op.opcode).1.seekNumber OP_SeekLT, (c.seekTarget L op.opcode).2),
        s) := by
  have hstr : ¬ c.flags &&& (MEM_Int ||| MEM_Real ||| MEM_Str) = MEM_Str := by
    rw [strOnly_iff]
    rintro ⟨-, hi, hr⟩
    rcases hkey with h | h
    · rw [hi] at h
      cases h
    · rw [hr] at h
      cases h.1
  unfold seekKey Op.mem_of_p3
  dsimp only
  rw [run_bind_ok (run_mem_of_p hp3), run_bind_ok h.run_get_flags, if_neg hstr]
  rw [run_bind_ok (h.run_sqlite3VdbeIntValue L ha)]
  unfold Mem.seekTarget Mem.keyValue Mem.intValue
  by_cases hi : c.flags.has MEM_Int = true
  · simp only [hi, Bool.not_true, Bool.false_eq_true, ↓reduceIte]
    rw [compare_eq_iff_eq.mpr rfl, adjust_eq]
    rfl
  · obtain ⟨hr, hfin, hlo, hhi⟩ := hkey.resolve_left hi
    have htrunc : c.u_r.toInt64 = c.u_r.trunc := if_pos ⟨hlo, hhi⟩
    simp only [hi, hr, Bool.not_false, Bool.not_true, Bool.false_eq_true, ↓reduceIte, htrunc]
    rw [run_bind_ok (h.run_get_u_r hr (ha.2 hr)), run_pure, seekAdjust_eq OP_SeekLT hseek hfin hlo hhi]

end keys

/-! ## The opcode on a table -/

/-- A seek on a table, as it is compiled. -/
structure TableSeek (m : Machine (Cursors β κ)) (op : Op) (c : Mem) (pC : VdbeCursor β) (b : β) :
    Prop where
  /-- The cache knows nothing false. -/
  sound : m.Sound
  /-- The opcode is one of the four. -/
  opcode : op.opcode.IsSeek
  /-- `P3` is a register. -/
  p3 : IsRegister m.mems.length m.nMem op.p3
  /-- It holds the key. -/
  cell : m.mems[op.p3.toNat]? = some c
  /-- The cursor. -/
  cursor : seekCursor op m.rest = .ok (pC, b)
  /-- It is one of a table. -/
  table : pC.isTable = true
  /-- `P2` is an address to jump to. -/
  p2 : 0 < op.p2

/-- The state of the cursors once the opcode has started. -/
def Cursors.started (r : Cursors β κ) (op : Op) (pC : VdbeCursor β) : Cursors β κ :=
  r.set op.p1 { pC with nullRow := false }

/-- The cursor after the start of the seek. -/
theorem seekCursor_set {r : Cursors β κ} (h : seekCursor op r = .ok (pC, b)) :
    seekCursor op (r.started op pC) = .ok ({ pC with nullRow := false }, b) := by
  unfold seekCursor at h ⊢
  unfold Cursors.started Cursors.set
  split_ifs at h with hp
  have hlt : op.p1.toNat < r.apCsr.length := by omega
  cases hget : r.apCsr[op.p1.toNat]? with
  | none => simp [hget] at h
  | some pC? =>
    rw [hget] at h
    cases pC? with
    | none => cases h
    | some pC' =>
      dsimp only at h
      cases hb : pC'.pCursor with
      | none => simp [hb] at h
      | some b' =>
        rw [hb] at h
        dsimp only at h
        split_ifs at h with hord
        obtain ⟨rfl, rfl⟩ : pC' = pC ∧ b' = b := by
          injection h with h
          injection h with h h'
          exact ⟨h, h'⟩
        rw [List.length_set, if_pos hp, List.getElem?_set_self hlt]
        dsimp only
        rw [hb]
        dsimp only
        rw [if_pos hord]

variable {L} {m : Machine (Cursors β κ)} {c : Mem}

variable (B pc) in
/-- A seek is the search for its key and then the movement of the cursor. -/
theorem run_seek {s : Strict (Cursors β κ)} (hcursor : seekCursor op s.rest = .ok (pC, b))
    (htable : pC.isTable = true) (rc : ResultCode) {key : Option (ℕ × ℤ)}
    {s' : Strict (Cursors β κ)}
    (hkey : run (strictMachine _) (seekKey OP_SeekLT L op) { s with rest := s.rest.started op pC } =
      .ok (key, s')) :
    run (strictMachine _) (OP_SeekLT_SeekLE_SeekGE_SeekGT L B OP_SeekLT pc rc op) s =
      match key with
      | none => .ok (.next op.p2.toNat rc, s')
      | some (oc, iKey) =>
        run (strictMachine _) (other (seekMove B OP_SeekLT oc none iKey pc op)) s' := by
  have hstart : run (strictMachine (Cursors β κ)) (other fun r => (seekCursor op r).map
      fun x => (x.1, r.set op.p1 { x.1 with nullRow := false })) s =
        .ok (pC, { s with rest := s.rest.started op pC }) := by
    refine run_other_ok ?_
    rw [hcursor]
    rfl
  unfold OP_SeekLT_SeekLE_SeekGE_SeekGT
  dsimp only
  rw [run_bind_ok hstart, if_pos htable, run_bind_ok hkey]
  cases key with
  | none => rfl
  | some x => rfl

variable (pc) in
/-- With a numeric key the cursor gets to the row that is sought, and the opcode falls through. It
jumps if there is none. -/
theorem seek_numeric (h : TableSeek m op c pC b) (hB : B.Correct rows row) (hkey : c.IsSeekKey)
    (rc : ResultCode) :
    ∃ b' w', execute (OP_SeekLT_SeekLE_SeekGE_SeekGT L B OP_SeekLT pc rc op) m =
        .ok (seekExit pc op (row b'), m.mems, { m.rest.started op pC with rest := w' }.set op.p1
          (VdbeCursor.sought { pC with nullRow := false } (c.intValue L) b')) ∧
      rows b' = rows b ∧ ∀ x, row b' = some x ↔ op.opcode.Seeks (rows b) c.keyValue x := by
  obtain ⟨written, hR, hann⟩ := h.sound
  obtain ⟨hlo, hhi, hbelow, habove⟩ := hkey.intValue (L := L)
  obtain ⟨b', w', hmove, hrows, hrow⟩ := seekMove_spec OP_SeekLT pc hB
    (h.opcode.adjust (compare c.keyValue (c.intValue L))) h.p2 (seekCursor_set h.cursor) hlo hhi
  refine ⟨b', w', ?_, hrows, fun x => (hrow x).trans (seeks_adjust h.opcode hbelow habove)⟩
  have hat : Strict.At { m.strict written with rest := m.rest.started op pC } op.p3.toNat c
      (written op.p3.toNat) := ⟨h.cell, rfl⟩
  have hseek := run_seekKey_of_number OP_SeekLT (L := L) h.opcode hat (hann _ _ h.cell) h.p3 hkey
  have hrun := run_seek B OP_SeekLT pc (s := m.strict written) h.cursor h.table rc hseek
  dsimp only [Mem.seekTarget] at hrun
  rw [run_other_ok (s := { m.strict written with rest := m.rest.started op pC }) hmove] at hrun
  exact execute_of_strict hR hrun

variable (L B rows row) in
/-- What a seek for a numeric key has to do. -/
structure SeeksRow (pc : ℕ) (rc : ResultCode) (op : Op) (m : Machine (Cursors β κ)) (key : ℚ) (b : β) :
    Prop where
  /-- The cursor gets to the row that is sought, and the opcode falls through. -/
  found : ∀ x, op.opcode.Seeks (rows b) key x → ∃ r' pC' b',
    execute (OP_SeekLT_SeekLE_SeekGE_SeekGT L B OP_SeekLT pc rc op) m =
      .ok (.next (pc + 1) .ok, m.mems, r') ∧
    r'.apCsr[op.p1.toNat]? = some (some pC') ∧ pC'.pCursor = some b' ∧ row b' = some x ∧
    rows b' = rows b ∧ pC'.nullRow = false ∧ pC'.deferredMoveto = false ∧
    pC'.cacheStatus = CACHE_STALE
  /-- Without such a row the opcode jumps. -/
  missing : (∀ x, ¬ op.opcode.Seeks (rows b) key x) → ∃ r',
    execute (OP_SeekLT_SeekLE_SeekGE_SeekGT L B OP_SeekLT pc rc op) m =
      .ok (.next op.p2.toNat .ok, m.mems, r')

/-- The cursor is one of the statement. -/
theorem lt_of_seekCursor {r : Cursors β κ} (h : seekCursor op r = .ok (pC, b)) :
    op.p1.toNat < r.apCsr.length := by
  unfold seekCursor at h
  split_ifs at h with hp
  omega

/-- On a table, each of the four opcodes seeks the row that its relation to the key says. -/
theorem seeksRow_of_isSeekKey (h : TableSeek m op c pC b) (hB : B.Correct rows row)
    (hkey : c.IsSeekKey) (rc : ResultCode) :
    SeeksRow L B OP_SeekLT rows row pc rc op m c.keyValue b := by
  obtain ⟨b', w', hrun, hrows, hrow⟩ := seek_numeric (L := L) OP_SeekLT pc h hB hkey rc
  have hlt := lt_of_seekCursor h.cursor
  have hlen : (m.rest.started op pC).apCsr.length = m.rest.apCsr.length := List.length_set ..
  set r' := { m.rest.started op pC with rest := w' }.set op.p1
    (VdbeCursor.sought { pC with nullRow := false } (c.intValue L) b') with hr'
  constructor
  · intro x hx
    refine ⟨r', VdbeCursor.sought { pC with nullRow := false } (c.intValue L) b', b', ?_,
      List.getElem?_set_self (hlen.symm ▸ hlt), rfl, (hrow x).mpr hx, hrows, rfl, rfl, rfl⟩
    rw [hrun, seekExit, (hrow x).mpr hx, if_neg (Option.some_ne_none x)]
  · intro hno
    have hnone : row b' = none := by
      cases hb : row b' with
      | none => rfl
      | some x => exact absurd ((hrow x).mp hb) (hno x)
    refine ⟨r', ?_⟩
    rw [hrun, seekExit, hnone, if_pos rfl]

/-! ## A table with one row -/

/-- The cursor of a b-tree with the rowid 5 alone. -/
def oneRow : Btree (Option ℤ) Unit where
  MovetoUnpacked _ iKey _ w :=
    ((SQLITE_OK, if iKey = 5 then 0 else if iKey < 5 then 1 else -1), some 5, w)
  Next _ b w :=
    match b with
    | none => ((SQLITE_OK, 1), none, w)
    | some x => if x < 5 then ((SQLITE_OK, 0), some 5, w) else ((SQLITE_OK, 1), none, w)
  Previous _ b w :=
    match b with
    | none => ((SQLITE_OK, 1), none, w)
    | some x => if 5 < x then ((SQLITE_OK, 0), some 5, w) else ((SQLITE_OK, 1), none, w)
  valid b := b.isSome

/-- A table of the row 5 is a table. -/
theorem oneRow_correct : oneRow.Correct (fun _ => {5}) id where
  moveto iKey b w _ _ := by
    refine ⟨_, _, _, rfl, rfl, ?_⟩
    rcases lt_trichotomy iKey 5 with h | rfl | h
    · rw [if_neg h.ne, if_pos h]
      refine .above 5 1 (by simp [h.ne]) ⟨by simp [h], fun z hz => ?_⟩ (by decide)
      rw [Finset.mem_singleton.mp hz.1]
    · exact .here (by simp)
    · rw [if_neg h.ne', if_neg h.not_gt]
      refine .below 5 (-1) (by simp [h.ne']) ⟨by simp [h], fun z hz => ?_⟩ (by decide)
      rw [Finset.mem_singleton.mp hz.1]
  next b w := by
    cases b with
    | none => exact ⟨1, none, w, rfl, rfl, rfl, by simp⟩
    | some x =>
      by_cases h : x < 5
      · refine ⟨0, some 5, w, if_pos h, rfl, fun y => some_iff_isLeast ⟨by simp [h], ?_⟩, by simp⟩
        exact fun z hz => (Finset.mem_singleton.mp hz.1).ge
      · refine ⟨1, none, w, if_neg h, rfl, fun y => ⟨fun hy => (nomatch hy), fun hy => ?_⟩, by simp⟩
        have hlt := hy.1.2
        rw [Finset.mem_singleton.mp hy.1.1] at hlt
        exact absurd hlt h
  previous b w := by
    cases b with
    | none => exact ⟨1, none, w, rfl, rfl, rfl, by simp⟩
    | some x =>
      by_cases h : 5 < x
      · refine ⟨0, some 5, w, if_pos h, rfl, fun y => some_iff_isGreatest ⟨by simp [h], ?_⟩, by simp⟩
        exact fun z hz => (Finset.mem_singleton.mp hz.1).le
      · refine ⟨1, none, w, if_neg h, rfl, fun y => ⟨fun hy => (nomatch hy), fun hy => ?_⟩, by simp⟩
        have hlt := hy.1.2
        rw [Finset.mem_singleton.mp hy.1.1] at hlt
        exact absurd hlt h
  valid b := by cases b <;> simp [oneRow]

/-- A cursor on the table with one row, before any movement. -/
def oneRowCursor : VdbeCursor (Option ℤ) := ⟨some none, [], 0, false, false, true, true, 0, 1⟩

/-- A statement with this cursor, and the key in its only register. -/
def oneRowSeek (key : Mem) : Machine (Cursors (Option ℤ) Unit) :=
  Machine.fresh [key] 0 ⟨[some oneRowCursor], ()⟩

/-- `SeekGT` with the only cursor, and a jump to address 7. -/
def seekGTOp : Op := ⟨.SeekGT, 0, 7, 0, .NOTUSED, 0#8⟩

/-- A seek in it. -/
theorem tableSeek_oneRow (key : Mem) :
    TableSeek (oneRowSeek key) seekGTOp key oneRowCursor none where
  sound := Machine.Sound.fresh _ _ _
  opcode := by simp [seekGTOp, Opcode.IsSeek]
  p3 := by simp [oneRowSeek, seekGTOp, Machine.fresh, IsRegister]
  cell := rfl
  cursor := rfl
  table := rfl
  p2 := by decide

/-- The real 4.5. -/
def fourAndAHalf : Mem := Mem.ofReal 0x4012000000000000#64

/-- From 4.5 upwards there is the row 5. -/
theorem seeksRow_fourAndAHalf :
    SeeksRow (CLib.decimalOver _) oneRow 60 (fun _ => {5}) id 3 .ok seekGTOp (oneRowSeek fourAndAHalf)
      fourAndAHalf.keyValue none :=
  seeksRow_of_isSeekKey 60 (tableSeek_oneRow fourAndAHalf) oneRow_correct (Or.inr (by decide +kernel))
    .ok

end SQPyte
