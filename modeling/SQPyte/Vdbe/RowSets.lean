import Mathlib.Data.Finset.Sort
import SQPyte.Library.Runs
import SQPyte.Mem.RowSet
import SQPyte.Vdbe.Op
import SQPyte.Vdbe.Copies

/-!
# The opcodes on `RowSet` registers

`OP_RowSetAdd` collects rowids in a register, and `OP_RowSetRead` takes them out again in increasing
order, so that a statement can change the rows that it has found only after it has found all of them.
`OP_RowSetTest` lets a rowid pass that was not seen in a batch before, for the terms of an `OR`.

A register stands for `RowIds`, none if it is no `RowSet`. `Does` says what the opcodes make of them,
and `follows_of_each` that they never do anything else along a run. The assertions of `rowset.c` are
in `Allowed`: nothing is inserted while rowids are taken out, and rowids that were tested are not
taken out.
-/

namespace SQPyte

/-! ## The code -/

/-- A register, with the `RowSet` that `u.pRowSet` points to. -/
structure RowSetMem extends Mem where
  /-- `u.pRowSet`. -/
  pRowSet : RowSet

namespace RowSetMem

variable {κ : Type} (L : CLib κ) (mallocFailed : κ → Bool)

/-- `flags & MEM_RowSet`. -/
def isRowSet (c : RowSetMem) : Bool := c.flags.has MEM_RowSet

/-- `sqlite3VdbeMemSetNull`. -/
def sqlite3VdbeMemSetNull (c : RowSetMem) (w : κ) : RowSetMem × κ :=
  ({ toMem := (c.toMem.sqlite3VdbeMemSetNull L w).1
     pRowSet := if c.isRowSet then sqlite3RowSetClear c.pRowSet else c.pRowSet },
    (c.toMem.sqlite3VdbeMemSetNull L w).2)

/-- `sqlite3VdbeMemSetInt64`. -/
def sqlite3VdbeMemSetInt64 (val : ℤ) (c : RowSetMem) (w : κ) : RowSetMem × κ :=
  let (c, w) := if VdbeMemDynamic c.flags then c.sqlite3VdbeMemSetNull L w else (c, w)
  ({ c with u := BitVec.ofInt 64 val, flags := MEM_Int }, w)

/-- `sqlite3VdbeMemSetRowSet`, or `none` where its assertion fails. -/
def sqlite3VdbeMemSetRowSet (c : RowSetMem) (w : κ) : Option (RowSetMem × κ) :=
  let (m, w) := c.toMem.sqlite3VdbeMemRelease L w
  let (zMalloc, w) := L.malloc 64 w
  if mallocFailed w then
    some ({ c with toMem := { m with
      zMalloc := zMalloc.getD [], szMalloc := 0, flags := MEM_Null } }, w)
  else zMalloc.bind fun zMalloc => (sqlite3RowSetInit zMalloc.length).map fun p =>
    ({ toMem := { m with zMalloc := zMalloc, szMalloc := zMalloc.length, flags := MEM_RowSet }
       pRowSet := p }, w)

/-- The register with a `RowSet`, if it had none. -/
def withRowSet (c : RowSetMem) (w : κ) : Option (RowSetMem × κ) :=
  if c.isRowSet then some (c, w) else c.sqlite3VdbeMemSetRowSet L mallocFailed w

end RowSetMem

/-- How an opcode on a `RowSet` ends. -/
inductive RowSetExit where
  | next
  /-- To `P2`. -/
  | jump
  | no_mem
  | abort_due_to_interrupt
deriving DecidableEq, Repr

section code

variable {κ : Type} (L : CLib κ) (mallocFailed : κ → Bool)

/-- `impl_OP_RowSetAdd`, or `none` where an assertion fails. -/
def impl_OP_RowSetAdd (pIn1 pIn2 : RowSetMem) (w : κ) : Option (RowSetExit × RowSetMem × κ) :=
  if pIn2.flags.has MEM_Int = false then none
  else (pIn1.withRowSet L mallocFailed w).bind fun (pIn1, w) =>
    if pIn1.isRowSet = false then some (.no_mem, pIn1, w)
    else (sqlite3RowSetInsert L pIn1.pRowSet pIn2.u_i w).map fun (p, w) =>
      (.next, { pIn1 with pRowSet := p }, w)

/-- The part of `impl_OP_RowSetTest` after the test. -/
def rowSetTestInsert (iSet iRowid : ℤ) (pIn1 : RowSetMem) (found : Bool) (p : RowSet) (w : κ) :
    Option (RowSetExit × RowSetMem × κ) :=
  if found then some (.jump, { pIn1 with pRowSet := p }, w)
  else if 0 ≤ iSet then (sqlite3RowSetInsert L p iRowid w).map fun (p, w) =>
    (.next, { pIn1 with pRowSet := p }, w)
  else some (.next, { pIn1 with pRowSet := p }, w)

/-- `impl_OP_RowSetTest`, or `none` where an assertion fails. -/
def impl_OP_RowSetTest (iSet : ℤ) (pIn1 pIn3 : RowSetMem) (w : κ) :
    Option (RowSetExit × RowSetMem × κ) :=
  if pIn3.flags.has MEM_Int = false then none
  else (pIn1.withRowSet L mallocFailed w).bind fun (pIn1, w) =>
    if pIn1.isRowSet = false then some (.no_mem, pIn1, w)
    else if iSet ≠ -1 ∧ iSet < 0 then none
    else (if iSet = 0 then some (false, pIn1.pRowSet, w)
        else sqlite3RowSetTest L pIn1.pRowSet iSet pIn3.u_i w).bind fun (found, p, w) =>
      rowSetTestInsert L iSet pIn3.u_i pIn1 found p w

/-- `impl_OP_RowSetRead`, or `none` where an assertion fails. -/
def impl_OP_RowSetRead (isInterrupted : Bool) (pIn1 pOut : RowSetMem) (w : κ) :
    Option (RowSetExit × RowSetMem × RowSetMem × κ) :=
  (if pIn1.isRowSet then sqlite3RowSetNext pIn1.pRowSet else some (none, pIn1.pRowSet)).map
    fun (val, p) =>
      let pIn1 := { pIn1 with pRowSet := p }
      let (exit, pIn1, pOut, w) := match val with
        | none => (RowSetExit.jump, (pIn1.sqlite3VdbeMemSetNull L w).1, pOut,
            (pIn1.sqlite3VdbeMemSetNull L w).2)
        | some val => (RowSetExit.next, pIn1, (pOut.sqlite3VdbeMemSetInt64 L val w).1,
            (pOut.sqlite3VdbeMemSetInt64 L val w).2)
      (if isInterrupted then .abort_due_to_interrupt else exit, pIn1, pOut, w)

end code

/-! ## Statements with `RowSet` registers -/

/-- What the opcodes on `RowSet` registers read and write. -/
structure RowSetState (κ : Type) where
  /-- The program counter. -/
  pc : ℤ
  /-- The last opcode has jumped. -/
  jumped : Bool
  /-- `p->aMem`. -/
  aMem : List RowSetMem
  /-- Everything else. -/
  world : κ
  /-- No opcode has failed. -/
  running : Bool

/-- What happens while a statement runs. -/
inductive RowSetEvent (κ : Type) where
  | RowSetAdd (op : Op)
  | RowSetTest (op : Op)
  | RowSetRead (op : Op) (isInterrupted : Bool)
  /-- Another opcode leaves something in the register `i`. -/
  | write (i : ℕ) (c : RowSetMem) (pc : ℤ) (world : κ)
  /-- An opcode on no register. -/
  | elsewhere (pc : ℤ) (world : κ)

namespace RowSetState

variable {κ : Type}

/-- The state after an opcode. -/
def finish (s : RowSetState κ) (op : Op) (exit : RowSetExit) (aMem : List RowSetMem) (w : κ) :
    RowSetState κ :=
  { pc := if exit = .jump then op.p2 else s.pc + 1
    jumped := exit = .jump, aMem := aMem, world := w
    running := exit = .next ∨ exit = .jump }

variable (L : CLib κ) (mallocFailed : κ → Bool)

/-- One event, if it can happen. -/
def step (s : RowSetState κ) (e : RowSetEvent κ) : Option (RowSetState κ) :=
  if s.running = false then none
  else match e with
    | .RowSetAdd op => do
      let pIn1 ← s.aMem[op.p1.toNat]?
      let pIn2 ← s.aMem[op.p2.toNat]?
      let (exit, pIn1, w) ← impl_OP_RowSetAdd L mallocFailed pIn1 pIn2 s.world
      return s.finish op exit (s.aMem.set op.p1.toNat pIn1) w
    | .RowSetTest op => do
      let pIn1 ← s.aMem[op.p1.toNat]?
      let pIn3 ← s.aMem[op.p3.toNat]?
      let (exit, pIn1, w) ← impl_OP_RowSetTest L mallocFailed op.p4_i pIn1 pIn3 s.world
      return s.finish op exit (s.aMem.set op.p1.toNat pIn1) w
    | .RowSetRead op isInterrupted => do
      let pIn1 ← s.aMem[op.p1.toNat]?
      let pOut ← s.aMem[op.p3.toNat]?
      let (exit, pIn1, pOut, w) ← impl_OP_RowSetRead L isInterrupted pIn1 pOut s.world
      return s.finish op exit ((s.aMem.set op.p1.toNat pIn1).set op.p3.toNat pOut) w
    | .write i c pc world =>
      some { s with pc := pc, jumped := false, aMem := s.aMem.set i c, world := world }
    | .elsewhere pc world => some { s with pc := pc, jumped := false, world := world }

end RowSetState

/-! ## What a register stands for -/

/-- The rowids in a register. -/
def RowSetMem.content (c : RowSetMem) : RowIds :=
  if c.isRowSet then c.pRowSet.content else .empty

/-- Rowids can be inserted. -/
def RowSetMem.Building (c : RowSetMem) : Prop := c.isRowSet = true → c.pRowSet.next = false

/-- The rowids in register `i`. -/
def RowSetState.content {κ : Type} (s : RowSetState κ) (i : ℕ) : RowIds :=
  (s.aMem[i]?.map RowSetMem.content).getD .empty

/-- What an event does to the rowids in the registers. -/
def RowSetEvent.Does {κ : Type} (s s' : RowSetState κ) : RowSetEvent κ → Prop
  | .RowSetAdd op => ∃ c, s.aMem[op.p2.toNat]? = some c ∧
      s'.content op.p1.toNat = (s.content op.p1.toNat).insert c.u_i ∧ s'.jumped = false ∧
      s'.pc = s.pc + 1
  | .RowSetTest op => ∃ c ids, s.aMem[op.p3.toNat]? = some c ∧
      ids = (if op.p4_i = 0 then s.content op.p1.toNat
        else (s.content op.p1.toNat).switch op.p4_i) ∧
      (s'.jumped = true ↔ op.p4_i ≠ 0 ∧ c.u_i ∈ ids.tested) ∧
      s'.content op.p1.toNat =
        (if s'.jumped = false ∧ 0 ≤ op.p4_i then ids.insert c.u_i else ids) ∧
      s'.pc = if s'.jumped then op.p2 else s.pc + 1
  | .RowSetRead op _ => (s'.jumped = true ↔ (s.content op.p1.toNat).fresh = ∅) ∧
      if s'.jumped then s'.content op.p1.toNat = .empty ∧ s'.pc = op.p2
      else ∃ c, s'.aMem[op.p3.toNat]? = some c ∧ c.flags = MEM_Int ∧
        IsLeast {x | x ∈ (s.content op.p1.toNat).fresh} c.u_i ∧
        s'.content op.p1.toNat = { s.content op.p1.toNat with
          fresh := (s.content op.p1.toNat).fresh.erase c.u_i } ∧ s'.pc = s.pc + 1
  | .write _ _ _ _ => s'.jumped = false
  | .elsewhere _ _ => s'.jumped = false

/-- The registers that an event writes. -/
def RowSetEvent.writes {κ : Type} : RowSetEvent κ → List ℕ
  | .RowSetAdd op => [op.p1.toNat]
  | .RowSetTest op => [op.p1.toNat]
  | .RowSetRead op _ => [op.p1.toNat, op.p3.toNat]
  | .write i _ _ _ => [i]
  | .elsewhere _ _ => []

/-- What the programs promise, so that no assertion fails. -/
def RowSetEvent.Allowed {κ : Type} (mallocFailed : κ → Bool) (s : RowSetState κ) :
    RowSetEvent κ → Prop
  | .RowSetAdd op => ∃ c d, s.aMem[op.p1.toNat]? = some c ∧ c.Building ∧
      s.aMem[op.p2.toNat]? = some d ∧ d.flags.has MEM_Int = true
  | .RowSetTest op => (op.p4_i = -1 ∨ 0 ≤ op.p4_i) ∧ ∃ c d, s.aMem[op.p1.toNat]? = some c ∧
      c.Building ∧ s.aMem[op.p3.toNat]? = some d ∧ d.flags.has MEM_Int = true
  | .RowSetRead op _ => op.p1.toNat ≠ op.p3.toNat ∧ ∃ c d, s.aMem[op.p1.toNat]? = some c ∧
      c.content.tested = ∅ ∧ s.aMem[op.p3.toNat]? = some d
  | .write _ c _ world => c.isRowSet = false ∧ mallocFailed world = false
  | .elsewhere _ world => mallocFailed world = false

instance (c : RowSetMem) : Decidable c.Building := inferInstanceAs (Decidable (_ → _))

/-- The conditions are about the registers of the opcode only. -/
instance {κ : Type} (mallocFailed : κ → Bool) (s : RowSetState κ) :
    ∀ e : RowSetEvent κ, Decidable (e.Allowed mallocFailed s)
  | .RowSetAdd op => decidable_of_iff (∃ c ∈ s.aMem[op.p1.toNat]?, c.Building ∧
      ∃ d ∈ s.aMem[op.p2.toNat]?, d.flags.has MEM_Int = true)
      ⟨fun ⟨c, hc, hbuilding, d, hd, hint⟩ => ⟨c, d, hc, hbuilding, hd, hint⟩,
        fun ⟨c, d, hc, hbuilding, hd, hint⟩ => ⟨c, hc, hbuilding, d, hd, hint⟩⟩
  | .RowSetTest op => decidable_of_iff ((op.p4_i = -1 ∨ 0 ≤ op.p4_i) ∧
      ∃ c ∈ s.aMem[op.p1.toNat]?, c.Building ∧
        ∃ d ∈ s.aMem[op.p3.toNat]?, d.flags.has MEM_Int = true)
      ⟨fun ⟨hset, c, hc, hbuilding, d, hd, hint⟩ => ⟨hset, c, d, hc, hbuilding, hd, hint⟩,
        fun ⟨hset, c, d, hc, hbuilding, hd, hint⟩ => ⟨hset, c, hc, hbuilding, d, hd, hint⟩⟩
  | .RowSetRead op _ => decidable_of_iff (op.p1.toNat ≠ op.p3.toNat ∧
      ∃ c ∈ s.aMem[op.p1.toNat]?, c.content.tested = ∅ ∧ (s.aMem[op.p3.toNat]?).isSome = true)
      ⟨fun ⟨hne, c, hc, htested, hout⟩ =>
          ⟨hne, c, _, hc, htested, (Option.some_get hout).symm⟩,
        fun ⟨hne, c, _, hc, htested, hd⟩ => ⟨hne, c, hc, htested, Option.isSome_of_mem hd⟩⟩
  | .write _ c _ world => inferInstanceAs (Decidable (c.isRowSet = false ∧ mallocFailed world = false))
  | .elsewhere _ world => inferInstanceAs (Decidable (mallocFailed world = false))

/-- The event is an opcode that is interrupted. -/
def RowSetEvent.isInterrupted {κ : Type} : RowSetEvent κ → Bool
  | .RowSetRead _ isInterrupted => isInterrupted
  | _ => false

/-- A step is what it says of the rowids. -/
structure RowSetFollows {κ : Type} (s : RowSetState κ) (e : RowSetEvent κ) (s' : RowSetState κ) :
    Prop where
  /-- The opcode ends well unless it is interrupted. -/
  running : e.isInterrupted = false → s'.running = true
  /-- The rowids in the registers that are written. -/
  does : s'.running = true → e.Does s s'
  /-- Other registers stay as they are. -/
  others : ∀ i ∉ e.writes, s'.aMem[i]? = s.aMem[i]?

/-! ## Each opcode -/

/-- The rowids are 64-bit integers. -/
def RowIds.Int64 (ids : RowIds) : Prop :=
  ∀ x, x ∈ ids.tested ∨ x ∈ ids.fresh → -2^63 ≤ x ∧ x < 2^63

/-- A 64-bit rowid is added. -/
theorem RowIds.Int64.insert {ids : RowIds} (h : ids.Int64) (u : BitVec 64) :
    (ids.insert u.toInt).Int64 := by
  rintro x (hx | hx)
  · exact h x (Or.inl hx)
  · rcases Finset.mem_insert.mp hx with rfl | hx
    · exact ⟨BitVec.le_toInt u, BitVec.toInt_lt⟩
    · exact h x (Or.inr hx)

/-- A batch is closed. -/
theorem RowIds.Int64.switch {ids : RowIds} (h : ids.Int64) (b : ℤ) : (ids.switch b).Int64 := by
  unfold RowIds.switch
  split_ifs
  · exact h
  · rintro x (hx | hx)
    · exact h x (Finset.mem_union.mp hx)
    · exact absurd hx (Finset.notMem_empty x)

/-- A rowid is taken out. -/
theorem RowIds.Int64.erase {ids : RowIds} (h : ids.Int64) (v : ℤ) :
    RowIds.Int64 { ids with fresh := ids.fresh.erase v } := by
  rintro x (hx | hx)
  · exact h x (Or.inl hx)
  · exact h x (Or.inr (Finset.mem_of_mem_erase hx))

/-- A `RowSet` in a register is one of at most `n` new entries. -/
structure RowSetMem.WellFormed (n : ℕ) (c : RowSetMem) : Prop where
  /-- What `rowset.c` relies on. -/
  rowSet : c.isRowSet = true → c.pRowSet.WellFormed
  /-- There are not too many entries. -/
  length_le : c.isRowSet = true → c.pRowSet.pEntry.length ≤ n
  /-- The entries are 64-bit integers. -/
  int64 : c.content.Int64

/-- A register without a set is well formed. -/
theorem RowSetMem.WellFormed.of_not_isRowSet {n : ℕ} {c : RowSetMem} (h : c.isRowSet = false) :
    c.WellFormed n := by
  refine ⟨fun hc => ?_, fun hc => ?_, ?_⟩
  · rw [h] at hc; cases hc
  · rw [h] at hc; cases hc
  · unfold RowSetMem.content
    rw [h, if_neg (by decide)]
    rintro x (hx | hx)
    · exact absurd hx (Finset.notMem_empty x)
    · exact absurd hx (Finset.notMem_empty x)

/-- With more steps it still is. -/
theorem RowSetMem.WellFormed.mono {n m : ℕ} {c : RowSetMem} (h : c.WellFormed n) (hnm : n ≤ m) :
    c.WellFormed m :=
  ⟨h.rowSet, fun hc => (h.length_le hc).trans hnm, h.int64⟩

/-- A register with another `RowSet`. -/
theorem RowSetMem.wellFormed_with {n : ℕ} {c : RowSetMem} {p : RowSet} (hp : p.WellFormed)
    (hlen : p.pEntry.length ≤ n) (hint : p.content.Int64) (hc : c.isRowSet = true) :
    ({ c with pRowSet := p } : RowSetMem).WellFormed n ∧
      ({ c with pRowSet := p } : RowSetMem).content = p.content := by
  have hcontent : ({ c with pRowSet := p } : RowSetMem).content = p.content := if_pos hc
  exact ⟨⟨fun _ => hp, fun _ => hlen, hcontent ▸ hint⟩, hcontent⟩

section opcodes

variable {κ : Type} {L : CLib κ} {mallocFailed : κ → Bool} {n : ℕ} {c d : RowSetMem} {w : κ}

/-- A release does not run out of memory. -/
theorem mallocFailed_release (hL : L.Lawful mallocFailed) (p : Mem) (w : κ) :
    mallocFailed (p.sqlite3VdbeMemRelease L w).2 = mallocFailed w := by
  unfold Mem.sqlite3VdbeMemRelease Mem.vdbeMemClearExternAndSetNull
  split_ifs
  · exact hL.destroy p w
  · rfl
  · rfl

/-- Nor does setting to NULL. -/
theorem mallocFailed_setNull (hL : L.Lawful mallocFailed) (p : Mem) (w : κ) :
    mallocFailed (p.sqlite3VdbeMemSetNull L w).2 = mallocFailed w := by
  unfold Mem.sqlite3VdbeMemSetNull Mem.vdbeMemClearExternAndSetNull
  split_ifs
  · exact hL.destroy p w
  · rfl

/-- A register that is set to NULL has the flag. -/
theorem flags_setNull (L : CLib κ) (p : Mem) (w : κ) :
    (p.sqlite3VdbeMemSetNull L w).1.flags = MEM_Null := by
  unfold Mem.sqlite3VdbeMemSetNull Mem.vdbeMemClearExternAndSetNull
  split_ifs <;> rfl

/-- A register gets a `RowSet` if it has none, which then is empty. -/
theorem withRowSet_spec (hL : L.Lawful mallocFailed) (hc : c.WellFormed n) (hbuild : c.Building)
    (hw : mallocFailed w = false) :
    ∃ c' w', c.withRowSet L mallocFailed w = some (c', w') ∧ c'.isRowSet = true ∧ c'.WellFormed n ∧
      c'.content = c.content ∧ c'.pRowSet.next = false ∧ mallocFailed w' = false := by
  unfold RowSetMem.withRowSet
  by_cases hrow : c.isRowSet = true
  · rw [if_pos hrow]
    exact ⟨c, w, rfl, hrow, hc, rfl, hbuild hrow, hw⟩
  · rw [if_neg hrow]
    obtain ⟨zMalloc, w', hmalloc, hsize, hfailed⟩ := hL.malloc 64 (c.toMem.sqlite3VdbeMemRelease L w).2
    rw [mallocFailed_release hL, hw] at hfailed
    have hle : sizeof_RowSet ≤ zMalloc.length := le_trans (by decide) hsize
    obtain ⟨p, hp, hwf, hcontent, hnext, hnil⟩ := sqlite3RowSetInit_spec hle
    unfold RowSetMem.sqlite3VdbeMemSetRowSet
    simp only [hmalloc]
    rw [hfailed, if_neg (by decide), Option.bind_some, hp, Option.map_some]
    have hempty : RowIds.Int64 .empty := by
      rintro x (hx | hx)
      · exact absurd hx (Finset.notMem_empty x)
      · exact absurd hx (Finset.notMem_empty x)
    have hcontent' : c.content = .empty := if_neg hrow
    have hflag : MEM_RowSet.has MEM_RowSet = true := by decide
    have hlen : p.pEntry.length ≤ n := by
      rw [hnil]
      exact Nat.zero_le n
    obtain ⟨hwf', hcontent₁⟩ := RowSetMem.wellFormed_with
      (c := ⟨{ (c.toMem.sqlite3VdbeMemRelease L w).1 with
        zMalloc := zMalloc, szMalloc := zMalloc.length, flags := MEM_RowSet }, p⟩)
      hwf hlen (hcontent ▸ hempty) hflag
    exact ⟨_, w', rfl, hflag, hwf', by rw [hcontent₁, hcontent, hcontent'], hnext, hfailed⟩

/-- `OP_RowSetAdd` inserts. -/
theorem impl_OP_RowSetAdd_spec (hL : L.Lawful mallocFailed) (hc : c.WellFormed n)
    (hbuild : c.Building) (hd : d.flags.has MEM_Int = true) (hw : mallocFailed w = false) :
    ∃ c' w', impl_OP_RowSetAdd L mallocFailed c d w = some (.next, c', w') ∧
      c'.WellFormed (n + 1) ∧ c'.content = c.content.insert d.u_i ∧ mallocFailed w' = false := by
  obtain ⟨c₁, w₁, hwith, hrow, hwf, hcontent, hnext, hw₁⟩ := withRowSet_spec hL hc hbuild hw
  obtain ⟨p, w', hinsert, hp, hpc, -, hlen, hw'⟩ :=
    sqlite3RowSetInsert_spec hL (hwf.rowSet hrow) hnext d.u_i w₁
  have hcontent₁ : c₁.pRowSet.content = c.content := (if_pos hrow).symm.trans hcontent
  have hint : p.content.Int64 := by
    rw [hpc, hcontent₁]
    exact hc.int64.insert d.u
  obtain ⟨hwf', hcontent'⟩ := RowSetMem.wellFormed_with hp (n := n + 1)
    (by have := hwf.length_le hrow; omega) hint hrow
  unfold impl_OP_RowSetAdd
  rw [hd, if_neg (by decide), hwith, Option.bind_some]
  dsimp only
  rw [hrow, if_neg (by decide), hinsert]
  exact ⟨_, w', rfl, hwf', by rw [hcontent', hpc, hcontent₁], hw'.trans hw₁⟩

/-- `OP_RowSetTest` jumps if the rowid is one of a batch before, and inserts it otherwise. -/
theorem impl_OP_RowSetTest_spec (hL : L.Lawful mallocFailed) (hc : c.WellFormed n)
    (hn : n < 2^40) (hbuild : c.Building) (hd : d.flags.has MEM_Int = true)
    (hw : mallocFailed w = false) {iSet : ℤ} (hset : iSet = -1 ∨ 0 ≤ iSet) {ids : RowIds}
    (hids : ids = if iSet = 0 then c.content else c.content.switch iSet) :
    ∃ exit c' w', impl_OP_RowSetTest L mallocFailed iSet c d w = some (exit, c', w') ∧
      exit = (if iSet ≠ 0 ∧ d.u_i ∈ ids.tested then .jump else .next) ∧ c'.WellFormed (n + 1) ∧
      c'.content = (if exit = .next ∧ 0 ≤ iSet then ids.insert d.u_i else ids) ∧
      mallocFailed w' = false := by
  -- A register that holds no set is given an empty one.
  obtain ⟨c₁, w₁, hwith, hrow, hwf, hcontent, hnext, hw₁⟩ := withRowSet_spec hL hc hbuild hw
  have hlen₁ := hwf.length_le hrow
  have hcontent₁ : c₁.pRowSet.content = c.content := (if_pos hrow).symm.trans hcontent
  -- After the test, the rowids are `ids`.
  obtain ⟨found, p, w₂, htest, hfound, hp, hpc, hpn, hlen, hw₂⟩ : ∃ found p w₂,
      (if iSet = 0 then some (false, c₁.pRowSet, w₁)
        else sqlite3RowSetTest L c₁.pRowSet iSet d.u_i w₁) = some (found, p, w₂) ∧
      found = decide (iSet ≠ 0 ∧ d.u_i ∈ ids.tested) ∧ p.WellFormed ∧ p.content = ids ∧
      p.next = false ∧ p.pEntry.length ≤ n ∧ mallocFailed w₂ = false := by
    by_cases hzero : iSet = 0
    · rw [if_pos hzero] at hids ⊢
      refine ⟨_, _, _, rfl, ?_, hwf.rowSet hrow, hcontent₁.trans hids.symm, hnext, hlen₁, hw₁⟩
      exact (decide_eq_false fun h => h.1 hzero).symm
    · rw [if_neg hzero] at hids ⊢
      obtain ⟨p, w₂, htest, hp, hpc, hpn, hlen, hw₂⟩ :=
        sqlite3RowSetTest_spec hL (hwf.rowSet hrow) hnext (by omega) iSet d.u_i w₁
      rw [hcontent₁, ← hids] at htest hpc
      refine ⟨_, p, w₂, htest, ?_, hp, hpc, hpn, hlen.trans hlen₁, hw₂.trans hw₁⟩
      exact decide_eq_decide.mpr (by simp [hzero])
  have hint : ids.Int64 := by
    rw [hids]
    split_ifs
    · exact hc.int64
    · exact hc.int64.switch iSet
  unfold impl_OP_RowSetTest
  rw [hd, if_neg (by decide), hwith, Option.bind_some]
  dsimp only
  rw [hrow, if_neg (by decide), if_neg (by omega), htest, Option.bind_some]
  dsimp only
  unfold rowSetTestInsert
  -- A rowid found jumps; any other one is inserted, unless the batch is the last.
  by_cases hcond : iSet ≠ 0 ∧ d.u_i ∈ ids.tested
  · obtain ⟨hwf', hcontent'⟩ :=
      RowSetMem.wellFormed_with hp (hlen.trans (Nat.le_succ n)) (hpc ▸ hint) hrow
    rw [hfound, decide_eq_true hcond, if_pos rfl, if_pos hcond]
    exact ⟨_, _, w₂, rfl, rfl, hwf', by rw [hcontent', hpc, if_neg (by simp)], hw₂⟩
  · rw [hfound, decide_eq_false hcond, if_neg (by decide), if_neg hcond]
    by_cases hpos : 0 ≤ iSet
    · obtain ⟨q, w₃, hinsert, hq, hqc, -, hqlen, hw₃⟩ := sqlite3RowSetInsert_spec hL hp hpn d.u_i w₂
      have hqint : q.content.Int64 := by
        rw [hqc, hpc]
        exact hint.insert d.u
      obtain ⟨hwf', hcontent'⟩ := RowSetMem.wellFormed_with hq (n := n + 1) (by omega) hqint hrow
      rw [if_pos hpos, hinsert]
      exact ⟨_, _, w₃, rfl, rfl, hwf', by rw [hcontent', hqc, hpc, if_pos ⟨rfl, hpos⟩], hw₃.trans hw₂⟩
    · obtain ⟨hwf', hcontent'⟩ :=
        RowSetMem.wellFormed_with hp (hlen.trans (Nat.le_succ n)) (hpc ▸ hint) hrow
      rw [if_neg hpos]
      exact ⟨_, _, w₂, rfl, rfl, hwf', by rw [hcontent', hpc, if_neg fun h => hpos h.2], hw₂⟩

/-- A register that gets an integer is no `RowSet`, and memory does not run out. -/
theorem sqlite3VdbeMemSetInt64_spec (hL : L.Lawful mallocFailed) (val : ℤ) (c : RowSetMem) (w : κ) :
    (c.sqlite3VdbeMemSetInt64 L val w).1.flags = MEM_Int ∧
      (c.sqlite3VdbeMemSetInt64 L val w).1.u = BitVec.ofInt 64 val ∧
      mallocFailed (c.sqlite3VdbeMemSetInt64 L val w).2 = mallocFailed w := by
  unfold RowSetMem.sqlite3VdbeMemSetInt64
  split_ifs
  · exact ⟨rfl, rfl, mallocFailed_setNull hL c.toMem w⟩
  · exact ⟨rfl, rfl, rfl⟩

/-- `OP_RowSetRead` takes out the least rowid, or leaves NULL where there is none. -/
theorem impl_OP_RowSetRead_spec (hL : L.Lawful mallocFailed) (hc : c.WellFormed n) (hn : n < 2^40)
    (htested : c.content.tested = ∅) (hw : mallocFailed w = false) (isInterrupted : Bool) :
    ∃ exit c' d' w', impl_OP_RowSetRead L isInterrupted c d w =
        some (if isInterrupted then .abort_due_to_interrupt else exit, c', d', w') ∧
      c'.WellFormed n ∧ mallocFailed w' = false ∧
      ((exit = .jump ∧ c.content.fresh = ∅ ∧ c'.content = .empty ∧ d' = d) ∨
        (exit = .next ∧ d'.flags = MEM_Int ∧ IsLeast {x | x ∈ c.content.fresh} d'.u_i ∧
          c'.content = { c.content with fresh := c.content.fresh.erase d'.u_i })) := by
  unfold impl_OP_RowSetRead
  -- NULL is left.
  have hnone : ∀ p : RowSet, c.content.fresh = ∅ → ∃ exit c' d' w', some
        (if isInterrupted then RowSetExit.abort_due_to_interrupt else .jump,
          (({ c with pRowSet := p } : RowSetMem).sqlite3VdbeMemSetNull L w).1, d,
          (({ c with pRowSet := p } : RowSetMem).sqlite3VdbeMemSetNull L w).2) =
        some (if isInterrupted then .abort_due_to_interrupt else exit, c', d', w') ∧
      c'.WellFormed n ∧ mallocFailed w' = false ∧
      ((exit = .jump ∧ c.content.fresh = ∅ ∧ c'.content = .empty ∧ d' = d) ∨
        (exit = .next ∧ d'.flags = MEM_Int ∧ IsLeast {x | x ∈ c.content.fresh} d'.u_i ∧
          c'.content = { c.content with fresh := c.content.fresh.erase d'.u_i })) := by
    intro p hfresh
    have hrow : (({ c with pRowSet := p } : RowSetMem).sqlite3VdbeMemSetNull L w).1.isRowSet =
        false := by
      unfold RowSetMem.isRowSet RowSetMem.sqlite3VdbeMemSetNull
      rw [flags_setNull]
      decide
    refine ⟨.jump, _, d, _, rfl, .of_not_isRowSet hrow, ?_, Or.inl ⟨rfl, hfresh, ?_, rfl⟩⟩
    · exact (mallocFailed_setNull hL c.toMem w).trans hw
    · exact if_neg (by rw [hrow]; decide)
  by_cases hrow : c.isRowSet = true
  · have hcontent : c.content = c.pRowSet.content := if_pos hrow
    have hlen := hc.length_le hrow
    obtain ⟨v, p, hread, hp, -, hle, hv⟩ := sqlite3RowSetNext_spec (hc.rowSet hrow) (by omega)
      ((hc.rowSet hrow).planted (hcontent ▸ htested))
    rw [if_pos hrow, hread, Option.map_some]
    -- The smallest rowid is taken out, or the set was empty.
    cases v with
    | none => exact hnone p (hcontent ▸ hv)
    | some v =>
      obtain ⟨hleast, hpc⟩ := hv
      rw [← hcontent] at hleast hpc
      obtain ⟨hflags, hu, hfailed⟩ := sqlite3VdbeMemSetInt64_spec hL v d w
      have hint : p.content.Int64 := by
        rw [hpc]
        exact hc.int64.erase v
      obtain ⟨hwf', hcontent'⟩ := RowSetMem.wellFormed_with hp (hle.trans hlen) hint hrow
      -- The rowid fits into the register's word.
      have huv : (d.sqlite3VdbeMemSetInt64 L v w).1.u_i = v := by
        have hbounds := hc.int64 v (Or.inr hleast.1)
        unfold Mem.u_i
        rw [hu, BitVec.toInt_ofInt]
        exact Int.bmod_eq_of_le (by omega) (by omega)
      refine ⟨.next, _, _, _, rfl, hwf', hfailed.trans hw, Or.inr ⟨rfl, hflags, ?_, ?_⟩⟩
      · rw [huv]
        exact hleast
      · rw [hcontent', hpc, huv]
  · have hcontent : c.content = .empty := if_neg hrow
    rw [if_neg hrow, Option.map_some]
    exact hnone c.pRowSet (by rw [hcontent]; rfl)

end opcodes

/-! ## Runs -/

section runs

variable {κ : Type} {L : CLib κ} {mallocFailed : κ → Bool} {n : ℕ} {s s' : RowSetState κ}
  {e : RowSetEvent κ}

/-- The registers of a state are well formed, and there was memory so far. -/
structure RowSetState.WellFormed (mallocFailed : κ → Bool) (n : ℕ) (s : RowSetState κ) : Prop where
  /-- Each register is. -/
  registers : ∀ c ∈ s.aMem, c.WellFormed n
  /-- No allocation has failed. -/
  memory : mallocFailed s.world = false

/-- The set of a register. -/
theorem RowSetState.content_eq {i : ℕ} {c : RowSetMem} (h : s.aMem[i]? = some c) :
    s.content i = c.content := by
  unfold RowSetState.content
  rw [h]
  rfl

/-- A register that is set to something well formed. -/
theorem wellFormed_set {i : ℕ} {c : RowSetMem} {aMem : List RowSetMem}
    (h : ∀ d ∈ aMem, d.WellFormed n) (hc : c.WellFormed n) : ∀ d ∈ aMem.set i c, d.WellFormed n := by
  intro d hd
  rcases List.mem_or_eq_of_mem_set hd with hd | rfl
  · exact h d hd
  · exact hc

/-- An event that is allowed happens, and does what it says. -/
theorem RowSetState.WellFormed.step (hs : s.WellFormed mallocFailed n) (hL : L.Lawful mallocFailed)
    (hn : n < 2^40) (hrun : s.running = true) (ha : e.Allowed mallocFailed s) :
    ∃ s', RowSetState.step L mallocFailed s e = some s' ∧ s'.WellFormed mallocFailed (n + 1) ∧
      RowSetFollows s e s' := by
  have hmono : ∀ c ∈ s.aMem, c.WellFormed (n + 1) :=
    fun c hc => (hs.registers c hc).mono (Nat.le_succ n)
  have hne : ¬ s.running = false := by rw [hrun]; decide
  unfold RowSetState.step
  rw [if_neg hne]
  cases e with
  | RowSetAdd op =>
    obtain ⟨c, d, hc, hbuild, hd, hint⟩ := ha
    -- The opcode writes `r[P1]` alone, whose set gains the rowid.
    obtain ⟨c', w', hop, hwf, hcontent, hw⟩ := impl_OP_RowSetAdd_spec hL
      (hs.registers c (List.mem_of_getElem? hc)) hbuild hint hs.memory
    have hlt := (List.getElem?_eq_some_iff.mp hc).1
    refine ⟨s.finish op .next (s.aMem.set op.p1.toNat c') w', ?_, ⟨wellFormed_set hmono hwf, hw⟩,
      fun _ => rfl, fun _ => ⟨d, hd, ?_, rfl, rfl⟩, fun i hi => ?_⟩
    · simp only [hc, hd, hop, bind, Option.bind]
      rfl
    · rw [RowSetState.content_eq hc, ← hcontent]
      exact RowSetState.content_eq (List.getElem?_set_self hlt)
    · exact List.getElem?_set_ne fun heq => hi (List.mem_singleton.mpr heq.symm)
  | RowSetTest op =>
    obtain ⟨hset, c, d, hc, hbuild, hd, hint⟩ := ha
    -- P4 is 0 for the first test of a register, which finds no earlier batch; any other value
    -- starts a batch when it differs from the set's.
    obtain ⟨ids, hids⟩ : ∃ ids, ids = if op.p4_i = 0 then c.content
        else c.content.switch op.p4_i := ⟨_, rfl⟩
    obtain ⟨exit, c', w', hop, hexit, hwf, hcontent, hw⟩ := impl_OP_RowSetTest_spec hL
      (hs.registers c (List.mem_of_getElem? hc)) hn hbuild hint hs.memory hset hids
    have hlt := (List.getElem?_eq_some_iff.mp hc).1
    -- The opcode never stops the program: it falls through or it jumps.
    have hends : exit = .next ∨ exit = .jump := by
      rw [hexit]
      split_ifs
      · exact Or.inr rfl
      · exact Or.inl rfl
    refine ⟨s.finish op exit (s.aMem.set op.p1.toNat c') w', ?_, ⟨wellFormed_set hmono hwf, hw⟩,
      fun _ => decide_eq_true hends, fun _ => ⟨d, ids, hd, ?_, ?_, ?_, ?_⟩, fun i hi => ?_⟩
    · simp only [hc, hd, hop, bind, Option.bind]
      rfl
    · rw [RowSetState.content_eq hc]
      exact hids
    · -- It jumps exactly when the rowid is in an earlier batch.
      refine decide_eq_true_iff.trans ?_
      rw [hexit]
      split_ifs with hcond
      · exact ⟨fun _ => hcond, fun _ => rfl⟩
      · exact ⟨fun h => (nomatch h), fun h => absurd h hcond⟩
    · -- Only a rowid that was not found is inserted, and not when P4 is negative.
      have hjumped : (s.finish op exit (s.aMem.set op.p1.toNat c') w').jumped = false ↔
          exit = .next := by
        refine decide_eq_false_iff_not.trans ⟨fun h => hends.resolve_right h, ?_⟩
        rintro rfl h
        cases h
      rw [RowSetState.content_eq (List.getElem?_set_self hlt), hcontent]
      simp only [hjumped]
    · rcases hends with rfl | rfl
      · rfl
      · rfl
    · exact List.getElem?_set_ne fun heq => hi (List.mem_singleton.mpr heq.symm)
  | RowSetRead op isInterrupted =>
    obtain ⟨hne, c, d, hc, htested, hd⟩ := ha
    -- The opcode writes `r[P1]`, where the set lives, and `r[P3]`, where the rowid goes.
    obtain ⟨exit, c', d', w', hop, hwf, hw, hcase⟩ := impl_OP_RowSetRead_spec (d := d) hL
      (hs.registers c (List.mem_of_getElem? hc)) hn htested hs.memory isInterrupted
    have hlt := (List.getElem?_eq_some_iff.mp hc).1
    have hlt' := (List.getElem?_eq_some_iff.mp hd).1
    have hget : ((s.aMem.set op.p1.toNat c').set op.p3.toNat d')[op.p1.toNat]? = some c' := by
      rw [List.getElem?_set_ne hne.symm]
      exact List.getElem?_set_self hlt
    have hget' : ((s.aMem.set op.p1.toNat c').set op.p3.toNat d')[op.p3.toNat]? = some d' :=
      List.getElem?_set_self (by rw [List.length_set]; exact hlt')
    -- `r[P3]` is unchanged when the set was empty, and holds an integer else.
    have hd' : d'.WellFormed (n + 1) := by
      rcases hcase with ⟨-, -, -, rfl⟩ | ⟨-, hflags, -⟩
      · exact hmono d' (List.mem_of_getElem? hd)
      · refine .of_not_isRowSet ?_
        unfold RowSetMem.isRowSet
        rw [hflags]
        decide
    refine ⟨s.finish op (if isInterrupted then .abort_due_to_interrupt else exit)
        ((s.aMem.set op.p1.toNat c').set op.p3.toNat d') w', ?_,
      ⟨wellFormed_set (wellFormed_set hmono (hwf.mono (Nat.le_succ n))) hd', hw⟩, fun hint => ?_,
      fun hrun' => ?_, fun i hi => ?_⟩
    · simp only [hc, hd, hop, bind, Option.bind]
      rfl
    · have hint : isInterrupted = false := hint
      rw [hint, if_neg (by decide)]
      rcases hcase with ⟨rfl, -⟩ | ⟨rfl, -⟩
      · rfl
      · rfl
    · have hint : isInterrupted = false := by
        cases isInterrupted
        · rfl
        · cases hrun'
      subst hint
      -- Without an interrupt the exit says whether the set was empty.
      have hcontent := RowSetState.content_eq hc
      simp only [RowSetEvent.Does, hcontent]
      rcases hcase with ⟨rfl, hfresh, hempty, -⟩ | ⟨rfl, hflags, hleast, hrest⟩
      · refine ⟨⟨fun _ => hfresh, fun _ => rfl⟩, ?_, rfl⟩
        exact (RowSetState.content_eq hget).trans hempty
      · refine ⟨⟨fun h => (nomatch h), fun hnone => ?_⟩, ?_⟩
        · -- A set that yields a rowid is not empty.
          have hmem := hleast.1
          rw [hnone] at hmem
          exact absurd hmem (Finset.notMem_empty _)
        · exact ⟨d', hget', hflags, hleast, (RowSetState.content_eq hget).trans hrest, rfl⟩
    · have hi1 : op.p1.toNat ≠ i := fun h => hi (h ▸ List.mem_cons_self)
      have hi3 : op.p3.toNat ≠ i := fun h => hi (h ▸ List.mem_cons_of_mem _ List.mem_cons_self)
      exact (List.getElem?_set_ne hi3).trans (List.getElem?_set_ne hi1)
  | write i c pc world =>
    obtain ⟨hc, hw⟩ := ha
    refine ⟨_, rfl, ⟨wellFormed_set hmono (.of_not_isRowSet hc), hw⟩, fun _ => hrun, fun _ => rfl,
      fun j hj => ?_⟩
    exact List.getElem?_set_ne fun heq => hj (List.mem_singleton.mpr heq.symm)
  | elsewhere pc world =>
    exact ⟨_, rfl, ⟨hmono, ha⟩, fun _ => hrun, fun _ => rfl, fun _ _ => rfl⟩

end runs

end SQPyte
