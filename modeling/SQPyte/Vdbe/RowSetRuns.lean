import Mathlib.Data.Int.ConditionallyCompleteOrder
import SQPyte.Vdbe.RowSets

/-!
# Runs with `RowSet` registers

Along a run no opcode on a `RowSet` register fails, and each does what `RowSetEvent.Does` says
(`follows_rowSets_of_each`). Two things that such registers are used for follow.

Rowids that are collected with `OP_RowSetAdd` come out of `OP_RowSetRead` in increasing order, each of
them once (`rowSetRead_sorts`). This is followed by what has come out so far and what is still there.

With the terms of an `OR` as batches, `OP_RowSetTest` lets each rowid pass once that any term finds
(`rowSetTest_once`). What was observed of the tests so far tells the rowids that a test sees, and
those it does not see yet (`Recorded`).
-/

namespace SQPyte

variable {κ : Type} {L : CLib κ} {mallocFailed : κ → Bool} {n : ℕ} {s s' s₁ t : RowSetState κ}
  {e : RowSetEvent κ} {es es₁ es₂ : List (RowSetEvent κ)} {i : ℕ}

/-- The event happens, and does what it says. -/
def RowSetEvent.Proceeds (L : CLib κ) (mallocFailed : κ → Bool) (s : RowSetState κ)
    (e : RowSetEvent κ) : Prop :=
  s.running = true →
    ∃ s', RowSetState.step L mallocFailed s e = some s' ∧ RowSetFollows s e s'

/-- A step starts from a program that runs. -/
theorem RowSetState.running_of_step (h : RowSetState.step L mallocFailed s e = some s') :
    s.running = true := by
  unfold RowSetState.step at h
  split_ifs at h with hrun
  exact Bool.eq_true_of_not_eq_false hrun

/-- What a step that happens does. -/
theorem RowSetEvent.Proceeds.follows (h : e.Proceeds L mallocFailed s)
    (hs' : RowSetState.step L mallocFailed s e = some s') : RowSetFollows s e s' := by
  obtain ⟨s'', hs'', hfollows⟩ := h (RowSetState.running_of_step hs')
  obtain rfl := Option.some.inj (hs'.symm.trans hs'')
  exact hfollows

/-- A run that ends in a program that runs starts from one. -/
theorem RowSetState.running_of_after
    (h : Runs.after (RowSetState.step L mallocFailed) es s = some t) (hrun : t.running = true) :
    s.running = true := by
  cases es with
  | nil =>
    obtain rfl := Option.some.inj h
    exact hrun
  | cons e es =>
    obtain ⟨s', hs', -⟩ := Option.bind_eq_some_iff.mp h
    exact RowSetState.running_of_step hs'

/-- An opcode on registers with at most `n` new entries proceeds, and adds one at most. -/
theorem RowSetState.WellFormed.proceeds (hs : s.WellFormed mallocFailed n)
    (hL : L.Lawful mallocFailed) (hn : n < 2^40) (ha : e.Allowed mallocFailed s) :
    e.Proceeds L mallocFailed s ∧ ∀ s', RowSetState.step L mallocFailed s e = some s' →
      s'.WellFormed mallocFailed (n + 1) := by
  refine ⟨fun hrun => ?_, fun s' hs' => ?_⟩
  · obtain ⟨s', hs', -, hfollows⟩ := hs.step hL hn hrun ha
    exact ⟨s', hs', hfollows⟩
  · obtain ⟨s'', hs'', hwf, -⟩ := hs.step hL hn (RowSetState.running_of_step hs') ha
    obtain rfl := Option.some.inj (hs'.symm.trans hs'')
    exact hwf

/-- Along a run the opcodes proceed, and the registers stay well formed: the number of new entries is
at most that of the steps. -/
theorem proceeds_of_wellFormed (hL : L.Lawful mallocFailed) (hs : s.WellFormed mallocFailed n)
    (hlen : n + es.length ≤ 2^40)
    (hes : Runs.Each (RowSetState.step L mallocFailed) (fun s e => e.Allowed mallocFailed s) es s) :
    Runs.Each (RowSetState.step L mallocFailed) (fun s e => e.Proceeds L mallocFailed s) es s ∧
      Runs.Always (RowSetState.step L mallocFailed) (fun s => ∃ m, s.WellFormed mallocFailed m) es
        s :=
  Runs.Each.of_count (I := fun m s => s.WellFormed mallocFailed m)
    (fun _ _ _ hm hs ha => hs.proceeds hL hm ha) hs hlen hes

/-- No register is a `RowSet`, and there is memory. -/
structure RowSetState.Starts (mallocFailed : κ → Bool) (s : RowSetState κ) : Prop where
  /-- No register is a `RowSet`. -/
  registers : ∀ c ∈ s.aMem, c.isRowSet = false
  /-- No allocation has failed. -/
  memory : mallocFailed s.world = false

/-- A state at the start represents its rowids. -/
theorem RowSetState.Starts.wellFormed (h : s.Starts mallocFailed) : s.WellFormed mallocFailed 0 :=
  ⟨fun c hc => .of_not_isRowSet (h.registers c hc), h.memory⟩

/-- At the start all sets are empty. -/
theorem RowSetState.Starts.content (h : s.Starts mallocFailed) (i : ℕ) : s.content i = .empty := by
  unfold RowSetState.content
  cases hc : s.aMem[i]? with
  | none => rfl
  | some c => exact if_neg (by rw [h.registers c (List.mem_of_getElem? hc)]; decide)

/-- A register that is no `RowSet`. -/
def RowSetMem.of (c : Mem) : RowSetMem := ⟨c, ⟨0, [], none, [], 0, true, false, 0⟩⟩

/-- An empty register for rowids, two rowids, and an output register. -/
def twoRowids : RowSetState Unit :=
  ⟨0, false, [.of Mem.ofNull, .of (Mem.ofInt 7), .of (Mem.ofInt 5), .of Mem.ofNull], (), true⟩

/-- The state is one at the start. -/
theorem twoRowids_starts : twoRowids.Starts fun _ => false :=
  ⟨by decide, rfl⟩

/-- `OP_RowSetAdd` of the rowid in a register. -/
def rowSetAdd (p2 : ℤ) : RowSetEvent Unit := .RowSetAdd ⟨.RowSetAdd, 0, p2, 0, .NOTUSED, 0⟩
/-- `OP_RowSetTest` of the rowid in a register, for a batch. -/
def rowSetTest (iSet p3 : ℤ) : RowSetEvent Unit := .RowSetTest ⟨.RowSetTest, 0, 9, p3, .INT32 iSet, 0⟩
/-- `OP_RowSetRead`. -/
def rowSetRead : RowSetEvent Unit := .RowSetRead ⟨.RowSetRead, 0, 9, 3, .NOTUSED, 0⟩ false

/-- Both rowids are tested in register 0, one of them again in the last batch. In between, register 3
collects a rowid and gives it back. -/
def twoBatches : List (RowSetEvent Unit) :=
  [rowSetTest 0 2, .RowSetAdd ⟨.RowSetAdd, 3, 1, 0, .NOTUSED, 0⟩, rowSetTest 0 1,
    rowSetTest (-1) 2, .RowSetRead ⟨.RowSetRead, 3, 9, 1, .NOTUSED, 0⟩ false]

/-- The batches come in order. -/
theorem twoBatches_allowed : Runs.Each (RowSetState.step CLib.decimal fun _ => false)
    (fun s e => e.Allowed (fun _ => false) s) twoBatches twoRowids := by
  decide +kernel

/-- Rowids are collected in register 0, and one is read. -/
theorem twoRowids_allowed : Runs.Each (RowSetState.step CLib.decimal fun _ => false)
    (fun s e => e.Allowed (fun _ => false) s) [rowSetAdd 1, rowSetAdd 2, rowSetRead] twoRowids := by
  decide +kernel

/-- The trees are search trees, and have hardly more levels than they need. -/
theorem rowSet_trees_of_each (hL : L.Lawful mallocFailed) (hs : s.Starts mallocFailed)
    (hlen : es.length ≤ 2^40)
    (hes : Runs.Each (RowSetState.step L mallocFailed) (fun s e => e.Allowed mallocFailed s) es s) :
    Runs.Always (RowSetState.step L mallocFailed) (fun s => ∀ c ∈ s.aMem, c.isRowSet = true →
      ∀ tree ∈ c.pRowSet.pForest, tree.Ordered ∧
        (tree ≠ .leaf → tree.height ≤ Nat.log 2 tree.toList.length + 1)) es s := by
  refine (proceeds_of_wellFormed hL hs.wellFormed (by omega) hes).2.mono ?_
  rintro u ⟨m, hwf⟩ c hc hrow tree htree
  have hgrown := ((hwf.registers c hc).rowSet hrow).grown
  refine ⟨hgrown.ordered tree htree, fun hne => ?_⟩
  have hpow := hgrown.height_le tree htree hne
  have hpos : tree.toList.length ≠ 0 := by
    intro hzero
    rw [hzero] at hpow
    exact absurd hpow (by simp)
  rw [← Nat.log_mul_base (by decide) hpos, Nat.mul_comm]
  exact Nat.le_log_of_pow_le (by decide) hpow

/-- The last batch plants a tree of the two rowids of the first one. -/
theorem rowSet_trees_twoRowids : (∃ t,
    Runs.after (RowSetState.step CLib.decimal fun _ => false) twoBatches twoRowids = some t ∧
      (t.aMem.map fun c => c.pRowSet.pForest.map SearchTree.toList) = [[[5, 7]], [], [], []]) ∧
    Runs.Always (RowSetState.step CLib.decimal fun _ => false)
      (fun s => ∀ c ∈ s.aMem, c.isRowSet = true → ∀ tree ∈ c.pRowSet.pForest, tree.Ordered ∧
        (tree ≠ .leaf → tree.height ≤ Nat.log 2 tree.toList.length + 1)) twoBatches twoRowids := by
  refine ⟨?_, ?_⟩
  · exact Option.map_eq_some_iff.mp (by decide +kernel)
  · exact rowSet_trees_of_each CLib.lawful_decimal twoRowids_starts (by decide) twoBatches_allowed

/-- A step keeps the sets that it does not write. -/
theorem RowSetFollows.content_eq (h : RowSetFollows s e s') (hi : i ∉ e.writes) :
    s'.content i = s.content i := by
  unfold RowSetState.content
  rw [h.others i hi]

/-! ## Adding and reading -/

/-- The rowid in a register. -/
def RowSetState.rowids (s : RowSetState κ) (j : ℕ) : List ℤ := (s.aMem[j]?.map fun c => c.u_i).toList

/-- The rowids of a register with a number. -/
theorem RowSetState.rowids_eq {j : ℕ} {c : RowSetMem} (h : s.aMem[j]? = some c) :
    s.rowids j = [c.u_i] := by
  unfold RowSetState.rowids
  rw [h]
  rfl

/-- What an event adds to the register `i`. -/
def addedTo (i : ℕ) (s : RowSetState κ) (e : RowSetEvent κ) (_ : RowSetState κ) : List ℤ :=
  match e with
  | .RowSetAdd op => if op.p1.toNat = i then s.rowids op.p2.toNat else []
  | _ => []

/-- What an event reads from the register `i`. -/
def readFrom (i : ℕ) (_ : RowSetState κ) (e : RowSetEvent κ) (s' : RowSetState κ) : List ℤ :=
  match e with
  | .RowSetRead op _ =>
    if op.p1.toNat = i ∧ s'.jumped = false then s'.rowids op.p3.toNat else []
  | _ => []

/-- What is added along a run is in the register. -/
theorem fresh_of_adds (hes : Runs.Each (RowSetState.step L mallocFailed)
      (fun s e => e.Proceeds L mallocFailed s ∧ (i ∈ e.writes → ∃ op, e = .RowSetAdd op)) es s)
    (ht : Runs.after (RowSetState.step L mallocFailed) es s = some t) (hrun : t.running = true) :
    (t.content i).fresh = (s.content i).fresh ∪
      (Runs.observed (RowSetState.step L mallocFailed) (addedTo i) es s).toFinset := by
  have hrule := Runs.Each.observed (f := addedTo i)
    (I := fun os u => u.running = true → (u.content i).fresh = (s.content i).fresh ∪ os.toFinset)
    (fun os u e u' hI hC hu' hrun' => ?_) [] (fun _ => ?_) hes ht hrun
  · exact hrule
  · have hrun := RowSetState.running_of_step hu'
    have hfollows := hC.1.follows hu'
    by_cases hi : i ∈ e.writes
    · obtain ⟨op, rfl⟩ := hC.2 hi
      obtain rfl := List.mem_singleton.mp hi
      obtain ⟨c, hc, hcontent, -⟩ := hfollows.does hrun'
      have hadd : addedTo op.p1.toNat u (.RowSetAdd op) u' = [c.u_i] :=
        (if_pos rfl).trans (RowSetState.rowids_eq hc)
      rw [hcontent, hadd, List.toFinset_append, ← Finset.union_assoc, ← hI hrun]
      exact Finset.insert_eq _ _ |>.trans (Finset.union_comm _ _)
    · have hadd : addedTo i u e u' = [] := by
        cases e with
        | RowSetAdd op => exact if_neg fun h => hi (List.mem_singleton.mpr h.symm)
        | _ => rfl
      rw [hfollows.content_eq hi, hadd, List.append_nil]
      exact hI hrun
  · rw [List.toFinset_nil, Finset.union_empty]

/-- The least element comes first. -/
theorem sort_of_isLeast {S : Finset ℤ} {v : ℤ} (h : IsLeast {x | x ∈ S} v) :
    S.sort = v :: (S.erase v).sort := by
  have hmem : v ∈ S := h.1
  have hle : ∀ b ∈ S.erase v, v ≤ b := fun b hb => h.2 (Finset.mem_of_mem_erase hb)
  calc S.sort = (insert v (S.erase v)).sort := by rw [Finset.insert_erase hmem]
    _ = v :: (S.erase v).sort := Finset.sort_insert _ hle (Finset.notMem_erase v S)

/-- What is read along a run, and then what is still there, is in order. -/
theorem sort_of_reads (hes : Runs.Each (RowSetState.step L mallocFailed)
      (fun s e => e.Proceeds L mallocFailed s ∧
        (i ∈ e.writes → ∃ op isInterrupted, e = .RowSetRead op isInterrupted ∧ op.p1.toNat = i)) es s)
    (ht : Runs.after (RowSetState.step L mallocFailed) es s = some t) (hrun : t.running = true) :
    Runs.observed (RowSetState.step L mallocFailed) (readFrom i) es s ++ (t.content i).fresh.sort =
      (s.content i).fresh.sort := by
  have hrule := Runs.Each.observed (f := readFrom i)
    (I := fun os u => u.running = true → os ++ (u.content i).fresh.sort = (s.content i).fresh.sort)
    (fun os u e u' hI hC hu' hrun' => ?_) [] (fun _ => rfl) hes ht hrun
  · exact hrule
  · have hrun := RowSetState.running_of_step hu'
    have hfollows := hC.1.follows hu'
    rw [List.append_assoc, ← hI hrun]
    congr 1
    by_cases hi : i ∈ e.writes
    · obtain ⟨op, isInterrupted, rfl, rfl⟩ := hC.2 hi
      obtain ⟨hjump, hcase⟩ := hfollows.does hrun'
      cases hjumped : u'.jumped
      · -- The least rowid was read.
        rw [hjumped, if_neg (by decide)] at hcase
        obtain ⟨c, hc, -, hleast, hcontent, -⟩ := hcase
        have hread : readFrom op.p1.toNat u (.RowSetRead op isInterrupted) u' = [c.u_i] :=
          (if_pos ⟨rfl, hjumped⟩).trans (RowSetState.rowids_eq hc)
        rw [hread, hcontent, sort_of_isLeast hleast]
        rfl
      · -- There was none.
        have hread : readFrom op.p1.toNat u (.RowSetRead op isInterrupted) u' = [] :=
          if_neg fun h => by rw [hjumped] at h; cases h.2
        rw [hjumped, if_pos rfl] at hcase
        rw [hread, hcase.1, hjump.mp hjumped]
        rfl
    · have hread : readFrom i u e u' = [] := by
        cases e with
        | RowSetRead op isInterrupted =>
          refine if_neg fun h => hi ?_
          rw [← h.1]
          exact List.mem_cons_self
        | _ => rfl
      rw [hread, hfollows.content_eq hi]
      rfl

/-- Rowids that are added to a register come out of it in increasing order, each of them once. -/
theorem rowSetRead_sorts (hL : L.Lawful mallocFailed) (hs : s.Starts mallocFailed)
    (hlen : (es₁ ++ es₂).length ≤ 2^40)
    (hes : Runs.Each (RowSetState.step L mallocFailed) (fun s e => e.Allowed mallocFailed s)
      (es₁ ++ es₂) s)
    (hadds : ∀ e ∈ es₁, i ∈ e.writes → ∃ op, e = .RowSetAdd op)
    (hreads : ∀ e ∈ es₂, i ∈ e.writes →
      ∃ op isInterrupted, e = .RowSetRead op isInterrupted ∧ op.p1.toNat = i)
    (h₁ : Runs.after (RowSetState.step L mallocFailed) es₁ s = some s₁)
    (ht : Runs.after (RowSetState.step L mallocFailed) es₂ s₁ = some t) (hrun : t.running = true) :
    Runs.observed (RowSetState.step L mallocFailed) (readFrom i) es₂ s₁ ++
        (t.content i).fresh.sort =
      (Runs.observed (RowSetState.step L mallocFailed) (addedTo i) es₁ s).toFinset.sort := by
  have hproceeds := (proceeds_of_wellFormed hL hs.wellFormed (by omega) hes).1
  have hfresh := fresh_of_adds (hproceeds.front.and_forall hadds) h₁
    (RowSetState.running_of_after ht hrun)
  rw [hs.content i] at hfresh
  calc Runs.observed (RowSetState.step L mallocFailed) (readFrom i) es₂ s₁ ++
          (t.content i).fresh.sort
      = (s₁.content i).fresh.sort :=
        sort_of_reads ((hproceeds.after h₁).and_forall hreads) ht hrun
    _ = (Runs.observed (RowSetState.step L mallocFailed) (addedTo i) es₁ s).toFinset.sort := by
        rw [hfresh, show RowIds.empty.fresh = ∅ from rfl, Finset.empty_union]

/-- 7 and 5 are added, and 5 is read first. -/
theorem rowSetRead_sorts_twoRowids : ∃ s₁ t,
    Runs.after (RowSetState.step CLib.decimal fun _ => false) [rowSetAdd 1, rowSetAdd 2]
      twoRowids = some s₁ ∧
    Runs.after (RowSetState.step CLib.decimal fun _ => false) [rowSetRead] s₁ = some t ∧
    Runs.observed (RowSetState.step CLib.decimal fun _ => false) (readFrom 0) [rowSetRead] s₁ ++
      (t.content 0).fresh.sort = [5, 7] := by
  obtain ⟨s₁, h₁⟩ : ∃ s₁, Runs.after (RowSetState.step CLib.decimal fun _ => false)
      [rowSetAdd 1, rowSetAdd 2] twoRowids = some s₁ := ⟨_, rfl⟩
  obtain ⟨t, ht, hrun⟩ : ∃ t, Runs.after (RowSetState.step CLib.decimal fun _ => false) [rowSetRead]
      s₁ = some t ∧ t.running = true := by
    obtain rfl := Option.some.inj h₁
    exact Option.map_eq_some_iff.mp (by decide +kernel)
  refine ⟨s₁, t, h₁, ht, ?_⟩
  have hwrites : ∀ e ∈ [rowSetAdd 1, rowSetAdd 2], 0 ∈ e.writes → ∃ op, e = .RowSetAdd op := by
    simp [rowSetAdd]
  have hreads : ∀ e ∈ [rowSetRead], 0 ∈ e.writes →
      ∃ op isInterrupted, e = .RowSetRead op isInterrupted ∧ op.p1.toNat = 0 := by
    simp [rowSetRead]
  rw [rowSetRead_sorts CLib.lawful_decimal twoRowids_starts (by decide) twoRowids_allowed hwrites
    hreads h₁ ht hrun]
  have hadded : (Runs.observed (RowSetState.step CLib.decimal fun _ => false) (addedTo 0)
      [rowSetAdd 1, rowSetAdd 2] twoRowids).toFinset = [5, 7].toFinset := by decide +kernel
  rw [hadded]
  exact (List.toFinset_sort (· ≤ ·) (by decide)).mpr (by decide)

/-! ## Testing in batches -/

/-- A test: the number of its batch, the rowid, and whether it passed. -/
structure RowSetProbe where
  /-- The batch. -/
  iSet : ℤ
  /-- The rowid that was tested. -/
  iRowid : ℤ
  /-- It was in no earlier batch. -/
  passed : Bool

/-- What an event tests the register `i` for. -/
def testedIn (i : ℕ) (s : RowSetState κ) (e : RowSetEvent κ) (s' : RowSetState κ) :
    List RowSetProbe :=
  match e with
  | .RowSetTest op =>
    if op.p1.toNat = i then (s.rowids op.p3.toNat).map fun v => ⟨op.p4_i, v, !s'.jumped⟩ else []
  | _ => []

/-- The batches are numbered from zero upwards, and the last one is -1. -/
def SetPrecedes (a b : ℤ) : Prop := a = b ∨ (a ≠ -1 ∧ (b = -1 ∨ a < b))

/-- The order of two tests: batches come one after the other, and no rowid comes twice in one. -/
def RowSetProbe.Before (a b : RowSetProbe) : Prop :=
  SetPrecedes a.iSet b.iSet ∧ (a.iSet = b.iSet → a.iRowid ≠ b.iRowid)

/-- The rowids that passed. -/
def passedRowids (os : List RowSetProbe) : List ℤ :=
  (os.filter fun a => a.passed).map fun a => a.iRowid

/-- The rowids whose tests were passed. -/
theorem mem_passedRowids {os : List RowSetProbe} {x : ℤ} :
    x ∈ passedRowids os ↔ ∃ a ∈ os, a.passed = true ∧ a.iRowid = x := by
  unfold passedRowids
  simp only [List.mem_map, List.mem_filter, and_assoc]

/-- One test more. -/
theorem passedRowids_append (os : List RowSetProbe) (a : RowSetProbe) :
    passedRowids (os ++ [a]) = passedRowids os ++ if a.passed then [a.iRowid] else [] := by
  unfold passedRowids
  rw [List.filter_append, List.map_append]
  cases ha : a.passed <;> simp [ha]

/-- The rowids of a register after some tests. -/
structure Recorded (os : List RowSetProbe) (ids : RowIds) : Prop where
  /-- A test sees what passed in other batches. -/
  tested : ∀ x, x ∈ ids.tested ↔ ∃ a ∈ os, a.passed = true ∧ a.iSet ≠ ids.iBatch ∧ a.iRowid = x
  /-- It does not see what passed in this one. -/
  fresh : ids.iBatch ≠ -1 →
    ∀ x, x ∈ ids.fresh ↔ ∃ a ∈ os, a.passed = true ∧ a.iSet = ids.iBatch ∧ a.iRowid = x

/-- The register after some tests, all of which were for the current batch or one before. -/
structure Probed (os : List RowSetProbe) (ids : RowIds) : Prop extends Recorded os ids where
  /-- No batch comes after the current one. -/
  before : ∀ a ∈ os, SetPrecedes a.iSet ids.iBatch
  /-- The current batch is one of the tests', or the first. -/
  current : ids.iBatch = 0 ∨ ∃ a ∈ os, a.iSet = ids.iBatch
  /-- Batches are numbered from zero, apart from the last. -/
  sets : ∀ a ∈ os, a.iSet = -1 ∨ 0 ≤ a.iSet
  /-- No rowid passed twice. -/
  nodup : (passedRowids os).Nodup
  /-- Each rowid passed. -/
  covers : ∀ a ∈ os, a.iRowid ∈ passedRowids os

/-- Without tests the set is empty. -/
theorem Probed.nil : Probed [] .empty where
  tested x := by simp [RowIds.empty]
  fresh _ x := by simp [RowIds.empty]
  before a ha := absurd ha List.not_mem_nil
  current := Or.inl rfl
  sets a ha := absurd ha List.not_mem_nil
  nodup := List.nodup_nil
  covers a ha := absurd ha List.not_mem_nil

/-- The rowids that the next test sees. -/
theorem Probed.switch {os : List RowSetProbe} {ids : RowIds} {b : ℤ} (h : Probed os ids)
    (hb : b = -1 ∨ 0 ≤ b) (hbefore : ∀ a ∈ os, SetPrecedes a.iSet b) :
    ∃ ids', ids' = (if b = 0 then ids else ids.switch b) ∧ Recorded os ids' ∧ ids'.iBatch = b ∧
      (b = 0 → ids'.tested = ∅) := by
  have hcurrent : ids.iBatch = 0 ∨ (SetPrecedes ids.iBatch b ∧
      (ids.iBatch = -1 ∨ 0 ≤ ids.iBatch)) := by
    rcases h.current with hzero | ⟨a, ha, heq⟩
    · exact Or.inl hzero
    · exact Or.inr (heq ▸ ⟨hbefore a ha, h.sets a ha⟩)
  unfold SetPrecedes at hcurrent hbefore
  by_cases hzero : b = 0
  · -- In the first batch, there is nothing to see.
    have hbatch : ids.iBatch = 0 := by omega
    refine ⟨ids, (if_pos hzero).symm, h.toRecorded, by omega, fun _ => ?_⟩
    rw [Finset.eq_empty_iff_forall_notMem]
    intro x hx
    obtain ⟨a, ha, -, hne, -⟩ := (h.tested x).mp hx
    have hle := hbefore a ha
    have hset := h.sets a ha
    omega
  rw [if_neg hzero]
  unfold RowIds.switch
  by_cases hsame : b = ids.iBatch
  · rw [if_pos hsame]
    exact ⟨ids, rfl, h.toRecorded, hsame.symm, fun hb' => absurd hb' hzero⟩
  · -- All rowids that passed are of other batches.
    rw [if_neg hsame]
    have hother : ∀ a ∈ os, a.iSet ≠ b := by
      intro a ha heq
      have hle := h.before a ha
      unfold SetPrecedes at hle
      omega
    have hlast : ids.iBatch ≠ -1 := by omega
    refine ⟨_, rfl, ⟨fun x => ?_, fun _ x => ?_⟩, rfl, fun hb' => absurd hb' hzero⟩
    · rw [Finset.mem_union, h.tested, h.fresh hlast]
      constructor
      · rintro (⟨a, ha, hp, -, hx⟩ | ⟨a, ha, hp, -, hx⟩)
        · exact ⟨a, ha, hp, hother a ha, hx⟩
        · exact ⟨a, ha, hp, hother a ha, hx⟩
      · rintro ⟨a, ha, hp, -, hx⟩
        by_cases heq : a.iSet = ids.iBatch
        · exact Or.inr ⟨a, ha, hp, heq, hx⟩
        · exact Or.inl ⟨a, ha, hp, heq, hx⟩
    · refine ⟨fun hx => absurd hx (Finset.notMem_empty x), ?_⟩
      rintro ⟨a, ha, -, heq, -⟩
      exact absurd heq (hother a ha)

/-- A test in the order of batches. -/
theorem Probed.append {os : List RowSetProbe} {ids ids' : RowIds} {a : RowSetProbe}
    (h : Probed os ids) (hset : a.iSet = -1 ∨ 0 ≤ a.iSet) (hbefore : ∀ o ∈ os, o.Before a)
    (hids : ids' = if a.iSet = 0 then ids else ids.switch a.iSet)
    (hpassed : a.passed = false ↔ a.iSet ≠ 0 ∧ a.iRowid ∈ ids'.tested) :
    Probed (os ++ [a])
      (if a.passed = true ∧ 0 ≤ a.iSet then ids'.insert a.iRowid else ids') := by
  -- First the set takes over the batch of the new probe, which tests nothing yet.
  obtain ⟨_, rfl, hrec, hbatch, hzero⟩ := h.switch hset fun o ho => (hbefore o ho).1
  rw [← hids] at hrec hbatch hzero
  -- The insertion that may follow leaves the batch and the earlier batches alone.
  have hbatch' : (if a.passed = true ∧ 0 ≤ a.iSet then ids'.insert a.iRowid else ids').iBatch =
      a.iSet := by
    split_ifs
    · exact hbatch
    · exact hbatch
  have htested' : (if a.passed = true ∧ 0 ≤ a.iSet then ids'.insert a.iRowid else ids').tested =
      ids'.tested := by
    split_ifs <;> rfl
  have hmem : ∀ P : RowSetProbe → Prop, (∃ o ∈ os ++ [a], P o) ↔ (∃ o ∈ os, P o) ∨ P a := by
    intro P
    simp only [List.mem_append, List.mem_singleton, or_and_right, exists_or, exists_eq_left]
  refine ⟨⟨fun x => ?_, fun hlast x => ?_⟩, fun o ho => ?_, ?_, fun o ho => ?_, ?_, fun o ho => ?_⟩
  · -- The new probe is of the current batch, so it is in no earlier one.
    rw [htested', hbatch', hrec.tested, hmem, hbatch]
    exact ⟨Or.inl, fun h => h.resolve_right fun h => h.2.1 rfl⟩
  · -- The current batch gains the probe's rowid when it passed.
    rw [hbatch'] at hlast ⊢
    have hpos : 0 ≤ a.iSet := hset.resolve_left hlast
    have hfresh := hrec.fresh (by rw [hbatch]; exact hlast) x
    rw [hbatch] at hfresh
    rw [hmem, ← hfresh]
    cases hp : a.passed
    · rw [if_neg fun h => by cases h.1]
      exact ⟨Or.inl, fun h => h.resolve_right fun h => by cases h.1⟩
    · rw [if_pos ⟨rfl, hpos⟩]
      unfold RowIds.insert
      rw [Finset.mem_insert]
      constructor
      · rintro (rfl | hx)
        · exact Or.inr ⟨rfl, rfl, rfl⟩
        · exact Or.inl hx
      · rintro (hx | ⟨-, -, rfl⟩)
        · exact Or.inr hx
        · exact Or.inl rfl
  · -- Earlier probes have no later batch than this one.
    rw [hbatch']
    -- A rowid that did not pass had passed in an earlier batch.
    rcases List.mem_append.mp ho with ho | ho
    · exact (hbefore o ho).1
    · obtain rfl := List.mem_singleton.mp ho
      exact Or.inl rfl
  · rw [hbatch']
    exact Or.inr ⟨a, List.mem_append_right os (List.mem_singleton_self a), rfl⟩
  · rcases List.mem_append.mp ho with ho | ho
    · exact h.sets o ho
    · obtain rfl := List.mem_singleton.mp ho
      exact hset
  · rw [passedRowids_append]
    cases hp : a.passed
    · rw [if_neg (by decide), List.append_nil]
      exact h.nodup
    · -- What passes now did not pass before, neither in this batch nor in another.
      rw [if_pos rfl]
      apply List.nodup_append.mpr
      refine ⟨h.nodup, List.nodup_singleton _, fun x hx y hy heq => ?_⟩
      obtain rfl := List.mem_singleton.mp hy
      obtain ⟨o, ho, hop, hox⟩ := mem_passedRowids.mp hx
      by_cases hsame : o.iSet = a.iSet
      · exact (hbefore o ho).2 hsame (hox.trans heq)
      · have hin : a.iRowid ∈ ids'.tested :=
          (hrec.tested _).mpr ⟨o, ho, hop, hbatch.symm ▸ hsame, hox.trans heq⟩
        by_cases hz : a.iSet = 0
        · rw [hzero hz] at hin
          exact absurd hin (Finset.notMem_empty _)
        · rw [hpassed.mpr ⟨hz, hin⟩] at hp
          cases hp
  · rw [passedRowids_append, List.mem_append]
    rcases List.mem_append.mp ho with ho | ho
    · exact Or.inl (h.covers o ho)
    · obtain rfl := List.mem_singleton.mp ho
      cases hp : o.passed
      · obtain ⟨a', ha', hpa, -, hx⟩ := (hrec.tested _).mp (hpassed.mp hp).2
        exact Or.inl (mem_passedRowids.mpr ⟨a', ha', hpa, hx⟩)
      · exact Or.inr (List.mem_singleton_self _)

/-- The tests of a run, as long as they come in the order of batches. -/
theorem probed_of_tests (hs : s.content i = .empty)
    (hes : Runs.Each (RowSetState.step L mallocFailed)
      (fun s e => (e.Proceeds L mallocFailed s ∧ e.Allowed mallocFailed s) ∧
        (i ∈ e.writes → ∃ op, e = .RowSetTest op)) es s)
    (ht : Runs.after (RowSetState.step L mallocFailed) es s = some t) (hrun : t.running = true)
    (horder : (Runs.observed (RowSetState.step L mallocFailed) (testedIn i) es s).Pairwise
      RowSetProbe.Before) :
    Probed (Runs.observed (RowSetState.step L mallocFailed) (testedIn i) es s) (t.content i) := by
  have hrule := Runs.Each.observed (f := testedIn i)
    (I := fun os u => u.running = true → os.Pairwise RowSetProbe.Before → Probed os (u.content i))
    (fun os u e u' hI hC hu' hrun' horder' => ?_) [] (fun _ _ => ?_) hes ht hrun horder
  · exact hrule
  · have hrun := RowSetState.running_of_step hu'
    have hfollows := hC.1.1.follows hu'
    obtain ⟨hos, -, hbefore⟩ := List.pairwise_append.mp horder'
    have hprobed := hI hrun hos
    by_cases hi : i ∈ e.writes
    · obtain ⟨op, rfl⟩ := hC.2 hi
      obtain rfl := List.mem_singleton.mp hi
      obtain ⟨c, ids, hc, hids, hjumped, hcontent, -⟩ := hfollows.does hrun'
      have hobs : testedIn op.p1.toNat u (.RowSetTest op) u' = [⟨op.p4_i, c.u_i, !u'.jumped⟩] := by
        refine (if_pos rfl).trans ?_
        rw [RowSetState.rowids_eq hc]
        rfl
      rw [hobs] at hbefore ⊢
      have happend := hprobed.append (a := ⟨op.p4_i, c.u_i, !u'.jumped⟩) hC.1.2.1
        (fun o ho => hbefore o ho _ (List.mem_singleton_self _)) hids (by
          rw [← hjumped]
          cases u'.jumped <;> simp)
      rw [hcontent]
      cases hj : u'.jumped
      · simpa [hj] using happend
      · simpa [hj] using happend
    · have hobs : testedIn i u e u' = [] := by
        cases e with
        | RowSetTest op => exact if_neg fun h => hi (List.mem_singleton.mpr h.symm)
        | _ => rfl
      rw [hobs, List.append_nil, hfollows.content_eq hi]
      exact hprobed
  · rw [hs]
    exact Probed.nil

/-- Of the rowids that the terms of an `OR` find, one after the other, each passes once. -/
theorem rowSetTest_once (hL : L.Lawful mallocFailed) (hs : s.Starts mallocFailed)
    (hlen : es.length ≤ 2^40)
    (hes : Runs.Each (RowSetState.step L mallocFailed) (fun s e => e.Allowed mallocFailed s) es s)
    (htests : ∀ e ∈ es, i ∈ e.writes → ∃ op, e = .RowSetTest op)
    (ht : Runs.after (RowSetState.step L mallocFailed) es s = some t) (hrun : t.running = true)
    (horder : (Runs.observed (RowSetState.step L mallocFailed) (testedIn i) es s).Pairwise
      RowSetProbe.Before) :
    (passedRowids (Runs.observed (RowSetState.step L mallocFailed) (testedIn i) es s)).Nodup ∧
      ∀ a ∈ Runs.observed (RowSetState.step L mallocFailed) (testedIn i) es s,
        a.iRowid ∈ passedRowids
          (Runs.observed (RowSetState.step L mallocFailed) (testedIn i) es s) := by
  have hproceeds := (proceeds_of_wellFormed hL hs.wellFormed (by omega) hes).1
  have hprobed := probed_of_tests (hs.content i) ((hproceeds.and hes).and_forall htests) ht hrun horder
  exact ⟨hprobed.nodup, hprobed.covers⟩

instance : DecidableRel RowSetProbe.Before := fun a b => by
  unfold RowSetProbe.Before SetPrecedes
  exact inferInstance

/-- The second term finds one rowid of the first term again. -/
theorem rowSetTest_once_twoRowids : ∃ t,
    Runs.after (RowSetState.step CLib.decimal fun _ => false)
      [rowSetTest 0 2, rowSetTest 0 1, rowSetTest (-1) 2] twoRowids = some t ∧
    (passedRowids (Runs.observed (RowSetState.step CLib.decimal fun _ => false) (testedIn 0)
      [rowSetTest 0 2, rowSetTest 0 1, rowSetTest (-1) 2] twoRowids)).Nodup := by
  obtain ⟨t, ht, hrun⟩ : ∃ t, Runs.after (RowSetState.step CLib.decimal fun _ => false)
      [rowSetTest 0 2, rowSetTest 0 1, rowSetTest (-1) 2] twoRowids = some t ∧ t.running = true :=
    Option.map_eq_some_iff.mp (by decide +kernel)
  refine ⟨t, ht, ?_⟩
  have hes : Runs.Each (RowSetState.step CLib.decimal fun _ => false)
      (fun s e => e.Allowed (fun _ => false) s)
      [rowSetTest 0 2, rowSetTest 0 1, rowSetTest (-1) 2] twoRowids := by
    decide +kernel
  exact (rowSetTest_once (i := 0) CLib.lawful_decimal twoRowids_starts (by decide) hes
    (by simp [rowSetTest]) ht hrun (by decide +kernel)).1

end SQPyte
