import SQPyte.Vdbe.Resumption

/-!
# The columns of the current row

`columnMem` is to give the cell of a column of the current row, and otherwise a NULL that is no
register. It indexes the list of registers with `result_set_index + i`, which is `-1 + i` where
there is no current row, and checks neither that there is one nor the number of its columns. So it
does what its docstring says exactly where there is a current row with that column
(`columnMemRight_iff`): elsewhere it gives some register, or raises an exception.
-/

namespace SQPyte

open Commands

variable {κ : Type} (B : Backend κ) (program : Program)

/-- There is a current row, and `start` is its first register. -/
def CurrentRow (q : Query κ) (start : ℤ) : Prop :=
  ∃ pc op, q.control = .outside (.row pc) ∧ program.hlops[pc]? = some (.op op) ∧
    op.opcode = .ResultRow ∧ op.p1 = start

/-- There is a current row, and it has a column `iCol`. -/
def InCurrentRow (q : Query κ) (iCol : ℤ) : Prop :=
  (∃ start, CurrentRow program q start) ∧ 0 ≤ iCol ∧ iCol < q.machine.rest.p.nResColumn

/-- `columnMem` gives the column of the current row, or else a NULL that is no register. -/
structure ColumnMemRight (q : Query κ) (iCol : ℤ) : Prop where
  /-- A column of the current row. -/
  column : InCurrentRow program q iCol → ∀ start, CurrentRow program q start →
    (q.call (columnMem iCol)).1 = .ok (start + iCol).toNat
  /-- Anything else. -/
  null : ¬ InCurrentRow program q iCol → ∃ k pMem, (q.call (columnMem iCol)).1 = .ok k ∧
    q.machine.nMem < k ∧ q.machine.mems[k]? = some pMem ∧ pMem.flags.has MEM_Null = true

/-- Between a row and the next event that can end it, `result_set_index` is its first register, and
its columns are registers. -/
def RowIndexed (q : Query κ) : Prop :=
  match q.control with
  | .outside (.row pc) => ∃ op, program.hlops[pc]? = some (.op op) ∧ op.opcode = .ResultRow ∧
      q.machine.rest.result_set_index = op.p1 ∧ ∀ i < q.machine.rest.p.nResColumn, ∃ k,
        Machine.memIndex q.machine.mems.length q.machine.nMem (op.p1 + i) = .ok k
  | .outside _ => True
  | .inside _ _ _ => q.machine.cache.Entered

variable {B program}

/-- In a new query the index of the row is right. -/
theorem Query.Prepared.rowIndexed {q : Query κ} (hq : q.Prepared) : RowIndexed program q := by
  unfold RowIndexed
  rw [hq.control]
  trivial

/-- What a method or another statement does keeps the row. -/
theorem RowIndexed.of_kept {q q' : Query κ} {last : Ending} (hq : RowIndexed program q)
    (hlast : q.control = .outside last) (hcontrol : q'.control = q.control)
    (hnMem : q'.machine.nMem = q.machine.nMem)
    (hlength : q'.machine.mems.length = q.machine.mems.length)
    (hposition : q'.machine.rest.position = q.machine.rest.position) : RowIndexed program q' := by
  have hcount : q'.machine.rest.p.nResColumn = q.machine.rest.p.nResColumn :=
    congrArg (fun x => x.2.2.1) hposition
  have hindex : q'.machine.rest.result_set_index = q.machine.rest.result_set_index :=
    congrArg (fun x => x.2.2.2) hposition
  unfold RowIndexed at hq ⊢
  rw [hcontrol, hlast]
  rw [hlast] at hq
  cases last with
  | row pc =>
    obtain ⟨op, hpc, hop, hstart, hcols⟩ := hq
    refine ⟨op, hpc, hop, hindex.trans hstart, fun i hi => ?_⟩
    rw [hlength, hnMem]
    exact hcols i (hcount ▸ hi)
  | _ => trivial

/-- One turn of the loop. -/
theorem turn_rowIndexed {q : Query κ} {pc rc : ℕ} {cs : CacheState} (hq : RowIndexed program q)
    (hinside : q.control = .inside pc rc cs) :
    RowIndexed program (q.turn B program pc rc cs) := by
  unfold RowIndexed at hq
  rw [hinside] at hq
  have hturned := turn_turned B program q pc rc cs hq
  generalize q.turn B program pc rc cs = q' at hturned ⊢
  cases hturned with
  | ended => trivial
  | index => trivial
  | raised => trivial
  | left hrc instr hpc ending m hturn =>
    have hmagic : HasMagic q.machine.rest.p.magic
        { q.machine with cache := q.machine.cache.reveal cs } := rfl
    have hsound := iteration_triple B q.machine.nMem pc rc instr _ hmagic _ m
      (runTo_eq_ok_iff.mp hturn)
    cases ending with
    | row pc' =>
      obtain ⟨rfl, op, rfl, hop, hrow⟩ := hsound
      exact ⟨op, hpc, hop, hrow.start, hrow.columns⟩
    | _ => trivial
  | again hrc instr hpc pc' rc' m hturn cache hentered => exact hentered

/-- Every step keeps the row. -/
theorem step_rowIndexed {q q' : Query κ} {e : Event κ} (hq : RowIndexed program q)
    (hstep : q.step B program e = some q') : RowIndexed program q' := by
  unfold Query.step at hstep
  cases e with
  | mainloop =>
    cases hcontrol : q.control with
    | inside pc rc cs => simp [hcontrol] at hstep
    | outside last =>
      simp only [hcontrol, Option.some.injEq] at hstep
      subst hstep
      rcases enter_cases q with ⟨e, heq⟩ | ⟨cs, cache, hentered, heq⟩
      · rw [heq]; trivial
      · rw [heq]; exact hentered
  | turn =>
    cases hcontrol : q.control with
    | outside last => simp [hcontrol] at hstep
    | inside pc rc cs =>
      simp only [hcontrol, Option.some.injEq] at hstep
      subst hstep
      exact turn_rowIndexed hq hcontrol
  | method method =>
    cases hcontrol : q.control with
    | inside pc rc cs => simp [hcontrol] at hstep
    | outside last =>
      simp only [hcontrol, Option.some.injEq] at hstep
      subst hstep
      -- A reset leaves no row, and the other methods leave the row they found.
      by_cases hreset : method = .reset_query
      · subst hreset
        show RowIndexed program (q.reset_query B).2
        unfold Query.reset_query
        cases q.machine.cache.invalidate_all_outside with
        | error e => exact hq
        | ok cache => trivial
      · have hkept := invoke_kept B q hreset
        exact hq.of_kept hcontrol hkept.control hkept.nMem hkept.length hkept.position
  | elsewhere world db lastRowid expired =>
    simp only [Option.some.injEq] at hstep
    subst hstep
    cases hcontrol : q.control with
    | outside last => exact hq.of_kept hcontrol rfl rfl rfl rfl
    | inside pc rc cs =>
      -- What happens elsewhere does not reach the row.
      have hcontrol' : (q.disturb world db lastRowid expired).control = .inside pc rc cs := hcontrol
      unfold RowIndexed at hq ⊢
      rw [hcontrol']
      rw [hcontrol] at hq
      exact hq

/-! ## What `columnMem` gives -/

/-- `columnMem` is an index into the registers. -/
theorem call_columnMem (q : Query κ) (iCol : ℤ) : (q.call (columnMem iCol)).1 =
    Machine.memIndex q.machine.mems.length q.machine.nMem
      (q.machine.rest.result_set_index + iCol) := by
  unfold Query.call columnMem
  rw [runTo_bind]
  show (runTo (machine (Env κ)) (mem_with_index (q.machine.rest.result_set_index + iCol))
    q.machine).1 = _
  simp only [mem_with_index, Prog.perform, runTo, machine]
  cases Machine.memIndex q.machine.mems.length q.machine.nMem
      (q.machine.rest.result_set_index + iCol) with
  | error e => rfl
  | ok k => rfl

/-- An index into the registers gives a register, and a positive one itself. -/
theorem memIndex_spec {length nMem k : ℕ} {i : ℤ} (h : Machine.memIndex length nMem i = .ok k) :
    k ≤ nMem ∧ (0 ≤ i → k = i.toNat) := by
  unfold Machine.memIndex pyIndex at h
  split_ifs at h
  · obtain rfl := Except.ok.inj h
    exact ⟨by omega, fun _ => rfl⟩
  · obtain rfl := Except.ok.inj h
    exact ⟨by omega, fun _ => by omega⟩

/-- At every point in the life of a query, `columnMem` is right about a column exactly if it is one
of the current row. -/
theorem columnMemRight_iff {q₀ q : Query κ} (hq₀ : q₀.Prepared) {events : List (Event κ)}
    (hrun : Runs.after (Query.step B program) events q₀ = some q) (iCol : ℤ) :
    ColumnMemRight program q iCol ↔ InCurrentRow program q iCol := by
  have hq : RowIndexed program q :=
    (Runs.Always.of_steps (fun _ _ _ hI hs => step_rowIndexed hI hs) hq₀.rowIndexed).after hrun
  refine ⟨fun hright => ?_, fun hin => ⟨fun _ start hstart => ?_, fun hnot => absurd hin hnot⟩⟩
  · by_contra hnot
    obtain ⟨k, pMem, hk, hlt, -⟩ := hright.null hnot
    rw [call_columnMem] at hk
    exact absurd (memIndex_spec hk).1 (by omega)
  · obtain ⟨pc, op, hcontrol, hpc, hop, rfl⟩ := hstart
    obtain ⟨-, h0, hlt⟩ := hin
    unfold RowIndexed at hq
    rw [hcontrol] at hq
    obtain ⟨op', hpc', -, hindex, hcols⟩ := hq
    obtain rfl : op = op' := by
      have := Option.some.inj (hpc.symm.trans hpc')
      exact Instr.op.inj this
    obtain ⟨k, hk⟩ := hcols iCol.toNat (by omega)
    rw [Int.toNat_of_nonneg h0] at hk
    have hpos := program.resultRow_pos op (List.mem_of_getElem? hpc) hop
    rw [call_columnMem, hindex, hk, (memIndex_spec hk).2 (by omega)]

/-! ## A statement with one row -/

/-- A program that returns a row of one column and ends. -/
def rowProgram : Program where
  hlops := [.op (.simple .ResultRow 1 1 0), .op (.simple .Halt 0 0 0)]
  resultRow_pos op hop h := by
    simp only [List.mem_cons, Instr.op.injEq, List.not_mem_nil, or_false] at hop
    rcases hop with rfl | rfl
    · decide
    · cases h

/-- A query for it. -/
def rowQuery : Query Unit := .prepared (.prepared 1 0) [.ofNull, .ofInt 7] 1

/-- The query is new. -/
theorem rowQuery_prepared : rowQuery.Prepared := by
  constructor <;> first | rfl | decide

/-- The column of the row. -/
theorem columnMemRight_row : ∃ q, Runs.after (Query.step .quiet rowProgram) [.mainloop, .turn]
    rowQuery = some q ∧ ColumnMemRight rowProgram q 0 := by
  refine ⟨_, rfl, (columnMemRight_iff rowQuery_prepared
    (show Runs.after (Query.step .quiet rowProgram) [.mainloop, .turn] rowQuery = some _ from rfl)
    0).mpr ⟨⟨1, 0, _, rfl, rfl, rfl, rfl⟩, by decide, by decide⟩⟩

/-- Before the first call, column 0 is the last register. -/
theorem not_columnMemRight_fresh : ¬ ColumnMemRight rowProgram rowQuery 0 := by
  intro h
  have hnot : ¬ InCurrentRow rowProgram rowQuery 0 := by
    rintro ⟨⟨start, pc, op, hcontrol, -⟩, -⟩
    cases hcontrol
  obtain ⟨k, pMem, hk, hlt, -⟩ := h.null hnot
  have hregister : (rowQuery.call (columnMem 0)).1 = .ok 1 := rfl
  rw [hregister] at hk
  obtain rfl := Except.ok.inj hk
  exact absurd hlt (by decide)

end SQPyte
