import SQPyte.Vdbe.Calls

/-!
# Where `mainloop` goes on

`sqlite3_step` goes on after the `OP_ResultRow` that returned the last row, and starts a statement
that has ended again from its first opcode, after a reset. `StepsLikeSqlite` says so of one event of
a query. `mainloop` makes no such reset, so a run is right as long as the caller resets a statement
that has ended before it calls `mainloop` again (`Restarts`).

The invariant `Resumable` ties `p.pc` and `p.magic` to the ending of the last call. It carries
`throughout_stepsLikeSqlite` through any sequence of calls.
-/

namespace SQPyte

open Commands

variable {κ : Type} (B : Backend κ) (program : Program)

/-- The fields at the start of the loop. -/
def Env.entered (e : Env κ) : Env κ :=
  { e with p := { e.p with pResultSet := none }, result_set_index := -1 }

/-- A call of `mainloop` that gets to its loop starts at the address at which `sqlite3_step` does,
with the cells and fields that it finds there. -/
def StartsLikeSqlite (q q' : Query κ) (last : Ending) (pc : ℕ) : Prop :=
  match last with
  | .fresh => pc = 0 ∧ q'.machine.mems = q.machine.mems ∧
      q'.machine.rest = q.machine.rest.entered
  | .row rowPc => pc = rowPc + 1 ∧
      (∃ op, program.hlops[rowPc]? = some (.op op) ∧ op.opcode = .ResultRow) ∧
      q'.machine.mems = q.machine.mems ∧ q'.machine.rest = q.machine.rest.entered
  | .ended _ =>
      let r := sqlite3_reset B q.machine.nMem q.machine.mems q.machine.rest
      pc = 0 ∧ q'.machine.mems = r.1 ∧ q'.machine.rest = r.2.entered
  -- a busy statement is to be tried again, and `sqlite3_step` knows no exceptions
  | .busy => True
  | .raised _ => True

/-- The event does what it does to a statement that is stepped by `sqlite3_step`. -/
def StepsLikeSqlite : Query κ → Event κ → Query κ → Prop
  | q, .mainloop, q' => ∀ last pc rc cs, q.control = .outside last →
      q'.control = .inside pc rc cs → StartsLikeSqlite B program q q' last pc
  | q, .turn, _ => ∀ pc cs, q.control = .inside pc SQLITE_OK cs → Running q.machine
  | q, .method method, q' => ∀ pc, q.control = .outside (.row pc) → method.binds = true →
      q'.control = q.control ∧ q'.machine.mems = q.machine.mems
  | _, .elsewhere _ _ _ _, _ => True

/-- A statement that has ended is not run again before it is reset. -/
def Restarts (q : Query κ) (e : Event κ) : Prop :=
  match e with
  | .mainloop => ∀ rc, q.control ≠ .outside (.ended rc)
  | _ => True

/-- What the position of a statement says about its next call. -/
def Resumable (q : Query κ) : Prop :=
  match q.control with
  | .outside .fresh => Running q.machine ∧ q.machine.rest.p.pc = -1
  | .outside (.row pc) => Running q.machine ∧ q.machine.rest.p.pc = pc + 1 ∧
      ∃ op, program.hlops[pc]? = some (.op op) ∧ op.opcode = .ResultRow
  | .outside .busy => Running q.machine
  | .outside (.ended _) => True
  | .outside (.raised _) => Running q.machine
  | .inside _ rc _ => (rc = SQLITE_OK → Running q.machine) ∧ q.machine.cache.Entered

variable {B program}

/-- A new query is resumable. -/
theorem Query.Prepared.resumable {q : Query κ} (hq : q.Prepared) : Resumable program q := by
  unfold Resumable
  rw [hq.control]
  exact ⟨hq.magic, hq.pc⟩

/-- Where the statement stands decides whether it is running. -/
theorem running_of_position {m m' : Machine (Env κ)} (h : m'.rest.position = m.rest.position)
    (hm : Running m) : Running m' := by
  have hmagic : m'.rest.p.magic = m.rest.p.magic := congrArg Prod.fst h
  exact hmagic.trans hm

/-- `Resumable` depends on the control, where the statement stands, and whether the cache has been
entered. -/
theorem Resumable.of_position {q q' : Query κ} (hq : Resumable program q) {last : Ending}
    (hlast : q.control = .outside last) (hcontrol : q'.control = q.control)
    (hposition : q'.machine.rest.position = q.machine.rest.position) : Resumable program q' := by
  have hpc : q'.machine.rest.p.pc = q.machine.rest.p.pc :=
    congrArg (fun x => x.2.1) hposition
  unfold Resumable at hq ⊢
  rw [hcontrol]
  rw [hlast] at hq ⊢
  cases last with
  | fresh => exact ⟨running_of_position hposition hq.1, hpc.trans hq.2⟩
  | row pc => exact ⟨running_of_position hposition hq.1, hpc.trans hq.2.1, hq.2.2⟩
  | busy => exact running_of_position hposition hq
  | ended rc => trivial
  | raised e => exact running_of_position hposition hq

/-! ## The steps -/

/-- A call of `mainloop` raises an exception at its start, or gets to its loop. -/
theorem enter_cases (q : Query κ) :
    (∃ e, q.enter = { q with control := .outside (.raised e) }) ∨
      ∃ cs cache, Cache.Entered cache ∧ q.enter =
        ⟨{ q.machine with cache := cache, rest := q.machine.rest.entered },
          .inside q.machine.rest.p.pc.toNat SQLITE_OK cs⟩ := by
  unfold Query.enter Cache.reenter
  split_ifs
  · exact Or.inl ⟨_, rfl⟩
  · cases q.machine.cache._nonvirt_cache_state with
    | none => exact Or.inl ⟨_, rfl⟩
    | some cs =>
      exact Or.inr ⟨cs, { q.machine.cache with
        _nonvirt_cache_state := none, _virt_cache_state := some cs }, rfl, rfl⟩

/-- A query that is entered is resumable, if it has not ended. -/
theorem enter_resumable {q : Query κ} {last : Ending} (hq : Resumable program q)
    (hlast : q.control = .outside last) (hC : ∀ rc, last ≠ .ended rc) :
    Resumable program q.enter ∧ StepsLikeSqlite B program q .mainloop q.enter := by
  have hrun : Running q.machine := by
    unfold Resumable at hq
    rw [hlast] at hq
    cases last with
    | fresh => exact hq.1
    | row pc => exact hq.1
    | busy => exact hq
    | ended rc => exact absurd rfl (hC rc)
    | raised e => exact hq
  rcases enter_cases q with ⟨e, heq⟩ | ⟨cs, cache, hentered, heq⟩
  · rw [heq]
    exact ⟨hrun, fun last pc rc cs _ h => by cases h⟩
  · rw [heq]
    refine ⟨⟨fun _ => hrun, hentered⟩, fun last' pc rc cs' hlast' hinside => ?_⟩
    obtain ⟨rfl, -, -⟩ := Control.inside.inj hinside
    obtain rfl := Control.outside.inj (hlast.symm.trans hlast')
    unfold Resumable at hq
    rw [hlast] at hq
    cases last with
    | fresh => exact ⟨by rw [hq.2]; rfl, rfl, rfl⟩
    | row pc =>
      refine ⟨?_, hq.2.2, rfl, rfl⟩
      have := hq.2.1
      omega
    | busy => trivial
    | ended rc => exact absurd rfl (hC rc)
    | raised e => trivial

/-- A query is resumable after a turn of the loop. -/
theorem turn_resumable {q : Query κ} {pc rc : ℕ} {cs : CacheState} (hq : Resumable program q)
    (hinside : q.control = .inside pc rc cs) :
    Resumable program (q.turn B program pc rc cs) := by
  unfold Resumable at hq
  rw [hinside] at hq
  obtain ⟨hrun, hentered⟩ := hq
  have hrun' : rc = SQLITE_OK →
      Running { q.machine with cache := q.machine.cache.reveal cs } := hrun
  have hturned := turn_turned B program q pc rc cs hentered
  generalize q.turn B program pc rc cs = q' at hturned ⊢
  cases hturned with
  | ended => trivial
  | index hrc => exact hrun hrc
  | raised hrc instr hpc e m hturn =>
    exact iteration_fails B q.machine.nMem pc rc instr _ (hrun' hrc) e m hturn
  | left hrc instr hpc ending m hturn =>
    have hsound := iteration_triple B q.machine.nMem pc rc instr _ (hrun' hrc) _ m
      (runTo_eq_ok_iff.mp hturn)
    cases ending with
    | fresh => exact absurd hsound id
    | row pc' =>
      obtain ⟨rfl, op, rfl, hop, hrow⟩ := hsound
      exact ⟨hrow.magic, hrow.next, op, hpc, hop⟩
    | busy => exact hsound
    | ended rc => trivial
    | raised e => exact absurd hsound id
  | again hrc instr hpc pc' rc' m hturn cache hcache =>
    have hsound := iteration_triple B q.machine.nMem pc rc instr _ (hrun' hrc) _ m
      (runTo_eq_ok_iff.mp hturn)
    exact ⟨hsound, hcache⟩

/-- A query is resumable after a reset. -/
theorem reset_query_resumable {q : Query κ} (hq : Resumable program q) :
    Resumable program (q.reset_query B).2 := by
  unfold Query.reset_query
  cases q.machine.cache.invalidate_all_outside with
  | error e => exact hq
  | ok cache => exact ⟨rfl, rfl⟩

/-- On a running statement that is busy, a bind changes no cell. -/
theorem bind_busy {q : Query κ} (hbusy : q.machine.rest.p.busy = true) {method : Method}
    (hbinds : method.binds = true) : (q.invoke B method).2.machine.mems = q.machine.mems := by
  have hunbind : ∀ i (f : Unit → MemM (Env κ) ℕ),
      (q.call (vdbeUnbind B i >>= f)).2.machine = q.machine := by
    intro i f
    have : runTo (machine (Env κ)) (vdbeUnbind B i) q.machine = (.error .sqpyte, q.machine) := by
      unfold vdbeUnbind
      rw [runTo_bind]
      show runTo (machine (Env κ)) (if q.machine.rest.p.busy then _ else _) q.machine = _
      rw [if_pos hbusy]
      rfl
    unfold Query.call
    rw [runTo_bind, this]
  cases method with
  | bind_int64 i val => exact congrArg Machine.mems (hunbind i _)
  | bind_double i val => exact congrArg Machine.mems (hunbind i _)
  | bind_null i => exact congrArg Machine.mems (hunbind i _)
  | bind_str i s =>
    show (q.bind_str B i s).2.machine.mems = _
    unfold Query.bind_str
    cases q.machine.cache.invalidate_all_outside with
    | error e => rfl
    | ok cache =>
      show (Query.call _ _).2.machine.mems = _
      unfold Query.call
      have htext : sqlite3_bind_text B q.machine.nMem (cInt i) s (cInt s.length) q.machine.mems
          q.machine.rest =
          .ok (SQLITE_MISUSE, q.machine.mems, q.machine.rest) := by
        unfold sqlite3_bind_text
        rw [if_pos hbusy]
      simp only [c_mems, Prog.perform, runTo, machine, htext]
      rfl
  | _ => cases hbinds

/-- A query is resumable after a method. -/
theorem method_resumable {q : Query κ} {last : Ending} (hq : Resumable program q)
    (hlast : q.control = .outside last) (method : Method) :
    Resumable program (q.invoke B method).2 ∧
      StepsLikeSqlite B program q (.method method) (q.invoke B method).2 := by
  by_cases hreset : method = .reset_query
  · subst hreset
    exact ⟨reset_query_resumable hq, fun pc _ h => by cases h⟩
  · have hkept := invoke_kept B q hreset
    refine ⟨hq.of_position hlast hkept.control hkept.position, fun pc hrow hbinds => ?_⟩
    refine ⟨hkept.control, bind_busy ?_ hbinds⟩
    unfold Resumable at hq
    rw [hrow] at hq
    unfold Vdbe.busy
    have : 0 ≤ q.machine.rest.p.pc := by
      have := hq.2.1
      omega
    simp [this]

/-- Every step from a resumable query leads to one, and is as `sqlite3_step` has it. -/
theorem step_resumable {q q' : Query κ} {e : Event κ} (hq : Resumable program q)
    (hC : Restarts q e) (hstep : q.step B program e = some q') :
    Resumable program q' ∧ StepsLikeSqlite B program q e q' := by
  unfold Query.step at hstep
  cases e with
  | mainloop =>
    cases hcontrol : q.control with
    | inside pc rc cs => simp [hcontrol] at hstep
    | outside last =>
      simp only [hcontrol, Option.some.injEq] at hstep
      subst hstep
      exact enter_resumable hq hcontrol fun rc heq => hC rc (by rw [hcontrol, heq])
  | turn =>
    cases hcontrol : q.control with
    | outside last => simp [hcontrol] at hstep
    | inside pc rc cs =>
      simp only [hcontrol, Option.some.injEq] at hstep
      subst hstep
      refine ⟨turn_resumable hq hcontrol, fun pc' cs' hinside => ?_⟩
      unfold Resumable at hq
      rw [hinside] at hq
      exact hq.1 rfl
  | method method =>
    cases hcontrol : q.control with
    | inside pc rc cs => simp [hcontrol] at hstep
    | outside last =>
      simp only [hcontrol, Option.some.injEq] at hstep
      subst hstep
      exact method_resumable hq hcontrol method
  | elsewhere world db lastRowid expired =>
    simp only [Option.some.injEq] at hstep
    subst hstep
    refine ⟨?_, trivial⟩
    cases hcontrol : q.control with
    | outside last => exact hq.of_position hcontrol rfl rfl
    | inside pc rc cs =>
      -- What happens elsewhere does not reach the statement's position.
      have hcontrol' : (q.disturb world db lastRowid expired).control = .inside pc rc cs := hcontrol
      unfold Resumable at hq ⊢
      rw [hcontrol']
      rw [hcontrol] at hq
      exact hq

/-- As long as a statement that has ended is reset before it is run again, every call of `mainloop`
goes on where `sqlite3_step` does: after the last row with the registers as they were, or from the
first opcode. No opcode of a halted statement is executed. -/
theorem throughout_stepsLikeSqlite {q : Query κ} (hq : q.Prepared) {events : List (Event κ)}
    (h : Runs.Each (Query.step B program) Restarts events q) :
    Runs.Throughout (Query.step B program) (StepsLikeSqlite B program) events q := by
  refine Runs.Throughout.of_each (I := Resumable program) (fun s e s' hI hC hs => ?_)
    hq.resumable h
  exact step_resumable hI hC hs

/-! ## A statement that is not reset -/

/-- A program of one `OP_Halt`. -/
def haltProgram : Program where
  hlops := [.op (.simple .Halt 0 0 0)]
  resultRow_pos op hop h := by
    simp only [List.mem_singleton, Instr.op.injEq] at hop
    subst hop
    cases h

/-- A query for it. -/
def haltQuery : Query Unit := .prepared (.prepared 0 0) [.ofNull, .ofNull] 1

/-- The query is new. -/
theorem haltQuery_prepared : haltQuery.Prepared := by
  constructor <;> first | rfl | decide

/-- A call, a reset, and a second call. -/
theorem throughout_stepsLikeSqlite_reset :
    Runs.Throughout (Query.step .quiet haltProgram) (StepsLikeSqlite .quiet haltProgram)
      [.mainloop, .turn, .method .reset_query, .mainloop, .turn] haltQuery :=
  throughout_stepsLikeSqlite haltQuery_prepared <|
    .cons (fun _ h => by cases h) rfl <| .cons trivial rfl <| .cons trivial rfl <|
      .cons (fun _ h => by cases h) rfl <| .cons trivial rfl <| .nil _

/-- Without the reset the second call runs the halted statement. -/
theorem not_throughout_stepsLikeSqlite :
    ¬ Runs.Throughout (Query.step .quiet haltProgram) (StepsLikeSqlite .quiet haltProgram)
      ([.mainloop, .turn, .mainloop] ++ [.turn]) haltQuery := by
  intro h
  have hlast := h.last rfl rfl
  have hrun : Magic.HALT = Magic.RUN := hlast 0 _ rfl
  cases hrun

end SQPyte
