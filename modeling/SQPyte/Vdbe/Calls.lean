import SQPyte.Vdbe.Iteration

/-!
# What the calls do to a query

The inversions of the transitions of a query. `turn_turned` says what one turn of the loop can be,
with the mode of the flag cache at each of its ends: the cache is non-virtual after a return, and
virtual after an exception. `invoke_kept` says what the methods besides `reset_query` leave alone.
-/

namespace SQPyte

open Commands

variable {κ α : Type} (B : Backend κ)

/-! ## `mainloop` -/

/-- A program keeps the mode of the cache, wherever it ends. -/
theorem runTo_inMode {ρ : Type} (p : MemM ρ α) {m : Machine ρ} {virtual : Bool}
    (h : m.cache.InMode virtual) : (runTo (machine ρ) p m).2.cache.InMode virtual :=
  runTo_preserves (P := fun _ _ => True) (I := fun m : Machine ρ => m.cache.InMode virtual)
    (fun _ _ _ _ _ _ hm hr => (machine_effect hr).mode virtual hm)
    (Prog.All.of_forall (fun _ _ => trivial) p) h

/-- Inside `mainloop` the cache has no non-virtual state. -/
def Cache.Entered (h : Cache) : Prop := h._nonvirt_cache_state = none

/-- Revealing the state brings the cache inside. -/
theorem Cache.Entered.reveal {h : Cache} (he : h.Entered) (cs : CacheState) :
    (h.reveal cs).InMode true := by
  refine ⟨rfl, ?_⟩
  show h._nonvirt_cache_state.isSome = false
  rw [he]
  rfl

/-- A cache that is inside has been entered. -/
theorem Cache.InMode.entered {h : Cache} (hm : h.InMode true) : h.Entered := by
  have := hm.nonvirt
  unfold Cache.Entered
  cases hn : h._nonvirt_cache_state with
  | none => rfl
  | some cs => rw [hn] at this; cases this

/-- From inside `mainloop`, `prepare_return` does not fail and makes the cache non-virtual. -/
theorem leave_of_inMode {m : Machine (Env κ)} (hm : m.cache.InMode true) (ending : Ending) :
    ∃ cache : Cache, cache.InMode false ∧
      Query.leave m ending = ⟨{ m with cache := cache }, .outside ending⟩ := by
  have hnone : m.cache._nonvirt_cache_state = none := hm.entered
  refine ⟨{ m.cache with
    _nonvirt_cache_state := some m.cache.cache_state, _virt_cache_state := none }, ⟨rfl, rfl⟩, ?_⟩
  unfold Query.leave Cache.prepare_return
  rw [hnone]
  simp

/-- What one turn of the loop does. -/
inductive Turned (program : Program) (q : Query κ) (pc rc : ℕ) (cs : CacheState) :
    Query κ → Prop
  /-- The loop ends with the code that the last iteration left. -/
  | ended (hrc : rc ≠ SQLITE_OK) (cache : Cache) (hmode : cache.InMode false) :
      Turned program q pc rc cs ⟨{ q.machine with cache := cache }, .outside (.ended rc)⟩
  /-- There is no opcode at `pc`. -/
  | index (hrc : rc = SQLITE_OK) (hpc : program.hlops[pc]? = none)
      (hmode : (q.machine.cache.reveal cs).InMode true) :
      Turned program q pc rc cs
        ⟨{ q.machine with cache := q.machine.cache.reveal cs }, .outside (.raised .index)⟩
  /-- The opcode raises an exception. -/
  | raised (hrc : rc = SQLITE_OK) (instr : Instr) (hpc : program.hlops[pc]? = some instr) (e : Exc)
      (m : Machine (Env κ))
      (hrun : runTo (machine (Env κ)) (iteration B q.machine.nMem pc rc instr)
        { q.machine with cache := q.machine.cache.reveal cs } = (.error e, m))
      (hmode : m.cache.InMode true) : Turned program q pc rc cs ⟨m, .outside (.raised e)⟩
  /-- The opcode ends the loop. -/
  | left (hrc : rc = SQLITE_OK) (instr : Instr) (hpc : program.hlops[pc]? = some instr)
      (ending : Ending) (m : Machine (Env κ))
      (hrun : runTo (machine (Env κ)) (iteration B q.machine.nMem pc rc instr)
        { q.machine with cache := q.machine.cache.reveal cs } = (.ok (.leave ending), m))
      (cache : Cache) (hmode : cache.InMode false) :
      Turned program q pc rc cs ⟨{ m with cache := cache }, .outside ending⟩
  /-- The loop goes on. -/
  | again (hrc : rc = SQLITE_OK) (instr : Instr) (hpc : program.hlops[pc]? = some instr)
      (pc' rc' : ℕ) (m : Machine (Env κ))
      (hrun : runTo (machine (Env κ)) (iteration B q.machine.nMem pc rc instr)
        { q.machine with cache := q.machine.cache.reveal cs } = (.ok (.again pc' rc'), m))
      (cache : Cache) (hentered : cache.Entered) :
      Turned program q pc rc cs ⟨{ m with cache := cache }, .inside pc' rc' m.cache.cache_state⟩

/-- Every turn is one of these. -/
theorem turn_turned (program : Program) (q : Query κ) (pc rc : ℕ) (cs : CacheState)
    (hq : q.machine.cache.Entered) :
    Turned B program q pc rc cs (q.turn B program pc rc cs) := by
  have hmode := hq.reveal cs
  unfold Query.turn
  dsimp only
  by_cases hrc : rc = SQLITE_OK
  · rw [if_neg (by simpa using hrc)]
    cases hpc : program.hlops[pc]? with
    | none => exact .index hrc hpc hmode
    | some instr =>
      have hkeep := runTo_inMode (iteration B q.machine.nMem pc rc instr)
        (m := { q.machine with cache := q.machine.cache.reveal cs }) hmode
      cases hrun : runTo (machine (Env κ)) (iteration B q.machine.nMem pc rc instr)
          { q.machine with cache := q.machine.cache.reveal cs } with
      | mk r m =>
        rw [hrun] at hkeep
        dsimp only
        rw [hrun]
        cases r with
        | error e => exact .raised hrc instr hpc e m hrun hkeep
        | ok result =>
          cases result with
          | leave ending =>
            obtain ⟨cache, hcache, heq⟩ := leave_of_inMode hkeep ending
            show Turned B program q pc rc cs (Query.leave m ending)
            rw [heq]
            exact .left hrc instr hpc ending m hrun cache hcache
          | again pc' rc' =>
            have hentered := hkeep.entered
            show Turned B program q pc rc cs
              ⟨if pc' ≤ pc then { m with cache := m.cache.hide } else m, _⟩
            split_ifs
            · exact .again hrc instr hpc pc' rc' m hrun m.cache.hide hentered
            · exact .again hrc instr hpc pc' rc' m hrun m.cache hentered
  · rw [if_pos hrc]
    obtain ⟨cache, hcache, heq⟩ := leave_of_inMode
      (m := { q.machine with cache := q.machine.cache.reveal cs }) hmode (.ended rc)
    rw [heq]
    exact .ended hrc cache hcache

/-! ## The other methods -/

/-- What `mainloop` goes on from: the fields that say where the statement stands. -/
def Env.position (e : Env κ) : Magic × ℤ × ℕ × ℤ :=
  (e.p.magic, e.p.pc, e.p.nResColumn, e.result_set_index)

/-- The fields besides the world and `expired`. -/
def Env.settled (e : Env κ) : Env Unit := { e.fields with p := { e.p with expired := false } }

/-- What a method leaves alone. -/
structure Kept (q q' : Query κ) : Prop where
  /-- It returns to where it was called. -/
  control : q'.control = q.control
  /-- The number of registers. -/
  nMem : q'.machine.nMem = q.machine.nMem
  /-- The number of cells. -/
  length : q'.machine.mems.length = q.machine.mems.length
  /-- The fields that it leaves alone. -/
  settled : q'.machine.rest.settled = q.machine.rest.settled
  /-- The non-virtual mode. -/
  mode : q.machine.cache.InMode false → q'.machine.cache.InMode false

/-- Nothing has changed. -/
theorem Kept.refl (q : Query κ) : Kept q q := ⟨rfl, rfl, rfl, rfl, fun h => h⟩

/-- A method leaves the statement where it stands. -/
theorem Kept.position {q q' : Query κ} (h : Kept q q') :
    q'.machine.rest.position = q.machine.rest.position :=
  congrArg (fun e : Env Unit => e.position) h.settled

/-- The command changes neither the number of cells nor these fields. -/
def KeepsSettled (β : Type) (c : MemCmd (Env κ) β) : Prop :=
  MemCmd.KeepsCells β c ∧ ∀ x, MemCmd.KeepsRest (fun e => e.settled = x) β c

/-- A method that is a program of such commands. -/
theorem call_kept {p : MemM (Env κ) α} (hp : p.All KeepsSettled) (q : Query κ) :
    Kept q (q.call p).2 := by
  have h := runTo_preserves (h := machine (Env κ)) (P := KeepsSettled)
    (I := fun m => m.nMem = q.machine.nMem ∧ m.mems.length = q.machine.mems.length ∧
      m.rest.settled = q.machine.rest.settled)
    (fun β c hc m b m' hm hr => by
      have heff := machine_effect hr
      exact ⟨heff.nMem.trans hm.1, (heff.length hc.1).trans hm.2.1, heff.rest _ (hc.2 _) hm.2.2⟩)
    hp (s := q.machine) ⟨rfl, rfl, rfl⟩
  exact ⟨rfl, h.1, h.2.1, h.2.2, fun hm => runTo_inMode p hm⟩

/-- Programs on the cells keep what is settled. -/
theorem keepsSettled_onWorld {p : MemM κ α} (hp : p.All MemCmd.KeepsCells) :
    (onWorld p).All KeepsSettled := by
  have hrest := fun x => onWorld_keepsRest (fun e : Env Unit => e.settled = x) p
  unfold onWorld at hrest ⊢
  induction p with
  | ret a => trivial
  | cmd c k ih =>
    refine ⟨⟨?_, fun x => (hrest x).1⟩, fun b => ih b (hp.2 b) fun x => (hrest x).2 b⟩
    have hc := hp.1
    cases c with
    | c_mems step => exact absurd hc id
    | _ => trivial

section keepsCells

variable {ρ : Type} (L : CLib ρ) (self : ℕ)

/-- The release of an external value keeps the number of cells. -/
theorem keepsCells_VdbeMemRelease : (VdbeMemRelease L self).All MemCmd.KeepsCells :=
  Prog.All.bind (Prog.All.perform (by trivial)) fun _ =>
    Prog.All.ite (Prog.All.perform (by trivial)) (Prog.All.pure ())

/-- So does the release of a cell. -/
theorem keepsCells_sqlite3VdbeMemRelease :
    (sqlite3VdbeMemRelease L self).All MemCmd.KeepsCells := by
  unfold sqlite3VdbeMemRelease
  refine (keepsCells_VdbeMemRelease L self).bind fun _ => ?_
  refine Prog.All.bind (Prog.All.perform (by trivial)) fun f => ?_
  refine Prog.All.bind (Prog.All.perform (by trivial)) fun szMalloc => ?_
  refine Prog.All.ite ?_ (Prog.All.pure ())
  unfold vdbeMemClear
  refine Prog.All.bind (Prog.All.perform (by trivial)) fun f => ?_
  have hfree : (do poke self (freeBuffer ((← peek self Mem.szMalloc) ≠ 0)) : MemM ρ Unit).All
      MemCmd.KeepsCells := Prog.All.bind (Prog.All.perform (by trivial)) fun szMalloc =>
    Prog.All.perform (by trivial)
  exact Prog.All.ite (Prog.All.bind (Prog.All.perform (by trivial)) fun _ => hfree) hfree

/-- So does setting it to an integer. -/
theorem keepsCells_sqlite3VdbeMemSetInt64 (val : ℤ) (constant : Bool) :
    (sqlite3VdbeMemSetInt64 L self val constant).All MemCmd.KeepsCells := by
  have hset : (set_u_i self val constant : MemM ρ Unit).All MemCmd.KeepsCells :=
    Prog.All.perform trivial
  unfold sqlite3VdbeMemSetInt64
  refine Prog.All.bind (Prog.All.perform (by trivial)) fun f => Prog.All.ite ?_ hset
  exact (keepsCells_sqlite3VdbeMemRelease L self).bind fun _ =>
    Prog.All.bind (Prog.All.perform (by trivial)) fun _ => hset

/-- So does setting it to a real. -/
theorem keepsCells_sqlite3VdbeMemSetDouble (val : Binary64) :
    (sqlite3VdbeMemSetDouble L self val).All MemCmd.KeepsCells := by
  have hset : (set_u_r self val : MemM ρ Unit).All MemCmd.KeepsCells := Prog.All.perform trivial
  unfold sqlite3VdbeMemSetDouble
  refine Prog.All.ite ?_ ?_
  · unfold sqlite3VdbeMemSetNull
    refine Prog.All.bind (Prog.All.perform (by trivial)) fun f =>
      Prog.All.bind (Prog.All.perform (by trivial)) fun f =>
        Prog.All.ite (Prog.All.perform (by trivial)) ?_
    exact Prog.All.bind (Prog.All.perform (by trivial)) fun f => Prog.All.perform (by trivial)
  · refine Prog.All.bind (Prog.All.perform (by trivial)) fun f => Prog.All.ite ?_ hset
    exact (keepsCells_sqlite3VdbeMemRelease L self).bind fun _ =>
      Prog.All.bind (Prog.All.perform (by trivial)) fun _ => hset

/-- So does reading its text. -/
theorem keepsCells_sqlite3ValueText (enc : ℕ) :
    (sqlite3ValueText L self enc).All MemCmd.KeepsCells := by
  unfold sqlite3ValueText
  refine Prog.All.bind (Prog.All.perform (by trivial)) fun f => ?_
  refine Prog.All.bind (Prog.All.ite (Prog.All.pure ()) (Prog.All.perform (by trivial))) fun _ => ?_
  refine Prog.All.bind (Prog.All.perform (by trivial)) fun e => ?_
  refine Prog.All.ite (Prog.All.perform (by trivial)) ?_
  exact Prog.All.ite (Prog.All.pure _) (Prog.All.perform (by trivial))

/-- So does reading its length. -/
theorem keepsCells_sqlite3ValueBytes (enc : ℕ) :
    (sqlite3ValueBytes L self enc).All MemCmd.KeepsCells := by
  have hsize : ∀ stored : Bool, (if stored then do
      if (← get_flags self).has MEM_Zero then peek self fun pMem => pMem.n + pMem.u_nZero
      else peek self Mem.n else return 0 : MemM ρ ℤ).All MemCmd.KeepsCells := fun stored =>
    Prog.All.ite (Prog.All.bind (Prog.All.perform (by trivial)) fun f =>
      Prog.All.ite (Prog.All.perform (by trivial)) (Prog.All.perform (by trivial))) (Prog.All.pure _)
  unfold sqlite3ValueBytes
  refine Prog.All.bind (Prog.All.perform (by trivial)) fun f => Prog.All.ite (hsize true) ?_
  exact (keepsCells_sqlite3ValueText L self enc).bind fun text =>
    Prog.All.bind (Prog.All.pure _) hsize

/-- So does reading its integer. -/
theorem keepsCells_sqlite3VdbeIntValue :
    (sqlite3VdbeIntValue L self).All MemCmd.KeepsCells :=
  Prog.All.bind (Prog.All.perform (by trivial)) fun f =>
    Prog.All.ite (Prog.All.perform (by trivial)) (Prog.All.ite
      (Prog.All.bind (Prog.All.perform (by trivial)) fun r => Prog.All.pure _) (Prog.All.ite
        (Prog.All.bind (Prog.All.perform (by trivial)) fun r => Prog.All.pure _) (Prog.All.pure _)))

/-- So does reading its real. -/
theorem keepsCells_sqlite3VdbeRealValue :
    (sqlite3VdbeRealValue L self).All MemCmd.KeepsCells :=
  Prog.All.bind (Prog.All.perform (by trivial)) fun f =>
    Prog.All.ite (Prog.All.perform (by trivial)) (Prog.All.ite
      (Prog.All.bind (Prog.All.perform (by trivial)) fun i => Prog.All.pure _) (Prog.All.ite
        (Prog.All.perform (by trivial)) (Prog.All.pure _)))

end keepsCells

/-- Reading the environment keeps what is settled. -/
theorem keepsSettled_ask {γ : Type} (read : Env κ → γ) : (ask read).All KeepsSettled :=
  Prog.All.perform ⟨trivial, fun x e a e' he hr => by
    obtain ⟨-, rfl⟩ := Prod.mk.inj (Except.ok.inj hr)
    exact he⟩

/-- So does an exception. -/
theorem keepsSettled_throwExc {γ : Type} (e : Exc) :
    (throwExc e : MemM (Env κ) γ).All KeepsSettled :=
  Prog.All.perform ⟨trivial, fun x _ _ _ _ hr => by cases hr⟩

/-- So does `vdbeUnbind`. -/
theorem keepsSettled_vdbeUnbind (i : ℤ) : (vdbeUnbind B i).All KeepsSettled := by
  unfold vdbeUnbind
  refine (keepsSettled_ask _).bind fun p => Prog.All.ite (keepsSettled_throwExc _) ?_
  refine Prog.All.bind (Prog.All.perform ⟨trivial, fun _ => trivial⟩) fun pVar => ?_
  refine (keepsSettled_onWorld (keepsCells_sqlite3VdbeMemRelease B.lib pVar)).bind fun _ => ?_
  refine Prog.All.bind (Prog.All.perform ⟨trivial, fun _ => trivial⟩) fun _ => ?_
  unfold checkExpmask
  refine Prog.All.ite (Prog.All.ite (keepsSettled_throwExc _) ?_) (Prog.All.pure ())
  exact Prog.All.ite (keepsSettled_throwExc _) (Prog.All.pure ())

/-- What `sqlite3_bind_text` leaves alone. -/
theorem sqlite3_bind_text_kept {nMem : ℕ} {i n : ℤ} {z : List Byte} {mems mems' : List Mem}
    {e e' : Env κ} {rc : ℕ} (h : sqlite3_bind_text B nMem i z n mems e = .ok (rc, mems', e')) :
    mems'.length = mems.length ∧ e'.settled = e.settled := by
  unfold sqlite3_bind_text at h
  split_ifs at h
  · obtain ⟨-, rfl, rfl⟩ := Except.ok.inj h
    exact ⟨rfl, rfl⟩
  · obtain ⟨-, rfl, rfl⟩ := Except.ok.inj h
    exact ⟨rfl, rfl⟩
  cases hv : mems[nMem + i.toNat]? with
  | none =>
    rw [hv] at h
    obtain ⟨-, rfl, rfl⟩ := Except.ok.inj h
    exact ⟨rfl, rfl⟩
  | some pVar =>
    rw [hv] at h
    dsimp only at h
    cases hs : Mem.sqlite3VdbeMemSetStr B.lib B.limit z n
        { (pVar.sqlite3VdbeMemRelease B.lib e.world).1 with flags := MEM_Null }
        (pVar.sqlite3VdbeMemRelease B.lib e.world).2 with
    | error x => rw [hs] at h; cases h
    | ok x =>
      rw [hs] at h
      obtain ⟨-, rfl, rfl⟩ := Except.ok.inj h
      refine ⟨List.length_set .., ?_⟩
      unfold Env.settled Env.fields Vdbe.expireFor
      dsimp only
      split_ifs <;> rfl

/-- What the methods besides `reset_query` leave alone. -/
theorem invoke_kept (q : Query κ) {method : Method} (hm : method ≠ .reset_query) :
    Kept q (q.invoke B method).2 := by
  -- The steps that the methods share.
  have hvar : ∀ i : ℤ, (var_with_index i : MemM (Env κ) ℕ).All KeepsSettled := fun i =>
    Prog.All.perform ⟨trivial, fun _ => trivial⟩
  have hcol : ∀ iCol : ℤ, (columnMem iCol : MemM (Env κ) ℕ).All KeepsSettled := fun iCol =>
    (keepsSettled_ask _).bind fun _ => Prog.All.perform ⟨trivial, fun _ => trivial⟩
  cases method with
  | reset_query => exact absurd rfl hm
  | bind_int64 i val =>
    exact call_kept ((keepsSettled_vdbeUnbind B i).bind fun _ => (hvar _).bind fun k =>
      (keepsSettled_onWorld (keepsCells_sqlite3VdbeMemSetInt64 B.lib k _ _)).bind
        fun _ => Prog.All.pure _) q
  | bind_double i val =>
    exact call_kept ((keepsSettled_vdbeUnbind B i).bind fun _ => (hvar _).bind fun k =>
      (keepsSettled_onWorld (keepsCells_sqlite3VdbeMemSetDouble B.lib k _)).bind
        fun _ => Prog.All.pure _) q
  | bind_null i =>
    exact call_kept ((keepsSettled_vdbeUnbind B i).bind fun _ => Prog.All.pure _) q
  | bind_str i s =>
    show Kept q (q.bind_str B i s).2
    unfold Query.bind_str
    -- The cache is cleared before the C function binds the text.
    cases hcache : q.machine.cache.invalidate_all_outside with
    | error e => exact Kept.refl q
    | ok cache =>
      -- Clearing it outside the loop leaves it outside.
      have hmode : q.machine.cache.InMode false → cache.InMode false := by
        intro hm
        unfold Cache.invalidate_all_outside at hcache
        split_ifs at hcache
        obtain rfl := Except.ok.inj hcache
        exact ⟨hm.virt, rfl⟩
      show Kept q (Query.call _ _).2
      unfold Query.call
      simp only [c_mems, Prog.perform, runTo, machine]
      cases htext : sqlite3_bind_text B q.machine.nMem (cInt i) s (cInt s.length) q.machine.mems
          q.machine.rest with
      | error e => exact ⟨rfl, rfl, rfl, rfl, hmode⟩
      | ok x =>
        obtain ⟨rc, mems, e⟩ := x
        obtain ⟨hlength, hsettled⟩ := sqlite3_bind_text_kept B htext
        exact ⟨rfl, rfl, hlength, hsettled, hmode⟩
  | column_type iCol =>
    -- The type is read off the flags.
    have htype : ∀ k : ℕ, (sqlite3_value_type k : MemM (Env κ) ℕ).All KeepsSettled := fun k =>
      Prog.All.bind (p := get_flags k) (Prog.All.perform ⟨trivial, fun _ => trivial⟩)
        fun _ => Prog.All.pure _
    exact call_kept ((hcol iCol).bind htype) q
  | column_text iCol =>
    exact call_kept ((hcol iCol).bind fun k =>
      keepsSettled_onWorld (keepsCells_sqlite3ValueText B.lib k _)) q
  | column_bytes iCol =>
    exact call_kept ((hcol iCol).bind fun k =>
      keepsSettled_onWorld (keepsCells_sqlite3ValueBytes B.lib k _)) q
  | column_int64 iCol =>
    exact call_kept ((hcol iCol).bind fun k =>
      keepsSettled_onWorld (keepsCells_sqlite3VdbeIntValue B.lib k)) q
  | column_double iCol =>
    exact call_kept ((hcol iCol).bind fun k =>
      keepsSettled_onWorld (keepsCells_sqlite3VdbeRealValue B.lib k)) q

end SQPyte
