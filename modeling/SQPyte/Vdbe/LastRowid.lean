import SQPyte.Vdbe.Resumption

/-!
# The row id of the last insert

`db.lastRowid` is to be the row id of the last flagged insert on that connection. The original keeps
it in a local variable of one execution. `sqpyte.c` has one global variable for the whole process:
an insert sets it, and every way through the label `vdbe_return` copies it to the connection of the
statement that takes it.

A `Process` has any number of statements and connections, and its events interleave the turns of
their loops. `CopiesRowid` says when an opcode copies the global variable. As long as it does so only
where the variable has the value of the statement's own connection, every connection has the row id
of its last insert (`lastRowids_of_each`).
-/

namespace SQPyte

open Commands

variable {κ : Type} (B : Backend κ)

/-- The row id in the connection and the one in the global variable. -/
def Env.rowids (e : Env κ) : ℤ × ℤ := (e.db.lastRowid, e.lastRowid)

/-- The opcode sets the row id. -/
def Op.sets_lastRowid (op : Op) : Bool :=
  (op.opcode == .Insert || op.opcode == .InsertInt) && op.p5_has OPFLAG_LASTROWID

/-- The row id that it sets. The key of `OP_Insert` is in a register. -/
def Op.iKey (op : Op) (mems : List Mem) : Option ℤ :=
  if op.opcode = .Insert then mems[op.p3.toNat]?.map Mem.u_i else some op.p3

/-- The body of the opcode goes to a label. -/
def GoesToLabel (pc rc : ℕ) (op : Op) (m : Machine κ) : Prop :=
  ∃ exit m', run (machine κ) (B.body op pc rc) m = .ok (exit, m') ∧
    ∀ target rc, exit ≠ .next target rc

/-- The opcode copies the global variable to the connection: it goes through `vdbe_return`, or calls
a function of C. -/
def CopiesRowid (pc rc : ℕ) (op : Op) (m : Machine (Env κ)) : Prop :=
  match op.opcode with
  | .ResultRow => (m.rest.p.nResColumn : ℤ) = op.p2 ∧ B.fkViolated m.rest.world = false ∧
      (B.closeStatement m.rest.world).1.val = SQLITE_OK
  | .Halt => True
  | .Function => B.func_exists_in_python op = false ∨ GoesToLabel B pc rc op m.toWorld
  | .Variable => ∃ m', run (machine (Env κ)) (do
      sqlite3VdbeMemTooBig B.limit (← var_with_index (op.p1 - 1))) m = .ok (true, m')
  | _ => GoesToLabel B pc rc op m.toWorld

/-! ## The labels -/

/-- Noting that memory ran out keeps both row ids. -/
theorem noteMallocFailed_rowids (e : Env κ) : (e.noteMallocFailed B).rowids = e.rowids := by
  unfold Env.noteMallocFailed
  split_ifs <;> rfl

/-- So does marking the statement as halted. -/
theorem markHalted_rowids (e : Env κ) : e.markHalted.rowids = e.rowids := by
  unfold Env.markHalted Env.rowids
  dsimp only
  split_ifs <;> rfl

/-- So does halting it. -/
theorem sqlite3VdbeHalt_rowids (nMem : ℕ) (mems : List Mem) (e : Env κ) :
    (sqlite3VdbeHalt B nMem mems e).2.2.rowids = e.rowids := by
  have hstart := noteMallocFailed_rowids B e
  have hend : ∀ (e' : Env κ) rc w, e'.rowids = e.rowids →
      (Env.noteMallocFailed B
        (Env.markHalted { e' with p := { e'.p with rc := rc }, world := w })).rowids = e.rowids := by
    intro e' rc w h
    rw [noteMallocFailed_rowids, markHalted_rowids]
    exact h
  unfold sqlite3VdbeHalt
  dsimp only
  split_ifs with hmagic
  · exact hstart
  · split
    · exact hstart
    · exact hend _ _ _ hstart
  · exact hend _ _ _ hstart

/-! ## Opcodes that set no row id -/

/-- The row ids in the connection and in the global variable are `x` and `y`. -/
abbrev HasRowids (x y : ℤ) (e : Env Unit) : Prop := e.rowids = (x, y)

/-- Where both are the same, copying one to the other changes nothing. -/
theorem opcodesKeep_rowids (nMem : ℕ) (x : ℤ) : OpcodesKeep B nMem (HasRowids x x) where
  fields _ _ _ _ _ _ _ h := h
  toDb e h := by
    have hy : e.lastRowid = x := congrArg Prod.snd h
    exact Prod.ext hy hy
  fromDb e h := by
    have hx : e.db.lastRowid = x := congrArg Prod.fst h
    exact Prod.ext hx hx
  halt mems e h := (sqlite3VdbeHalt_rowids B nMem mems e).trans h

/-- Storing an address keeps the row ids. -/
theorem keepsAddress_rowids (x y : ℤ) : KeepsAddress (HasRowids x y) := fun _ _ h => h

section same

variable (nMem pc rc : ℕ) (op : Op) (x : ℤ)

/-- The end of `OP_Insert` and `OP_InsertInt`, with the key. -/
def insertKey (iKey : ℤ) : MemM (Env κ) (ℕ × ℕ) := do
  if op.p5_has OPFLAG_LASTROWID then
    tell fun e => { e with lastRowid := iKey, db := { e.db with lastRowid := iKey } }
  bodyOf B nMem pc rc op

/-- Both inserts are one with a key. `OP_Insert` has it in a register, `OP_InsertInt` in `p3`. -/
theorem OP_Insert_InsertInt_eq : OP_Insert_InsertInt B nMem pc rc op =
    if op.opcode = .Insert then
      c_mems (fun mems e =>
        match mems[op.p3.toNat]? with
        | some pKey => .ok (pKey.u_i, mems, e)
        | none => .error .memory) >>= insertKey B nMem pc rc op
    else insertKey B nMem pc rc op op.p3 :=
  rfl

/-- An insert reads its key, and goes on with it. -/
theorem runTo_OP_Insert_InsertInt (m : Machine (Env κ)) :
    runTo (machine (Env κ)) (OP_Insert_InsertInt B nMem pc rc op) m =
      match op.iKey m.mems with
      | some iKey => runTo (machine (Env κ)) (insertKey B nMem pc rc op iKey) m
      | none => (.error .memory, m) := by
  rw [OP_Insert_InsertInt_eq]
  unfold Op.iKey
  by_cases hop : op.opcode = .Insert
  · rw [if_pos hop, if_pos hop, runTo_bind]
    simp only [c_mems, Prog.perform, runTo, machine]
    cases m.mems[op.p3.toNat]? with
    | none => rfl
    | some pKey => rfl
  · rw [if_neg hop, if_neg hop]

end same

/-! ## Opcodes that do not copy -/

section steps

variable {α β : Type} {m : Machine (Env κ)}

/-- Reading the environment and going on. -/
theorem runTo_ask_bind (read : Env κ → α) (f : α → MemM (Env κ) β) :
    runTo (machine (Env κ)) (ask read >>= f) m = runTo (machine (Env κ)) (f (read m.rest)) m := rfl

/-- Writing to the environment and going on. -/
theorem runTo_tell_bind (write : Env κ → Env κ) (f : Unit → MemM (Env κ) β) :
    runTo (machine (Env κ)) (tell write >>= f) m =
      runTo (machine (Env κ)) (f ()) { m with rest := write m.rest } := rfl

/-- A step of the rest of the world and going on. -/
theorem runTo_worldStep_bind (step : κ → α × κ) (f : α → MemM (Env κ) β) :
    runTo (machine (Env κ)) (worldStep step >>= f) m =
      runTo (machine (Env κ)) (f (step m.rest.world).1)
        { m with rest := { m.rest with world := (step m.rest.world).2 } } := rfl

/-- What follows a program, and leaves the fields besides the world alone. -/
theorem runTo_bind_fields {p : MemM (Env κ) α} {f : α → MemM (Env κ) β}
    (hf : ∀ a x, Keeps (fun e => e = x) (f a)) (m : Machine (Env κ)) :
    (runTo (machine (Env κ)) (p >>= f) m).2.rest.fields =
      (runTo (machine (Env κ)) p m).2.rest.fields := by
  rw [runTo_bind]
  cases runTo (machine (Env κ)) p m with
  | mk r m' =>
    cases r with
    | error e => rfl
    | ok a => exact (hf a m'.rest.fields).runTo rfl

/-- What follows a program that ends with a value, and leaves the row ids alone. -/
theorem runTo_bind_rowids {p : MemM (Env κ) α} {f : α → MemM (Env κ) β}
    (hf : ∀ a m', (runTo (machine (Env κ)) p m) = (.ok a, m') →
      (runTo (machine (Env κ)) (f a) m').2.rest.rowids = m'.rest.rowids) :
    (runTo (machine (Env κ)) (p >>= f) m).2.rest.rowids =
      (runTo (machine (Env κ)) p m).2.rest.rowids := by
  rw [runTo_bind]
  cases hp : runTo (machine (Env κ)) p m with
  | mk r m' =>
    cases r with
    | error e => rfl
    | ok a => exact hf a m' hp

/-- A program whose commands keep all row ids. -/
theorem runTo_rowids {p : MemM (Env κ) α} (hp : ∀ x y, Keeps (HasRowids x y) p)
    (m : Machine (Env κ)) : (runTo (machine (Env κ)) p m).2.rest.rowids = m.rest.rowids :=
  (hp m.rest.rowids.1 m.rest.rowids.2).runTo (m := m) rfl

end steps

section copies

variable (nMem pc rc : ℕ) (op : Op) (m : Machine (Env κ))

/-- The body of an opcode keeps both row ids, unless it goes to a label. -/
theorem bodyOf_rowids (h : ¬ GoesToLabel B pc rc op m.toWorld) :
    (runTo (machine (Env κ)) (bodyOf B nMem pc rc op) m).2.rest.rowids = m.rest.rowids := by
  unfold bodyOf
  rw [runTo_bind, runTo_onWorld]
  cases hbody : runTo (machine κ) (B.body op pc rc) m.toWorld with
  | mk r m' =>
    cases r with
    | error e => rfl
    | ok exit =>
      cases exit with
      | next target rc => rfl
      | _ => exact absurd ⟨_, m', runTo_eq_ok_iff.mp hbody, fun _ _ => by simp⟩ h

/-- So does `OP_ResultRow`, unless it yields a row. -/
theorem OP_ResultRow_rowids (h : ¬ ((m.rest.p.nResColumn : ℤ) = op.p2 ∧
      B.fkViolated m.rest.world = false ∧ (B.closeStatement m.rest.world).1.val = SQLITE_OK)) :
    (runTo (machine (Env κ)) (OP_ResultRow B nMem pc op) m).2.rest.rowids = m.rest.rowids := by
  unfold OP_ResultRow
  rw [runTo_ask_bind]
  by_cases hn : (m.rest.p.nResColumn : ℤ) = op.p2
  · have hassert : (((m.rest.p.nResColumn : ℤ) == op.p2) : Bool) = true := by simpa using hn
    rw [hassert]
    simp only [pyAssert, ↓reduceIte, pure_bind]
    unfold sqlite3VdbeCheckFk
    rw [bind_assoc, runTo_ask_bind]
    cases hfk : B.fkViolated m.rest.world with
    | true => rfl
    | false =>
      simp only [Bool.false_eq_true, ↓reduceIte, pure_bind, ne_eq, not_true_eq_false]
      rw [runTo_worldStep_bind]
      have hclose : ¬ (B.closeStatement m.rest.world).1.val = SQLITE_OK :=
        fun hclose => h ⟨hn, hfk, hclose⟩
      rw [if_pos hclose]
      rfl
  · have hassert : (((m.rest.p.nResColumn : ℤ) == op.p2) : Bool) = false := by simpa using hn
    rw [hassert]
    rfl

/-- So does `OP_Variable`, unless the parameter is too big. -/
theorem OP_Variable_rowids (h : ¬ ∃ m', run (machine (Env κ)) (do
      sqlite3VdbeMemTooBig B.limit (← var_with_index (op.p1 - 1))) m = .ok (true, m')) :
    (runTo (machine (Env κ)) (OP_Variable B nMem pc rc op) m).2.rest.rowids = m.rest.rowids := by
  unfold OP_Variable
  have hvar : ∀ x y, Keeps (HasRowids x y) (var_with_index (op.p1 - 1) : MemM (Env κ) ℕ) :=
    fun _ _ => Keeps.perform (by trivial)
  have hbig : ∀ pVar x y,
      Keeps (HasRowids x y) (sqlite3VdbeMemTooBig B.limit pVar : MemM (Env κ) Bool) :=
    fun _ _ _ => Keeps.bind (Keeps.perform (by trivial)) fun f =>
      Keeps.ite (Keeps.pure _) (Keeps.perform (by trivial))
  rw [runTo_bind_rowids, runTo_rowids hvar]
  intro pVar m₁ hm₁
  rw [runTo_bind_rowids, runTo_rowids (hbig pVar)]
  intro tooBig m₂ hm₂
  cases tooBig with
  | true =>
    refine absurd ⟨m₂, ?_⟩ h
    rw [run_bind_ok (runTo_eq_ok_iff.mp hm₁)]
    exact runTo_eq_ok_iff.mp hm₂
  | false =>
    rw [if_neg Bool.false_ne_true]
    refine runTo_rowids (fun x y => Keeps.bind (Keeps.perform (by trivial)) fun pOut => ?_) m₂
    exact Keeps.bind (Keeps.onWorld _) fun _ => Keeps.pure _

/-- An opcode that is no insert and does not copy leaves the row ids alone. -/
theorem dispatch_rowids_of_not_copies (hinsert : op.opcode ≠ .Insert)
    (hinsertInt : op.opcode ≠ .InsertInt) (h : ¬ CopiesRowid B pc rc op m) :
    (runTo (machine (Env κ)) (dispatch B nMem pc rc op) m).2.rest.rowids = m.rest.rowids := by
  have hagain : ∀ {p : MemM (Env κ) (ℕ × ℕ)},
      (runTo (machine (Env κ)) p m).2.rest.rowids = m.rest.rowids →
      (runTo (machine (Env κ)) (p >>= fun x => pure (Iteration.again x.1 x.2)) m).2.rest.rowids =
        m.rest.rowids := fun hp => (runTo_bind_rowids fun _ _ _ => rfl).trans hp
  unfold CopiesRowid at h
  unfold dispatch
  split
  case h_1 hop =>
    rw [hop] at h
    refine (runTo_bind_rowids fun rc m' _ => ?_).trans (OP_ResultRow_rowids B nMem pc op m h)
    exact runTo_rowids (fun x y => Keeps.ite (Keeps.pure _) (Keeps.pure _)) m'
  case h_2 hop => rw [hop] at h; exact absurd trivial h
  case h_3 hop =>
    rw [hop] at h
    refine (runTo_bind_rowids fun y m' _ => ?_).trans (bodyOf_rowids B nMem pc rc op m h)
    exact runTo_rowids (fun _ _ => Keeps.ite (keeps_leaveWith _) (Keeps.pure _)) m'
  case h_4 hop => exact absurd hop hinsert
  case h_5 hop => exact absurd hop hinsertInt
  case h_6 hop =>
    rw [hop] at h
    have hpython : B.func_exists_in_python op = true := by
      by_contra hne
      exact h (Or.inl (by simpa using hne))
    refine hagain ?_
    unfold OP_Function
    rw [if_pos hpython]
    exact bodyOf_rowids B nMem pc rc op m fun hlabel => h (Or.inr hlabel)
  case h_7 hop => rw [hop] at h; exact hagain (OP_Variable_rowids B nMem pc rc op m h)
  case h_8 h1 h2 h3 h4 h5 h6 h7 =>
    refine hagain (bodyOf_rowids B nMem pc rc op m fun hlabel => h ?_)
    split
    case h_1 hop => exact absurd hop h1
    case h_2 hop => exact absurd hop h2
    case h_3 hop => exact absurd hop h6
    case h_4 hop => exact absurd hop h7
    case h_5 => exact hlabel

/-- What an opcode leaves of the row ids, if it copies only what is there already. -/
theorem dispatch_rowids (h : op.sets_lastRowid = false → CopiesRowid B pc rc op m →
      m.rest.db.lastRowid = m.rest.lastRowid) :
    (runTo (machine (Env κ)) (dispatch B nMem pc rc op) m).2.rest.rowids =
      match if op.sets_lastRowid then op.iKey m.mems else none with
      | some iKey => (iKey, iKey)
      | none => m.rest.rowids := by
  -- Only the two inserts set the last rowid, and only with their flag.
  by_cases hinsert : op.opcode = .Insert ∨ op.opcode = .InsertInt
  · have hdispatch : dispatch B nMem pc rc op =
        (OP_Insert_InsertInt B nMem pc rc op >>= fun x => pure (Iteration.again x.1 x.2)) := by
      unfold dispatch
      rcases hinsert with hop | hop <;> rw [hop]
    have hcopies : CopiesRowid B pc rc op m = GoesToLabel B pc rc op m.toWorld := by
      unfold CopiesRowid
      rcases hinsert with hop | hop <;> rw [hop]
    have hsets : op.sets_lastRowid = op.p5_has OPFLAG_LASTROWID := by
      unfold Op.sets_lastRowid
      rcases hinsert with hop | hop <;> simp [hop]
    rw [hcopies] at h
    rw [hdispatch, runTo_bind_rowids fun _ _ _ => rfl, runTo_OP_Insert_InsertInt, hsets]
    cases hkey : op.iKey m.mems with
    | none => split_ifs <;> rfl
    | some iKey =>
      unfold insertKey
      cases hflag : op.p5_has OPFLAG_LASTROWID with
      | true =>
        exact ((opcodesKeep_rowids B nMem iKey).bodyOf pc rc op (keepsAddress_rowids _ _)).runTo
          (m := { m with rest := { m.rest with
            lastRowid := iKey, db := { m.rest.db with lastRowid := iKey } } }) rfl
      | false =>
        simp only [Bool.false_eq_true, ↓reduceIte]
        by_cases hlabel : GoesToLabel B pc rc op m.toWorld
        · -- The copy from the global is harmless where the two agree.
          have hsame : m.rest.rowids = (m.rest.lastRowid, m.rest.lastRowid) :=
            Prod.ext (h (hsets.trans hflag) hlabel) rfl
          refine Eq.trans ?_ hsame.symm
          exact ((opcodesKeep_rowids B nMem m.rest.lastRowid).bodyOf pc rc op
            (keepsAddress_rowids _ _)).runTo (m := m) hsame
        · exact bodyOf_rowids B nMem pc rc op m hlabel
  · obtain ⟨hinsert, hinsertInt⟩ := not_or.mp hinsert
    have hsets : op.sets_lastRowid = false := by
      unfold Op.sets_lastRowid
      simp [hinsert, hinsertInt]
    rw [hsets, if_neg Bool.false_ne_true]
    by_cases hcopies : CopiesRowid B pc rc op m
    · -- The same copy, from any other opcode.
      have hsame : m.rest.rowids = (m.rest.lastRowid, m.rest.lastRowid) :=
        Prod.ext (h hsets hcopies) rfl
      refine Eq.trans ?_ hsame.symm
      exact ((opcodesKeep_rowids B nMem m.rest.lastRowid).dispatch pc rc op
        (keepsAddress_rowids _ _) fun hop => hop.elim (fun h => absurd h hinsert)
          fun h => absurd h hinsertInt).runTo (m := m) hsame
    · exact dispatch_rowids_of_not_copies B nMem pc rc op m hinsert hinsertInt hcopies

end copies

/-! ## Queries -/

section queries

variable (program : Program) (q : Query κ)

/-- What the loop does before the opcode. -/
def prelude (instr : Instr) : MemM (Env κ) Unit := do
  prerelease B instr
  invalidateUnlessSafe instr

/-- The next turn of the loop copies the global variable, and does not set it before. -/
def Query.CopiesRowid : Prop :=
  ∃ pc cs op m, q.control = .inside pc SQLITE_OK cs ∧ program.hlops[pc]? = some (.op op) ∧
    op.sets_lastRowid = false ∧
    run (SQPyte.machine (Env κ)) (prelude B (.op op))
      { q.machine with cache := q.machine.cache.reveal cs } = .ok ((), m) ∧
    SQPyte.CopiesRowid B pc SQLITE_OK op m

/-- The row id that the next turn of the loop sets. -/
def Query.insertedRowid : Option ℤ :=
  match q.control with
  | .outside _ => none
  | .inside pc rc _ =>
    if rc ≠ SQLITE_OK then none
    else
      match program.hlops[pc]? with
      | some (.op op) => if op.sets_lastRowid then op.iKey q.machine.mems else none
      | _ => none

variable {B program q}

/-- What comes before an opcode keeps everything. -/
theorem keeps_prelude {J : Env Unit → Prop} (instr : Instr) : Keeps J (prelude B instr) := by
  refine Keeps.bind ?_ fun _ => Keeps.ite (Keeps.pure _) (Keeps.perform (by trivial))
  unfold prerelease
  cases instr.prerelease with
  | none => exact Keeps.pure _
  | some p2 =>
    exact Keeps.bind (Keeps.perform (by trivial)) fun pOut =>
      Keeps.bind (Keeps.onWorld _) fun _ => Keeps.perform trivial

/-- Nothing comes before an insert. -/
theorem prelude_insert {op : Op} (h : op.sets_lastRowid = true) : prelude B (.op op) = pure () := by
  unfold Op.sets_lastRowid at h
  simp only [Bool.and_eq_true, Bool.or_eq_true, beq_iff_eq] at h
  have hpre : op.opcode.out2_prerelease = false := by
    rcases h.1 with hop | hop <;> simp [hop, Opcode.out2_prerelease]
  have hsafe : op.opcode.is_cache_safe = true := by
    rcases h.1 with hop | hop <;> simp [hop, Opcode.is_cache_safe]
  simp [prelude, prerelease, invalidateUnlessSafe, Instr.prerelease, Instr.is_cache_safe, hpre,
    hsafe]

/-- An iteration: what comes before the opcode, the opcode, and what comes after it. -/
theorem iteration_eq (nMem pc rc : ℕ) (instr : Instr) :
    iteration B nMem pc rc instr = prelude B instr >>= fun _ =>
      executeInstr B nMem pc rc instr >>= fun result => match result with
        | .leave ending => pure (.leave ending)
        | .again pc rc => do
          invalidateUnlessSafe instr
          return .again pc rc := by
  unfold iteration prelude
  exact (bind_assoc _ _ _).symm

/-- What follows the opcode in an iteration changes only the world. -/
theorem iteration_fields (nMem pc rc : ℕ) (instr : Instr) (m : Machine (Env κ)) :
    (runTo (machine (Env κ)) (iteration B nMem pc rc instr) m).2.rest.fields =
      match runTo (machine (Env κ)) (prelude B instr) m with
      | (.error _, m') => m'.rest.fields
      | (.ok _, m') =>
        (runTo (machine (Env κ)) (executeInstr B nMem pc rc instr) m').2.rest.fields := by
  rw [iteration_eq, runTo_bind]
  cases runTo (machine (Env κ)) (prelude B instr) m with
  | mk r m' =>
    cases r with
    | error e => rfl
    | ok _ =>
      refine runTo_bind_fields (fun result x => ?_) m'
      cases result with
      | leave ending => exact Keeps.pure _
      | again pc rc =>
        exact Keeps.bind (Keeps.ite (Keeps.pure _) (Keeps.perform (by trivial)))
          fun _ => Keeps.pure _

/-- Leaving the loop keeps the environment. -/
theorem leave_rest (m : Machine (Env κ)) (ending : Ending) :
    (Query.leave m ending).machine.rest = m.rest := by
  unfold Query.leave
  cases m.cache.prepare_return <;> rfl

/-- So does going on. -/
theorem proceed_rest (pc : ℕ) (r : Except Exc Iteration × Machine (Env κ)) :
    (Query.proceed pc r).machine.rest = r.2.rest := by
  obtain ⟨result, m⟩ := r
  cases result with
  | error e => rfl
  | ok result =>
    cases result with
    | leave ending => exact leave_rest m ending
    | again pc' rc' =>
      unfold Query.proceed
      dsimp only
      split_ifs <;> rfl

/-- What a turn of the loop leaves of the row ids, if it copies only what is there already. -/
theorem turn_rowids {pc rc : ℕ} {cs : CacheState} (hinside : q.control = .inside pc rc cs)
    (h : q.CopiesRowid B program → q.machine.rest.db.lastRowid = q.machine.rest.lastRowid) :
    (q.turn B program pc rc cs).machine.rest.rowids =
      match q.insertedRowid program with
      | some iKey => (iKey, iKey)
      | none => q.machine.rest.rowids := by
  unfold Query.turn Query.insertedRowid
  rw [hinside]
  dsimp only
  -- A turn that starts with an error leaves the loop at once.
  by_cases hrc : rc = SQLITE_OK
  · subst hrc
    rw [if_neg (by simp), if_neg (by simp)]
    cases hpc : program.hlops[pc]? with
    | none => rfl
    | some instr =>
      dsimp only
      -- What the turn does to the rowids is what its opcode does.
      have hfields := congrArg Env.rowids (iteration_fields (B := B) q.machine.nMem pc SQLITE_OK instr
        { q.machine with cache := q.machine.cache.reveal cs })
      rw [proceed_rest]
      refine Eq.trans hfields ?_
      cases instr with
      | unimplemented p2 out2_prerelease =>
        -- An opcode that is not implemented fails in its prelude or right after it.
        have hkeep := runTo_rowids (fun x y => keeps_prelude (B := B) (J := HasRowids x y)
          (.unimplemented p2 out2_prerelease)) { q.machine with cache := q.machine.cache.reveal cs }
        generalize runTo (machine (Env κ)) (prelude B (.unimplemented p2 out2_prerelease))
          { q.machine with cache := q.machine.cache.reveal cs } = r at hkeep
        obtain ⟨r, m'⟩ := r
        cases r with
        | error e => exact hkeep
        | ok _ => exact hkeep
      | op op =>
        dsimp only
        -- An insert has no prelude, and sets both copies to its rowid.
        by_cases hsets : op.sets_lastRowid = true
        · rw [prelude_insert hsets, if_pos hsets]
          have hturn := dispatch_rowids B q.machine.nMem pc SQLITE_OK op
            { q.machine with cache := q.machine.cache.reveal cs } fun hfalse => by
              rw [hsets] at hfalse
              cases hfalse
          rw [if_pos hsets] at hturn
          exact hturn
        · rw [if_neg hsets]
          have hkeep := runTo_rowids (fun x y => keeps_prelude (B := B) (J := HasRowids x y) (.op op))
            { q.machine with cache := q.machine.cache.reveal cs }
          cases hprelude : runTo (machine (Env κ)) (prelude B (.op op))
              { q.machine with cache := q.machine.cache.reveal cs } with
          | mk r m' =>
            rw [hprelude] at hkeep
            cases r with
            | error e => exact hkeep
            | ok u =>
              -- Another opcode may copy the global rowid into the connection, where both agree by
              -- hypothesis.
              have hcopy : op.sets_lastRowid = false → SQPyte.CopiesRowid B pc SQLITE_OK op m' →
                  m'.rest.db.lastRowid = m'.rest.lastRowid := fun hsets hc => by
                have hq := h ⟨pc, cs, op, m', hinside, hpc, hsets,
                  runTo_eq_ok_iff.mp hprelude, hc⟩
                exact (congrArg Prod.fst hkeep).trans (hq.trans (congrArg Prod.snd hkeep).symm)
              have hturn := dispatch_rowids B q.machine.nMem pc SQLITE_OK op m' hcopy
              rw [if_neg hsets] at hturn
              exact hturn.trans hkeep
  · rw [if_pos (by simpa using hrc), if_pos (by simpa using hrc), leave_rest]

end queries

/-! ## Processes -/

/-- A statement, and the number of its connection. -/
structure Statement (κ : Type) where
  /-- The connection it belongs to. -/
  connection : ℕ
  /-- Its program. -/
  program : Program
  /-- Its query. -/
  query : Query κ

/-- The statements and the connections of a process, and what they share. -/
structure Process (κ : Type) where
  /-- The statements. -/
  statements : ℕ → Statement κ
  /-- The connections. -/
  connections : ℕ → Connection
  /-- The global variable `lastRowid` of `sqpyte.c`. -/
  lastRowid : ℤ
  /-- Everything else. -/
  world : κ

/-- What a caller can do with a statement: call `mainloop`, let its loop go around, or call another
method. -/
inductive Call where
  | mainloop
  | turn
  | method (method : Method)

/-- The event of the query. -/
def Call.event : Call → Event κ
  | .mainloop => .mainloop
  | .turn => .turn
  | .method m => .method m

/-- What can happen in a process. -/
inductive ProcessEvent (κ : Type) where
  /-- A statement goes on. -/
  | call (s : ℕ) (call : Call)
  /-- A statement is prepared in the place of another one. -/
  | prepare (s : ℕ) (statement : Statement κ)
  /-- Anything that executes no statement. -/
  | elsewhere (world : κ) (expired : ℕ → Bool)

/-- The query of a statement, with what the process has of its fields. -/
def Process.load (p : Process κ) (s : ℕ) : Query κ :=
  let st := p.statements s
  st.query.disturb p.world (p.connections st.connection) p.lastRowid st.query.machine.rest.p.expired

/-- The process after a statement went on. -/
def Process.store (p : Process κ) (s : ℕ) (q : Query κ) : Process κ where
  statements := Function.update p.statements s { p.statements s with query := q }
  connections := Function.update p.connections (p.statements s).connection q.machine.rest.db
  lastRowid := q.machine.rest.lastRowid
  world := q.machine.rest.world

/-- A process, and the row id of the last flagged insert on each connection. -/
structure History (κ : Type) where
  /-- The process as it is now. -/
  process : Process κ
  /-- The row id of the last flagged insert on each connection. -/
  latest : ℕ → ℤ

/-- Nothing was inserted yet. -/
def History.start (p : Process κ) : History κ := ⟨p, fun c => (p.connections c).lastRowid⟩

/-- The row id that a call sets. -/
def Call.insertedRowid (program : Program) (q : Query κ) : Call → Option ℤ
  | .turn => q.insertedRowid program
  | _ => none

/-- The row id that a call of a statement of the process sets. -/
def Process.insertedRowid (p : Process κ) (s : ℕ) (call : Call) : Option ℤ :=
  call.insertedRowid (p.statements s).program (p.load s)

/-- What an event does. Every connection has its own functions of C. -/
def History.step (B : ℕ → Backend κ) (h : History κ) : ProcessEvent κ → Option (History κ)
  | .call s call =>
    let st := h.process.statements s
    ((h.process.load s).step (B st.connection) st.program call.event).map fun q =>
      { process := h.process.store s q
        latest := match h.process.insertedRowid s call with
          | some iKey => Function.update h.latest st.connection iKey
          | none => h.latest }
  | .prepare s statement =>
    some { h with process := { h.process with
      statements := Function.update h.process.statements s statement } }
  | .elsewhere world expired =>
    some { h with process := { h.process with
      world := world
      statements := fun s =>
        let st := h.process.statements s
        let m := st.query.machine
        { st with query := { st.query with machine := { m with rest := { m.rest with
          p := { m.rest.p with expired := expired s } } } } } } }

/-- Every connection has the row id of its last flagged insert. -/
def RowidsLatest (h : History κ) : Prop :=
  ∀ c, (h.process.connections c).lastRowid = h.latest c

/-- An event leaves the other connections alone, and the row id of its own if it inserts nothing. -/
def Isolated (h : History κ) (e : ProcessEvent κ) (h' : History κ) : Prop :=
  match e with
  | .call s call =>
    (∀ c, c ≠ (h.process.statements s).connection →
      h'.process.connections c = h.process.connections c) ∧
    (h.process.insertedRowid s call = none →
      (h'.process.connections (h.process.statements s).connection).lastRowid =
        (h.process.connections (h.process.statements s).connection).lastRowid)
  | _ => h'.process.connections = h.process.connections

/-- If the event copies the global variable, it copies what the connection has already. -/
def CopiesOwn (B : ℕ → Backend κ) (h : History κ) (e : ProcessEvent κ) : Prop :=
  match e with
  | .call s .turn =>
    (h.process.load s).CopiesRowid (B (h.process.statements s).connection)
        (h.process.statements s).program →
      (h.process.connections (h.process.statements s).connection).lastRowid = h.process.lastRowid
  | _ => True

section process

variable {B : ℕ → Backend κ}

/-- What a call leaves of the row ids. -/
theorem step_rowids {B : Backend κ} {program : Program} {q q' : Query κ} {call : Call}
    (hs : q.step B program call.event = some q')
    (h : call = .turn → q.CopiesRowid B program →
      q.machine.rest.db.lastRowid = q.machine.rest.lastRowid) :
    q'.machine.rest.rowids =
      match call.insertedRowid program q with
      | some iKey => (iKey, iKey)
      | none => q.machine.rest.rowids := by
  cases hcontrol : q.control with
  | outside last =>
    cases call with
    | mainloop =>
      simp only [Call.event, Query.step, hcontrol, Option.some.injEq] at hs
      subst hs
      unfold Query.enter
      cases q.machine.cache.reenter <;> rfl
    | turn =>
      simp only [Call.event, Query.step, hcontrol] at hs
      cases hs
    | method method =>
      simp only [Call.event, Query.step, hcontrol, Option.some.injEq] at hs
      subst hs
      -- A reset halts the statement in C, which leaves both rowids.
      by_cases hm : method = .reset_query
      · subst hm
        show (q.reset_query B).2.machine.rest.rowids = _
        unfold Query.reset_query
        cases q.machine.cache.invalidate_all_outside with
        | error e => rfl
        | ok cache =>
          exact sqlite3VdbeHalt_rowids B q.machine.nMem q.machine.mems q.machine.rest
      · have hsettled := (invoke_kept B q hm).settled
        exact congrArg (fun e : Env Unit => e.rowids) hsettled
  | inside pc rc cs =>
    cases call with
    | mainloop =>
      simp only [Call.event, Query.step, hcontrol] at hs
      cases hs
    | turn =>
      simp only [Call.event, Query.step, hcontrol, Option.some.injEq] at hs
      subst hs
      exact turn_rowids hcontrol (h rfl)
    | method method =>
      simp only [Call.event, Query.step, hcontrol] at hs
      cases hs

/-- One event, if it copies only what the connection has already. -/
theorem rowidsLatest_step {h h' : History κ} {e : ProcessEvent κ} (hlatest : RowidsLatest h)
    (hC : CopiesOwn B h e) (hs : h.step B e = some h') : RowidsLatest h' ∧ Isolated h e h' := by
  cases e with
  | prepare s statement =>
    obtain rfl := Option.some.inj hs
    exact ⟨hlatest, rfl⟩
  | elsewhere world expired =>
    obtain rfl := Option.some.inj hs
    exact ⟨hlatest, rfl⟩
  | call s call =>
    obtain ⟨q, hq, rfl⟩ := Option.map_eq_some_iff.mp hs
    have hrowids := step_rowids hq fun hturn => by
      subst hturn
      exact hC
    -- The statement runs on its own connection's copy.
    have hown : (h.process.load s).machine.rest.db.lastRowid =
        (h.process.connections (h.process.statements s).connection).lastRowid := rfl
    have hdb : q.machine.rest.db.lastRowid =
        match h.process.insertedRowid s call with
        | some iKey => iKey
        | none => (h.process.connections (h.process.statements s).connection).lastRowid := by
      unfold Process.insertedRowid
      have hfst := congrArg Prod.fst hrowids
      cases hins : call.insertedRowid (h.process.statements s).program (h.process.load s) with
      | none =>
        rw [hins] at hfst
        exact hfst
      | some iKey =>
        rw [hins] at hfst
        exact hfst
    refine ⟨fun c => ?_, fun c hc => Function.update_of_ne hc _ _, fun hnone => ?_⟩
    · dsimp only [Process.store]
      -- Only that connection's rowid can have changed, and only by an insert.
      by_cases hc : c = (h.process.statements s).connection
      · subst hc
        rw [Function.update_self, hdb]
        cases h.process.insertedRowid s call with
        | none => exact hlatest _
        | some iKey =>
          dsimp only
          rw [Function.update_self]
      · rw [Function.update_of_ne hc, hlatest c]
        cases h.process.insertedRowid s call with
        | none => rfl
        | some iKey =>
          dsimp only
          rw [Function.update_of_ne hc]
    · dsimp only [Process.store]
      rw [Function.update_self, hdb, hnone]

/-- As long as no statement copies the global variable where it is not the row id of its own
connection, every connection has the row id of its last flagged insert, no statement changes another
connection, and one that inserts nothing does not change its own row id. -/
theorem lastRowids_of_each (p : Process κ) {events : List (ProcessEvent κ)}
    (h : Runs.Each (History.step B) (CopiesOwn B) events (.start p)) :
    Runs.Always (History.step B) RowidsLatest events (.start p) ∧
      Runs.Throughout (History.step B) Isolated events (.start p) := by
  have hstart : RowidsLatest (History.start p) := fun _ => rfl
  exact ⟨Runs.Always.of_each (fun s e s' hI hC hs => (rowidsLatest_step hI hC hs).1) hstart h,
    Runs.Throughout.of_each (fun s e s' hI hC hs => rowidsLatest_step hI hC hs) hstart h⟩

end process

/-! ## Two connections -/

/-- A program that inserts a row with the id 7. -/
def insertProgram : Program where
  hlops := [.op { Op.simple .InsertInt 0 0 7 with p5 := OPFLAG_LASTROWID },
    .op (.simple .Halt 0 0 0)]
  resultRow_pos op hop h := by
    simp only [List.mem_cons, Instr.op.injEq, List.not_mem_nil, or_false] at hop
    rcases hop with rfl | rfl <;> cases h

/-- The first connection has a statement that inserts. All others have one that does nothing. -/
def twoConnections : Process Unit where
  statements s := ⟨s, if s = 0 then insertProgram else haltProgram, haltQuery⟩
  connections _ := ⟨0, 0, 0, 0⟩
  lastRowid := 0
  world := ()

/-- The statements of both connections run by turns. The one that does nothing ends before the
insert. -/
def interleaved : List (ProcessEvent Unit) :=
  [.call 0 .mainloop, .call 1 .mainloop, .call 1 .turn, .call 0 .turn, .call 0 .turn]

/-- Statements of two connections in turn. -/
theorem lastRowids_interleaved :
    Runs.Always (History.step fun _ => Backend.quiet) RowidsLatest interleaved
        (.start twoConnections) ∧
      Runs.Throughout (History.step fun _ => Backend.quiet) Isolated interleaved
        (.start twoConnections) :=
  lastRowids_of_each twoConnections <|
    .cons trivial rfl <| .cons trivial rfl <| .cons (fun _ => rfl) rfl <| .cons (fun _ => rfl) rfl <|
    .cons (fun _ => rfl) rfl <| .nil _

/-- A statement that does nothing then gives its row id to the second connection. -/
theorem not_lastRowids_two :
    ¬ (Runs.Always (History.step fun _ => Backend.quiet) RowidsLatest
        [.call 0 .mainloop, .call 0 .turn, .call 0 .turn, .call 1 .mainloop, .call 1 .turn]
        (.start twoConnections) ∧
      Runs.Throughout (History.step fun _ => Backend.quiet) Isolated
        [.call 0 .mainloop, .call 0 .turn, .call 0 .turn, .call 1 .mainloop, .call 1 .turn]
        (.start twoConnections)) := by
  intro h
  have hlatest : (7 : ℤ) = 0 := h.1.after rfl 1
  cases hlatest

end SQPyte
