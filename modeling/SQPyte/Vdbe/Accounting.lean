import SQPyte.Library.Tally
import SQPyte.Vdbe.LastRowid

/-!
# The counters of the running statements

`sqlite3_step` counts a statement in `nVdbeActive`, `nVdbeWrite` and `nVdbeRead` when it starts it,
and stores 0 in `p.pc`. `sqlite3VdbeHalt` takes a statement out of the counters if its `p.pc` is not
negative. `mainloop` starts a statement without counting it, and leaves `p.pc` negative. It is a row
that is returned, a busy database, or an `OP_Halt` that stores an address there: from then on the
statement counts as one that has been started (`sqlite3_stmt_busy`), but the counters do not have it.

What the counters hold besides the share of one statement is `Env.others`. Halting and every opcode
leave it alone, except where an address is stored in the `p.pc` of a running statement that has none
(`step_others`). Since a `Session` has one statement go on at a time, its counters are right along a
run exactly if no turn of a loop does that, and no reset finds that the halt is refused
(`counted_iff_each`).
-/

namespace SQPyte

open Commands

variable {κ : Type} (B : Backend κ)

/-! ## Shares -/

/-- `sqlite3_stmt_busy`. -/
def sqlite3_stmt_busy (p : Vdbe) : Bool := decide (0 ≤ p.pc) && p.magic == .RUN

/-- The statement is running, and has not been started. -/
def Vdbe.Unstarted (p : Vdbe) : Prop := p.magic = .RUN ∧ p.pc < 0

/-- `nVdbeActive`, `nVdbeWrite` and `nVdbeRead`. -/
def Connection.counters (db : Connection) : ℤ × ℤ × ℤ :=
  (db.nVdbeActive, db.nVdbeWrite, db.nVdbeRead)

/-- What `checkActiveVdbeCnt` counts for a statement. -/
def Vdbe.share (p : Vdbe) : ℤ × ℤ × ℤ :=
  (if sqlite3_stmt_busy p then 1 else 0,
    if sqlite3_stmt_busy p ∧ p.readOnly = false then 1 else 0,
    if sqlite3_stmt_busy p ∧ p.bIsReader = true then 1 else 0)

/-- What the counters hold for the other statements. -/
def Env.others (e : Env κ) : ℤ × ℤ × ℤ := e.db.counters - e.p.share

/-- A statement that is not busy has no share in the counters. -/
theorem share_of_not_busy {p : Vdbe} (h : sqlite3_stmt_busy p = false) : p.share = 0 := by
  unfold Vdbe.share
  rw [h]
  rfl

/-- Nor has one that has not started. -/
theorem Vdbe.Unstarted.share {p : Vdbe} (h : p.Unstarted) : p.share = 0 := by
  refine share_of_not_busy ?_
  unfold sqlite3_stmt_busy
  rw [decide_eq_false (not_le.mpr h.2), Bool.false_and]

/-- The share of a statement depends on these fields. -/
theorem share_congr {p p' : Vdbe} (hmagic : p'.magic = p.magic) (hpc : p'.pc = p.pc)
    (hwrite : p'.readOnly = p.readOnly) (hread : p'.bIsReader = p.bIsReader) :
    p'.share = p.share := by
  unfold Vdbe.share sqlite3_stmt_busy
  rw [hmagic, hpc, hwrite, hread]

/-- An address that is stored in `p.pc` changes the share exactly if the statement is running and
has not been started. -/
theorem share_started_iff {p p' : Vdbe} (hmagic : p'.magic = p.magic) (hpc : 0 ≤ p'.pc)
    (hwrite : p'.readOnly = p.readOnly) (hread : p'.bIsReader = p.bIsReader) :
    p'.share = p.share ↔ ¬ p.Unstarted := by
  constructor
  · intro h hun
    have hactive : p'.share.1 = 0 := by rw [h, hun.share]; rfl
    unfold Vdbe.share sqlite3_stmt_busy at hactive
    rw [hmagic, hun.1, decide_eq_true hpc] at hactive
    cases hactive
  · intro h
    unfold Vdbe.share sqlite3_stmt_busy
    rw [hmagic, hwrite, hread, decide_eq_true hpc]
    by_cases hrun : p.magic = .RUN
    · have hstarted : 0 ≤ p.pc := not_lt.mp fun hlt => h ⟨hrun, hlt⟩
      rw [decide_eq_true hstarted]
    · have hmagic : (p.magic == Magic.RUN) = false := beq_eq_false_iff_ne.mpr hrun
      rw [hmagic, Bool.and_false, Bool.and_false]

/-! ## The labels -/

/-- The counters hold the same for the other statements, and the statement is unstarted only if it
was so before. -/
structure Balances (e e' : Env κ) : Prop where
  /-- The share of the others. -/
  others : e'.others = e.others
  /-- A statement that has started stays so. -/
  unstarted : e'.p.Unstarted → e.p.Unstarted

/-- Balance is kept step by step. -/
theorem Balances.trans {e e' e'' : Env κ} (h : Balances e e') (h' : Balances e' e'') :
    Balances e e'' :=
  ⟨h'.others.trans h.others, fun hun => h.unstarted (h'.unstarted hun)⟩

/-- So it is if nothing but other fields of the statement, the row id and the world change. -/
theorem Balances.of_same {e e' : Env κ} (hcounters : e'.db.counters = e.db.counters)
    (hmagic : e'.p.magic = e.p.magic) (hpc : e'.p.pc = e.p.pc)
    (hwrite : e'.p.readOnly = e.p.readOnly) (hread : e'.p.bIsReader = e.p.bIsReader) :
    Balances e e' := by
  refine ⟨?_, fun hun => ⟨hmagic.symm.trans hun.1, hpc ▸ hun.2⟩⟩
  unfold Env.others
  rw [hcounters, share_congr hmagic hpc hwrite hread]

/-- An address that is stored in `p.pc` keeps the balance exactly if the statement is not a running
one that has none. -/
theorem others_started_iff (e e' : Env κ) (hcounters : e'.db.counters = e.db.counters)
    (hmagic : e'.p.magic = e.p.magic) (hpc : 0 ≤ e'.p.pc)
    (hwrite : e'.p.readOnly = e.p.readOnly) (hread : e'.p.bIsReader = e.p.bIsReader) :
    e'.others = e.others ↔ ¬ e.p.Unstarted := by
  unfold Env.others
  rw [hcounters, sub_right_inj, share_started_iff hmagic hpc hwrite hread]

/-- Other fields of the statement and the result set do not matter. -/
theorem balances_setFields {e : Env κ} {p : Vdbe} {i : ℤ} (hmagic : p.magic = e.p.magic)
    (hpc : p.pc = e.p.pc) (hwrite : p.readOnly = e.p.readOnly)
    (hread : p.bIsReader = e.p.bIsReader) :
    Balances e { e with p := p, result_set_index := i } :=
  .of_same rfl hmagic hpc hwrite hread

/-- A result code and the world do not matter. -/
theorem balances_set (e : Env κ) (rc : ℕ) (w : κ) :
    Balances e { e with p := { e.p with rc := rc }, world := w } :=
  .of_same rfl rfl rfl rfl rfl

/-- Noting that memory ran out changes no counter. -/
theorem noteMallocFailed_balances (e : Env κ) : Balances e (e.noteMallocFailed B) := by
  unfold Env.noteMallocFailed
  split_ifs <;> exact .of_same rfl rfl rfl rfl rfl

/-- A running statement that is halted takes its share out of the counters. -/
theorem markHalted_balances {e : Env κ} (h : e.p.magic = .RUN) : Balances e e.markHalted := by
  refine ⟨?_, fun hun => by cases hun.1⟩
  have hhalt : e.markHalted.p.share = 0 :=
    share_of_not_busy (by simp [sqlite3_stmt_busy, Env.markHalted])
  unfold Env.others
  rw [hhalt, sub_zero]
  by_cases hpc : 0 ≤ e.p.pc
  · have hbusy : sqlite3_stmt_busy e.p = true := by simp [sqlite3_stmt_busy, h, hpc]
    unfold Env.markHalted Connection.counters Vdbe.share
    rw [if_pos hpc, hbusy]
    cases e.p.readOnly <;> cases e.p.bIsReader <;> simp
  · have hun : e.p.Unstarted := ⟨h, not_le.mp hpc⟩
    unfold Env.markHalted
    rw [hun.share, sub_zero, if_neg hpc]

/-- Whether `sqlite3VdbeHalt` halts the statement or not, the counters stay in balance. -/
theorem sqlite3VdbeHalt_balances (nMem : ℕ) (mems : List Mem) (e : Env κ) :
    Balances e (sqlite3VdbeHalt B nMem mems e).2.2 := by
  have hstart := noteMallocFailed_balances B e
  have hclosed : ∀ w, Balances e { e.noteMallocFailed B with world := w } := fun w =>
    hstart.trans (.of_same rfl rfl rfl rfl rfl)
  have hhalted : ∀ rc w, (e.noteMallocFailed B).p.magic = .RUN →
      Balances e (Env.noteMallocFailed B (Env.markHalted { e.noteMallocFailed B with
        p := { (e.noteMallocFailed B).p with rc := rc }, world := w })) := by
    intro rc w hrun
    have hmarked := markHalted_balances (e := { e.noteMallocFailed B with
      p := { (e.noteMallocFailed B).p with rc := rc }, world := w }) hrun
    exact ((hstart.trans (balances_set _ rc w)).trans hmarked).trans
      (noteMallocFailed_balances B _)
  unfold sqlite3VdbeHalt
  dsimp only
  split_ifs with hmagic hreader
  · exact hclosed _
  · split
    · exact hclosed _
    · exact hhalted _ _ (not_not.mp hmagic)
  · exact hhalted _ _ (not_not.mp hmagic)

/-- The fields in which `impl_OP_Halt` stores before it halts the statement. -/
def Env.atHalt (pc : ℕ) (op : Op) (e : Env κ) : Env κ :=
  { e with p := { e.p with rc := op.p1.toNat, errorAction := op.p2, pc := pc } }

/-- After it has stored the address, `impl_OP_Halt` keeps the balance. -/
theorem impl_OP_Halt_balances (nMem pc : ℕ) (op : Op) (mems : List Mem) (e : Env κ) :
    Balances (e.atHalt pc op) (impl_OP_Halt B nMem pc op mems e).2.2 := by
  refine (sqlite3VdbeHalt_balances B nMem mems (e.atHalt pc op)).trans ?_
  unfold impl_OP_Halt Env.atHalt
  dsimp only
  split_ifs <;> exact .of_same rfl rfl rfl rfl rfl

/-! ## The opcodes -/

/-- The counters hold `x` for the other statements, and if `c` holds, the statement is not
unstarted. -/
abbrev Tallied (x : ℤ × ℤ × ℤ) (c : Prop) (e : Env Unit) : Prop :=
  e.others = x ∧ (c → ¬ e.p.Unstarted)

/-- The body of the opcode finds the database busy. -/
def FindsBusy (pc rc : ℕ) (op : Op) (m : Machine κ) : Prop :=
  ∃ m', run (machine κ) (B.body op pc rc) m = .ok (.transaction_busy, m')

/-- The opcode stores an address in `p.pc`: `OP_Halt`, an `OP_ResultRow` that returns a row, and a
busy `OP_Transaction`. Any other body may find the database busy too. -/
def StoresAddress (nMem pc rc : ℕ) (op : Op) (m : Machine (Env κ)) : Prop :=
  match op.opcode with
  | .ResultRow => ∃ m', run (machine (Env κ)) (OP_ResultRow B nMem pc op) m = .ok (SQLITE_ROW, m')
  | .Halt => True
  | .Insert | .InsertInt => op.iKey m.mems ≠ none ∧ FindsBusy B pc rc op m.toWorld
  | .Variable => False
  | _ => FindsBusy B pc rc op m.toWorld

section opcodes

variable (nMem pc rc : ℕ) (op : Op) (x : ℤ × ℤ × ℤ) (c : Prop)

/-- What is in balance stays tallied. -/
theorem Balances.tallied {e e' : Env κ} (h : Balances e e') {x : ℤ × ℤ × ℤ} {c : Prop}
    (he : Tallied x c e.fields) : Tallied x c e'.fields :=
  ⟨h.others.trans he.1, fun hc hun => he.2 hc (h.unstarted hun)⟩

/-- All opcodes keep the tally. -/
theorem opcodesKeep_tallied : OpcodesKeep B nMem (Tallied x c) where
  fields _ _ _ hmagic hpc hwrite hread h :=
    (balances_setFields hmagic hpc hwrite hread).tallied h
  toDb _ h := h
  fromDb _ h := h
  halt mems e h := (sqlite3VdbeHalt_balances B nMem mems e).tallied h

/-- In a statement that is not unstarted any address may be stored. -/
theorem keepsAddress_tallied : KeepsAddress (Tallied x True) := fun e n h => by
  have hothers := (others_started_iff e { e with p := { e.p with pc := n } } rfl rfl
    (Int.natCast_nonneg n) rfl rfl).mpr (h.2 trivial)
  exact ⟨hothers.trans h.1, fun _ hun => not_lt.mpr (Int.natCast_nonneg n) hun.2⟩

/-- A key that is entered as the last row id changes no counter. -/
theorem keeps_insertKey_tallied (iKey : ℤ) :
    Keeps (Tallied x True) (insertKey B nMem pc rc op iKey) :=
  have hbody := (opcodesKeep_tallied B nMem x True).bodyOf pc rc op (keepsAddress_tallied x)
  Keeps.ite (Keeps.bind (Keeps.tell fun _ h => h) fun _ => hbody) hbody

/-- Every opcode keeps the balance of a statement that is not unstarted. -/
theorem keeps_dispatch_tallied : Keeps (Tallied x True) (dispatch B nMem pc rc op) := by
  refine (opcodesKeep_tallied B nMem x True).dispatch pc rc op (keepsAddress_tallied x) fun _ => ?_
  rw [OP_Insert_InsertInt_eq]
  refine Keeps.ite (Keeps.bind (Keeps.perform ?_) fun iKey => ?_) ?_
  · intro mems e iKey mems' e' he hr
    dsimp only at hr
    cases hkey : mems[op.p3.toNat]? with
    | none => rw [hkey] at hr; cases hr
    | some pKey =>
      rw [hkey] at hr
      obtain ⟨-, -, rfl⟩ := Except.ok.inj hr
      exact he
  · exact keeps_insertKey_tallied B nMem pc rc op x iKey
  · exact keeps_insertKey_tallied B nMem pc rc op x op.p3

end opcodes

/-! ## A statement that was not started -/

section unstarted

variable {B} {nMem pc rc : ℕ} {op : Op} {m : Machine (Env κ)}

/-- What keeps the balance, whatever happens to the statement. -/
theorem others_of_keeps {α : Type} {p : MemM (Env κ) α}
    (h : Keeps (Tallied m.rest.others False) p) :
    (runTo (machine (Env κ)) p m).2.rest.others = m.rest.others :=
  (h.runTo (m := m) ⟨rfl, False.elim⟩).1

/-- An opcode that ends with this exit breaks the balance exactly if that is a busy database. -/
theorem leaveOpcode_others_iff (hun : m.rest.p.Unstarted) (exit : Exit) :
    (runTo (machine (Env κ)) (leaveOpcode B nMem pc exit) m).2.rest.others = m.rest.others ↔
      exit ≠ .transaction_busy := by
  constructor
  · rintro h rfl
    exact (others_started_iff m.rest (Env.vdbe_return { m.rest with
      p := { m.rest.p with pc := pc, rc := SQLITE_BUSY } }) rfl rfl (Int.natCast_nonneg pc)
      rfl rfl).mp h hun
  · intro hexit
    exact others_of_keeps
      ((opcodesKeep_tallied B nMem _ False).leaveOpcode pc fun h => absurd h hexit)

/-- The body finds the database busy exactly if it exits so. -/
theorem findsBusy_iff {m m' : Machine κ} {r : Except Exc Exit}
    (h : runTo (machine κ) (B.body op pc rc) m = (r, m')) :
    FindsBusy B pc rc op m ↔ r = .ok .transaction_busy := by
  constructor
  · rintro ⟨m'', hrun⟩
    exact (Prod.mk.inj (h.symm.trans (runTo_of_run hrun))).1
  · rintro rfl
    exact ⟨m', runTo_eq_ok_iff.mp h⟩

/-- The end of an opcode with a body, after which a row id may be copied. -/
theorem body_others_iff (hun : m.rest.p.Unstarted) {f : Exit → MemM (Env κ) (ℕ × ℕ)}
    (copy : Env κ → Env κ) (hcopy : ∀ e, (copy e).p = e.p ∧ (copy e).others = e.others)
    (hf : ∀ exit m, runTo (machine (Env κ)) (f exit) m =
      runTo (machine (Env κ)) (leaveOpcode B nMem pc exit) { m with rest := copy m.rest }) :
    (runTo (machine (Env κ)) (onWorld (B.body op pc rc) >>= f) m).2.rest.others = m.rest.others ↔
      ¬ FindsBusy B pc rc op m.toWorld := by
  rw [runTo_bind, runTo_onWorld]
  cases hbody : runTo (machine κ) (B.body op pc rc) m.toWorld with
  | mk r m' =>
    rw [findsBusy_iff hbody]
    cases r with
    | error e => exact iff_of_true rfl (by simp)
    | ok exit =>
      dsimp only
      rw [hf]
      have hun' : (copy (m'.inEnv m.rest).rest).p.Unstarted := by
        rw [(hcopy _).1]
        exact hun
      have hsame : (copy (m'.inEnv m.rest).rest).others = m.rest.others := (hcopy _).2
      have hiff : (runTo (machine (Env κ)) (leaveOpcode B nMem pc exit)
          { m'.inEnv m.rest with rest := copy (m'.inEnv m.rest).rest }).2.rest.others =
            (copy (m'.inEnv m.rest).rest).others ↔ exit ≠ .transaction_busy :=
        leaveOpcode_others_iff hun' exit
      rw [hsame] at hiff
      rw [hiff, Except.ok.injEq]

/-- Before its start, the body of an opcode keeps the share of the others exactly if it does not
find the database busy. -/
theorem bodyOf_others_iff (hun : m.rest.p.Unstarted) :
    (runTo (machine (Env κ)) (bodyOf B nMem pc rc op) m).2.rest.others = m.rest.others ↔
      ¬ FindsBusy B pc rc op m.toWorld :=
  body_others_iff hun id (fun _ => ⟨rfl, rfl⟩) fun _ _ => rfl

/-- The same for `OP_Function`. -/
theorem OP_Function_others_iff (hun : m.rest.p.Unstarted) :
    (runTo (machine (Env κ)) (OP_Function B nMem pc rc op) m).2.rest.others = m.rest.others ↔
      ¬ FindsBusy B pc rc op m.toWorld := by
  unfold OP_Function
  split_ifs with hpython
  · exact bodyOf_others_iff hun
  · rw [runTo_tell_bind]
    exact body_others_iff (m := { m with rest := { m.rest with
      db := { m.rest.db with lastRowid := m.rest.lastRowid } } }) hun
      (fun e => { e with lastRowid := e.db.lastRowid }) (fun _ => ⟨rfl, rfl⟩) fun _ _ => rfl

/-- The same for an insert, which gets that far only with a key. -/
theorem OP_Insert_InsertInt_others_iff (hun : m.rest.p.Unstarted) :
    (runTo (machine (Env κ)) (OP_Insert_InsertInt B nMem pc rc op) m).2.rest.others =
      m.rest.others ↔ ¬ (op.iKey m.mems ≠ none ∧ FindsBusy B pc rc op m.toWorld) := by
  rw [runTo_OP_Insert_InsertInt]
  cases op.iKey m.mems with
  | none => exact iff_of_true rfl (by simp)
  | some iKey =>
    simp only [ne_eq, reduceCtorEq, not_false_eq_true, true_and]
    unfold insertKey
    split_ifs with hflag
    · rw [runTo_tell_bind]
      exact bodyOf_others_iff (m := { m with rest := { m.rest with
        lastRowid := iKey, db := { m.rest.db with lastRowid := iKey } } }) hun
    · exact bodyOf_others_iff hun

/-- The counters hold `x` for the other statements, and the statement is unstarted. -/
abbrev StillUnstarted (x : ℤ × ℤ × ℤ) (e : Env Unit) : Prop := e.others = x ∧ e.p.Unstarted

/-- The fields that decide whether a statement has started. -/
theorem StillUnstarted.fields {x : ℤ × ℤ × ℤ} {e : Env Unit} (he : StillUnstarted x e) (p : Vdbe)
    (i : ℤ) (hmagic : p.magic = e.p.magic) (hpc : p.pc = e.p.pc) (hwrite : p.readOnly = e.p.readOnly)
    (hread : p.bIsReader = e.p.bIsReader) :
    StillUnstarted x { e with p := p, result_set_index := i } :=
  ⟨(balances_setFields hmagic hpc hwrite hread).others.trans he.1,
    hmagic.trans he.2.1, hpc.symm ▸ he.2.2⟩

/-- The check of foreign keys starts no statement. -/
theorem keeps_sqlite3VdbeCheckFk (x : ℤ × ℤ × ℤ) :
    Keeps (StillUnstarted x) (sqlite3VdbeCheckFk B) := by
  unfold sqlite3VdbeCheckFk
  refine Keeps.bind (Keeps.ask _) fun violated => Keeps.ite ?_ (Keeps.pure _)
  exact Keeps.bind (Keeps.tell fun e he => he.fields _ _ rfl rfl rfl rfl) fun _ => Keeps.pure _

/-- An `OP_ResultRow` that raises an exception has stored no address. -/
theorem OP_ResultRow_fails_others (x : ℤ × ℤ × ℤ) :
    Fails (machine (Env κ)) (fun m => StillUnstarted x m.rest.fields) (OP_ResultRow B nMem pc op)
      fun m => StillUnstarted x m.rest.fields := by
  unfold OP_ResultRow
  refine Keeps.fails_bind (Keeps.ask _) fun n => Keeps.fails_bind (Keeps.pyAssert _) fun _ => ?_
  refine Keeps.fails_bind (keeps_sqlite3VdbeCheckFk x) fun rc =>
    Fails.ite (fun _ => Fails.ret) fun _ => ?_
  refine Keeps.fails_bind (Keeps.worldStep _) fun rc => Fails.ite (fun _ => Fails.ret) fun _ => ?_
  refine Keeps.fails_bind (Keeps.tell fun e he => he.fields _ _ rfl rfl rfl rfl) fun _ => ?_
  refine Keeps.fails_bind (Keeps.tell fun e he => he.fields e.p _ rfl rfl rfl rfl) fun _ => ?_
  refine Keeps.fails_bind (Keeps.perform (by trivial)) fun result_set => ?_
  refine Keeps.fails_bind (Keeps.tell fun e he => he.fields _ _ rfl rfl rfl rfl) fun _ => ?_
  refine Keeps.fails_bind (Keeps.onWorld _) fun no_mem =>
    Fails.ite (fun _ => fails_gotoLabel _) fun _ => ?_
  refine Keeps.fails_bind (Keeps.ask _) fun failed =>
    Fails.ite (fun _ => fails_gotoLabel _) fun _ => ?_
  -- the address is stored, and nothing that follows raises an exception
  refine Fails.bind (R := fun _ _ => True) (Fails.perform fun _ _ _ hr => by cases hr)
    (fun _ _ _ _ _ => trivial) fun _ => ?_
  exact Fails.bind (R := fun _ _ => True) (Fails.perform fun _ _ _ hr => by cases hr)
    (fun _ _ _ _ _ => trivial) fun _ => Fails.ret

/-- The balance is broken exactly with a row. -/
theorem OP_ResultRow_triple_others (x : ℤ × ℤ × ℤ) :
    Triple (machine (Env κ)) (fun m => StillUnstarted x m.rest.fields) (OP_ResultRow B nMem pc op)
      fun rc m => m.rest.others = x ↔ rc ≠ SQLITE_ROW := by
  have hret : ∀ {rc : ℕ}, rc ≠ SQLITE_ROW → Triple (machine (Env κ))
      (fun m => StillUnstarted x m.rest.fields) (pure rc)
      fun rc m => m.rest.others = x ↔ rc ≠ SQLITE_ROW := fun hrc =>
    Triple.ret fun m hm => iff_of_true hm.1 hrc
  have hnomem : Triple (machine (Env κ)) (fun m => StillUnstarted x m.rest.fields)
      (gotoLabel (gotoNoMem B nMem)) fun rc m => m.rest.others = x ↔ rc ≠ SQLITE_ROW := by
    refine (triple_gotoLabel _).conseq (fun m hm => hm) fun rc m' => ?_
    rintro ⟨m, hm, rfl, rfl⟩
    have hothers := ((opcodesKeep_tallied B nMem x False).gotoVdbeErrorHalt SQLITE_NOMEM m.mems
      { m.rest with world := B.setMallocFailed m.rest.world } ⟨hm.1, False.elim⟩).1
    refine iff_of_true hothers ?_
    show SQLITE_ERROR ≠ SQLITE_ROW
    decide
  unfold OP_ResultRow
  refine Keeps.triple_bind (Keeps.ask _) fun n => Keeps.triple_bind (Keeps.pyAssert _) fun _ => ?_
  refine Triple.bind (R := fun rc m => rc ≠ SQLITE_ROW ∧ StillUnstarted x m.rest.fields) ?_
    fun rc => ?_
  · unfold sqlite3VdbeCheckFk
    refine Keeps.triple_bind (Keeps.ask _) fun violated => Triple.ite (fun _ => ?_) fun _ => ?_
    · refine Keeps.triple_bind (Keeps.tell fun e he => he.fields _ _ rfl rfl rfl rfl) fun _ => ?_
      exact Triple.ret fun m hm => ⟨by decide, hm⟩
    · exact Triple.ret fun m hm => ⟨by decide, hm⟩
  refine Triple.ite (fun _ => Triple.ret fun m hm => iff_of_true hm.2.1 hm.1) fun _ => ?_
  refine Triple.conseq ?_ (fun m hm => hm.2) fun _ _ h => h
  refine Keeps.triple_bind (Keeps.worldStep _) fun rc =>
    Triple.ite (fun _ => hret rc.ne_row) fun _ => ?_
  refine Keeps.triple_bind (Keeps.tell fun e he => he.fields _ _ rfl rfl rfl rfl) fun _ => ?_
  refine Keeps.triple_bind (Keeps.tell fun e he => he.fields e.p _ rfl rfl rfl rfl) fun _ => ?_
  refine Keeps.triple_bind (Keeps.perform (by trivial)) fun result_set => ?_
  refine Keeps.triple_bind (Keeps.tell fun e he => he.fields _ _ rfl rfl rfl rfl) fun _ => ?_
  refine Keeps.triple_bind (Keeps.onWorld _) fun no_mem => Triple.ite (fun _ => hnomem) fun _ => ?_
  refine Keeps.triple_bind (Keeps.ask _) fun failed => Triple.ite (fun _ => hnomem) fun _ => ?_
  -- the row is returned
  intro m hm rc m' hr
  obtain ⟨rfl, rfl⟩ := Prod.mk.inj (Except.ok.inj hr)
  refine iff_of_false (fun hothers => ?_) (by simp)
  exact (others_started_iff m.rest (Env.vdbe_return { m.rest with
    p := { m.rest.p with pc := pc + 1 } }) rfl rfl (Int.natCast_nonneg (pc + 1))
    rfl rfl).mp (hothers.trans hm.1.symm) hm.2

/-- Before its start, `OP_ResultRow` keeps the share of the others exactly if it yields no row. -/
theorem OP_ResultRow_others_iff (hun : m.rest.p.Unstarted) :
    (runTo (machine (Env κ)) (OP_ResultRow B nMem pc op) m).2.rest.others = m.rest.others ↔
      ¬ ∃ m', run (machine (Env κ)) (OP_ResultRow B nMem pc op) m = .ok (SQLITE_ROW, m') := by
  have hm : StillUnstarted m.rest.others m.rest.fields := ⟨rfl, hun⟩
  cases hr : runTo (machine (Env κ)) (OP_ResultRow B nMem pc op) m with
  | mk r m' =>
    cases r with
    | error e =>
      refine iff_of_true (OP_ResultRow_fails_others _ m hm e m' hr).1 ?_
      rintro ⟨m'', hrun⟩
      cases (Prod.mk.inj (hr.symm.trans (runTo_of_run hrun))).1
    | ok rc =>
      refine (OP_ResultRow_triple_others _ m hm rc m' (runTo_eq_ok_iff.mp hr)).trans (not_congr ?_)
      constructor
      · rintro rfl
        exact ⟨m', runTo_eq_ok_iff.mp hr⟩
      · rintro ⟨m'', hrun⟩
        exact Except.ok.inj (Prod.mk.inj (hr.symm.trans (runTo_of_run hrun))).1

/-- Which opcodes break the balance. -/
theorem dispatch_others_iff (hun : m.rest.p.Unstarted) :
    (runTo (machine (Env κ)) (dispatch B nMem pc rc op) m).2.rest.others = m.rest.others ↔
      ¬ StoresAddress B nMem pc rc op m := by
  -- what follows the opcode does not matter
  have hafter : ∀ {α : Type} {p : MemM (Env κ) α} {f : α → MemM (Env κ) Iteration},
      (∀ a x, Keeps (fun e => e = x) (f a)) →
      (runTo (machine (Env κ)) (p >>= f) m).2.rest.others =
        (runTo (machine (Env κ)) p m).2.rest.others := fun hf =>
    congrArg (fun e : Env Unit => e.others) (runTo_bind_fields hf m)
  unfold StoresAddress dispatch
  split
  case h_1 hop =>
    rw [hop]
    rw [hafter fun a x => Keeps.ite (Keeps.pure _) (Keeps.pure _)]
    exact OP_ResultRow_others_iff hun
  -- `OP_Halt` always stores its address.
  case h_2 hop =>
    rw [hop]
    rw [hafter fun a x => keeps_leaveWith _]
    refine iff_of_false (fun hothers => ?_) (not_not.mpr trivial)
    have hhalt := (impl_OP_Halt_balances B nMem pc op m.mems m.rest).others
    exact (others_started_iff m.rest (m.rest.atHalt pc op) rfl rfl (Int.natCast_nonneg pc)
      rfl rfl).mp (hhalt.symm.trans hothers) hun
  case h_3 hop =>
    rw [hop]
    rw [hafter fun a x => Keeps.ite (keeps_leaveWith _) (Keeps.pure _)]
    exact bodyOf_others_iff hun
  case h_4 hop =>
    rw [hop]
    rw [hafter fun a x => Keeps.pure _]
    exact OP_Insert_InsertInt_others_iff hun
  case h_5 hop =>
    rw [hop]
    rw [hafter fun a x => Keeps.pure _]
    exact OP_Insert_InsertInt_others_iff hun
  case h_6 hop =>
    rw [hop]
    rw [hafter fun a x => Keeps.pure _]
    exact OP_Function_others_iff hun
  -- `OP_Variable` never does.
  case h_7 hop =>
    rw [hop]
    rw [hafter fun a x => Keeps.pure _]
    exact iff_of_true (others_of_keeps ((opcodesKeep_tallied B nMem _ False).OP_Variable pc rc op))
      not_false
  case h_8 h1 h2 h3 h4 h5 h6 h7 =>
    rw [hafter fun a x => Keeps.pure _]
    split
    case h_1 hop => exact absurd hop h1
    case h_2 hop => exact absurd hop h2
    case h_3 hop => exact absurd hop h4
    case h_4 hop => exact absurd hop h5
    case h_5 hop => exact absurd hop h7
    case h_6 => exact bodyOf_others_iff hun

end unstarted

/-! ## Queries -/

section queries

variable (program : Program) (q : Query κ)

/-- The next turn of the loop stores an address in the `p.pc` of a running statement that has none. -/
def Query.Starts : Prop :=
  q.machine.rest.p.Unstarted ∧ ∃ pc cs op m, q.control = .inside pc SQLITE_OK cs ∧
    program.hlops[pc]? = some (.op op) ∧
    run (SQPyte.machine (Env κ)) (prelude B (.op op))
      { q.machine with cache := q.machine.cache.reveal cs } = .ok ((), m) ∧
    StoresAddress B q.machine.nMem pc SQLITE_OK op m

/-- A statement that has been started is to be reset, and `sqlite3VdbeHalt` refuses to halt it. -/
def Query.HaltRefused : Prop :=
  (∃ last, q.control = .outside last) ∧
    (∃ cache, q.machine.cache.invalidate_all_outside = .ok cache) ∧
    sqlite3_stmt_busy
      (sqlite3VdbeHalt B q.machine.nMem q.machine.mems q.machine.rest).2.2.p = true

/-- The call keeps the counters in balance. -/
def Call.Counts : Call → Prop
  | .turn => ¬ q.Starts B program
  | .method .reset_query => ¬ q.HaltRefused B
  | _ => True

variable {B program q}

/-- Exactly a stored address breaks the balance, in a statement that is unstarted. -/
theorem dispatch_balance_iff {nMem pc rc : ℕ} {op : Op} {m : Machine (Env κ)} :
    (runTo (machine (Env κ)) (dispatch B nMem pc rc op) m).2.rest.others = m.rest.others ↔
      ¬ (m.rest.p.Unstarted ∧ StoresAddress B nMem pc rc op m) := by
  by_cases hun : m.rest.p.Unstarted
  · rw [dispatch_others_iff hun, not_and]
    exact ⟨fun h _ => h, fun h => h hun⟩
  · refine iff_of_true ?_ fun h => hun h.1
    exact ((keeps_dispatch_tallied B nMem pc rc op m.rest.others).runTo (m := m)
      ⟨rfl, fun _ => hun⟩).1

/-- A turn keeps the share of the others exactly if it does not start the statement. -/
theorem turn_others_iff {pc rc : ℕ} {cs : CacheState} (hinside : q.control = .inside pc rc cs) :
    (q.turn B program pc rc cs).machine.rest.others = q.machine.rest.others ↔
      ¬ q.Starts B program := by
  -- Where the turn stops before its opcode does anything, both sides hold.
  have hnot : ∀ {P : Prop}, P → (∀ op m, rc = SQLITE_OK → program.hlops[pc]? = some (.op op) →
      run (machine (Env κ)) (prelude B (.op op))
        { q.machine with cache := q.machine.cache.reveal cs } = .ok ((), m) → False) →
      (P ↔ ¬ q.Starts B program) := by
    intro P hP h
    refine iff_of_true hP ?_
    rintro ⟨-, pc', cs', op, m, hcontrol, hop, hrun, -⟩
    obtain ⟨rfl, rfl, rfl⟩ := Control.inside.inj (hinside.symm.trans hcontrol)
    exact h op m rfl hop hrun
  unfold Query.turn
  dsimp only
  by_cases hrc : rc = SQLITE_OK
  · subst hrc
    rw [if_neg (by simp)]
    cases hpc : program.hlops[pc]? with
    | none => exact hnot rfl fun op m _ hop _ => by rw [hpc] at hop; cases hop
    | some instr =>
      dsimp only
      -- The share of the other statements is what the opcode's dispatch leaves of it.
      have hfields := congrArg (fun e : Env Unit => e.others)
        (iteration_fields (B := B) q.machine.nMem pc SQLITE_OK instr
          { q.machine with cache := q.machine.cache.reveal cs })
      have hkeep := fun x => (keeps_prelude (B := B) (J := fun e => e = x) instr).runTo
        (m := { q.machine with cache := q.machine.cache.reveal cs })
      rw [proceed_rest]
      refine Iff.trans (Eq.congr_left hfields) ?_
      cases hprelude : runTo (machine (Env κ)) (prelude B instr)
          { q.machine with cache := q.machine.cache.reveal cs } with
      | mk r m' =>
        -- The prelude leaves the statement's record as it is.
        have hsame : m'.rest.fields = q.machine.rest.fields := by
          have h := hkeep _ rfl
          rwa [hprelude] at h
        have hothers : m'.rest.others = q.machine.rest.others :=
          congrArg (fun e : Env Unit => e.others) hsame
        cases r with
        | error e =>
          -- The prelude failed, so the opcode did not run.
          refine hnot hothers fun op m _ hop hrun => ?_
          rw [hpc] at hop
          obtain rfl := Option.some.inj hop
          cases (Prod.mk.inj (hprelude.symm.trans (runTo_of_run hrun))).1
        | ok u =>
          cases instr with
          | unimplemented p2 out2_prerelease =>
            exact hnot hothers fun op m _ hop _ => by rw [hpc] at hop; cases hop
          | op op =>
            -- The opcode runs: it counts the statement exactly when it stores the first address.
            have hun : m'.rest.p = q.machine.rest.p := congrArg (fun e : Env Unit => e.p) hsame
            have hiff : (runTo (machine (Env κ)) (dispatch B q.machine.nMem pc SQLITE_OK op)
                m').2.rest.others = m'.rest.others ↔
                  ¬ (m'.rest.p.Unstarted ∧ StoresAddress B q.machine.nMem pc SQLITE_OK op m') :=
              dispatch_balance_iff
            rw [hothers, hun] at hiff
            refine Iff.trans hiff (not_congr ?_)
            constructor
            · rintro ⟨hun, hstores⟩
              exact ⟨hun, pc, cs, op, m', hinside, hpc, runTo_eq_ok_iff.mp hprelude, hstores⟩
            · rintro ⟨hun, pc', cs', op', m, hcontrol, hop, hrun, hstores⟩
              obtain ⟨rfl, -, rfl⟩ := Control.inside.inj (hinside.symm.trans hcontrol)
              obtain rfl := Instr.op.inj (Option.some.inj (hpc.symm.trans hop))
              obtain rfl := (Prod.mk.inj (hprelude.symm.trans (runTo_of_run hrun))).2
              exact ⟨hun, hstores⟩
  · rw [if_pos hrc, leave_rest]
    exact hnot rfl fun op m h _ _ => hrc h

/-- A statement without a share is not busy. -/
theorem share_eq_zero_iff {p : Vdbe} : p.share = 0 ↔ sqlite3_stmt_busy p = false := by
  refine ⟨fun h => ?_, share_of_not_busy⟩
  by_contra hbusy
  have hactive : p.share.1 = 0 := by rw [h]; rfl
  unfold Vdbe.share at hactive
  rw [if_pos (by simpa using hbusy)] at hactive
  cases hactive

/-- A reset keeps the balance unless the statement is still started when it is rewound. -/
theorem reset_others_iff {last : Ending} (hcontrol : q.control = .outside last) :
    (q.reset_query B).2.machine.rest.others = q.machine.rest.others ↔ ¬ q.HaltRefused B := by
  unfold Query.reset_query
  cases hcache : q.machine.cache.invalidate_all_outside with
  | error e =>
    refine iff_of_true rfl ?_
    rintro ⟨-, ⟨cache, hok⟩, -⟩
    rw [hcache] at hok
    cases hok
  | ok cache =>
    have hhalt := (sqlite3VdbeHalt_balances B q.machine.nMem q.machine.mems q.machine.rest).others
    have hrefused : q.HaltRefused B ↔ sqlite3_stmt_busy
        (sqlite3VdbeHalt B q.machine.nMem q.machine.mems q.machine.rest).2.2.p = true :=
      ⟨fun h => h.2.2, fun h => ⟨⟨last, hcontrol⟩, ⟨cache, hcache⟩, h⟩⟩
    rw [hrefused, Bool.not_eq_true, ← share_eq_zero_iff, ← hhalt]
    have hrewound : ∀ p : Vdbe, (sqlite3VdbeRewind p).share = 0 := fun p =>
      Vdbe.Unstarted.share ⟨rfl, neg_one_lt_zero⟩
    show (sqlite3VdbeHalt B q.machine.nMem q.machine.mems q.machine.rest).2.2.db.counters -
      (sqlite3VdbeRewind _).share = _ - _ ↔ _
    rw [hrewound, sub_right_inj]
    exact eq_comm

/-- A call keeps the balance exactly if it stores no address, and no halt is refused. -/
theorem step_others_iff {q' : Query κ} {call : Call} (hs : q.step B program call.event = some q') :
    q'.machine.rest.others = q.machine.rest.others ↔ call.Counts B program q := by
  cases hcontrol : q.control with
  | outside last =>
    cases call with
    | mainloop =>
      simp only [Call.event, Query.step, hcontrol, Option.some.injEq] at hs
      subst hs
      refine iff_of_true ?_ trivial
      unfold Query.enter
      cases q.machine.cache.reenter <;> rfl
    | turn =>
      simp only [Call.event, Query.step, hcontrol] at hs
      cases hs
    | method method =>
      simp only [Call.event, Query.step, hcontrol, Option.some.injEq] at hs
      subst hs
      by_cases hm : method = .reset_query
      · subst hm
        exact reset_others_iff hcontrol
      · refine iff_of_true ?_ ?_
        · exact congrArg (fun e : Env Unit => e.others) (invoke_kept B q hm).settled
        · cases method with
          | reset_query => exact absurd rfl hm
          | _ => trivial
  | inside pc rc cs =>
    cases call with
    | mainloop =>
      simp only [Call.event, Query.step, hcontrol] at hs
      cases hs
    | turn =>
      simp only [Call.event, Query.step, hcontrol, Option.some.injEq] at hs
      subst hs
      exact turn_others_iff hcontrol
    | method method =>
      simp only [Call.event, Query.step, hcontrol] at hs
      cases hs

end queries

/-! ## Sessions -/

section sessions

variable {ι : Type}

/-- The statements that are prepared on a connection, with what they share. -/
structure Session (ι κ : Type) where
  /-- The opcodes of a statement. -/
  program : ι → Program
  /-- A statement. -/
  query : ι → Query κ
  /-- The connection. -/
  db : Connection
  /-- The global variable `lastRowid`. -/
  lastRowid : ℤ
  /-- Everything else. -/
  world : κ

/-- A call in a session. The functions of C may depend on anything, so every call has its own. -/
structure SessionCall (ι κ : Type) where
  /-- The statement that goes on. -/
  statement : ι
  /-- What happens to it. -/
  call : Call
  /-- What the functions of C do. -/
  backend : Backend κ
  /-- Whether another statement has made this one expire. -/
  expired : Bool

/-- The fields of a statement. -/
def Session.vdbe (s : Session ι κ) (i : ι) : Vdbe := (s.query i).machine.rest.p

/-- The statement, with what the session has of its fields. -/
def Session.load (s : Session ι κ) (c : SessionCall ι κ) : Query κ :=
  (s.query c.statement).disturb s.world s.db s.lastRowid c.expired

/-- The session after a statement went on. -/
def Session.store [DecidableEq ι] (s : Session ι κ) (i : ι) (q : Query κ) : Session ι κ where
  program := s.program
  query := Function.update s.query i q
  db := q.machine.rest.db
  lastRowid := q.machine.rest.lastRowid
  world := q.machine.rest.world

/-- What a call does. -/
def Session.step [DecidableEq ι] (s : Session ι κ) (c : SessionCall ι κ) :
    Option (Session ι κ) :=
  ((s.load c).step c.backend (s.program c.statement) c.call.event).map (s.store c.statement)

/-- `checkActiveVdbeCnt`: the counters are the numbers of the statements that have been started and
are not halted, of the writers among them, and of the readers. -/
structure Counted [Fintype ι] (s : Session ι κ) : Prop where
  /-- The statements that are busy. -/
  active : s.db.nVdbeActive =
    (Finset.univ.filter fun i => sqlite3_stmt_busy (s.vdbe i) = true).card
  /-- Those of them that write. -/
  write : s.db.nVdbeWrite = (Finset.univ.filter fun i =>
    sqlite3_stmt_busy (s.vdbe i) = true ∧ (s.vdbe i).readOnly = false).card
  /-- Those of them that read. -/
  read : s.db.nVdbeRead = (Finset.univ.filter fun i =>
    sqlite3_stmt_busy (s.vdbe i) = true ∧ (s.vdbe i).bIsReader = true).card

/-- A running statement that writes comes to an `OP_Halt` that is no error, and no other one that
has been started writes. -/
def HaltsAlone (s : Session ι κ) (c : SessionCall ι κ) : Prop :=
  c.call = .turn ∧
  (∃ pc cs op, (s.query c.statement).control = .inside pc SQLITE_OK cs ∧
    (s.program c.statement).hlops[pc]? = some (.op op) ∧ op.opcode = .Halt ∧ op.p1 = SQLITE_OK) ∧
  (s.vdbe c.statement).magic = .RUN ∧ (s.vdbe c.statement).readOnly = false ∧
  ∀ j, j ≠ c.statement → ¬ (sqlite3_stmt_busy (s.vdbe j) = true ∧ (s.vdbe j).readOnly = false)

/-- Then `db->nVdbeWrite==(p->readOnly==0)`, in autocommit mode or not. -/
def CommitsAlone (s : Session ι κ) (c : SessionCall ι κ) (_ : Session ι κ) : Prop :=
  HaltsAlone s c → s.db.nVdbeWrite = if (s.vdbe c.statement).readOnly then 0 else 1

/-- The call keeps the counters of the session in balance. -/
def SessionCall.Counts (s : Session ι κ) (c : SessionCall ι κ) : Prop :=
  c.call.Counts c.backend (s.program c.statement) (s.load c)

/-- A call that does not keep the balance can happen. -/
theorem step_of_not_counts [DecidableEq ι] {s : Session ι κ} {c : SessionCall ι κ}
    (h : ¬ c.Counts s) : ∃ s', s.step c = some s' := by
  obtain ⟨i, call, B, expired⟩ := c
  suffices hq : ∃ q, (s.load ⟨i, call, B, expired⟩).step B (s.program i) call.event = some q by
    obtain ⟨q, hq⟩ := hq
    refine ⟨s.store i q, ?_⟩
    unfold Session.step
    rw [hq, Option.map_some]
  cases call with
  | mainloop => exact absurd trivial h
  | turn =>
    obtain ⟨-, pc, cs, op, m, hcontrol, -⟩ := not_not.mp h
    refine ⟨(s.load ⟨i, .turn, B, expired⟩).turn B (s.program i) pc SQLITE_OK cs, ?_⟩
    simp only [Call.event, Query.step, hcontrol]
  | method method =>
    cases method with
    | reset_query =>
      obtain ⟨⟨last, hcontrol⟩, -⟩ := not_not.mp h
      refine ⟨((s.load ⟨i, .method .reset_query, B, expired⟩).invoke B .reset_query).2, ?_⟩
      simp only [Call.event, Query.step, hcontrol]
    | _ => exact absurd trivial h

variable [Fintype ι]

/-- The counters count the statements exactly if they are the sum of the shares. -/
theorem counted_iff_balanced {s : Session ι κ} :
    Counted s ↔ Tally.Balanced Vdbe.share s.vdbe s.db.counters := by
  have hshare : Vdbe.share = fun p => (if sqlite3_stmt_busy p = true then (1 : ℤ) else 0,
      if sqlite3_stmt_busy p = true ∧ p.readOnly = false then (1 : ℤ) else 0,
      if sqlite3_stmt_busy p = true ∧ p.bIsReader = true then (1 : ℤ) else 0) := rfl
  rw [hshare]
  unfold Connection.counters
  rw [Tally.balanced_prod_iff, Tally.balanced_prod_iff, Tally.balanced_count_iff,
    Tally.balanced_count_iff, Tally.balanced_count_iff]
  exact ⟨fun h => ⟨h.active, h.write, h.read⟩, fun h => ⟨h.1, h.2.1, h.2.2⟩⟩

/-- On a new connection the counters are right. -/
theorem counted_of_prepared {s : Session ι κ} (hzero : s.db.counters = 0)
    (hs : ∀ i, (s.query i).Prepared) : Counted s := by
  rw [counted_iff_balanced]
  unfold Tally.Balanced
  rw [hzero, Finset.sum_eq_zero fun i _ => ?_]
  refine Vdbe.Unstarted.share ⟨(hs i).magic, ?_⟩
  have hpc : (s.vdbe i).pc = -1 := (hs i).pc
  rw [hpc]
  exact neg_one_lt_zero

/-- Nothing comes before an `OP_Halt`. -/
theorem prelude_halt {B : Backend κ} {op : Op} (hop : op.opcode = .Halt) :
    prelude B (.op op) = pure () := by
  simp [prelude, prerelease, invalidateUnlessSafe, Instr.prerelease, Instr.is_cache_safe, hop,
    Opcode.out2_prerelease, Opcode.is_cache_safe]

/-- A writer that the counters have when it comes to its `OP_Halt` is the only one that they have. -/
theorem commitsAlone_of_counts {s s' : Session ι κ} {c : SessionCall ι κ} (h : Counted s)
    (hC : c.Counts s) : CommitsAlone s c s' := by
  rintro ⟨hturn, ⟨pc, cs, op, hcontrol, hpc, hop, -⟩, hrun, hwrite, hothers⟩
  have hstarted : sqlite3_stmt_busy (s.vdbe c.statement) = true := by
    by_contra hbusy
    unfold SessionCall.Counts at hC
    rw [hturn] at hC
    refine hC ⟨⟨hrun, ?_⟩, pc, cs, op, { (s.load c).machine with
      cache := (s.load c).machine.cache.reveal cs }, hcontrol, hpc, ?_, ?_⟩
    · by_contra hneg
      have hpos : 0 ≤ (s.vdbe c.statement).pc := not_lt.mp hneg
      refine hbusy ?_
      unfold sqlite3_stmt_busy
      rw [decide_eq_true hpos, hrun]
      rfl
    · rw [prelude_halt hop]
      rfl
    · unfold StoresAddress
      rw [hop]
      trivial
  rw [if_neg (by rw [hwrite]; decide), h.write]
  have hcard : (Finset.univ.filter fun i =>
      sqlite3_stmt_busy (s.vdbe i) = true ∧ (s.vdbe i).readOnly = false).card = 1 :=
    Tally.card_eq_one (P := fun p => sqlite3_stmt_busy p = true ∧ p.readOnly = false)
      ⟨hstarted, hwrite⟩ hothers
  exact_mod_cast hcard

variable [DecidableEq ι]

/-- From a state in which the counters are right, a call leads to one exactly if it keeps them in
balance. -/
theorem counted_step_iff {s s' : Session ι κ} {c : SessionCall ι κ} (h : Counted s)
    (hs : s.step c = some s') : Counted s' ↔ c.Counts s := by
  obtain ⟨q, hq, rfl⟩ := Option.map_eq_some_iff.mp hs
  have hvdbe : (s.store c.statement q).vdbe =
      Function.update s.vdbe c.statement q.machine.rest.p :=
    funext fun i =>
      Function.apply_update (fun _ (q : Query κ) => q.machine.rest.p) s.query c.statement q i
  have hloaded : (s.load c).machine.rest.others = s.db.counters - (s.vdbe c.statement).share :=
    congrArg (s.db.counters - ·) (share_congr rfl rfl rfl rfl)
  rw [counted_iff_balanced, hvdbe, Tally.balanced_update_iff (counted_iff_balanced.mp h),
    ← hloaded]
  exact step_others_iff hq

/-- The counters of a session are right in every state of a run, and every writer that halts alone
finds the condition for a commit, exactly if no turn of a loop stores an address in the `p.pc` of a
running statement that has none, and no statement that has been started is reset while its halt is
refused. -/
theorem counted_iff_each {s : Session ι κ} (hs : Counted s) {calls : List (SessionCall ι κ)} :
    (Runs.Always Session.step Counted calls s ∧
        Runs.Throughout Session.step CommitsAlone calls s) ↔
      Runs.Each Session.step (fun s c => c.Counts s) calls s := by
  refine Runs.always_and_throughout_iff_each (I := Counted) (fun _ h => h)
    (fun s c s' h hC hstep => ⟨(counted_step_iff h hstep).mpr hC, commitsAlone_of_counts h hC⟩)
    (fun s c h hC => ?_) hs
  obtain ⟨s', hstep⟩ := step_of_not_counts hC
  exact ⟨s', hstep, fun hbad => hC ((counted_step_iff h hstep).mp hbad.1)⟩

end sessions

/-! ## A statement that deletes all rows -/

/-- The program of `DELETE FROM t`. -/
def deleteProgram : Program where
  hlops := [.op (.simple .Init 0 3 0), .op (.simple .Clear 2 0 0), .op (.simple .Halt 0 0 0),
    .op (.simple .Transaction 0 1 1), .op (.simple .Goto 0 1 0)]
  resultRow_pos op hop h := by
    simp only [List.mem_cons, Instr.op.injEq, List.not_mem_nil, or_false] at hop
    rcases hop with rfl | rfl | rfl | rfl | rfl <;> cases h

/-- On this connection nothing fails, and the jumps go where they should. -/
def Backend.jumping : Backend Unit := { Backend.quiet with
  body := fun op pc _ => pure (.next
    (if op.opcode = .Init ∨ op.opcode = .Goto then op.p2.toNat else pc + 1) .ok) }

/-- A new connection with this statement alone. -/
def deleteSession : Session Unit Unit where
  program _ := deleteProgram
  query _ := .prepared { Vdbe.prepared 0 0 with readOnly := false } [.ofNull, .ofNull] 1
  db := ⟨0, 0, 0, 0⟩
  lastRowid := 0
  world := ()

/-- A call of the statement. -/
def deleteCall (call : Call) : SessionCall Unit Unit := ⟨(), call, .jumping, false⟩

/-- A new connection is counted. -/
theorem counted_deleteSession : Counted deleteSession :=
  counted_of_prepared rfl fun i => by
    cases i
    constructor <;> first | rfl | decide

/-- Up to its second opcode the counters are right. -/
theorem counted_iff_each_delete :
    Runs.Always Session.step Counted [deleteCall .mainloop, deleteCall .turn] deleteSession ∧
      Runs.Throughout Session.step CommitsAlone [deleteCall .mainloop, deleteCall .turn]
        deleteSession := by
  refine (counted_iff_each counted_deleteSession).mpr (.cons trivial rfl (.cons ?_ rfl (.nil _)))
  rintro ⟨-, pc, cs, op, m, hcontrol, hop, -, hstores⟩
  obtain ⟨rfl, -, -⟩ := Control.inside.inj hcontrol
  obtain rfl := Instr.op.inj (Option.some.inj hop)
  obtain ⟨m', hrun⟩ := hstores
  cases hrun

/-- When the statement has ended, the counters have fallen below zero. At its `OP_Halt` they have no
writer, and so nothing is committed. -/
theorem not_counted_delete :
    ¬ Runs.Always Session.step Counted
        ([.mainloop, .turn, .turn, .turn, .turn, .turn].map deleteCall) deleteSession ∧
      ¬ Runs.Throughout Session.step CommitsAlone
        (([.mainloop, .turn, .turn, .turn, .turn].map deleteCall) ++ [deleteCall .turn])
        deleteSession := by
  constructor
  · intro h
    have hactive := (h.after rfl).active
    have hneg : (-1 : ℤ) = _ := hactive
    omega
  · intro h
    have hcommits : (0 : ℤ) = 1 := h.last rfl rfl
      ⟨rfl, ⟨2, _, .simple .Halt 0 0 0, rfl, rfl, rfl, rfl⟩, rfl, rfl, fun j hj => absurd rfl hj⟩
    cases hcommits

end SQPyte
