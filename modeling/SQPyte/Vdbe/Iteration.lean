import SQPyte.Mem.Effects
import SQPyte.Vdbe.Query

/-!
# What an iteration does to the statement

A program on the cells and the world runs in the whole environment as it does without, and leaves
the other fields alone (`runTo_onWorld`). With that, the triples of the opcodes follow their
definitions. `iteration_triple` collects what `mainloop` relies on: an iteration that goes on with
`SQLITE_OK` leaves the statement running, and one that ends with a row leaves the address after the
`OP_ResultRow`, and all columns of the row among the registers.
-/

namespace SQPyte

open Commands

variable {κ α β : Type}

/-! ## Programs on the world -/

/-- The machine without the fields besides the world. -/
def Machine.toWorld (m : Machine (Env κ)) : Machine κ := ⟨m.mems, m.nMem, m.cache, m.rest.world⟩

/-- The machine with the fields of `e` besides the world. -/
def Machine.inEnv (m : Machine κ) (e : Env κ) : Machine (Env κ) :=
  ⟨m.mems, m.nMem, m.cache, { e with world := m.rest }⟩

/-- A command on the world, in the environment. -/
theorem onWorld_mapped (c : MemCmd κ β) (e : Env κ) :
    MemCmd.Mapped (fun w => { e with world := w }) β c c.onWorld := by
  cases c with
  | c_mem i routine => exact .c_mem i fun _ _ => rfl
  | other step => exact .other fun _ => rfl
  | c_mems step => exact .c_mems fun _ _ => rfl
  | _ => constructor

/-- A program on the world runs in the environment as it does without, and leaves the other fields
alone. -/
theorem runTo_onWorld (p : MemM κ α) (m : Machine (Env κ)) :
    runTo (machine (Env κ)) (onWorld p) m =
      ((runTo (machine κ) p m.toWorld).1, (runTo (machine κ) p m.toWorld).2.inEnv m.rest) := by
  have hmap : p.All fun β c => ∀ m' : Machine κ, machine (Env κ) β c.onWorld (m'.inEnv m.rest) =
      (machine κ β c m').map fun x => (x.1, x.2.inEnv m.rest) :=
    Prog.All.of_forall (fun _ c => machine_mapRest (onWorld_mapped c m.rest)) p
  exact runTo_mapCmd hmap m.toWorld

/-- A program on the machine without its environment, run on the machine with it. -/
theorem run_onWorld {p : MemM κ α} {m m' : Machine (Env κ)} {a : α}
    (h : run (machine (Env κ)) (onWorld p) m = .ok (a, m')) :
    ∃ m₁, run (machine κ) p m.toWorld = .ok (a, m₁) ∧ m' = m₁.inEnv m.rest := by
  have hr := runTo_of_run h
  rw [runTo_onWorld] at hr
  obtain ⟨h1, h2⟩ := Prod.mk.inj hr
  exact ⟨_, runTo_eq_ok_iff.mp (Prod.ext h1 rfl), h2.symm⟩

/-- The fields besides the world. -/
def Env.fields (e : Env κ) : Env Unit := ⟨e.p, e.db, e.lastRowid, e.result_set_index, ()⟩

/-- A mapped result that is one comes from a result. -/
theorem map_eq_ok {ε γ δ : Type} {f : γ → δ} {x : Except ε γ} {y : δ} (h : x.map f = .ok y) :
    ∃ a, x = .ok a ∧ f a = y := by
  cases x with
  | error e => cases h
  | ok a => exact ⟨a, rfl, Except.ok.inj h⟩

/-- A program on the world keeps what holds of the other fields. -/
theorem onWorld_keepsRest (J : Env Unit → Prop) (p : MemM κ α) :
    (onWorld p).All (MemCmd.KeepsRest fun e => J e.fields) := by
  refine Prog.All.mapCmd (fun γ c => ?_) p
  cases c with
  | c_mem i routine =>
    intro pMem e a pMem' e' he hr
    obtain ⟨x, -, hx⟩ := map_eq_ok (x := routine pMem e.world) hr
    obtain ⟨-, -, rfl⟩ := hx
    exact he
  | other step =>
    intro e a e' he hr
    obtain ⟨x, -, hx⟩ := map_eq_ok (x := step e.world) hr
    obtain ⟨-, rfl⟩ := hx
    exact he
  | c_mems step =>
    intro mems e a mems' e' he hr
    obtain ⟨x, -, hx⟩ := map_eq_ok (x := step mems e.world) hr
    obtain ⟨-, -, rfl⟩ := hx
    exact he
  | _ => trivial

/-! ## Triples of the commands -/

section triples

variable {P : Machine (Env κ) → Prop} {J : Env Unit → Prop}

/-- Programs on the cells and the cache leave the environment alone. -/
theorem triple_onWorld (p : MemM κ α) :
    Triple (machine (Env κ)) (fun m => J m.rest.fields) (onWorld p) fun _ m => J m.rest.fields := by
  intro m hm a m' hr
  obtain ⟨m₁, -, rfl⟩ := run_onWorld hr
  exact hm

/-- A triple of a program on the world holds in the environment. -/
theorem triple_onWorld_of {P : Machine κ → Prop} {Q : α → Machine κ → Prop} {p : MemM κ α}
    (h : Triple (machine κ) P p Q) :
    Triple (machine (Env κ)) (fun m => P m.toWorld ∧ J m.rest.fields) (onWorld p)
      fun a m => Q a m.toWorld ∧ J m.rest.fields := by
  intro m hm a m' hr
  obtain ⟨m₁, hr₁, rfl⟩ := run_onWorld hr
  exact ⟨h m.toWorld hm.1 a m₁ hr₁, hm.2⟩

/-- Reading the environment. -/
theorem triple_ask (read : Env κ → α) :
    Triple (machine (Env κ)) P (ask read) fun a m => a = read m.rest ∧ P m :=
  Triple.perform fun m hm a m' hr => by
    obtain ⟨rfl, rfl⟩ := Prod.mk.inj (Except.ok.inj hr)
    exact ⟨rfl, hm⟩

/-- Writing to the environment. -/
theorem triple_tell (write : Env κ → Env κ) :
    Triple (machine (Env κ)) (fun m => P { m with rest := write m.rest }) (tell write) fun _ => P :=
  Triple.perform fun m hm a m' hr => by
    obtain ⟨-, rfl⟩ := Prod.mk.inj (Except.ok.inj hr)
    exact hm

/-- A step of the rest of the world leaves the other fields alone. -/
theorem triple_worldStep (step : κ → α × κ) :
    Triple (machine (Env κ)) (fun m => J m.rest.fields) (worldStep step)
      fun _ m => J m.rest.fields :=
  Triple.perform fun m hm a m' hr => by
    obtain ⟨-, rfl⟩ := Prod.mk.inj (Except.ok.inj hr)
    exact hm

/-- After an exception there is no state to say anything about. -/
theorem triple_throwExc {Q : α → Machine (Env κ) → Prop} (e : Exc) :
    Triple (machine (Env κ)) P (throwExc e) Q :=
  Triple.perform fun _ _ _ _ hr => by cases hr

/-- An assertion that is passed holds. -/
theorem triple_pyAssert (cond : Bool) :
    Triple (machine (Env κ)) P (pyAssert cond) fun _ m => cond = true ∧ P m := by
  unfold pyAssert
  refine Triple.ite (fun hc => Triple.ret fun m hm => ⟨hc, hm⟩) fun _ => triple_throwExc _

/-- A register is fetched by a valid index. -/
theorem triple_mem_with_index {ρ : Type} {P : Machine ρ → Prop} (i : ℤ) :
    Triple (machine ρ) P (mem_with_index i) fun k m =>
      Machine.memIndex m.mems.length m.nMem i = .ok k ∧ P m :=
  Triple.perform fun m hm k m' hr => by
    simp only [machine] at hr
    cases hi : Machine.memIndex m.mems.length m.nMem i with
    | error e => rw [hi] at hr; cases hr
    | ok k' =>
      rw [hi] at hr
      obtain ⟨rfl, rfl⟩ := Prod.mk.inj (Except.ok.inj hr)
      exact ⟨hi, hm⟩

/-- A jump to a label returns what the label does. -/
theorem triple_gotoLabel (label : List Mem → Env κ → ℕ × List Mem × Env κ) :
    Triple (machine (Env κ)) P (gotoLabel label) fun rc m' => ∃ m, P m ∧
      rc = (label m.mems m.rest).1 ∧
      m' = { m with mems := (label m.mems m.rest).2.1, rest := (label m.mems m.rest).2.2 } :=
  Triple.perform fun m hm a m' hr => by
    obtain ⟨rfl, rfl⟩ := Prod.mk.inj (Except.ok.inj hr)
    exact ⟨m, hm, rfl, rfl⟩

end triples

/-! ## The opcodes -/

section opcodes

variable (B : Backend κ) {magic : Magic} (nMem pc rc : ℕ) (op : Op)

/-- The statement has this magic number. -/
def HasMagic (magic : Magic) (m : Machine (Env κ)) : Prop := m.rest.p.magic = magic

/-- The statement is running. -/
abbrev Running (m : Machine (Env κ)) : Prop := HasMagic .RUN m

/-- A label for errors returns no `SQLITE_OK`. -/
theorem triple_gotoLabel_error {label : List Mem → Env κ → ℕ × List Mem × Env κ}
    (h : ∀ mems e, (label mems e).1 = SQLITE_ERROR) :
    Triple (machine (Env κ)) (HasMagic magic) (gotoLabel label) fun rc _ => rc = SQLITE_ERROR := by
  refine (triple_gotoLabel label).conseq (fun m hm => hm) fun rc m' => ?_
  rintro ⟨m, -, rfl, -⟩
  exact h _ _

/-- An opcode that is left without an error leaves a statement that runs. -/
theorem leaveOpcode_triple (exit : Exit) :
    Triple (machine (Env κ)) (HasMagic magic) (leaveOpcode B nMem pc exit)
      fun x m => x.2 = SQLITE_OK → HasMagic magic m := by
  have herror : ∀ {label : List Mem → Env κ → ℕ × List Mem × Env κ},
      (∀ mems e, (label mems e).1 = SQLITE_ERROR) →
      Triple (machine (Env κ)) (HasMagic magic) (do return (pc + 1, ← gotoLabel label))
        fun x m => x.2 = SQLITE_OK → HasMagic magic m := by
    intro label h
    refine (triple_gotoLabel_error h).bind fun rc => Triple.ret fun m hrc hok => ?_
    rw [hrc] at hok
    cases hok
  cases exit with
  | next target rc => exact Triple.ret fun m hm _ => hm
  | transaction_busy =>
    refine Triple.bind (triple_tell (P := fun _ => True) _ |>.conseq (fun _ _ => trivial)
      fun _ _ h => h) fun _ => Triple.ret fun m _ hok => ?_
    cases hok
  | vdbe_error_halt rc => exact herror fun _ _ => rfl
  | abort_due_to_error rc => exact herror fun _ _ => rfl
  | no_mem => exact herror fun _ _ => rfl
  | too_big => exact herror fun _ _ => rfl
  | abort_due_to_interrupt => exact herror fun _ _ => rfl

/-- So does the body of an opcode that is not modelled. -/
theorem bodyOf_triple :
    Triple (machine (Env κ)) (HasMagic magic) (bodyOf B nMem pc rc op)
      fun x m => x.2 = SQLITE_OK → HasMagic magic m :=
  Triple.bind (R := fun _ => (HasMagic magic)) (triple_onWorld (J := fun e => e.p.magic = magic) _)
    fun exit => leaveOpcode_triple B nMem pc exit

/-! ### `OP_ResultRow` -/

/-- A column of a result only changes its cell. -/
theorem resultColumn_keepsCells (i : ℤ) : (resultColumn B i).All MemCmd.KeepsCells := by
  have hget : ∀ self, (get_flags self : MemM κ Flags).All MemCmd.KeepsCells :=
    fun self => Prog.All.perform trivial
  have hset : ∀ self f, (set_flags self f : MemM κ Unit).All MemCmd.KeepsCells :=
    fun self f => Prog.All.perform trivial
  have hpeek : ∀ {γ : Type} self (read : Mem → γ), (peek self read : MemM κ γ).All MemCmd.KeepsCells :=
    fun self read => Prog.All.perform trivial
  have hc : ∀ {γ : Type} self (routine : Mem → κ → Except Exc (γ × Mem × κ)),
      (c_mem self routine).All MemCmd.KeepsCells := fun self routine => Prog.All.perform trivial
  have hassert : ∀ cond, (pyAssert cond : MemM κ Unit).All MemCmd.KeepsCells := fun cond =>
    Prog.All.ite (Prog.All.pure ()) (Prog.All.perform trivial)
  have hexpand : ∀ self, (ExpandBlob B.lib self).All MemCmd.KeepsCells := fun self =>
    (hget self).bind fun f => Prog.All.ite (hc self _) (Prog.All.pure _)
  have hput : ∀ self at_ bs, (putBytes self at_ bs : MemM κ Unit).All MemCmd.KeepsCells :=
    fun self at_ bs => (hpeek self _).bind fun z =>
      Prog.All.ite (Prog.All.perform trivial) (Prog.All.perform trivial)
  have hwriteable : ∀ self, (sqlite3VdbeMemMakeWriteable B.lib self).All MemCmd.KeepsCells := by
    intro self
    refine (hget self).bind fun f => (hassert _).bind fun _ => (hexpand self).bind fun _ =>
      (hget self).bind fun f => (hpeek self _).bind fun elsewhere => ?_
    refine Prog.All.ite ?_ (Prog.All.pure _)
    refine (hpeek self _).bind fun n => (hc self _).bind fun rc => ?_
    refine Prog.All.ite (Prog.All.pure _) ?_
    exact (hpeek self _).bind fun n => (hput self _ _).bind fun _ => (hset self _).bind
      fun _ => Prog.All.pure _
  have hterminate : ∀ self, (sqlite3VdbeMemNulTerminate B.lib self).All MemCmd.KeepsCells :=
    fun self => (hget self).bind fun f => Prog.All.ite (Prog.All.pure _) (hc self _)
  unfold resultColumn
  refine (Prog.All.perform trivial : (mem_with_index i : MemM κ ℕ).All MemCmd.KeepsCells).bind
    fun pMem => ?_
  refine ((hget pMem).bind fun f => Prog.All.pure _).bind fun valid => (hassert _).bind fun _ => ?_
  have hrest : ∀ no_mem : Bool, (if no_mem = true then pure true else do
      let _ ← sqlite3VdbeMemNulTerminate B.lib pMem
      pure false : MemM κ Bool).All MemCmd.KeepsCells := fun no_mem =>
    Prog.All.ite (Prog.All.pure _) ((hterminate pMem).bind fun rc => Prog.All.pure _)
  refine (hget pMem).bind fun f => Prog.All.ite ?_ (hrest false)
  exact ((hwriteable pMem).bind fun rc => Prog.All.pure _).bind hrest

/-- Every column of a row is a register. -/
theorem resultColumns_triple (start : ℤ) (n length N : ℕ) :
    Triple (machine κ) (fun m => m.mems.length = length ∧ m.nMem = N) (resultColumns B start n)
      fun no_mem m => (m.mems.length = length ∧ m.nMem = N) ∧ (no_mem = false →
        ∀ i < n, ∃ k, Machine.memIndex length N (start + i) = .ok k) := by
  unfold resultColumns
  refine (Triple.forRange (a := false) (fun j no_mem m => (m.mems.length = length ∧ m.nMem = N) ∧
    (no_mem = false → ∀ i < j, ∃ k, Machine.memIndex length N (start + i) = .ok k))
    fun j no_mem => ?_).conseq (fun m hm => ⟨hm, fun _ i hi => absurd hi (Nat.not_lt_zero i)⟩)
    fun _ _ h => h
  refine Triple.ite (fun hno => Triple.ret fun m hm => ⟨hm.1, by simp⟩) fun hno => ?_
  intro m ⟨hm, hcols⟩ no_mem' m' hr
  have hkeep : m'.mems.length = length ∧ m'.nMem = N :=
    run_preserves (I := fun m => m.mems.length = length ∧ m.nMem = N)
      (fun β c hc m₁ b m₂ h₁ hstep => by
        have heff := machine_effect hstep
        exact ⟨(heff.length hc).trans h₁.1, heff.nMem.trans h₁.2⟩)
      (resultColumn_keepsCells B (start + j)) hm hr
  refine ⟨hkeep, fun _ i hi => ?_⟩
  rcases Nat.lt_succ_iff_lt_or_eq.mp hi with hlt | rfl
  · exact hcols (by simpa using hno) i hlt
  · obtain ⟨k, m₁, hindex, -⟩ := run_bind_eq_ok.mp hr
    obtain ⟨hk, rfl⟩ := triple_mem_with_index (P := (· = m)) (start + i) m rfl k m₁ hindex
    rw [hm.1, hm.2] at hk
    exact ⟨k, hk⟩

/-- The columns of a row are registers when the loop has gone through them. -/
theorem resultColumns_registers (start : ℤ) (n : ℕ) :
    Triple (machine κ) (fun _ => True) (resultColumns B start n) fun no_mem m => no_mem = false →
      ∀ i < n, ∃ k, Machine.memIndex m.mems.length m.nMem (start + i) = .ok k := by
  intro m _ no_mem m' hr
  obtain ⟨hkeep, hcols⟩ := resultColumns_triple B start n m.mems.length m.nMem m ⟨rfl, rfl⟩
    no_mem m' hr
  rw [hkeep.1, hkeep.2]
  exact hcols

variable (magic) in
/-- The statement is at the row that the `OP_ResultRow` at `pc` returned. -/
structure AtRow (m : Machine (Env κ)) : Prop where
  /-- It is in the state that it was in. -/
  magic : HasMagic magic m
  /-- It goes on at the next opcode. -/
  next : m.rest.p.pc = pc + 1
  /-- The row begins at the first operand. -/
  start : m.rest.result_set_index = op.p1
  /-- The second operand is the number of its columns. -/
  count : (m.rest.p.nResColumn : ℤ) = op.p2
  /-- The columns are registers. -/
  columns : ∀ i < m.rest.p.nResColumn, ∃ k,
    Machine.memIndex m.mems.length m.nMem (op.p1 + i) = .ok k

/-- `OP_ResultRow` stops at its row, or else the statement runs on. -/
theorem OP_ResultRow_triple :
    Triple (machine (Env κ)) (HasMagic magic) (OP_ResultRow B nMem pc op) fun rc m =>
      (rc = SQLITE_ROW → AtRow magic pc op m) ∧ (rc = SQLITE_OK → HasMagic magic m) := by
  have herror : ∀ {rc : ℕ} {m : Machine (Env κ)}, rc ≠ SQLITE_ROW → rc ≠ SQLITE_OK →
      (rc = SQLITE_ROW → AtRow magic pc op m) ∧ (rc = SQLITE_OK → HasMagic magic m) :=
    fun h1 h2 => ⟨fun h => absurd h h1, fun h => absurd h h2⟩
  have hnomem : ∀ {P : Machine (Env κ) → Prop}, Triple (machine (Env κ)) P
      (gotoLabel (gotoNoMem B nMem)) fun rc m =>
        (rc = SQLITE_ROW → AtRow magic pc op m) ∧ (rc = SQLITE_OK → HasMagic magic m) := by
    intro P
    refine (triple_gotoLabel _).conseq (fun m hm => hm) fun rc m' => ?_
    rintro ⟨m, -, rfl, -⟩
    have hrc : (gotoNoMem B nMem m.mems m.rest).1 = SQLITE_ERROR := rfl
    rw [hrc]
    exact herror (by decide) (by decide)
  unfold OP_ResultRow
  -- the number of columns
  refine (triple_ask _).bind fun n => ?_
  refine Triple.bind (R := fun _ m => (m.rest.p.nResColumn : ℤ) = op.p2 ∧ HasMagic magic m)
    ((triple_pyAssert _).conseq (fun m hm => hm) ?_) fun _ => ?_
  · rintro _ m ⟨hn, rfl, hm⟩
    exact ⟨by simpa using hn, hm⟩
  -- foreign keys
  refine Triple.bind (R := fun rc m => rc ≠ SQLITE_ROW ∧ (rc = SQLITE_OK →
    (m.rest.p.nResColumn : ℤ) = op.p2 ∧ HasMagic magic m)) ?_ fun rc => ?_
  · unfold sqlite3VdbeCheckFk
    refine (triple_ask _).bind fun violated => Triple.ite (fun _ => ?_) fun _ => ?_
    · refine Triple.bind (R := fun _ _ => True) (fun _ _ _ _ _ => trivial) fun _ => ?_
      exact Triple.ret fun m _ => ⟨by decide, fun h => by cases h⟩
    · exact Triple.ret fun m hm => ⟨by decide, fun _ => hm.2⟩
  refine Triple.ite (fun hrc => Triple.ret fun m hm => herror hm.1 hrc) fun hrc => ?_
  -- the statement transaction
  refine Triple.bind (R := fun _ m => (m.rest.p.nResColumn : ℤ) = op.p2 ∧ HasMagic magic m)
    ((triple_worldStep (J := fun e => (e.p.nResColumn : ℤ) = op.p2 ∧ e.p.magic = magic) _).conseq
      (fun m hm => hm.2 (by simpa using hrc)) fun _ _ h => h) fun rc => ?_
  refine Triple.ite (fun hrc => Triple.ret fun m _ => herror rc.ne_row hrc) fun _ => ?_
  -- the row
  refine Triple.bind (R := fun _ m => (m.rest.p.nResColumn : ℤ) = op.p2 ∧ HasMagic magic m)
    ((triple_tell _).conseq (fun m hm => hm) fun _ _ h => h) fun _ => ?_
  refine Triple.bind (R := fun _ m => m.rest.result_set_index = op.p1 ∧
    (m.rest.p.nResColumn : ℤ) = op.p2 ∧ HasMagic magic m)
    ((triple_tell _).conseq (fun m hm => ⟨rfl, hm⟩) fun _ _ h => h) fun _ => ?_
  refine (triple_mem_with_index _).bind fun result_set => ?_
  refine Triple.bind (R := fun _ m => True ∧ m.rest.result_set_index = op.p1 ∧
    (m.rest.p.nResColumn : ℤ) = op.p2 ∧ HasMagic magic m)
    ((triple_tell _).conseq (fun m hm => ⟨trivial, hm.2⟩) fun _ _ h => h) fun _ => ?_
  refine Triple.bind (triple_onWorld_of (J := fun e => e.result_set_index = op.p1 ∧
    (e.p.nResColumn : ℤ) = op.p2 ∧ e.p.magic = magic)
    (resultColumns_registers B op.p1 op.p2.toNat)) fun no_mem => ?_
  refine Triple.ite (fun _ => hnomem) fun hno => ?_
  refine (triple_ask _).bind fun failed => Triple.ite (fun _ => hnomem) fun _ => ?_
  -- the return
  refine Triple.bind (R := fun _ m => AtRow magic pc op m) ((triple_tell _).conseq ?_ fun _ _ h => h)
    fun _ => ?_
  · rintro m ⟨-, hcols, hstart, hcount, hrun⟩
    refine ⟨hrun, rfl, hstart, hcount, fun i hi => hcols (by simpa using hno) i ?_⟩
    have : (m.rest.p.nResColumn : ℤ) = op.p2 := hcount
    have : i < m.rest.p.nResColumn := hi
    omega
  refine Triple.bind (R := fun _ m => AtRow magic pc op m) ((triple_tell _).conseq ?_ fun _ _ h => h)
    fun _ => ?_
  · rintro m ⟨hrun, hnext, hstart, hcount, hcols⟩
    exact ⟨hrun, hnext, hstart, hcount, hcols⟩
  exact Triple.ret fun m hm => ⟨fun _ => hm, fun h => by cases h⟩

/-! ### The other opcodes -/

/-- A `tell` that leaves the statement running. -/
theorem triple_tell_magic {write : Env κ → Env κ} (h : ∀ e, (write e).p.magic = e.p.magic) :
    Triple (machine (Env κ)) (HasMagic magic) (tell write) fun _ => (HasMagic magic) :=
  (triple_tell write).conseq (fun m hm => (h m.rest).trans hm) fun _ _ h => h

/-- An insert that returns no error leaves a statement that runs. -/
theorem OP_Insert_InsertInt_triple :
    Triple (machine (Env κ)) (HasMagic magic) (OP_Insert_InsertInt B nMem pc rc op)
      fun x m => x.2 = SQLITE_OK → HasMagic magic m := by
  have hrest : ∀ iKey : ℤ, Triple (machine (Env κ)) (HasMagic magic) (do
      if op.p5_has OPFLAG_LASTROWID then
        tell fun e => { e with lastRowid := iKey, db := { e.db with lastRowid := iKey } }
      bodyOf B nMem pc rc op) fun x m => x.2 = SQLITE_OK → HasMagic magic m := by
    intro iKey
    refine Triple.ite (fun _ => ?_) fun _ => bodyOf_triple B nMem pc rc op
    exact Triple.bind (R := fun _ => (HasMagic magic)) (triple_tell_magic fun _ => rfl)
      fun _ => bodyOf_triple B nMem pc rc op
  unfold OP_Insert_InsertInt
  refine Triple.ite (fun _ => ?_) fun _ => hrest op.p3
  refine Triple.bind (R := fun _ => (HasMagic magic)) (Triple.perform fun m hm iKey m' hr => ?_) hrest
  simp only [machine] at hr
  cases hkey : m.mems[op.p3.toNat]? with
  | none => rw [hkey] at hr; cases hr
  | some pKey =>
    rw [hkey] at hr
    obtain ⟨-, rfl⟩ := Prod.mk.inj (Except.ok.inj hr)
    exact hm

/-- So does a call of a function. -/
theorem OP_Function_triple :
    Triple (machine (Env κ)) (HasMagic magic) (OP_Function B nMem pc rc op)
      fun x m => x.2 = SQLITE_OK → HasMagic magic m := by
  unfold OP_Function
  refine Triple.ite (fun _ => bodyOf_triple B nMem pc rc op) fun _ => ?_
  refine Triple.bind (R := fun _ => (HasMagic magic)) (triple_tell_magic fun _ => rfl) fun _ => ?_
  refine Triple.bind (R := fun _ => (HasMagic magic))
    (triple_onWorld (J := fun e => e.p.magic = magic) _) fun exit => ?_
  exact Triple.bind (R := fun _ => (HasMagic magic)) (triple_tell_magic fun _ => rfl)
    fun _ => leaveOpcode_triple B nMem pc exit

/-- So does the copy of a parameter. -/
theorem OP_Variable_triple :
    Triple (machine (Env κ)) (HasMagic magic) (OP_Variable B nMem pc rc op)
      fun x m => x.2 = SQLITE_OK → HasMagic magic m := by
  have hcell : ∀ {γ : Type} {p : MemM (Env κ) γ}
      (_ : p.All (MemCmd.KeepsRest fun e => e.p.magic = magic)),
      Triple (machine (Env κ)) (HasMagic magic) p fun _ => (HasMagic magic) := fun hp =>
    Triple.of_preserves (fun _ _ hc _ _ _ hm hr => (machine_effect hr).rest _ hc hm) hp
  unfold OP_Variable
  refine Triple.bind (R := fun _ => (HasMagic magic)) (hcell (Prog.All.perform trivial)) fun pVar => ?_
  refine Triple.bind (R := fun _ => (HasMagic magic)) (hcell ?_) fun tooBig => ?_
  · unfold sqlite3VdbeMemTooBig
    exact Prog.All.bind (Prog.All.perform trivial) fun f =>
      Prog.All.ite (Prog.All.pure _) (Prog.All.perform trivial)
  refine Triple.ite (fun _ => ?_) fun _ => ?_
  · refine (triple_gotoLabel_error fun _ _ => rfl).bind fun rc => Triple.ret fun m hrc hok => ?_
    rw [hrc] at hok
    cases hok
  · refine Triple.bind (R := fun _ => (HasMagic magic)) (hcell (Prog.All.perform trivial))
      fun pOut => ?_
    refine Triple.bind (R := fun _ => (HasMagic magic))
      (triple_onWorld (J := fun e => e.p.magic = magic) _) fun _ => Triple.ret fun m hm _ => hm

/-! ## The iteration -/

variable (magic) in
/-- What holds at the end of an iteration at `pc` that began with this magic number. -/
def Iteration.Sound (instr : Instr) (m : Machine (Env κ)) : Iteration → Prop
  | .again _ rc => rc = SQLITE_OK → HasMagic magic m
  | .leave .fresh => False
  | .leave (.row pc') => pc' = pc ∧ ∃ op, instr = .op op ∧ op.opcode = .ResultRow ∧ AtRow magic pc op m
  | .leave .busy => Running m
  | .leave (.ended _) => True
  | .leave (.raised _) => False

/-- The loop is left with a sound result. -/
theorem leaveWith_triple (instr : Instr) :
    Triple (machine (Env κ)) (fun _ => True) (leaveWith rc)
      fun result m => result.Sound magic pc instr m := by
  unfold leaveWith
  refine (triple_ask _).bind fun running => Triple.ite (fun h => ?_) fun _ => ?_
  · refine Triple.ret fun m hm => ?_
    obtain ⟨rfl, -⟩ := hm
    rw [Bool.and_eq_true] at h
    exact beq_iff_eq.mp h.2
  · exact Triple.ret fun _ _ => trivial

/-- Every opcode has a sound result. -/
theorem dispatch_triple :
    Triple (machine (Env κ)) (HasMagic magic) (dispatch B nMem pc rc op)
      fun result m => result.Sound magic pc (.op op) m := by
  have hagain : ∀ {p : MemM (Env κ) (ℕ × ℕ)},
      Triple (machine (Env κ)) (HasMagic magic) p (fun x m => x.2 = SQLITE_OK → HasMagic magic m) →
      Triple (machine (Env κ)) (HasMagic magic) (p >>= fun x => pure (.again x.1 x.2))
        fun result m => Iteration.Sound magic pc (.op op) m result := fun hp =>
    hp.bind fun x => Triple.ret fun m hm => hm
  unfold dispatch
  split
  case h_1 hop =>
    refine (OP_ResultRow_triple B nMem pc op).bind fun rc => Triple.ite (fun hrow => ?_) fun _ => ?_
    · exact Triple.ret fun m hm => ⟨rfl, op, rfl, hop, hm.1 hrow⟩
    · exact Triple.ret fun m hm => hm.2
  case h_2 =>
    refine Triple.bind (R := fun _ _ => True) (fun _ _ _ _ _ => trivial) fun rc => ?_
    exact leaveWith_triple pc rc (.op op)
  case h_3 =>
    refine (bodyOf_triple B nMem pc rc op).bind fun x => Triple.ite (fun _ => ?_) fun _ => ?_
    · exact (leaveWith_triple pc x.2 (.op op)).conseq (fun _ _ => trivial) fun _ _ h => h
    · exact Triple.ret fun m hm => hm
  case h_4 => exact hagain (OP_Insert_InsertInt_triple B nMem pc rc op)
  case h_5 => exact hagain (OP_Insert_InsertInt_triple B nMem pc rc op)
  case h_6 => exact hagain (OP_Function_triple B nMem pc rc op)
  case h_7 => exact hagain (OP_Variable_triple B nMem pc rc op)
  case h_8 => exact hagain (bodyOf_triple B nMem pc rc op)

/-- What an iteration ends with, where it raises no exception. -/
theorem iteration_triple (instr : Instr) :
    Triple (machine (Env κ)) (HasMagic magic) (iteration B nMem pc rc instr)
      fun result m => result.Sound magic pc instr m := by
  have hcell : ∀ {γ : Type} {p : MemM (Env κ) γ}
      (_ : p.All (MemCmd.KeepsRest fun e => e.p.magic = magic)),
      Triple (machine (Env κ)) (HasMagic magic) p fun _ => (HasMagic magic) := fun hp =>
    Triple.of_preserves (fun _ _ hc _ _ _ hm hr => (machine_effect hr).rest _ hc hm) hp
  have hinvalidate : Triple (machine (Env κ)) (HasMagic magic) (invalidateUnlessSafe instr)
      fun _ => (HasMagic magic) := hcell (Prog.All.ite (Prog.All.pure _) (Prog.All.perform trivial))
  unfold iteration
  refine Triple.bind (R := fun _ => (HasMagic magic)) ?_ fun _ => ?_
  · unfold prerelease
    cases instr.prerelease with
    | none => exact Triple.ret fun _ hm => hm
    | some p2 =>
      refine Triple.bind (R := fun _ => (HasMagic magic)) (hcell (Prog.All.perform trivial))
        fun pOut => ?_
      exact Triple.bind (R := fun _ => (HasMagic magic))
        (triple_onWorld (J := fun e => e.p.magic = magic) _) fun _ => hcell (Prog.All.perform trivial)
  refine hinvalidate.bind fun _ => ?_
  refine Triple.bind (R := fun result m => Iteration.Sound magic pc instr m result) ?_ fun result => ?_
  · cases instr with
    | op op => exact dispatch_triple B nMem pc rc op
    | unimplemented p2 out2_prerelease => exact triple_throwExc _
  cases result with
  | leave ending => exact Triple.ret fun _ hm => hm
  | again pc' rc' =>
    by_cases hrc : rc' = SQLITE_OK
    · exact (hinvalidate.conseq (fun m hm => hm hrc) fun _ _ h => h).bind fun _ =>
        Triple.ret fun m hm _ => hm
    · exact Triple.bind (R := fun _ _ => True) (fun _ _ _ _ _ => trivial) fun _ =>
        Triple.ret fun m _ hok => absurd hok hrc

/-! ## Exceptions

An exception comes before the statement is halted, if it is halted at all. -/

/-- Every command of the program keeps a property of the fields besides the world. -/
def Keeps (J : Env Unit → Prop) (p : MemM (Env κ) α) : Prop :=
  p.All (MemCmd.KeepsRest fun e => J e.fields)

section keeps

variable {J : Env Unit → Prop}

/-- To return keeps everything. -/
theorem Keeps.pure (a : α) : Keeps J (Pure.pure a : MemM (Env κ) α) := trivial

/-- A command that leaves the environment alone keeps what is known of it. -/
theorem Keeps.perform {c : MemCmd (Env κ) α} (h : MemCmd.KeepsRest (fun e => J e.fields) α c) :
    Keeps J (Prog.perform c) := Prog.All.perform h

/-- Two programs one after the other. -/
theorem Keeps.bind {p : MemM (Env κ) α} {f : α → MemM (Env κ) β} (hp : Keeps J p)
    (hf : ∀ a, Keeps J (f a)) : Keeps J (p >>= f) := Prog.All.bind hp hf

/-- A choice between two programs. -/
theorem Keeps.ite {c : Prop} [Decidable c] {p p' : MemM (Env κ) α} (hp : Keeps J p)
    (hp' : Keeps J p') : Keeps J (if c then p else p') := Prog.All.ite hp hp'

/-- A program on the cells and the cache. -/
theorem Keeps.onWorld (p : MemM κ α) : Keeps J (SQPyte.onWorld p) := onWorld_keepsRest J p

/-- Reading the environment. -/
theorem Keeps.ask (read : Env κ → α) : Keeps J (SQPyte.ask read) :=
  Prog.All.perform fun e a e' he hr => by
    obtain ⟨-, rfl⟩ := Prod.mk.inj (Except.ok.inj hr)
    exact he

/-- Writing what keeps the property. -/
theorem Keeps.tell {write : Env κ → Env κ} (h : ∀ e, J e.fields → J (write e).fields) :
    Keeps J (SQPyte.tell write) :=
  Prog.All.perform fun e a e' he hr => by
    obtain ⟨-, rfl⟩ := Prod.mk.inj (Except.ok.inj hr)
    exact h e he

/-- A step of the rest of the world. -/
theorem Keeps.worldStep (step : κ → α × κ) : Keeps J (SQPyte.worldStep step) :=
  Prog.All.perform fun e a e' he hr => by
    obtain ⟨-, rfl⟩ := Prod.mk.inj (Except.ok.inj hr)
    exact he

/-- An exception changes nothing. -/
theorem Keeps.throwExc (e : Exc) : Keeps J (SQPyte.throwExc e : MemM (Env κ) α) :=
  Prog.All.perform fun _ _ _ _ hr => by cases hr

/-- Nor does an assertion. -/
theorem Keeps.pyAssert (cond : Bool) : Keeps J (SQPyte.pyAssert cond : MemM (Env κ) Unit) :=
  Prog.All.ite (Prog.All.pure ()) (Keeps.throwExc _)

/-- A jump to a label that keeps the property. -/
theorem Keeps.gotoLabel {label : List Mem → Env κ → ℕ × List Mem × Env κ}
    (h : ∀ mems e, J e.fields → J (label mems e).2.2.fields) : Keeps J (SQPyte.gotoLabel label) :=
  Prog.All.perform fun mems e a mems' e' he hr => by
    rw [← show (label mems e).2.2 = e' from congrArg (fun x => x.2.2) (Except.ok.inj hr)]
    exact h mems e he

/-- Where such a program ends, the property still holds. -/
theorem Keeps.runTo {p : MemM (Env κ) α} (hp : Keeps J p) {m : Machine (Env κ)}
    (hm : J m.rest.fields) : J (Commands.runTo (machine (Env κ)) p m).2.rest.fields :=
  runTo_preserves (I := fun m : Machine (Env κ) => J m.rest.fields)
    (fun _ _ hc _ _ _ hs hr => (machine_effect hr).rest _ hc hs) hp hm

end keeps

/-- Every command of the program leaves the statement running. -/
abbrev KeepsRunning (p : MemM (Env κ) α) : Prop := Keeps (fun e => e.p.magic = .RUN) p

/-- A program that fails has kept the statement running. -/
theorem KeepsRunning.fails {p : MemM (Env κ) α} (hp : KeepsRunning p) :
    Fails (machine (Env κ)) Running p Running :=
  Fails.of_preserves (fun _ _ hc _ _ _ hm hr => (machine_effect hr).rest _ hc hm) hp

/-- A program that keeps the property, before another one. -/
theorem Keeps.triple_bind {J : Env Unit → Prop} {p : MemM (Env κ) α} (hp : Keeps J p)
    {f : α → MemM (Env κ) β} {Q : β → Machine (Env κ) → Prop}
    (hf : ∀ a, Triple (machine (Env κ)) (fun m => J m.rest.fields) (f a) Q) :
    Triple (machine (Env κ)) (fun m => J m.rest.fields) (p >>= f) Q :=
  Triple.bind (Triple.of_preserves
    (fun _ _ hc _ _ _ hm hr => (machine_effect hr).rest _ hc hm) hp) hf

/-- A program that keeps the property, before one that keeps it where it fails. -/
theorem Keeps.fails_bind {J : Env Unit → Prop} {p : MemM (Env κ) α} (hp : Keeps J p)
    {f : α → MemM (Env κ) β} (hf : ∀ a, Fails (machine (Env κ)) (fun m => J m.rest.fields) (f a)
      fun m => J m.rest.fields) :
    Fails (machine (Env κ)) (fun m => J m.rest.fields) (p >>= f) fun m => J m.rest.fields :=
  have hstep : ∀ γ (c : MemCmd (Env κ) γ), MemCmd.KeepsRest (fun e => J e.fields) γ c →
      ∀ (m : Machine (Env κ)) b m', J m.rest.fields → machine (Env κ) γ c m = .ok (b, m') →
        J m'.rest.fields := fun _ _ hc _ _ _ hm hr => (machine_effect hr).rest _ hc hm
  (Fails.of_preserves hstep hp).bind (Triple.of_preserves hstep hp) hf

/-- The same where the statement is running. -/
theorem KeepsRunning.fails_bind {p : MemM (Env κ) α} (hp : KeepsRunning p)
    {f : α → MemM (Env κ) β} (hf : ∀ a, Fails (machine (Env κ)) Running (f a) Running) :
    Fails (machine (Env κ)) Running (p >>= f) Running :=
  Keeps.fails_bind hp hf

/-- A jump to a label never raises. -/
theorem fails_gotoLabel {P E : Machine (Env κ) → Prop}
    (label : List Mem → Env κ → ℕ × List Mem × Env κ) :
    Fails (machine (Env κ)) P (gotoLabel label) E :=
  Fails.perform fun _ _ _ hr => by cases hr

/-- Nor does leaving an opcode. -/
theorem leaveOpcode_fails {P E : Machine (Env κ) → Prop} (exit : Exit) :
    Fails (machine (Env κ)) P (leaveOpcode B nMem pc exit) E := by
  have hlabel : ∀ label : List Mem → Env κ → ℕ × List Mem × Env κ,
      Fails (machine (Env κ)) P (do return (pc + 1, ← gotoLabel label)) E := fun label =>
    (fails_gotoLabel label).bind (R := fun _ _ => True) (fun _ _ _ _ _ => trivial)
      fun rc => Fails.ret
  cases exit with
  | next target rc => exact Fails.ret
  | transaction_busy =>
    exact Fails.bind (R := fun _ _ => True) (Fails.perform fun _ _ _ hr => by cases hr)
      (fun _ _ _ _ _ => trivial) fun _ => Fails.ret
  | vdbe_error_halt rc => exact hlabel _
  | abort_due_to_error rc => exact hlabel _
  | no_mem => exact hlabel _
  | too_big => exact hlabel _
  | abort_due_to_interrupt => exact hlabel _

/-- When the body of another opcode raises, the statement is running. -/
theorem bodyOf_fails : Fails (machine (Env κ)) Running (bodyOf B nMem pc rc op) Running :=
  KeepsRunning.fails_bind (Keeps.onWorld _) fun exit => leaveOpcode_fails B nMem pc exit

/-- The same for `OP_ResultRow`. -/
theorem OP_ResultRow_fails :
    Fails (machine (Env κ)) Running (OP_ResultRow B nMem pc op) Running := by
  unfold OP_ResultRow
  refine KeepsRunning.fails_bind (Keeps.ask _) fun n => ?_
  refine KeepsRunning.fails_bind (Keeps.pyAssert _) fun _ => ?_
  refine KeepsRunning.fails_bind ?_ fun rc => Fails.ite (fun _ => Fails.ret) fun _ => ?_
  · unfold sqlite3VdbeCheckFk
    refine Keeps.bind (Keeps.ask _) fun violated => Keeps.ite ?_ (Keeps.pure _)
    exact Keeps.bind (Keeps.tell (by exact fun _ h => h)) fun _ => Keeps.pure _
  refine KeepsRunning.fails_bind (Keeps.worldStep _) fun rc =>
    Fails.ite (fun _ => Fails.ret) fun _ => ?_
  refine KeepsRunning.fails_bind (Keeps.tell (by exact fun _ h => h)) fun _ => ?_
  refine KeepsRunning.fails_bind (Keeps.tell (by exact fun _ h => h)) fun _ => ?_
  refine KeepsRunning.fails_bind (Prog.All.perform (by trivial)) fun result_set => ?_
  refine KeepsRunning.fails_bind (Keeps.tell (by exact fun _ h => h)) fun _ => ?_
  refine KeepsRunning.fails_bind (Keeps.onWorld _) fun no_mem =>
    Fails.ite (fun _ => fails_gotoLabel _) fun _ => ?_
  refine KeepsRunning.fails_bind (Keeps.ask _) fun failed =>
    Fails.ite (fun _ => fails_gotoLabel _) fun _ => ?_
  refine KeepsRunning.fails_bind (Keeps.tell (by exact fun _ h => h)) fun _ => ?_
  exact KeepsRunning.fails_bind (Keeps.tell (by exact fun _ h => h)) fun _ => Fails.ret

/-- The same for every opcode. -/
theorem dispatch_fails : Fails (machine (Env κ)) Running (dispatch B nMem pc rc op) Running := by
  -- Where the second part fails only in a running statement, the first part alone matters.
  have hnever : ∀ {γ δ : Type} {P : Machine (Env κ) → Prop} {p : MemM (Env κ) γ}
      {f : γ → MemM (Env κ) δ}, Fails (machine (Env κ)) P p Running →
      (∀ a, Fails (machine (Env κ)) (fun _ => True) (f a) Running) →
      Fails (machine (Env κ)) P (p >>= f) Running := fun hp hf =>
    hp.bind (R := fun _ _ => True) (fun _ _ _ _ _ => trivial) hf
  have hleave : ∀ rc, Fails (machine (Env κ)) (fun _ => True) (leaveWith rc : MemM (Env κ) _)
      Running := fun rc =>
    hnever (Fails.perform fun _ _ _ hr => by cases hr) fun _ => Fails.ite (fun _ => Fails.ret)
      fun _ => Fails.ret
  have hagain : ∀ {p : MemM (Env κ) (ℕ × ℕ)}, Fails (machine (Env κ)) Running p Running →
      Fails (machine (Env κ)) Running (p >>= fun x => pure (Iteration.again x.1 x.2)) Running :=
    fun hp => hnever hp fun _ => Fails.ret
  -- Both inserts set the last rowid, which `Running` does not look at, and then run the C body.
  have hinsert : Fails (machine (Env κ)) Running (OP_Insert_InsertInt B nMem pc rc op) Running := by
    have hrest : ∀ iKey : ℤ, Fails (machine (Env κ)) Running (do
        if op.p5_has OPFLAG_LASTROWID then
          tell fun e => { e with lastRowid := iKey, db := { e.db with lastRowid := iKey } }
        bodyOf B nMem pc rc op) Running := fun iKey =>
      Fails.ite (fun _ => KeepsRunning.fails_bind (Keeps.tell (by exact fun _ h => h))
        fun _ => bodyOf_fails B nMem pc rc op) fun _ => bodyOf_fails B nMem pc rc op
    unfold OP_Insert_InsertInt
    refine Fails.ite (fun _ => KeepsRunning.fails_bind (Prog.All.perform ?_) hrest)
      fun _ => hrest op.p3
    intro mems e a mems' e' he hr
    dsimp only at hr
    cases hkey : mems[op.p3.toNat]? with
    | none => rw [hkey] at hr; cases hr
    | some pKey =>
      rw [hkey] at hr
      obtain ⟨-, -, rfl⟩ := Except.ok.inj hr
      exact he
  -- A function that raises does so before the opcode's exit is looked at.
  have hfunction : Fails (machine (Env κ)) Running (OP_Function B nMem pc rc op) Running := by
    unfold OP_Function
    refine Fails.ite (fun _ => bodyOf_fails B nMem pc rc op) fun _ => ?_
    refine KeepsRunning.fails_bind (Keeps.tell (by exact fun _ h => h)) fun _ => ?_
    refine KeepsRunning.fails_bind (Keeps.onWorld _) fun exit => ?_
    exact KeepsRunning.fails_bind (Keeps.tell (by exact fun _ h => h))
      fun _ => leaveOpcode_fails B nMem pc exit
  -- The variable's value is copied within the world of cells.
  have hvariable : Fails (machine (Env κ)) Running (OP_Variable B nMem pc rc op) Running := by
    unfold OP_Variable
    refine KeepsRunning.fails_bind (Prog.All.perform (by trivial)) fun pVar => ?_
    refine KeepsRunning.fails_bind (Prog.All.bind (Prog.All.perform (by trivial)) fun f =>
      Prog.All.ite (Prog.All.pure _) (Prog.All.perform (by trivial))) fun tooBig => ?_
    refine Fails.ite (fun _ => hnever (fails_gotoLabel _) fun _ => Fails.ret) fun _ => ?_
    refine KeepsRunning.fails_bind (Prog.All.perform (by trivial)) fun pOut => ?_
    exact KeepsRunning.fails_bind (Keeps.onWorld _) fun _ => Fails.ret
  unfold dispatch
  split
  case h_1 =>
    exact hnever (OP_ResultRow_fails B nMem pc op) fun rc =>
      Fails.ite (fun _ => Fails.ret) fun _ => Fails.ret
  case h_2 => exact hnever (fails_gotoLabel _) hleave
  case h_3 =>
    exact hnever (bodyOf_fails B nMem pc rc op) fun x =>
      Fails.ite (fun _ => hleave x.2) fun _ => Fails.ret
  case h_4 => exact hagain hinsert
  case h_5 => exact hagain hinsert
  case h_6 => exact hagain hfunction
  case h_7 => exact hagain hvariable
  case h_8 => exact hagain (bodyOf_fails B nMem pc rc op)

/-- An exception in an iteration leaves the statement running. -/
theorem iteration_fails (instr : Instr) :
    Fails (machine (Env κ)) Running (iteration B nMem pc rc instr) Running := by
  have hinvalidate : KeepsRunning (invalidateUnlessSafe instr : MemM (Env κ) Unit) :=
    Prog.All.ite (Prog.All.pure _) (Prog.All.perform (by trivial))
  unfold iteration
  refine KeepsRunning.fails_bind ?_ fun _ => KeepsRunning.fails_bind hinvalidate fun _ => ?_
  · unfold prerelease
    cases instr.prerelease with
    | none => exact Keeps.pure _
    | some p2 =>
      exact Keeps.bind (Keeps.perform (by trivial)) fun pOut =>
        Keeps.bind (Keeps.onWorld _) fun _ => Keeps.perform trivial
  refine Fails.bind (R := fun _ _ => True) ?_ (fun _ _ _ _ _ => trivial) fun result => ?_
  · cases instr with
    | op op => exact dispatch_fails B nMem pc rc op
    | unimplemented p2 out2_prerelease => exact KeepsRunning.fails (Keeps.throwExc _)
  cases result with
  | leave ending => exact Fails.ret
  | again pc' rc' =>
    refine Fails.bind (R := fun _ _ => True) ?_ (fun _ _ _ _ _ => trivial) fun _ => Fails.ret
    exact Fails.ite (fun _ => Fails.ret) fun _ => Fails.perform fun _ _ _ hr => by cases hr

/-! ## What all opcodes keep -/

/-- A property of the fields besides the world that no opcode can break, unless it stores an address
in `p.pc` or a row id. -/
structure OpcodesKeep (J : Env Unit → Prop) : Prop where
  /-- Nothing else of the statement matters, and neither does the first register of a row. -/
  fields : ∀ (e : Env Unit) (p : Vdbe) (i : ℤ), p.magic = e.p.magic → p.pc = e.p.pc →
    p.readOnly = e.p.readOnly → p.bIsReader = e.p.bIsReader → J e →
    J { e with p := p, result_set_index := i }
  /-- The row id may be copied to the connection. -/
  toDb : ∀ e : Env Unit, J e → J { e with db := { e.db with lastRowid := e.lastRowid } }
  /-- The row id may be copied from the connection. -/
  fromDb : ∀ e : Env Unit, J e → J { e with lastRowid := e.db.lastRowid }
  /-- The statement may be halted. -/
  halt : ∀ mems (e : Env κ), J e.fields → J (sqlite3VdbeHalt B nMem mems e).2.2.fields

/-- The property does not depend on the address in `p.pc`, once there is one. -/
def KeepsAddress (J : Env Unit → Prop) : Prop :=
  ∀ (e : Env Unit) (n : ℕ), J e → J { e with p := { e.p with pc := n } }

section keep

variable {B} {nMem} {J : Env Unit → Prop}

/-- The label of errors keeps what the opcodes keep. -/
theorem OpcodesKeep.gotoVdbeErrorHalt (h : OpcodesKeep B nMem J) (mems : List Mem) (e : Env κ)
    (he : J e.fields) : J (SQPyte.gotoVdbeErrorHalt B nMem rc mems e).2.2.fields :=
  h.toDb _ (h.halt mems { e with p := { e.p with rc := rc } }
    (h.fields e.fields { e.p with rc := rc } _ rfl rfl rfl rfl he))

/-- The label of memory errors keeps it. -/
theorem OpcodesKeep.gotoNoMem (h : OpcodesKeep B nMem J) :
    Keeps J (gotoLabel (SQPyte.gotoNoMem B nMem)) :=
  Keeps.gotoLabel fun mems e he => h.gotoVdbeErrorHalt SQLITE_NOMEM mems
    { e with world := B.setMallocFailed e.world } he

/-- After a busy database nothing is kept that depends on the address. -/
theorem OpcodesKeep.leaveOpcode (h : OpcodesKeep B nMem J) {exit : Exit}
    (hpc : exit = .transaction_busy → KeepsAddress J) :
    Keeps J (SQPyte.leaveOpcode B nMem pc exit) := by
  have hlabel : ∀ {label : List Mem → Env κ → ℕ × List Mem × Env κ},
      Keeps J (gotoLabel label) → Keeps J (do return (pc + 1, ← gotoLabel label)) := fun hl =>
    hl.bind fun _ => Keeps.pure _
  have herror : ∀ rc, Keeps J (gotoLabel (SQPyte.gotoVdbeErrorHalt B nMem rc)) := fun rc =>
    Keeps.gotoLabel fun mems e he => h.gotoVdbeErrorHalt rc mems e he
  cases exit with
  | next target rc => exact Keeps.pure _
  | transaction_busy =>
    refine Keeps.bind (Keeps.tell fun e he => ?_) fun _ => Keeps.pure _
    have hrc : J { e.fields with p := { e.p with rc := SQLITE_BUSY } } :=
      h.fields e.fields { e.p with rc := SQLITE_BUSY } _ rfl rfl rfl rfl he
    exact h.toDb _ (hpc rfl _ pc hrc)
  | vdbe_error_halt rc => exact hlabel (herror rc)
  | abort_due_to_error rc =>
    exact hlabel (Keeps.gotoLabel fun mems e he => h.gotoVdbeErrorHalt _ mems e he)
  | no_mem => exact hlabel h.gotoNoMem
  | too_big => exact hlabel (herror _)
  | abort_due_to_interrupt => exact hlabel (herror _)

/-- The body of an opcode keeps it. -/
theorem OpcodesKeep.bodyOf (h : OpcodesKeep B nMem J) (hpc : KeepsAddress J) :
    Keeps J (SQPyte.bodyOf B nMem pc rc op) :=
  (Keeps.onWorld _).bind fun _ => h.leaveOpcode pc fun _ => hpc

/-- The check of foreign keys keeps it. -/
theorem OpcodesKeep.sqlite3VdbeCheckFk (h : OpcodesKeep B nMem J) :
    Keeps J (SQPyte.sqlite3VdbeCheckFk B) := by
  unfold SQPyte.sqlite3VdbeCheckFk
  refine Keeps.bind (Keeps.ask _) fun violated => Keeps.ite ?_ (Keeps.pure _)
  exact Keeps.bind (Keeps.tell fun e he => h.fields e.fields
    { e.p with rc := SQLITE_CONSTRAINT_FOREIGNKEY, errorAction := OE_Abort } _ rfl rfl rfl rfl he)
    fun _ => Keeps.pure _

/-- `OP_ResultRow` keeps it. -/
theorem OpcodesKeep.OP_ResultRow (h : OpcodesKeep B nMem J) (hpc : KeepsAddress J) :
    Keeps J (SQPyte.OP_ResultRow B nMem pc op) := by
  unfold SQPyte.OP_ResultRow
  refine Keeps.bind (Keeps.ask _) fun n => Keeps.bind (Keeps.pyAssert _) fun _ => ?_
  refine Keeps.bind h.sqlite3VdbeCheckFk fun rc => Keeps.ite (Keeps.pure _) ?_
  refine Keeps.bind (Keeps.worldStep _) fun rc => Keeps.ite (Keeps.pure _) ?_
  refine Keeps.bind (Keeps.tell fun e he => h.fields e.fields _ _ rfl rfl rfl rfl he) fun _ => ?_
  refine Keeps.bind (Keeps.tell fun e he => h.fields e.fields _ _ rfl rfl rfl rfl he) fun _ => ?_
  refine Keeps.bind (Keeps.perform (by trivial)) fun result_set => ?_
  refine Keeps.bind (Keeps.tell fun e he => h.fields e.fields _ _ rfl rfl rfl rfl he) fun _ => ?_
  refine Keeps.bind (Keeps.onWorld _) fun no_mem => Keeps.ite h.gotoNoMem ?_
  refine Keeps.bind (Keeps.ask _) fun failed => Keeps.ite h.gotoNoMem ?_
  refine Keeps.bind (Keeps.tell fun e he => hpc e.fields (pc + 1) he) fun _ => ?_
  exact Keeps.bind (Keeps.tell fun e he => h.toDb e.fields he) fun _ => Keeps.pure _

/-- `OP_Halt` keeps it. -/
theorem OpcodesKeep.impl_OP_Halt (h : OpcodesKeep B nMem J) (hpc : KeepsAddress J) :
    Keeps J (gotoLabel (SQPyte.impl_OP_Halt B nMem pc op)) :=
  Keeps.gotoLabel fun mems e he => by
    have hset : J { e.fields with p := { e.p with
        rc := op.p1.toNat, errorAction := op.p2, pc := pc } } :=
      hpc _ pc (h.fields e.fields { e.p with rc := op.p1.toNat, errorAction := op.p2 } _
        rfl rfl rfl rfl he)
    have hhalt := h.halt mems { e with p := { e.p with
      rc := op.p1.toNat, errorAction := op.p2, pc := pc } } hset
    unfold SQPyte.impl_OP_Halt
    dsimp only
    generalize sqlite3VdbeHalt B nMem mems _ = r at hhalt ⊢
    obtain ⟨rc, mems', e'⟩ := r
    split_ifs
    · exact h.toDb _ (h.fields e'.fields { e'.p with rc := SQLITE_BUSY } _ rfl rfl rfl rfl hhalt)
    · exact h.toDb _ hhalt
    · exact h.toDb _ hhalt

/-- `OP_Function` keeps it. -/
theorem OpcodesKeep.OP_Function (h : OpcodesKeep B nMem J) (hpc : KeepsAddress J) :
    Keeps J (SQPyte.OP_Function B nMem pc rc op) := by
  unfold SQPyte.OP_Function
  refine Keeps.ite (h.bodyOf pc rc op hpc) ?_
  refine Keeps.bind (Keeps.tell fun e he => h.toDb e.fields he) fun _ => ?_
  refine Keeps.bind (Keeps.onWorld _) fun exit => ?_
  exact Keeps.bind (Keeps.tell fun e he => h.fromDb e.fields he)
    fun _ => h.leaveOpcode pc fun _ => hpc

/-- `OP_Variable` keeps it. -/
theorem OpcodesKeep.OP_Variable (h : OpcodesKeep B nMem J) :
    Keeps J (SQPyte.OP_Variable B nMem pc rc op) := by
  unfold SQPyte.OP_Variable
  refine Keeps.bind (Keeps.perform (by trivial)) fun pVar => ?_
  refine Keeps.bind (Keeps.bind (Keeps.perform (by trivial)) fun f =>
    Keeps.ite (Keeps.pure _) (Keeps.perform (by trivial))) fun tooBig => ?_
  refine Keeps.ite ?_ ?_
  · exact Keeps.bind (Keeps.gotoLabel fun mems e he => h.gotoVdbeErrorHalt _ mems e he)
      fun _ => Keeps.pure _
  · exact Keeps.bind (Keeps.perform (by trivial)) fun pOut =>
      Keeps.bind (Keeps.onWorld _) fun _ => Keeps.pure _

/-- Leaving the loop keeps everything. -/
theorem keeps_leaveWith : Keeps (κ := κ) J (leaveWith rc) :=
  Keeps.bind (Keeps.ask _) fun _ => Keeps.ite (Keeps.pure _) (Keeps.pure _)

/-- Every opcode keeps the property, if the inserts do. -/
theorem OpcodesKeep.dispatch (h : OpcodesKeep B nMem J) (hpc : KeepsAddress J)
    (hinsert : op.opcode = .Insert ∨ op.opcode = .InsertInt →
      Keeps J (OP_Insert_InsertInt B nMem pc rc op)) :
    Keeps J (SQPyte.dispatch B nMem pc rc op) := by
  unfold SQPyte.dispatch
  split
  case h_1 =>
    exact Keeps.bind (h.OP_ResultRow pc op hpc) fun rc => Keeps.ite (Keeps.pure _) (Keeps.pure _)
  case h_2 => exact (h.impl_OP_Halt pc op hpc).bind fun rc => keeps_leaveWith rc
  case h_3 =>
    exact (h.bodyOf pc rc op hpc).bind fun y => Keeps.ite (keeps_leaveWith _) (Keeps.pure _)
  case h_4 hop => exact (hinsert (Or.inl hop)).bind fun y => Keeps.pure _
  case h_5 hop => exact (hinsert (Or.inr hop)).bind fun y => Keeps.pure _
  case h_6 => exact (h.OP_Function pc rc op hpc).bind fun y => Keeps.pure _
  case h_7 => exact (h.OP_Variable pc rc op).bind fun y => Keeps.pure _
  case h_8 => exact (h.bodyOf pc rc op hpc).bind fun y => Keeps.pure _

end keep

end opcodes

end SQPyte
