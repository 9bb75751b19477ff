import SQPyte.Mem.Conversions
import SQPyte.Vdbe.NullComparison

/-!
# Casts

`OP_Cast` makes a value one of the type that `P2` names: it is to leave that type and no other, the
value that `impl_OP_Cast` of `sqpyte.c` leaves, and nothing to do for a second cast (`Casts`). Two
casts end in a failed assertion, the one to a blob and the one of a text or blob to a number, and the
cast of a real from `2^63` on to an integer gives another integer than in C (`casts_iff`).
-/

namespace SQPyte

open Commands

variable {ρ : Type} (L : CLib ρ) (V : CVdbe ρ) (enc : ℕ) (op : Op)

/-- `OP_Cast`. -/
def OP_Cast : MemM ρ ℕ := do
  let aff := op.p2
  pyAssert ((SQLITE_AFF_NONE : ℤ) ≤ aff && aff ≤ SQLITE_AFF_REAL)
  let pIn1 ← op.mem_of_p1
  let rc ← ExpandBlob L pIn1
  sqlite3VdbeMemCast L V.mallocFailed pIn1 aff.toNat enc
  return rc

/-- `impl_OP_Cast`. -/
def impl_OP_Cast (mems : List Mem) (r : ρ) : Except Exc (ℕ × List Mem × ρ) :=
  onMem mems op.p1 fun pIn1 => do
    let (rc, pIn1, r) ← pIn1.sqlite3VdbeMemExpandBlob L r
    let (pIn1, r) ← pIn1.sqlite3VdbeMemCast L op.p2.toNat enc r
    return (rc, pIn1, r)

/-- A cast as it is compiled, of the value `c`. -/
structure CastOperand (m : Machine ρ) (c : Mem) : Prop where
  /-- The cache knows nothing false. -/
  sound : m.Sound
  /-- `P1` is a register. -/
  p1 : IsRegister m.mems.length m.nMem op.p1
  /-- It holds the value. -/
  cell : m.mems[op.p1.toNat]? = some c
  /-- The cell is that of a value. -/
  value : c.IsValue enc
  /-- Only a NULL is marked as set by `OP_Null`. -/
  cleared : c.flags.has MEM_Cleared = true → c.flags.has MEM_Null = true
  /-- `P2` is a type that a cast can be to. -/
  p2 : IsAffinity op.p2.toNat

/-- The cast leaves the cell `c'` in place of `c`, and the state `r'` outside the cells. -/
structure Casts (m : Machine ρ) (c c' : Mem) (r' : ρ) : Prop where
  /-- No assertion fails. -/
  returns : execute (OP_Cast L V enc op) m = .ok (SQLITE_OK, m.mems.set op.p1.toNat c', r')
  /-- A NULL stays NULL. -/
  null : c.flags.has MEM_Null = true → c' = c
  /-- Everything else has exactly the type of the cast. -/
  type : c.flags.has MEM_Null = false → c'.type ∈ castTypes op.p2.toNat
  /-- A text or blob becomes the number of its text. -/
  numeric : op.p2.toNat = SQLITE_AFF_NUMERIC → c.flags.has MEM_Null = false →
    c.flags.has (MEM_Int ||| MEM_Real) = false → ∀ d r,
      c.sqlite3VdbeMemExpandBlob L m.rest = .ok (SQLITE_OK, d, r) →
        c'.number = some (d.castNumeric L)
  /-- The C version leaves the same. -/
  reference : impl_OP_Cast L enc op m.mems m.rest = .ok (SQLITE_OK, m.mems.set op.p1.toNat c', r')
  /-- A second cast changes nothing. -/
  twice : execute (OP_Cast L V enc op >>= fun _ => OP_Cast L V enc op) m =
    execute (OP_Cast L V enc op) m

/-- The casts that come out as they should. -/
def CastsWell (aff : ℕ) (c : Mem) : Prop :=
  c.flags.has MEM_Null = true ∨ aff = SQLITE_AFF_TEXT ∨
    (aff = SQLITE_AFF_NUMERIC ∧ c.flags.has (MEM_Int ||| MEM_Real) = true) ∨
    (aff = SQLITE_AFF_INTEGER ∧ (c.flags.has MEM_Real = true → c.u_r.value < 2^63)) ∨
    aff = SQLITE_AFF_REAL

variable {L V enc op} {m : Machine ρ} {s : Strict ρ} {c d : Mem} {w : Member}

/-! ## The opcode -/

variable (V enc) in
/-- The opcode expands the cell, and then does what the cast does. -/
theorem run_OP_Cast (hp1 : IsRegister s.mems.length s.nMem op.p1) (hp2 : IsAffinity op.p2.toNat)
    (hat : s.At op.p1.toNat c w) {r' : ρ} {rc : ℕ}
    (hd : c.sqlite3VdbeMemExpandBlob L s.rest = .ok (rc, d, r')) :
    ∃ w', (Announces c w → Announces d w') ∧
      run (strictMachine ρ) (OP_Cast L V enc op) s =
        (run (strictMachine ρ) (sqlite3VdbeMemCast L V.mallocFailed op.p1.toNat op.p2.toNat enc)
          { s.setMem op.p1.toNat d w' with rest := r' }).map fun x => (rc, x.2) := by
  have hrange : (((SQLITE_AFF_NONE : ℤ) ≤ op.p2 && op.p2 ≤ SQLITE_AFF_REAL : Bool)) = true := by
    unfold IsAffinity SQLITE_AFF_NONE SQLITE_AFF_TEXT SQLITE_AFF_NUMERIC SQLITE_AFF_INTEGER
      SQLITE_AFF_REAL at *
    simp only [Bool.and_eq_true, decide_eq_true_eq]
    omega
  obtain ⟨w', hrun, hann⟩ := hat.run_ExpandBlob hd
  refine ⟨w', hann, ?_⟩
  unfold OP_Cast Op.mem_of_p1
  dsimp only
  rw [run_bind_ok (Strict.run_pyAssert s hrange), run_bind_ok (run_mem_of_p hp1), run_bind_ok hrun]
  cases hcast : run (strictMachine ρ)
    (sqlite3VdbeMemCast L V.mallocFailed op.p1.toNat op.p2.toNat enc)
    { s.setMem op.p1.toNat d w' with rest := r' } with
  | error e => exact run_bind_error hcast _
  | ok x => exact run_bind_ok hcast _

/-- The C version on the cell alone. -/
theorem impl_OP_Cast_eq {mems : List Mem} (hcell : mems[op.p1.toNat]? = some c) {r r' : ρ} {rc : ℕ}
    (hd : c.sqlite3VdbeMemExpandBlob L r = .ok (rc, d, r')) {c' : Mem} {r'' : ρ}
    (hcast : d.sqlite3VdbeMemCast L op.p2.toNat enc r' = .ok (c', r'')) :
    impl_OP_Cast L enc op mems r = .ok (rc, mems.set op.p1.toNat c', r'') := by
  unfold impl_OP_Cast
  rw [onMem_eq hcell]
  simp only [bind, Except.bind, hd, hcast]
  rfl

/-- Nothing is expanded in a cell without implied zeros. -/
theorem expandBlob_of_no_zeros (hz : c.flags.has MEM_Zero = false) (r : ρ) :
    c.sqlite3VdbeMemExpandBlob L r = .ok (SQLITE_OK, c, r) := by
  unfold Mem.sqlite3VdbeMemExpandBlob
  rw [hz]
  rfl

/-- The types that a cast leaves imply no zeros. -/
theorem no_zeros_of_type {aff : ℕ} (h : c.type ∈ castTypes aff) : c.flags.has MEM_Zero = false := by
  have hall : ∀ t ∈ castTypes aff, t.getLsbD 14 = false := by
    unfold castTypes
    split_ifs <;> simp
  have hbit : c.flags.getLsbD 14 = c.type.getLsbD 14 := by simp [Mem.type]
  rw [hall _ h] at hbit
  simpa using hbit

/-- A cast that leaves a cell for which there is nothing to do is the same as two casts. -/
theorem castTwice {written : ℕ → Member} (hR : Related m (m.strict written)) {c' : Mem} (r' : ρ)
    {w' w'' : Member} {p1 : ℕ}
    (hfirst : run (strictMachine ρ) (OP_Cast L V enc op) (m.strict written) =
      .ok (SQLITE_OK, { (m.strict written).setMem p1 c' w' with rest := r' }))
    (hsecond : run (strictMachine ρ) (OP_Cast L V enc op)
        { (m.strict written).setMem p1 c' w' with rest := r' } =
      .ok (SQLITE_OK, { (m.strict written).setMem p1 c' w'' with rest := r' })) :
    execute (OP_Cast L V enc op) m = .ok (SQLITE_OK, m.mems.set p1 c', r') ∧
      execute (OP_Cast L V enc op >>= fun _ => OP_Cast L V enc op) m =
        execute (OP_Cast L V enc op) m := by
  have honce : execute (OP_Cast L V enc op) m = .ok (SQLITE_OK, m.mems.set p1 c', r') :=
    execute_of_strict hR hfirst
  have hboth : run (strictMachine ρ) (OP_Cast L V enc op >>= fun _ => OP_Cast L V enc op)
      (m.strict written) = .ok (SQLITE_OK, { (m.strict written).setMem p1 c' w'' with rest := r' }) :=
    (run_bind_ok hfirst _).trans hsecond
  rw [honce]
  exact ⟨rfl, execute_of_strict hR hboth⟩

/-- A NULL is not cast. -/
theorem casts_null (h : CastOperand enc op m c) (hnull : c.flags.has MEM_Null = true) :
    Casts L V enc op m c c m.rest := by
  obtain ⟨written, hR, hann⟩ := h.sound
  have hz : c.flags.has MEM_Zero = false := by
    rw [Bool.eq_false_iff]
    intro hz
    have hblob := (h.value.zero hz).1
    rw [(h.value.null hnull).2.2.2] at hblob
    cases hblob
  have hd := expandBlob_of_no_zeros (L := L) hz m.rest
  have hpy : ∀ s : Strict ρ, ∀ w, s.At op.p1.toNat c w → s.mems.length = m.mems.length →
      s.nMem = m.nMem → ∃ w', run (strictMachine ρ) (OP_Cast L V enc op) s =
        .ok (SQLITE_OK, s.setMem op.p1.toNat c w') := by
    intro s w hat hlen hn
    obtain ⟨w', -, hrun⟩ := run_OP_Cast V enc (by rw [hlen, hn]; exact h.p1) h.p2 hat
      (expandBlob_of_no_zeros (L := L) hz s.rest)
    have hat' := hat.setMem c w'
    refine ⟨w', hrun.trans ?_⟩
    unfold sqlite3VdbeMemCast
    have hsame : ({ s.setMem op.p1.toNat c w' with rest := s.rest } : Strict ρ) =
      s.setMem op.p1.toNat c w' := rfl
    rw [hsame, run_bind_ok hat'.run_get_flags, hnull, if_pos rfl, run_pure]
    rfl
  have hat : (m.strict written).At op.p1.toNat c (written op.p1.toNat) := ⟨h.cell, rfl⟩
  obtain ⟨w', hfirst⟩ := hpy _ _ hat rfl rfl
  obtain ⟨w'', hsecond⟩ := hpy _ _ (hat.setMem c w') (List.length_set ..) rfl
  rw [Strict.setMem_setMem] at hsecond
  obtain ⟨honce, htwice⟩ := castTwice hR m.rest hfirst hsecond
  refine ⟨honce, fun _ => rfl, fun h => ?_, fun _ h => ?_, ?_, htwice⟩
  · rw [hnull] at h
    cases h
  · rw [hnull] at h
    cases h
  · refine impl_OP_Cast_eq h.cell hd ?_
    unfold Mem.sqlite3VdbeMemCast
    exact if_pos hnull

/-- The operand of a cast has a plain type. -/
theorem CastOperand.plainType (h : CastOperand enc op m c) (hnull : c.flags.has MEM_Null = false) :
    c.flags.PlainType := by
  obtain ⟨h5, h6, -, h7⟩ := h.value.plain
  have h8 := h.cleared
  rw [hnull] at h8
  rw [Flags.plainType_iff]
  simp at h5 h6 h7 h8
  exact ⟨h5, h6, h7, h8⟩

/-- The other casts that come out as they should. -/
theorem casts_of_castsWell (hL : L.Lawful V.mallocFailed) (hP : L.KeepsPlain)
    (h : CastOperand enc op m c) (hnull : c.flags.has MEM_Null = false)
    (hwell : CastsWell op.p2.toNat c) : ∃ c' r', Casts L V enc op m c c' r' := by
  obtain ⟨written, hR, hann⟩ := h.sound
  obtain ⟨d, r₁, hd, hcast, hint, hreal, hu⟩ :=
    Mem.expandBlob_castable hL h.value hnull (h.plainType hnull) m.rest
  have hat : (m.strict written).At op.p1.toNat c (written op.p1.toNat) := ⟨h.cell, rfl⟩
  obtain ⟨w₁, hann₁, hrun₁⟩ := run_OP_Cast V enc h.p1 h.p2 hat hd
  have hat₁ : Strict.At { (m.strict written).setMem op.p1.toNat d w₁ with rest := r₁ } op.p1.toNat d
      w₁ := hat.setMem d w₁
  have haff : op.p2.toNat = SQLITE_AFF_TEXT ∨
      (op.p2.toNat = SQLITE_AFF_NUMERIC ∧ d.flags.has (MEM_Int ||| MEM_Real) = true) ∨
      (op.p2.toNat = SQLITE_AFF_INTEGER ∧ (d.flags.has MEM_Real = true → d.u_r.value < 2^63)) ∨
      op.p2.toNat = SQLITE_AFF_REAL := by
    have hur : d.u_r = c.u_r := hu
    unfold CastsWell at hwell
    rw [hnull] at hwell
    rw [Flags.has_or_right, hint, hreal, hur, ← Flags.has_or_right]
    simpa using hwell
  obtain ⟨c', r', w', hc', hrun, hann'⟩ :=
    hat₁.run_sqlite3VdbeMemCast hL hP (hann₁ (hann _ _ h.cell)) hcast enc haff
  obtain ⟨c'', r'', hc'', htype⟩ := Mem.sqlite3VdbeMemCast_types hL hP hcast op.p2.toNat enc r₁
  obtain ⟨rfl, rfl⟩ := Prod.mk.inj (Except.ok.inj (hc''.symm.trans hc'))
  have hfirst : run (strictMachine ρ) (OP_Cast L V enc op) (m.strict written) =
      .ok (SQLITE_OK, { (m.strict written).setMem op.p1.toNat c'' w' with rest := r'' }) := by
    rw [hrun₁, hrun]
    simp [Except.map, Strict.setMem]
  -- Of the type that is left, nothing is cast again.
  set t : Strict ρ := { (m.strict written).setMem op.p1.toNat c'' w' with rest := r'' } with ht
  have hat₂ : t.At op.p1.toNat c'' w' := hat.setMem c'' w'
  obtain ⟨w₂, hann₂, hrun₂⟩ := run_OP_Cast V enc
    (by rw [show t.mems.length = m.mems.length from List.length_set ..]; exact h.p1) h.p2 hat₂
    (expandBlob_of_no_zeros (L := L) (no_zeros_of_type htype) t.rest)
  obtain ⟨w₃, hrun₃⟩ := (hat₂.setMem c'' w₂).run_sqlite3VdbeMemCast_again L V.mallocFailed
    (hann₂ hann') htype (by tauto) enc
  have hsecond : run (strictMachine ρ) (OP_Cast L V enc op) t =
      .ok (SQLITE_OK, { (m.strict written).setMem op.p1.toNat c'' w₃ with rest := r'' }) := by
    refine hrun₂.trans ?_
    have hsame : ({ t.setMem op.p1.toNat c'' w₂ with rest := t.rest } : Strict ρ) =
      t.setMem op.p1.toNat c'' w₂ := rfl
    rw [hsame, hrun₃]
    simp [Except.map, Strict.setMem, ht]
  obtain ⟨honce, htwice⟩ := castTwice hR r'' hfirst hsecond
  refine ⟨c'', r'', honce, fun hn => ?_, fun _ => htype, fun hnumeric _ hnum => ?_,
    impl_OP_Cast_eq h.cell hd hc'', htwice⟩
  · rw [hnull] at hn
    cases hn
  · -- A cast to a number is well only for numbers.
    unfold CastsWell at hwell
    rw [hnull, hnumeric, hnum] at hwell
    simp [SQLITE_AFF_TEXT, SQLITE_AFF_NUMERIC, SQLITE_AFF_INTEGER, SQLITE_AFF_REAL] at hwell

/-- What comes out as it should is one of these casts. -/
theorem castsWell_of_casts (hL : L.Lawful V.mallocFailed) (h : CastOperand enc op m c)
    (hnull : c.flags.has MEM_Null = false) {c' : Mem} {r' : ρ} (hcasts : Casts L V enc op m c c' r') :
    CastsWell op.p2.toNat c := by
  obtain ⟨written, hR, hann⟩ := h.sound
  obtain ⟨d, r₁, hd, hcast, hint, hreal, hu⟩ :=
    Mem.expandBlob_castable hL h.value hnull (h.plainType hnull) m.rest
  have hat : (m.strict written).At op.p1.toNat c (written op.p1.toNat) := ⟨h.cell, rfl⟩
  obtain ⟨w₁, hann₁, hrun₁⟩ := run_OP_Cast V enc h.p1 h.p2 hat hd
  have hat₁ : Strict.At { (m.strict written).setMem op.p1.toNat d w₁ with rest := r₁ } op.p1.toNat d
      w₁ := hat.setMem d w₁
  have hreturns := hcasts.returns
  -- A failed assertion is not a return.
  have hfail : run (strictMachine ρ) (sqlite3VdbeMemCast L V.mallocFailed op.p1.toNat op.p2.toNat enc)
      { (m.strict written).setMem op.p1.toNat d w₁ with rest := r₁ } ≠ .error (some .assertion) := by
    intro herror
    rw [herror] at hrun₁
    rw [execute_of_strict_error hR hrun₁] at hreturns
    cases hreturns
  have hdnull := hcast.notNull
  rcases h.p2 with hnone | htext | hnumeric | hinteger | hreal'
  · refine absurd ?_ hfail
    unfold sqlite3VdbeMemCast
    rw [run_bind_ok hat₁.run_get_flags, hdnull, if_neg (by decide), if_pos hnone]
    exact Strict.run_pyAssert_false _ rfl
  · exact Or.inr (Or.inl htext)
  · cases hnum : d.flags.has (MEM_Int ||| MEM_Real) with
    | true =>
      rw [Flags.has_or_right, hint, hreal, ← Flags.has_or_right] at hnum
      exact Or.inr (Or.inr (Or.inl ⟨hnumeric, hnum⟩))
    | false =>
      refine absurd ?_ hfail
      unfold sqlite3VdbeMemCast
      rw [run_bind_ok hat₁.run_get_flags, hdnull, hnumeric, if_neg (by decide), if_neg (by decide),
        if_pos rfl]
      exact run_bind_error (hat₁.run_sqlite3VdbeMemNumerify_text L hcast hnum) _
  · refine Or.inr (Or.inr (Or.inr (Or.inl ⟨hinteger, fun hr => ?_⟩)))
    obtain ⟨w', hpy, -⟩ := hat₁.run_sqlite3VdbeMemIntegerify L (hann₁ (hann _ _ h.cell))
    set p : Mem := { d with
      u := BitVec.ofInt 64 (d.intValue L), flags := withTypeFlag d.flags MEM_Int } with hp
    have hrun : run (strictMachine ρ) (OP_Cast L V enc op) (m.strict written) =
        .ok (SQLITE_OK, { (m.strict written).setMem op.p1.toNat p w' with rest := r₁ }) := by
      rw [hrun₁]
      unfold sqlite3VdbeMemCast
      rw [run_bind_ok hat₁.run_get_flags, hdnull, hinteger, if_neg (by decide), if_neg (by decide),
        if_neg (by decide), if_pos rfl, run_bind_ok hpy, run_pure]
      simp [Except.map, Strict.setMem]
    have hc : d.sqlite3VdbeMemCast L op.p2.toNat enc r₁ = .ok (d.sqlite3VdbeMemIntegerify L, r₁) := by
      unfold Mem.sqlite3VdbeMemCast
      rw [hdnull, hinteger, if_neg (by decide), if_neg (by decide), if_neg (by decide), if_pos rfl]
    -- Both versions leave an integer, and it is the same only below `2^63`.
    have hsame := (execute_of_strict hR hrun).symm.trans (hreturns.trans
      (hcasts.reference.symm.trans (impl_OP_Cast_eq h.cell hd hc)))
    have hcell := (set_eq_set_iff hat.lt).mp (Prod.mk.inj (Prod.mk.inj (Except.ok.inj hsame)).2).1
    have hbelow := (ofInt_intValue_eq_iff L hcast.value).mp (congrArg Mem.u hcell)
    rw [hreal, show d.u_r = c.u_r from hu] at hbelow
    exact hbelow hr
  · exact Or.inr (Or.inr (Or.inr (Or.inr hreal')))

/-- A cast comes out as it should exactly if it is of NULL, to a text or to a real, of a number to a
number, or of anything but a real from `2^63` on to an integer. -/
theorem casts_iff (hL : L.Lawful V.mallocFailed) (hP : L.KeepsPlain) (h : CastOperand enc op m c) :
    (∃ c' r', Casts L V enc op m c c' r') ↔ CastsWell op.p2.toNat c := by
  cases hnull : c.flags.has MEM_Null with
  | true => exact ⟨fun _ => Or.inl hnull, fun _ => ⟨c, m.rest, casts_null h hnull⟩⟩
  | false =>
    constructor
    · rintro ⟨c', r', hcasts⟩
      exact castsWell_of_casts hL h hnull hcasts
    · exact casts_of_castsWell hL hP h hnull

/-! ## Concrete casts -/

/-- `CAST` of register 0. -/
def castOp (aff : ℕ) : Op := ⟨.Cast, 0, aff, 0, .NOTUSED, 0⟩

/-- The text `1`. -/
def textOne : Mem := Mem.ofText [49]

/-- A machine with one register. -/
def castMachine (c : Mem) : Machine Unit := Machine.fresh [c, Mem.ofNull] 1 ()

/-- The text 1 is one. -/
theorem castOperand_textOne {aff : ℕ} (h : IsAffinity aff) :
    CastOperand SQLITE_UTF8 (castOp aff) (castMachine textOne) textOne where
  sound := Machine.Sound.fresh _ _ _
  p1 := show IsRegister 2 1 0 by decide
  cell := rfl
  value := Mem.isValue_ofText _
  cleared := by decide
  p2 := h

/-- The text `1` becomes an integer. -/
theorem casts_textOne_integer : ∃ c' r',
    Casts CLib.decimal CVdbe.never SQLITE_UTF8 (castOp SQLITE_AFF_INTEGER) (castMachine textOne)
      textOne c' r' :=
  (casts_iff CLib.lawful_decimal CLib.keepsPlain_decimal (castOperand_textOne (by decide))).mpr
    (Or.inr (Or.inr (Or.inr (Or.inl ⟨rfl, by decide⟩))))

/-- A cast of the text `1` to a number fails. In C it gives the integer `1`. -/
theorem not_casts_textOne_numeric :
    CastOperand SQLITE_UTF8 (castOp SQLITE_AFF_NUMERIC) (castMachine textOne) textOne ∧
    execute (OP_Cast CLib.decimal CVdbe.never SQLITE_UTF8 (castOp SQLITE_AFF_NUMERIC))
      (castMachine textOne) = .error .assertion ∧
    (impl_OP_Cast CLib.decimal SQLITE_UTF8 (castOp SQLITE_AFF_NUMERIC) (castMachine textOne).mems
      ()).map (fun x => x.2.1.map Mem.number) = .ok [some (.int 1), some .null] ∧
    ¬ ∃ c' r', Casts CLib.decimal CVdbe.never SQLITE_UTF8 (castOp SQLITE_AFF_NUMERIC)
      (castMachine textOne) textOne c' r' := by
  have hfail : execute (OP_Cast CLib.decimal CVdbe.never SQLITE_UTF8 (castOp SQLITE_AFF_NUMERIC))
      (castMachine textOne) = .error .assertion := by decide +kernel
  refine ⟨castOperand_textOne (by decide), hfail, by decide +kernel, ?_⟩
  rintro ⟨c', r', hcasts⟩
  rw [hcasts.returns] at hfail
  cases hfail

end SQPyte
