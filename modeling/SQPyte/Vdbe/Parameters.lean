import SQPyte.Vdbe.Binding
import SQPyte.Vdbe.Columns

/-!
# Parameters along a sequence of binds

A bind that is safe stores its value, or leaves all parameters as they were (`BindOutcome`). So the
parameters hold what the ledger says along every sequence of safe binds, and `OP_Variable`, which
copies a parameter to a register, delivers it (`parametersRight_of_each`).
-/

namespace SQPyte

open Commands

/-! ## Copies -/

section copy

variable {ρ : Type} {s : Strict ρ} {k i : ℕ} {c d : Mem} {w wd : Member}

/-- The flags of a copy. -/
def copiedFlags (f srcType : Flags) : Flags :=
  if !f.has MEM_Static then f &&& ~~~(MEM_Dyn ||| MEM_Static ||| MEM_Ephem) ||| srcType else f

/-- The cell `c'` is a copy of `c`. -/
structure Mem.Copied (srcType : Flags) (c c' : Mem) : Prop where
  /-- The flags. -/
  flags : c'.flags = copiedFlags c.flags srcType
  /-- The number. -/
  u : c.flags.has (MEM_Int ||| MEM_Real) = true → c'.u = c.u
  /-- The length of the text. -/
  n : c'.n = c.n
  /-- Its encoding. -/
  enc : c'.enc = c.enc
  /-- Its bytes. -/
  bytes : c'.bytes = c.bytes

/-- The text and the flags are copied. -/
theorem copied_copyText {srcType : Flags}
    (hu : c.flags.has (MEM_Int ||| MEM_Real) = true → d.u = c.u) :
    Mem.Copied srcType c { (copyText c).write d with flags := copiedFlags c.flags srcType } := by
  refine ⟨rfl, hu, rfl, rfl, ?_⟩
  unfold Mem.bytes
  show List.take c.n.toNat (Mem.buffer _) = _
  congr 1
  unfold copyText Mem.buffer
  cases hz : c.z <;> simp

/-- The end of a copy: the text and the flags. -/
theorem Strict.At.run_copyText (hk : s.At k d wd) (hi : s.At i c w) (srcType : Flags) :
    run (strictMachine ρ) (do
      poke k (copyText (← peek i id))
      if !c.flags.has MEM_Static then
        set_flags k (c.flags &&& ~~~(MEM_Dyn ||| MEM_Static ||| MEM_Ephem) ||| srcType)
      else set_flags k c.flags) s =
    .ok ((), s.setMem k { (copyText c).write d with flags := copiedFlags c.flags srcType } wd) := by
  rw [run_bind_ok (hi.run_peek id), run_bind_ok (hk.run_poke _)]
  unfold copiedFlags
  split_ifs
  · rw [(hk.setMem _ _).run_set_flags]
    simp [Strict.setMem]
  · rw [(hk.setMem _ _).run_set_flags]
    simp [Strict.setMem]

/-- What `sqlite3VdbeMemShallowCopy` leaves of a cell that is no row set, aggregate or frame, and has
no implied zeros. -/
theorem Strict.At.run_sqlite3VdbeMemShallowCopy (L : CLib ρ) (hne : k ≠ i) (hk : s.At k d wd)
    (hi : s.At i c w) (hann : Announces c w) (hrow : c.flags.has MEM_RowSet = false)
    (hzero : c.flags.has MEM_Zero = false) (hagg : c.flags.has MEM_Agg = false)
    (hframe : c.flags.has MEM_Frame = false) (srcType : Flags) :
    ∃ c' w' r', run (strictMachine ρ) (sqlite3VdbeMemShallowCopy L k i srcType) s =
      .ok ((), { s.setMem k c' w' with rest := r' }) ∧ c.Copied srcType c' := by
  -- the number, then the text and the flags, from any cell at `k`
  have hbody : ∀ {s₁ : Strict ρ} {d₁ : Mem} {w₁ : Member}, s₁.At k d₁ w₁ → s₁.At i c w →
      ∃ c' w', run (strictMachine ρ) (do
          if c.flags.has MEM_Real then set_u_r k (← get_u_r i)
          if c.flags.has MEM_Int then set_u_i k (← get_u_i i)
          poke k (copyText (← peek i id))
          if !c.flags.has MEM_Static then
            set_flags k (c.flags &&& ~~~(MEM_Dyn ||| MEM_Static ||| MEM_Ephem) ||| srcType)
          else set_flags k c.flags) s₁ = .ok ((), s₁.setMem k c' w') ∧ c.Copied srcType c' := by
    intro s₁ d₁ w₁ hk₁ hi₁
    -- The integer comes second, so it decides the word of a cell that is marked as both.
    have hword : ∀ {s₂ : Strict ρ} {d₂ : Mem} {w₂ : Member}, s₂.At k d₂ w₂ → s₂.At i c w →
        c.flags.has MEM_Int = true →
        ∃ w', run (strictMachine ρ) (do
          set_u_i k (← get_u_i i)
          poke k (copyText (← peek i id))
          if !c.flags.has MEM_Static then
            set_flags k (c.flags &&& ~~~(MEM_Dyn ||| MEM_Static ||| MEM_Ephem) ||| srcType)
          else set_flags k c.flags) s₂ = .ok ((), s₂.setMem k { (copyText c).write { d₂ with u := c.u }
            with flags := copiedFlags c.flags srcType } w') := by
      intro s₂ d₂ w₂ hk₂ hi₂ hint
      refine ⟨.i, ?_⟩
      rw [run_bind_ok (hi₂.run_get_u_i hint (hann.1 hint)), run_bind_ok (hk₂.run_set_u_i _ _),
        (hk₂.setMem _ _).run_copyText (hi₂.setMem_ne hne _ _)]
      unfold Mem.u_i
      rw [BitVec.ofInt_toInt]
      simp [Strict.setMem]
    by_cases hreal : c.flags.has MEM_Real = true
    · have hat := hk₁.setMem { d₁ with u := c.u_r } .r
      have hother := hi₁.setMem_ne hne { d₁ with u := c.u_r } .r
      simp only [hreal, ↓reduceIte]
      rw [run_bind_ok (hi₁.run_get_u_r hreal (hann.2 hreal)), run_bind_ok (hk₁.run_set_u_r _)]
      by_cases hint : c.flags.has MEM_Int = true
      · obtain ⟨w', hrun⟩ := hword hat hother hint
        rw [if_pos hint, hrun, Strict.setMem_setMem]
        exact ⟨_, w', rfl, copied_copyText fun _ => rfl⟩
      · rw [if_neg hint, hat.run_copyText hother, Strict.setMem_setMem]
        exact ⟨_, .r, rfl, copied_copyText fun _ => rfl⟩
    · rw [if_neg hreal]
      by_cases hint : c.flags.has MEM_Int = true
      · obtain ⟨w', hrun⟩ := hword hk₁ hi₁ hint
        rw [if_pos hint, hrun]
        exact ⟨_, w', rfl, copied_copyText fun _ => rfl⟩
      · rw [if_neg hint, hk₁.run_copyText hi₁]
        refine ⟨_, w₁, rfl, copied_copyText fun h => absurd h ?_⟩
        rw [Flags.has_or_right, Bool.or_eq_true, not_or]
        exact ⟨hint, hreal⟩
  unfold sqlite3VdbeMemShallowCopy
  rw [run_bind_ok hi.run_get_flags]
  simp only [hrow, Bool.not_false, pyAssert, ↓reduceIte, pure_bind]
  rw [run_bind_ok hk.run_get_flags]
  -- A cell that holds a resource gives it up first.
  by_cases hd : VdbeMemDynamic d.flags = true
  · have hclear : run (strictMachine ρ) (vdbeMemClearExternAndSetNull L k) s =
        .ok ((), { s.setMem k (d.vdbeMemClearExternAndSetNull L s.rest).1 .foreign with
          rest := (d.vdbeMemClearExternAndSetNull L s.rest).2 }) := hk.run_c_mem rfl
    have hk₁ : Strict.At { s.setMem k (d.vdbeMemClearExternAndSetNull L s.rest).1 .foreign with
      rest := (d.vdbeMemClearExternAndSetNull L s.rest).2 } k
      (d.vdbeMemClearExternAndSetNull L s.rest).1 .foreign := hk.setMem _ _
    have hi₁ : Strict.At { s.setMem k (d.vdbeMemClearExternAndSetNull L s.rest).1 .foreign with
      rest := (d.vdbeMemClearExternAndSetNull L s.rest).2 } i c w := hi.setMem_ne hne _ _
    obtain ⟨c', w', hrun, hcopied⟩ := hbody hk₁ hi₁
    refine ⟨c', w', (d.vdbeMemClearExternAndSetNull L s.rest).2, ?_, hcopied⟩
    rw [if_pos hd, run_bind_ok hclear, run_bind_ok hi₁.run_get_flags]
    simp only [hzero, hagg, hframe, Bool.false_eq_true, ↓reduceIte]
    refine hrun.trans ?_
    simp [Strict.setMem]
  · obtain ⟨c', w', hrun, hcopied⟩ := hbody hk hi
    refine ⟨c', w', s.rest, ?_, hcopied⟩
    rw [if_neg hd, run_bind_ok hi.run_get_flags]
    simp only [hzero, hagg, hframe, Bool.false_eq_true, ↓reduceIte]
    exact hrun

end copy

/-! ## The value of a copy -/

/-- A test for a type is one of the flags without those for the storage. -/
theorem Flags.has_stored (f : Flags) {m : Flags} (hm : m &&& (MEM_Term ||| MEM_Static) = 0) :
    f.has m = f.stored.has m := by
  have h : f &&& m = f.stored &&& m := by
    unfold Flags.stored
    ext k hk
    have := congrArg (fun x => x.getLsbD k) hm
    simp only [BitVec.getLsbD_and, BitVec.getElem_and, BitVec.getElem_not] at this ⊢
    rw [BitVec.getLsbD_eq_getElem hk, BitVec.getLsbD_eq_getElem hk] at this
    cases hx : m[k] <;> simp_all
  unfold Flags.has
  rw [h]

/-- The flags of a copy, without what says where its text is. -/
theorem stored_copiedFlags (f : Flags) : (copiedFlags f MEM_Static).stored =
    if f.has MEM_Static then f.stored else f.stored &&& ~~~(MEM_Dyn ||| MEM_Ephem) := by
  unfold copiedFlags Flags.stored
  cases f.has MEM_Static with
  | true => rfl
  | false =>
    simp only [Bool.not_false, ↓reduceIte, Bool.false_eq_true]
    ext k hk
    simp only [BitVec.getElem_and, BitVec.getElem_or, BitVec.getElem_not]
    cases (MEM_Static : Flags)[k] <;> cases (MEM_Term : Flags)[k] <;> simp

variable {κ : Type} {B : Backend κ} {c c' : Mem} {v : Bound}

/-- The flags of a cell that holds a value. -/
theorem Bound.Held.stored (h : v.Held B c) :
    c.flags.stored = MEM_Null ∨ c.flags.stored = MEM_Int ∨ c.flags.stored = MEM_Real ∨
      c.flags.stored = MEM_Str := by
  cases v with
  | null => exact Or.inl h
  | int val => exact Or.inr (Or.inl h.1)
  | real val =>
    rw [held_real_iff] at h
    split_ifs at h
    · exact Or.inl h
    · exact Or.inr (Or.inr (Or.inl h.1))
  | text s => exact Or.inr (Or.inr (Or.inr h.1))

/-- A cell that holds a value is no row set, aggregate or frame, and has no implied zeros. -/
theorem Bound.Held.plain (h : v.Held B c) :
    c.flags.has MEM_RowSet = false ∧ c.flags.has MEM_Zero = false ∧
      c.flags.has MEM_Agg = false ∧ c.flags.has MEM_Frame = false := by
  rw [Flags.has_stored c.flags (m := MEM_RowSet) (by decide),
    Flags.has_stored c.flags (m := MEM_Zero) (by decide),
    Flags.has_stored c.flags (m := MEM_Agg) (by decide),
    Flags.has_stored c.flags (m := MEM_Frame) (by decide)]
  rcases h.stored with hf | hf | hf | hf
  all_goals
    rw [hf]
    decide

/-- A copy of a cell that holds a value holds it. -/
theorem Bound.Held.copied (h : v.Held B c) (hc : c.Copied MEM_Static c') : v.Held B c' := by
  have hstored : c'.flags.stored = c.flags.stored := by
    rw [hc.flags, stored_copiedFlags]
    have hmem := h.stored
    split_ifs
    · rfl
    · rcases hmem with hf | hf | hf | hf
      all_goals
        rw [hf]
        decide
  have hu : ∀ m, c.flags.stored = m → Flags.has m (MEM_Int ||| MEM_Real) = true → c'.u = c.u := by
    intro m hm hhas
    refine hc.u ?_
    rw [Flags.has_stored _ (by decide), hm, hhas]
  cases v with
  | null => exact hstored.trans h
  | int val => exact ⟨hstored.trans h.1, (hu _ h.1 (by decide)).trans h.2⟩
  | real val =>
    rw [held_real_iff] at h ⊢
    split_ifs at h ⊢
    · exact hstored.trans h
    · exact ⟨hstored.trans h.1, (hu _ h.1 (by decide)).trans h.2⟩
  | text s =>
    obtain ⟨hflags, henc, d, w, hd, hn, hbytes⟩ := h
    exact ⟨hstored.trans hflags, hc.enc.trans henc, d, w, hd, hc.n.trans hn, hc.bytes.trans hbytes⟩

/-! ## `OP_Variable` -/

/-- A value within the limit is not too big. -/
theorem Strict.At.run_sqlite3VdbeMemTooBig {ρ : Type} {s : Strict ρ} {i : ℕ} {w : Member} {limit : ℤ}
    (h : s.At i c w) (hzero : c.flags.has MEM_Zero = false) (hn : c.n ≤ limit) :
    run (strictMachine ρ) (sqlite3VdbeMemTooBig limit i) s = .ok (false, s) := by
  unfold sqlite3VdbeMemTooBig
  rw [run_bind_ok h.run_get_flags]
  split_ifs
  · rfl
  · rw [h.run_peek, hzero, if_neg Bool.false_ne_true, decide_eq_false (not_lt.mpr hn)]

/-- Related machines in an environment. -/
theorem Related.inEnv {m : Machine (Env κ)} {s : Strict κ} (hR : Related m.toWorld s) :
    Related m ⟨s.mems, s.written, s.nMem, m.rest⟩ :=
  ⟨hR.mems, hR.nMem, rfl, hR.good, hR.slots⟩

/-- And without it. -/
theorem Related.toWorld {m : Machine (Env κ)} {s : Strict (Env κ)} (hR : Related m s) :
    Related m.toWorld ⟨s.mems, s.written, s.nMem, s.rest.world⟩ :=
  ⟨hR.mems, hR.nMem, congrArg Env.world hR.rest, hR.good, hR.slots⟩

/-- `OP_Variable` copies the parameter to the register. -/
theorem delivered_of_held {i : ℕ} (h : v.Held B c) : Delivered B c i v := by
  intro m op pc rc k hsound h1 hc hp1 hk hn
  obtain ⟨written, hR, hann⟩ := hsound
  obtain ⟨hrow, hzero, hagg, hframe⟩ := h.plain
  have hlt : m.nMem + i < m.mems.length := (List.getElem?_eq_some_iff.mp hc).1
  have hindex : Machine.varIndex m.mems.length m.nMem (op.p1 - 1) = .ok (m.nMem + i) := by
    unfold Machine.varIndex pyIndex
    rw [if_pos (by omega)]
    simp only [Except.ok.injEq]
    omega
  have hvar : run (machine (Env κ)) (var_with_index (op.p1 - 1)) m = .ok (m.nMem + i, m) := by
    simp only [var_with_index, run_perform, machine, hindex]
    rfl
  have hat : Strict.At (⟨m.mems, written, m.nMem, m.rest⟩ : Strict (Env κ)) (m.nMem + i) c
    (written (m.nMem + i)) := ⟨hc, rfl⟩
  obtain ⟨m₁, hbig, hR₁⟩ := run_machine_of_strict hR.inEnv
    (hat.run_sqlite3VdbeMemTooBig hzero hn)
  have hmems₁ : m₁.mems = m.mems := hR₁.mems
  have hout : run (machine (Env κ)) op.mem_of_p2 m₁ = .ok (k, m₁) := by
    have hk₁ : Machine.memIndex m₁.mems.length m₁.nMem op.p2 = .ok k := by
      rw [hmems₁, hR₁.nMem]
      exact hk
    simp only [Op.mem_of_p2, mem_with_index, run_perform, machine, hk₁]
    rfl
  have hk_le := (memIndex_spec hk).1
  obtain ⟨d, hd⟩ : ∃ d, m.mems[k]? = some d := ⟨_, List.getElem?_eq_getElem (by omega)⟩
  have hatd : Strict.At (⟨m.mems, written, m.nMem, m.rest.world⟩ : Strict κ) k d (written k) :=
    ⟨hd, rfl⟩
  have hatc : Strict.At (⟨m.mems, written, m.nMem, m.rest.world⟩ : Strict κ) (m.nMem + i) c
    (written (m.nMem + i)) := ⟨hc, rfl⟩
  obtain ⟨c', w', r', hcopy, hcopied⟩ := hatd.run_sqlite3VdbeMemShallowCopy B.lib (by omega) hatc
    (hann _ _ hc) hrow hzero hagg hframe MEM_Static
  obtain ⟨m', hrun, -, hmems', -⟩ := runTo_onWorld_of_strict hR₁.toWorld hcopy
  refine ⟨m', c', ?_, ?_, h.copied hcopied⟩
  · unfold OP_Variable
    rw [run_bind_ok hvar, run_bind_ok hbig, if_neg Bool.false_ne_true, run_bind_ok hout,
      run_bind_ok (runTo_eq_ok_iff.mp hrun), run_pure]
  · rw [hmems']
    exact List.getElem?_set_self (by show k < m.mems.length; omega)

/-! ## One bind -/

variable {q : Query κ} {b : Binding}

/-- A bind keeps the registers, the program and the number of parameters. -/
theorem bind_kept (B : Backend κ) (q : Query κ) (b : Binding) : Kept q (q.bind B b).2 := by
  rw [bind_eq_invoke]
  refine invoke_kept B q ?_
  unfold Binding.method
  cases b.value <;> simp

/-- A parameter that was not touched. -/
theorem SameParameter.refl (c : Mem) : SameParameter c c := Or.inl rfl

/-- A bind of one parameter keeps the others. -/
theorem Leaves.keepsParam {i j : ℕ} {c' : Mem} (h : Leaves q (q.bind B b).2 (q.machine.nMem + j) c')
    (hij : i ≠ j) : (q.bind B b).2.param i = q.param i := by
  unfold Query.param
  rw [(bind_kept B q b).nMem, h.mems, List.getElem?_set_ne (by omega)]

/-- The parameter that it binds holds what it leaves there. -/
theorem Leaves.param {i : ℕ} {c c' : Mem} (h : Leaves q (q.bind B b).2 (q.machine.nMem + i) c')
    (hc : q.param i = some c) : (q.bind B b).2.param i = some c' := by
  unfold Query.param at hc ⊢
  rw [(bind_kept B q b).nMem, h.mems,
    List.getElem?_set_self (List.getElem?_eq_some_iff.mp hc).1]

/-- A bind that is refused keeps every parameter. -/
theorem Refuses.param (h : Refuses q (q.bind B b)) (i : ℕ) :
    (q.bind B b).2.param i = q.param i := by
  unfold Query.param
  rw [(bind_kept B q b).nMem, h.mems]

/-- A parameter that is the same is kept. -/
theorem keepsParam_of_eq {q' : Query κ} {i : ℕ} (h : q'.param i = q.param i) :
    q.KeepsParam q' i :=
  fun c hc => ⟨c, h.trans hc, .refl c⟩

/-- A parameter that is NULL and stays NULL is kept, and so are the others. -/
theorem keepsParam_of_wiped {i : ℕ} {c c' : Mem} (hc : q.param i = some c)
    (hnull : c.flags = MEM_Null) (hnull' : c'.flags = MEM_Null)
    (h : Leaves q (q.bind B b).2 (q.machine.nMem + i) c') (j : ℕ) :
    q.KeepsParam (q.bind B b).2 j := by
  by_cases hij : j = i
  · subst hij
    intro c₀ hc₀
    obtain rfl := Option.some.inj (hc.symm.trans hc₀)
    exact ⟨c', h.param hc, Or.inr ⟨hnull, hnull'⟩⟩
  · exact keepsParam_of_eq (h.keepsParam hij)

/-- A safe bind does what is to hold of a bind. -/
theorem BindOutcome.right (h : BindOutcome (B := B) q b) : BindRight B q b := by
  cases h with
  | refused h =>
    exact ⟨fun _ => h.fails, fun _ => h.fails,
      fun _ => ⟨fun i _ => keepsParam_of_eq (h.param i), congrArg Vdbe.expired h.p⟩,
      fun i _ _ => keepsParam_of_eq (h.param i), fun _ _ _ _ => Or.inl h.fails⟩
  | stored hbusy h1 hn c' hleaves hsucceeds hheld hreported =>
    refine ⟨fun h => by omega, fun h => absurd (hbusy.symm.trans h) Bool.false_ne_true,
      fun h => absurd (h.symm.trans hsucceeds) Bool.false_ne_true, fun i _ hi => ?_,
      fun _ _ _ hc => Or.inr (hreported hc)⟩
    exact keepsParam_of_eq (hleaves.keepsParam (by omega))
  | wiped hbusy i h1 c c' hc hnull hnull' hleaves hfails hexpired =>
    have hkeeps := keepsParam_of_wiped hc hnull hnull' hleaves
    exact ⟨fun _ => hfails, fun _ => hfails, fun _ => ⟨fun j _ => hkeeps j, hexpired⟩,
      fun j _ _ => hkeeps j, fun _ _ _ _ => Or.inl hfails⟩

/-- After a safe bind the query is idle again. -/
theorem BindOutcome.idle (h : BindOutcome (B := B) q b) (hq : q.Idle) : (q.bind B b).2.Idle := by
  have hkept := bind_kept B q b
  have hbusy : (q.bind B b).2.machine.rest.p.busy = q.machine.rest.p.busy := by
    have hposition := hkept.position
    unfold Env.position at hposition
    simp only [Prod.mk.injEq] at hposition
    unfold Vdbe.busy
    rw [hposition.1, hposition.2.1]
  refine ⟨?_, hkept.mode hq.mode, by rw [hkept.nMem, hkept.length]; exact hq.nMem, fun hb => ?_⟩
  · rw [hkept.control]
    exact hq.control
  · rw [hbusy] at hb
    cases h with
    | refused h => exact h.sound hb
    | stored _ _ _ _ hleaves => exact hleaves.sound
    | wiped _ _ _ _ _ _ _ _ hleaves => exact hleaves.sound

/-- A NULL holds what any NULL holds. -/
theorem Bound.Held.of_null (h : v.Held B c) (hc : c.flags = MEM_Null) (hc' : c'.flags = MEM_Null) :
    v.Held B c' := by
  have hnull : c'.flags.stored = MEM_Null := by rw [hc']; decide
  have hstored : c.flags.stored = MEM_Null := by rw [hc]; decide
  cases v with
  | null => exact hnull
  | int val => exact absurd (hstored.symm.trans h.1) (by decide)
  | real val =>
    rw [held_real_iff] at h ⊢
    split_ifs at h ⊢
    · exact hnull
    · exact absurd (hstored.symm.trans h.1) (by decide)
  | text s => exact absurd (hstored.symm.trans h.1) (by decide)

/-! ## Sequences of binds -/

/-- Every safe bind has one of the outcomes. -/
theorem safe_outcome (hL : TranslatesText B.lib) (hq : q.Idle)
    (hsafe : BindSafe B q b) : BindOutcome (B := B) q b := by
  cases hbusy : q.machine.rest.p.busy with
  | true =>
    refine .refused ?_
    obtain ⟨i, value⟩ := b
    cases value with
    | text s => exact bind_text_refuses hq (Or.inl hbusy)
    | _ => exact bind_python_refuses trivial hq (Or.inl hbusy)
  | false =>
    obtain ⟨i, value⟩ := b
    cases value with
    | text s => exact bindOutcome_text hL hq hbusy hsafe
    | _ => exact bindOutcome_python trivial hq hbusy hsafe

/-- After a safe bind the parameters hold what the ledger says. -/
theorem BindOutcome.held {l l' : Ledger κ} (h : BindOutcome (B := B) l.query b)
    (hl : ParametersHeld B l) (hstep : l.step B b = some l') : ParametersHeld B l' := by
  have hkept := bind_kept B l.query b
  obtain rfl := Option.some.inj hstep
  have hnVar : (l.query.bind B b).2.nVar = l.query.nVar := by
    unfold Query.nVar
    rw [hkept.length, hkept.nMem]
  intro i h1 hn
  obtain ⟨c, hc, hheld⟩ := hl i h1 (hnVar ▸ hn)
  cases h with
  | refused h =>
    dsimp only
    rw [h.fails]
    exact ⟨c, (h.param i).trans hc, hheld⟩
  | stored hbusy h1' hn' c' hleaves hsucceeds hheld' hreported =>
    dsimp only
    rw [hsucceeds, if_pos rfl]
    by_cases hi : i = b.i.toNat
    · subst hi
      rw [Function.update_self]
      exact ⟨c', hleaves.param hc, hheld'⟩
    · rw [Function.update_of_ne hi]
      exact ⟨c, (hleaves.keepsParam hi).trans hc, hheld⟩
  | wiped hbusy j h1' c₀ c' hc₀ hnull hnull' hleaves hfails hexpired =>
    dsimp only
    rw [hfails]
    by_cases hi : i = j
    · subst hi
      obtain rfl := Option.some.inj (hc.symm.trans hc₀)
      exact ⟨c', hleaves.param hc, hheld.of_null hnull hnull'⟩
    · exact ⟨c, (hleaves.keepsParam hi).trans hc, hheld⟩

/-- Along every sequence of safe binds, the parameters hold the values of the last successful binds
and `OP_Variable` delivers them, and each bind does what is to hold of a bind. -/
theorem parametersRight_of_each {l : Ledger κ} (hL : TranslatesText B.lib) (hq : l.query.Idle)
    (hl : ParametersHeld B l) {binds : List Binding}
    (hsafe : Runs.Each (Ledger.step B) (fun l b => BindSafe B l.query b) binds l) :
    Runs.Always (Ledger.step B) (ParametersRight B) binds l ∧
      Runs.Throughout (Ledger.step B) (fun l b _ => BindRight B l.query b) binds l := by
  have hstep : ∀ l b l', (l.query.Idle ∧ ParametersHeld B l) → BindSafe B l.query b →
      l.step B b = some l' → (l'.query.Idle ∧ ParametersHeld B l') ∧ BindRight B l.query b := by
    intro l b l' hI hC hl'
    have houtcome := safe_outcome hL hI.1 hC
    refine ⟨⟨?_, houtcome.held hI.2 hl'⟩, houtcome.right⟩
    obtain rfl := Option.some.inj hl'
    exact houtcome.idle hI.1
  refine ⟨?_, Runs.Throughout.of_each hstep ⟨hq, hl⟩ hsafe⟩
  refine (Runs.Always.of_each (fun l b l' hI hC hl' => (hstep l b l' hI hC hl').1) ⟨hq, hl⟩
    hsafe).mono fun l hI i h1 hn => ?_
  obtain ⟨c, hc, hheld⟩ := hI.2 i h1 hn
  exact ⟨c, hc, hheld, delivered_of_held hheld⟩

/-- A new query is idle. -/
theorem Query.Prepared.idle (hq : q.Prepared)
    (htable : CacheState.CanonicalTable q.machine.cache.table) : q.Idle := by
  have hinvalid : q.machine.cache._invalid_cache_state =
      CacheState.all_unknown q.machine.mems.length := by rw [hq.cache]; rfl
  have hstate : q.machine.cache.cache_state = CacheState.all_unknown q.machine.mems.length := by
    rw [hq.cache]
    rfl
  refine ⟨⟨_, hq.control⟩, ⟨by rw [hq.cache]; rfl, by rw [hq.cache]; rfl⟩, hq.nMem, fun _ => ?_⟩
  exact .of_unknown ⟨hstate ▸ CacheState.all_unknown_good _, hinvalid, htable, fun _ => hstate⟩ hstate

/-- The ledger of a new query: every parameter is NULL. -/
def Ledger.start (q : Query κ) : Ledger κ := ⟨q, fun _ => .null⟩

/-- In a new query all parameters are NULL. -/
theorem Query.Prepared.parametersHeld (hq : q.Prepared) : ParametersHeld B (.start q) := by
  intro i h1 hn
  obtain ⟨c, hc⟩ : ∃ c, q.param i = some c := by
    have := hq.nMem
    have hn : i ≤ q.machine.mems.length - (q.machine.nMem + 1) := hn
    exact ⟨_, List.getElem?_eq_getElem (by omega)⟩
  refine ⟨c, hc, ?_⟩
  have hmem : c ∈ q.machine.mems.drop (q.machine.nMem + 1) := by
    refine List.mem_of_getElem? (i := i - 1) ?_
    rw [List.getElem?_drop, show q.machine.nMem + 1 + (i - 1) = q.machine.nMem + i by omega]
    exact hc
  show c.flags.stored = MEM_Null
  rw [hq.vars c hmem]
  decide

/-! ## Statements with few parameters -/

/-- A query with one parameter. -/
def parameterQuery : Query Unit := .prepared (.prepared 1 0) [.ofNull, .ofNull, .ofNull] 1

/-- A query with two parameters. -/
def twoParameterQuery : Query Unit :=
  .prepared (.prepared 1 0) [.ofNull, .ofNull, .ofNull, .ofNull] 1

/-- The query is new. -/
theorem twoParameterQuery_prepared : twoParameterQuery.Prepared := by
  constructor <;> first | rfl | decide

/-- Both parameters are bound, and a bind with the index 3 fails. -/
def threeBinds : List Binding := [⟨1, .int 50⟩, ⟨2, .int 60⟩, ⟨3, .int 7⟩]

/-- Two parameters hold what they were bound to, and keep it when a bind fails. -/
theorem parametersRight_two :
    Runs.Always (Ledger.step .quiet) (ParametersRight .quiet) threeBinds
        (.start twoParameterQuery) ∧
      Runs.Throughout (Ledger.step .quiet) (fun l b _ => BindRight .quiet l.query b) threeBinds
        (.start twoParameterQuery) :=
  parametersRight_of_each (fun _ p _ hf _ => by
      show p.flags.stored = MEM_Str
      rw [hf]
      decide)
    (twoParameterQuery_prepared.idle (fun s hs => by cases hs))
    twoParameterQuery_prepared.parametersHeld
    (.cons (Or.inr fun _ c _ hcovers => by cases hcovers) rfl
      (.cons (Or.inr fun _ c _ hcovers => by cases hcovers) rfl
        (.cons (Or.inr fun h => absurd h (by decide)) rfl (.nil _))))

/-- The parameter is bound to 50, and then a bind with the index 0 fails, and the parameter is
NULL. -/
theorem not_parametersRight_zero :
    ¬ (Runs.Always (Ledger.step .quiet) (ParametersRight .quiet) [⟨1, .int 50⟩, ⟨0, .int 7⟩]
        (.start parameterQuery) ∧
      Runs.Throughout (Ledger.step .quiet) (fun l b _ => BindRight .quiet l.query b)
        [⟨1, .int 50⟩, ⟨0, .int 7⟩] (.start parameterQuery)) := by
  rintro ⟨halways, -⟩
  obtain ⟨c, hc, hheld, -⟩ := halways.after rfl 1 (by decide) (by decide)
  obtain rfl := Option.some.inj hc
  exact absurd hheld.1 (by decide)

end SQPyte
