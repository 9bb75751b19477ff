import SQPyte.Mem.Strict

/-!
# Programs whose outcome does not depend on the cache

The strict machine refuses a read of the union that the member written last does not allow. From
cells that announce the member written last, it refuses none of the reads that a program guards by
the flags it has read (`Accepts`). Then the outcome is a function of the cells: two sound machines
with the same cells execute the program alike, whatever their caches hold (`run_sameCells`).
-/

namespace SQPyte

open Commands

variable {ρ α β : Type}

namespace Strict

/-! ## Two runs from the same cells -/

/-- The states differ in the members written last only. -/
structure SameCells (s t : Strict ρ) : Prop where
  /-- The cells are the same. -/
  mems : s.mems = t.mems
  /-- The registers are the same. -/
  nMem : s.nMem = t.nMem
  /-- The rest is the same. -/
  rest : s.rest = t.rest

/-- The outcomes are the same up to the members written last. -/
inductive SameOutcome :
    Except (Option Exc) (α × Strict ρ) → Except (Option Exc) (α × Strict ρ) → Prop
  | ok (a : α) {s t : Strict ρ} (h : SameCells s t) : SameOutcome (.ok (a, s)) (.ok (a, t))
  | error (e : Option Exc) : SameOutcome (.error e) (.error e)

/-- What an access to a cell leaves, without the member written last. -/
def withoutMember (x : α × Mem × Member × ρ) : α × Mem × ρ := (x.1, x.2.1, x.2.2.2)

/-- An access whose result does not depend on the member written last. -/
theorem SameCells.atMem {s t : Strict ρ} (h : SameCells s t) {i : ℕ}
    {f g : Mem → Member → Except (Option Exc) (α × Mem × Member × ρ)}
    (hfg : ∀ pMem w w', f pMem w ≠ .error none → g pMem w' ≠ .error none →
      (f pMem w).map withoutMember = (g pMem w').map withoutMember)
    (hs : s.atMem i f ≠ .error none) (ht : t.atMem i g ≠ .error none) :
    SameOutcome (s.atMem i f) (t.atMem i g) := by
  unfold Strict.atMem at hs ht ⊢
  rw [← h.mems] at ht ⊢
  cases hi : s.mems[i]? with
  | none => exact .error _
  | some pMem =>
    rw [hi] at hs ht
    dsimp only at hs ht ⊢
    have hsame := hfg pMem (s.written i) (t.written i) (fun hf => hs (by rw [hf]))
      (fun hg => ht (by rw [hg]))
    cases hf : f pMem (s.written i) with
    | error e =>
      rw [hf] at hsame
      cases hg : g pMem (t.written i) with
      | error e' =>
        rw [hg] at hsame
        obtain rfl : e = e' := Except.error.inj hsame
        exact .error e
      | ok y =>
        rw [hg] at hsame
        cases hsame
    | ok x =>
      rw [hf] at hsame
      cases hg : g pMem (t.written i) with
      | error e' =>
        rw [hg] at hsame
        cases hsame
      | ok y =>
        rw [hg] at hsame
        obtain ⟨a, pMem', w, r⟩ := x
        obtain ⟨b, pMem'', w', r'⟩ := y
        have heq := Except.ok.inj hsame
        simp only [withoutMember, Prod.mk.injEq] at heq
        obtain ⟨rfl, rfl, rfl⟩ := heq
        exact .ok a ⟨congrArg (fun l => l.set i pMem') h.mems ▸ rfl, h.nMem, rfl⟩

/-- A command that neither of the two refuses. -/
theorem SameCells.command {s t : Strict ρ} (h : SameCells s t) (c : MemCmd ρ β)
    (hs : strictMachine ρ β c s ≠ .error none) (ht : strictMachine ρ β c t ≠ .error none) :
    SameOutcome (strictMachine ρ β c s) (strictMachine ρ β c t) := by
  have hsame := h
  obtain ⟨mems, written, nMem, rest⟩ := s
  obtain ⟨mems', written', nMem', rest'⟩ := t
  obtain ⟨rfl, rfl, rfl⟩ := h
  -- Looking an index up depends on neither.
  have hindex : ∀ r : Except Exc β, SameOutcome
      ((r.map (·, (⟨mems, written, nMem, rest⟩ : Strict ρ))).mapError some)
      ((r.map (·, (⟨mems, written', nMem, rest⟩ : Strict ρ))).mapError some) := fun r => by
    cases r with
    | error e => exact .error _
    | ok i => exact .ok i hsame
  cases c with
  | mem_with_index i => exact hindex _
  | var_with_index i => exact hindex _
  | get_flags i | set_flags i f | set_u_i i v constant | invalidate_cache i | peek i read
  | poke i update | set_u_nZero i v =>
    simp only [strictMachine] at hs ht ⊢
    exact hsame.atMem (fun _ _ _ _ _ => rfl) hs ht
  | assure_flags i f =>
    simp only [strictMachine] at hs ht ⊢
    refine hsame.atMem (fun pMem w w' _ _ => ?_) hs ht
    split_ifs <;> rfl
  | get_u_i i | get_u_r i =>
    simp only [strictMachine] at hs ht ⊢
    refine hsame.atMem (fun pMem w w' h1 h2 => ?_) hs ht
    -- It is the refused reads that depend on the member written last.
    split_ifs at h1 h2 ⊢
    · rfl
    all_goals contradiction
  | set_u_r i v constant =>
    simp only [strictMachine] at hs ht ⊢
    refine hsame.atMem (fun pMem w w' _ _ => ?_) hs ht
    split_ifs <;> rfl
  | is_constant_u_i i => exact absurd rfl hs
  | invalidate_caches => exact .ok () hsame
  | c_mem i routine =>
    simp only [strictMachine] at hs ht ⊢
    refine hsame.atMem (fun pMem w w' _ _ => ?_) hs ht
    cases routine pMem rest <;> rfl
  | other step =>
    simp only [strictMachine]
    cases step rest with
    | error e => exact .error _
    | ok x => exact .ok x.1 ⟨rfl, rfl, rfl⟩
  | c_mems step => exact absurd rfl hs

/-- A program that is refused in neither of the two runs. -/
theorem SameCells.run {p : MemM ρ α} {s t : Strict ρ} (h : SameCells s t)
    (hs : run (strictMachine ρ) p s ≠ .error none) (ht : run (strictMachine ρ) p t ≠ .error none) :
    SameOutcome (run (strictMachine ρ) p s) (run (strictMachine ρ) p t) := by
  induction p generalizing s t with
  | ret a => exact .ok a h
  | cmd c k ih =>
    rw [run_command] at hs ht ⊢
    rw [run_command] at ⊢
    have hc := h.command c (fun heq => hs (by rw [heq]; rfl)) (fun heq => ht (by rw [heq]; rfl))
    generalize strictMachine ρ _ c s = x at hc hs ⊢
    generalize strictMachine ρ _ c t = y at hc ht ⊢
    cases hc with
    | error e => exact .error e
    | ok b h' => exact ih b h' hs ht

/-! ## Acceptance -/

/-- The cells announce the members written last, and cell `i` has the flags `f`. -/
def HasFlags (i : ℕ) (f : Flags) (s : Strict ρ) : Prop :=
  s.Announced ∧ ∃ c, s.mems[i]? = some c ∧ c.flags = f

/-- An access to a cell is not refused if its function fails with an exception or succeeds. -/
theorem atMem_accepts {s : Strict ρ} {Q : α → Strict ρ → Prop} {i : ℕ}
    {f : Mem → Member → Except (Option Exc) (α × Mem × Member × ρ)}
    (hf : ∀ pMem, s.mems[i]? = some pMem → (∃ e, f pMem (s.written i) = .error (some e)) ∨
      ∃ a c w r, f pMem (s.written i) = .ok (a, c, w, r) ∧ Q a { s.setMem i c w with rest := r }) :
    s.atMem i f ≠ .error none ∧ ∀ a s', s.atMem i f = .ok (a, s') → Q a s' := by
  unfold atMem
  cases hi : s.mems[i]? with
  | none => exact ⟨by simp, fun a s' h => by cases h⟩
  | some pMem =>
    dsimp only
    rcases hf pMem hi with ⟨e, he⟩ | ⟨a, c, w, r, hok, hQ⟩
    · rw [he]
      exact ⟨by simp, fun a s' h => by cases h⟩
    · rw [hok]
      refine ⟨by simp, fun b s' h => ?_⟩
      obtain ⟨rfl, rfl⟩ := Prod.mk.inj (Except.ok.inj h)
      exact hQ

section commands

variable {i : ℕ} {f : Flags}

/-- Fetching a register changes nothing. -/
theorem accepts_mem_with_index {P : Strict ρ → Prop} (i : ℤ) :
    Accepts (strictMachine ρ) P (mem_with_index i) fun _ => P := by
  intro s hs
  unfold mem_with_index
  rw [run_perform, strictMachine]
  cases Machine.memIndex s.mems.length s.nMem i with
  | error e => exact ⟨by simp [Except.map, Except.mapError], fun a s' h => by cases h⟩
  | ok j =>
    refine ⟨by simp [Except.map, Except.mapError], fun a s' h => ?_⟩
    obtain ⟨-, rfl⟩ := Prod.mk.inj (Except.ok.inj h)
    exact hs

/-- An exception of Python is accepted. -/
theorem accepts_throwExc {P : Strict ρ → Prop} {Q : α → Strict ρ → Prop} (e : Exc) :
    Accepts (strictMachine ρ) P (throwExc e) Q := by
  intro s _
  unfold throwExc SQPyte.other
  rw [run_perform, strictMachine]
  exact ⟨by simp, fun a s' h => by cases h⟩

/-- So is an assertion that fails. -/
theorem accepts_pyAssert {P : Strict ρ → Prop} (cond : Bool) :
    Accepts (strictMachine ρ) P (pyAssert cond) fun _ => P :=
  Accepts.ite (fun _ => Accepts.pure fun _ h => h) fun _ => accepts_throwExc _

/-- The flags are those of the cell. -/
theorem accepts_get_flags (i : ℕ) :
    Accepts (strictMachine ρ) Announced (get_flags i) fun f => HasFlags i f := by
  intro s hs
  unfold get_flags
  rw [run_perform, strictMachine]
  refine atMem_accepts fun pMem hi => Or.inr ⟨_, _, _, _, rfl, ?_⟩
  exact ⟨hs.setMem (hs i pMem hi) i, pMem, (At.setMem ⟨hi, rfl⟩ _ _).1, rfl⟩

/-- The flags of a cell are what they are known to be. -/
theorem accepts_get_flags_known (i : ℕ) (f : Flags) :
    Accepts (strictMachine ρ) (HasFlags i f) (get_flags i) fun a s => a = f ∧ HasFlags i f s := by
  rintro s ⟨hs, c, hc, rfl⟩
  unfold get_flags
  rw [run_perform, strictMachine]
  refine atMem_accepts fun pMem hi => Or.inr ⟨_, _, _, _, rfl, ?_⟩
  obtain rfl := Option.some.inj (hc.symm.trans hi)
  exact ⟨rfl, hs.setMem (hs i c hi) i, c, (At.setMem ⟨hi, rfl⟩ _ _).1, rfl⟩

/-- The integer of a cell with the flag `MEM_Int` is not refused. -/
theorem accepts_get_u_i (hf : f.has MEM_Int = true) :
    Accepts (strictMachine ρ) (HasFlags i f) (get_u_i i) fun _ => Announced := by
  rintro s ⟨hs, c, hc, rfl⟩
  unfold get_u_i
  rw [run_perform, strictMachine]
  refine atMem_accepts fun pMem hi => Or.inr ?_
  obtain rfl := Option.some.inj (hc.symm.trans hi)
  exact ⟨_, _, _, _, if_pos ⟨hf, (hs i c hi).1 hf⟩, hs.setMem (hs i c hi) i⟩

/-- The real of a cell with the flag `MEM_Real` is not refused. -/
theorem accepts_get_u_r (hf : f.has MEM_Real = true) :
    Accepts (strictMachine ρ) (HasFlags i f) (get_u_r i) fun _ => Announced := by
  rintro s ⟨hs, c, hc, rfl⟩
  unfold get_u_r
  rw [run_perform, strictMachine]
  refine atMem_accepts fun pMem hi => Or.inr ?_
  obtain rfl := Option.some.inj (hc.symm.trans hi)
  exact ⟨_, _, _, _, if_pos ⟨hf, (hs i c hi).2 hf⟩, hs.setMem (hs i c hi) i⟩

/-- Fields can be read. -/
theorem accepts_peek (i : ℕ) (read : Mem → α) :
    Accepts (strictMachine ρ) Announced (peek i read) fun _ => Announced := by
  intro s hs
  unfold peek
  rw [run_perform, strictMachine]
  exact atMem_accepts fun pMem hi => Or.inr ⟨_, _, _, _, rfl, hs.setMem (hs i pMem hi) i⟩

/-- And written. -/
theorem accepts_poke (i : ℕ) (update : FieldUpdate) :
    Accepts (strictMachine ρ) Announced (poke i update) fun _ => Announced := by
  intro s hs
  unfold poke
  rw [run_perform, strictMachine]
  refine atMem_accepts fun pMem hi => Or.inr ⟨_, _, _, _, rfl, hs.setMem ?_ i⟩
  unfold Announces
  rw [update.flags_eq]
  exact hs i pMem hi

/-- A write to the other fields leaves the flags as they are. -/
theorem accepts_poke_flags (i : ℕ) (update : FieldUpdate) :
    Accepts (strictMachine ρ) (HasFlags i f) (poke i update) fun _ => HasFlags i f := by
  rintro s ⟨hs, c, hc, rfl⟩
  unfold poke
  rw [run_perform, strictMachine]
  refine atMem_accepts fun pMem hi => Or.inr ⟨_, _, _, _, rfl, ?_⟩
  obtain rfl := Option.some.inj (hc.symm.trans hi)
  refine ⟨hs.setMem ?_ i, _, (At.setMem ⟨hi, rfl⟩ _ _).1, update.flags_eq c⟩
  unfold Announces
  rw [update.flags_eq]
  exact hs i c hi

/-- A C routine may write any member, and the flags say which. -/
theorem accepts_c_mem (i : ℕ) (routine : Mem → ρ → Except Exc (α × Mem × ρ)) :
    Accepts (strictMachine ρ) Announced (c_mem i routine) fun _ => Announced := by
  intro s hs
  unfold c_mem
  rw [run_perform, strictMachine]
  refine atMem_accepts fun pMem hi => ?_
  cases routine pMem s.rest with
  | error e => exact Or.inl ⟨e, rfl⟩
  | ok x => exact Or.inr ⟨_, _, _, _, rfl, hs.setMem ⟨fun _ => Or.inr rfl, fun _ => Or.inr rfl⟩ i⟩

/-- The flags of a cell that then holds no number. -/
theorem accepts_set_flags (i : ℕ) (hint : f.has MEM_Int = false) (hreal : f.has MEM_Real = false) :
    Accepts (strictMachine ρ) Announced (set_flags i f) fun _ => HasFlags i f := by
  intro s hs
  unfold set_flags
  rw [run_perform, strictMachine]
  refine atMem_accepts fun pMem hi => Or.inr ⟨_, _, _, _, rfl, hs.setMem ⟨fun h => ?_, fun h => ?_⟩ i,
    _, (At.setMem ⟨hi, rfl⟩ _ _).1, rfl⟩
  · exact absurd (hint.symm.trans h) (by simp)
  · exact absurd (hreal.symm.trans h) (by simp)

/-- The count of implied zeros of a cell that holds no number. -/
theorem accepts_set_u_nZero (v : ℤ) (hint : f.has MEM_Int = false)
    (hreal : f.has MEM_Real = false) :
    Accepts (strictMachine ρ) (HasFlags i f) (set_u_nZero i v) fun _ => HasFlags i f := by
  rintro s ⟨hs, c, hc, rfl⟩
  unfold set_u_nZero
  rw [run_perform, strictMachine]
  refine atMem_accepts fun pMem hi => Or.inr ⟨_, _, _, _, rfl, ?_⟩
  obtain rfl := Option.some.inj (hc.symm.trans hi)
  refine ⟨hs.setMem ⟨fun h => ?_, fun h => ?_⟩ i, _, (At.setMem ⟨hi, rfl⟩ _ _).1, rfl⟩
  · exact absurd (hint.symm.trans h) (by simp)
  · exact absurd (hreal.symm.trans h) (by simp)

end commands

end Strict

/-! ## Through the cache -/

/-- The machines have the same cells, and sound caches. -/
structure Machine.SameCells (m n : Machine ρ) : Prop where
  /-- The cells are the same. -/
  mems : m.mems = n.mems
  /-- The registers are the same. -/
  nMem : m.nMem = n.nMem
  /-- The rest is the same. -/
  rest : m.rest = n.rest
  /-- The first cache is sound. -/
  left : m.Sound
  /-- The second cache is sound. -/
  right : n.Sound

/-- A program that is accepted from all cells that announce the members written last does the same
to the same cells, whatever the caches hold. -/
theorem Machine.SameCells.run {p : MemM ρ α}
    (hp : Accepts (strictMachine ρ) Strict.Announced p fun _ => Strict.Announced)
    {m n : Machine ρ} (h : m.SameCells n) :
    (∃ a m' n', Commands.run (machine ρ) p m = .ok (a, m') ∧
      Commands.run (machine ρ) p n = .ok (a, n') ∧ m'.SameCells n') ∨
    ∃ e, Commands.run (machine ρ) p m = .error e ∧ Commands.run (machine ρ) p n = .error e := by
  obtain ⟨written, hR, hann⟩ := h.left
  obtain ⟨written', hR', hann'⟩ := h.right
  have hstrict : Strict.SameCells (m.strict written) (n.strict written') :=
    ⟨h.mems, h.nMem, h.rest⟩
  obtain ⟨hne, hQ⟩ := hp (m.strict written) hann
  obtain ⟨hne', hQ'⟩ := hp (n.strict written') hann'
  have hsame := hstrict.run hne hne'
  generalize hx : Commands.run (strictMachine ρ) p (m.strict written) = x at hsame hne hQ
  generalize hy : Commands.run (strictMachine ρ) p (n.strict written') = y at hsame hne' hQ'
  cases hsame with
  | error e =>
    cases e with
    | none => exact absurd rfl hne
    | some e =>
      exact Or.inr ⟨e, run_machine_of_strict_error hR hx, run_machine_of_strict_error hR' hy⟩
  | ok a hcells =>
    obtain ⟨m', hm', hRm⟩ := run_machine_of_strict hR hx
    obtain ⟨n', hn', hRn⟩ := run_machine_of_strict hR' hy
    refine Or.inl ⟨a, m', n', hm', hn', ?_⟩
    exact
      { mems := hRm.mems.trans (hcells.mems.trans hRn.mems.symm)
        nMem := hRm.nMem.trans (hcells.nMem.trans hRn.nMem.symm)
        rest := hRm.rest.trans (hcells.rest.trans hRn.rest.symm)
        left := .of_related hRm (hQ _ _ rfl)
        right := .of_related hRn (hQ' _ _ rfl) }

end SQPyte
