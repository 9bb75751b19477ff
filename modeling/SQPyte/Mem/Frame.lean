import SQPyte.Mem.Strict

/-!
# What a program on one cell leaves alone

A program whose commands are all `OnCell i` changes no other cell, and nothing that the cache holds
of another cell (`run_elsewhere`). It need not be one that the strict machine accepts: a read of `u.r`
in a cell that holds no real changes nothing either.
-/

namespace SQPyte

open Commands

/-- The command works on cell `i` alone. -/
def MemCmd.OnCell {ρ : Type} (i : ℕ) : ∀ β : Type, MemCmd ρ β → Prop
  | _, .get_flags j => j = i
  | _, .set_flags j _ => j = i
  | _, .get_u_i j => j = i
  | _, .set_u_i j _ constant => j = i ∧ constant = false
  | _, .get_u_r j => j = i
  | _, .peek j _ => j = i
  | _, .c_mem j _ => j = i
  | _, .other _ => True
  | _, _ => False

namespace Machine

variable {ρ α : Type} {m m' : Machine ρ} {i : ℕ}

/-- Away from cell `i`, the machine `m'` is as `m` was. -/
structure Elsewhere (i : ℕ) (m m' : Machine ρ) : Prop where
  /-- There are as many registers. -/
  nMem : m'.nMem = m.nMem
  /-- There are as many cells. -/
  length : m'.mems.length = m.mems.length
  /-- The cache knows nothing false. -/
  related : ∃ s, Related m' s
  /-- The other cells are unchanged. -/
  mems : ∀ j, j ≠ i → m'.mems[j]? = m.mems[j]?
  /-- What the cache knows of the other cells is unchanged. -/
  slots : ∀ j, j ≠ i → m'.cache.cache_state.slot j = m.cache.cache_state.slot j
  /-- The floats that are not constants are unchanged. -/
  floats : m'.cache.floats = m.cache.floats

/-- To do nothing. -/
theorem Elsewhere.refl (h : ∃ s, Related m s) : Elsewhere i m m :=
  ⟨rfl, rfl, h, fun _ _ => rfl, fun _ _ => rfl, rfl⟩

/-- One thing after the other. -/
theorem Elsewhere.trans {m'' : Machine ρ} (h : Elsewhere i m m') (h' : Elsewhere i m' m'') :
    Elsewhere i m m'' where
  nMem := h'.nMem.trans h.nMem
  length := h'.length.trans h.length
  related := h'.related
  mems j hj := (h'.mems j hj).trans (h.mems j hj)
  slots j hj := (h'.slots j hj).trans (h.slots j hj)
  floats := h'.floats.trans h.floats

/-- `u.r` of another cell is read as before. -/
theorem Elsewhere.get_u_r (h : Elsewhere i m m') {j : ℕ} (hj : j ≠ i) (c : Mem) :
    m'.cache.get_u_r j c = m.cache.get_u_r j c := by
  have hslot := h.slots j hj
  exact Cache.get_u_r_congr j c (by rw [hslot]) (by rw [hslot]) (by rw [hslot]) h.floats

/-- An access that touches the cache at this slot only leaves the rest alone. -/
theorem elsewhere_of_touches {f : Mem → Except Exc (α × Mem × Cache × ρ)} {a : α} {s : Strict ρ}
    (hR : Related m s)
    (hf : ∀ c a c' cache r, m.mems[i]? = some c → f c = .ok (a, c', cache, r) →
      ∃ w, Cache.Touches m.mems.length i m.cache cache c' w)
    (h : m.atMem i f = .ok (a, m')) : Elsewhere i m m' := by
  unfold atMem at h
  cases hi : m.mems[i]? with
  | none => rw [hi] at h; cases h
  | some c =>
    rw [hi] at h
    dsimp only at h
    cases hc : f c with
    | error e => rw [hc] at h; cases h
    | ok x =>
      obtain ⟨b, c', cache, r⟩ := x
      rw [hc] at h
      simp only [Except.ok.injEq, Prod.mk.injEq] at h
      obtain ⟨-, rfl⟩ := h
      obtain ⟨w, ht⟩ := hf c b c' cache r hi hc
      have hlt : i < m.mems.length := (List.getElem?_eq_some_iff.mp hi).1
      refine ⟨rfl, List.length_set .., ?_, fun j hj => List.getElem?_set_ne hj.symm, ht.others,
        ht.floats⟩
      refine ⟨⟨m.mems.set i c', Function.update s.written i w, m.nMem, r⟩, rfl, rfl, rfl, ?_, ?_⟩
      · simpa using ht.good
      · intro j d hj
        by_cases hji : j = i
        · subst hji
          obtain rfl : c' = d := by simpa [hlt] using hj
          simpa using ht.slot
        · have hj' : s.mems[j]? = some d := by
            rw [← hR.mems]
            simpa [List.getElem?_set_ne (Ne.symm hji)] using hj
          show SlotRelated (cache.cache_state.slot j) d (Function.update s.written i w j)
          rw [Function.update_of_ne hji, ht.others j hji]
          exact hR.slots j d hj'

/-- A command on cell `i` leaves the rest alone. -/
theorem command_elsewhere {β : Type} {c : MemCmd ρ β} (hc : MemCmd.OnCell i β c)
    (hR : ∃ s, Related m s) {b : β} (h : machine ρ β c m = .ok (b, m')) : Elsewhere i m m' := by
  obtain ⟨s, hR⟩ := hR
  have hslot : ∀ {c : Mem}, m.mems[i]? = some c →
      i < m.mems.length ∧ SlotRelated (m.cache.cache_state.slot i) c (s.written i) := fun hi =>
    ⟨(List.getElem?_eq_some_iff.mp hi).1, hR.slots i _ (hR.mems ▸ hi)⟩
  -- A command that only reads its cell changes nothing at all.
  have hsame : ∀ {β : Type} {read : Mem → β} {b : β},
      m.atMem i (fun pMem => .ok (read pMem, pMem, m.cache, m.rest)) = .ok (b, m') →
      Elsewhere i m m' := fun h => elsewhere_of_touches hR (by
    intro c a c' cache r hi heq
    simp only [Except.ok.injEq, Prod.mk.injEq] at heq
    obtain ⟨-, rfl, rfl, -⟩ := heq
    exact ⟨_, Cache.Touches.refl hR.good (hslot hi).2⟩) h
  cases c with
  | get_flags j =>
    obtain rfl : j = i := hc
    refine elsewhere_of_touches hR (fun c a c' cache r hi heq => ?_) h
    -- Reading the flags may store them in the cell's slot of the cache.
    obtain ⟨cache₁, hget, ht⟩ := Cache.get_flags_spec hR.good (hslot hi).1 (hslot hi).2
    rw [hget] at heq
    simp only [Except.map, Except.ok.injEq, Prod.mk.injEq] at heq
    obtain ⟨-, rfl, rfl, -⟩ := heq
    exact ⟨_, ht⟩
  | set_flags j f =>
    obtain rfl : j = i := hc
    refine elsewhere_of_touches hR (fun c a c' cache r hi heq => ?_) h
    obtain ⟨cache₁, hset, ht⟩ := Cache._set_flags_spec hR.good (hslot hi).1 (hslot hi).2 f true
      (by simp)
    rw [Cache.set_flags, hset] at heq
    simp only [Except.map, Except.ok.injEq, Prod.mk.injEq] at heq
    obtain ⟨-, rfl, rfl, -⟩ := heq
    exact ⟨_, ht⟩
  | get_u_i j =>
    obtain rfl : j = i := hc
    exact hsame h
  | set_u_i j v constant =>
    obtain ⟨rfl, rfl⟩ := hc
    have h : m.atMem j (fun pMem => .ok ((), (m.cache.set_u_i j pMem v false).1,
      (m.cache.set_u_i j pMem v false).2, m.rest)) = .ok (b, m') := h
    refine elsewhere_of_touches hR (fun c a c' cache r hi heq => ?_) h
    obtain ⟨cache₁, hset, ht⟩ := Cache.set_u_i_spec hR.good (hslot hi).1 (hslot hi).2 v false
    rw [hset] at heq
    simp only [Except.ok.injEq, Prod.mk.injEq] at heq
    obtain ⟨-, rfl, rfl, -⟩ := heq
    exact ⟨_, ht⟩
  | get_u_r j =>
    obtain rfl : j = i := hc
    exact hsame h
  | peek j read =>
    obtain rfl : j = i := hc
    exact hsame h
  | c_mem j routine =>
    obtain rfl : j = i := hc
    refine elsewhere_of_touches hR (fun c a c' cache r hi heq => ?_) h
    -- After the C routine the cell's slot is forgotten, and no other.
    cases hr : routine c m.rest with
    | error e => rw [hr] at heq; cases heq
    | ok x =>
      rw [hr] at heq
      simp only [Except.map, Except.ok.injEq, Prod.mk.injEq] at heq
      obtain ⟨-, rfl, rfl, -⟩ := heq
      exact ⟨.foreign, Cache.invalidate_spec hR.good (hslot hi).1 _ _⟩
  | other step =>
    simp only [machine] at h
    -- The step does not see the cells.
    cases hr : step m.rest with
    | error e => rw [hr] at h; cases h
    | ok x =>
      rw [hr] at h
      simp only [Except.map, Except.ok.injEq, Prod.mk.injEq] at h
      obtain ⟨-, rfl⟩ := h
      exact ⟨rfl, rfl, ⟨{ s with rest := x.2 }, hR.mems, hR.nMem, rfl, hR.good, hR.slots⟩,
        fun _ _ => rfl, fun _ _ => rfl, rfl⟩
  | _ => exact absurd hc id

/-- A program on cell `i` leaves the rest alone. -/
theorem run_elsewhere {p : MemM ρ α} (hp : p.All (MemCmd.OnCell i)) (hR : ∃ s, Related m s) {a : α}
    (h : run (machine ρ) p m = .ok (a, m')) : Elsewhere i m m' := by
  refine run_preserves (I := Elsewhere i m) (fun β c hc m₁ b m₂ h₁ hstep => ?_) hp
    (Elsewhere.refl hR) h
  exact h₁.trans (command_elsewhere hc h₁.related hstep)

end Machine

end SQPyte
