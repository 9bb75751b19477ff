import SQPyte.Mem.Access

/-!
# What every command leaves alone

No command changes the number of registers, and none changes the mode of the flag cache: which of
the virtual and the non-virtual state is there. Only `c_mems` can change the number of cells, and
only `c_mem`, `other` and `c_mems` the state besides the cells. `machine_effect` says so of one
command, whatever the cache holds; `run_preserves` and `runTo_preserves` carry it to programs.
-/

namespace SQPyte

open Commands

/-- The virtual state is there and the non-virtual one is not, or the other way round. -/
structure Cache.InMode (virtual : Bool) (h : Cache) : Prop where
  /-- The virtual state. -/
  virt : h._virt_cache_state.isSome = virtual
  /-- The non-virtual state. -/
  nonvirt : h._nonvirt_cache_state.isSome = !virtual

namespace Cache

variable {virtual : Bool} {h : Cache}

/-- Setting the state keeps the mode. -/
theorem InMode.set_cache_state (hm : h.InMode virtual) (cs : CacheState) :
    (h.set_cache_state cs).InMode virtual := by
  unfold Cache.set_cache_state
  obtain ⟨hv, hn⟩ := hm
  cases virtual with
  | true => simp only [hv, ↓reduceIte]; exact ⟨rfl, hn⟩
  | false => simp only [hv, Bool.false_eq_true, ↓reduceIte]; exact ⟨hv, rfl⟩

/-- So does an update. -/
theorem InMode.update (hm : h.InMode virtual) (m : StateM CacheTable CacheState) :
    (h.update m).InMode virtual := by
  unfold Cache.update
  exact InMode.set_cache_state (h := { h with table := (m h.table).2 }) ⟨hm.virt, hm.nonvirt⟩ _

/-- So does reading the flags. -/
theorem InMode.get_flags (hm : h.InMode virtual) {i : ℕ} {c : Mem} {f : Flags} {h' : Cache}
    (hr : h.get_flags i c = .ok (f, h')) : h'.InMode virtual := by
  unfold Cache.get_flags at hr
  dsimp only at hr
  split_ifs at hr
  · obtain ⟨-, rfl⟩ := Prod.mk.inj (Except.ok.inj hr)
    exact hm
  · obtain ⟨-, rfl⟩ := Prod.mk.inj (Except.ok.inj hr)
    exact hm.update _

/-- So does writing them. -/
theorem InMode._set_flags (hm : h.InMode virtual) {i : ℕ} {c c' : Mem} {f : Flags} {b : Bool}
    {h' : Cache} (hr : h._set_flags i c f b = .ok (c', h')) : h'.InMode virtual := by
  unfold Cache._set_flags at hr
  dsimp only at hr
  split_ifs at hr
  all_goals obtain ⟨-, rfl⟩ := Prod.mk.inj (Except.ok.inj hr)
  all_goals first | exact hm | exact hm.update _

/-- So does assuring them. -/
theorem InMode.assure_flags (hm : h.InMode virtual) {i : ℕ} {c c' : Mem} {f : Flags} {h' : Cache}
    (hr : h.assure_flags i c f = .ok (c', h')) : h'.InMode virtual := by
  unfold Cache.assure_flags at hr
  split_ifs at hr
  exact hm._set_flags hr

/-- So does writing the integer. -/
theorem InMode.set_u_i (hm : h.InMode virtual) (i : ℕ) (c : Mem) (v : BitVec 64) (k : Bool) :
    (h.set_u_i i c v k).2.InMode virtual := by
  unfold Cache.set_u_i
  dsimp only
  split_ifs
  · exact hm.update (h.cache_state.change_cache_state i _)
  · exact hm.update (h.cache_state.set_u_i_constant i v.toInt)

/-- So does writing the real. -/
theorem InMode.set_u_r (hm : h.InMode virtual) (i : ℕ) (c : Mem) (v : Binary64) (k : Bool) :
    (h.set_u_r i c v k).2.InMode virtual := by
  unfold Cache.set_u_r
  dsimp only
  split_ifs
  · exact hm.update (h.cache_state.change_cache_state i _)
  · exact hm.update (h.cache_state.set_u_r_constant i v)

end Cache

section effects

variable {ρ α β : Type}

/-- The command cannot change the number of cells. -/
def MemCmd.KeepsCells : ∀ β, MemCmd ρ β → Prop
  | _, .c_mems _ => False
  | _, _ => True

/-- The command keeps a property of the state besides the cells. -/
def MemCmd.KeepsRest (I : ρ → Prop) : ∀ β, MemCmd ρ β → Prop
  | _, .c_mem _ routine => ∀ c r a c' r', I r → routine c r = .ok (a, c', r') → I r'
  | _, .other step => ∀ r a r', I r → step r = .ok (a, r') → I r'
  | _, .c_mems step => ∀ ms r a ms' r', I r → step ms r = .ok (a, ms', r') → I r'
  | _, _ => True

/-- What a command leaves alone. -/
structure Machine.Effect (c : MemCmd ρ β) (m m' : Machine ρ) : Prop where
  /-- The number of registers. -/
  nMem : m'.nMem = m.nMem
  /-- The number of cells. -/
  length : MemCmd.KeepsCells β c → m'.mems.length = m.mems.length
  /-- The state besides the cells. -/
  rest : ∀ I : ρ → Prop, MemCmd.KeepsRest I β c → I m.rest → I m'.rest
  /-- The mode of the cache. -/
  mode : ∀ virtual, m.cache.InMode virtual → m'.cache.InMode virtual

/-- To do nothing is an effect of every command. -/
theorem Machine.Effect.refl (c : MemCmd ρ β) (m : Machine ρ) : Effect c m m :=
  ⟨rfl, fun _ => rfl, fun _ _ h => h, fun _ h => h⟩

/-- An access to one cell has the effect of its function. -/
theorem effect_of_atMem {c : MemCmd ρ β} {m m' : Machine ρ} {i : ℕ}
    {f : Mem → Except Exc (α × Mem × Cache × ρ)} {a : α} (h : m.atMem i f = .ok (a, m'))
    (hrest : ∀ p a p' cache r, f p = .ok (a, p', cache, r) →
      ∀ I : ρ → Prop, MemCmd.KeepsRest I β c → I m.rest → I r)
    (hmode : ∀ p a p' cache r, f p = .ok (a, p', cache, r) →
      ∀ virtual, m.cache.InMode virtual → cache.InMode virtual) : Machine.Effect c m m' := by
  unfold Machine.atMem at h
  cases hi : m.mems[i]? with
  | none => rw [hi] at h; cases h
  | some p =>
    rw [hi] at h
    dsimp only at h
    cases hp : f p with
    | error e => rw [hp] at h; cases h
    | ok x =>
      obtain ⟨b, p', cache, r⟩ := x
      rw [hp] at h
      obtain ⟨-, rfl⟩ := Prod.mk.inj (Except.ok.inj h)
      exact ⟨rfl, fun _ => List.length_set .., hrest p b p' cache r hp, hmode p b p' cache r hp⟩

/-- An access to one cell that keeps the rest. -/
theorem effect_of_atMem_rest {c : MemCmd ρ β} {m m' : Machine ρ} {i : ℕ}
    {f : Mem → Except Exc (α × Mem × Cache)} {a : α}
    (h : m.atMem i (fun p => (f p).map fun x => (x.1, x.2.1, x.2.2, m.rest)) = .ok (a, m'))
    (hmode : ∀ p a p' cache, f p = .ok (a, p', cache) →
      ∀ virtual, m.cache.InMode virtual → cache.InMode virtual) : Machine.Effect c m m' := by
  have hf : ∀ p a p' cache r,
      ((f p).map fun x => (x.1, x.2.1, x.2.2, m.rest)) = .ok (a, p', cache, r) →
      f p = .ok (a, p', cache) ∧ r = m.rest := by
    intro p a p' cache r hp
    cases hfp : f p with
    | error e => rw [hfp] at hp; cases hp
    | ok x =>
      rw [hfp] at hp
      simp only [Except.map, Except.ok.injEq, Prod.mk.injEq] at hp
      obtain ⟨rfl, rfl, rfl, rfl⟩ := hp
      exact ⟨rfl, rfl⟩
  refine effect_of_atMem h (fun p a p' cache r hp I _ hI => ?_) fun p a p' cache r hp => ?_
  · rw [(hf p a p' cache r hp).2]
    exact hI
  · exact hmode p a p' cache (hf p a p' cache r hp).1

/-- What a command leaves alone, whatever the cache holds. -/
theorem machine_effect {c : MemCmd ρ β} {m m' : Machine ρ} {b : β}
    (h : machine ρ β c m = .ok (b, m')) : Machine.Effect c m m' := by
  -- an access that reads and changes nothing
  have hread : ∀ {i : ℕ} {read : Mem → β},
      m.atMem i (fun p => .ok (read p, p, m.cache, m.rest)) = .ok (b, m') → Machine.Effect c m m' :=
    fun {i read} h => effect_of_atMem_rest (f := fun p => .ok (read p, p, m.cache)) h
      fun p a p' cache hp virtual hm => by
        obtain ⟨-, -, rfl⟩ : _ ∧ _ ∧ m.cache = cache := by simpa using hp
        exact hm
  cases c with
  | mem_with_index i =>
    simp only [machine] at h
    cases hi : Machine.memIndex m.mems.length m.nMem i with
    | error e => rw [hi] at h; cases h
    | ok k =>
      rw [hi] at h
      obtain ⟨-, rfl⟩ := Prod.mk.inj (Except.ok.inj h)
      exact .refl _ _
  | var_with_index i =>
    simp only [machine] at h
    cases hi : Machine.varIndex m.mems.length m.nMem i with
    | error e => rw [hi] at h; cases h
    | ok k =>
      rw [hi] at h
      obtain ⟨-, rfl⟩ := Prod.mk.inj (Except.ok.inj h)
      exact .refl _ _
  | get_flags i =>
    refine effect_of_atMem h (fun p a p' cache r hp I _ hI => ?_)
      fun p a p' cache r hp virtual hm => ?_
    -- Reading the flags may change the cache, but neither its mode nor the rest of the state.
    all_goals
      cases hf : m.cache.get_flags i p with
      | error e => rw [hf] at hp; cases hp
      | ok x =>
        rw [hf] at hp
        simp only [Except.map, Except.ok.injEq, Prod.mk.injEq] at hp
        obtain ⟨-, -, rfl, rfl⟩ := hp
        first | exact hI | exact hm.get_flags hf
  | set_flags i f =>
    refine effect_of_atMem h (fun p a p' cache r hp I _ hI => ?_)
      fun p a p' cache r hp virtual hm => ?_
    all_goals
      cases hf : m.cache.set_flags i p f with
      | error e => rw [hf] at hp; cases hp
      | ok x =>
        rw [hf] at hp
        simp only [Except.map, Except.ok.injEq, Prod.mk.injEq] at hp
        obtain ⟨-, -, rfl, rfl⟩ := hp
        first | exact hI | exact hm._set_flags hf
  | assure_flags i f =>
    refine effect_of_atMem h (fun p a p' cache r hp I _ hI => ?_)
      fun p a p' cache r hp virtual hm => ?_
    all_goals
      cases hf : m.cache.assure_flags i p f with
      | error e => rw [hf] at hp; cases hp
      | ok x =>
        rw [hf] at hp
        simp only [Except.map, Except.ok.injEq, Prod.mk.injEq] at hp
        obtain ⟨-, -, rfl, rfl⟩ := hp
        first | exact hI | exact hm.assure_flags hf
  | get_u_i i => exact hread h
  | get_u_r i => exact hread h
  | is_constant_u_i i => exact @hread i (fun _ => m.cache.cache_state.is_constant_u_i i) h
  | peek i read => exact hread h
  | set_u_i i v k =>
    refine effect_of_atMem_rest
      (f := fun p => .ok ((), (m.cache.set_u_i i p v k).1, (m.cache.set_u_i i p v k).2)) h
      fun p a p' cache hp virtual hm => ?_
    obtain rfl : (m.cache.set_u_i i p v k).2 = cache := by
      simp only [Except.ok.injEq, Prod.mk.injEq] at hp
      exact hp.2.2
    exact hm.set_u_i i p v k
  | set_u_r i v k =>
    refine effect_of_atMem_rest
      (f := fun p => .ok ((), (m.cache.set_u_r i p v k).1, (m.cache.set_u_r i p v k).2)) h
      fun p a p' cache hp virtual hm => ?_
    obtain rfl : (m.cache.set_u_r i p v k).2 = cache := by
      simp only [Except.ok.injEq, Prod.mk.injEq] at hp
      exact hp.2.2
    exact hm.set_u_r i p v k
  | invalidate_cache i =>
    refine effect_of_atMem_rest (f := fun p => .ok ((), p, m.cache.invalidate i)) h
      fun p a p' cache hp virtual hm => ?_
    obtain ⟨-, rfl⟩ : _ ∧ m.cache.invalidate i = cache := by simpa using hp
    exact hm.update _
  -- All slots are forgotten at once, and the cells stay.
  | invalidate_caches =>
    obtain ⟨-, rfl⟩ := Prod.mk.inj (Except.ok.inj h)
    exact ⟨rfl, fun _ => rfl, fun _ _ hI => hI, fun _ hm => hm.set_cache_state _⟩
  | poke i update =>
    refine effect_of_atMem_rest (f := fun p => .ok ((), update.write p, m.cache)) h
      fun p a p' cache hp virtual hm => ?_
    obtain ⟨-, rfl⟩ : _ ∧ m.cache = cache := by simpa using hp
    exact hm
  | set_u_nZero i v =>
    refine effect_of_atMem_rest
      (f := fun p => .ok ((), { p with u := Mem.nZeroWord p.u v }, m.cache)) h
      fun p a p' cache hp virtual hm => ?_
    obtain ⟨-, rfl⟩ : _ ∧ m.cache = cache := by simpa using hp
    exact hm
  | c_mem i routine =>
    refine effect_of_atMem h (fun p a p' cache r hp I hk hI => ?_)
      fun p a p' cache r hp virtual hm => ?_
    all_goals
      cases hf : routine p m.rest with
      | error e => rw [hf] at hp; cases hp
      | ok x =>
        rw [hf] at hp
        simp only [Except.map, Except.ok.injEq, Prod.mk.injEq] at hp
        obtain ⟨-, -, rfl, rfl⟩ := hp
        first | exact hk p m.rest _ _ _ hI hf | exact hm.update _
  -- What the step does to the rest is up to the invariant that it keeps.
  | other step =>
    simp only [machine] at h
    cases hs : step m.rest with
    | error e => rw [hs] at h; cases h
    | ok x =>
      rw [hs] at h
      obtain ⟨-, rfl⟩ := Prod.mk.inj (Except.ok.inj h)
      exact ⟨rfl, fun _ => rfl, fun I hk hI => hk m.rest _ _ hI hs, fun _ hm => hm⟩
  | c_mems step =>
    simp only [machine] at h
    cases hs : step m.mems m.rest with
    | error e => rw [hs] at h; cases h
    | ok x =>
      rw [hs] at h
      obtain ⟨-, rfl⟩ := Prod.mk.inj (Except.ok.inj h)
      exact ⟨rfl, fun hk => absurd hk id, fun I hk hI => hk m.mems m.rest _ _ _ hI hs,
        fun _ hm => hm⟩

/-! ## The state besides the cells in another one -/

section put

variable {σ : Type} (put : ρ → σ)

/-- The machine with `put` of what is there besides the cells. -/
def Machine.mapRest (m : Machine ρ) : Machine σ := ⟨m.mems, m.nMem, m.cache, put m.rest⟩

/-- The second command does to `put r` what the first one does to `r`. -/
inductive MemCmd.Mapped : ∀ β, MemCmd ρ β → MemCmd σ β → Prop
  | mem_with_index (i) : Mapped _ (.mem_with_index i) (.mem_with_index i)
  | var_with_index (i) : Mapped _ (.var_with_index i) (.var_with_index i)
  | get_flags (i) : Mapped _ (.get_flags i) (.get_flags i)
  | set_flags (i f) : Mapped _ (.set_flags i f) (.set_flags i f)
  | assure_flags (i f) : Mapped _ (.assure_flags i f) (.assure_flags i f)
  | get_u_i (i) : Mapped _ (.get_u_i i) (.get_u_i i)
  | set_u_i (i v constant) : Mapped _ (.set_u_i i v constant) (.set_u_i i v constant)
  | get_u_r (i) : Mapped _ (.get_u_r i) (.get_u_r i)
  | set_u_r (i v constant) : Mapped _ (.set_u_r i v constant) (.set_u_r i v constant)
  | is_constant_u_i (i) : Mapped _ (.is_constant_u_i i) (.is_constant_u_i i)
  | invalidate_cache (i) : Mapped _ (.invalidate_cache i) (.invalidate_cache i)
  | invalidate_caches : Mapped _ .invalidate_caches .invalidate_caches
  | peek {α : Type} (i) (read : Mem → α) : Mapped _ (.peek i read) (.peek i read)
  | poke (i update) : Mapped _ (.poke i update) (.poke i update)
  | set_u_nZero (i v) : Mapped _ (.set_u_nZero i v) (.set_u_nZero i v)
  | c_mem {α : Type} (i) {routine : Mem → ρ → Except Exc (α × Mem × ρ)}
      {routine' : Mem → σ → Except Exc (α × Mem × σ)}
      (h : ∀ pMem r, routine' pMem (put r) =
        (routine pMem r).map fun x => (x.1, x.2.1, put x.2.2)) :
      Mapped _ (.c_mem i routine) (.c_mem i routine')
  | other {α : Type} {step : ρ → Except Exc (α × ρ)} {step' : σ → Except Exc (α × σ)}
      (h : ∀ r, step' (put r) = (step r).map fun x => (x.1, put x.2)) :
      Mapped _ (.other step) (.other step')
  | c_mems {α : Type} {step : List Mem → ρ → Except Exc (α × List Mem × ρ)}
      {step' : List Mem → σ → Except Exc (α × List Mem × σ)}
      (h : ∀ mems r, step' mems (put r) =
        (step mems r).map fun x => (x.1, x.2.1, put x.2.2)) :
      Mapped _ (.c_mems step) (.c_mems step')

variable {put}

/-- An access to a cell, with and without `put`. -/
theorem atMem_mapRest (m : Machine ρ) (i : ℕ) (f : Mem → Except Exc (α × Mem × Cache × ρ)) :
    (m.mapRest put).atMem i (fun p =>
        (f p).map fun x => (x.1, x.2.1, x.2.2.1, put x.2.2.2)) =
      (m.atMem i f).map fun x => (x.1, x.2.mapRest put) := by
  have hmems : (m.mapRest put).mems = m.mems := rfl
  unfold Machine.atMem
  rw [hmems]
  cases m.mems[i]? with
  | none => rfl
  | some p =>
    dsimp only
    cases f p with
    | error e => rfl
    | ok x => rfl

/-- A command with `put`. -/
theorem machine_mapRest {c : MemCmd ρ β} {c' : MemCmd σ β} (hc : c.Mapped put β c')
    (m : Machine ρ) :
    machine σ β c' (m.mapRest put) = (machine ρ β c m).map fun x => (x.1, x.2.mapRest put) := by
  -- A command that uses the rest of the state comes with the command that it is mapped to; no other
  -- one looks at it.
  cases hc with
  | mem_with_index i =>
    simp only [machine]
    show Except.map _ (Machine.memIndex m.mems.length m.nMem i) =
      Except.map _ (Except.map _ (Machine.memIndex m.mems.length m.nMem i))
    cases Machine.memIndex m.mems.length m.nMem i with
    | error e => rfl
    | ok k => rfl
  | var_with_index i =>
    simp only [machine]
    show Except.map _ (Machine.varIndex m.mems.length m.nMem i) =
      Except.map _ (Except.map _ (Machine.varIndex m.mems.length m.nMem i))
    cases Machine.varIndex m.mems.length m.nMem i with
    | error e => rfl
    | ok k => rfl
  | get_flags i =>
    simp only [machine]
    rw [← atMem_mapRest]
    congr 1
    funext p
    show Except.map _ (m.cache.get_flags i p) = Except.map _ (Except.map _ (m.cache.get_flags i p))
    cases m.cache.get_flags i p with
    | error e => rfl
    | ok x => rfl
  | set_flags i f =>
    simp only [machine]
    rw [← atMem_mapRest]
    congr 1
    funext p
    show Except.map _ (m.cache.set_flags i p f) =
      Except.map _ (Except.map _ (m.cache.set_flags i p f))
    cases m.cache.set_flags i p f with
    | error e => rfl
    | ok x => rfl
  | assure_flags i f =>
    simp only [machine]
    rw [← atMem_mapRest]
    congr 1
    funext p
    show Except.map _ (m.cache.assure_flags i p f) =
      Except.map _ (Except.map _ (m.cache.assure_flags i p f))
    cases m.cache.assure_flags i p f with
    | error e => rfl
    | ok x => rfl
  | @c_mem α i routine routine' h =>
    simp only [machine]
    rw [← atMem_mapRest]
    congr 1
    funext p
    show Except.map _ (routine' p (put m.rest)) = Except.map _ (Except.map _ (routine p m.rest))
    -- The C routine's effect on the rest is carried along.
    rw [h p m.rest]
    cases routine p m.rest with
    | error e => rfl
    | ok x => rfl
  | @other α step step' h =>
    simp only [machine]
    show Except.map _ (step' (put m.rest)) = Except.map _ (Except.map _ (step m.rest))
    rw [h m.rest]
    cases step m.rest with
    | error e => rfl
    | ok x => rfl
  | @c_mems α step step' h =>
    simp only [machine]
    show Except.map _ (step' m.mems (put m.rest)) = Except.map _ (Except.map _ (step m.mems m.rest))
    rw [h m.mems m.rest]
    cases step m.mems m.rest with
    | error e => rfl
    | ok x => rfl
  | invalidate_caches => rfl
  | _ =>
    simp only [machine]
    rw [← atMem_mapRest]
    rfl

end put

end effects

end SQPyte
