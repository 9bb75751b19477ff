import SQPyte.Mem.Strict

/-!
# One cell and what the cache holds of it

The relation to the cells without the cache is about all cells at once, and it needs a table of
states without a NaN and without a negative zero. Here the flags and the `u.i` of one cell are
followed, whatever the other cells are, whatever the cache holds of them, and whatever is in the
table: two states that the table takes for the same agree on everything but the floats (`Alike`).

An access leaves what is beside its cell alone, also where the cache is wrong about the cell
(`Machine.run_beside`). `Machine.At` says that it is not, and what the accesses then do to the cell
follows one by one.
-/

namespace SQPyte

open Commands

namespace CacheState

/-! ## States that differ in the floats -/

/-- The slots are the same but for the float. -/
structure Slot.Alike (a b : Slot) : Prop where
  /-- The statuses. -/
  status : a.status = b.status
  /-- The flags. -/
  flags : a.flags = b.flags
  /-- The constants. -/
  u_i : a.u_i = b.u_i

/-- A slot is like itself. -/
theorem Slot.Alike.refl (a : Slot) : a.Alike a := ⟨rfl, rfl, rfl⟩

/-- Like what is like. -/
theorem Slot.Alike.trans {a b c : Slot} (h : a.Alike b) (h' : b.Alike c) : a.Alike c :=
  ⟨h.status.trans h'.status, h.flags.trans h'.flags, h.u_i.trans h'.u_i⟩

/-- A state over `n` cells, the floats aside. -/
structure Covers (n : ℕ) (s : CacheState) : Prop where
  /-- There are flags for each cell. -/
  flags : s.all_flags.length = n
  /-- There is a status for each. -/
  states : s.cache_states.length = n
  /-- There is a constant for each. -/
  u_i : s.u_i_constants.length = n

/-- From every table, the operation makes a state over `n` cells with the slots `f`, but for the
floats. -/
def MakesAlike (n : ℕ) (m : StateM CacheTable CacheState) (f : ℕ → Slot) : Prop :=
  ∀ table, Covers n (m table).1 ∧ ∀ j, ((m table).1.slot j).Alike (f j)

section makes

variable {n i : ℕ} {s : CacheState} {f g : ℕ → Slot}

/-- The state that knows nothing has the right number of slots. -/
theorem all_unknown_covers (n : ℕ) : Covers n (all_unknown n) :=
  ⟨List.length_replicate, List.length_replicate, List.length_replicate⟩

/-- To return a state makes slots like its own. -/
theorem MakesAlike.pure (hs : Covers n s) (h : ∀ j, (s.slot j).Alike (f j)) :
    MakesAlike n (Pure.pure s) f := fun _ => ⟨hs, h⟩

/-- The state that is found in the table is like the one looked up. -/
theorem MakesAlike.unique (hs : Covers n s) (h : ∀ j, (s.slot j).Alike (f j)) :
    MakesAlike n s.unique f := by
  intro table
  unfold CacheState.unique
  cases hf : table.find? fun t => t.eq s with
  | none => exact ⟨hs, h⟩
  | some t =>
    have heq : t.eq s = true := by simpa using List.find?_some hf
    unfold eq at heq
    simp only [Bool.and_eq_true, beq_iff_eq] at heq
    obtain ⟨⟨⟨hflags, hstates⟩, hu_i⟩, -⟩ := heq
    refine ⟨⟨hflags ▸ hs.flags, hstates ▸ hs.states, hu_i ▸ hs.u_i⟩, fun j => ?_⟩
    refine Slot.Alike.trans ⟨?_, ?_, ?_⟩ (h j)
    · show t.cache_states.getD j 0 = s.cache_states.getD j 0
      rw [hstates]
    · show t.all_flags.getD j 0 = s.all_flags.getD j 0
      rw [hflags]
    · show t.u_i_constants.getD j 0 = s.u_i_constants.getD j 0
      rw [hu_i]

/-- One computation after the other. -/
theorem MakesAlike.bind {m : StateM CacheTable CacheState}
    {k : CacheState → StateM CacheTable CacheState} (hm : MakesAlike n m f)
    (hk : ∀ s', Covers n s' → (∀ j, (s'.slot j).Alike (f j)) → MakesAlike n (k s') g) :
    MakesAlike n (m >>= k) g := by
  intro table
  obtain ⟨hs', hslots⟩ := hm table
  exact hk (m table).1 hs' hslots (m table).2

/-- `change_cache_state` replaces the bits of one cell. -/
theorem change_cache_state_alike (hs : Covers n s) (hi : i < n) (h : ∀ j, (s.slot j).Alike (f j))
    (status : Status) :
    MakesAlike n (s.change_cache_state i status)
      fun j => if j = i then { f j with status := status } else f j := by
  unfold change_cache_state
  by_cases hsame : s.statusAt i = status
  · rw [if_pos hsame]
    refine MakesAlike.pure hs fun j => ?_
    split_ifs with hj
    · subst hj
      exact ⟨hsame, (h j).flags, (h j).u_i⟩
    · exact h j
  · rw [if_neg hsame]
    refine MakesAlike.unique ⟨hs.flags, by simpa using hs.states, hs.u_i⟩ fun j => ?_
    have hat : ({ s with cache_states := s.cache_states.set i status } : CacheState).statusAt j =
        if j = i then status else s.statusAt j := getD_set _ i j status 0 (hs.states ▸ hi)
    split_ifs at hat ⊢
    · exact ⟨hat, (h j).flags, (h j).u_i⟩
    · exact ⟨hat.trans (h j).status, (h j).flags, (h j).u_i⟩

/-- `change_flags` makes the flags of one cell known. -/
theorem change_flags_alike (hs : Covers n s) (hi : i < n) (new_flags : Flags) :
    MakesAlike n (s.change_flags i new_flags) fun j =>
      if j = i then
        { s.slot j with flags := new_flags, status := (s.slot j).status ||| STATE_FLAG_KNOWN }
      else s.slot j := by
  unfold change_flags
  by_cases hsame : s.is_flag_known i = true ∧ s.flagsAt i = new_flags
  · rw [if_pos hsame]
    refine MakesAlike.pure hs fun j => ?_
    split_ifs with hj
    · subst hj
      have hbit : ∀ st : Status, st &&& STATE_FLAG_KNOWN ≠ 0#4 → st = st ||| STATE_FLAG_KNOWN := by
        decide
      exact ⟨hbit _ ((Cache.is_flag_known_iff s j).mp hsame.1), hsame.2, rfl⟩
    · exact Slot.Alike.refl _
  · rw [if_neg hsame]
    refine (change_cache_state_alike hs hi (fun _ => Slot.Alike.refl _) _).bind fun s' hs' h' => ?_
    refine MakesAlike.unique ⟨by simpa using hs'.flags, hs'.states, hs'.u_i⟩ fun j => ?_
    have hat : ({ s' with all_flags := s'.all_flags.set i new_flags } : CacheState).flagsAt j =
        if j = i then new_flags else s'.flagsAt j := getD_set _ i j new_flags 0 (hs'.flags ▸ hi)
    have hj := h' j
    split_ifs at hat hj ⊢ with hji
    · subst hji
      exact ⟨hj.status, hat, hj.u_i⟩
    · exact ⟨hj.status, hat.trans hj.flags, hj.u_i⟩

/-- `set_u_i_constant` makes a constant of one integer. -/
theorem set_u_i_constant_alike (hs : Covers n s) (hi : i < n) (v : ℤ) :
    MakesAlike n (s.set_u_i_constant i v) fun j =>
      if j = i then { s.slot j with u_i := v, status := (s.slot j).status ||| 10#4 }
      else s.slot j := by
  refine (change_cache_state_alike hs hi (fun _ => Slot.Alike.refl _) _).bind fun s' hs' h' => ?_
  refine MakesAlike.unique ⟨hs'.flags, hs'.states, by simpa using hs'.u_i⟩ fun j => ?_
  have hat : ({ s' with u_i_constants := s'.u_i_constants.set i v } : CacheState).get_constant_u_i j =
      if j = i then v else s'.get_constant_u_i j := getD_set _ i j v 0 (hs'.u_i ▸ hi)
  have hj := h' j
  split_ifs at hat hj ⊢ with hji
  · subst hji
    exact ⟨hj.status, hj.flags, hat⟩
  · exact ⟨hj.status, hj.flags, hat.trans hj.u_i⟩

/-- `set_unknown` forgets one cell. -/
theorem set_unknown_alike (hs : Covers n s) (hi : i < n) :
    ∃ f : ℕ → Slot, MakesAlike n (s.set_unknown i) f ∧ (f i).status = 0 ∧
      ∀ j, j ≠ i → (f j).Alike (s.slot j) := by
  unfold set_unknown
  by_cases h : s.statusAt i ≠ 0
  · rw [if_pos h]
    refine ⟨_, (change_flags_alike hs hi 0).bind fun s' hs' h' =>
      change_cache_state_alike hs' hi h' STATE_UNKNOWN, ?_, fun j hj => ?_⟩
    · rw [if_pos rfl]
      rfl
    · rw [if_neg hj, if_neg hj]
      exact Slot.Alike.refl _
  · rw [if_neg h]
    exact ⟨s.slot, MakesAlike.pure hs fun _ => Slot.Alike.refl _, not_not.mp h,
      fun _ _ => Slot.Alike.refl _⟩

end makes

end CacheState

/-! ## The cache -/

/-- The slot's knowledge of flags and integers is all that counts if no real was written last. -/
theorem SlotRelated.alike {a b : CacheState.Slot} {c : Mem} {w : Member} (h : SlotRelated a c w)
    (hab : b.Alike a) (hw : w = .i ∨ w = .other) : SlotRelated b c w := by
  constructor
  · rw [hab.status, hab.flags]
    exact h.flags
  · rw [hab.status, hab.u_i]
    exact h.u_i
  · intro _ hr
    rcases hw with rfl | rfl <;> rcases hr with hr | hr <;> cases hr

namespace Cache

variable {n i : ℕ} {h h' : Cache} {c c' : Mem} {w : Member}

/-- A cache with states over `n` cells, which knows nothing when it is not used. -/
structure Shaped (n : ℕ) (h : Cache) : Prop where
  /-- The state to forget with. -/
  invalid : h._invalid_cache_state = CacheState.all_unknown n
  /-- There is a slot for each cell. -/
  covers : CacheState.Covers n h.cache_state
  /-- A cache that is off knows nothing. -/
  unused : h.use_cache = false → h.cache_state = CacheState.all_unknown n

/-- From `h` to `h'` the other slots stay. -/
structure Aside (n i : ℕ) (h h' : Cache) : Prop where
  /-- The cache still fits the cells. -/
  shaped : h'.Shaped n
  /-- The other slots. -/
  others : ∀ j, j ≠ i → (h'.cache_state.slot j).Alike (h.cache_state.slot j)

/-- To do nothing leaves the other cells aside. -/
theorem Shaped.aside (hg : h.Shaped n) (i : ℕ) : Aside n i h h := ⟨hg, fun _ _ => .refl _⟩

/-- Making a state the current one. Slot `i` is as made or empty. -/
theorem Shaped.update (hg : h.Shaped n) {m : StateM CacheTable CacheState}
    {f : ℕ → CacheState.Slot} (hm : CacheState.MakesAlike n m f)
    (hj : ∀ j, j ≠ i → (f j).Alike (h.cache_state.slot j)) :
    Aside n i h (h.update m) ∧ (((h.update m).cache_state.slot i).Alike (f i) ∨
      h.use_cache = false ∧ ((h.update m).cache_state.slot i).status = 0) := by
  obtain ⟨hcovers, hslots⟩ := hm h.table
  have hupd : h.update m = { h with table := (m h.table).2 }.set_cache_state (m h.table).1 := rfl
  have hcs : (h.update m).cache_state =
      if h.use_cache then (m h.table).1 else h._invalid_cache_state := by
    rw [hupd, cache_state_set_cache_state]
  have hfields : (h.update m)._invalid_cache_state = h._invalid_cache_state ∧
      (h.update m).use_cache = h.use_cache := by
    rw [hupd]
    unfold set_cache_state
    dsimp only
    split <;> exact ⟨rfl, rfl⟩
  cases huse : h.use_cache with
  | true =>
    rw [huse, if_pos rfl] at hcs
    refine ⟨⟨⟨hfields.1.trans hg.invalid, hcs ▸ hcovers, fun hu => ?_⟩, fun j hji => ?_⟩, ?_⟩
    · rw [hfields.2, huse] at hu
      cases hu
    · rw [hcs]
      exact (hslots j).trans (hj j hji)
    · rw [hcs]
      exact Or.inl (hslots i)
  | false =>
    rw [huse, if_neg Bool.false_ne_true, hg.invalid] at hcs
    refine ⟨⟨⟨hfields.1.trans hg.invalid, ?_, fun _ => hcs⟩, fun j _ => ?_⟩, Or.inr ⟨rfl, ?_⟩⟩
    · rw [hcs]
      exact CacheState.all_unknown_covers n
    · rw [hcs, hg.unused huse]
      exact .refl _
    · rw [hcs]
      exact CacheState.all_unknown_statusAt n i

/-- The flags of one slot change. -/
theorem Shaped.change_flags (hg : h.Shaped n) (hi : i < n) (f : Flags) :
    Aside n i h (h.update (h.cache_state.change_flags i f)) ∧
      (((h.update (h.cache_state.change_flags i f)).cache_state.slot i).Alike
        { h.cache_state.slot i with
          flags := f, status := (h.cache_state.slot i).status ||| STATE_FLAG_KNOWN } ∨
      h.use_cache = false ∧
        ((h.update (h.cache_state.change_flags i f)).cache_state.slot i).status = 0) := by
  have h := hg.update (i := i) (CacheState.change_flags_alike hg.covers hi f) fun j hj => by
    rw [if_neg hj]
    exact .refl _
  rw [if_pos rfl] at h
  exact h

/-- The constant of one slot changes. -/
theorem Shaped.set_u_i (hg : h.Shaped n) (hi : i < n) (v : BitVec 64) :
    Aside n i h (h.set_u_i i c v true).2 ∧
      (((h.set_u_i i c v true).2.cache_state.slot i).Alike
        { h.cache_state.slot i with
          u_i := v.toInt, status := (h.cache_state.slot i).status ||| 10#4 } ∨
      h.use_cache = false ∧ ((h.set_u_i i c v true).2.cache_state.slot i).status = 0) := by
  have h := hg.update (i := i) (CacheState.set_u_i_constant_alike hg.covers hi v.toInt) fun j hj => by
    rw [if_neg hj]
    exact .refl _
  rw [if_pos rfl] at h
  exact h

/-- One slot is forgotten. -/
theorem Shaped.invalidate (hg : h.Shaped n) (hi : i < n) :
    Aside n i h (h.invalidate i) ∧ ((h.invalidate i).cache_state.slot i).status = 0 := by
  obtain ⟨f, hm, h0, hf⟩ := CacheState.set_unknown_alike hg.covers hi
  obtain ⟨haside, hslot | hslot⟩ := hg.update hm hf
  · exact ⟨haside, hslot.status.trans h0⟩
  · exact ⟨haside, hslot.2⟩

/-- `get_flags` leaves the other slots alone, whatever is known of the cell. -/
theorem Shaped.get_flags_aside (hg : h.Shaped n) (hi : i < n) {f : Flags}
    (hget : h.get_flags i c = .ok (f, h')) : Aside n i h h' := by
  unfold Cache.get_flags at hget
  dsimp only at hget
  split_ifs at hget
  · obtain ⟨-, rfl⟩ := Prod.mk.inj (Except.ok.inj hget)
    exact hg.aside i
  · obtain ⟨-, rfl⟩ := Prod.mk.inj (Except.ok.inj hget)
    exact (hg.change_flags hi c.flags).1

/-- Setting the flags of one cell leaves the others aside. -/
theorem Shaped.set_flags_aside (hg : h.Shaped n) (hi : i < n) {newflags : Flags}
    (hset : h.set_flags i c newflags = .ok (c', h')) : Aside n i h h' := by
  unfold Cache.set_flags _set_flags at hset
  simp only [↓reduceIte] at hset
  split_ifs at hset
  · obtain ⟨-, rfl⟩ := Prod.mk.inj (Except.ok.inj hset)
    exact hg.aside i
  · obtain ⟨-, rfl⟩ := Prod.mk.inj (Except.ok.inj hset)
    exact hg.aside i
  · obtain ⟨-, rfl⟩ := Prod.mk.inj (Except.ok.inj hset)
    exact (hg.change_flags hi newflags).1

/-- Where nothing false is known of the cell, `get_flags` returns the flags in memory. -/
theorem Shaped.get_flags_eq (hg : h.Shaped n) (hi : i < n)
    (hs : SlotRelated (h.cache_state.slot i) c w) (hw : w = .i ∨ w = .other) :
    ∃ h', h.get_flags i c = .ok (c.flags, h') ∧ SlotRelated (h'.cache_state.slot i) c w := by
  unfold Cache.get_flags
  by_cases hk : h.cache_state.is_flag_known i = true
  · have hf : h.cache_state.flagsAt i = c.flags := hs.flags ((is_flag_known_iff _ _).mp hk)
    refine ⟨h, ?_, hs⟩
    simp [hk, hf]
  · refine ⟨_, if_neg hk, ?_⟩
    rcases (hg.change_flags hi c.flags).2 with hslot | hslot
    · exact (hs.know_flags c.flags).alike hslot hw
    · exact SlotRelated.of_unknown hslot.2 _ _

/-- There `set_flags` leaves the new flags in memory, also where it skips the write. -/
theorem Shaped.set_flags_eq (hg : h.Shaped n) (hi : i < n)
    (hs : SlotRelated (h.cache_state.slot i) c w) (hw : w = .i ∨ w = .other) (newflags : Flags) :
    ∃ h', h.set_flags i c newflags = .ok ({ c with flags := newflags }, h') ∧
      SlotRelated (h'.cache_state.slot i) { c with flags := newflags } w := by
  unfold Cache.set_flags _set_flags
  dsimp only
  by_cases hk : h.cache_state.is_flag_known i = true ∧ h.cache_state.flagsAt i = newflags
  · have hf : c.flags = newflags := (hs.flags ((is_flag_known_iff _ _).mp hk.1)).symm.trans hk.2
    subst hf
    exact ⟨h, by simp [hk.1, hk.2], hs⟩
  · rw [if_neg (by simpa using hk), if_pos rfl]
    rcases (hg.change_flags hi newflags).2 with hslot | ⟨huse, -⟩
    · cases huse : h.use_cache with
      | false =>
        refine ⟨h, by simp, SlotRelated.of_unknown ?_ _ _⟩
        rw [hg.unused huse]
        exact CacheState.all_unknown_statusAt n i
      | true =>
        refine ⟨_, ?_, (hs.know_flags newflags).alike hslot hw⟩
        -- The assertion after the update reads back what was recorded.
        have hbit : ∀ st : Status, (st ||| STATE_FLAG_KNOWN) &&& STATE_FLAG_KNOWN ≠ 0#4 := by decide
        have hknown : (h.update (h.cache_state.change_flags i newflags)).cache_state.is_flag_known i
            = true := by
          rw [is_flag_known_iff, hslot.status]
          exact hbit _
        have hflags : (h.update (h.cache_state.change_flags i newflags)).cache_state.flagsAt i =
            newflags := hslot.flags
        simp [hknown, hflags]
    · refine ⟨h, by simp [huse], SlotRelated.of_unknown ?_ _ _⟩
      rw [hg.unused huse]
      exact CacheState.all_unknown_statusAt n i

end Cache

/-! ## What is beside the cell -/

/-- The command reads or writes the flags or the integer of cell `i`, or invalidates it. -/
def MemCmd.OnInteger {ρ : Type} (i : ℕ) : ∀ β : Type, MemCmd ρ β → Prop
  | _, .get_flags j => j = i
  | _, .set_flags j _ => j = i
  | _, .get_u_i j => j = i
  | _, .set_u_i j _ constant => j = i ∧ constant = true
  | _, .invalidate_cache j => j = i
  | _, .other _ => True
  | _, _ => False

/-- An assertion is about no cell. -/
theorem pyAssert_onInteger {ρ : Type} (i : ℕ) (cond : Bool) :
    (pyAssert cond).All (MemCmd.OnInteger (ρ := ρ) i) := by
  unfold pyAssert throwExc SQPyte.other
  refine Prog.All.ite (Prog.All.pure ()) (Prog.All.perform ?_)
  exact trivial

namespace Machine

variable {ρ α : Type} {m m' m'' : Machine ρ} {i j : ℕ} {c : Mem} {w : Member}

/-- Away from cell `i`, the cells and the cache of `m'` are as those of `m` were. -/
structure Beside (i : ℕ) (m m' : Machine ρ) : Prop where
  /-- The cache still fits the cells. -/
  shaped : m'.cache.Shaped m'.mems.length
  /-- The number of registers. -/
  nMem : m'.nMem = m.nMem
  /-- The number of cells. -/
  length : m'.mems.length = m.mems.length
  /-- The other cells. -/
  mems : ∀ j, j ≠ i → m'.mems[j]? = m.mems[j]?
  /-- Their slots. -/
  slots : ∀ j, j ≠ i → (m'.cache.cache_state.slot j).Alike (m.cache.cache_state.slot j)

/-- To do nothing. -/
theorem Beside.refl (hs : m.cache.Shaped m.mems.length) (i : ℕ) : Beside i m m :=
  ⟨hs, rfl, rfl, fun _ _ => rfl, fun _ _ => .refl _⟩

/-- One thing beside the cell after the other. -/
theorem Beside.trans (h : Beside i m m') (h' : Beside i m' m'') : Beside i m m'' where
  shaped := h'.shaped
  nMem := h'.nMem.trans h.nMem
  length := h'.length.trans h.length
  mems j hj := (h'.mems j hj).trans (h.mems j hj)
  slots j hj := (h'.slots j hj).trans (h.slots j hj)

/-- An access that leaves the other slots alone. -/
theorem beside_of_aside {f : Mem → Except Exc (α × Mem × Cache × ρ)} {a : α}
    (hf : ∀ c a c' cache r, m.mems[i]? = some c → f c = .ok (a, c', cache, r) →
      Cache.Aside m.mems.length i m.cache cache)
    (h : m.atMem i f = .ok (a, m')) : Beside i m m' := by
  unfold atMem at h
  cases hi : m.mems[i]? with
  | none => rw [hi] at h; cases h
  | some c =>
    rw [hi] at h
    dsimp only at h
    cases hc : f c with
    | error e => rw [hc] at h; cases h
    | ok x =>
      obtain ⟨b, c', cache, r⟩ := x
      rw [hc] at h
      obtain ⟨-, rfl⟩ := Prod.mk.inj (Except.ok.inj h)
      have haside := hf c b c' cache r hi hc
      have hlength : (m.mems.set i c').length = m.mems.length := List.length_set ..
      refine ⟨?_, rfl, hlength, fun j hj => List.getElem?_set_ne hj.symm, haside.others⟩
      rw [hlength]
      exact haside.shaped

/-- A command on the flags or the integer of cell `i` leaves alone what is beside it. -/
theorem command_beside {β : Type} {c : MemCmd ρ β} (hc : MemCmd.OnInteger i β c)
    (hs : m.cache.Shaped m.mems.length) {b : β} (h : machine ρ β c m = .ok (b, m')) :
    Beside i m m' := by
  -- Each command accesses cell `i` through its own slot, and leaves the slots beside it alone.
  cases c with
  | get_flags j =>
    obtain rfl : j = i := hc
    refine beside_of_aside (fun c a c' cache r hi heq => ?_) h
    cases hget : m.cache.get_flags j c with
    | error e => rw [hget] at heq; cases heq
    | ok x =>
      rw [hget] at heq
      simp only [Except.map, Except.ok.injEq, Prod.mk.injEq] at heq
      obtain ⟨-, -, rfl, -⟩ := heq
      exact hs.get_flags_aside (List.getElem?_eq_some_iff.mp hi).1 hget
  | set_flags j f =>
    obtain rfl : j = i := hc
    refine beside_of_aside (fun c a c' cache r hi heq => ?_) h
    cases hset : m.cache.set_flags j c f with
    | error e => rw [hset] at heq; cases heq
    | ok x =>
      rw [hset] at heq
      simp only [Except.map, Except.ok.injEq, Prod.mk.injEq] at heq
      obtain ⟨-, -, rfl, -⟩ := heq
      exact hs.set_flags_aside (List.getElem?_eq_some_iff.mp hi).1 hset
  | get_u_i j =>
    obtain rfl : j = i := hc
    simp only [machine] at h
    refine beside_of_aside (fun c a c' cache r hi heq => ?_) h
    simp only [Except.ok.injEq, Prod.mk.injEq] at heq
    obtain ⟨-, -, rfl, -⟩ := heq
    exact hs.aside j
  | set_u_i j v constant =>
    obtain ⟨rfl, rfl⟩ := hc
    simp only [machine] at h
    refine beside_of_aside (fun c a c' cache r hi heq => ?_) h
    simp only [Except.ok.injEq, Prod.mk.injEq] at heq
    obtain ⟨-, -, rfl, -⟩ := heq
    exact (hs.set_u_i (List.getElem?_eq_some_iff.mp hi).1 v).1
  | invalidate_cache j =>
    obtain rfl : j = i := hc
    simp only [machine] at h
    refine beside_of_aside (fun c a c' cache r hi heq => ?_) h
    simp only [Except.ok.injEq, Prod.mk.injEq] at heq
    obtain ⟨-, -, rfl, -⟩ := heq
    exact (hs.invalidate (List.getElem?_eq_some_iff.mp hi).1).1
  | other step =>
    simp only [machine] at h
    cases hr : step m.rest with
    | error e => rw [hr] at h; cases h
    | ok x =>
      rw [hr] at h
      simp only [Except.map, Except.ok.injEq, Prod.mk.injEq] at h
      obtain ⟨-, rfl⟩ := h
      exact ⟨hs, rfl, rfl, fun _ _ => rfl, fun _ _ => .refl _⟩
  | _ => exact absurd hc id

/-- A program of such commands does. -/
theorem run_beside {p : MemM ρ α} (hp : p.All (MemCmd.OnInteger i))
    (hs : m.cache.Shaped m.mems.length) {a : α} (h : run (machine ρ) p m = .ok (a, m')) :
    Beside i m m' := by
  refine run_preserves (I := Beside i m) (fun β c hc m₁ b m₂ h₁ hstep => ?_) hp
    (Beside.refl hs i) h
  exact h₁.trans (command_beside hc h₁.shaped hstep)

/-! ## The cell itself -/

/-- Cell `i` is `c`, and the cache knows nothing false of it if `w` was written last. -/
structure At (m : Machine ρ) (i : ℕ) (c : Mem) (w : Member) : Prop where
  /-- The cache fits the cells. -/
  shaped : m.cache.Shaped m.mems.length
  /-- The cell. -/
  cell : m.mems[i]? = some c
  /-- Its slot says nothing false. -/
  slot : SlotRelated (m.cache.cache_state.slot i) c w

/-- Another cell stays what it is. -/
theorem Beside.at (h : Beside i m m') (hj : j ≠ i) (hat : m.At j c w) (hw : w = .i ∨ w = .other) :
    m'.At j c w :=
  ⟨h.shaped, (h.mems j hj).trans hat.cell, hat.slot.alike (h.slots j hj) hw⟩

/-- The cell is one of the list. -/
theorem At.lt (h : m.At i c w) : i < m.mems.length := (List.getElem?_eq_some_iff.mp h.cell).1

/-- An access that leaves its slot related to the cell. -/
theorem At.access (h : m.At i c w) {f : Mem → Except Exc (α × Mem × Cache × ρ)} {a : α} {c' : Mem}
    {cache : Cache} {w' : Member} (hf : f c = .ok (a, c', cache, m.rest))
    (haside : Cache.Aside m.mems.length i m.cache cache)
    (hs : SlotRelated (cache.cache_state.slot i) c' w') :
    ∃ m', m.atMem i f = .ok (a, m') ∧ m'.At i c' w' := by
  have hlength : (m.mems.set i c').length = m.mems.length := List.length_set ..
  unfold atMem
  rw [h.cell]
  dsimp only
  rw [hf]
  refine ⟨_, rfl, ?_, List.getElem?_set_self h.lt, hs⟩
  rw [hlength]
  exact haside.shaped

/-- Reading the flags. -/
theorem At.run_get_flags (h : m.At i c w) (hw : w = .i ∨ w = .other) :
    ∃ m', run (machine ρ) (SQPyte.get_flags i) m = .ok (c.flags, m') ∧ m'.At i c w := by
  obtain ⟨cache, hget, hs⟩ := h.shaped.get_flags_eq h.lt h.slot hw
  unfold SQPyte.get_flags
  rw [run_perform]
  exact h.access (by rw [hget]; rfl) (h.shaped.get_flags_aside h.lt hget) hs

/-- Writing the flags. -/
theorem At.run_set_flags (h : m.At i c w) (hw : w = .i ∨ w = .other) (newflags : Flags) :
    ∃ m', run (machine ρ) (SQPyte.set_flags i newflags) m = .ok ((), m') ∧
      m'.At i { c with flags := newflags } w := by
  obtain ⟨cache, hset, hs⟩ := h.shaped.set_flags_eq h.lt h.slot hw newflags
  unfold SQPyte.set_flags
  rw [run_perform]
  exact h.access (by rw [hset]; rfl) (h.shaped.set_flags_aside h.lt hset) hs

/-- Reading the integer. -/
theorem At.run_get_u_i (h : m.At i c .i) :
    run (machine ρ) (SQPyte.get_u_i i) m = .ok (c.u_i, m) := by
  unfold SQPyte.get_u_i
  rw [run_perform, machine, atMem, h.cell]
  dsimp only
  rw [Cache.get_u_i_spec h.slot (Or.inl rfl), set_self h.cell]

/-- Writing the integer. -/
theorem At.run_set_u_i (h : m.At i c w) (v : ℤ) :
    ∃ m', run (machine ρ) (SQPyte.set_u_i i v true) m = .ok ((), m') ∧
      m'.At i { c with u := BitVec.ofInt 64 v } .i := by
  obtain ⟨haside, hslot⟩ := h.shaped.set_u_i (c := c) h.lt (BitVec.ofInt 64 v)
  unfold SQPyte.set_u_i
  rw [run_perform, machine]
  refine h.access rfl haside ?_
  rcases hslot with hslot | hslot
  · exact (h.slot.constant_u_i _).alike hslot (Or.inl rfl)
  · exact SlotRelated.of_unknown hslot.2 _ _

/-- Forgetting what the cache knows of the cell. -/
theorem At.run_invalidate_cache (h : m.At i c w) :
    ∃ m', run (machine ρ) (SQPyte.invalidate_cache i) m = .ok ((), m') ∧ m'.At i c w := by
  obtain ⟨haside, h0⟩ := h.shaped.invalidate h.lt
  unfold SQPyte.invalidate_cache
  rw [run_perform, machine]
  exact h.access rfl haside (SlotRelated.of_unknown h0 _ _)

end Machine

end SQPyte
