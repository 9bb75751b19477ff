import SQPyte.Mem.Access

/-!
# The cells without the cache

`strictMachine` executes the same commands on the cells alone: there is no cache, and every access
goes to memory. In exchange it refuses what the code must not do. It keeps for each cell the member
of the union that was written last, and reading `u.i` (`u.r`) is refused unless the flags announce
an integer (a real) and no other member was written since.

`machine_follows_strict` is the refinement between the two: from related states, every command that
the strict machine does not refuse has the same effect on the cells and the same answer on both. By
`run_simulates` this holds of whole programs (`run_machine_of_strict`), so a result computed without
the cache is the result with it. The relation says of each slot of the cache what `CoherentAt` says,
with the member written last in place of the flags, and `Related.coherent` gets coherence back.
-/

namespace SQPyte

open Commands

/-- The member of a cell's union that was written last. -/
inductive Member where
  /-- `u.i`, by `set_u_i`. -/
  | i
  /-- `u.r`, by `set_u_r`. -/
  | r
  /-- Another member. -/
  | other
  /-- The cell was written by C code, and its flags say which. -/
  | foreign
deriving DecidableEq

/-- The cells of a query with the members written last. -/
structure Strict (ρ : Type) where
  /-- The cells. -/
  mems : List Mem
  /-- The member of each cell that was written last. -/
  written : ℕ → Member
  /-- The number of the last register. -/
  nMem : ℕ
  /-- Everything else. -/
  rest : ρ

namespace Strict

variable {ρ α : Type}

/-- An access to cell `i` that may change the cell. -/
def atMem (s : Strict ρ) (i : ℕ)
    (f : Mem → Member → Except (Option Exc) (α × Mem × Member × ρ)) :
    Except (Option Exc) (α × Strict ρ) :=
  match s.mems[i]? with
  | none => .error (some .index)
  | some pMem =>
    match f pMem (s.written i) with
    | .error e => .error e
    | .ok (a, pMem', written, rest) =>
      .ok (a, { s with
        mems := s.mems.set i pMem', written := Function.update s.written i written, rest := rest })

/-- A step that leaves cell `i` as it is. -/
def keep (s : Strict ρ) (a : α) (pMem : Mem) (written : Member) :
    Except (Option Exc) (α × Mem × Member × ρ) := .ok (a, pMem, written, s.rest)

end Strict

/-- The cells without the cache. -/
def strictMachine (ρ : Type) : Handler (MemCmd ρ) (Option Exc) (Strict ρ)
  | _, .mem_with_index i, s => ((Machine.memIndex s.mems.length s.nMem i).map (·, s)).mapError some
  | _, .var_with_index i, s => ((Machine.varIndex s.mems.length s.nMem i).map (·, s)).mapError some
  | _, .get_flags i, s => s.atMem i fun pMem w => .ok (pMem.flags, pMem, w, s.rest)
  | _, .set_flags i f, s => s.atMem i fun pMem w => .ok ((), { pMem with flags := f }, w, s.rest)
  | _, .assure_flags i f, s => s.atMem i fun pMem w =>
      if pMem.flags = f then .ok ((), pMem, w, s.rest) else .error none
  | _, .get_u_i i, s => s.atMem i fun pMem w =>
      if pMem.flags.has MEM_Int ∧ (w = .i ∨ w = .foreign) then .ok (pMem.u_i, pMem, w, s.rest)
      else .error none
  | _, .set_u_i i v _, s => s.atMem i fun pMem _ => .ok ((), { pMem with u := v }, .i, s.rest)
  | _, .get_u_r i, s => s.atMem i fun pMem w =>
      if pMem.flags.has MEM_Real ∧ (w = .r ∨ w = .foreign) then .ok (pMem.u_r, pMem, w, s.rest)
      else .error none
  | _, .set_u_r i v constant, s => s.atMem i fun pMem _ =>
      if constant ∧ ¬ CacheState.CanonicalFloat v then .error none
      else .ok ((), { pMem with u := v }, .r, s.rest)
  | _, .is_constant_u_i _, _ => .error none
  | _, .invalidate_cache i, s => s.atMem i fun pMem w => .ok ((), pMem, w, s.rest)
  | _, .invalidate_caches, s => .ok ((), s)
  | _, .peek i read, s => s.atMem i fun pMem w => .ok (read pMem, pMem, w, s.rest)
  | _, .poke i update, s => s.atMem i fun pMem w => .ok ((), update.write pMem, w, s.rest)
  | _, .set_u_nZero i v, s => s.atMem i fun pMem _ =>
      .ok ((), { pMem with u := Mem.nZeroWord pMem.u v }, .other, s.rest)
  | _, .c_mem i routine, s => s.atMem i fun pMem _ =>
      match routine pMem s.rest with
      | .error e => .error (some e)
      | .ok (a, pMem', rest) => .ok (a, pMem', .foreign, rest)
  | _, .other step, s =>
      match step s.rest with
      | .error e => .error (some e)
      | .ok (a, rest) => .ok (a, { s with rest := rest })
  | _, .c_mems _, _ => .error none

/-! ## The relation -/

/-- What a slot of the cache knows of a cell with the member `w` written last. -/
structure SlotRelated (slot : CacheState.Slot) (pMem : Mem) (w : Member) : Prop where
  /-- Known flags are those in memory. -/
  flags : slot.status &&& STATE_FLAG_KNOWN ≠ 0#4 → slot.flags = pMem.flags
  /-- A known `u.i` is a constant and the one in memory, unless another member was written since. -/
  u_i : slot.status &&& STATE_INT_KNOWN ≠ 0#4 → w = .i ∨ w = .foreign →
    slot.status &&& STATE_CONSTANT ≠ 0#4 ∧ slot.u_i = pMem.u_i
  /-- A known `u.r` is a constant and the one in memory, unless another member was written since. -/
  u_r : slot.status &&& STATE_FLOAT_KNOWN ≠ 0#4 → w = .r ∨ w = .foreign →
    slot.status &&& STATE_CONSTANT ≠ 0#4 ∧ slot.u_r = pMem.u_r

/-- A cache over `n` cells with canonical states. -/
structure Cache.Good (n : ℕ) (h : Cache) : Prop where
  /-- The current state is good. -/
  state : h.cache_state.Good n
  /-- The state in which nothing is known is that. -/
  invalid : h._invalid_cache_state = CacheState.all_unknown n
  /-- The table is canonical. -/
  table : CacheState.CanonicalTable h.table
  /-- Without the cache nothing is known. -/
  unused : h.use_cache = false → h.cache_state = CacheState.all_unknown n

/-- The cache knows nothing false of the cells, given the members written last. -/
structure Related {ρ : Type} (m : Machine ρ) (s : Strict ρ) : Prop where
  /-- Both have the same cells. -/
  mems : m.mems = s.mems
  /-- Both have the same registers. -/
  nMem : m.nMem = s.nMem
  /-- Both have the same rest. -/
  rest : m.rest = s.rest
  /-- The cache is good. -/
  good : m.cache.Good m.mems.length
  /-- Each slot is related to its cell. -/
  slots : ∀ i pMem, s.mems[i]? = some pMem →
    SlotRelated (m.cache.cache_state.slot i) pMem (s.written i)

/-- An empty slot is related to every cell. -/
theorem SlotRelated.of_unknown {slot : CacheState.Slot} (h : slot.status = 0) (pMem : Mem)
    (w : Member) : SlotRelated slot pMem w := by
  constructor <;> simp [h]

/-- Recording the flags a cell gets. -/
theorem SlotRelated.know_flags {slot : CacheState.Slot} {pMem : Mem} {w : Member}
    (hs : SlotRelated slot pMem w) (f : Flags) :
    SlotRelated { slot with flags := f, status := slot.status ||| STATE_FLAG_KNOWN }
      { pMem with flags := f } w := by
  have hbits : ∀ st : Status, (st ||| 1#4) &&& 2#4 = st &&& 2#4 ∧
      (st ||| 1#4) &&& 4#4 = st &&& 4#4 ∧ (st ||| 1#4) &&& 8#4 = st &&& 8#4 := by decide
  obtain ⟨h2, h4, h8⟩ := hbits slot.status
  obtain ⟨-, hi, hr⟩ := hs
  constructor
  · exact fun _ => rfl
  · simp only [STATE_FLAG_KNOWN, STATE_INT_KNOWN, STATE_CONSTANT, h2, h8]; exact hi
  · simp only [STATE_FLAG_KNOWN, STATE_FLOAT_KNOWN, STATE_CONSTANT, h4, h8]; exact hr

/-- Forgetting the integer after a write to `u.i`. -/
theorem SlotRelated.wrote_u_i {slot : CacheState.Slot} {pMem : Mem} {w : Member}
    (hs : SlotRelated slot pMem w) (v : BitVec 64) :
    SlotRelated
      { slot with status := (slot.status &&& ~~~STATE_CONSTANT) &&& ~~~STATE_INT_KNOWN }
      { pMem with u := v } .i := by
  have hbits : ∀ st : Status, ((st &&& ~~~8#4) &&& ~~~2#4) &&& 1#4 = st &&& 1#4 ∧
      ((st &&& ~~~8#4) &&& ~~~2#4) &&& 2#4 = 0#4 := by decide
  obtain ⟨h1, h2⟩ := hbits slot.status
  constructor
  · intro hk; exact hs.flags (by simpa using h1 ▸ hk)
  · intro hk; exact absurd h2 hk
  · simp

/-- Forgetting the float after a write to `u.r`. -/
theorem SlotRelated.wrote_u_r {slot : CacheState.Slot} {pMem : Mem} {w : Member}
    (hs : SlotRelated slot pMem w) (v : BitVec 64) :
    SlotRelated
      { slot with status := (slot.status &&& ~~~STATE_CONSTANT) &&& ~~~STATE_FLOAT_KNOWN }
      { pMem with u := v } .r := by
  have hbits : ∀ st : Status, ((st &&& ~~~8#4) &&& ~~~4#4) &&& 1#4 = st &&& 1#4 ∧
      ((st &&& ~~~8#4) &&& ~~~4#4) &&& 4#4 = 0#4 := by decide
  obtain ⟨h1, h4⟩ := hbits slot.status
  constructor
  · intro hk; exact hs.flags (by simpa using h1 ▸ hk)
  · simp
  · intro hk; exact absurd h4 hk

/-- Recording a constant written to `u.i`. -/
theorem SlotRelated.constant_u_i {slot : CacheState.Slot} {pMem : Mem} {w : Member}
    (hs : SlotRelated slot pMem w) (v : BitVec 64) :
    SlotRelated { slot with u_i := v.toInt, status := slot.status ||| 10#4 }
      { pMem with u := v } .i := by
  have hbits : ∀ st : Status, (st ||| 10#4) &&& 1#4 = st &&& 1#4 ∧ (st ||| 10#4) &&& 8#4 ≠ 0#4 := by
    decide
  obtain ⟨h1, h8⟩ := hbits slot.status
  constructor
  · intro hk; exact hs.flags (by simpa using h1 ▸ hk)
  · exact fun _ _ => ⟨h8, rfl⟩
  · simp

/-- Recording a constant written to `u.r`. -/
theorem SlotRelated.constant_u_r {slot : CacheState.Slot} {pMem : Mem} {w : Member}
    (hs : SlotRelated slot pMem w) (v : BitVec 64) :
    SlotRelated { slot with u_r := v, status := slot.status ||| 12#4 }
      { pMem with u := v } .r := by
  have hbits : ∀ st : Status, (st ||| 12#4) &&& 1#4 = st &&& 1#4 ∧ (st ||| 12#4) &&& 8#4 ≠ 0#4 := by
    decide
  obtain ⟨h1, h8⟩ := hbits slot.status
  constructor
  · intro hk; exact hs.flags (by simpa using h1 ▸ hk)
  · simp
  · exact fun _ _ => ⟨h8, rfl⟩

/-- A write to `u.nZero` leaves nothing to read as an integer or a real. -/
theorem SlotRelated.wrote_other {slot : CacheState.Slot} {pMem : Mem} {w : Member}
    (hs : SlotRelated slot pMem w) (v : BitVec 64) :
    SlotRelated slot { pMem with u := v } .other :=
  ⟨hs.flags, by simp, by simp⟩

/-! ## Updates of the cache -/

namespace Cache

variable {n i : ℕ} {h : Cache}

/-- What `update` leaves: a good cache with the slots that were made, or with nothing known where
the cache is not used. -/
structure Updated (n : ℕ) (h h' : Cache) (f : ℕ → CacheState.Slot) : Prop where
  /-- The new cache is good. -/
  good : h'.Good n
  /-- The mode of execution stays. -/
  jitted : h'.jitted = h.jitted
  /-- The cache stays in use, or out of use. -/
  use_cache : h'.use_cache = h.use_cache
  /-- The floats that are not constants stay. -/
  floats : h'.floats = h.floats
  /-- The slots are as made if the cache is used. -/
  slots : h.use_cache = true → ∀ j, h'.cache_state.slot j = f j
  /-- In any case a slot is as made or empty. -/
  slot_or : ∀ j, h'.cache_state.slot j = f j ∨ (h'.cache_state.slot j).status = 0

/-- A slot is updated by a computation that makes it. -/
theorem update_spec {m : StateM CacheTable CacheState} {f : ℕ → CacheState.Slot}
    (hg : h.Good n) (hm : CacheState.Makes n m f) : Updated n h (h.update m) f := by
  obtain ⟨s', table', heq, hs', ht', hf⟩ := hm h.table hg.table
  have hupd : h.update m = { h with table := table' }.set_cache_state s' := by
    unfold update; rw [heq]
  have hcs : (h.update m).cache_state = if h.use_cache then s' else h._invalid_cache_state := by
    rw [hupd, cache_state_set_cache_state]
  have hfields : (h.update m)._invalid_cache_state = h._invalid_cache_state ∧
      (h.update m).jitted = h.jitted ∧ (h.update m).table = table' ∧
      (h.update m).use_cache = h.use_cache ∧ (h.update m).floats = h.floats := by
    rw [hupd]; unfold set_cache_state; dsimp only; split <;> exact ⟨rfl, rfl, rfl, rfl, rfl⟩
  refine ⟨⟨?_, hfields.1.trans hg.invalid, hfields.2.2.1 ▸ ht', ?_⟩, hfields.2.1,
    hfields.2.2.2.1, hfields.2.2.2.2, ?_, ?_⟩
  · rw [hcs]
    split
    · exact hs'
    · rw [hg.invalid]; exact CacheState.all_unknown_good n
  · intro huse
    rw [hcs, ← hfields.2.2.2.1, huse, if_neg (by simp), hg.invalid]
  · intro huse j
    rw [hcs, if_pos huse]; exact hf j
  · intro j
    rw [hcs]
    split
    · exact Or.inl (hf j)
    · right; rw [hg.invalid]; exact CacheState.all_unknown_statusAt n j

/-- An update that keeps the other slots, and leaves slot `i` related to the cell. -/
structure Touches (n i : ℕ) (h h' : Cache) (pMem : Mem) (w : Member) : Prop where
  /-- The new cache is good. -/
  good : h'.Good n
  /-- Slot `i` is related to the cell. -/
  slot : SlotRelated (h'.cache_state.slot i) pMem w
  /-- The other slots stay. -/
  others : ∀ j, j ≠ i → h'.cache_state.slot j = h.cache_state.slot j
  /-- The floats that are not constants stay. -/
  floats : h'.floats = h.floats

/-- An update of the slot of one cell. -/
theorem Updated.touches {h' : Cache} {f : ℕ → CacheState.Slot} {pMem : Mem} {w : Member}
    (hg : h.Good n) (hu : Updated n h h' f) (hi : SlotRelated (f i) pMem w)
    (hj : ∀ j, j ≠ i → f j = h.cache_state.slot j) : Touches n i h h' pMem w := by
  refine ⟨hu.good, ?_, fun j hji => ?_, hu.floats⟩
  · rcases hu.slot_or i with heq | h0
    · rw [heq]; exact hi
    · exact SlotRelated.of_unknown h0 _ _
  · cases huse : h.use_cache with
    | true => rw [hu.slots huse, hj j hji]
    | false => rw [hu.good.unused (hu.use_cache.trans huse), hg.unused huse]

/-! ## The accesses, one by one -/

/-- To do nothing. -/
theorem Touches.refl {pMem : Mem} {w : Member} (hg : h.Good n)
    (hs : SlotRelated (h.cache_state.slot i) pMem w) : Touches n i h h pMem w :=
  ⟨hg, hs, fun _ _ => rfl, rfl⟩

/-- Flags are known exactly if their bit is set. -/
theorem is_flag_known_iff (s : CacheState) (i : ℕ) :
    s.is_flag_known i = true ↔ (s.slot i).status &&& STATE_FLAG_KNOWN ≠ 0#4 := by
  simp [CacheState.is_flag_known, CacheState.slot]

variable {pMem : Mem} {w : Member}

/-- The cache answers with the flags of the cell. -/
theorem get_flags_spec (hg : h.Good n) (hi : i < n)
    (hs : SlotRelated (h.cache_state.slot i) pMem w) :
    ∃ h', h.get_flags i pMem = .ok (pMem.flags, h') ∧ Touches n i h h' pMem w := by
  unfold get_flags
  by_cases hk : h.cache_state.is_flag_known i = true
  · have hf : h.cache_state.flagsAt i = pMem.flags := hs.flags ((is_flag_known_iff _ _).mp hk)
    refine ⟨h, ?_, Touches.refl hg hs⟩
    simp [hk, hf]
  · refine ⟨_, if_neg hk, ?_⟩
    refine (update_spec hg (CacheState.change_flags_makes hg.state hi pMem.flags)).touches hg ?_
      fun j hj => if_neg hj
    rw [if_pos rfl]
    exact hs.know_flags pMem.flags

/-- What `get_u_r` returns depends on the slot and the floats only. -/
theorem get_u_r_congr {h h' : Cache} (i : ℕ) (c : Mem)
    (hk : (h'.cache_state.slot i).status &&& STATE_FLOAT_KNOWN =
      (h.cache_state.slot i).status &&& STATE_FLOAT_KNOWN)
    (hc : (h'.cache_state.slot i).status &&& STATE_CONSTANT =
      (h.cache_state.slot i).status &&& STATE_CONSTANT)
    (hr : (h'.cache_state.slot i).u_r = (h.cache_state.slot i).u_r) (hf : h'.floats = h.floats) :
    h'.get_u_r i c = h.get_u_r i c := by
  unfold get_u_r CacheState.is_constant_u_r CacheState.is_u_r_known
  dsimp only [CacheState.slot] at hk hc hr ⊢
  rw [hk, hc, hr, hf]

/-- Reading the flags does not change what is known of `u.r`. -/
theorem get_flags_get_u_r (hg : h.Good n) (hi : i < n) {f : Flags} {h' : Cache}
    (heq : h.get_flags i pMem = .ok (f, h')) (c : Mem) : h'.get_u_r i c = h.get_u_r i c := by
  unfold get_flags at heq
  dsimp only at heq
  split_ifs at heq with hk hj
  · obtain ⟨rfl, rfl⟩ := Prod.mk.inj (Except.ok.inj heq)
    rfl
  · obtain ⟨rfl, rfl⟩ := Prod.mk.inj (Except.ok.inj heq)
    have hu := update_spec hg (CacheState.change_flags_makes hg.state hi pMem.flags)
    cases huse : h.use_cache with
    | true =>
      have hbits : ∀ st : Status, (st ||| 1#4) &&& 4#4 = st &&& 4#4 ∧
          (st ||| 1#4) &&& 8#4 = st &&& 8#4 := by
        decide
      have hslot := hu.slots huse i
      rw [if_pos rfl] at hslot
      refine get_u_r_congr i c ?_ ?_ ?_ hu.floats <;> rw [hslot]
      · exact (hbits _).1
      · exact (hbits _).2
    | false =>
      have hcs := hu.good.unused (hu.use_cache.trans huse)
      refine get_u_r_congr i c ?_ ?_ ?_ hu.floats <;> rw [hcs, hg.unused huse]

/-- The flags that are set are those of the cell afterwards. -/
theorem _set_flags_spec (hg : h.Good n) (hi : i < n)
    (hs : SlotRelated (h.cache_state.slot i) pMem w) (newflags : Flags) (needs_write : Bool)
    (hw : needs_write = false → pMem.flags = newflags) :
    ∃ h', h._set_flags i pMem newflags needs_write = .ok ({ pMem with flags := newflags }, h') ∧
      Touches n i h h' { pMem with flags := newflags } w := by
  unfold _set_flags
  dsimp only
  by_cases hk : h.cache_state.is_flag_known i = true ∧ h.cache_state.flagsAt i = newflags
  · -- The cell has these flags already.
    have hf : pMem.flags = newflags :=
      (hs.flags ((is_flag_known_iff _ _).mp hk.1)).symm.trans hk.2
    subst hf
    exact ⟨h, by simp [hk.1, hk.2], Touches.refl hg hs⟩
  · have hmem : (if needs_write = true then { pMem with flags := newflags } else pMem) =
        { pMem with flags := newflags } := by
      cases needs_write with
      | true => rfl
      | false => rw [← hw rfl]; rfl
    rw [if_neg (by simpa using hk), hmem]
    by_cases huse : h.use_cache = true
    · have hu := update_spec hg (CacheState.change_flags_makes hg.state hi newflags)
      have hslot := hu.slots huse i
      rw [if_pos rfl] at hslot
      refine ⟨h.update (h.cache_state.change_flags i newflags), ?_,
        hu.touches hg (by rw [if_pos rfl]; exact hs.know_flags newflags) fun j hj => if_neg hj⟩
      have hknown : (h.update (h.cache_state.change_flags i newflags)).cache_state.is_flag_known i
          = true := by
        have hbit : ∀ st : Status, (st ||| 1#4) &&& 1#4 ≠ 0#4 := by decide
        rw [is_flag_known_iff, hslot]
        exact hbit _
      have hflags : (h.update (h.cache_state.change_flags i newflags)).cache_state.flagsAt i =
          newflags := congrArg CacheState.Slot.flags hslot
      simp [huse, hknown, hflags]
    · simp only [Bool.not_eq_true] at huse
      refine ⟨h, by simp [huse], hg, SlotRelated.of_unknown ?_ _ _, fun _ _ => rfl, rfl⟩
      rw [hg.unused huse]; exact CacheState.all_unknown_statusAt n i

/-- The cache answers with the integer of the cell. -/
theorem get_u_i_spec (hs : SlotRelated (h.cache_state.slot i) pMem w)
    (hw : w = .i ∨ w = .foreign) : h.get_u_i i pMem = pMem.u_i := by
  unfold get_u_i
  by_cases hk : h.cache_state.is_u_i_known i = true
  · obtain ⟨hc, hv⟩ := hs.u_i (by simpa [CacheState.is_u_i_known, CacheState.slot] using hk) hw
    have hconst : h.cache_state.is_constant_u_i i = true := by
      simp only [CacheState.is_constant_u_i, hk, Bool.true_and]
      simpa [CacheState.slot] using hc
    rw [if_pos hconst]; exact hv
  · rw [if_neg (by simp [CacheState.is_constant_u_i, hk]), if_neg hk]

/-- The cache answers with the real of the cell. -/
theorem get_u_r_spec (hs : SlotRelated (h.cache_state.slot i) pMem w)
    (hw : w = .r ∨ w = .foreign) : h.get_u_r i pMem = pMem.u_r := by
  unfold get_u_r
  by_cases hk : h.cache_state.is_u_r_known i = true
  · obtain ⟨hc, hv⟩ := hs.u_r (by simpa [CacheState.is_u_r_known, CacheState.slot] using hk) hw
    have hconst : h.cache_state.is_constant_u_r i = true := by
      simp only [CacheState.is_constant_u_r, hk, Bool.true_and]
      simpa [CacheState.slot] using hc
    rw [if_pos hconst]; exact hv
  · rw [if_neg (by simp [CacheState.is_constant_u_r, hk]), if_neg hk]

/-- The integer that is set is the one of the cell afterwards. -/
theorem set_u_i_spec (hg : h.Good n) (hi : i < n)
    (hs : SlotRelated (h.cache_state.slot i) pMem w) (v : BitVec 64) (constant : Bool) :
    ∃ h', h.set_u_i i pMem v constant = ({ pMem with u := v }, h') ∧
      Touches n i h h' { pMem with u := v } .i := by
  unfold set_u_i
  cases constant with
  | false =>
    refine ⟨_, rfl, (update_spec hg (CacheState.change_cache_state_makes hg.state hi _)).touches hg ?_
      fun j hj => if_neg hj⟩
    rw [if_pos rfl]
    exact hs.wrote_u_i v
  | true =>
    refine ⟨_, rfl, (update_spec hg (CacheState.set_u_i_constant_makes hg.state hi _)).touches hg ?_
      fun j hj => if_neg hj⟩
    rw [if_pos rfl]
    exact hs.constant_u_i v

/-- The real that is set is the one of the cell afterwards. -/
theorem set_u_r_spec (hg : h.Good n) (hi : i < n)
    (hs : SlotRelated (h.cache_state.slot i) pMem w) (v : Binary64) (constant : Bool)
    (hv : constant = true → CacheState.CanonicalFloat v) :
    ∃ h', h.set_u_r i pMem v constant = ({ pMem with u := v }, h') ∧
      Touches n i h h' { pMem with u := v } .r := by
  unfold set_u_r
  cases constant with
  | false =>
    refine ⟨_, rfl, (update_spec hg (CacheState.change_cache_state_makes hg.state hi _)).touches hg ?_
      fun j hj => if_neg hj⟩
    rw [if_pos rfl]
    exact hs.wrote_u_r v
  | true =>
    refine ⟨_, rfl, (update_spec hg
      (CacheState.set_u_r_constant_makes hg.state hi (hv rfl))).touches hg ?_ fun j hj => if_neg hj⟩
    rw [if_pos rfl]
    exact hs.constant_u_r v

/-- After `invalidate` the slot says nothing, which is never false. -/
theorem invalidate_spec (hg : h.Good n) (hi : i < n) (pMem : Mem) (w : Member) :
    Touches n i h (h.invalidate i) pMem w := by
  obtain ⟨f, hm, h0, hf⟩ := CacheState.set_unknown_makes hg.state hi
  exact (update_spec hg hm).touches hg (SlotRelated.of_unknown h0 _ _) hf

/-- After `invalidate_all` no slot says anything. -/
theorem invalidate_all_spec (hg : h.Good n) :
    h.invalidate_all.Good n ∧ h.invalidate_all.cache_state = CacheState.all_unknown n := by
  have hcs : h.invalidate_all.cache_state = CacheState.all_unknown n := by
    unfold invalidate_all
    rw [cache_state_set_cache_state, hg.invalid, ite_self]
  have hfields : h.invalidate_all._invalid_cache_state = h._invalid_cache_state ∧
      h.invalidate_all.table = h.table := by
    unfold invalidate_all set_cache_state
    dsimp only
    split <;> exact ⟨rfl, rfl⟩
  exact ⟨⟨hcs ▸ CacheState.all_unknown_good n, hfields.1.trans hg.invalid, hfields.2 ▸ hg.table,
    fun _ => hcs⟩, hcs⟩

end Cache

/-! ## The refinement -/

section refinement

variable {ρ α : Type} {m : Machine ρ} {s : Strict ρ}

/-- An access follows its strict counterpart if it leaves the same cell and a cache that was touched
at this slot only. -/
theorem atMem_follows {i : ℕ} {f : Mem → Except Exc (α × Mem × Cache × ρ)}
    {g : Mem → Member → Except (Option Exc) (α × Mem × Member × ρ)} (hR : Related m s)
    (hfg : ∀ pMem, i < m.mems.length →
      SlotRelated (m.cache.cache_state.slot i) pMem (s.written i) →
      match g pMem (s.written i) with
      | .ok (a, pMem', w', rest) => ∃ cache', f pMem = .ok (a, pMem', cache', rest) ∧
          Cache.Touches m.mems.length i m.cache cache' pMem' w'
      | .error (some e) => f pMem = .error e
      | .error none => True) :
    Follows Related (m.atMem i f) (s.atMem i g) := by
  unfold Machine.atMem Strict.atMem
  rw [hR.mems]
  cases hi : s.mems[i]? with
  | none => exact rfl
  | some pMem =>
    have hlt : i < s.mems.length := (List.getElem?_eq_some_iff.mp hi).1
    have h := hfg pMem (hR.mems ▸ hlt) (hR.slots i pMem hi)
    dsimp only
    cases hg : g pMem (s.written i) with
    | error e =>
      rw [hg] at h
      cases e with
      | none => exact trivial
      | some e => simp only [Follows] at h ⊢; rw [h]
    | ok r =>
      obtain ⟨a, pMem', w', rest⟩ := r
      rw [hg] at h
      obtain ⟨cache', hf, hgood, hslot, hother, -⟩ := h
      rw [hf]
      refine ⟨_, rfl, rfl, hR.nMem, rfl, by simpa [hR.mems] using hgood, ?_⟩
      intro j pMemj hj
      by_cases hji : j = i
      · subst hji
        have : pMem' = pMemj := by simpa [hlt] using hj
        subst this
        simpa using hslot
      · have hj' : s.mems[j]? = some pMemj := by simpa [List.getElem?_set_ne (Ne.symm hji)] using hj
        show SlotRelated (cache'.cache_state.slot j) pMemj (Function.update s.written i w' j)
        rw [Function.update_of_ne hji]
        rw [hother j hji]
        exact hR.slots j pMemj hj'

/-- A step that reads nothing but the number of cells. -/
theorem index_follows {r : Except Exc ℕ} (hR : Related m s) :
    Follows Related (r.map (·, m)) ((r.map (·, s)).mapError some) := by
  cases r with
  | error e => exact rfl
  | ok k => exact ⟨m, rfl, hR⟩

/-- The machine with the cache follows the one without. -/
theorem machine_follows_strict (ρ : Type) : Simulates Related (machine ρ) (strictMachine ρ) := by
  intro β c m s hR
  have hgood := hR.good
  cases c with
  | mem_with_index i =>
    show Follows Related ((Machine.memIndex m.mems.length m.nMem i).map (·, m))
      (((Machine.memIndex s.mems.length s.nMem i).map (·, s)).mapError some)
    rw [hR.mems, hR.nMem]; exact index_follows hR
  | var_with_index i =>
    show Follows Related ((Machine.varIndex m.mems.length m.nMem i).map (·, m))
      (((Machine.varIndex s.mems.length s.nMem i).map (·, s)).mapError some)
    rw [hR.mems, hR.nMem]; exact index_follows hR
  | get_flags i =>
    simp only [machine, strictMachine]
    refine atMem_follows hR fun pMem hi hslot => ?_
    obtain ⟨h', heq, ht⟩ := Cache.get_flags_spec hgood hi hslot
    exact ⟨h', by rw [heq, ← hR.rest]; rfl, ht⟩
  | set_flags i f =>
    simp only [machine, strictMachine]
    refine atMem_follows hR fun pMem hi hslot => ?_
    obtain ⟨h', heq, ht⟩ := Cache._set_flags_spec hgood hi hslot f true (by simp)
    exact ⟨h', by rw [Cache.set_flags, heq, ← hR.rest]; rfl, ht⟩
  | assure_flags i f =>
    simp only [machine, strictMachine]
    refine atMem_follows hR fun pMem hi hslot => ?_
    -- The strict machine allows the call only when the flags are already `f`, so nothing is
    -- written.
    by_cases hf : pMem.flags = f
    · obtain ⟨h', heq, ht⟩ := Cache._set_flags_spec hgood hi hslot f false fun _ => hf
      rw [if_pos hf]
      subst hf
      refine ⟨h', ?_, ht⟩
      rw [Cache.assure_flags, heq, ← hR.rest]; simp [Except.map]
    · rw [if_neg hf]; exact trivial
  | get_u_i i =>
    simp only [machine, strictMachine]
    refine atMem_follows hR fun pMem hi hslot => ?_
    -- A value that is not the cell's integer may have been read from the cache, so it is an error.
    by_cases hw : pMem.flags.has MEM_Int = true ∧ (s.written i = .i ∨ s.written i = .foreign)
    · rw [if_pos hw]
      exact ⟨m.cache, by rw [Cache.get_u_i_spec hslot hw.2, ← hR.rest], Cache.Touches.refl hgood hslot⟩
    · rw [if_neg hw]; exact trivial
  | set_u_i i v constant =>
    simp only [machine, strictMachine]
    refine atMem_follows hR fun pMem hi hslot => ?_
    obtain ⟨h', heq, ht⟩ := Cache.set_u_i_spec hgood hi hslot v constant
    exact ⟨h', by rw [heq, ← hR.rest], ht⟩
  | get_u_r i =>
    simp only [machine, strictMachine]
    refine atMem_follows hR fun pMem hi hslot => ?_
    -- As for the integer.
    by_cases hw : pMem.flags.has MEM_Real = true ∧ (s.written i = .r ∨ s.written i = .foreign)
    · rw [if_pos hw]
      exact ⟨m.cache, by rw [Cache.get_u_r_spec hslot hw.2, ← hR.rest], Cache.Touches.refl hgood hslot⟩
    · rw [if_neg hw]; exact trivial
  | set_u_r i v constant =>
    simp only [machine, strictMachine]
    refine atMem_follows hR fun pMem hi hslot => ?_
    -- A constant that does not survive the cache's canonical form is refused.
    by_cases hv : constant = true ∧ ¬ CacheState.CanonicalFloat v
    · rw [if_pos hv]; exact trivial
    · rw [if_neg hv]
      obtain ⟨h', heq, ht⟩ := Cache.set_u_r_spec hgood hi hslot v constant (by tauto)
      exact ⟨h', by rw [heq, ← hR.rest], ht⟩
  | is_constant_u_i i => exact trivial
  | invalidate_cache i =>
    simp only [machine, strictMachine]
    refine atMem_follows hR fun pMem hi hslot => ?_
    exact ⟨_, by rw [← hR.rest], Cache.invalidate_spec hgood hi pMem _⟩
  | invalidate_caches =>
    obtain ⟨hg', hcs⟩ := Cache.invalidate_all_spec hgood
    refine ⟨_, rfl, hR.mems, hR.nMem, hR.rest, hg', fun i pMem _ => ?_⟩
    -- No slot knows anything any more.
    refine SlotRelated.of_unknown ?_ _ _
    show m.cache.invalidate_all.cache_state.statusAt i = 0
    rw [hcs, CacheState.all_unknown_statusAt]
  | peek i read =>
    simp only [machine, strictMachine]
    refine atMem_follows hR fun pMem hi hslot => ?_
    exact ⟨m.cache, by rw [← hR.rest], Cache.Touches.refl hgood hslot⟩
  | poke i update =>
    simp only [machine, strictMachine]
    refine atMem_follows hR fun pMem hi hslot => ?_
    -- A poke leaves the flags and the union alone, which is all that the cache holds.
    refine ⟨m.cache, by rw [← hR.rest], Cache.Touches.refl hgood ⟨?_, ?_, ?_⟩⟩
    · rw [update.flags_eq]; exact hslot.flags
    · unfold Mem.u_i; rw [update.u_eq]; exact hslot.u_i
    · unfold Mem.u_r; rw [update.u_eq]; exact hslot.u_r
  | set_u_nZero i v =>
    simp only [machine, strictMachine]
    refine atMem_follows hR fun pMem hi hslot => ?_
    exact ⟨m.cache, by rw [← hR.rest], Cache.Touches.refl hgood (hslot.wrote_other _)⟩
  | c_mem i routine =>
    simp only [machine, strictMachine]
    refine atMem_follows hR fun pMem hi hslot => ?_
    -- The C routine may write any field, and the cell's slot is forgotten after it.
    rw [← hR.rest]
    cases hr : routine pMem m.rest with
    | error e => exact rfl
    | ok r =>
      obtain ⟨a, pMem', rest⟩ := r
      exact ⟨_, rfl, Cache.invalidate_spec hgood hi pMem' _⟩
  | other step =>
    show Follows Related ((step m.rest).map _) (match step s.rest with
      | .error e => .error (some e)
      | .ok (a, rest) => .ok (a, { s with rest := rest }))
    rw [← hR.rest]
    cases hr : step m.rest with
    | error e => exact rfl
    | ok r => exact ⟨_, rfl, hR.mems, hR.nMem, rfl, hR.good, hR.slots⟩
  | c_mems step => exact trivial

/-- A program that returns on the cells alone returns the same, with the same cells, through the
cache. -/
theorem run_machine_of_strict {p : MemM ρ α} {a : α} {s' : Strict ρ} (hR : Related m s)
    (h : run (strictMachine ρ) p s = .ok (a, s')) :
    ∃ m', run (machine ρ) p m = .ok (a, m') ∧ Related m' s' := by
  have := run_simulates (machine_follows_strict ρ) p m s hR
  rw [h] at this
  exact this

/-- A program that raises an exception on the cells alone raises it through the cache. -/
theorem run_machine_of_strict_error {p : MemM ρ α} {e : Exc} (hR : Related m s)
    (h : run (strictMachine ρ) p s = .error (some e)) :
    run (machine ρ) p m = .error e := by
  have := run_simulates (machine_follows_strict ρ) p m s hR
  rw [h] at this
  exact this

end refinement

/-- A run through the cache: the answer, with the cells and the state outside them that it leaves. -/
def execute {ρ α : Type} (p : MemM ρ α) (m : Machine ρ) : Except Exc (α × List Mem × ρ) :=
  (run (machine ρ) p m).map fun x => (x.1, x.2.mems, x.2.rest)

/-- A run through the cache leaves the cells that the run on the cells alone leaves. -/
theorem execute_of_strict {ρ α : Type} {m : Machine ρ} {s s' : Strict ρ} {p : MemM ρ α} {a : α}
    (hR : Related m s) (h : run (strictMachine ρ) p s = .ok (a, s')) :
    execute p m = .ok (a, s'.mems, s'.rest) := by
  obtain ⟨m', hrun, hR'⟩ := run_machine_of_strict hR h
  unfold execute
  rw [hrun]
  simp only [Except.map, hR'.mems, hR'.rest]

/-- What raises on the strict machine raises with the cache. -/
theorem execute_of_strict_error {ρ α : Type} {m : Machine ρ} {s : Strict ρ} {p : MemM ρ α} {e : Exc}
    (hR : Related m s) (h : run (strictMachine ρ) p s = .error (some e)) :
    execute p m = .error e := by
  unfold execute
  rw [run_machine_of_strict_error hR h]
  rfl

/-! ## Sound machines -/

/-- The member written last is the one the flags of the cell announce. -/
def Announces (pMem : Mem) (w : Member) : Prop :=
  (pMem.flags.has MEM_Int = true → w = .i ∨ w = .foreign) ∧
    (pMem.flags.has MEM_Real = true → w = .r ∨ w = .foreign)

namespace Machine

variable {ρ : Type} {m : Machine ρ}

/-- The cells of a machine, with the members `written`. -/
def strict (m : Machine ρ) (written : ℕ → Member) : Strict ρ := ⟨m.mems, written, m.nMem, m.rest⟩

/-- The cache knows nothing false: it is related to the cells for some history of writes that agrees
with the flags. -/
def Sound (m : Machine ρ) : Prop :=
  ∃ written, Related m (m.strict written) ∧
    ∀ i pMem, m.mems[i]? = some pMem → Announces pMem (written i)

/-- A sound machine has a coherent cache. -/
theorem Sound.coherent (h : m.Sound) : m.cache.Coherent m.mems := by
  obtain ⟨written, hR, hann⟩ := h
  intro i pMem hi
  have hs := hR.slots i pMem hi
  obtain ⟨hint, hreal⟩ := hann i pMem hi
  refine ⟨fun hk => hs.flags ((Cache.is_flag_known_iff _ _).mp hk), fun _ _ hf => ?_,
    fun _ _ hf => ?_⟩
  · exact Cache.get_u_i_spec hs (hint hf)
  · exact Cache.get_u_r_spec hs (hreal hf)

/-- A machine related to cells that all announce the member written last is sound. -/
theorem Sound.of_related {s : Strict ρ} (hR : Related m s)
    (hann : ∀ i pMem, s.mems[i]? = some pMem → Announces pMem (s.written i)) : m.Sound :=
  ⟨s.written, ⟨rfl, rfl, rfl, hR.good, fun i pMem hi => hR.slots i pMem (hR.mems ▸ hi)⟩,
    fun i pMem hi => hann i pMem (hR.mems ▸ hi)⟩

/-- A machine whose cache knows nothing is sound, whatever its cells hold. -/
theorem Sound.of_unknown (hg : m.cache.Good m.mems.length)
    (h : m.cache.cache_state = CacheState.all_unknown m.mems.length) : m.Sound := by
  refine ⟨fun _ => .foreign, ⟨rfl, rfl, rfl, hg, fun i pMem _ => ?_⟩, fun _ _ _ => ?_⟩
  · refine SlotRelated.of_unknown ?_ _ _
    show m.cache.cache_state.statusAt i = 0
    rw [h, CacheState.all_unknown_statusAt]
  · exact ⟨fun _ => Or.inr rfl, fun _ => Or.inr rfl⟩

/-- A query before its first call: the cache knows nothing and the table is empty. -/
def fresh (mems : List Mem) (nMem : ℕ) (rest : ρ) : Machine ρ where
  mems := mems
  nMem := nMem
  cache := { CacheHolder.init mems.length true with table := [], jitted := true }
  rest := rest

/-- A fresh machine is sound. -/
theorem Sound.fresh (mems : List Mem) (nMem : ℕ) (rest : ρ) : (fresh mems nMem rest).Sound := by
  refine Sound.of_unknown ⟨CacheState.all_unknown_good _, rfl, ?_, fun _ => rfl⟩ rfl
  intro s hs
  simp [Machine.fresh] at hs

end Machine

/-! ## Running on the cells -/

namespace Strict

variable {ρ α : Type} {s : Strict ρ} {i j : ℕ} {c c' : Mem} {w w' : Member}

/-- Cell `i` is `c`, with the member `w` written last. -/
def At (s : Strict ρ) (i : ℕ) (c : Mem) (w : Member) : Prop := s.mems[i]? = some c ∧ s.written i = w

/-- The state with cell `i` replaced. -/
def setMem (s : Strict ρ) (i : ℕ) (c : Mem) (w : Member) : Strict ρ :=
  { s with mems := s.mems.set i c, written := Function.update s.written i w }

/-- The cell is one of the list. -/
theorem At.lt (h : s.At i c w) : i < s.mems.length := (List.getElem?_eq_some_iff.mp h.1).1

/-- There is one cell at an index. -/
theorem At.unique (h : s.At i c w) (h' : s.At i c' w') : c = c' ∧ w = w' :=
  ⟨Option.some.inj (h.1.symm.trans h'.1), h.2.symm.trans h'.2⟩

/-- Writing back what is there changes nothing. -/
theorem At.setMem_self (h : s.At i c w) : s.setMem i c w = s := by
  unfold setMem
  rw [set_self h.1, ← h.2, Function.update_eq_self]

/-- The cell that was set is there. -/
theorem At.setMem (h : s.At i c w) (c' : Mem) (w' : Member) : (s.setMem i c' w').At i c' w' :=
  ⟨List.getElem?_set_self h.lt, Function.update_self _ _ _⟩

/-- The other cells are as before. -/
theorem At.setMem_ne (h : s.At j c w) (hij : i ≠ j) (c' : Mem) (w' : Member) :
    (s.setMem i c' w').At j c w :=
  ⟨by rw [show (s.setMem i c' w').mems = s.mems.set i c' from rfl, List.getElem?_set_ne hij]
      exact h.1,
    (Function.update_of_ne hij.symm _ _).trans h.2⟩

/-- The last of two writes to a cell counts. -/
@[simp] theorem setMem_setMem (c c' : Mem) (w w' : Member) :
    (s.setMem i c w).setMem i c' w' = s.setMem i c' w' := by
  unfold setMem
  rw [List.set_set, Function.update_idem]

/-- The member written last is the one the flags announce, in every cell. -/
def Announced (s : Strict ρ) : Prop := ∀ i c, s.mems[i]? = some c → Announces c (s.written i)

/-- A cell that announces its union can be set. -/
theorem Announced.setMem (h : s.Announced) {c' : Mem} {w' : Member} (ha : Announces c' w') (i : ℕ) :
    (s.setMem i c' w').Announced := by
  intro j d hj
  unfold Strict.setMem at hj ⊢
  dsimp only at hj ⊢
  by_cases hij : i = j
  · subst hij
    obtain ⟨hlt, hget⟩ := List.getElem?_eq_some_iff.mp hj
    rw [List.length_set] at hlt
    rw [List.getElem_set_self] at hget
    rw [Function.update_self, ← hget]
    exact ha
  · rw [List.getElem?_set_ne hij] at hj
    rw [Function.update_of_ne (Ne.symm hij)]
    exact h j d hj

/-- An access to a cell. -/
theorem At.atMem_ok (h : s.At i c w) {f} {a : α} {c' : Mem} {w' : Member} {r : ρ}
    (hf : f c w = .ok (a, c', w', r)) :
    s.atMem i f = .ok (a, { s.setMem i c' w' with rest := r }) := by
  unfold atMem
  rw [h.1]
  dsimp only
  rw [h.2, hf]
  rfl

/-- A command that is an access to the cell. -/
theorem At.run_access (h : s.At i c w) {cmd : MemCmd ρ α} {f} {a : α} {c' : Mem} {w' : Member}
    {r : ρ} (hcmd : strictMachine ρ α cmd s = s.atMem i f) (hf : f c w = .ok (a, c', w', r)) :
    run (strictMachine ρ) (Prog.perform cmd) s =
      .ok (a, { s.setMem i c' w' with rest := r }) := by
  rw [run_perform, hcmd, h.atMem_ok hf]

/-- A command that only reads the cell. -/
theorem At.run_read (h : s.At i c w) {cmd : MemCmd ρ α} {f} {a : α}
    (hcmd : strictMachine ρ α cmd s = s.atMem i f) (hf : f c w = .ok (a, c, w, s.rest)) :
    run (strictMachine ρ) (Prog.perform cmd) s = .ok (a, s) := by
  rw [h.run_access hcmd hf, h.setMem_self]

/-- Reading the flags. -/
theorem At.run_get_flags (h : s.At i c w) :
    run (strictMachine ρ) (get_flags i) s = .ok (c.flags, s) :=
  h.run_read (f := fun pMem w => .ok (pMem.flags, pMem, w, s.rest)) rfl rfl

/-- Writing the flags. -/
theorem At.run_set_flags (h : s.At i c w) (f : Flags) :
    run (strictMachine ρ) (set_flags i f) s = .ok ((), s.setMem i { c with flags := f } w) :=
  h.run_access (f := fun pMem w => .ok ((), { pMem with flags := f }, w, s.rest)) rfl rfl

/-- Reading the integer, if the flags and the last write say that it is one. -/
theorem At.run_get_u_i (h : s.At i c w) (hf : c.flags.has MEM_Int = true)
    (hw : w = .i ∨ w = .foreign) :
    run (strictMachine ρ) (get_u_i i) s = .ok (c.u_i, s) :=
  h.run_read (f := fun pMem w => if pMem.flags.has MEM_Int ∧ (w = .i ∨ w = .foreign) then
    .ok (pMem.u_i, pMem, w, s.rest) else .error none) rfl (if_pos ⟨hf, hw⟩)

/-- Reading the real, if the flags and the last write say that it is one. -/
theorem At.run_get_u_r (h : s.At i c w) (hf : c.flags.has MEM_Real = true)
    (hw : w = .r ∨ w = .foreign) :
    run (strictMachine ρ) (get_u_r i) s = .ok (c.u_r, s) :=
  h.run_read (f := fun pMem w => if pMem.flags.has MEM_Real ∧ (w = .r ∨ w = .foreign) then
    .ok (pMem.u_r, pMem, w, s.rest) else .error none) rfl (if_pos ⟨hf, hw⟩)

/-- Writing the integer. -/
theorem At.run_set_u_i (h : s.At i c w) (v : ℤ) (constant : Bool) :
    run (strictMachine ρ) (set_u_i i v constant) s =
      .ok ((), s.setMem i { c with u := BitVec.ofInt 64 v } .i) :=
  h.run_access (f := fun pMem _ => .ok ((), { pMem with u := BitVec.ofInt 64 v }, .i, s.rest))
    rfl rfl

/-- The strict machine has no cache to invalidate. -/
theorem At.run_invalidate_cache (h : s.At i c w) :
    run (strictMachine ρ) (invalidate_cache i) s = .ok ((), s) :=
  h.run_read (f := fun pMem w => .ok ((), pMem, w, s.rest)) rfl rfl

/-- Reading a field behind the cache. -/
theorem At.run_peek (h : s.At i c w) (read : Mem → α) :
    run (strictMachine ρ) (peek i read) s = .ok (read c, s) :=
  h.run_read (f := fun pMem w => .ok (read pMem, pMem, w, s.rest)) rfl rfl

/-- Writing a field behind the cache. -/
theorem At.run_poke (h : s.At i c w) (update : FieldUpdate) :
    run (strictMachine ρ) (poke i update) s = .ok ((), s.setMem i (update.write c) w) :=
  h.run_access (f := fun pMem w => .ok ((), update.write pMem, w, s.rest)) rfl rfl

/-- A call of a routine of C on the cell. -/
theorem At.run_c_mem (h : s.At i c w) {routine : Mem → ρ → Except Exc (α × Mem × ρ)} {a : α}
    {c' : Mem} {r : ρ} (hr : routine c s.rest = .ok (a, c', r)) :
    run (strictMachine ρ) (c_mem i routine) s =
      .ok (a, { s.setMem i c' .foreign with rest := r }) := by
  unfold SQPyte.c_mem
  rw [run_perform, strictMachine, h.atMem_ok (by rw [hr])]

/-- A call that raises. -/
theorem At.run_c_mem_error (h : s.At i c w) {routine : Mem → ρ → Except Exc (α × Mem × ρ)} {e : Exc}
    (hr : routine c s.rest = .error e) :
    run (strictMachine ρ) (c_mem i routine) s = .error (some e) := by
  unfold SQPyte.c_mem
  rw [run_perform, strictMachine]
  unfold atMem
  rw [h.1]
  dsimp only
  rw [hr]

/-- An assertion that holds. -/
theorem run_pyAssert (s : Strict ρ) {cond : Bool} (h : cond = true) :
    run (strictMachine ρ) (pyAssert cond) s = .ok ((), s) := by
  unfold pyAssert
  rw [if_pos h, run_pure]

/-- An assertion that fails. -/
theorem run_pyAssert_false (s : Strict ρ) {cond : Bool} (h : cond = false) :
    run (strictMachine ρ) (pyAssert cond) s = .error (some .assertion) := by
  unfold pyAssert throwExc SQPyte.other
  rw [if_neg (by simp [h]), run_perform]
  rfl

/-- Fetching a register. -/
theorem run_mem_with_index (s : Strict ρ) {i : ℤ} {k : ℕ}
    (h : Machine.memIndex s.mems.length s.nMem i = .ok k) :
    run (strictMachine ρ) (mem_with_index i) s = .ok (k, s) := by
  unfold SQPyte.mem_with_index
  rw [run_perform]
  show ((Machine.memIndex s.mems.length s.nMem i).map (·, s)).mapError some = _
  rw [h]
  rfl

end Strict

/-! ## Accesses that the strict machine does not describe -/

namespace Machine

variable {ρ : Type} {m : Machine ρ} {s : Strict ρ} {i : ℕ} {c : Mem}

/-- Reading the flags, with what the cache holds of `u.r` unchanged. -/
theorem run_get_flags (hR : Related m s) (hi : m.mems[i]? = some c) :
    ∃ m', run (machine ρ) (get_flags i) m = .ok (c.flags, m') ∧ Related m' s ∧
      m'.cache.get_u_r i c = m.cache.get_u_r i c := by
  have hat : s.At i c (s.written i) := ⟨hR.mems ▸ hi, rfl⟩
  obtain ⟨m', hrun, hR'⟩ := run_machine_of_strict hR hat.run_get_flags
  refine ⟨m', hrun, hR', ?_⟩
  have hlt : i < m.mems.length := (List.getElem?_eq_some_iff.mp hi).1
  obtain ⟨h', heq, -⟩ := Cache.get_flags_spec hR.good hlt (hR.slots i c hat.1)
  unfold SQPyte.get_flags at hrun
  rw [run_perform, machine, atMem, hi] at hrun
  dsimp only at hrun
  rw [heq] at hrun
  obtain ⟨-, rfl⟩ := Prod.mk.inj (Except.ok.inj hrun)
  exact Cache.get_flags_get_u_r hR.good hlt heq c

/-- The number of a cell. -/
theorem run_mem_with_index {i : ℤ} {k : ℕ} (h : memIndex m.mems.length m.nMem i = .ok k) :
    run (machine ρ) (mem_with_index i) m = .ok (k, m) := by
  unfold SQPyte.mem_with_index
  rw [run_perform, machine, h]
  rfl

/-- Reading `u.r` through the cache, whatever the flags are. -/
theorem run_get_u_r (hi : m.mems[i]? = some c) :
    run (machine ρ) (get_u_r i) m = .ok (m.cache.get_u_r i c, m) := by
  unfold SQPyte.get_u_r
  rw [run_perform, machine, atMem, hi]
  dsimp only
  rw [set_self hi]

end Machine

end SQPyte
