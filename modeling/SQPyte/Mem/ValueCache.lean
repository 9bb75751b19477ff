import SQPyte.Library.Runs
import SQPyte.Mem.FlagCache
import SQPyte.Mem.Value

/-!
# The value half of the flag cache

The two members `u.i` and `u.r` of a cell are one word, and the cache has a bit of knowledge for each
and a single bit that says that what is known is a constant. A write of one member cancels what is
known of that member, and not what is known of the other one. The word has changed for both.

`ValueCacheRight` is the invariant that `check_cache_consistency` asserts of the values, with what a
constant has to come from. `valueCacheRight_iff` gives the exact condition under which it holds: no
member is written while the other one is known, except for a zero that is no constant, and no NaN
becomes a constant.

Whatever table of states the other queries have left, an operation makes a state with given bits and
integers, whose floats are `==` to given floats (`MakesValues`).
-/

namespace SQPyte

namespace CacheState

/-! ## What a state records of the values -/

/-- The same pattern, or patterns that are `==`. -/
def FloatSame (x y : Binary64) : Prop := x = y ∨ x.feq y = true

/-- A real is the same as itself. -/
theorem FloatSame.refl (x : Binary64) : FloatSame x x := Or.inl rfl

/-- What is `==` to a float is so to one that is the same. -/
theorem FloatSame.feq {v x y : Binary64} (h : FloatSame x y) (hv : v.feq x = true) :
    v.feq y = true := by
  rcases h with rfl | h
  · exact hv
  · simp only [Binary64.feq, Bool.and_eq_true, decide_eq_true_eq] at h hv ⊢
    exact ⟨⟨hv.1.1, h.1.2⟩, hv.2.trans h.2⟩

/-- What is the same as the same is the same. -/
theorem FloatSame.trans {x y z : Binary64} (h : FloatSame x y) (h' : FloatSame y z) :
    FloatSame x z := by
  rcases h with rfl | h
  · exact h'
  · exact Or.inr (h'.feq h)

/-- Lists of reals that compare equal hold the same reals. -/
theorem floatSame_of_floatsEq {xs ys : List Binary64} (h : floatsEq xs ys = true) :
    xs.length = ys.length ∧ ∀ j, FloatSame (ys.getD j 0) (xs.getD j 0) := by
  induction xs generalizing ys with
  | nil =>
    cases ys with
    | nil => exact ⟨rfl, fun j => FloatSame.refl _⟩
    | cons y ys => cases h
  | cons x xs ih =>
    cases ys with
    | nil => cases h
    | cons y ys =>
      simp only [floatsEq, Bool.and_eq_true] at h
      obtain ⟨hlength, hsame⟩ := ih h.2
      refine ⟨congrArg (· + 1) hlength, fun j => ?_⟩
      cases j with
      | zero =>
        have hfeq := h.1
        simp only [Binary64.feq, Bool.and_eq_true, decide_eq_true_eq] at hfeq
        refine Or.inr ?_
        simp only [Binary64.feq, Bool.and_eq_true, decide_eq_true_eq]
        exact ⟨⟨hfeq.1.2, hfeq.1.1⟩, hfeq.2.symm⟩
      | succ j => exact hsame j

/-- A state over `n` cells with the bits and the constants of the slots `f`. -/
structure Holds (n : ℕ) (s : CacheState) (f : ℕ → Slot) : Prop where
  /-- There is a status for each slot. -/
  states_length : s.cache_states.length = n
  /-- There is an integer for each. -/
  u_i_length : s.u_i_constants.length = n
  /-- There is a real for each. -/
  u_r_length : s.u_r_constants.length = n
  /-- The statuses. -/
  status : ∀ j, s.statusAt j = (f j).status
  /-- The integers. -/
  u_i : ∀ j, s.get_constant_u_i j = (f j).u_i
  /-- The reals. -/
  u_r : ∀ j, FloatSame (f j).u_r (s.get_constant_u_r j)

/-- From every table, the operation makes such a state. -/
def MakesValues (n : ℕ) (m : StateM CacheTable CacheState) (f : ℕ → Slot) : Prop :=
  ∀ table, Holds n (m table).1 f

section makes

variable {n i : ℕ} {s : CacheState} {f g : ℕ → Slot}

/-- What is held is known slot by slot. -/
theorem Holds.congr (h : Holds n s f) (hfg : ∀ j, f j = g j) : Holds n s g := by
  obtain rfl : f = g := funext hfg
  exact h

/-- The state that knows nothing has empty slots. -/
theorem all_unknown_holds (n : ℕ) : Holds n (all_unknown n) fun _ => ⟨0, 0, 0, 0⟩ where
  states_length := List.length_replicate
  u_i_length := List.length_replicate
  u_r_length := List.length_replicate
  status j := all_unknown_statusAt n j
  u_i j := by
    unfold get_constant_u_i all_unknown
    rw [List.getD_eq_getElem?_getD, List.getElem?_replicate]
    split_ifs <;> rfl
  u_r j := Or.inl <| by
    unfold get_constant_u_r all_unknown
    rw [List.getD_eq_getElem?_getD, List.getElem?_replicate]
    split_ifs <;> rfl

/-- To return a state makes its slots. -/
theorem MakesValues.pure (hs : Holds n s f) : MakesValues n (Pure.pure s) f := fun _ => hs

/-- The state that is found in the table has the same bits and integers, and floats that are `==`. -/
theorem MakesValues.unique (hs : Holds n s f) : MakesValues n s.unique f := by
  intro table
  unfold CacheState.unique
  cases hf : table.find? fun t => t.eq s with
  | none => exact hs
  | some t =>
    have heq : t.eq s = true := by simpa using List.find?_some hf
    unfold eq at heq
    simp only [Bool.and_eq_true, beq_iff_eq] at heq
    obtain ⟨⟨⟨-, hstates⟩, hu_i⟩, hu_r⟩ := heq
    obtain ⟨hlength, hsame⟩ := floatSame_of_floatsEq hu_r
    refine ⟨hstates ▸ hs.states_length, hu_i ▸ hs.u_i_length, hlength.trans hs.u_r_length,
      fun j => ?_, fun j => ?_, fun j => (hs.u_r j).trans (hsame j)⟩
    · rw [← hs.status j]
      unfold statusAt
      rw [hstates]
    · rw [← hs.u_i j]
      unfold get_constant_u_i
      rw [hu_i]

/-- One computation after the other. -/
theorem MakesValues.bind {m : StateM CacheTable CacheState}
    {k : CacheState → StateM CacheTable CacheState} (hm : MakesValues n m f)
    (hk : ∀ s', Holds n s' f → MakesValues n (k s') g) : MakesValues n (m >>= k) g :=
  fun table => hk (m table).1 (hm table) (m table).2

/-- What is made is known slot by slot. -/
theorem MakesValues.congr {m : StateM CacheTable CacheState} (hm : MakesValues n m f)
    (hfg : ∀ j, f j = g j) : MakesValues n m g := fun table => (hm table).congr hfg

/-- `change_cache_state` replaces the bits of one cell. -/
theorem change_cache_state_values (hs : Holds n s f) (hi : i < n) (status : Status) :
    MakesValues n (s.change_cache_state i status)
      fun j => if j = i then { f j with status := status } else f j := by
  unfold change_cache_state
  split_ifs with h
  · refine (MakesValues.pure hs).congr fun j => ?_
    split_ifs with hj
    · subst hj
      rw [← h, hs.status j]
    · rfl
  · refine MakesValues.unique ⟨by simpa using hs.states_length, hs.u_i_length, hs.u_r_length,
      fun j => ?_, fun j => ?_, fun j => ?_⟩
    · have hat : ({ s with cache_states := s.cache_states.set i status } : CacheState).statusAt j =
          if j = i then status else s.statusAt j := getD_set _ i j status 0 (hs.states_length ▸ hi)
      rw [hat, hs.status j]
      split_ifs <;> rfl
    · have hat := hs.u_i j
      split_ifs <;> exact hat
    · have hat := hs.u_r j
      split_ifs <;> exact hat

/-- `add_knowledge` sets bits of one status. -/
theorem add_knowledge_values (hs : Holds n s f) (hi : i < n) (bits : Status) :
    MakesValues n (s.add_knowledge i bits)
      fun j => if j = i then { f j with status := (f j).status ||| bits } else f j := by
  refine (change_cache_state_values hs hi _).congr fun j => ?_
  split_ifs with hj
  · subst hj
    rw [hs.status j]
  · rfl

/-- `change_flags` makes the flags of one cell known. -/
theorem change_flags_values (hs : Holds n s f) (hi : i < n) (new_flags : Flags) :
    MakesValues n (s.change_flags i new_flags)
      fun j => if j = i then { f j with status := (f j).status ||| STATE_FLAG_KNOWN } else f j := by
  unfold change_flags
  split_ifs with h
  · refine (MakesValues.pure hs).congr fun j => ?_
    split_ifs with hj
    · subst hj
      have hbit : ∀ st : Status, (st &&& STATE_FLAG_KNOWN != 0#4) = true →
          st ||| STATE_FLAG_KNOWN = st := by decide
      have hknown := h.1
      unfold is_flag_known at hknown
      rw [hs.status j] at hknown
      rw [hbit _ hknown]
    · rfl
  · exact (add_knowledge_values hs hi _).bind fun s' hs' =>
      MakesValues.unique ⟨hs'.states_length, hs'.u_i_length, hs'.u_r_length, hs'.status, hs'.u_i,
        hs'.u_r⟩

/-- `set_u_i_constant` makes a constant of one integer. -/
theorem set_u_i_constant_values (hs : Holds n s f) (hi : i < n) (v : ℤ) :
    MakesValues n (s.set_u_i_constant i v)
      fun j => if j = i then { f j with u_i := v, status := (f j).status ||| 10#4 } else f j := by
  refine (add_knowledge_values hs hi _).bind fun s' hs' => ?_
  refine MakesValues.unique ⟨hs'.states_length, by simpa using hs'.u_i_length, hs'.u_r_length,
    fun j => ?_, fun j => ?_, fun j => ?_⟩
  · refine (hs'.status j).trans ?_
    split_ifs <;> rfl
  · have hat : ({ s' with u_i_constants := s'.u_i_constants.set i v } : CacheState).get_constant_u_i j =
        if j = i then v else s'.get_constant_u_i j := getD_set _ i j v 0 (hs'.u_i_length ▸ hi)
    rw [hat, hs'.u_i j]
    split_ifs <;> rfl
  · have hat := hs'.u_r j
    split_ifs at hat ⊢ <;> exact hat

/-- `set_u_r_constant` makes a constant of one float. -/
theorem set_u_r_constant_values (hs : Holds n s f) (hi : i < n) (v : Binary64) :
    MakesValues n (s.set_u_r_constant i v)
      fun j => if j = i then { f j with u_r := v, status := (f j).status ||| 12#4 } else f j := by
  refine (add_knowledge_values hs hi _).bind fun s' hs' => ?_
  refine MakesValues.unique ⟨hs'.states_length, hs'.u_i_length, by simpa using hs'.u_r_length,
    fun j => ?_, fun j => ?_, fun j => ?_⟩
  · refine (hs'.status j).trans ?_
    split_ifs <;> rfl
  · have hat := hs'.u_i j
    split_ifs at hat ⊢ <;> exact hat
  · have hat : ({ s' with u_r_constants := s'.u_r_constants.set i v } : CacheState).get_constant_u_r j =
        if j = i then v else s'.get_constant_u_r j := getD_set _ i j v 0 (hs'.u_r_length ▸ hi)
    have hsame := hs'.u_r j
    rw [hat]
    split_ifs at hsame ⊢
    · exact FloatSame.refl v
    · exact hsame

/-- `set_unknown` forgets one cell. -/
theorem set_unknown_values (hs : Holds n s f) (hi : i < n) :
    MakesValues n (s.set_unknown i)
      fun j => if j = i then { f j with status := STATE_UNKNOWN } else f j := by
  unfold set_unknown
  split_ifs with h
  · refine (change_flags_values hs hi 0).bind fun s' hs' => ?_
    refine (change_cache_state_values hs' hi _).congr fun j => ?_
    split_ifs <;> rfl
  · refine (MakesValues.pure hs).congr fun j => ?_
    split_ifs with hj
    · subst hj
      have hzero : (f j).status = STATE_UNKNOWN := (hs.status j).symm.trans (not_not.mp h)
      rw [← hzero]
    · rfl

end makes

end CacheState

/-! ## Runs of writes and reads -/

/-- The two members of the union that the cache knows. -/
inductive UnionMember where
  | u_i
  | u_r
deriving DecidableEq, Repr

/-- The cells of a query with their cache, and the last write to the union of each cell: the member,
and whether it was a constant. -/
structure ValueRun where
  /-- The cells with their cache. -/
  cells : FlagCells
  /-- What was written last to the union of each cell, and whether it was a constant. -/
  last : ℕ → Option (UnionMember × Bool)

/-- What happens to the values. -/
inductive ValueEvent where
  /-- `mem.set_u_i(u_i, constant)`. -/
  | set_u_i (i : ℕ) (u_i : BitVec 64) (constant : Bool)
  /-- `mem.set_u_r(u_r, constant)`. -/
  | set_u_r (i : ℕ) (u_r : Binary64) (constant : Bool)
  /-- `mem.get_u_i()`. -/
  | get_u_i (i : ℕ)
  /-- `mem.get_u_r()`. -/
  | get_u_r (i : ℕ)
  /-- `mem.set_flags(newflags)`. -/
  | set_flags (i : ℕ) (newflags : Flags)
  /-- `mem.invalidate_cache()`. -/
  | invalidate (i : ℕ)
  /-- `mem_cache.invalidate_all()`. -/
  | invalidate_all

namespace ValueRun

/-- A query before the first write, in a process with the table `table`. -/
def init (mems : List Mem) (num_flags : ℕ) (use_cache jitted : Bool) (table : CacheTable) :
    ValueRun := ⟨.init mems num_flags use_cache jitted table, fun _ => none⟩

/-- The cells after an access. An exception ends the run. -/
def accessed {α : Type} (s : ValueRun) (r : Except Exc (α × FlagCells)) : Option ValueRun :=
  match r with
  | .ok (_, cells) => some { s with cells := cells }
  | .error _ => none

/-- What an event does. -/
def step (s : ValueRun) : ValueEvent → Option ValueRun
  | .set_u_i i u_i constant =>
    { s with last := Function.update s.last i (some (.u_i, constant)) }.accessed <| s.cells.access i
      (fun pMem => .ok ((), s.cells.cache.set_u_i i pMem u_i constant))
      fun pMem => .ok ((), { pMem with u := u_i })
  | .set_u_r i u_r constant =>
    { s with last := Function.update s.last i (some (.u_r, constant)) }.accessed <| s.cells.access i
      (fun pMem => .ok ((), s.cells.cache.set_u_r i pMem u_r constant))
      fun pMem => .ok ((), { pMem with u := u_r })
  | .get_u_i i => s.accessed <| s.cells.access i
      (fun pMem => .ok (s.cells.cache.get_u_i i pMem, pMem, s.cells.cache))
      fun pMem => .ok (pMem.u_i, pMem)
  | .get_u_r i => s.accessed <| s.cells.access i
      (fun pMem => .ok (s.cells.cache.get_u_r i pMem, pMem, s.cells.cache))
      fun pMem => .ok (pMem.u_r, pMem)
  | .set_flags i newflags => s.accessed <| s.cells.access i
      (fun pMem => (s.cells.cache.set_flags i pMem newflags).map fun x => ((), x))
      fun pMem => .ok ((), { pMem with flags := newflags })
  | .invalidate i => s.accessed <| s.cells.access i
      (fun pMem => .ok ((), pMem, s.cells.cache.invalidate i)) fun pMem => .ok ((), pMem)
  | .invalidate_all =>
    some { s with cells := { s.cells with cache := s.cells.cache.invalidate_all } }

end ValueRun

/-- What `check_cache_consistency` asserts of the values, and where constants come from. -/
structure ValueCacheRight (s : ValueRun) : Prop where
  /-- A known `u.i` is the one in memory. -/
  u_i : ∀ i pMem, s.cells.mems[i]? = some pMem → i < s.cells.num_flags →
    s.cells.cache.cache_state.is_u_i_known i = true → s.cells.cache.get_u_i i pMem = pMem.u_i
  /-- A known `u.r` is the one in memory. -/
  u_r : ∀ i pMem, s.cells.mems[i]? = some pMem → i < s.cells.num_flags →
    s.cells.cache.cache_state.is_u_r_known i = true →
    pMem.u_r.feq (s.cells.cache.get_u_r i pMem) = true
  /-- A constant `u.i` was written last. -/
  constant_u_i : ∀ i pMem, s.cells.mems[i]? = some pMem → i < s.cells.num_flags →
    s.cells.cache.cache_state.is_constant_u_i i = true → s.last i = some (.u_i, true)
  /-- A constant `u.r` was written last. -/
  constant_u_r : ∀ i pMem, s.cells.mems[i]? = some pMem → i < s.cells.num_flags →
    s.cells.cache.cache_state.is_constant_u_r i = true → s.last i = some (.u_r, true)

/-- The member that the event does not write is not known, or the event writes a zero that is no
constant. It makes no constant of a NaN. -/
def LeavesNothingStale (s : ValueRun) : ValueEvent → Prop
  | .set_u_i i u_i constant => i < s.cells.num_flags → i < s.cells.mems.length →
      s.cells.cache.cache_state.is_u_r_known i = true →
      constant = false ∧ Binary64.feq u_i 0#64 = true
  | .set_u_r i u_r constant => i < s.cells.num_flags → i < s.cells.mems.length →
      (s.cells.cache.cache_state.is_u_i_known i = true → constant = false ∧ u_r = 0#64) ∧
      (constant = true → s.cells.cache.use_cache = true → u_r.isNaN = false)
  | _ => True

/-! ## The slot of one cell -/

namespace CacheState

/-- What the slot of a cell with the word `u` has to be. What is known and is no constant reads as
zero. -/
structure SlotRight (slot : Slot) (u : BitVec 64) (last : Option (UnionMember × Bool)) : Prop where
  /-- An integer that counts as known. -/
  u_i : (slot.status &&& STATE_INT_KNOWN != 0#4) = true →
    (if slot.status &&& STATE_CONSTANT != 0#4 then slot.u_i else 0) = u.toInt
  /-- A real that counts as known. -/
  u_r : (slot.status &&& STATE_FLOAT_KNOWN != 0#4) = true →
    Binary64.feq u (if slot.status &&& STATE_CONSTANT != 0#4 then slot.u_r else 0#64) = true
  /-- A constant integer was the last one written, as a constant. -/
  constant_u_i : (slot.status &&& STATE_INT_KNOWN != 0#4) = true →
    (slot.status &&& STATE_CONSTANT != 0#4) = true → last = some (.u_i, true)
  /-- The same for a real. -/
  constant_u_r : (slot.status &&& STATE_FLOAT_KNOWN != 0#4) = true →
    (slot.status &&& STATE_CONSTANT != 0#4) = true → last = some (.u_r, true)

variable {slot : Slot} {u : BitVec 64} {last : Option (UnionMember × Bool)}

/-- A slot that knows nothing is right. -/
theorem SlotRight.of_status_zero (h : slot.status = 0#4) : SlotRight slot u last := by
  constructor <;> rw [h] <;> intro hbit <;> exact absurd hbit (by decide)

/-- The flags bit does not matter, nor does a float that is `==`. -/
theorem SlotRight.congr {slot' : Slot} (h : SlotRight slot u last)
    (hstatus : slot'.status &&& 14#4 = slot.status &&& 14#4) (hu_i : slot'.u_i = slot.u_i)
    (hu_r : FloatSame slot.u_r slot'.u_r) : SlotRight slot' u last := by
  have hbits : ∀ st st' : Status, st' &&& 14#4 = st &&& 14#4 →
      (st' &&& STATE_INT_KNOWN != 0#4) = (st &&& STATE_INT_KNOWN != 0#4) ∧
      (st' &&& STATE_FLOAT_KNOWN != 0#4) = (st &&& STATE_FLOAT_KNOWN != 0#4) ∧
      (st' &&& STATE_CONSTANT != 0#4) = (st &&& STATE_CONSTANT != 0#4) := by decide
  obtain ⟨hint, hfloat, hconstant⟩ := hbits _ _ hstatus
  constructor
  · rw [hint, hconstant, hu_i]
    exact h.u_i
  · rw [hfloat, hconstant]
    intro hknown
    have hfeq := h.u_r hknown
    split_ifs at hfeq ⊢
    · exact hu_r.feq hfeq
    · exact hfeq
  · rw [hint, hconstant]
    exact h.constant_u_i
  · rw [hfloat, hconstant]
    exact h.constant_u_r

/-- When a slot is right after `set_u_i` without a constant. -/
theorem slotRight_set_u_i_iff {u_i : BitVec 64} :
    SlotRight { slot with status := (slot.status &&& ~~~STATE_CONSTANT) &&& ~~~STATE_INT_KNOWN } u_i
        (some (.u_i, false)) ↔
      ((slot.status &&& STATE_FLOAT_KNOWN != 0#4) = true → Binary64.feq u_i 0#64 = true) := by
  have hbits : ∀ st : Status,
      ((st &&& ~~~STATE_CONSTANT) &&& ~~~STATE_INT_KNOWN) &&& STATE_INT_KNOWN = 0#4 ∧
      ((st &&& ~~~STATE_CONSTANT) &&& ~~~STATE_INT_KNOWN) &&& STATE_CONSTANT = 0#4 ∧
      ((st &&& ~~~STATE_CONSTANT) &&& ~~~STATE_INT_KNOWN) &&& STATE_FLOAT_KNOWN =
        st &&& STATE_FLOAT_KNOWN := by decide
  obtain ⟨hint, hconstant, hfloat⟩ := hbits slot.status
  constructor
  · intro h hknown
    have hfeq := h.u_r (by rw [hfloat]; exact hknown)
    rw [hconstant] at hfeq
    exact hfeq
  · intro h
    constructor <;> dsimp only
    · rw [hint]
      intro hknown
      cases hknown
    · rw [hfloat, hconstant]
      exact h
    · rw [hint]
      intro hknown
      cases hknown
    · rw [hconstant]
      intro _ hknown
      cases hknown

/-- When it is right after `set_u_r` without a constant. -/
theorem slotRight_set_u_r_iff {u_r : Binary64} :
    SlotRight { slot with status := (slot.status &&& ~~~STATE_CONSTANT) &&& ~~~STATE_FLOAT_KNOWN } u_r
        (some (.u_r, false)) ↔
      ((slot.status &&& STATE_INT_KNOWN != 0#4) = true → u_r = 0#64) := by
  have hbits : ∀ st : Status,
      ((st &&& ~~~STATE_CONSTANT) &&& ~~~STATE_FLOAT_KNOWN) &&& STATE_FLOAT_KNOWN = 0#4 ∧
      ((st &&& ~~~STATE_CONSTANT) &&& ~~~STATE_FLOAT_KNOWN) &&& STATE_CONSTANT = 0#4 ∧
      ((st &&& ~~~STATE_CONSTANT) &&& ~~~STATE_FLOAT_KNOWN) &&& STATE_INT_KNOWN =
        st &&& STATE_INT_KNOWN := by decide
  obtain ⟨hfloat, hconstant, hint⟩ := hbits slot.status
  have hzero : (0 : ℤ) = u_r.toInt ↔ u_r = 0#64 := by
    rw [eq_comm, ← BitVec.toInt_inj]
    simp
  constructor
  · intro h hknown
    have hi := h.u_i (by rw [hint]; exact hknown)
    rw [hconstant] at hi
    exact hzero.mp hi
  · intro h
    constructor <;> dsimp only
    · rw [hint, hconstant]
      exact fun hknown => hzero.mpr (h hknown)
    · rw [hfloat]
      intro hknown
      cases hknown
    · rw [hconstant]
      intro _ hknown
      cases hknown
    · rw [hfloat]
      intro hknown
      cases hknown

/-- When it is right after `set_u_i` with a constant. -/
theorem slotRight_set_u_i_constant_iff {u_i : BitVec 64} :
    SlotRight { slot with u_i := u_i.toInt, status := slot.status ||| 10#4 } u_i
        (some (.u_i, true)) ↔ ¬ (slot.status &&& STATE_FLOAT_KNOWN != 0#4) = true := by
  have hbits : ∀ st : Status,
      ((st ||| 10#4) &&& STATE_INT_KNOWN != 0#4) = true ∧
      ((st ||| 10#4) &&& STATE_CONSTANT != 0#4) = true ∧
      (st ||| 10#4) &&& STATE_FLOAT_KNOWN = st &&& STATE_FLOAT_KNOWN := by decide
  obtain ⟨hint, hconstant, hfloat⟩ := hbits slot.status
  constructor
  · intro h hknown
    have hlast := h.constant_u_r (by rw [hfloat]; exact hknown) hconstant
    cases hlast
  · intro h
    constructor <;> dsimp only
    · intro _
      rw [if_pos hconstant]
    · rw [hfloat]
      exact fun hknown => absurd hknown h
    · exact fun _ _ => rfl
    · rw [hfloat]
      exact fun hknown => absurd hknown h

/-- When it is right after `set_u_r` with a constant. -/
theorem slotRight_set_u_r_constant_iff {u_r : Binary64} :
    SlotRight { slot with u_r := u_r, status := slot.status ||| 12#4 } u_r (some (.u_r, true)) ↔
      ¬ (slot.status &&& STATE_INT_KNOWN != 0#4) = true ∧ u_r.isNaN = false := by
  have hbits : ∀ st : Status,
      ((st ||| 12#4) &&& STATE_FLOAT_KNOWN != 0#4) = true ∧
      ((st ||| 12#4) &&& STATE_CONSTANT != 0#4) = true ∧
      (st ||| 12#4) &&& STATE_INT_KNOWN = st &&& STATE_INT_KNOWN := by decide
  obtain ⟨hfloat, hconstant, hint⟩ := hbits slot.status
  have hfeq : Binary64.feq u_r u_r = true ↔ u_r.isNaN = false := by simp [Binary64.feq]
  constructor
  · intro h
    refine ⟨fun hknown => ?_, ?_⟩
    · have hlast := h.constant_u_i (by rw [hint]; exact hknown) hconstant
      cases hlast
    · have hself := h.u_r hfloat
      rw [if_pos hconstant] at hself
      exact hfeq.mp hself
  · intro h
    constructor <;> dsimp only
    · rw [hint]
      exact fun hknown => absurd hknown h.1
    · intro _
      rw [if_pos hconstant]
      exact hfeq.mpr h.2
    · rw [hint]
      exact fun hknown => absurd hknown h.1
    · exact fun _ _ => rfl

end CacheState

/-! ## One event -/

open CacheState

/-- From `h` to `h'` the slots become `f`, or nothing is known where the cache is not used. -/
structure Cache.Records (n : ℕ) (h h' : Cache) (f : ℕ → Slot) : Prop where
  /-- The state to forget with. -/
  invalid : h'._invalid_cache_state = h._invalid_cache_state
  /-- The cache is on or off as it was. -/
  use_cache : h'.use_cache = h.use_cache
  /-- The integers. -/
  integers : h'.integers = h.integers
  /-- The reals. -/
  floats : h'.floats = h.floats
  /-- The state has a slot for each cell. -/
  sized : Holds n h'.cache_state h'.cache_state.slot
  /-- A cache that is on has recorded the slots. -/
  holds : h.use_cache = true → Holds n h'.cache_state f
  /-- A cache that is off knows nothing. -/
  unused : h.use_cache = false → ∀ j, h'.cache_state.statusAt j = 0#4

/-- A query whose states are over its cells. What is known and is no constant reads as zero, since
the lists that would hold it are never written. -/
structure ValueGood (s : ValueRun) : Prop where
  /-- The state to forget with. -/
  invalid : s.cells.cache._invalid_cache_state = all_unknown s.cells.num_flags
  /-- The state has a slot for each cell. -/
  sized : Holds s.cells.num_flags s.cells.cache.cache_state s.cells.cache.cache_state.slot
  /-- No integer is stored. -/
  integers : ∀ j, s.cells.cache.integers.getD j 0 = 0
  /-- No real is stored. -/
  floats : ∀ j, s.cells.cache.floats.getD j 0 = 0#64
  /-- A cache that is off knows nothing. -/
  unused : s.cells.cache.use_cache = false → ∀ j, s.cells.cache.cache_state.statusAt j = 0#4

section events

variable {s s' : ValueRun} {n i : ℕ} {h h' : Cache} {f : ℕ → Slot} {pMem pMem' : Mem}

/-- A state holds its own slots. -/
theorem holds_slot {cs : CacheState} (hs : Holds n cs f) : Holds n cs cs.slot :=
  ⟨hs.states_length, hs.u_i_length, hs.u_r_length, fun _ => rfl, fun _ => rfl,
    fun _ => FloatSame.refl _⟩

/-- Setting the state leaves the other fields alone. -/
theorem set_cache_state_fields (h : Cache) (cs : CacheState) :
    (h.set_cache_state cs)._invalid_cache_state = h._invalid_cache_state ∧
      (h.set_cache_state cs).use_cache = h.use_cache ∧
      (h.set_cache_state cs).integers = h.integers ∧ (h.set_cache_state cs).floats = h.floats := by
  unfold Cache.set_cache_state
  dsimp only
  split <;> exact ⟨rfl, rfl, rfl, rfl⟩

/-- Making a state the current one. -/
theorem set_cache_state_records (hinvalid : h._invalid_cache_state = all_unknown n) {cs : CacheState}
    (hcs : Holds n cs f) : Cache.Records n h (h.set_cache_state cs) f := by
  obtain ⟨h1, h2, h3, h4⟩ := set_cache_state_fields h cs
  have hstate := Cache.cache_state_set_cache_state h cs
  refine ⟨h1, h2, h3, h4, ?_, fun huse => ?_, fun huse j => ?_⟩
  · rw [hstate]
    split_ifs
    · exact holds_slot hcs
    · rw [hinvalid]
      exact holds_slot (all_unknown_holds n)
  · rw [hstate, if_pos huse]
    exact hcs
  · rw [hstate, if_neg (by rw [huse]; exact Bool.false_ne_true), hinvalid]
    exact all_unknown_statusAt n j

/-- The cache records the slots that an update makes. -/
theorem update_records (hinvalid : h._invalid_cache_state = all_unknown n)
    {m : StateM CacheTable CacheState} (hm : MakesValues n m f) :
    Cache.Records n h (h.update m) f := by
  have hset := set_cache_state_records (h := { h with table := (m h.table).2 }) hinvalid (hm h.table)
  exact ⟨hset.invalid, hset.use_cache, hset.integers, hset.floats, hset.sized, hset.holds,
    hset.unused⟩

/-- Nothing happens to the cache. -/
theorem ValueGood.records_self (hg : ValueGood s) :
    Cache.Records s.cells.num_flags s.cells.cache s.cells.cache s.cells.cache.cache_state.slot :=
  ⟨rfl, rfl, rfl, rfl, hg.sized, fun _ => hg.sized, hg.unused⟩

/-- The property of the whole query is one of each slot. -/
theorem ValueGood.right_iff (hg : ValueGood s) :
    ValueCacheRight s ↔ ∀ i pMem, s.cells.mems[i]? = some pMem → i < s.cells.num_flags →
      SlotRight (s.cells.cache.cache_state.slot i) pMem.u (s.last i) := by
  have hget_u_i : ∀ i (pMem : Mem), s.cells.cache.cache_state.is_u_i_known i = true →
      s.cells.cache.get_u_i i pMem = if s.cells.cache.cache_state.statusAt i &&& STATE_CONSTANT != 0#4
        then s.cells.cache.cache_state.get_constant_u_i i else 0 := by
    intro i pMem hknown
    unfold Cache.get_u_i CacheState.is_constant_u_i
    dsimp only
    rw [hknown, Bool.true_and, hg.integers i, if_pos rfl]
  have hget_u_r : ∀ i (pMem : Mem), s.cells.cache.cache_state.is_u_r_known i = true →
      s.cells.cache.get_u_r i pMem = if s.cells.cache.cache_state.statusAt i &&& STATE_CONSTANT != 0#4
        then s.cells.cache.cache_state.get_constant_u_r i else 0#64 := by
    intro i pMem hknown
    unfold Cache.get_u_r is_constant_u_r
    dsimp only
    rw [hknown, Bool.true_and, hg.floats i, if_pos rfl]
  constructor
  · intro hP i pMem hmem hi
    refine ⟨fun hknown => ?_, fun hknown => ?_, fun hknown hconstant => ?_, fun hknown hconstant => ?_⟩
    · exact (hget_u_i i pMem hknown).symm.trans (hP.u_i i pMem hmem hi hknown)
    · have hfeq := hP.u_r i pMem hmem hi hknown
      rw [hget_u_r i pMem hknown] at hfeq
      exact hfeq
    · exact hP.constant_u_i i pMem hmem hi (Bool.and_eq_true_iff.mpr ⟨hknown, hconstant⟩)
    · exact hP.constant_u_r i pMem hmem hi (Bool.and_eq_true_iff.mpr ⟨hknown, hconstant⟩)
  · intro hslots
    refine ⟨fun i pMem hmem hi hknown => ?_, fun i pMem hmem hi hknown => ?_,
      fun i pMem hmem hi hconstant => ?_, fun i pMem hmem hi hconstant => ?_⟩
    · exact (hget_u_i i pMem hknown).trans ((hslots i pMem hmem hi).u_i hknown)
    · rw [hget_u_r i pMem hknown]
      exact (hslots i pMem hmem hi).u_r hknown
    · obtain ⟨hknown, hconst⟩ := Bool.and_eq_true_iff.mp hconstant
      exact (hslots i pMem hmem hi).constant_u_i hknown hconst
    · obtain ⟨hknown, hconst⟩ := Bool.and_eq_true_iff.mp hconstant
      exact (hslots i pMem hmem hi).constant_u_r hknown hconst

/-- After an access to one cell everything is right exactly if its slot is. -/
theorem ValueGood.access (hg : ValueGood s) (hP : ValueCacheRight s)
    (hr : Cache.Records s.cells.num_flags s.cells.cache h' f) (hmem : s.cells.mems[i]? = some pMem)
    {last : ℕ → Option (UnionMember × Bool)}
    (hother : ∀ j, j ≠ i → f j = s.cells.cache.cache_state.slot j)
    (hlast : ∀ j, j ≠ i → last j = s.last j) (pMem' : Mem) :
    ValueGood ⟨{ s.cells with mems := s.cells.mems.set i pMem', cache := h' }, last⟩ ∧
      (ValueCacheRight ⟨{ s.cells with mems := s.cells.mems.set i pMem', cache := h' }, last⟩ ↔
        (s.cells.cache.use_cache = true → i < s.cells.num_flags →
          SlotRight (f i) pMem'.u (last i))) := by
  have hg' : ValueGood ⟨{ s.cells with mems := s.cells.mems.set i pMem', cache := h' }, last⟩ :=
    ⟨hr.invalid.trans hg.invalid, hr.sized, fun j => by rw [hr.integers]; exact hg.integers j,
      fun j => by rw [hr.floats]; exact hg.floats j,
      fun huse => hr.unused (hr.use_cache.symm.trans huse)⟩
  have hslots := hg.right_iff.mp hP
  have hlt : i < s.cells.mems.length := (List.getElem?_eq_some_iff.mp hmem).1
  refine ⟨hg', ?_⟩
  rw [hg'.right_iff]
  -- A cache that is off knows nothing, so its slots are right.
  cases huse : s.cells.cache.use_cache with
  | false =>
    refine ⟨fun _ hfalse => absurd hfalse Bool.false_ne_true, fun _ j _ _ _ => ?_⟩
    exact SlotRight.of_status_zero (hr.unused huse j)
  | true =>
    have hholds := hr.holds huse
    -- The new slots hold what `f` says, up to the representation of an equal float.
    have hslot : ∀ j u last, SlotRight (h'.cache_state.slot j) u last ↔ SlotRight (f j) u last := by
      intro j u last
      have hsame := hholds.u_r j
      refine ⟨fun hright => hright.congr ?_ (hholds.u_i j).symm ?_,
        fun hright => hright.congr ?_ (hholds.u_i j) hsame⟩
      · rw [← hholds.status j]
        rfl
      · rcases hsame with heq | hfeq
        · exact Or.inl heq.symm
        · refine Or.inr ?_
          simp only [Binary64.feq, Bool.and_eq_true, decide_eq_true_eq] at hfeq ⊢
          exact ⟨⟨hfeq.1.2, hfeq.1.1⟩, hfeq.2.symm⟩
      · rw [← hholds.status j]
        rfl
    constructor
    · intro hall _ hi
      exact (hslot i _ _).mp (hall i pMem' (List.getElem?_set_self hlt) hi)
    · intro hcell j qMem hget hj
      refine (hslot j _ _).mpr ?_
      -- The access decides its own slot; any other one is as it was.
      by_cases hji : j = i
      · subst hji
        rw [List.getElem?_set_self hlt] at hget
        obtain rfl := Option.some.inj hget
        exact hcell rfl hj
      · have hget' : s.cells.mems[j]? = some qMem := by
          rwa [List.getElem?_set_ne (fun hij => hji hij.symm)] at hget
        rw [hother j hji]
        show SlotRight _ qMem.u (last j)
        rw [hlast j hji]
        exact hslots j qMem hget' hj

/-- An access that ends, to a cell that is there, through the cache or past it. -/
theorem accessed_cases {α : Type} {s₀ : ValueRun} {cached : Mem → Except Exc (α × Mem × Cache)}
    {direct : Mem → Except Exc (α × Mem)}
    (hs : s₀.accessed (s.cells.access i cached direct) = some s') :
    ∃ pMem, s.cells.mems[i]? = some pMem ∧
      ((i < s.cells.num_flags ∧ ∃ a pMem' cache, cached pMem = .ok (a, pMem', cache) ∧
        s' = ⟨{ s.cells with mems := s.cells.mems.set i pMem', cache := cache }, s₀.last⟩) ∨
      (¬ i < s.cells.num_flags ∧ ∃ a pMem', direct pMem = .ok (a, pMem') ∧
        s' = ⟨{ s.cells with mems := s.cells.mems.set i pMem' }, s₀.last⟩)) := by
  unfold FlagCells.access at hs
  cases hmem : s.cells.mems[i]? with
  | none =>
    rw [hmem] at hs
    cases hs
  | some pMem =>
    rw [hmem] at hs
    refine ⟨pMem, rfl, ?_⟩
    dsimp only at hs
    split_ifs at hs with hi
    · cases hcached : cached pMem with
      | error e =>
        rw [hcached] at hs
        cases hs
      | ok x =>
        rw [hcached] at hs
        exact Or.inl ⟨hi, x.1, x.2.1, x.2.2, rfl, (Option.some.inj hs).symm⟩
    · cases hdirect : direct pMem with
      | error e =>
        rw [hdirect] at hs
        cases hs
      | ok x =>
        rw [hdirect] at hs
        exact Or.inr ⟨hi, x.1, x.2, rfl, (Option.some.inj hs).symm⟩

/-- An access past the cache leaves everything right. -/
theorem ValueGood.direct (hg : ValueGood s) (hP : ValueCacheRight s)
    (hmem : s.cells.mems[i]? = some pMem) (hi : ¬ i < s.cells.num_flags)
    {last : ℕ → Option (UnionMember × Bool)} (hlast : ∀ j, j ≠ i → last j = s.last j) (pMem' : Mem) :
    ValueGood ⟨{ s.cells with mems := s.cells.mems.set i pMem' }, last⟩ ∧
      ValueCacheRight ⟨{ s.cells with mems := s.cells.mems.set i pMem' }, last⟩ := by
  obtain ⟨hg', hiff⟩ := hg.access hP hg.records_self hmem (fun _ _ => rfl) hlast pMem'
  exact ⟨hg', hiff.mpr fun _ hlt => absurd hlt hi⟩

/-- What is known of a cell where the cache is not used. -/
theorem ValueGood.use_cache_of_bit (hg : ValueGood s) {bit : Status}
    (hbit : (s.cells.cache.cache_state.statusAt i &&& bit != 0#4) = true) :
    s.cells.cache.use_cache = true := by
  by_contra huse
  rw [hg.unused (by simpa using huse) i] at hbit
  simp at hbit

/-- `get_u_i` and `get_u_r` change nothing, and neither the flags nor an invalidation concern what is
known of the values of other cells. -/
theorem ValueGood.same_slot (hg : ValueGood s) (hP : ValueCacheRight s)
    (hmem : s.cells.mems[i]? = some pMem)
    (hr : Cache.Records s.cells.num_flags s.cells.cache h' f)
    (hother : ∀ j, j ≠ i → f j = s.cells.cache.cache_state.slot j) (hu : pMem'.u = pMem.u)
    (hself : (f i).status = 0#4 ∨ ((f i).status &&& 14#4 =
        (s.cells.cache.cache_state.slot i).status &&& 14#4 ∧
      (f i).u_i = (s.cells.cache.cache_state.slot i).u_i ∧
      (f i).u_r = (s.cells.cache.cache_state.slot i).u_r)) :
    ValueGood ⟨{ s.cells with mems := s.cells.mems.set i pMem', cache := h' }, s.last⟩ ∧
      ValueCacheRight ⟨{ s.cells with mems := s.cells.mems.set i pMem', cache := h' }, s.last⟩ := by
  obtain ⟨hg', hiff⟩ := hg.access hP hr hmem hother (fun _ _ => rfl) pMem'
  refine ⟨hg', hiff.mpr fun _ hi => ?_⟩
  rcases hself with hzero | ⟨hstatus, hu_i, hu_r⟩
  · exact SlotRight.of_status_zero hzero
  · rw [hu]
    exact (hg.right_iff.mp hP i pMem hmem hi).congr hstatus hu_i (Or.inl hu_r.symm)

/-- Whether a write leaves the values right. -/
theorem set_u_i_right_iff (hg : ValueGood s) (hP : ValueCacheRight s) {u_i : BitVec 64}
    {constant : Bool} (hs : s.step (.set_u_i i u_i constant) = some s') :
    ValueGood s' ∧ (ValueCacheRight s' ↔ LeavesNothingStale s (.set_u_i i u_i constant)) := by
  have hlast : ∀ j, j ≠ i →
      Function.update s.last i (some (UnionMember.u_i, constant)) j = s.last j :=
    fun j hj => Function.update_of_ne hj _ _
  obtain ⟨pMem, hmem, ⟨hi, a, pMem', cache, hcached, rfl⟩ | ⟨hi, a, pMem', -, rfl⟩⟩ :=
    accessed_cases hs
  · obtain ⟨-, hset⟩ := Prod.mk.inj (Except.ok.inj hcached)
    have hlt : i < s.cells.mems.length := (List.getElem?_eq_some_iff.mp hmem).1
    cases constant with
    | false =>
      obtain ⟨rfl, rfl⟩ := Prod.mk.inj hset
      have hr := update_records hg.invalid (change_cache_state_values hg.sized hi
        ((s.cells.cache.cache_state.statusAt i &&& ~~~STATE_CONSTANT) &&& ~~~STATE_INT_KNOWN))
      obtain ⟨hg', hiff⟩ := hg.access hP hr hmem (fun j hj => if_neg hj) hlast { pMem with u := u_i }
      refine ⟨hg', hiff.trans ?_⟩
      rw [if_pos rfl, Function.update_self]
      constructor
      · intro h hi' _ hknown
        exact ⟨rfl, slotRight_set_u_i_iff.mp (h (hg.use_cache_of_bit hknown) hi) hknown⟩
      · intro h _ _
        exact slotRight_set_u_i_iff.mpr fun hknown => (h hi hlt hknown).2
    | true =>
      obtain ⟨rfl, rfl⟩ := Prod.mk.inj hset
      have hr := update_records hg.invalid (set_u_i_constant_values hg.sized hi u_i.toInt)
      obtain ⟨hg', hiff⟩ := hg.access hP hr hmem (fun j hj => if_neg hj) hlast { pMem with u := u_i }
      refine ⟨hg', hiff.trans ?_⟩
      rw [if_pos rfl, Function.update_self]
      constructor
      · intro h hi' _ hknown
        exact absurd hknown
          (slotRight_set_u_i_constant_iff.mp (h (hg.use_cache_of_bit hknown) hi))
      · intro h _ _
        exact slotRight_set_u_i_constant_iff.mpr fun hknown => by cases (h hi hlt hknown).1
  · obtain ⟨hg', hP'⟩ := hg.direct hP hmem hi hlast pMem'
    exact ⟨hg', fun _ hi' => absurd hi' hi, fun _ => hP'⟩

/-- Setting a real keeps the cache right exactly if it leaves nothing stale. -/
theorem set_u_r_right_iff (hg : ValueGood s) (hP : ValueCacheRight s) {u_r : Binary64}
    {constant : Bool} (hs : s.step (.set_u_r i u_r constant) = some s') :
    ValueGood s' ∧ (ValueCacheRight s' ↔ LeavesNothingStale s (.set_u_r i u_r constant)) := by
  have hlast : ∀ j, j ≠ i →
      Function.update s.last i (some (UnionMember.u_r, constant)) j = s.last j :=
    fun j hj => Function.update_of_ne hj _ _
  obtain ⟨pMem, hmem, ⟨hi, a, pMem', cache, hcached, rfl⟩ | ⟨hi, a, pMem', -, rfl⟩⟩ :=
    accessed_cases hs
  · obtain ⟨-, hset⟩ := Prod.mk.inj (Except.ok.inj hcached)
    have hlt : i < s.cells.mems.length := (List.getElem?_eq_some_iff.mp hmem).1
    cases constant with
    | false =>
      obtain ⟨rfl, rfl⟩ := Prod.mk.inj hset
      have hr := update_records hg.invalid (change_cache_state_values hg.sized hi
        ((s.cells.cache.cache_state.statusAt i &&& ~~~STATE_CONSTANT) &&& ~~~STATE_FLOAT_KNOWN))
      obtain ⟨hg', hiff⟩ := hg.access hP hr hmem (fun j hj => if_neg hj) hlast { pMem with u := u_r }
      refine ⟨hg', hiff.trans ?_⟩
      rw [if_pos rfl, Function.update_self]
      constructor
      · intro h hi' _
        refine ⟨fun hknown => ⟨rfl, ?_⟩, fun hfalse => by cases hfalse⟩
        exact slotRight_set_u_r_iff.mp (h (hg.use_cache_of_bit hknown) hi) hknown
      · intro h _ _
        exact slotRight_set_u_r_iff.mpr fun hknown => ((h hi hlt).1 hknown).2
    | true =>
      obtain ⟨rfl, rfl⟩ := Prod.mk.inj hset
      have hr := update_records hg.invalid (set_u_r_constant_values hg.sized hi u_r)
      obtain ⟨hg', hiff⟩ := hg.access hP hr hmem (fun j hj => if_neg hj) hlast { pMem with u := u_r }
      refine ⟨hg', hiff.trans ?_⟩
      rw [if_pos rfl, Function.update_self]
      constructor
      · intro h hi' _
        refine ⟨fun hknown => ?_, fun _ huse => (slotRight_set_u_r_constant_iff.mp (h huse hi)).2⟩
        exact absurd hknown
          (slotRight_set_u_r_constant_iff.mp (h (hg.use_cache_of_bit hknown) hi)).1
      · intro h huse _
        refine slotRight_set_u_r_constant_iff.mpr ⟨fun hknown => ?_, (h hi hlt).2 rfl huse⟩
        cases ((h hi hlt).1 hknown).1
  · obtain ⟨hg', hP'⟩ := hg.direct hP hmem hi hlast pMem'
    exact ⟨hg', fun _ hi' => absurd hi' hi, fun _ => hP'⟩

/-- What `set_flags` does to the cache concerns the flags. -/
theorem set_flags_records (hg : ValueGood s) (hi : i < s.cells.num_flags) {newflags : Flags}
    (hset : s.cells.cache.set_flags i pMem newflags = .ok (pMem', h')) :
    pMem'.u = pMem.u ∧ ∃ f, Cache.Records s.cells.num_flags s.cells.cache h' f ∧
      (∀ j, j ≠ i → f j = s.cells.cache.cache_state.slot j) ∧
      (f i).status &&& 14#4 = (s.cells.cache.cache_state.slot i).status &&& 14#4 ∧
      (f i).u_i = (s.cells.cache.cache_state.slot i).u_i ∧
      (f i).u_r = (s.cells.cache.cache_state.slot i).u_r := by
  have hbits : ∀ st : Status, (st ||| STATE_FLAG_KNOWN) &&& 14#4 = st &&& 14#4 := by decide
  unfold Cache.set_flags Cache._set_flags at hset
  simp only [↓reduceIte] at hset
  split_ifs at hset with hsame huse
  · obtain ⟨rfl, rfl⟩ := Prod.mk.inj (Except.ok.inj hset)
    exact ⟨rfl, _, hg.records_self, fun _ _ => rfl, rfl, rfl, rfl⟩
  · obtain ⟨rfl, rfl⟩ := Prod.mk.inj (Except.ok.inj hset)
    exact ⟨rfl, _, hg.records_self, fun _ _ => rfl, rfl, rfl, rfl⟩
  · obtain ⟨rfl, rfl⟩ := Prod.mk.inj (Except.ok.inj hset)
    refine ⟨rfl, _, update_records hg.invalid (change_flags_values hg.sized hi newflags),
      fun j hj => if_neg hj, ?_, ?_, ?_⟩
    · rw [if_pos rfl]
      exact hbits _
    · rw [if_pos rfl]
    · rw [if_pos rfl]

/-- One event leaves the values right exactly if it leaves nothing stale. -/
theorem step_right_iff (hg : ValueGood s) (hP : ValueCacheRight s) {e : ValueEvent}
    (hs : s.step e = some s') : ValueGood s' ∧ (ValueCacheRight s' ↔ LeavesNothingStale s e) := by
  -- Every event but the two writes of a value keeps the cache right.
  have hcell : ∀ {e : ValueEvent}, LeavesNothingStale s e → ValueGood s' ∧ ValueCacheRight s' →
      ValueGood s' ∧ (ValueCacheRight s' ↔ LeavesNothingStale s e) :=
    fun hC h => ⟨h.1, fun _ => hC, fun _ => h.2⟩
  cases e with
  | set_u_i i u_i constant => exact set_u_i_right_iff hg hP hs
  | set_u_r i u_r constant => exact set_u_r_right_iff hg hP hs
  | get_u_i i =>
    refine hcell trivial ?_
    -- A read within the cache's slots may fill the slot; one past them goes to the cell.
    obtain ⟨pMem, hmem, ⟨hi, a, pMem', cache, hcached, rfl⟩ | ⟨hi, a, pMem', -, rfl⟩⟩ :=
      accessed_cases hs
    · obtain ⟨-, rfl, rfl⟩ := Except.ok.inj hcached
      exact hg.same_slot hP hmem hg.records_self (fun _ _ => rfl) rfl (Or.inr ⟨rfl, rfl, rfl⟩)
    · exact hg.direct hP hmem hi (fun _ _ => rfl) pMem'
  | get_u_r i =>
    refine hcell trivial ?_
    -- As for the integer.
    obtain ⟨pMem, hmem, ⟨hi, a, pMem', cache, hcached, rfl⟩ | ⟨hi, a, pMem', -, rfl⟩⟩ :=
      accessed_cases hs
    · obtain ⟨-, rfl, rfl⟩ := Except.ok.inj hcached
      exact hg.same_slot hP hmem hg.records_self (fun _ _ => rfl) rfl (Or.inr ⟨rfl, rfl, rfl⟩)
    · exact hg.direct hP hmem hi (fun _ _ => rfl) pMem'
  | set_flags i newflags =>
    refine hcell trivial ?_
    obtain ⟨pMem, hmem, ⟨hi, a, pMem', cache, hcached, rfl⟩ | ⟨hi, a, pMem', -, rfl⟩⟩ :=
      accessed_cases hs
    · -- Writing the flags leaves the values that the slot knows.
      cases hset : s.cells.cache.set_flags i pMem newflags with
      | error e =>
        rw [hset] at hcached
        cases hcached
      | ok x =>
        rw [hset] at hcached
        obtain ⟨-, rfl, rfl⟩ := Except.ok.inj hcached
        obtain ⟨hu, f, hr, hother, hself⟩ := set_flags_records hg hi hset
        exact hg.same_slot hP hmem hr hother hu (Or.inr hself)
    · exact hg.direct hP hmem hi (fun _ _ => rfl) pMem'
  | invalidate i =>
    refine hcell trivial ?_
    obtain ⟨pMem, hmem, ⟨hi, a, pMem', cache, hcached, rfl⟩ | ⟨hi, a, pMem', -, rfl⟩⟩ :=
      accessed_cases hs
    · obtain ⟨-, rfl, rfl⟩ := Except.ok.inj hcached
      exact hg.same_slot hP hmem (update_records hg.invalid (set_unknown_values hg.sized hi))
        (fun j hj => if_neg hj) rfl (Or.inl (by rw [if_pos rfl]; rfl))
    · exact hg.direct hP hmem hi (fun _ _ => rfl) pMem'
  | invalidate_all =>
    refine hcell trivial ?_
    obtain rfl := Option.some.inj hs
    -- The cache takes over the state that knows nothing.
    have hr := set_cache_state_records hg.invalid (all_unknown_holds s.cells.num_flags)
    have hstate : (s.cells.cache.set_cache_state s.cells.cache._invalid_cache_state).cache_state =
        all_unknown s.cells.num_flags := by
      rw [Cache.cache_state_set_cache_state, hg.invalid]
      split_ifs <;> rfl
    rw [← hg.invalid] at hr
    have hg' : ValueGood { s with cells := { s.cells with cache := s.cells.cache.invalidate_all } } :=
      ⟨hr.invalid.trans hg.invalid, hr.sized, fun j => by
        show (s.cells.cache.set_cache_state _).integers.getD j 0 = 0
        rw [hr.integers]
        exact hg.integers j, fun j => by
        show (s.cells.cache.set_cache_state _).floats.getD j 0 = 0#64
        rw [hr.floats]
        exact hg.floats j, fun huse => hr.unused (hr.use_cache.symm.trans huse)⟩
    refine ⟨hg', hg'.right_iff.mpr fun i pMem _ _ => SlotRight.of_status_zero ?_⟩
    show (s.cells.cache.set_cache_state _).cache_state.statusAt i = 0#4
    rw [hstate]
    exact all_unknown_statusAt _ i

end events

/-! ## Whole runs -/

/-- The cache is new, in either mode. -/
structure ValueRun.Fresh (s : ValueRun) : Prop where
  /-- The state to forget with. -/
  invalid : s.cells.cache._invalid_cache_state = all_unknown s.cells.num_flags
  /-- Nothing is known. -/
  state : s.cells.cache.cache_state = all_unknown s.cells.num_flags
  /-- No integer is stored. -/
  integers : s.cells.cache.integers = List.replicate s.cells.num_flags 0
  /-- No real is stored. -/
  floats : s.cells.cache.floats = List.replicate s.cells.num_flags 0

/-- A fresh cache is right. -/
theorem ValueRun.Fresh.good {s : ValueRun} (hs : s.Fresh) : ValueGood s ∧ ValueCacheRight s := by
  have hzero : ∀ {α : Type} (n j : ℕ) (a : α), (List.replicate n a).getD j a = a := by
    intro α n j a
    rw [List.getD_eq_getElem?_getD, List.getElem?_replicate]
    split_ifs <;> rfl
  have hg : ValueGood s := by
    refine ⟨hs.invalid, ?_, fun j => ?_, fun j => ?_, fun _ j => ?_⟩
    · rw [hs.state]
      exact holds_slot (all_unknown_holds _)
    · rw [hs.integers]
      exact hzero _ j 0
    · rw [hs.floats]
      exact hzero _ j 0#64
    · rw [hs.state]
      exact all_unknown_statusAt _ j
  refine ⟨hg, hg.right_iff.mpr fun i pMem _ _ => SlotRight.of_status_zero ?_⟩
  show s.cells.cache.cache_state.statusAt i = 0#4
  rw [hs.state]
  exact all_unknown_statusAt _ i

/-- A new cache is fresh. -/
theorem ValueRun.init_fresh (mems : List Mem) (num_flags : ℕ) (use_cache jitted : Bool)
    (table : CacheTable) : (init mems num_flags use_cache jitted table).Fresh :=
  ⟨rfl, rfl, rfl, rfl⟩

/-- The value half of the cache is right along a run exactly if no member of a union is written while
the other one is known, except for a zero that is no constant, and no NaN becomes a constant. -/
theorem valueCacheRight_iff {s : ValueRun} (hs : s.Fresh) (events : List ValueEvent) :
    Runs.Always ValueRun.step ValueCacheRight events s ↔
      Runs.Each ValueRun.step LeavesNothingStale events s := by
  refine Runs.always_iff_each (I := fun s => ValueGood s ∧ ValueCacheRight s) (fun s h => h.2)
    (fun s e s' hI hC hs' => ?_) (fun s e hI hC => ?_) hs.good
  · obtain ⟨hg', hiff⟩ := step_right_iff hI.1 hI.2 hs'
    exact ⟨hg', hiff.mpr hC⟩
  · have hstep : ∃ s', s.step e = some s' := by
      have hwrite : ∀ {α : Type} {s₀ : ValueRun} {i : ℕ} {cached : Mem → α × Mem × Cache}
          {direct : Mem → α × Mem}, i < s.cells.mems.length → ∃ s', s₀.accessed (s.cells.access i
            (fun pMem => .ok (cached pMem)) fun pMem => .ok (direct pMem)) = some s' := by
        intro α s₀ i cached direct hi
        unfold FlagCells.access
        rw [List.getElem?_eq_getElem hi]
        dsimp only
        split_ifs <;> exact ⟨_, rfl⟩
      cases e with
      | set_u_i i u_i constant =>
        by_cases hi : i < s.cells.mems.length
        · exact hwrite hi
        · exact absurd (fun _ hi' => absurd hi' hi) hC
      | set_u_r i u_r constant =>
        by_cases hi : i < s.cells.mems.length
        · exact hwrite hi
        · exact absurd (fun _ hi' => absurd hi' hi) hC
      | _ => exact absurd trivial hC
    obtain ⟨s', hs'⟩ := hstep
    exact ⟨s', hs', fun hP' => hC ((step_right_iff hI.1 hI.2 hs').2.mp hP')⟩

/-- Two cells with a new cache. -/
def twoCells : ValueRun := .init [.ofNull, .ofNull] 2 true false []

/-- A constant integer, and a constant real in the same cell after an invalidation. -/
theorem valueCacheRight_invalidate :
    Runs.Always ValueRun.step ValueCacheRight
      [.set_u_i 0 7#64 true, .get_u_i 0, .set_flags 0 MEM_Int, .invalidate 0,
        .set_u_r 0 0x4014000000000000#64 true] twoCells :=
  (valueCacheRight_iff (ValueRun.init_fresh _ _ _ _ _) _).mpr <|
    .cons (fun _ _ h => by revert h; decide) rfl <| .cons trivial rfl <| .cons trivial rfl <|
      .cons trivial rfl <|
        .cons (fun _ _ => ⟨fun h => by revert h; decide, fun _ _ => by decide⟩) rfl <| .nil _

/-- A constant integer, and the real that `OP_RealAffinity` makes of it. The cache still knows an
integer, and says that it is zero. -/
theorem not_valueCacheRight_realAffinity :
    ¬ Runs.Always ValueRun.step ValueCacheRight
      [.set_u_i 0 5#64 true, .set_u_r 0 0x4014000000000000#64 false] twoCells := by
  intro h
  have hu_i := (h.after rfl).u_i 0 _ rfl (by decide) (by decide)
  revert hu_i
  decide

end SQPyte
