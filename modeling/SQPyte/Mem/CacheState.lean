import SQPyte.Mem.Cell

/-!
# What the flag cache knows

A `CacheState` is an immutable record of what is known of every cell: its flags, and its `u.i` or
`u.r` where these are compile-time constants. Four parallel lists hold it, indexed by the cell.
Every state an operation makes goes through `unique`, which replaces it by an equal state of the
process-wide table `_cache` when there is one.

Equality in that table compares the float constants with `==`. It is finer than that only as long as
no state holds a NaN or a negative zero (`Canonical`), and then `unique` changes nothing
(`unique_eq`). Under this condition each operation is described by what it does to the `Slot` of
each cell, and the later modules use these descriptions only.
-/

namespace SQPyte

/-- The `STATE_*` bits of one cell. -/
abbrev Status := BitVec 4

/-- Nothing is known of the cell. -/
@[simp] def STATE_UNKNOWN : Status := 0#4
/-- The flags of the cell are known. -/
@[simp] def STATE_FLAG_KNOWN : Status := 1#4
/-- The `u.i` of the cell is known. -/
@[simp] def STATE_INT_KNOWN : Status := 2#4
/-- The `u.r` of the cell is known. -/
@[simp] def STATE_FLOAT_KNOWN : Status := 4#4
/-- The known `u.i` or `u.r` of the cell is a constant. -/
@[simp] def STATE_CONSTANT : Status := 8#4

/-- `class CacheState`. -/
structure CacheState where
  /-- The known flags. -/
  all_flags : List Flags
  /-- The `STATE_*` bits. -/
  cache_states : List Status
  /-- The constant `u.i`. -/
  u_i_constants : List ℤ
  /-- The constant `u.r`. -/
  u_r_constants : List Binary64
deriving DecidableEq, Repr

/-- The process-wide table `CacheState._cache` of the states made so far. -/
abbrev CacheTable := List CacheState

/-- `==` on lists of floats. -/
def floatsEq : List Binary64 → List Binary64 → Bool
  | [], [] => true
  | x :: xs, y :: ys => x.feq y && floatsEq xs ys
  | _, _ => false

namespace CacheState

/-- `CacheState.eq`. -/
def eq (self other : CacheState) : Bool :=
  self.all_flags == other.all_flags && self.cache_states == other.cache_states &&
    self.u_i_constants == other.u_i_constants &&
    floatsEq self.u_r_constants other.u_r_constants

/-- `CacheState.unique`. -/
def unique (self : CacheState) : StateM CacheTable CacheState := fun table =>
  match table.find? fun t => t.eq self with
  | some newself => (newself, table)
  | none => (self, self :: table)

/-- The flags recorded for cell `i`. -/
def flagsAt (s : CacheState) (i : ℕ) : Flags := s.all_flags.getD i 0
/-- The `STATE_*` bits recorded for cell `i`. -/
def statusAt (s : CacheState) (i : ℕ) : Status := s.cache_states.getD i 0

/-- `is_flag_known`. -/
def is_flag_known (s : CacheState) (i : ℕ) : Bool := s.statusAt i &&& STATE_FLAG_KNOWN != 0#4
/-- `is_u_i_known`. -/
def is_u_i_known (s : CacheState) (i : ℕ) : Bool := s.statusAt i &&& STATE_INT_KNOWN != 0#4
/-- `is_u_r_known`. -/
def is_u_r_known (s : CacheState) (i : ℕ) : Bool := s.statusAt i &&& STATE_FLOAT_KNOWN != 0#4
/-- `is_constant_u_i`. -/
def is_constant_u_i (s : CacheState) (i : ℕ) : Bool :=
  s.is_u_i_known i && s.statusAt i &&& STATE_CONSTANT != 0#4
/-- `is_constant_u_r`. -/
def is_constant_u_r (s : CacheState) (i : ℕ) : Bool :=
  s.is_u_r_known i && s.statusAt i &&& STATE_CONSTANT != 0#4

/-- `get_constant_u_i`. -/
def get_constant_u_i (s : CacheState) (i : ℕ) : ℤ := s.u_i_constants.getD i 0
/-- `get_constant_u_r`. -/
def get_constant_u_r (s : CacheState) (i : ℕ) : Binary64 := s.u_r_constants.getD i 0

/-- `change_cache_state`. -/
def change_cache_state (self : CacheState) (i : ℕ) (status : Status) : StateM CacheTable CacheState :=
  if self.statusAt i = status then pure self
  else unique { self with cache_states := self.cache_states.set i status }

/-- `add_knowledge`. -/
def add_knowledge (self : CacheState) (i : ℕ) (statusbits : Status) :
    StateM CacheTable CacheState :=
  self.change_cache_state i (self.statusAt i ||| statusbits)

/-- `change_flags`. -/
def change_flags (self : CacheState) (i : ℕ) (new_flags : Flags) : StateM CacheTable CacheState :=
  if self.is_flag_known i ∧ self.flagsAt i = new_flags then pure self
  else do
    let self ← self.add_knowledge i STATE_FLAG_KNOWN
    unique { self with all_flags := self.all_flags.set i new_flags }

/-- `set_u_i_constant`. -/
def set_u_i_constant (self : CacheState) (i : ℕ) (u_i : ℤ) : StateM CacheTable CacheState := do
  let self ← self.add_knowledge i (STATE_INT_KNOWN ||| STATE_CONSTANT)
  unique { self with u_i_constants := self.u_i_constants.set i u_i }

/-- `set_u_r_constant`. -/
def set_u_r_constant (self : CacheState) (i : ℕ) (u_r : Binary64) :
    StateM CacheTable CacheState := do
  let self ← self.add_knowledge i (STATE_FLOAT_KNOWN ||| STATE_CONSTANT)
  unique { self with u_r_constants := self.u_r_constants.set i u_r }

/-- `set_unknown`. -/
def set_unknown (self : CacheState) (i : ℕ) : StateM CacheTable CacheState :=
  if self.statusAt i ≠ 0 then do
    let self ← self.change_flags i 0
    self.change_cache_state i STATE_UNKNOWN
  else pure self

/-- `all_unknown`. -/
def all_unknown (num_flags : ℕ) : CacheState :=
  ⟨List.replicate num_flags 0, List.replicate num_flags 0, List.replicate num_flags 0,
    List.replicate num_flags 0⟩

/-! ## Canonical states -/

/-- A float that `==` tells from every other pattern: neither NaN nor a negative zero. -/
def CanonicalFloat (x : Binary64) : Prop := x.isNaN = false ∧ ¬ (x.msb = true ∧ x.mag = 0)

instance (x : Binary64) : Decidable (CanonicalFloat x) := inferInstanceAs (Decidable (_ ∧ _))

/-- Every float constant of the state is canonical. -/
def Canonical (s : CacheState) : Prop := ∀ x ∈ s.u_r_constants, CanonicalFloat x

instance (s : CacheState) : Decidable s.Canonical := inferInstanceAs (Decidable (∀ x ∈ _, _))

/-- Zero is canonical. -/
theorem canonicalFloat_zero : CanonicalFloat 0#64 := by decide

/-- Canonical floats that are `==` are the same pattern. -/
theorem eq_of_feq {x y : Binary64} (hx : CanonicalFloat x) (hy : CanonicalFloat y)
    (h : x.feq y = true) : x = y := by
  simp only [Binary64.feq, Bool.and_eq_true, decide_eq_true_eq] at h
  have hkey := h.2
  have hzero : ∀ {v : Binary64}, CanonicalFloat v → v.msb = true → v.mag ≠ 0 :=
    fun hv hm h0 => hv.2 ⟨hm, h0⟩
  have hbits : ∀ v : Binary64, v.toNat = (if v.msb then 2^63 else 0) + v.mag := by
    intro v
    have := v.isLt
    unfold Binary64.mag
    rw [BitVec.msb_eq_decide]
    simp only [decide_eq_true_eq]
    split_ifs <;> omega
  apply BitVec.eq_of_toNat_eq
  rw [hbits x, hbits y]
  unfold Binary64.key at hkey
  split_ifs at hkey ⊢ with hxs hys hys
  · omega
  · have := hzero hx hxs; omega
  · have := hzero hy hys; omega
  · omega

/-- A canonical real is equal to itself. -/
theorem feq_self {x : Binary64} (hx : CanonicalFloat x) : x.feq x = true := by
  simp [Binary64.feq, hx.1]

/-- Lists of canonical reals compare equal exactly if they are. -/
theorem floatsEq_iff {xs ys : List Binary64} (hx : ∀ x ∈ xs, CanonicalFloat x)
    (hy : ∀ y ∈ ys, CanonicalFloat y) : floatsEq xs ys = true ↔ xs = ys := by
  induction xs generalizing ys with
  | nil => cases ys <;> simp [floatsEq]
  | cons x xs ih =>
    cases ys with
    | nil => simp [floatsEq]
    | cons y ys =>
      simp only [List.mem_cons, forall_eq_or_imp] at hx hy
      simp only [floatsEq, Bool.and_eq_true, List.cons.injEq, ih hx.2 hy.2]
      constructor
      · rintro ⟨hxy, rfl⟩; exact ⟨eq_of_feq hx.1 hy.1 hxy, rfl⟩
      · rintro ⟨rfl, rfl⟩; exact ⟨feq_self hx.1, rfl⟩

/-- On canonical states the table's equality is equality. -/
theorem eq_iff {s t : CacheState} (hs : s.Canonical) (ht : t.Canonical) :
    s.eq t = true ↔ s = t := by
  obtain ⟨sf, ss, si, sr⟩ := s
  obtain ⟨tf, ts, ti, tr⟩ := t
  simp only [eq, Bool.and_eq_true, beq_iff_eq, floatsEq_iff hs ht, mk.injEq, and_assoc]

/-- Every state of the table is canonical. -/
def CanonicalTable (table : CacheTable) : Prop := ∀ s ∈ table, s.Canonical

/-- Interning a canonical state in a canonical table gives the state itself. -/
theorem unique_eq {s : CacheState} {table : CacheTable} (hs : s.Canonical)
    (ht : CanonicalTable table) :
    ∃ table', s.unique table = (s, table') ∧ CanonicalTable table' := by
  unfold unique
  cases hf : table.find? fun t => t.eq s with
  | none =>
    refine ⟨s :: table, rfl, ?_⟩
    intro t hmem
    rcases List.mem_cons.mp hmem with rfl | hmem
    · exact hs
    · exact ht t hmem
  | some t =>
    have hmem := List.mem_of_find?_eq_some hf
    have heq := (eq_iff (ht t hmem) hs).mp (by simpa using List.find?_some hf)
    subst heq
    exact ⟨table, rfl, ht⟩

/-! ## The slot of a cell -/

/-- What a state records of one cell. -/
structure Slot where
  /-- The known flags. -/
  flags : Flags
  /-- The `STATE_*` bits. -/
  status : Status
  /-- The constant `u.i`. -/
  u_i : ℤ
  /-- The constant `u.r`. -/
  u_r : Binary64

/-- The record of cell `i`. -/
def slot (s : CacheState) (i : ℕ) : Slot :=
  ⟨s.flagsAt i, s.statusAt i, s.get_constant_u_i i, s.get_constant_u_r i⟩

/-- A canonical state over `n` cells. -/
structure Good (n : ℕ) (s : CacheState) : Prop where
  /-- The float constants are canonical. -/
  canonical : s.Canonical
  /-- The lists have one entry a cell. -/
  flags_length : s.all_flags.length = n
  /-- The lists have one entry a cell. -/
  states_length : s.cache_states.length = n
  /-- The lists have one entry a cell. -/
  u_i_length : s.u_i_constants.length = n
  /-- The lists have one entry a cell. -/
  u_r_length : s.u_r_constants.length = n

/-- From every canonical table, the operation makes a good state with the slots `f`. -/
def Makes (n : ℕ) (m : StateM CacheTable CacheState) (f : ℕ → Slot) : Prop :=
  ∀ table, CanonicalTable table → ∃ s' table', m table = (s', table') ∧ s'.Good n ∧
    CanonicalTable table' ∧ ∀ j, s'.slot j = f j

variable {n i : ℕ} {s : CacheState}

/-- An element after another one was written. -/
theorem getD_set {α : Type} (l : List α) (i j : ℕ) (a d : α) (hi : i < l.length) :
    (l.set i a).getD j d = if j = i then a else l.getD j d := by
  simp only [List.getD_eq_getElem?_getD, List.getElem?_set]
  by_cases hij : i = j
  · subst hij; simp [hi]
  · simp [hij, Ne.symm hij]

/-- To return a state makes its slots. -/
theorem Makes.pure (hs : s.Good n) : Makes n (Pure.pure s) s.slot :=
  fun table ht => ⟨s, table, rfl, hs, ht, fun _ => rfl⟩

/-- So does `unique`. -/
theorem Makes.unique (hs : s.Good n) : Makes n s.unique s.slot := by
  intro table ht
  obtain ⟨table', heq, ht'⟩ := unique_eq hs.canonical ht
  exact ⟨s, table', heq, hs, ht', fun _ => rfl⟩

/-- One computation after the other. -/
theorem Makes.bind {m : StateM CacheTable CacheState}
    {k : CacheState → StateM CacheTable CacheState} {f g : ℕ → Slot} (hm : Makes n m f)
    (hk : ∀ s', s'.Good n → s'.slot = f → Makes n (k s') g) : Makes n (m >>= k) g := by
  intro table ht
  obtain ⟨s', table', heq, hs', ht', hf⟩ := hm table ht
  obtain ⟨s'', table'', heq', h⟩ := hk s' hs' (funext hf) table' ht'
  refine ⟨s'', table'', ?_, h⟩
  show (match m table with | (a, t) => k a t) = _
  rw [heq]; exact heq'

/-- What is made is known slot by slot. -/
theorem Makes.congr {m : StateM CacheTable CacheState} {f g : ℕ → Slot} (hm : Makes n m f)
    (h : ∀ j, f j = g j) : Makes n m g := by
  obtain rfl : f = g := funext h
  exact hm

/-- `change_cache_state` replaces the bits of one slot. -/
theorem change_cache_state_makes (hs : s.Good n) (hi : i < n) (status : Status) :
    Makes n (s.change_cache_state i status)
      fun j => if j = i then { s.slot j with status := status } else s.slot j := by
  unfold change_cache_state
  split_ifs with h
  · refine (Makes.pure hs).congr fun j => ?_
    split_ifs with hj
    · subst hj; rw [← h]; rfl
    · rfl
  · have hs' : Good n { s with cache_states := s.cache_states.set i status } :=
      ⟨hs.canonical, hs.flags_length, by simpa using hs.states_length, hs.u_i_length, hs.u_r_length⟩
    refine (Makes.unique hs').congr fun j => ?_
    simp only [slot, statusAt, flagsAt, get_constant_u_i, get_constant_u_r,
      getD_set _ _ _ _ _ (hs.states_length ▸ hi)]
    split_ifs <;> rfl

/-- `add_knowledge` adds bits to one slot. -/
theorem add_knowledge_makes (hs : s.Good n) (hi : i < n) (bits : Status) :
    Makes n (s.add_knowledge i bits)
      fun j => if j = i then { s.slot j with status := (s.slot j).status ||| bits }
        else s.slot j := by
  refine (change_cache_state_makes hs hi _).congr fun j => ?_
  split_ifs with hj
  · subst hj; rfl
  · rfl

/-- `change_flags` records the flags of one slot. -/
theorem change_flags_makes (hs : s.Good n) (hi : i < n) (new_flags : Flags) :
    Makes n (s.change_flags i new_flags)
      fun j => if j = i then
          { s.slot j with flags := new_flags, status := (s.slot j).status ||| STATE_FLAG_KNOWN }
        else s.slot j := by
  unfold change_flags
  split_ifs with h
  · refine (Makes.pure hs).congr fun j => ?_
    split_ifs with hj
    · subst hj
      have hbit : (s.slot j).status ||| STATE_FLAG_KNOWN = (s.slot j).status := by
        have := h.1
        unfold is_flag_known at this
        show s.statusAt j ||| _ = s.statusAt j
        revert this
        generalize s.statusAt j = st
        revert st; decide
      rw [hbit, ← h.2]; rfl
    · rfl
  · refine (add_knowledge_makes hs hi _).bind fun s' hs' hslot => ?_
    have hs'' : Good n { s' with all_flags := s'.all_flags.set i new_flags } :=
      ⟨hs'.canonical, by simpa using hs'.flags_length, hs'.states_length, hs'.u_i_length,
        hs'.u_r_length⟩
    refine (Makes.unique hs'').congr fun j => ?_
    have hj := congrFun hslot j
    simp only [slot, statusAt, flagsAt, get_constant_u_i, get_constant_u_r,
      getD_set _ _ _ _ _ (hs'.flags_length ▸ hi)] at hj ⊢
    split_ifs at hj ⊢ <;> simp_all

/-- `set_u_i_constant` records the integer of one slot. -/
theorem set_u_i_constant_makes (hs : s.Good n) (hi : i < n) (v : ℤ) :
    Makes n (s.set_u_i_constant i v)
      fun j => if j = i then
          { s.slot j with u_i := v, status := (s.slot j).status ||| 10#4 }
        else s.slot j := by
  refine (add_knowledge_makes hs hi _).bind fun s' hs' hslot => ?_
  have hs'' : Good n { s' with u_i_constants := s'.u_i_constants.set i v } :=
    ⟨hs'.canonical, hs'.flags_length, hs'.states_length, by simpa using hs'.u_i_length,
      hs'.u_r_length⟩
  refine (Makes.unique hs'').congr fun j => ?_
  have hj := congrFun hslot j
  simp only [slot, statusAt, flagsAt, get_constant_u_i, get_constant_u_r,
    getD_set _ _ _ _ _ (hs'.u_i_length ▸ hi)] at hj ⊢
  split_ifs at hj ⊢ <;> simp_all

/-- `set_u_r_constant` records the float of one slot, if it is canonical. -/
theorem set_u_r_constant_makes (hs : s.Good n) (hi : i < n) {v : Binary64}
    (hv : CanonicalFloat v) :
    Makes n (s.set_u_r_constant i v)
      fun j => if j = i then
          { s.slot j with u_r := v, status := (s.slot j).status ||| 12#4 }
        else s.slot j := by
  refine (add_knowledge_makes hs hi _).bind fun s' hs' hslot => ?_
  have hs'' : Good n { s' with u_r_constants := s'.u_r_constants.set i v } := by
    refine ⟨?_, hs'.flags_length, hs'.states_length, hs'.u_i_length, by simpa using hs'.u_r_length⟩
    intro x hx
    rcases List.mem_or_eq_of_mem_set hx with hx | rfl
    · exact hs'.canonical x hx
    · exact hv
  refine (Makes.unique hs'').congr fun j => ?_
  have hj := congrFun hslot j
  simp only [slot, statusAt, flagsAt, get_constant_u_i, get_constant_u_r,
    getD_set _ _ _ _ _ (hs'.u_r_length ▸ hi)] at hj ⊢
  split_ifs at hj ⊢ <;> simp_all

/-- `set_unknown` forgets one slot and keeps the others. -/
theorem set_unknown_makes (hs : s.Good n) (hi : i < n) :
    ∃ f, Makes n (s.set_unknown i) f ∧ (f i).status = 0 ∧ ∀ j, j ≠ i → f j = s.slot j := by
  unfold set_unknown
  split_ifs with h
  · refine ⟨fun j => if j = i then { s.slot j with flags := 0, status := 0 } else s.slot j, ?_,
      by simp, fun j hj => by simp [hj]⟩
    refine (change_flags_makes hs hi 0).bind fun s' hs' hslot => ?_
    refine (change_cache_state_makes hs' hi _).congr fun j => ?_
    simp only [hslot]
    split_ifs <;> rfl
  · exact ⟨s.slot, Makes.pure hs, by simpa [slot] using h, fun _ _ => rfl⟩

/-- The state that knows nothing is good. -/
theorem all_unknown_good (n : ℕ) : (all_unknown n).Good n := by
  refine ⟨?_, by simp [all_unknown], by simp [all_unknown], by simp [all_unknown],
    by simp [all_unknown]⟩
  intro x hx
  obtain rfl := List.eq_of_mem_replicate hx
  exact canonicalFloat_zero

/-- All its statuses are zero. -/
@[simp] theorem all_unknown_statusAt (n j : ℕ) : (all_unknown n).statusAt j = 0 := by
  unfold statusAt all_unknown
  rw [List.getD_eq_getElem?_getD, List.getElem?_replicate]
  split_ifs <;> rfl

end CacheState

end SQPyte
