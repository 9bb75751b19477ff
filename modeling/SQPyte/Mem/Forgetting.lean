import SQPyte.Mem.CacheState

/-!
# What `set_unknown` forgets

A state of the flag cache is one of the table `CacheState._cache`, so states that are `eq` are the
same object, and the compiled code has one version of a loop for each object. `set_unknown` is to
take states that differ in one slot only to the same one.

It clears the flags and the status of the slot, and leaves its constants (`forgotten`). What an
operation returns is its result or an `eq` state that was made before (`Twin`), whatever the table
holds, so `eq_forgotten_iff` compares two histories by what `forgotten` leaves: the states are `eq`
afterwards exactly if the slot has the same constants in both, and the same flags where nothing was
known of it, and if no slot has a NaN, which is not `==` to itself.
-/

namespace SQPyte

namespace CacheState

/-- The float constants are `==`. -/
def Slot.Agrees (a b : Slot) : Prop :=
  a.flags = b.flags ∧ a.status = b.status ∧ a.u_i = b.u_i ∧ a.u_r.feq b.u_r = true

/-- The float constants are the same, or they are `==`. -/
structure Slot.Matches (a b : Slot) : Prop where
  /-- The flags are the same. -/
  flags : a.flags = b.flags
  /-- The status bits are the same. -/
  status : a.status = b.status
  /-- The integer constants are the same. -/
  u_i : a.u_i = b.u_i
  /-- A NaN is the same as itself, but not `==`. -/
  u_r : a.u_r = b.u_r ∨ a.u_r.feq b.u_r = true

/-- An operation of `CacheState` on a slot. -/
inductive CacheOp where
  /-- `change_flags(i, new_flags)`. -/
  | change_flags (i : ℕ) (new_flags : Flags)
  /-- `add_knowledge(i, statusbits)`. -/
  | add_knowledge (i : ℕ) (statusbits : Status)
  /-- `change_cache_state(i, status)`. -/
  | change_cache_state (i : ℕ) (status : Status)
  /-- `set_u_i_constant(i, u_i)`. -/
  | set_u_i_constant (i : ℕ) (u_i : ℤ)
  /-- `set_u_r_constant(i, u_r)`. -/
  | set_u_r_constant (i : ℕ) (u_r : Binary64)
  /-- `set_unknown(i)`. -/
  | set_unknown (i : ℕ)

namespace CacheOp

/-- The slot an operation is on. -/
def index : CacheOp → ℕ
  | change_flags i _ | add_knowledge i _ | change_cache_state i _ | set_u_i_constant i _
  | set_u_r_constant i _ | set_unknown i => i

/-- The state an operation leaves. -/
def run (s : CacheState) : CacheOp → StateM CacheTable CacheState
  | change_flags i new_flags => s.change_flags i new_flags
  | add_knowledge i statusbits => s.add_knowledge i statusbits
  | change_cache_state i status => s.change_cache_state i status
  | set_u_i_constant i u_i => s.set_u_i_constant i u_i
  | set_u_r_constant i u_r => s.set_u_r_constant i u_r
  | set_unknown i => s.set_unknown i

end CacheOp

/-! ## Equality -/

/-- Equality of reals is symmetric. -/
theorem feq_symm {x y : Binary64} (h : x.feq y = true) : y.feq x = true := by
  simp only [Binary64.feq, Bool.and_eq_true, decide_eq_true_eq] at h ⊢
  exact ⟨h.1.symm, h.2.symm⟩

/-- It is transitive. -/
theorem feq_trans {x y z : Binary64} (h : x.feq y = true) (h' : y.feq z = true) :
    x.feq z = true := by
  simp only [Binary64.feq, Bool.and_eq_true, decide_eq_true_eq] at h h' ⊢
  exact ⟨⟨h.1.1, h'.1.2⟩, h.2.trans h'.2⟩

/-- Lists of floats are `==` entry by entry. -/
theorem floatsEq_iff_getD (xs ys : List Binary64) : floatsEq xs ys = true ↔
    xs.length = ys.length ∧ ∀ j < xs.length, (xs.getD j 0).feq (ys.getD j 0) = true := by
  induction xs generalizing ys with
  | nil => cases ys <;> simp [floatsEq]
  | cons x xs ih =>
    cases ys with
    | nil => simp [floatsEq]
    | cons y ys =>
      simp only [floatsEq, Bool.and_eq_true, ih, List.length_cons, Nat.add_right_cancel_iff]
      constructor
      · rintro ⟨h0, hlen, h⟩
        refine ⟨hlen, fun j hj => ?_⟩
        cases j with
        | zero => exact h0
        | succ j => exact h j (by omega)
      · rintro ⟨hlen, h⟩
        exact ⟨h 0 (by omega), hlen, fun j hj => h (j + 1) (by omega)⟩

/-- Equality of lists of reals is symmetric. -/
theorem floatsEq_symm {xs ys : List Binary64} (h : floatsEq xs ys = true) :
    floatsEq ys xs = true := by
  rw [floatsEq_iff_getD] at h ⊢
  exact ⟨h.1.symm, fun j hj => feq_symm (h.2 j (h.1 ▸ hj))⟩

/-- It is transitive. -/
theorem floatsEq_trans {xs ys zs : List Binary64} (h : floatsEq xs ys = true)
    (h' : floatsEq ys zs = true) : floatsEq xs zs = true := by
  induction xs generalizing ys zs with
  | nil => cases ys <;> simp_all [floatsEq]
  | cons x xs ih =>
    cases ys with
    | nil => simp [floatsEq] at h
    | cons y ys =>
      cases zs with
      | nil => simp [floatsEq] at h'
      | cons z zs =>
        simp only [floatsEq, Bool.and_eq_true] at h h' ⊢
        exact ⟨feq_trans h.1 h'.1, ih h.2 h'.2⟩

/-- `a` is `b`, or an `eq` state. -/
structure Twin (a b : CacheState) : Prop where
  /-- The flags are the same. -/
  flags : a.all_flags = b.all_flags
  /-- The status bits are the same. -/
  states : a.cache_states = b.cache_states
  /-- The integer constants are the same. -/
  u_i : a.u_i_constants = b.u_i_constants
  /-- The float constants are the same, or they are `==`. -/
  u_r : a.u_r_constants = b.u_r_constants ∨ floatsEq a.u_r_constants b.u_r_constants = true

variable {a b c s t : CacheState} {n i : ℕ} {table : CacheTable}

/-- States are `eq` if they are equal, but for reals that only compare equal. -/
theorem eq_true_iff : a.eq b = true ↔ a.all_flags = b.all_flags ∧ a.cache_states = b.cache_states ∧
    a.u_i_constants = b.u_i_constants ∧ floatsEq a.u_r_constants b.u_r_constants = true := by
  simp only [eq, Bool.and_eq_true, beq_iff_eq, and_assoc]

/-- `eq` is symmetric. -/
theorem eq_symm (h : a.eq b = true) : b.eq a = true := by
  rw [eq_true_iff] at h ⊢
  obtain ⟨h1, h2, h3, h4⟩ := h
  exact ⟨h1.symm, h2.symm, h3.symm, floatsEq_symm h4⟩

/-- It is transitive. -/
theorem eq_trans (h : a.eq b = true) (h' : b.eq c = true) : a.eq c = true := by
  rw [eq_true_iff] at h h' ⊢
  obtain ⟨h1, h2, h3, h4⟩ := h
  obtain ⟨h1', h2', h3', h4'⟩ := h'
  exact ⟨h1.trans h1', h2.trans h2', h3.trans h3', floatsEq_trans h4 h4'⟩

/-- A state is its own twin. -/
theorem Twin.refl (a : CacheState) : Twin a a := ⟨rfl, rfl, rfl, Or.inl rfl⟩

/-- States that are `eq` are twins. -/
theorem Twin.of_eq (h : a.eq b = true) : Twin a b := by
  obtain ⟨h1, h2, h3, h4⟩ := eq_true_iff.mp h
  exact ⟨h1, h2, h3, Or.inr h4⟩

/-- Twins of twins are twins. -/
theorem Twin.trans (h : Twin a b) (h' : Twin b c) : Twin a c := by
  refine ⟨h.flags.trans h'.flags, h.states.trans h'.states, h.u_i.trans h'.u_i, ?_⟩
  rcases h.u_r with hr | hr
  · rw [hr]
    exact h'.u_r
  · rcases h'.u_r with hr' | hr'
    · exact Or.inr (hr' ▸ hr)
    · exact Or.inr (floatsEq_trans hr hr')

/-- A twin of a state that is `eq` to another is `eq` to it too. -/
theorem Twin.eq_of_eq (h : Twin a b) (h' : b.eq c = true) : a.eq c = true := by
  obtain ⟨h1, h2, h3, h4⟩ := eq_true_iff.mp h'
  refine eq_true_iff.mpr ⟨h.flags.trans h1, h.states.trans h2, h.u_i.trans h3, ?_⟩
  rcases h.u_r with hr | hr
  · rwa [hr]
  · exact floatsEq_trans hr h4

/-- Twins are `eq` to others exactly if these are `eq`. -/
theorem Twin.eq_iff {a' b' : CacheState} (h : Twin a b) (h' : Twin a' b') :
    a.eq a' = true ↔ b.eq b' = true := by
  -- Float lists that are `==` have no NaN, so the relation can be followed both ways.
  have hback : ∀ {x y z : CacheState}, Twin x y → x.eq z = true → y.eq z = true := by
    intro x y z hxy hxz
    obtain ⟨h1, h2, h3, h4⟩ := eq_true_iff.mp hxz
    refine eq_true_iff.mpr ⟨hxy.flags.symm.trans h1, hxy.states.symm.trans h2,
      hxy.u_i.symm.trans h3, ?_⟩
    rcases hxy.u_r with hr | hr
    · rwa [← hr]
    · exact floatsEq_trans (floatsEq_symm hr) h4
  constructor
  · exact fun heq => eq_symm (hback h' (eq_symm (hback h heq)))
  · exact fun heq => eq_symm (h'.eq_of_eq (eq_symm (h.eq_of_eq heq)))

/-! ## The table -/

/-- What `unique` returns is its state or one that is `eq`. -/
theorem twin_unique (s : CacheState) (table : CacheTable) : Twin (s.unique table).1 s := by
  unfold unique
  cases hf : table.find? fun t => t.eq s with
  | none => exact Twin.refl s
  | some r => exact Twin.of_eq (by simpa using List.find?_some hf)

/-! ## The operations -/

/-- The lists have one entry a cell. -/
structure HasCells (n : ℕ) (s : CacheState) : Prop where
  /-- The flags. -/
  flags : s.all_flags.length = n
  /-- The status bits. -/
  states : s.cache_states.length = n
  /-- The integer constants. -/
  u_i : s.u_i_constants.length = n
  /-- The float constants. -/
  u_r : s.u_r_constants.length = n

/-- Twins have the same number of cells. -/
theorem Twin.hasCells (h : Twin a b) (hb : HasCells n b) : HasCells n a := by
  refine ⟨by rw [h.flags, hb.flags], by rw [h.states, hb.states], by rw [h.u_i, hb.u_i], ?_⟩
  rcases h.u_r with hr | hr
  · rw [hr, hb.u_r]
  · rw [((floatsEq_iff_getD _ _).mp hr).1, hb.u_r]

/-- Equality is equality of the slots. -/
theorem eq_iff_agrees (ha : HasCells n a) (hb : HasCells n b) :
    a.eq b = true ↔ ∀ j < n, (a.slot j).Agrees (b.slot j) := by
  -- Lists of one length are equal when their elements are.
  have hlist : ∀ {α : Type} [Inhabited α] (d : α) {xs ys : List α}, xs.length = n → ys.length = n →
      (xs = ys ↔ ∀ j < n, xs.getD j d = ys.getD j d) := by
    intro α _ d xs ys hx hy
    refine ⟨fun h j _ => by rw [h], fun h => ?_⟩
    refine List.ext_getElem (hx.trans hy.symm) fun j hj hj' => ?_
    rw [List.getElem_eq_getD d, List.getElem_eq_getD d]
    exact h j (hx ▸ hj)
  rw [eq_true_iff, hlist 0 ha.flags hb.flags, hlist 0 ha.states hb.states, hlist 0 ha.u_i hb.u_i,
    floatsEq_iff_getD, ha.u_r, hb.u_r]
  constructor
  · rintro ⟨h1, h2, h3, -, h4⟩ j hj
    exact ⟨h1 j hj, h2 j hj, h3 j hj, h4 j hj⟩
  · intro h
    exact ⟨fun j hj => (h j hj).1, fun j hj => (h j hj).2.1, fun j hj => (h j hj).2.2.1, rfl,
      fun j hj => (h j hj).2.2.2⟩

/-- An operation leaves a twin of `c`, whatever the table holds. -/
def LeavesTwin (m : StateM CacheTable CacheState) (c : CacheState) : Prop :=
  ∀ table, Twin (m table).1 c

/-- Writing an element back changes nothing. -/
theorem set_getD_self {α : Type} {l : List α} (d : α) (h : i < l.length) :
    l.set i (l.getD i d) = l := by
  rw [← List.getElem_eq_getD (h := h), List.set_getElem_self]

/-- `change_cache_state` leaves a twin of what it says. -/
theorem twin_change_cache_state (hs : HasCells n s) (hi : i < n) (status : Status) :
    LeavesTwin (s.change_cache_state i status)
      { s with cache_states := s.cache_states.set i status } := by
  intro table
  unfold change_cache_state
  split_ifs with h
  · refine ⟨rfl, ?_, rfl, Or.inl rfl⟩
    have hlt : i < s.cache_states.length := hs.states ▸ hi
    rw [← h]
    exact (set_getD_self 0 hlt).symm
  · exact twin_unique _ table

/-- After an operation, `unique` interns the state with one more list changed. -/
theorem twin_bind_unique {m : StateM CacheTable CacheState} {f : CacheState → CacheState}
    (hm : LeavesTwin m c) (hf : ∀ a b, Twin a b → Twin (f a) (f b)) :
    LeavesTwin (m >>= fun a => (f a).unique) (f c) := by
  intro table
  have hbind : ((m >>= fun a => (f a).unique) table).1 =
      ((f (m table).1).unique (m table).2).1 := rfl
  rw [hbind]
  exact (twin_unique _ _).trans (hf _ _ (hm table))

/-- `change_flags` leaves a twin of what it says. -/
theorem twin_change_flags (hs : HasCells n s) (hi : i < n) (new_flags : Flags) :
    LeavesTwin (s.change_flags i new_flags)
      { s with
        cache_states := s.cache_states.set i (s.statusAt i ||| STATE_FLAG_KNOWN)
        all_flags := s.all_flags.set i new_flags } := by
  intro table
  unfold change_flags
  split_ifs with h
  · -- The flags are known already and are the same, so the state is returned as it is.
    have hknown : s.statusAt i ||| STATE_FLAG_KNOWN = s.statusAt i := by
      have hbit := h.1
      unfold is_flag_known at hbit
      revert hbit
      generalize s.statusAt i = st
      revert st
      decide
    have hflags : i < s.all_flags.length := hs.flags ▸ hi
    have hstates : i < s.cache_states.length := hs.states ▸ hi
    refine ⟨?_, ?_, rfl, Or.inl rfl⟩
    · rw [← h.2]
      exact (set_getD_self 0 hflags).symm
    · rw [hknown]
      exact (set_getD_self 0 hstates).symm
  · exact twin_bind_unique (f := fun a => { a with all_flags := a.all_flags.set i new_flags })
      (twin_change_cache_state hs hi _)
      (fun a b h => ⟨by rw [h.flags], h.states, h.u_i, h.u_r⟩) table

/-! ## `set_unknown` -/

/-- What `set_unknown` leaves: the constants of the slot, and its flags where nothing is known. -/
def forgotten (s : CacheState) (i : ℕ) : CacheState :=
  if s.statusAt i = 0 then s
  else { s with all_flags := s.all_flags.set i 0, cache_states := s.cache_states.set i 0 }

/-- What is left has the same number of cells. -/
theorem hasCells_forgotten (hs : HasCells n s) (i : ℕ) : HasCells n (s.forgotten i) := by
  unfold forgotten
  split_ifs
  · exact hs
  · exact ⟨by rw [List.length_set]; exact hs.flags, by rw [List.length_set]; exact hs.states,
      hs.u_i, hs.u_r⟩

/-- The slots that are left. -/
theorem slot_forgotten (hs : HasCells n s) (hi : i < n) (j : ℕ) :
    (s.forgotten i).slot j =
      if j = i then ⟨if s.statusAt i = 0 then s.flagsAt i else 0, 0, s.get_constant_u_i i,
        s.get_constant_u_r i⟩
      else s.slot j := by
  unfold forgotten
  by_cases h : s.statusAt i = 0
  · rw [if_pos h, if_pos h]
    split_ifs with hj
    · subst hj
      unfold slot
      rw [h]
    · rfl
  · rw [if_neg h, if_neg h]
    simp only [slot, statusAt, flagsAt, get_constant_u_i, get_constant_u_r,
      getD_set _ _ _ _ _ (hs.flags ▸ hi), getD_set _ _ _ _ _ (hs.states ▸ hi)]
    split_ifs with hj
    · subst hj
      rfl
    · rfl

/-- With its flags known, something is known of the slot. -/
theorem statusAt_change_flags_ne_zero (hs : HasCells n s) (hi : i < n) (new_flags : Flags)
    (table : CacheTable) : (s.change_flags i new_flags table).1.statusAt i ≠ 0 := by
  have hstates : (s.change_flags i new_flags table).1.statusAt i =
      s.statusAt i ||| STATE_FLAG_KNOWN := by
    unfold statusAt
    rw [(twin_change_flags hs hi new_flags table).states, getD_set _ _ _ _ _ (hs.states ▸ hi),
      if_pos rfl]
    rfl
  rw [hstates]
  generalize s.statusAt i = st
  revert st
  decide

/-- Where something is known of the slot, `set_unknown` ends with `unique`. -/
theorem set_unknown_eq_unique (hs : HasCells n s) (hi : i < n) (hst : s.statusAt i ≠ 0)
    (table : CacheTable) :
    ∃ c mid, s.set_unknown i table = c.unique mid ∧ Twin c (s.forgotten i) := by
  have htwin := twin_change_flags hs hi 0 table
  refine ⟨{ (s.change_flags i 0 table).1 with
      cache_states := (s.change_flags i 0 table).1.cache_states.set i 0 },
    (s.change_flags i 0 table).2, ?_, ?_⟩
  · -- The flags are set to 0 first, which makes them known; then the status is cleared, which is a
    -- change.
    have hbind : s.set_unknown i table =
        (s.change_flags i 0 table).1.change_cache_state i STATE_UNKNOWN
          (s.change_flags i 0 table).2 := by
      unfold set_unknown
      rw [if_pos hst]
      rfl
    rw [hbind]
    unfold change_cache_state
    rw [if_neg (show ¬ _ = STATE_UNKNOWN from statusAt_change_flags_ne_zero hs hi 0 table)]
    rfl
  · unfold forgotten
    rw [if_neg hst]
    refine ⟨htwin.flags, ?_, htwin.u_i, htwin.u_r⟩
    show (s.change_flags i 0 table).1.cache_states.set i 0 = s.cache_states.set i 0
    rw [htwin.states, List.set_set]

/-- `set_unknown` leaves a twin of `forgotten`. -/
theorem twin_set_unknown (hs : HasCells n s) (hi : i < n) :
    LeavesTwin (s.set_unknown i) (s.forgotten i) := by
  intro table
  by_cases hst : s.statusAt i = 0
  · unfold set_unknown forgotten
    rw [if_neg (not_not.mpr hst), if_pos hst]
    exact Twin.refl s
  · obtain ⟨c, mid, heq, htwin⟩ := set_unknown_eq_unique hs hi hst table
    rw [heq]
    exact (twin_unique c mid).trans htwin

/-- There is nothing beyond the cells. -/
theorem slot_of_le (hs : HasCells n s) {j : ℕ} (hj : n ≤ j) : s.slot j = ⟨0, 0, 0, 0⟩ := by
  have hget : ∀ {α : Type} (d : α) (l : List α), l.length = n → l.getD j d = d :=
    fun d l hl => by rw [List.getD_eq_getElem?_getD, List.getElem?_eq_none (by omega)]; rfl
  unfold slot flagsAt statusAt get_constant_u_i get_constant_u_r
  rw [hget _ _ hs.flags, hget _ _ hs.states, hget _ _ hs.u_i, hget _ _ hs.u_r]

/-- The slots of twins match. -/
theorem Twin.matches (h : Twin a b) (hb : HasCells n b) (j : ℕ) : (a.slot j).Matches (b.slot j) := by
  by_cases hj : j < n
  · refine ⟨?_, ?_, ?_, ?_⟩
    · show a.all_flags.getD j 0 = b.all_flags.getD j 0
      rw [h.flags]
    · show a.cache_states.getD j 0 = b.cache_states.getD j 0
      rw [h.states]
    · show a.u_i_constants.getD j 0 = b.u_i_constants.getD j 0
      rw [h.u_i]
    · refine h.u_r.imp (fun hr => congrArg (fun l => l.getD j 0) hr) fun hr => ?_
      exact ((floatsEq_iff_getD _ _).mp hr).2 j ((h.hasCells hb).u_r ▸ hj)
  · rw [slot_of_le (h.hasCells hb) (not_lt.mp hj), slot_of_le hb (not_lt.mp hj)]
    exact ⟨rfl, rfl, rfl, Or.inl rfl⟩

/-- `set_unknown` leaves the other slots of `s`. -/
theorem matches_set_unknown (hs : HasCells n s) (hi : i < n) (table : CacheTable) {j : ℕ}
    (hj : j ≠ i) : ((s.set_unknown i table).1.slot j).Matches (s.slot j) := by
  have hmatches := (twin_set_unknown hs hi table).matches (hasCells_forgotten hs i) j
  rwa [slot_forgotten hs hi, if_neg hj] at hmatches

/-- Without a NaN or a negative zero they are the same. -/
theorem slot_set_unknown_of_canonical (hs : HasCells n s) (hi : i < n) (hcanonical : s.Canonical)
    {table : CacheTable} (htable : CanonicalTable table) {j : ℕ} (hj : j ≠ i) :
    (s.set_unknown i table).1.slot j = s.slot j := by
  have hgood : s.Good n := ⟨hcanonical, hs.flags, hs.states, hs.u_i, hs.u_r⟩
  obtain ⟨f, hmakes, -, hothers⟩ := set_unknown_makes hgood hi
  obtain ⟨s', table', heq, -, -, hslots⟩ := hmakes table htable
  rw [heq]
  exact (hslots j).trans (hothers j hj)

/-- Two states leave the same of slot `i`: the same constants, and the same flags where nothing is
known. -/
def SameLeftovers (s t : CacheState) (i : ℕ) : Prop :=
  (if s.statusAt i = 0 then s.flagsAt i else 0) = (if t.statusAt i = 0 then t.flagsAt i else 0) ∧
    s.get_constant_u_i i = t.get_constant_u_i i ∧
    (s.get_constant_u_r i).feq (t.get_constant_u_r i) = true

/-- The float constants but for that of slot `i` are numbers. -/
def NumbersBut (s : CacheState) (n i : ℕ) : Prop :=
  ∀ j < n, j ≠ i → (s.get_constant_u_r j).isNaN = false

/-- Slots that match are `eq` if their float is a number. -/
theorem Slot.Matches.agrees_iff {x y : Slot} (h : x.Matches y) : x.Agrees y ↔ x.u_r.isNaN = false := by
  obtain ⟨hflags, hstatus, hu_i, hu_r⟩ := h
  constructor
  · rintro ⟨-, -, -, hfeq⟩
    simp only [Binary64.feq, Bool.and_eq_true] at hfeq
    simpa using hfeq.1.1
  · intro hnumber
    refine ⟨hflags, hstatus, hu_i, hu_r.elim (fun hr => ?_) id⟩
    rw [← hr]
    simp [Binary64.feq, hnumber]

/-- What is left of states that match but for slot `i`. -/
theorem eq_forgotten_iff (hs : HasCells n s) (ht : HasCells n t) (hi : i < n)
    (h : ∀ j < n, j ≠ i → (s.slot j).Matches (t.slot j)) :
    (s.forgotten i).eq (t.forgotten i) = true ↔ SameLeftovers s t i ∧ s.NumbersBut n i := by
  rw [eq_iff_agrees (hasCells_forgotten hs i) (hasCells_forgotten ht i)]
  simp only [slot_forgotten hs hi, slot_forgotten ht hi]
  constructor
  · intro hall
    have hslot := hall i hi
    rw [if_pos rfl, if_pos rfl] at hslot
    refine ⟨⟨hslot.1, hslot.2.2.1, hslot.2.2.2⟩, fun j hj hji => ?_⟩
    have hother := hall j hj
    rw [if_neg hji, if_neg hji] at hother
    exact (h j hj hji).agrees_iff.mp hother
  · rintro ⟨⟨hflags, hu_i, hu_r⟩, hnumbers⟩ j hj
    by_cases hji : j = i
    · rw [if_pos hji, if_pos hji]
      exact ⟨hflags, rfl, hu_i, hu_r⟩
    · rw [if_neg hji, if_neg hji]
      exact (h j hj hji).agrees_iff.mpr (hnumbers j hj hji)

/-- The constant of the slot is left. -/
theorem constant_eq_of_eq_forgotten (hs : HasCells n s) (ht : HasCells n t) (hi : i < n)
    (heq : (s.forgotten i).eq (t.forgotten i) = true) :
    s.get_constant_u_i i = t.get_constant_u_i i := by
  have hslot := (eq_iff_agrees (hasCells_forgotten hs i) (hasCells_forgotten ht i)).mp heq i hi
  rw [slot_forgotten hs hi, slot_forgotten ht hi, if_pos rfl, if_pos rfl] at hslot
  exact hslot.2.2.1

end CacheState

end SQPyte
