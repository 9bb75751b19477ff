import SQPyte.Library.InternTable
import SQPyte.Library.Runs
import SQPyte.Mem.Forgetting

/-!
# Cache states as objects

`CacheState.lean` gives each operation by the values it makes. Here a cache state is an object, which
a copy does not share lists with, and which an assignment to an entry of a list modifies. The table
`_cache` holds references, and so does every statement for its `_invalid_cache_state`, which
`all_unknown` makes without looking into the table.

A world is what all statements of a process share. It also keeps a record, which the code does not
have, of the states that were stored and of the calls that returned a state. Its events are the
creation of a statement and a call on a state that was obtained before, in any order. `set_unknown`
is two such calls. `perform_refines` connects the objects to the values of `CacheState.lean`.

What a call asks for is `Request.answer`. The table is searched with `==`, so a call gets that only if
no state of the table differs from it in the sign of a zero. A state with a NaN is never found again,
and a state with the contents of a statement's `_invalid_cache_state` is made a second time. These
are all the ways in which a run goes wrong (`interned_iff_clean`).
-/

namespace SQPyte.Interning

open InternTable (Store)

instance : Inhabited CacheState := ⟨CacheState.all_unknown 0⟩

/-- A reference to a `CacheState`. -/
abbrev Ref := ℕ

/-- A call of an operation that returns a cache state. -/
inductive Request
  | change_flags (i : ℕ) (new_flags : Flags)
  | change_cache_state (i : ℕ) (status : Status)
  | set_u_i_constant (i : ℕ) (u_i : ℤ)
  | set_u_r_constant (i : ℕ) (u_r : Binary64)
deriving DecidableEq

/-- The cell the call is about. -/
def Request.slot : Request → ℕ
  | change_flags i _ | change_cache_state i _ | set_u_i_constant i _ | set_u_r_constant i _ => i

/-- A call that was made, on what state, and the state it returned. -/
structure Call where
  /-- The state the operation was called on. -/
  self : Ref
  /-- What was called. -/
  request : Request
  /-- The state that was returned. -/
  result : Ref
deriving DecidableEq

/-- What the statements of a process share: the objects and the table, which is `cache`. -/
structure World extends Store CacheState where
  /-- The `_invalid_cache_state` of each statement. -/
  invalid : List Ref
  /-- The states that were stored in the table, with their contents at that time. -/
  stored : List (Ref × CacheState)
  /-- The calls made so far. -/
  calls : List Call

/-- The world before the first statement. -/
def World.empty : World := ⟨⟨[], []⟩, [], [], []⟩

/-- The states that were obtained by a call or are a statement's invalid state. -/
def World.obtained (w : World) : List Ref := w.invalid ++ w.calls.map Call.result

abbrev InternM := StateM World

/-! ## The operations -/

/-- `CacheState(..)`. -/
def new (s : CacheState) : InternM Ref := fun w =>
  (w.objects.length, { w with toStore := w.alloc s })

/-- `copy`. All four lists are copied. -/
def copy (self : Ref) : InternM Ref := do
  let w ← get
  new (w.deref self)

/-- An assignment to entries of the lists of an object. -/
def assign (self : Ref) (f : CacheState → CacheState) : InternM Unit := fun w =>
  ((), { w with objects := w.objects.modify self f })

/-- `unique`. -/
def unique (self : Ref) : InternM Ref := fun w =>
  match w.found CacheState.eq (w.deref self) with
  | some newself => (newself, w)
  | none =>
    (self, { w with cache := self :: w.cache, stored := (self, w.deref self) :: w.stored })

/-- The last lines of every operation: a copy is modified and interned. -/
def update (self : Ref) (f : CacheState → CacheState) : InternM Ref := do
  let result ← copy self
  assign result f
  unique result

/-- Puts a call on record. -/
def recorded (self : Ref) (request : Request) (body : InternM Ref) : InternM Ref := do
  let result ← body
  modify fun w => { w with calls := ⟨self, request, result⟩ :: w.calls }
  pure result

/-- `change_cache_state`. -/
def change_cache_state (self : Ref) (i : ℕ) (status : Status) : InternM Ref :=
  recorded self (.change_cache_state i status) do
    let w ← get
    if (w.deref self).statusAt i = status then pure self
    else update self fun result => { result with cache_states := result.cache_states.set i status }

/-- `add_knowledge`. -/
def add_knowledge (self : Ref) (i : ℕ) (statusbits : Status) : InternM Ref := do
  let w ← get
  change_cache_state self i ((w.deref self).statusAt i ||| statusbits)

/-- `change_flags`. -/
def change_flags (self : Ref) (i : ℕ) (new_flags : Flags) : InternM Ref :=
  recorded self (.change_flags i new_flags) do
    let w ← get
    if (w.deref self).is_flag_known i ∧ (w.deref self).flagsAt i = new_flags then pure self
    else do
      let self ← add_knowledge self i STATE_FLAG_KNOWN
      update self fun result => { result with all_flags := result.all_flags.set i new_flags }

/-- `set_u_i_constant`. -/
def set_u_i_constant (self : Ref) (i : ℕ) (u_i : ℤ) : InternM Ref :=
  recorded self (.set_u_i_constant i u_i) do
    let self ← add_knowledge self i (STATE_INT_KNOWN ||| STATE_CONSTANT)
    update self fun result => { result with u_i_constants := result.u_i_constants.set i u_i }

/-- `set_u_r_constant`. -/
def set_u_r_constant (self : Ref) (i : ℕ) (u_r : Binary64) : InternM Ref :=
  recorded self (.set_u_r_constant i u_r) do
    let self ← add_knowledge self i (STATE_FLOAT_KNOWN ||| STATE_CONSTANT)
    update self fun result => { result with u_r_constants := result.u_r_constants.set i u_r }

/-- `set_unknown`, which is two of the calls above. -/
def set_unknown (self : Ref) (i : ℕ) : InternM Ref := do
  let w ← get
  if (w.deref self).statusAt i ≠ 0 then do
    let self ← change_flags self i 0
    change_cache_state self i STATE_UNKNOWN
  else pure self

/-- `CacheHolder.__init__`, as far as it makes a state. -/
def init (num_flags : ℕ) : InternM Unit := do
  let r ← new (CacheState.all_unknown num_flags)
  modify fun w => { w with invalid := r :: w.invalid }

/-- The call of an operation. -/
def perform (self : Ref) : Request → InternM Ref
  | .change_flags i new_flags => change_flags self i new_flags
  | .change_cache_state i status => change_cache_state self i status
  | .set_u_i_constant i u_i => set_u_i_constant self i u_i
  | .set_u_r_constant i u_r => set_u_r_constant self i u_r

/-- The number of cells of a state. -/
def cells (s : CacheState) : ℕ := s.all_flags.length

/-- A statement is created, or an operation is called on a state. -/
inductive Event
  | init (num_flags : ℕ)
  | request (self : Ref) (request : Request)

/-- A call is on a state that was obtained before and about one of its cells. -/
def step (w : World) : Event → Option World
  | .init num_flags => some (init num_flags w).2
  | .request self r =>
    if self ∈ w.obtained ∧ r.slot < cells (w.deref self) then some (perform self r w).2 else none

/-! ## What is asked for -/

/-- The contents the call asks for, on a state with these contents. -/
def Request.answer : Request → CacheState → CacheState
  | change_flags i new_flags, s =>
    { s with
      all_flags := s.all_flags.set i new_flags
      cache_states := s.cache_states.set i (s.statusAt i ||| STATE_FLAG_KNOWN) }
  | change_cache_state i status, s => { s with cache_states := s.cache_states.set i status }
  | set_u_i_constant i u_i, s =>
    { s with
      cache_states := s.cache_states.set i (s.statusAt i ||| (STATE_INT_KNOWN ||| STATE_CONSTANT))
      u_i_constants := s.u_i_constants.set i u_i }
  | set_u_r_constant i u_r, s =>
    { s with
      cache_states :=
        s.cache_states.set i (s.statusAt i ||| (STATE_FLOAT_KNOWN ||| STATE_CONSTANT))
      u_r_constants := s.u_r_constants.set i u_r }

/-- The last constant float that was written for cell `i` on the way to a state is `v`. -/
inductive LastConstant (calls : List Call) (i : ℕ) (v : Binary64) : Ref → Prop
  | write {self result : Ref} (h : ⟨self, .set_u_r_constant i v, result⟩ ∈ calls) :
      LastConstant calls i v result
  | keep {self result : Ref} {request : Request} (hself : LastConstant calls i v self)
      (h : ⟨self, request, result⟩ ∈ calls) (hkeep : ∀ u, request ≠ .set_u_r_constant i u) :
      LastConstant calls i v result

/-- Interning was exact so far. -/
structure Interned (w : World) : Prop where
  /-- Every state that was returned has the contents that were asked for. -/
  exact : ∀ c ∈ w.calls, w.deref c.result = c.request.answer (w.deref c.self)
  /-- The obtained states are the same object exactly if their contents are equal. -/
  same : ∀ a ∈ w.obtained, ∀ b ∈ w.obtained, a = b ↔ w.deref a = w.deref b
  /-- `get_constant_u_r` gives the last constant. -/
  constants : ∀ i v r, LastConstant w.calls i v r → (w.deref r).get_constant_u_r i = v
  /-- Every state that was ever stored in the table has the contents it was stored with. -/
  unmodified : ∀ p ∈ w.stored, w.deref p.1 = p.2

/-! ## The condition -/

/-- The contents of the statements' invalid states. -/
def World.unknown (w : World) : List CacheState := w.invalid.map w.deref

/-- Contents can be interned exactly: they fit the table and no statement's invalid state has
them. -/
structure Clean (unknown table : List CacheState) (s : CacheState) : Prop where
  /-- The table has no other contents that are `==`, and these are `==` themselves if it has them. -/
  fits : Store.Fits CacheState.eq table s
  /-- No invalid state has them. -/
  fresh : s ∉ unknown

/-- Contents can be interned exactly one after the other. -/
def CleanAll (unknown : List CacheState) : List CacheState → List CacheState → Prop
  | _, [] => True
  | table, s :: ss => Clean unknown table s ∧ CleanAll unknown (s :: table) ss

/-- What `change_cache_state` interns. -/
def asksStatus (s : CacheState) (i : ℕ) (status : Status) : List CacheState :=
  if s.statusAt i = status then [] else [(Request.change_cache_state i status).answer s]

/-- The contents that the call interns, in order. -/
def Request.asks (r : Request) (s : CacheState) : List CacheState :=
  match r with
  | change_flags i new_flags =>
    if s.is_flag_known i ∧ s.flagsAt i = new_flags then []
    else asksStatus s i (s.statusAt i ||| STATE_FLAG_KNOWN) ++ [r.answer s]
  | change_cache_state i status => asksStatus s i status
  | set_u_i_constant i _ =>
    asksStatus s i (s.statusAt i ||| (STATE_INT_KNOWN ||| STATE_CONSTANT)) ++ [r.answer s]
  | set_u_r_constant i _ =>
    asksStatus s i (s.statusAt i ||| (STATE_FLOAT_KNOWN ||| STATE_CONSTANT)) ++ [r.answer s]

/-- A statement is not created with the contents of a state obtained before, and what a call interns
can be interned exactly. -/
def CleanEvent (w : World) : Event → Prop
  | .init num_flags => CacheState.all_unknown num_flags ∉ w.obtained.map w.deref
  | .request self r =>
    self ∈ w.obtained → r.slot < cells (w.deref self) →
      CleanAll w.unknown w.table (r.asks (w.deref self))

/-- Whether a state is clean depends on what is in the table, not on its order. -/
theorem Clean.congr {unknown table table' : List CacheState} {s : CacheState}
    (h : ∀ t, t ∈ table' ↔ t ∈ table) : Clean unknown table' s ↔ Clean unknown table s := by
  have hfits : Store.Fits CacheState.eq table' s ↔ Store.Fits CacheState.eq table s := by
    simp only [Store.Fits, h]
  exact ⟨fun hc => ⟨hfits.mp hc.fits, hc.fresh⟩, fun hc => ⟨hfits.mpr hc.fits, hc.fresh⟩⟩

/-- A list of states is clean one by one, each with those before it in the table. -/
theorem cleanAll_append_singleton {unknown table ss : List CacheState} {s : CacheState} :
    CleanAll unknown table (ss ++ [s]) ↔
      CleanAll unknown table ss ∧ Clean unknown (ss.reverse ++ table) s := by
  induction ss generalizing table with
  | nil => simp [CleanAll]
  | cons t ss ih =>
    simp only [List.cons_append, CleanAll, ih, List.reverse_cons, List.append_assoc,
      List.nil_append, and_assoc]

/-- The table is searched with a partial equality. -/
theorem partialEq : InternTable.PartialEq CacheState.eq :=
  ⟨CacheState.eq_symm, CacheState.eq_trans⟩

/-! ## What an answer changes -/

/-- The four lists of a state have the same length. -/
structure Aligned (s : CacheState) : Prop where
  /-- One status a cell. -/
  states : s.cache_states.length = cells s
  /-- One integer a cell. -/
  u_i : s.u_i_constants.length = cells s
  /-- One float a cell. -/
  u_r : s.u_r_constants.length = cells s

/-- The state that knows nothing has the same number of slots in all its lists. -/
theorem aligned_all_unknown (num_flags : ℕ) : Aligned (CacheState.all_unknown num_flags) := by
  constructor <;> simp [cells, CacheState.all_unknown]

/-- A request keeps the lists in step. -/
theorem Aligned.answer {s : CacheState} (hs : Aligned s) (r : Request) : Aligned (r.answer s) := by
  obtain ⟨hstates, hu_i, hu_r⟩ := hs
  cases r <;> constructor <;> simp only [Request.answer, cells, List.length_set] <;> assumption

/-- A request keeps the number of cells. -/
@[simp] theorem cells_answer (r : Request) (s : CacheState) : cells (r.answer s) = cells s := by
  cases r <;> simp [Request.answer, cells]

/-- What the call asks for, of the record of its cell. -/
def Request.onSlot : Request → CacheState.Slot → CacheState.Slot
  | change_flags _ new_flags, sl =>
    { sl with flags := new_flags, status := sl.status ||| STATE_FLAG_KNOWN }
  | change_cache_state _ status, sl => { sl with status := status }
  | set_u_i_constant _ u_i, sl =>
    { sl with u_i := u_i, status := sl.status ||| (STATE_INT_KNOWN ||| STATE_CONSTANT) }
  | set_u_r_constant _ u_r, sl =>
    { sl with u_r := u_r, status := sl.status ||| (STATE_FLOAT_KNOWN ||| STATE_CONSTANT) }

/-- A call asks for a change of the record of its cell only. -/
theorem answer_slot {s : CacheState} (hs : Aligned s) {r : Request} (hr : r.slot < cells s) (j : ℕ) :
    (r.answer s).slot j = if j = r.slot then r.onSlot (s.slot j) else s.slot j := by
  have hstates : r.slot < s.cache_states.length := hs.states ▸ hr
  have hu_i : r.slot < s.u_i_constants.length := hs.u_i ▸ hr
  have hu_r : r.slot < s.u_r_constants.length := hs.u_r ▸ hr
  unfold cells at hr
  unfold CacheState.slot CacheState.flagsAt CacheState.statusAt CacheState.get_constant_u_i
    CacheState.get_constant_u_r
  by_cases hj : j = r.slot
  · rw [if_pos hj]
    cases r <;> simp only [Request.slot] at * <;>
      simp [Request.answer, Request.onSlot, CacheState.statusAt, *]
  · rw [if_neg hj]
    have hj' : r.slot ≠ j := Ne.symm hj
    cases r <;> simp only [Request.slot] at * <;> simp [Request.answer, *]

/-- Only a write to its constant changes the constant of a cell. -/
theorem answer_constant {s : CacheState} (hs : Aligned s) {r : Request} (hr : r.slot < cells s) {i : ℕ}
    (hkeep : ∀ u, r ≠ .set_u_r_constant i u) :
    (r.answer s).get_constant_u_r i = s.get_constant_u_r i := by
  have hslot := congrArg CacheState.Slot.u_r (answer_slot hs hr i)
  refine hslot.trans ?_
  split_ifs with hi
  · cases r with
    | set_u_r_constant j u => exact absurd (by rw [hi]; rfl) (hkeep u)
    | _ => rfl
  · rfl

/-! ## Worlds -/

/-- What holds of every world that is reached, exact or not. -/
structure Base (w : World) : Prop where
  /-- The table is in order. -/
  wf : w.toStore.Wf CacheState.eq
  /-- Invalid states are objects. -/
  invalid_lt : ∀ r ∈ w.invalid, r < w.objects.length
  /-- Invalid states are not in the table. -/
  apart : ∀ r ∈ w.invalid, r ∉ w.cache
  /-- The calls returned invalid states and the states of the table. -/
  obtained : ∀ r, r ∈ w.obtained ↔ r ∈ w.invalid ∨ r ∈ w.cache
  /-- The calls were on such states, and about one of their cells. -/
  calls : ∀ c ∈ w.calls, c.self ∈ w.obtained ∧ c.request.slot < cells (w.deref c.self)
  /-- These states have lists of the same length. -/
  aligned : ∀ r ∈ w.obtained, Aligned (w.deref r)
  /-- What was stored is unmodified. -/
  stored : ∀ p ∈ w.stored, p.1 < w.objects.length ∧ w.deref p.1 = p.2

/-- A later world has the objects, the table, the invalid states and the calls of an earlier one. -/
structure Grows (w w' : World) : Prop where
  /-- No object was modified. -/
  objects : w.objects <+: w'.objects
  /-- No object was taken out of the table. -/
  cache : w.cache ⊆ w'.cache
  /-- No statement forgot its invalid state. -/
  invalid : w.invalid ⊆ w'.invalid
  /-- The record of the calls is kept. -/
  calls : w.calls ⊆ w'.calls

variable {w w' w'' : World}

/-- Nothing has happened. -/
theorem Grows.refl (w : World) : Grows w w :=
  ⟨List.prefix_rfl, fun _ h => h, fun _ h => h, fun _ h => h⟩

/-- One thing has happened after the other. -/
theorem Grows.trans (h : Grows w w') (h' : Grows w' w'') : Grows w w'' :=
  ⟨h.objects.trans h'.objects, fun _ hr => h'.cache (h.cache hr),
    fun _ hr => h'.invalid (h.invalid hr), fun _ hc => h'.calls (h.calls hc)⟩

/-- What was obtained is an object. -/
theorem Base.lt (hw : Base w) {r : Ref} (hr : r ∈ w.obtained) : r < w.objects.length :=
  ((hw.obtained r).mp hr).elim (hw.invalid_lt r) (hw.wf.lt r)

/-- The result of a call was obtained. -/
theorem Base.result (_ : Base w) {c : Call} (hc : c ∈ w.calls) : c.result ∈ w.obtained :=
  List.mem_append_right _ (List.mem_map_of_mem hc)

/-- What was obtained stays so. -/
theorem Grows.obtained (h : Grows w w') {r : Ref} (hr : r ∈ w.obtained) : r ∈ w'.obtained := by
  rcases List.mem_append.mp hr with hr | hr
  · exact List.mem_append_left _ (h.invalid hr)
  · obtain ⟨c, hc, rfl⟩ := List.mem_map.mp hr
    exact List.mem_append_right _ (List.mem_map_of_mem (h.calls hc))

/-- A state that was obtained keeps its contents. -/
theorem Base.deref (hw : Base w) (h : Grows w w') {r : Ref} (hr : r ∈ w.obtained) :
    w'.deref r = w.deref r :=
  Store.deref_of_prefix h.objects (hw.lt hr)

/-- The last constants follow from the answers. -/
theorem Base.interned (hw : Base w)
    (hexact : ∀ c ∈ w.calls, w.deref c.result = c.request.answer (w.deref c.self))
    (hsame : ∀ a ∈ w.obtained, ∀ b ∈ w.obtained, a = b ↔ w.deref a = w.deref b) : Interned w := by
  refine ⟨hexact, hsame, fun i v r h => ?_, fun p hp => (hw.stored p hp).2⟩
  induction h with
  | @write self result h =>
    obtain ⟨hself, hslot⟩ := hw.calls _ h
    have hu_r := congrArg CacheState.Slot.u_r
      ((answer_slot (hw.aligned _ hself) hslot i).trans (if_pos rfl))
    rw [hexact _ h]
    exact hu_r
  | @keep self result request _ h hkeep ih =>
    obtain ⟨hself, hslot⟩ := hw.calls _ h
    rw [hexact _ h, answer_constant (hw.aligned _ hself) hslot hkeep, ih]

/-- What went wrong once stays wrong. -/
theorem Interned.of_grows (hw : Base w) (hg : Grows w w') (h : Interned w') : Interned w := by
  refine hw.interned (fun c hc => ?_) (fun a ha b hb => ?_)
  · have hexact := h.exact c (hg.calls hc)
    rwa [hw.deref hg (hw.result hc), hw.deref hg (hw.calls c hc).1] at hexact
  · have hsame := h.same a (hg.obtained ha) b (hg.obtained hb)
    rwa [hw.deref hg ha, hw.deref hg hb] at hsame

/-! ## What an operation does -/

/-- What `update` does with the modified contents `s`: the result is the interned object. -/
structure Updates (w : World) (s : CacheState) (q : Ref) (w' : World) : Prop where
  /-- The contents are interned. -/
  intern : w.toStore.intern CacheState.eq s = (q, w'.toStore)
  /-- The statements are the same. -/
  invalid : w'.invalid = w.invalid
  /-- The record of the calls is the same. -/
  calls : w'.calls = w.calls
  /-- What is stored is recorded with its contents. -/
  stored : ∀ p ∈ w'.stored, p ∈ w.stored ∨ p.1 ∈ w'.cache ∧ w'.deref p.1 = p.2

/-- Modifying the last element of a list. -/
theorem modify_append_singleton {α : Type*} (l : List α) (a : α) (f : α → α) :
    (l ++ [a]).modify l.length f = l ++ [f a] := by
  induction l with
  | nil => rfl
  | cons b l ih => simp [ih]

/-- The copy and its modification make a new object with the modified contents. -/
theorem update_eq (self : Ref) (f : CacheState → CacheState) :
    update self f w =
      unique w.objects.length { w with toStore := w.alloc (f (w.deref self)) } := by
  have hassign : assign w.objects.length f { w with toStore := w.alloc (w.deref self) } =
      ((), { w with toStore := w.alloc (f (w.deref self)) }) := by
    unfold assign Store.alloc
    rw [modify_append_singleton]
  show unique w.objects.length
      (assign w.objects.length f { w with toStore := w.alloc (w.deref self) }).2 = _
  rw [hassign]

/-- `update` gives the state for the new contents, from the table if it is there. -/
theorem update_spec (hw : Base w) (self : Ref) (f : CacheState → CacheState) :
    Updates w (f (w.deref self)) (update self f w).1 (update self f w).2 := by
  rw [update_eq]
  generalize f (w.deref self) = s
  have hfound : (w.alloc s).found CacheState.eq ((w.alloc s).deref w.objects.length) =
      w.found CacheState.eq s := by
    rw [Store.deref_alloc_length, Store.found_alloc hw.wf.lt]
  unfold unique
  cases h : w.found CacheState.eq s with
  | some r =>
    rw [hfound, h]
    exact ⟨Store.intern_of_some h, rfl, rfl, fun p hp => Or.inl hp⟩
  | none =>
    rw [hfound, h]
    refine ⟨Store.intern_of_none h, rfl, rfl, fun p hp => ?_⟩
    rcases List.mem_cons.mp hp with rfl | hp
    · exact Or.inr ⟨List.mem_cons_self, rfl⟩
    · exact Or.inl hp

/-- The world after a call is put on record. -/
def World.record (w : World) (self : Ref) (r : Request) (q : Ref) : World :=
  { w with calls := ⟨self, r, q⟩ :: w.calls }

/-- A recorded request is its body with an entry in the history. -/
theorem recorded_eq (self : Ref) (r : Request) (body : InternM Ref) :
    recorded self r body w = ((body w).1, (body w).2.record self r (body w).1) := rfl

section Answered

variable {self q : Ref} {r : Request} {s : CacheState}

/-- The table has at most the result more. -/
theorem Updates.mem_cache (h : Updates w s q w') {a : Ref} :
    a ∈ w'.cache ↔ a = q ∨ a ∈ w.cache := by
  have hmem : a ∈ (w.toStore.intern CacheState.eq s).2.cache ↔ _ := Store.mem_cache_intern
  rwa [h.intern] at hmem

/-- Nothing that was there is lost. -/
theorem Updates.grows (h : Updates w s q w') : Grows w w' := by
  refine ⟨?_, fun a ha => h.mem_cache.mpr (Or.inr ha), ?_, ?_⟩
  · have hobjects := congrArg (fun p => p.2.objects) h.intern
    simp only [Store.objects_intern] at hobjects
    exact ⟨[s], hobjects⟩
  · rw [h.invalid]
    exact List.Subset.refl _
  · rw [h.calls]
    exact List.Subset.refl _

/-- The same with an entry in the history. -/
theorem Grows.record (h : Grows w w') : Grows w (w'.record self r q) :=
  ⟨h.objects, h.cache, h.invalid, fun _ hc => List.mem_cons_of_mem _ (h.calls hc)⟩

/-- What is obtained more is the result. -/
theorem Updates.mem_obtained (h : Updates w s q w') {a : Ref} :
    a ∈ (w'.record self r q).obtained ↔ a = q ∨ a ∈ w.obtained := by
  simp only [World.obtained, World.record, h.invalid, h.calls, List.map_cons, List.mem_append,
    List.mem_cons]
  tauto

/-- The result has as many cells as the contents. -/
theorem Updates.cells_eq (h : Updates w s q w') (hw : Base w) : cells (w'.deref q) = cells s := by
  have hresult := Store.deref_intern_result hw.wf (s := s)
  rw [h.intern] at hresult
  rcases hresult with hresult | ⟨-, heq⟩
  · rw [hresult]
  · simp only [CacheState.eq, Bool.and_eq_true, beq_iff_eq] at heq
    exact congrArg List.length heq.1.1.1

/-- The lists of the result have the same length. -/
theorem Updates.aligned (h : Updates w s q w') (hw : Base w) (hs : Aligned s) :
    Aligned (w'.deref q) := by
  have hresult := Store.deref_intern_result hw.wf (s := s)
  rw [h.intern] at hresult
  rcases hresult with hresult | ⟨hmem, -⟩
  · rwa [hresult]
  · have hq := (hw.obtained q).mpr (Or.inr hmem)
    rw [hw.deref h.grows hq]
    exact hw.aligned q hq

/-- The invariant is kept by a call that interns contents. -/
theorem Updates.base (h : Updates w s q w') (hw : Base w) (hself : self ∈ w.obtained)
    (hslot : r.slot < cells (w.deref self)) (hs : Aligned s) : Base (w'.record self r q) := by
  have hwf : w'.toStore.Wf CacheState.eq := by
    have := hw.wf.intern (s := s)
    rwa [h.intern] at this
  have hq : q ∈ w'.cache := h.mem_cache.mpr (Or.inl rfl)
  -- every obtained state but the result was obtained before
  have hkept : ∀ a ∈ w.obtained, w'.deref a = w.deref a := fun a ha => hw.deref h.grows ha
  have hqinvalid : q ∉ w.invalid := by
    have hresult : (w.toStore.intern CacheState.eq s).1 ∈ w.cache ∨ _ := Store.intern_result
    rw [h.intern] at hresult
    change q ∈ w.cache ∨ q = w.objects.length at hresult
    rcases hresult with hresult | hresult
    · exact fun hmem => hw.apart q hmem hresult
    · exact fun hmem => absurd (hw.invalid_lt q hmem) (by rw [hresult]; exact lt_irrefl _)
  refine ⟨hwf, fun a ha => ?_, fun a ha => ?_, fun a => ?_, fun c hc => ?_, fun a ha => ?_,
    fun p hp => ?_⟩
  · exact (hw.invalid_lt a (h.invalid ▸ ha)).trans_le h.grows.objects.length_le
  · have ha' : a ∈ w.invalid := h.invalid ▸ ha
    intro hmem
    rcases h.mem_cache.mp hmem with rfl | hmem
    · exact hqinvalid ha'
    · exact hw.apart a ha' hmem
  · show a ∈ (w'.record self r q).obtained ↔ a ∈ w'.invalid ∨ a ∈ w'.cache
    rw [h.mem_obtained, hw.obtained, h.invalid, h.mem_cache]
    tauto
  · rcases List.mem_cons.mp hc with rfl | hc
    · refine ⟨h.mem_obtained.mpr (Or.inr hself), ?_⟩
      show r.slot < cells (w'.deref self)
      rwa [hkept self hself]
    · have hc' : c ∈ w.calls := h.calls ▸ hc
      obtain ⟨hcself, hcslot⟩ := hw.calls c hc'
      refine ⟨h.mem_obtained.mpr (Or.inr hcself), ?_⟩
      show c.request.slot < cells (w'.deref c.self)
      rwa [hkept c.self hcself]
  · rcases h.mem_obtained.mp ha with rfl | ha
    · exact h.aligned hw hs
    · show Aligned (w'.deref a)
      rw [hkept a ha]
      exact hw.aligned a ha
  · rcases h.stored p hp with hp | ⟨hmem, hderef⟩
    · obtain ⟨hlt, hderef⟩ := hw.stored p hp
      refine ⟨hlt.trans_le h.grows.objects.length_le, ?_⟩
      exact (Store.deref_of_prefix h.grows.objects hlt).trans hderef
    · exact ⟨hwf.lt p.1 hmem, hderef⟩

/-- Such a call keeps interning exact exactly if the contents can be interned exactly. -/
theorem Updates.interned_iff (h : Updates w s q w') (hw : Base w) (hi : Interned w)
    (hself : self ∈ w.obtained) (hslot : r.slot < cells (w.deref self)) (hs : Aligned s)
    (hanswer : s = r.answer (w.deref self)) :
    Interned (w'.record self r q) ↔ Clean w.unknown w.table s := by
  have hw' : Base (w'.record self r q) := h.base hw hself hslot hs
  have hkept : ∀ a ∈ w.obtained, w'.deref a = w.deref a := fun a ha => hw.deref h.grows ha
  have hiff := Store.intern_exact_iff hw.wf partialEq (s := s)
  rw [h.intern] at hiff
  have hq : q ∈ (w'.record self r q).obtained := h.mem_obtained.mpr (Or.inl rfl)
  constructor
  · intro hi'
    have hsq : w'.deref q = s := by
      have hexact := hi'.exact ⟨self, r, q⟩ List.mem_cons_self
      change w'.deref q = r.answer (w'.deref self) at hexact
      rw [hexact, hkept self hself, hanswer]
    -- whatever was obtained with these contents is the result
    have honly : ∀ a ∈ (w'.record self r q).obtained, w'.deref a = s → a = q :=
      fun a ha hsa => (hi'.same a ha q hq).mpr (hsa.trans hsq.symm)
    -- No interned state has these contents but the result, and no state outside the table has them.
    refine ⟨hiff.mp ⟨hsq, fun a ha hsa => honly a ?_ hsa⟩, fun hmem => ?_⟩
    · exact (hw'.obtained a).mpr (Or.inr ha)
    · obtain ⟨a, ha, hsa⟩ := List.mem_map.mp hmem
      have hobtained : a ∈ w.obtained := (hw.obtained a).mpr (Or.inl ha)
      obtain rfl := honly a (h.mem_obtained.mpr (Or.inr hobtained)) ((hkept a hobtained).trans hsa)
      refine hw'.apart a ?_ (h.mem_cache.mpr (Or.inl rfl))
      show a ∈ w'.invalid
      rw [h.invalid]
      exact ha
  · intro hc
    obtain ⟨hsq, honly⟩ := hiff.mpr hc.fits
    -- A clean update gives the object that has these contents already, or a new one.
    have honly' : ∀ a ∈ w.obtained, q = a ↔ w'.deref q = w'.deref a := by
      intro a ha
      refine ⟨fun hqa => by rw [hqa], fun hqa => ?_⟩
      rcases (hw.obtained a).mp ha with hinvalid | hcache
      · refine absurd (List.mem_map.mpr ⟨a, hinvalid, ?_⟩) hc.fresh
        rw [← hkept a ha, ← hqa, hsq]
      · exact (honly a (h.mem_cache.mpr (Or.inr hcache)) (hqa.symm.trans hsq)).symm
    refine hw'.interned (fun c hmem => ?_) (fun a ha b hb => ?_)
    · rcases List.mem_cons.mp hmem with rfl | hmem
      · show w'.deref q = r.answer (w'.deref self)
        rw [hsq, hkept self hself, hanswer]
      · have hmem' : c ∈ w.calls := h.calls ▸ hmem
        show w'.deref c.result = c.request.answer (w'.deref c.self)
        rw [hkept _ (hw.result hmem'), hkept _ (hw.calls c hmem').1]
        exact hi.exact c hmem'
    · show a = b ↔ w'.deref a = w'.deref b
      rcases h.mem_obtained.mp ha with haq | ha' <;> rcases h.mem_obtained.mp hb with hbq | hb'
      · rw [haq, hbq]
        exact ⟨fun _ => rfl, fun _ => rfl⟩
      · rw [haq]
        exact honly' b hb'
      · rw [hbq, eq_comm, honly' a ha', eq_comm]
      · rw [hkept a ha', hkept b hb']
        exact hi.same a ha' b hb'

/-- If the result has the contents, the table has them afterwards and nothing else that is new. -/
theorem Updates.mem_table (h : Updates w s q w') (hw : Base w) (hsq : w'.deref q = s)
    (t : CacheState) : t ∈ w'.table ↔ t = s ∨ t ∈ w.table := by
  have hkept : ∀ a ∈ w.cache, w'.deref a = w.deref a :=
    fun a ha => hw.deref h.grows ((hw.obtained a).mpr (Or.inr ha))
  simp only [Store.mem_table, h.mem_cache]
  constructor
  · rintro ⟨a, rfl | ha, rfl⟩
    · exact Or.inl hsq
    · exact Or.inr ⟨a, ha, (hkept a ha).symm⟩
  · rintro (rfl | ⟨a, ha, rfl⟩)
    · exact ⟨q, Or.inl rfl, hsq⟩
    · exact ⟨a, Or.inr ha, hkept a ha⟩

end Answered

/-! ## What a call does -/

/-- A call is answered: contents are interned one after the other, and interning stays exact exactly
if these can be interned exactly. -/
structure Answers (w : World) (p : Ref) (r : Request) (asks : List CacheState) (q : Ref)
    (w' : World) : Prop where
  /-- The invariant is kept. -/
  base : Base w'
  /-- Nothing is modified. -/
  grows : Grows w w'
  /-- The call is on record. -/
  call : ⟨p, r, q⟩ ∈ w'.calls
  /-- The result has as many cells. -/
  cells_eq : cells (w'.deref q) = cells (w.deref p)
  /-- The statements are the same. -/
  unknown : w'.unknown = w.unknown
  /-- The table has the contents that were interned. -/
  table : Interned w' → ∀ t, t ∈ w'.table ↔ t ∈ asks ∨ t ∈ w.table
  /-- Interning stays exact under the condition only. -/
  interned_iff : Interned w → (Interned w' ↔ CleanAll w.unknown w.table asks)

section Answers

variable {self q : Ref} {r : Request} {s : CacheState} {asks : List CacheState}

/-- The statements' invalid states keep their contents. -/
theorem Base.unknown (hw : Base w) (hg : Grows w w') (h : w'.invalid = w.invalid) :
    w'.unknown = w.unknown := by
  unfold World.unknown
  rw [h]
  exact List.map_congr_left fun a ha => hw.deref hg ((hw.obtained a).mpr (Or.inl ha))

/-- The answer was obtained. -/
theorem Answers.result (h : Answers w self r asks q w') : q ∈ w'.obtained :=
  h.base.result h.call

/-- The state returned has the contents asked for. -/
theorem Answers.deref (h : Answers w self r asks q w') (hw : Base w) (hself : self ∈ w.obtained)
    (hi : Interned w') : w'.deref q = r.answer (w.deref self) := by
  have hexact := hi.exact _ h.call
  change w'.deref q = r.answer (w'.deref self) at hexact
  rw [hexact, hw.deref h.grows hself]

/-- A call may return the state it is on. -/
theorem answers_unchanged (hw : Base w) (hself : self ∈ w.obtained)
    (hslot : r.slot < cells (w.deref self)) (hanswer : r.answer (w.deref self) = w.deref self) :
    Answers w self r [] self (w.record self r self) := by
  have hobtained : ∀ a, a ∈ (w.record self r self).obtained ↔ a ∈ w.obtained := by
    intro a
    refine ⟨fun ha => ?_, (Grows.refl w).record.obtained⟩
    rcases List.mem_append.mp ha with ha | ha
    · exact List.mem_append_left _ ha
    · rcases List.mem_cons.mp ha with rfl | ha
      · exact hself
      · exact List.mem_append_right _ ha
  have hbase : Base (w.record self r self) := by
    refine ⟨hw.wf, hw.invalid_lt, hw.apart, fun a => (hobtained a).trans (hw.obtained a),
      fun c hc => ?_, fun a ha => hw.aligned a ((hobtained a).mp ha), hw.stored⟩
    rcases List.mem_cons.mp hc with rfl | hc
    · exact ⟨(hobtained self).mpr hself, hslot⟩
    · exact ⟨(hobtained _).mpr (hw.calls c hc).1, (hw.calls c hc).2⟩
  refine ⟨hbase, (Grows.refl w).record, List.mem_cons_self, rfl, rfl, fun _ t => by simp; rfl,
    fun hi => iff_of_true ?_ trivial⟩
  refine hbase.interned (fun c hc => ?_) (fun a ha b hb => ?_)
  · rcases List.mem_cons.mp hc with rfl | hc
    · exact hanswer.symm
    · exact hi.exact c hc
  · exact hi.same a ((hobtained a).mp ha) b ((hobtained b).mp hb)

/-- A call may intern the contents it asks for. -/
theorem Updates.answers (h : Updates w s q w') (hw : Base w) (hself : self ∈ w.obtained)
    (hslot : r.slot < cells (w.deref self)) (hanswer : s = r.answer (w.deref self)) :
    Answers w self r [s] q (w'.record self r q) := by
  have hs : Aligned s := hanswer ▸ (hw.aligned self hself).answer r
  refine ⟨h.base hw hself hslot hs, h.grows.record, List.mem_cons_self,
    (h.cells_eq hw).trans (hanswer ▸ cells_answer r _), hw.unknown h.grows.record h.invalid,
    fun hi t => ?_, fun hi => ?_⟩
  · have hsq : w'.deref q = s := by
      have hexact := hi.exact ⟨self, r, q⟩ List.mem_cons_self
      change w'.deref q = r.answer (w'.deref self) at hexact
      rw [hexact, hw.deref h.grows hself, hanswer]
    rw [List.mem_singleton]
    exact h.mem_table hw hsq t
  · rw [h.interned_iff hw hi hself hslot hs hanswer]
    exact ⟨fun hc => ⟨hc, trivial⟩, fun hc => hc.1⟩

/-- `change_cache_state` makes a new state only if the status changes. -/
theorem change_cache_state_eq (i : ℕ) (status : Status) :
    change_cache_state self i status w =
      recorded self (.change_cache_state i status)
        (if (w.deref self).statusAt i = status then pure self
        else update self fun result =>
          { result with cache_states := result.cache_states.set i status }) w := rfl

/-- `change_flags` makes a new state only if the flags are not known to be these. -/
theorem change_flags_eq (i : ℕ) (new_flags : Flags) :
    change_flags self i new_flags w =
      recorded self (.change_flags i new_flags)
        (if (w.deref self).is_flag_known i ∧ (w.deref self).flagsAt i = new_flags then pure self
        else do
          let self ← add_knowledge self i STATE_FLAG_KNOWN
          update self fun result => { result with all_flags := result.all_flags.set i new_flags })
        w := rfl

/-- `change_cache_state`. -/
theorem change_cache_state_answers (hw : Base w) {i : ℕ} (status : Status)
    (hself : self ∈ w.obtained) (hslot : i < cells (w.deref self)) :
    Answers w self (.change_cache_state i status) (asksStatus (w.deref self) i status)
      (change_cache_state self i status w).1 (change_cache_state self i status w).2 := by
  rw [change_cache_state_eq, recorded_eq]
  unfold asksStatus
  split_ifs with h
  · refine answers_unchanged hw hself hslot ?_
    have hlt : i < (w.deref self).cache_states.length := (hw.aligned self hself).states ▸ hslot
    have hset : (w.deref self).cache_states.set i status = (w.deref self).cache_states := by
      rw [← h]
      exact CacheState.set_getD_self _ hlt
    show { w.deref self with cache_states := (w.deref self).cache_states.set i status } = _
    rw [hset]
  · exact (update_spec hw self _).answers hw hself hslot rfl

/-- What `change_flags`, `set_u_i_constant` and `set_u_r_constant` have in common: knowledge is added,
and then an entry of another list is modified. -/
theorem learn_answers (hw : Base w) (bits : Status) (f : CacheState → CacheState)
    (hself : self ∈ w.obtained) (hslot : r.slot < cells (w.deref self))
    (hf : ∀ s : CacheState,
      f ((Request.change_cache_state r.slot (s.statusAt r.slot ||| bits)).answer s) = r.answer s)
    (haligned : ∀ s, Aligned s → Aligned (f s)) (hcells : ∀ s, cells (f s) = cells s) :
    Answers w self r
      (asksStatus (w.deref self) r.slot ((w.deref self).statusAt r.slot ||| bits) ++
        [r.answer (w.deref self)])
      (recorded self r (add_knowledge self r.slot bits >>= fun self => update self f) w).1
      (recorded self r (add_knowledge self r.slot bits >>= fun self => update self f) w).2 := by
  have hinner := change_cache_state_answers hw ((w.deref self).statusAt r.slot ||| bits) hself hslot
  have heq : recorded self r (add_knowledge self r.slot bits >>= fun self => update self f) w =
      recorded self r (update
        (change_cache_state self r.slot ((w.deref self).statusAt r.slot ||| bits) w).1 f)
        (change_cache_state self r.slot ((w.deref self).statusAt r.slot ||| bits) w).2 := rfl
  rw [heq, recorded_eq]
  generalize change_cache_state self r.slot ((w.deref self).statusAt r.slot ||| bits) w = inner
    at hinner
  obtain ⟨p, w₁⟩ := inner
  dsimp only at hinner ⊢
  have hupdate := update_spec hinner.base p f
  generalize update p f w₁ = outer at hupdate
  obtain ⟨q, w₂⟩ := outer
  dsimp only at hupdate ⊢
  -- the state the call is on is still there, with the same contents
  have hself₁ : self ∈ w₁.obtained := hinner.grows.obtained hself
  have hderef : w₁.deref self = w.deref self := hw.deref hinner.grows hself
  have hslot₁ : r.slot < cells (w₁.deref self) := hderef ▸ hslot
  have hp : Aligned (w₁.deref p) := hinner.base.aligned p hinner.result
  have hbase := hupdate.base hinner.base hself₁ hslot₁ (haligned _ hp)
  -- where the first step was exact, the second one interns the answer
  have hcontents : Interned w₁ → f (w₁.deref p) = r.answer (w₁.deref self) := by
    intro hi₁
    rw [hinner.deref hw hself hi₁, hf, hderef]
  have hgrows : Grows w₁ (w₂.record self r q) := hupdate.grows.record
  refine ⟨hbase, hinner.grows.trans hgrows, List.mem_cons_self,
    ((hupdate.cells_eq hinner.base).trans (hcells _)).trans hinner.cells_eq,
    (hinner.base.unknown hgrows hupdate.invalid).trans hinner.unknown, fun hi t => ?_,
    fun hi => ?_⟩
  · have hi₁ : Interned w₁ := hi.of_grows hinner.base hgrows
    have houter := hupdate.answers hinner.base hself₁ hslot₁ (hcontents hi₁)
    rw [houter.table hi t, hinner.table hi₁ t, hcontents hi₁, hderef, List.mem_append]
    tauto
  · rw [cleanAll_append_singleton, ← hinner.interned_iff hi]
    by_cases hi₁ : Interned w₁
    · have houter := hupdate.answers hinner.base hself₁ hslot₁ (hcontents hi₁)
      have htable : ∀ t, t ∈ w₁.table ↔ t ∈ (asksStatus (w.deref self) r.slot
          ((w.deref self).statusAt r.slot ||| bits)).reverse ++ w.table := by
        intro t
        rw [hinner.table hi₁ t, List.mem_append, List.mem_reverse]
      rw [houter.interned_iff hi₁, hinner.unknown, hcontents hi₁, hderef]
      show Clean w.unknown w₁.table _ ∧ True ↔ _
      rw [Clean.congr htable]
      tauto
    · exact iff_of_false (fun hi' => hi₁ (hi'.of_grows hinner.base hgrows)) fun h => hi₁ h.1

/-- The states that `change_flags` asks the table for. -/
theorem asks_change_flags (i : ℕ) (new_flags : Flags) :
    (Request.change_flags i new_flags).asks s =
      if s.is_flag_known i ∧ s.flagsAt i = new_flags then []
      else asksStatus s i (s.statusAt i ||| STATE_FLAG_KNOWN) ++
        [(Request.change_flags i new_flags).answer s] := rfl

/-- Flags that are known already are not asked for. -/
theorem answer_change_flags_of_known (hs : Aligned s) {i : ℕ} (hi : i < cells s) {new_flags : Flags}
    (h : s.is_flag_known i ∧ s.flagsAt i = new_flags) :
    (Request.change_flags i new_flags).answer s = s := by
  obtain ⟨hknown, hflags⟩ := h
  have hbit : s.statusAt i ||| STATE_FLAG_KNOWN = s.statusAt i := by
    unfold CacheState.is_flag_known at hknown
    generalize s.statusAt i = status at hknown ⊢
    revert status
    decide
  have hset : s.all_flags.set i new_flags = s.all_flags := by
    rw [← hflags]
    exact CacheState.set_getD_self _ hi
  have hstates : s.cache_states.set i (s.statusAt i ||| STATE_FLAG_KNOWN) = s.cache_states := by
    rw [hbit]
    exact CacheState.set_getD_self _ (hs.states ▸ hi)
  show { s with
    all_flags := s.all_flags.set i new_flags
    cache_states := s.cache_states.set i (s.statusAt i ||| STATE_FLAG_KNOWN) } = s
  rw [hset, hstates]

/-- Every call is answered, exactly under the condition. -/
theorem perform_answers (hw : Base w) (hself : self ∈ w.obtained)
    (hslot : r.slot < cells (w.deref self)) :
    Answers w self r (r.asks (w.deref self)) (perform self r w).1 (perform self r w).2 := by
  cases r with
  | change_flags i new_flags =>
    show Answers w self _ (Request.asks _ _) (change_flags self i new_flags w).1
      (change_flags self i new_flags w).2
    rw [asks_change_flags, change_flags_eq]
    split_ifs with h
    · rw [recorded_eq]
      exact answers_unchanged hw hself hslot
        (answer_change_flags_of_known (hw.aligned self hself) hslot h)
    · refine learn_answers hw STATE_FLAG_KNOWN
        (fun s => { s with all_flags := s.all_flags.set i new_flags }) hself hslot (fun s => rfl)
        (fun s hs => ?_) (fun s => List.length_set)
      have hlength : (s.all_flags.set i new_flags).length = cells s := List.length_set
      exact ⟨hs.states.trans hlength.symm, hs.u_i.trans hlength.symm, hs.u_r.trans hlength.symm⟩
  | change_cache_state i status => exact change_cache_state_answers hw status hself hslot
  | set_u_i_constant i u_i =>
    exact learn_answers hw _ (fun s => { s with u_i_constants := s.u_i_constants.set i u_i }) hself
      hslot (fun s => rfl) (fun s hs => ⟨hs.states, List.length_set.trans hs.u_i, hs.u_r⟩)
      (fun _ => rfl)
  | set_u_r_constant i u_r =>
    exact learn_answers hw _ (fun s => { s with u_r_constants := s.u_r_constants.set i u_r }) hself
      hslot (fun s => rfl) (fun s hs => ⟨hs.states, hs.u_i, List.length_set.trans hs.u_r⟩)
      (fun _ => rfl)

/-! ## The values of the objects -/

/-- The operation on values. -/
def Request.op : Request → CacheState.CacheOp
  | change_flags i new_flags => .change_flags i new_flags
  | change_cache_state i status => .change_cache_state i status
  | set_u_i_constant i u_i => .set_u_i_constant i u_i
  | set_u_r_constant i u_r => .set_u_r_constant i u_r

/-- `unique` of an object is `unique` of its value. -/
theorem Updates.refines (h : Updates w s q w') (hw : Base w) :
    s.unique w.table = (w'.deref q, w'.table) := by
  have hintern := h.intern
  have hfind : (w.table.find? fun t => t.eq s) = (w.found CacheState.eq s).map w.deref := by
    unfold Store.table Store.found
    rw [List.find?_map]
    rfl
  have hkept : w.cache.map w'.deref = w.table :=
    List.map_congr_left fun a ha => hw.deref h.grows ((hw.obtained a).mpr (Or.inr ha))
  unfold CacheState.unique
  rw [hfind]
  cases hfound : w.found CacheState.eq s with
  | some a =>
    rw [Store.intern_of_some hfound] at hintern
    obtain ⟨rfl, hstore⟩ := Prod.mk.inj hintern
    have hmem : a ∈ w.obtained := (hw.obtained a).mpr (Or.inr (Store.found_some hfound).1)
    have htable : w'.table = w.table := by
      rw [← hkept, ← hstore]
      rfl
    rw [hw.deref h.grows hmem, htable]
    rfl
  | none =>
    rw [Store.intern_of_none hfound] at hintern
    obtain ⟨rfl, hstore⟩ := Prod.mk.inj hintern
    have hderef : w'.deref w.objects.length = s := by
      rw [← hstore]
      exact Store.deref_alloc_length
    have htable : w'.table = s :: w.table := by
      rw [← hkept, ← hderef, ← List.map_cons, Store.table, ← hstore]
    rw [hderef, htable]
    rfl

/-- On the contents `change_cache_state` is the function of the model without objects. -/
theorem change_cache_state_refines (hw : Base w) (self : Ref) (i : ℕ) (status : Status) :
    (w.deref self).change_cache_state i status w.table =
      ((change_cache_state self i status w).2.deref (change_cache_state self i status w).1,
        (change_cache_state self i status w).2.table) := by
  rw [change_cache_state_eq, recorded_eq]
  unfold CacheState.change_cache_state
  split_ifs with h
  · rfl
  · exact (update_spec hw self fun result =>
      { result with cache_states := result.cache_states.set i status }).refines hw

/-- Knowledge is added, and then an entry of another list is modified. -/
theorem learn_refines (hw : Base w) (bits : Status) (f : CacheState → CacheState) {i : ℕ}
    (hself : self ∈ w.obtained) (hslot : i < cells (w.deref self)) :
    ((w.deref self).add_knowledge i bits >>= fun s => (f s).unique) w.table =
      ((recorded self r (add_knowledge self i bits >>= fun self => update self f) w).2.deref
          (recorded self r (add_knowledge self i bits >>= fun self => update self f) w).1,
        (recorded self r (add_knowledge self i bits >>= fun self => update self f) w).2.table) := by
  have hinner := change_cache_state_refines hw self i ((w.deref self).statusAt i ||| bits)
  have hbase := (change_cache_state_answers hw ((w.deref self).statusAt i ||| bits) hself hslot).base
  have heq : recorded self r (add_knowledge self i bits >>= fun self => update self f) w =
      recorded self r (update
        (change_cache_state self i ((w.deref self).statusAt i ||| bits) w).1 f)
        (change_cache_state self i ((w.deref self).statusAt i ||| bits) w).2 := rfl
  rw [heq, recorded_eq]
  generalize change_cache_state self i ((w.deref self).statusAt i ||| bits) w = inner
    at hinner hbase
  obtain ⟨p, w₁⟩ := inner
  show (f ((w.deref self).change_cache_state i ((w.deref self).statusAt i ||| bits) w.table).1).unique
    ((w.deref self).change_cache_state i ((w.deref self).statusAt i ||| bits) w.table).2 = _
  rw [hinner]
  exact (update_spec hbase p f).refines hbase

/-- What a call does to the objects is what the operation does to their values. -/
theorem perform_refines (hw : Base w) (hself : self ∈ w.obtained)
    (hslot : r.slot < cells (w.deref self)) :
    r.op.run (w.deref self) w.table =
      ((perform self r w).2.deref (perform self r w).1, (perform self r w).2.table) := by
  cases r with
  | change_flags i new_flags =>
    show (w.deref self).change_flags i new_flags w.table =
      ((change_flags self i new_flags w).2.deref (change_flags self i new_flags w).1,
        (change_flags self i new_flags w).2.table)
    rw [change_flags_eq]
    unfold CacheState.change_flags
    split_ifs with h
    · rfl
    · exact learn_refines hw _ _ hself hslot
  | change_cache_state i status => exact change_cache_state_refines hw self i status
  | set_u_i_constant i u_i => exact learn_refines hw _ _ hself hslot
  | set_u_r_constant i u_r => exact learn_refines hw _ _ hself hslot

/-! ## Statements -/

/-- What `init` changes. -/
theorem init_eq (num_flags : ℕ) :
    (init num_flags w).2 =
      { w with
        toStore := w.alloc (CacheState.all_unknown num_flags)
        invalid := w.objects.length :: w.invalid } := rfl

/-- `init` loses nothing. -/
theorem init_grows (num_flags : ℕ) : Grows w (init num_flags w).2 :=
  ⟨List.prefix_append _ _, List.Subset.refl _, List.subset_cons_self _ _, List.Subset.refl _⟩

/-- `init` gives one object more. -/
theorem mem_obtained_init (num_flags : ℕ) {a : Ref} :
    a ∈ (init num_flags w).2.obtained ↔ a = w.objects.length ∨ a ∈ w.obtained := by
  rw [init_eq]
  simp only [World.obtained, List.cons_append, List.mem_cons]

/-- Its contents know nothing. -/
theorem deref_init (num_flags : ℕ) :
    (init num_flags w).2.deref w.objects.length = CacheState.all_unknown num_flags :=
  Store.deref_alloc_length

/-- `init` keeps the invariant. -/
theorem init_base (hw : Base w) (num_flags : ℕ) : Base (init num_flags w).2 := by
  have hlength : w.objects.length ≤ (init num_flags w).2.objects.length :=
    (init_grows num_flags).objects.length_le
  have hkept : ∀ a ∈ w.obtained, (init num_flags w).2.deref a = w.deref a :=
    fun a ha => hw.deref (init_grows num_flags) ha
  have hcache : ∀ a ∈ w.cache, (init num_flags w).2.deref a = w.deref a :=
    fun a ha => hkept a ((hw.obtained a).mpr (Or.inr ha))
  refine ⟨⟨fun a ha => (hw.wf.lt a ha).trans_le hlength, ?_⟩, fun a ha => ?_, fun a ha => ?_,
    fun a => ?_, fun c hc => ?_, fun a ha => ?_, fun p hp => ?_⟩
  · exact hw.wf.apart.imp_of_mem fun {a b} ha hb hab => by rwa [hcache a ha, hcache b hb]
  · rcases List.mem_cons.mp ha with rfl | ha
    · rw [init_eq, Store.objects_alloc, List.length_append]
      exact Nat.lt_succ_self _
    · exact (hw.invalid_lt a ha).trans_le hlength
  · rcases List.mem_cons.mp ha with rfl | ha
    · exact fun hmem => lt_irrefl _ (hw.wf.lt _ hmem)
    · exact hw.apart a ha
  · rw [mem_obtained_init, hw.obtained, ← or_assoc]
    exact or_congr_left List.mem_cons.symm
  · obtain ⟨hself, hslot⟩ := hw.calls c hc
    exact ⟨(init_grows num_flags).obtained hself, by rwa [hkept _ hself]⟩
  · rcases (mem_obtained_init num_flags).mp ha with rfl | ha
    · rw [deref_init]
      exact aligned_all_unknown num_flags
    · rw [hkept a ha]
      exact hw.aligned a ha
  · obtain ⟨hlt, hderef⟩ := hw.stored p hp
    exact ⟨hlt.trans_le hlength,
      (Store.deref_of_prefix (init_grows num_flags).objects hlt).trans hderef⟩

/-- A new statement keeps interning exact exactly if no state was obtained of which as many cells are
all unknown. -/
theorem init_interned_iff (hw : Base w) (hi : Interned w) (num_flags : ℕ) :
    Interned (init num_flags w).2 ↔ CacheState.all_unknown num_flags ∉ w.obtained.map w.deref := by
  have hkept : ∀ a ∈ w.obtained, (init num_flags w).2.deref a = w.deref a :=
    fun a ha => hw.deref (init_grows num_flags) ha
  constructor
  · intro hi' hmem
    obtain ⟨a, ha, hderef⟩ := List.mem_map.mp hmem
    have hsame := (hi'.same a ((init_grows num_flags).obtained ha) w.objects.length
      ((mem_obtained_init num_flags).mpr (Or.inl rfl))).mpr
      (by rw [hkept a ha, deref_init, hderef])
    exact absurd (hw.lt ha) (by rw [hsame]; exact lt_irrefl _)
  · intro hfresh
    have hne : ∀ a ∈ w.obtained, w.objects.length = a ↔
        CacheState.all_unknown num_flags = w.deref a := by
      intro a ha
      refine iff_of_false (fun h => ?_) (fun h => hfresh (List.mem_map.mpr ⟨a, ha, h.symm⟩))
      exact absurd (hw.lt ha) (by rw [h]; exact lt_irrefl _)
    refine (init_base hw num_flags).interned (fun c hc => ?_) (fun a ha b hb => ?_)
    · rw [hkept _ (hw.result hc), hkept _ (hw.calls c hc).1]
      exact hi.exact c hc
    · rcases (mem_obtained_init num_flags).mp ha with rfl | ha' <;>
        rcases (mem_obtained_init num_flags).mp hb with hbq | hb'
      · exact iff_of_true hbq.symm (by rw [hbq])
      · rw [deref_init, hkept b hb']
        exact hne b hb'
      · rw [hbq, deref_init, hkept a ha', eq_comm, hne a ha', eq_comm]
      · rw [hkept a ha', hkept b hb']
        exact hi.same a ha' b hb'

/-! ## Runs -/

/-- The empty world meets the invariant. -/
theorem base_empty : Base World.empty := by
  refine ⟨⟨?_, List.Pairwise.nil⟩, ?_, ?_, ?_, ?_, ?_, ?_⟩ <;> simp [World.empty, World.obtained]

/-- A request can be made to a state that was obtained, for a slot that it has. -/
theorem step_request {self : Ref} {r : Request} :
    step w (.request self r) = some w' ↔
      (self ∈ w.obtained ∧ r.slot < cells (w.deref self)) ∧ (perform self r w).2 = w' := by
  show (if self ∈ w.obtained ∧ r.slot < cells (w.deref self) then some (perform self r w).2
    else none) = some w' ↔ _
  split_ifs with h
  · rw [Option.some.injEq]
    exact ⟨fun hw' => ⟨h, hw'⟩, fun hw' => hw'.2⟩
  · exact ⟨fun hw' => (nomatch hw'), fun hw' => absurd hw'.1 h⟩

/-- A step keeps the invariant. -/
theorem step_base {e : Event} (hw : Base w) (h : step w e = some w') : Base w' := by
  cases e with
  | init num_flags =>
    obtain rfl := Option.some.inj h
    exact init_base hw num_flags
  | request self r =>
    obtain ⟨⟨hself, hslot⟩, rfl⟩ := step_request.mp h
    exact (perform_answers hw hself hslot).base

/-- An event keeps interning exact exactly if it meets the condition. -/
theorem step_interned_iff {e : Event} (hw : Base w) (hi : Interned w) (h : step w e = some w') :
    Interned w' ↔ CleanEvent w e := by
  cases e with
  | init num_flags =>
    obtain rfl := Option.some.inj h
    exact init_interned_iff hw hi num_flags
  | request self r =>
    obtain ⟨⟨hself, hslot⟩, rfl⟩ := step_request.mp h
    rw [(perform_answers hw hself hslot).interned_iff hi]
    exact ⟨fun hc _ _ => hc, fun hc => hc hself hslot⟩

/-- An event that does not meet the condition can happen. -/
theorem step_of_not_clean {e : Event} (h : ¬ CleanEvent w e) : ∃ w', step w e = some w' := by
  cases e with
  | init num_flags => exact ⟨_, rfl⟩
  | request self r =>
    by_cases hcall : self ∈ w.obtained ∧ r.slot < cells (w.deref self)
    · exact ⟨_, step_request.mpr ⟨hcall, rfl⟩⟩
    · exact absurd (fun hself hslot => absurd ⟨hself, hslot⟩ hcall) h

/-- `set_unknown` is a run of two calls, where it is not done at once. -/
theorem set_unknown_runs (hw : Base w) {self : Ref} {i : ℕ} (hself : self ∈ w.obtained)
    (hslot : i < cells (w.deref self)) (h : (w.deref self).statusAt i ≠ 0) :
    Runs.after step [.request self (.change_flags i 0),
        .request (change_flags self i 0 w).1 (.change_cache_state i STATE_UNKNOWN)] w =
      some (set_unknown self i w).2 := by
  have hflags := perform_answers hw (r := .change_flags i 0) hself hslot
  have hfirst : step w (.request self (.change_flags i 0)) = some (change_flags self i 0 w).2 :=
    step_request.mpr ⟨⟨hself, hslot⟩, rfl⟩
  have hsecond : step (change_flags self i 0 w).2
      (.request (change_flags self i 0 w).1 (.change_cache_state i STATE_UNKNOWN)) =
      some (change_cache_state (change_flags self i 0 w).1 i STATE_UNKNOWN
        (change_flags self i 0 w).2).2 :=
    step_request.mpr ⟨⟨hflags.result, hslot.trans_eq hflags.cells_eq.symm⟩, rfl⟩
  have hunknown : set_unknown self i w =
      change_cache_state (change_flags self i 0 w).1 i STATE_UNKNOWN
        (change_flags self i 0 w).2 := by
    show (if (w.deref self).statusAt i ≠ 0 then
        change_flags self i 0 >>= fun self => change_cache_state self i STATE_UNKNOWN
      else pure self : InternM Ref) w = _
    rw [if_pos h]
    rfl
  rw [hunknown]
  simp only [Runs.after, hfirst, hsecond, Option.bind_some]

end Answers

/-- In the empty world everything is interned. -/
theorem interned_empty : Interned World.empty :=
  base_empty.interned (fun _ hc => nomatch hc) (fun _ ha => nomatch ha)

/-- Interning is exact along a run of the statements of a process exactly if, at every step of it, no
statement is created with the contents of a state obtained before, and no call interns contents that
a statement's invalid state has, that differ from contents of the table and are `==` to them, or that
the table has and that are not `==` to themselves. -/
theorem interned_iff_clean (es : List Event) :
    Runs.Always step Interned es World.empty ↔ Runs.Each step CleanEvent es World.empty := by
  refine Runs.always_iff_each (I := fun w => Base w ∧ Interned w) (fun w hw => hw.2) ?_ ?_
    ⟨base_empty, interned_empty⟩
  · intro w e w' hw hc h
    exact ⟨step_base hw.1 h, (step_interned_iff hw.1 hw.2 h).mpr hc⟩
  · intro w e hw hc
    obtain ⟨w', h⟩ := step_of_not_clean hc
    exact ⟨w', h, fun hi => hc ((step_interned_iff hw.1 hw.2 h).mp hi)⟩

/-- A statement with one cell asks for the constant `-0.0`. -/
def negativeZero : List Event := [.init 1, .request 0 (.set_u_r_constant 0 0x8000000000000000#64)]

/-- The knowledge that there is a constant is interned first, with the `0.0` that the list still has.
The state with `-0.0` is `==` to that one, which is returned in its place. -/
theorem not_interned_negativeZero : ¬ ∀ es, Runs.Always step Interned es World.empty := by
  intro h
  have hafter : ∃ w, Runs.after step negativeZero World.empty = some w ∧
      w.calls.head? = some ⟨0, .set_u_r_constant 0 0x8000000000000000#64, 1⟩ ∧
      (w.deref 1).get_constant_u_r 0 = 0x0000000000000000#64 :=
    ⟨_, rfl, by decide, by decide⟩
  obtain ⟨w, hw, hcall, hzero⟩ := hafter
  have hconstant := ((h negativeZero).after hw).constants 0 0x8000000000000000#64 1
    (.write (List.mem_of_head? hcall))
  rw [hzero] at hconstant
  exact absurd hconstant (by decide)

end SQPyte.Interning
