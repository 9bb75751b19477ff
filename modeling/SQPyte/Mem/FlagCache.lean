import SQPyte.Library.Commands
import SQPyte.Mem.CacheHolder

/-!
# The flag cache over whole histories

`flagsTransparent` says that a program of cache operations and direct writes to the flags gets the
answers, and leaves the flags, that it would without a cache. The program has to keep the call
protocol, which is that of `mainloop` and of the calls between two runs of it. `directFlags`, the
machine without a cache, refuses a call that breaks the protocol, so the theorem is about every
program that it accepts, whatever states other queries have left in the process-wide table.

An operation makes a state whose known flags are those of a function of the cell (`MakesFlags`). This
holds for any table: the states that `==` identifies agree on flags and bits.
-/

namespace SQPyte

open Commands

namespace CacheState

/-! ## The known flags of a state -/

/-- The flags that a state knows of cell `i`. -/
def knows (s : CacheState) (i : ℕ) : Option Flags :=
  if s.is_flag_known i then some (s.flagsAt i) else none

/-- A state over `n` cells. -/
structure Sized (n : ℕ) (s : CacheState) : Prop where
  /-- The flags have one entry a cell. -/
  flags : s.all_flags.length = n
  /-- The bits have one entry a cell. -/
  states : s.cache_states.length = n

/-- From every table, the operation makes a state over `n` cells that knows the flags `f`. -/
def MakesFlags (n : ℕ) (m : StateM CacheTable CacheState) (f : ℕ → Option Flags) : Prop :=
  ∀ table, Sized n (m table).1 ∧ ∀ j, (m table).1.knows j = f j

variable {n i : ℕ} {s : CacheState}

/-- The state that knows nothing has the right number of slots. -/
theorem all_unknown_sized (n : ℕ) : Sized n (all_unknown n) :=
  ⟨List.length_replicate, List.length_replicate⟩

/-- It knows no flags. -/
theorem all_unknown_knows (n j : ℕ) : (all_unknown n).knows j = none := by
  unfold knows is_flag_known
  rw [all_unknown_statusAt]
  rfl

/-- What a state knows depends on the flags and the bits alone. -/
theorem knows_congr {t : CacheState} (hf : t.all_flags = s.all_flags)
    (hs : t.cache_states = s.cache_states) : t.knows = s.knows := by
  funext j
  unfold knows is_flag_known flagsAt statusAt
  rw [hf, hs]

/-- To return a state makes its flags known. -/
theorem MakesFlags.pure (hs : Sized n s) : MakesFlags n (Pure.pure s) s.knows :=
  fun _ => ⟨hs, fun _ => rfl⟩

/-- The state found in the table knows the flags of the state that was looked up. -/
theorem MakesFlags.unique (hs : Sized n s) : MakesFlags n s.unique s.knows := by
  intro table
  unfold CacheState.unique
  cases hf : table.find? fun t => t.eq s with
  | none => exact ⟨hs, fun _ => rfl⟩
  | some t =>
    have heq : t.eq s = true := by simpa using List.find?_some hf
    unfold eq at heq
    simp only [Bool.and_eq_true, beq_iff_eq] at heq
    obtain ⟨⟨⟨hflags, hstates⟩, -⟩, -⟩ := heq
    exact ⟨⟨hflags ▸ hs.flags, hstates ▸ hs.states⟩, congrFun (knows_congr hflags hstates)⟩

/-- One computation after the other. -/
theorem MakesFlags.bind {m : StateM CacheTable CacheState}
    {k : CacheState → StateM CacheTable CacheState} {f g : ℕ → Option Flags} (hm : MakesFlags n m f)
    (hk : ∀ s', Sized n s' → s'.knows = f → MakesFlags n (k s') g) : MakesFlags n (m >>= k) g := by
  intro table
  obtain ⟨hsized, hknows⟩ := hm table
  exact hk (m table).1 hsized (funext hknows) (m table).2

/-- What is known is known slot by slot. -/
theorem MakesFlags.congr {m : StateM CacheTable CacheState} {f g : ℕ → Option Flags}
    (hm : MakesFlags n m f) (h : ∀ j, f j = g j) : MakesFlags n m g := by
  obtain rfl : f = g := funext h
  exact hm

/-- `change_cache_state` keeps what is known of the other cells. -/
theorem change_cache_state_flags (hs : Sized n s) (hi : i < n) (status : Status) :
    MakesFlags n (s.change_cache_state i status) fun j =>
      if j = i then (if status &&& STATE_FLAG_KNOWN != 0#4 then some (s.flagsAt i) else none)
      else s.knows j := by
  unfold change_cache_state
  by_cases h : s.statusAt i = status
  · rw [if_pos h]
    refine (MakesFlags.pure hs).congr fun j => ?_
    by_cases hj : j = i
    · subst hj
      rw [if_pos rfl, ← h]
      rfl
    · rw [if_neg hj]
  · rw [if_neg h]
    have hsized : Sized n { s with cache_states := s.cache_states.set i status } :=
      ⟨hs.flags, by simpa using hs.states⟩
    refine (MakesFlags.unique hsized).congr fun j => ?_
    have hat : ({ s with cache_states := s.cache_states.set i status } : CacheState).statusAt j =
        if j = i then status else s.statusAt j := getD_set _ i j status 0 (hs.states ▸ hi)
    unfold knows is_flag_known
    rw [hat]
    by_cases hj : j = i
    · subst hj
      rw [if_pos rfl, if_pos rfl]
      rfl
    · rw [if_neg hj, if_neg hj]
      rfl

/-- `change_flags` makes the flags of one cell known. -/
theorem change_flags_flags (hs : Sized n s) (hi : i < n) (f : Flags) :
    MakesFlags n (s.change_flags i f) fun j => if j = i then some f else s.knows j := by
  unfold change_flags
  by_cases h : s.is_flag_known i = true ∧ s.flagsAt i = f
  · rw [if_pos h]
    refine (MakesFlags.pure hs).congr fun j => ?_
    by_cases hj : j = i
    · subst hj
      unfold knows
      rw [if_pos h.1, h.2, if_pos rfl]
    · rw [if_neg hj]
  · rw [if_neg h]
    have hbit : ∀ st : Status, (st ||| STATE_FLAG_KNOWN) &&& STATE_FLAG_KNOWN != 0#4 := by decide
    refine (change_cache_state_flags hs hi _).bind fun s' hs' hknows => ?_
    have hsized : Sized n { s' with all_flags := s'.all_flags.set i f } :=
      ⟨by simpa using hs'.flags, hs'.states⟩
    refine (MakesFlags.unique hsized).congr fun j => ?_
    have hat : ({ s' with all_flags := s'.all_flags.set i f } : CacheState).flagsAt j =
        if j = i then f else s'.flagsAt j := getD_set _ i j f 0 (hs'.flags ▸ hi)
    have hknown := congrFun hknows j
    by_cases hj : j = i
    · subst hj
      rw [if_pos rfl, if_pos (hbit _)] at hknown
      have hk : s'.is_flag_known j = true := by
        by_contra hk
        rw [knows, if_neg hk] at hknown
        cases hknown
      rw [if_pos rfl] at hat ⊢
      unfold knows
      rw [hat]
      exact if_pos hk
    · rw [if_neg hj] at hknown hat ⊢
      rw [← hknown]
      unfold knows
      rw [hat]
      rfl

/-- `set_unknown` forgets one cell. -/
theorem set_unknown_flags (hs : Sized n s) (hi : i < n) :
    MakesFlags n (s.set_unknown i) fun j => if j = i then none else s.knows j := by
  unfold set_unknown
  by_cases h : s.statusAt i ≠ 0
  · rw [if_pos h]
    refine (change_flags_flags hs hi 0).bind fun s' hs' hknows => ?_
    refine (change_cache_state_flags hs' hi STATE_UNKNOWN).congr fun j => ?_
    by_cases hj : j = i
    · rw [if_pos hj, if_pos hj]
      rfl
    · rw [if_neg hj, if_neg hj, hknows]
      exact if_neg hj
  · rw [if_neg h]
    refine (MakesFlags.pure hs).congr fun j => ?_
    by_cases hj : j = i
    · subst hj
      rw [if_pos rfl]
      unfold knows is_flag_known
      rw [not_not.mp h]
      rfl
    · rw [if_neg hj]

end CacheState

/-! ## The operations -/

/-- The operations of the flag half of the cache, and the writes that go past it. -/
inductive FlagCmd : Type → Type where
  /-- `mem.get_flags()`. -/
  | get_flags (i : ℕ) : FlagCmd Flags
  /-- `mem.set_flags(newflags)`. -/
  | set_flags (i : ℕ) (newflags : Flags) : FlagCmd Unit
  /-- `mem.assure_flags(newflags)`. -/
  | assure_flags (i : ℕ) (newflags : Flags) : FlagCmd Unit
  /-- `mem.invalidate_cache()`. -/
  | invalidate (i : ℕ) : FlagCmd Unit
  /-- `mem_cache.invalidate_all()`. -/
  | invalidate_all : FlagCmd Unit
  /-- `mem_cache.invalidate_all_outside()`. -/
  | invalidate_all_outside : FlagCmd Unit
  /-- `cache_state = mem_cache.reenter()`. -/
  | reenter : FlagCmd Unit
  /-- `cache_state = mem_cache.cache_state()`. -/
  | cache_state : FlagCmd Unit
  /-- `mem_cache.hide()`. -/
  | hide : FlagCmd Unit
  /-- `mem_cache.reveal(cache_state)`. -/
  | reveal : FlagCmd Unit
  /-- `mem_cache.prepare_return()`. -/
  | prepare_return : FlagCmd Unit
  /-- C code that writes the cell, its flags included. -/
  | write (i : ℕ) (pMem : Mem) : FlagCmd Unit

/-- The command is about cell `i`. -/
def FlagCmd.OnCell (i : ℕ) : ∀ {β : Type}, FlagCmd β → Prop
  | _, .get_flags j => j = i
  | _, .set_flags j _ => j = i
  | _, .assure_flags j _ => j = i
  | _, .invalidate j => j = i
  | _, .write j _ => j = i
  | _, _ => False

/-- The cells of a query with their cache, and the local variable `cache_state` of `mainloop`. -/
structure FlagCells where
  /-- The cells. -/
  mems : List Mem
  /-- The first `num_flags` cells have their number as `_cache_index`, the others have `-1`. -/
  num_flags : ℕ
  /-- The cache. -/
  cache : Cache
  /-- `cache_state`. -/
  cache_state : CacheState

namespace FlagCells

/-- A query before its first call, in a process with the table `table`. -/
def init (mems : List Mem) (num_flags : ℕ) (use_cache jitted : Bool) (table : CacheTable) :
    FlagCells where
  mems := mems
  num_flags := num_flags
  cache := { CacheHolder.init num_flags use_cache with table := table, jitted := jitted }
  cache_state := CacheState.all_unknown num_flags

/-- An access to cell `i`, through the cache if the cell has an index there. -/
def access {α : Type} (s : FlagCells) (i : ℕ) (cached : Mem → Except Exc (α × Mem × Cache))
    (direct : Mem → Except Exc (α × Mem)) : Except Exc (α × FlagCells) :=
  match s.mems[i]? with
  | none => .error .index
  | some pMem =>
    if i < s.num_flags then
      (cached pMem).map fun (a, pMem', cache) =>
        (a, { s with mems := s.mems.set i pMem', cache := cache })
    else (direct pMem).map fun (a, pMem') => (a, { s with mems := s.mems.set i pMem' })

end FlagCells

/-- The operations as the code has them. -/
def cachedFlags : Handler FlagCmd Exc FlagCells
  | _, .get_flags i, s => s.access i
      (fun pMem => (s.cache.get_flags i pMem).map fun (f, cache) => (f, pMem, cache))
      fun pMem => .ok (pMem.flags, pMem)
  | _, .set_flags i f, s => s.access i
      (fun pMem => (s.cache.set_flags i pMem f).map fun x => ((), x))
      fun pMem => .ok ((), { pMem with flags := f })
  | _, .assure_flags i f, s => s.access i
      (fun pMem => (s.cache.assure_flags i pMem f).map fun x => ((), x))
      fun pMem => if !s.cache.jitted && pMem.flags != f then .error .assertion else .ok ((), pMem)
  | _, .invalidate i, s => s.access i
      (fun pMem => .ok ((), pMem, s.cache.invalidate i)) fun pMem => .ok ((), pMem)
  | _, .invalidate_all, s => .ok ((), { s with cache := s.cache.invalidate_all })
  | _, .invalidate_all_outside, s =>
      s.cache.invalidate_all_outside.map fun cache => ((), { s with cache := cache })
  | _, .reenter, s => s.cache.reenter.map fun (cache_state, cache) =>
      ((), { s with cache := cache, cache_state := cache_state })
  | _, .cache_state, s => .ok ((), { s with cache_state := s.cache.cache_state })
  | _, .hide, s => .ok ((), { s with cache := s.cache.hide })
  | _, .reveal, s => .ok ((), { s with cache := s.cache.reveal s.cache_state })
  | _, .prepare_return, s =>
      s.cache.prepare_return.map fun cache => ((), { s with cache := cache })
  | _, .write i pMem, s => s.access i (fun _ => .ok ((), pMem, s.cache)) fun _ => .ok ((), pMem)

/-! ## The call protocol -/

/-- Where a history of calls stands. -/
inductive CallMode where
  /-- Between two runs of `mainloop`. -/
  | outside
  /-- In `mainloop`. -/
  | inside
  /-- In `mainloop`, and `cache_state` is the current state. -/
  | noted
  /-- In `mainloop`, between `hide` and `reveal`. -/
  | hidden
deriving DecidableEq, Repr

/-- The cells without a cache, with what the protocol has to know of the history. -/
structure DirectCells where
  /-- The cells. -/
  mems : List Mem
  /-- Where the history stands. -/
  mode : CallMode
  /-- The cells written directly and not invalidated since. -/
  written : ℕ → Bool

namespace DirectCells

/-- The cells before the first call. -/
def init (mems : List Mem) : DirectCells := ⟨mems, .outside, fun _ => false⟩

/-- The mode after an operation that may change what is known. -/
def touched : CallMode → CallMode
  | .noted => .inside
  | mode => mode

/-- An access to cell `i`, which is refused while the cache is hidden and while the cell is written. -/
def access {α : Type} (s : DirectCells) (i : ℕ) (f : Mem → Except (Option Exc) (α × Mem)) :
    Except (Option Exc) (α × DirectCells) :=
  match s.mems[i]? with
  | none => .error none
  | some pMem =>
    if s.mode = .hidden ∨ s.written i = true then .error none
    else (f pMem).map fun (a, pMem') =>
      (a, { s with mems := s.mems.set i pMem', mode := touched s.mode })

/-- A call that is allowed in the modes `before` only. -/
def switch (s : DirectCells) (before : List CallMode) (after : CallMode) :
    Except (Option Exc) (Unit × DirectCells) :=
  if s.mode ∈ before then .ok ((), { s with mode := after }) else .error none

end DirectCells

/-- The operations without a cache. A call that breaks the protocol is refused. -/
def directFlags : Handler FlagCmd (Option Exc) DirectCells
  | _, .get_flags i, s => s.access i fun pMem => .ok (pMem.flags, pMem)
  | _, .set_flags i f, s => s.access i fun pMem => .ok ((), { pMem with flags := f })
  | _, .assure_flags i f, s => s.access i fun pMem =>
      if pMem.flags = f then .ok ((), pMem) else .error none
  | _, .invalidate i, s =>
      if i < s.mems.length ∧ s.mode ≠ .hidden then
        .ok ((), { s with
          mode := DirectCells.touched s.mode, written := Function.update s.written i false })
      else .error none
  | _, .invalidate_all, s =>
      if s.mode ≠ .hidden then
        .ok ((), { s with mode := DirectCells.touched s.mode, written := fun _ => false })
      else .error none
  | _, .invalidate_all_outside, s =>
      if s.mode = .outside then .ok ((), { s with written := fun _ => false }) else .error none
  | _, .reenter, s => s.switch [.outside] .noted
  | _, .cache_state, s => s.switch [.inside, .noted] .noted
  | _, .hide, s => s.switch [.noted] .hidden
  | _, .reveal, s => s.switch [.noted, .hidden] .noted
  | _, .prepare_return, s => s.switch [.inside, .noted] .outside
  | _, .write i pMem, s =>
      if i < s.mems.length then
        .ok ((), { s with mems := s.mems.set i pMem, written := Function.update s.written i true })
      else .error none

/-! ## What an operation does to the known flags -/

namespace Cache

variable {n i : ℕ} {h : Cache} {pMem : Mem}

/-- From `h` to `h'` the known flags become `f`, or nothing is known where the cache is not used. -/
structure Learns (n : ℕ) (h h' : Cache) (f : ℕ → Option Flags) : Prop where
  /-- The state in which nothing is known stays. -/
  invalid : h'._invalid_cache_state = h._invalid_cache_state
  /-- The cache stays in use, or out of use. -/
  use_cache : h'.use_cache = h.use_cache
  /-- The cache stays inside `mainloop`, or outside of it. -/
  virt : h'._virt_cache_state.isSome = h._virt_cache_state.isSome
  /-- The state goes where it was. -/
  nonvirt : h'._nonvirt_cache_state.isSome =
    (h._nonvirt_cache_state.isSome || !h._virt_cache_state.isSome)
  /-- The new state has an entry for each cell. -/
  sized : h'.cache_state.Sized n
  /-- The known flags. -/
  knows : ∀ j, h'.cache_state.knows j = if h.use_cache then f j else none

/-- A cache with states over `n` cells, which knows nothing when it is not used. -/
structure FlagsGood (n : ℕ) (h : Cache) : Prop where
  /-- The state in which nothing is known. -/
  invalid : h._invalid_cache_state = CacheState.all_unknown n
  /-- One of the two states is there. -/
  present : (h._nonvirt_cache_state.isSome || h._virt_cache_state.isSome) = true
  /-- The current state has an entry for each cell. -/
  sized : h.cache_state.Sized n
  /-- Without the cache nothing is known. -/
  unused : h.use_cache = false → ∀ j, h.cache_state.knows j = none

/-- Knowing what was known. -/
theorem FlagsGood.learns (hg : FlagsGood n h) {f : ℕ → Option Flags}
    (hf : h.use_cache = true → ∀ j, h.cache_state.knows j = f j) : Learns n h h f := by
  have hpresent := hg.present
  refine ⟨rfl, rfl, rfl, ?_, hg.sized, fun j => ?_⟩
  · cases hv : h._virt_cache_state <;> simp_all
  · cases huse : h.use_cache with
    | true => exact hf huse j
    | false => exact hg.unused huse j

/-- Setting the state makes its flags known. -/
theorem FlagsGood.learns_set (hg : FlagsGood n h) {cs : CacheState} (hs : cs.Sized n) :
    Learns n h (h.set_cache_state cs) cs.knows := by
  have hcs := cache_state_set_cache_state h cs
  have hinvalid := hg.invalid
  refine ⟨?_, ?_, ?_, ?_, ?_, fun j => ?_⟩
  · unfold set_cache_state; dsimp only; split <;> rfl
  · unfold set_cache_state; dsimp only; split <;> rfl
  · unfold set_cache_state; cases hv : h._virt_cache_state <;> simp
  · have hpresent := hg.present
    unfold set_cache_state; cases hv : h._virt_cache_state <;> simp_all
  · rw [hcs]
    split
    · exact hs
    · rw [hinvalid]; exact CacheState.all_unknown_sized n
  · rw [hcs]
    split
    · rfl
    · rw [hinvalid]; exact CacheState.all_unknown_knows n j

/-- So does an update. -/
theorem FlagsGood.learns_update (hg : FlagsGood n h) {m : StateM CacheTable CacheState}
    {f : ℕ → Option Flags} (hm : CacheState.MakesFlags n m f) : Learns n h (h.update m) f := by
  obtain ⟨hsized, hknows⟩ := hm h.table
  have hupdate : h.update m = { h with table := (m h.table).2 }.set_cache_state (m h.table).1 := rfl
  have hgood : FlagsGood n { h with table := (m h.table).2 } :=
    ⟨hg.invalid, hg.present, hg.sized, hg.unused⟩
  have hl := hgood.learns_set hsized
  rw [hupdate]
  exact ⟨hl.invalid, hl.use_cache, hl.virt, hl.nonvirt, hl.sized,
    fun j => by rw [hl.knows, hknows]⟩

/-- Flags that are known. -/
theorem knows_of_known {f : Flags} (hk : h.cache_state.is_flag_known i = true)
    (hf : h.cache_state.flagsAt i = f) : h.cache_state.knows i = some f := by
  unfold CacheState.knows
  rw [if_pos hk, hf]

/-- `get_flags` returns the flags in memory if nothing false is known of the cell. -/
theorem get_flags_learns (hg : FlagsGood n h) (hi : i < n)
    (hk : ∀ f, h.cache_state.knows i = some f → pMem.flags = f) :
    ∃ h', h.get_flags i pMem = .ok (pMem.flags, h') ∧
      Learns n h h' fun j => if j = i then some pMem.flags else h.cache_state.knows j := by
  unfold get_flags
  by_cases hknown : h.cache_state.is_flag_known i = true
  · have hflags := hk _ (knows_of_known hknown rfl)
    refine ⟨h, by simp [hknown, hflags], hg.learns fun _ j => ?_⟩
    split_ifs with hj
    · rw [hj, knows_of_known hknown hflags.symm]
    · rfl
  · exact ⟨_, if_neg hknown, hg.learns_update (CacheState.change_flags_flags hg.sized hi _)⟩

/-- `_set_flags` leaves the new flags in memory, also where it skips the write. -/
theorem _set_flags_learns (hg : FlagsGood n h) (hi : i < n)
    (hk : ∀ f, h.cache_state.knows i = some f → pMem.flags = f) (newflags : Flags)
    (needs_write : Bool) (hw : needs_write = false → pMem.flags = newflags) :
    ∃ h', h._set_flags i pMem newflags needs_write = .ok ({ pMem with flags := newflags }, h') ∧
      Learns n h h' fun j => if j = i then some newflags else h.cache_state.knows j := by
  unfold _set_flags
  dsimp only
  by_cases hknown : h.cache_state.is_flag_known i = true ∧ h.cache_state.flagsAt i = newflags
  · -- The write is skipped, and the flags are there already.
    have hflags := hk newflags (knows_of_known hknown.1 hknown.2)
    subst hflags
    refine ⟨h, by simp [hknown.1, hknown.2], hg.learns fun _ j => ?_⟩
    split_ifs with hj
    · rw [hj, knows_of_known hknown.1 hknown.2]
    · rfl
  · have hmem : (if needs_write = true then { pMem with flags := newflags } else pMem) =
        { pMem with flags := newflags } := by
      cases needs_write with
      | true => rfl
      | false => rw [← hw rfl]; rfl
    rw [if_neg (by simpa using hknown), hmem]
    cases huse : h.use_cache with
    | false => exact ⟨h, by simp, hg.learns fun hu => by rw [huse] at hu; cases hu⟩
    | true =>
      have hl := hg.learns_update (CacheState.change_flags_flags hg.sized hi newflags)
      refine ⟨_, ?_, hl⟩
      -- The assertion after the update reads back what was recorded.
      have hi' := hl.knows i
      rw [if_pos huse, if_pos rfl] at hi'
      have hknown' : (h.update (h.cache_state.change_flags i newflags)).cache_state.is_flag_known i
          = true ∧ (h.update (h.cache_state.change_flags i newflags)).cache_state.flagsAt i =
            newflags := by
        unfold CacheState.knows at hi'
        split_ifs at hi' with hk'
        exact ⟨hk', Option.some.inj hi'⟩
      simp [hknown'.1, hknown'.2]

end Cache

/-! ## The invariant -/

namespace FlagCells

/-- The state that counts: while the cache is hidden, the one that `mainloop` keeps. -/
def current (s : FlagCells) (mode : CallMode) : CacheState :=
  if mode = .hidden then s.cache_state else s.cache.cache_state

/-- The cells agree, the cache is in the mode of the history, and known flags are those in memory
except for cells that are still to be invalidated. -/
structure Transparent (s : FlagCells) (d : DirectCells) : Prop where
  /-- Both have the same cells. -/
  mems : s.mems = d.mems
  /-- The state in which nothing is known. -/
  invalid : s.cache._invalid_cache_state = CacheState.all_unknown s.num_flags
  /-- The state is in `_virt_cache_state` inside `mainloop`. -/
  virt : s.cache._virt_cache_state.isSome = decide (d.mode = .inside ∨ d.mode = .noted)
  /-- The state is in `_nonvirt_cache_state` outside of `mainloop`. -/
  nonvirt : s.cache._nonvirt_cache_state.isSome = decide (d.mode = .outside)
  /-- `cache_state` is the current state where the protocol says so. -/
  noted : d.mode = .noted → s.cache_state = s.cache.cache_state
  /-- The state has an entry for each cell with an index. -/
  sized : (s.current d.mode).Sized s.num_flags
  /-- Without the cache nothing is known. -/
  unused : s.cache.use_cache = false → ∀ j, (s.current d.mode).knows j = none
  /-- Known flags are in memory. -/
  known : ∀ j pMem f, d.mems[j]? = some pMem → d.written j = false →
    (s.current d.mode).knows j = some f → pMem.flags = f

/-- A new cache is transparent. -/
theorem Transparent.init (mems : List Mem) (num_flags : ℕ) (use_cache jitted : Bool)
    (table : CacheTable) :
    (init mems num_flags use_cache jitted table).Transparent (DirectCells.init mems) where
  mems := rfl
  invalid := rfl
  virt := rfl
  nonvirt := rfl
  noted h := by cases h
  sized := CacheState.all_unknown_sized num_flags
  unused _ j := CacheState.all_unknown_knows num_flags j
  known j pMem f _ _ h := by
    rw [show (FlagCells.init mems num_flags use_cache jitted table).current _ =
      CacheState.all_unknown num_flags from rfl, CacheState.all_unknown_knows] at h
    cases h

variable {s : FlagCells} {d : DirectCells} {i : ℕ}

/-- Unless it is hidden, the state is that of the cache. -/
theorem current_of_ne {mode : CallMode} (h : mode ≠ .hidden) :
    s.current mode = s.cache.cache_state := if_neg h

/-- While it is not hidden, the cache of a transparent query is good. -/
theorem Transparent.good (hT : s.Transparent d) (hm : d.mode ≠ .hidden) :
    s.cache.FlagsGood s.num_flags := by
  have hsized := hT.sized
  have hunused := hT.unused
  rw [current_of_ne hm] at hsized hunused
  refine ⟨hT.invalid, ?_, hsized, hunused⟩
  rw [hT.virt, hT.nonvirt]
  cases hmode : d.mode <;> simp_all

/-- An access does not hide the state. -/
theorem touched_ne_hidden {mode : CallMode} (h : mode ≠ .hidden) :
    DirectCells.touched mode ≠ .hidden := by
  cases mode <;> simp_all [DirectCells.touched]

/-- An operation on the cache takes a transparent query to a transparent one if what it knows then is
in memory. -/
theorem Transparent.learns (hT : s.Transparent d) (hm : d.mode ≠ .hidden) {h' : Cache}
    {f : ℕ → Option Flags} (hl : Cache.Learns s.num_flags s.cache h' f) {mems : List Mem}
    {written : ℕ → Bool}
    (hknown : ∀ j pMem g, mems[j]? = some pMem → written j = false → f j = some g →
      pMem.flags = g) :
    Transparent { s with mems := mems, cache := h' }
      { mems := mems, mode := DirectCells.touched d.mode, written := written } := by
  have hcur : FlagCells.current { s with mems := mems, cache := h' } (DirectCells.touched d.mode) =
      h'.cache_state := current_of_ne (touched_ne_hidden hm)
  refine ⟨rfl, hl.invalid.trans hT.invalid, ?_, ?_, ?_, ?_, ?_, ?_⟩
  · rw [hl.virt, hT.virt]
    cases hmode : d.mode <;> simp [DirectCells.touched]
  · rw [hl.nonvirt, hT.nonvirt, hT.virt]
    cases hmode : d.mode <;> simp_all [DirectCells.touched]
  · cases hmode : d.mode <;> simp [DirectCells.touched]
  · rw [hcur]; exact hl.sized
  · intro huse j
    rw [hcur, hl.knows, ← hl.use_cache, huse]
    rfl
  · intro j pMem g hj hw hg
    rw [hcur, hl.knows] at hg
    split_ifs at hg
    exact hknown j pMem g hj hw hg

/-- Nothing is known of a cell without an index. -/
theorem knows_of_le {n : ℕ} {cs : CacheState} (hs : cs.Sized n) {j : ℕ} (h : n ≤ j) :
    cs.knows j = none := by
  unfold CacheState.knows CacheState.is_flag_known CacheState.statusAt
  rw [List.getD_eq_getElem?_getD, List.getElem?_eq_none (by rw [hs.states]; exact h)]
  rfl

/-- What a step on cell `i` does: the answer of the machine without a cache, and nothing else is
known of the other cells than before. -/
def StepsAlike {β : Type} (s : FlagCells) (i : ℕ) (r : Except Exc (β × FlagCells)) (b : β)
    (d' : DirectCells) : Prop :=
  ∃ s', r = .ok (b, s') ∧ s'.Transparent d' ∧
    ∀ j, j ≠ i → s'.cache.cache_state.knows j = s.cache.cache_state.knows j

/-- An access that the protocol allows. -/
theorem Transparent.access {α : Type} {a : α} {d' : DirectCells} (hT : s.Transparent d)
    {cached : Mem → Except Exc (α × Mem × Cache)} {direct : Mem → Except Exc (α × Mem)}
    {f : Mem → Except (Option Exc) (α × Mem)}
    (hcached : ∀ pMem pMem', f pMem = .ok (a, pMem') → s.cache.FlagsGood s.num_flags →
      i < s.num_flags → (∀ f, s.cache.cache_state.knows i = some f → pMem.flags = f) →
      ∃ h', cached pMem = .ok (a, pMem', h') ∧ Cache.Learns s.num_flags s.cache h'
        fun j => if j = i then some pMem'.flags else s.cache.cache_state.knows j)
    (hdirect : ∀ pMem pMem', f pMem = .ok (a, pMem') → direct pMem = .ok (a, pMem'))
    (h : d.access i f = .ok (a, d')) : StepsAlike s i (s.access i cached direct) a d' := by
  unfold DirectCells.access at h
  unfold StepsAlike FlagCells.access
  rw [hT.mems]
  cases hi : d.mems[i]? with
  | none => rw [hi] at h; cases h
  | some pMem =>
    rw [hi] at h
    dsimp only at h ⊢
    -- The access is by the protocol: not while the cache is hidden, nor to a cell written behind
    -- its back.
    split_ifs at h with hmode
    obtain ⟨hm, hw⟩ := not_or.mp hmode
    simp only [Bool.not_eq_true] at hw
    have hlt : i < d.mems.length := (List.getElem?_eq_some_iff.mp hi).1
    cases hf : f pMem with
    | error e => rw [hf] at h; cases h
    | ok x =>
      obtain ⟨a', pMem'⟩ := x
      rw [hf] at h
      obtain ⟨rfl, rfl⟩ := Prod.mk.inj (Except.ok.inj h)
      have hcur := current_of_ne (s := s) hm
      -- What the cache knows of other cells stays true.
      have hkept : ∀ j pMemj g, j ≠ i → (d.mems.set i pMem')[j]? = some pMemj →
          d.written j = false → s.cache.cache_state.knows j = some g → pMemj.flags = g := by
        intro j pMemj g hj hget hwj hg
        rw [List.getElem?_set_ne hj.symm] at hget
        exact hT.known j pMemj g hget hwj (hcur ▸ hg)
      -- A cell with a slot is accessed through the cache, any other one directly.
      by_cases hlast : i < s.num_flags
      · obtain ⟨h', hrun, hl⟩ := hcached pMem pMem' hf (hT.good hm) hlast fun f hk =>
          hT.known i pMem f hi hw (hcur ▸ hk)
        rw [if_pos hlast, hrun]
        refine ⟨_, rfl, hT.learns hm hl ?_, fun j hj => ?_⟩
        · intro j pMemj g hget hwj hg
          split_ifs at hg with hj
          · subst hj
            rw [List.getElem?_set_self hlt] at hget
            obtain rfl := Option.some.inj hget
            exact Option.some.inj hg
          · exact hkept j pMemj g hj hget hwj hg
        · show h'.cache_state.knows j = _
          rw [hl.knows, if_neg hj]
          split_ifs with huse
          · rfl
          · exact ((hT.good hm).unused (by simpa using huse) j).symm
      · rw [if_neg hlast, hdirect pMem pMem' hf]
        refine ⟨_, rfl, hT.learns hm ((hT.good hm).learns fun _ _ => rfl) ?_, fun _ _ => rfl⟩
        intro j pMemj g hget hwj hg
        -- A cell without a slot is not known to the cache.
        by_cases hj : j = i
        · subst hj
          rw [knows_of_le (hT.good hm).sized (Nat.le_of_not_lt hlast)] at hg
          cases hg
        · exact hkept j pMemj g hj hget hwj hg

/-- A command on a cell that the protocol allows. -/
theorem Transparent.onCell {β : Type} {c : FlagCmd β} {b : β} {d' : DirectCells}
    (hT : s.Transparent d) (hc : c.OnCell i) (h : directFlags β c d = .ok (b, d')) :
    StepsAlike s i (cachedFlags β c s) b d' := by
  cases c with
  | get_flags j =>
    obtain rfl : j = i := hc
    refine hT.access (fun pMem pMem' hf hg hi hk => ?_) (fun pMem pMem' hf => ?_) h
    · obtain ⟨rfl, rfl⟩ := Prod.mk.inj (Except.ok.inj hf)
      obtain ⟨h', hrun, hl⟩ := Cache.get_flags_learns hg hi hk
      exact ⟨h', by rw [hrun]; rfl, hl⟩
    · obtain ⟨rfl, rfl⟩ := Prod.mk.inj (Except.ok.inj hf)
      rfl
  | set_flags j f =>
    obtain rfl : j = i := hc
    refine hT.access (fun pMem pMem' hf hg hi hk => ?_) (fun pMem pMem' hf => ?_) h
    · obtain ⟨-, rfl⟩ := Prod.mk.inj (Except.ok.inj hf)
      obtain ⟨h', hrun, hl⟩ := Cache._set_flags_learns hg hi hk f true (by simp)
      exact ⟨h', by rw [Cache.set_flags, hrun]; rfl, hl⟩
    · obtain ⟨-, rfl⟩ := Prod.mk.inj (Except.ok.inj hf)
      rfl
  | assure_flags j f =>
    obtain rfl : j = i := hc
    refine hT.access (fun pMem pMem' hf hg hi hk => ?_) (fun pMem pMem' hf => ?_) h
    · -- `assure_flags` is only allowed where the flags are those assured.
      split_ifs at hf with heq
      obtain ⟨-, rfl⟩ := Prod.mk.inj (Except.ok.inj hf)
      subst heq
      obtain ⟨h', hrun, hl⟩ := Cache._set_flags_learns hg hi hk pMem.flags false fun _ => rfl
      exact ⟨h', by simp [Cache.assure_flags, hrun, Except.map], hl⟩
    · split_ifs at hf with heq
      obtain ⟨-, rfl⟩ := Prod.mk.inj (Except.ok.inj hf)
      simp [heq]
  | invalidate j =>
    obtain rfl : j = i := hc
    simp only [directFlags] at h
    split_ifs at h with hm
    obtain ⟨-, rfl⟩ := Prod.mk.inj (Except.ok.inj h)
    obtain ⟨hlt, hm⟩ := hm
    have hg := hT.good hm
    have hcur := current_of_ne (s := s) hm
    obtain ⟨pMemj, hat⟩ : ∃ pMemj, s.mems[j]? = some pMemj := by
      rw [hT.mems]
      exact ⟨_, List.getElem?_eq_getElem hlt⟩
    -- A register past the flags' slots has nothing to forget.
    have hstep : cachedFlags Unit (.invalidate j) s = .ok ((),
        { s with cache := if j < s.num_flags then s.cache.invalidate j else s.cache }) := by
      simp only [cachedFlags, FlagCells.access, hat]
      split_ifs <;> simp only [Except.map, set_self hat]
    -- What the cache knows afterwards: all it knew, less slot `j`.
    have hl : Cache.Learns s.num_flags s.cache
        (if j < s.num_flags then s.cache.invalidate j else s.cache)
        fun k => if k = j then none else s.cache.cache_state.knows k := by
      split_ifs with hlast
      · exact hg.learns_update (CacheState.set_unknown_flags hg.sized hlast)
      · refine hg.learns fun _ k => ?_
        split_ifs with hk
        · rw [hk, knows_of_le hg.sized (Nat.le_of_not_lt hlast)]
        · rfl
    refine ⟨_, hstep, ?_, fun k hk => ?_⟩
    · show Transparent { s with mems := s.mems, cache := _ } _
      rw [hT.mems]
      refine hT.learns hm hl fun k pMem g hget hw hknow => ?_
      -- Slot `j` knows nothing, so it cannot be wrong; any other slot is as it was.
      by_cases hk : k = j
      · rw [if_pos hk] at hknow; cases hknow
      · rw [if_neg hk] at hknow
        rw [Function.update_of_ne hk] at hw
        exact hT.known k pMem g hget hw (hcur ▸ hknow)
    · refine (hl.knows k).trans ?_
      rw [if_neg hk]
      split_ifs with huse
      · rfl
      · exact (hg.unused (by simpa using huse) k).symm
  | write j pMem =>
    obtain rfl : j = i := hc
    simp only [directFlags] at h
    split_ifs at h with hlt
    obtain ⟨-, rfl⟩ := Prod.mk.inj (Except.ok.inj h)
    obtain ⟨pMemj, hat⟩ : ∃ pMemj, s.mems[j]? = some pMemj := by
      rw [hT.mems]
      exact ⟨_, List.getElem?_eq_getElem hlt⟩
    -- The cell is written behind the cache's back, in both runs alike.
    have hstep : cachedFlags Unit (.write j pMem) s =
        .ok ((), { s with mems := s.mems.set j pMem }) := by
      simp only [cachedFlags, FlagCells.access, hat]
      split_ifs <;> rfl
    refine ⟨_, hstep, ?_, fun _ _ => rfl⟩
    rw [hT.mems]
    refine ⟨rfl, hT.invalid, hT.virt, hT.nonvirt, hT.noted, hT.sized, hT.unused, ?_⟩
    intro k pMemk g hget hw hknow
    -- A cell written so counts as touched, and transparency says nothing about it until it is
    -- invalidated.
    have hk : k ≠ j := by
      rintro rfl
      simp at hw
    rw [List.getElem?_set_ne hk.symm] at hget
    exact hT.known k pMemk g hget (by simpa [hk] using hw) hknow
  | _ => exact absurd hc id

/-- A switch of the mode that is allowed. -/
theorem switch_eq_ok {before : List CallMode} {after : CallMode} {b : Unit} {d' : DirectCells}
    (h : d.switch before after = .ok (b, d')) : d.mode ∈ before ∧ d' = { d with mode := after } := by
  unfold DirectCells.switch at h
  split_ifs at h with hm
  exact ⟨hm, (Prod.mk.inj (Except.ok.inj h)).2.symm⟩

/-- Where nothing is known, nothing false is known. -/
theorem Transparent.forget (hT : s.Transparent d) (hm : d.mode ≠ .hidden) {h' : Cache}
    (hl : Cache.Learns s.num_flags s.cache h' fun _ => none) :
    Transparent { s with cache := h' }
      { d with mode := DirectCells.touched d.mode, written := fun _ => false } := by
  show Transparent { s with mems := s.mems, cache := h' } _
  rw [hT.mems]
  exact hT.learns hm hl fun _ _ _ _ _ h => by cases h

/-- A change of mode that keeps the state that counts. -/
theorem Transparent.moves (hT : s.Transparent d) {s' : FlagCells} {mode : CallMode}
    (hmems : s'.mems = s.mems) (hnum : s'.num_flags = s.num_flags)
    (hinvalid : s'.cache._invalid_cache_state = s.cache._invalid_cache_state)
    (huse : s'.cache.use_cache = s.cache.use_cache)
    (hvirt : s'.cache._virt_cache_state.isSome = decide (mode = .inside ∨ mode = .noted))
    (hnonvirt : s'.cache._nonvirt_cache_state.isSome = decide (mode = .outside))
    (hnoted : mode = .noted → s'.cache_state = s'.cache.cache_state)
    (hcur : s'.current mode = s.current d.mode) : s'.Transparent { d with mode := mode } where
  mems := hmems.trans hT.mems
  invalid := by rw [hinvalid, hnum]; exact hT.invalid
  virt := hvirt
  nonvirt := hnonvirt
  noted := hnoted
  sized := by rw [hcur, hnum]; exact hT.sized
  unused := by rw [hcur, huse]; exact hT.unused
  known := by rw [hcur]; exact hT.known

/-- Outside of `mainloop` the state is in `_nonvirt_cache_state`. -/
theorem Transparent.outside (hT : s.Transparent d) (hm : d.mode = .outside) :
    s.cache._virt_cache_state = none ∧
      s.cache._nonvirt_cache_state = some s.cache.cache_state := by
  have hvirt := hT.virt
  have hnonvirt := hT.nonvirt
  rw [hm] at hvirt hnonvirt
  have hv : s.cache._virt_cache_state = none := by simpa using hvirt
  refine ⟨hv, ?_⟩
  obtain ⟨cs, hcs⟩ := Option.isSome_iff_exists.mp (by simpa using hnonvirt)
  unfold CacheHolder.cache_state
  rw [hv, hcs]
  rfl

/-- Inside `mainloop` the state is in `_virt_cache_state`. -/
theorem Transparent.inside (hT : s.Transparent d) (hm : d.mode = .inside ∨ d.mode = .noted) :
    s.cache._virt_cache_state = some s.cache.cache_state ∧
      s.cache._nonvirt_cache_state = none := by
  have hvirt := hT.virt
  have hnonvirt := hT.nonvirt
  rw [decide_eq_true hm] at hvirt
  have hout : d.mode ≠ .outside := by rcases hm with h | h <;> rw [h] <;> decide
  rw [decide_eq_false hout] at hnonvirt
  obtain ⟨cs, hcs⟩ := Option.isSome_iff_exists.mp hvirt
  refine ⟨?_, by simpa using hnonvirt⟩
  unfold CacheHolder.cache_state
  rw [hcs]

/-- A command on no cell in particular that the protocol allows. -/
theorem Transparent.switches {β : Type} {c : FlagCmd β} {b : β} {d' : DirectCells}
    (hT : s.Transparent d) (hc : ∀ i, ¬ c.OnCell i) (h : directFlags β c d = .ok (b, d')) :
    ∃ s', cachedFlags β c s = .ok (b, s') ∧ s'.Transparent d' := by
  cases c with
  | invalidate_all =>
    simp only [directFlags] at h
    split_ifs at h with hm
    obtain ⟨-, rfl⟩ := Prod.mk.inj (Except.ok.inj h)
    refine ⟨_, rfl, hT.forget hm ?_⟩
    have hg := hT.good hm
    -- The state that the cache takes over knows no flags.
    have hsized : s.cache._invalid_cache_state.Sized s.num_flags :=
      hg.invalid ▸ CacheState.all_unknown_sized _
    have hl := hg.learns_set hsized
    rw [show s.cache._invalid_cache_state.knows = fun _ => none by
      rw [hg.invalid]; exact funext (CacheState.all_unknown_knows _)] at hl
    exact hl
  | invalidate_all_outside =>
    simp only [directFlags] at h
    split_ifs at h with hm
    obtain ⟨-, rfl⟩ := Prod.mk.inj (Except.ok.inj h)
    obtain ⟨hv, hn⟩ := hT.outside hm
    have hg := hT.good (by rw [hm]; decide)
    -- Outside the loop the state is the non-virtual one, as the virtual one is not set.
    have hcs : CacheHolder.cache_state { s.cache with
        _nonvirt_cache_state := some s.cache._invalid_cache_state } =
          CacheState.all_unknown s.num_flags := by
      unfold CacheHolder.cache_state
      rw [hv, hg.invalid]
      rfl
    have hl : Cache.Learns s.num_flags s.cache { s.cache with
        _nonvirt_cache_state := some s.cache._invalid_cache_state } fun _ => none :=
      ⟨rfl, rfl, rfl, by simp [hn], by rw [hcs]; exact CacheState.all_unknown_sized _,
        fun j => by rw [hcs, ite_self]; exact CacheState.all_unknown_knows _ j⟩
    have hforget := hT.forget (by rw [hm]; decide) hl
    rw [show DirectCells.touched d.mode = d.mode by rw [hm]; rfl] at hforget
    refine ⟨_, ?_, hforget⟩
    simp [cachedFlags, Cache.invalidate_all_outside, hv, Except.map]
  | reenter =>
    obtain ⟨hm, rfl⟩ := switch_eq_ok h
    rw [List.mem_singleton] at hm
    obtain ⟨hv, hn⟩ := hT.outside hm
    -- The state moves from the non-virtual field to the virtual one and into the local variable.
    refine ⟨{ s with
      cache := { s.cache with
        _nonvirt_cache_state := none, _virt_cache_state := some s.cache.cache_state },
      cache_state := s.cache.cache_state }, ?_, hT.moves rfl rfl rfl rfl rfl rfl (fun _ => rfl) ?_⟩
    · simp [cachedFlags, Cache.reenter, hv, hn, Except.map]
    · rw [hm]; rfl
  | cache_state =>
    obtain ⟨hm, rfl⟩ := switch_eq_ok h
    have hm : d.mode = .inside ∨ d.mode = .noted := by simpa using hm
    -- Inside the loop the virtual field holds the state.
    obtain ⟨hv, hn⟩ := hT.inside hm
    refine ⟨_, rfl, hT.moves rfl rfl rfl rfl ?_ ?_ (fun _ => rfl) ?_⟩
    · rw [hv]; rfl
    · rw [hn]; rfl
    · rcases hm with hm | hm <;> rw [hm] <;> rfl
  | hide =>
    obtain ⟨hm, rfl⟩ := switch_eq_ok h
    rw [List.mem_singleton] at hm
    -- Only the virtual field is cleared; the local variable still has the state.
    obtain ⟨hv, hn⟩ := hT.inside (Or.inr hm)
    refine ⟨_, rfl, hT.moves rfl rfl rfl rfl rfl ?_ (fun h => by cases h) ?_⟩
    · show s.cache._nonvirt_cache_state.isSome = _
      rw [hn]; rfl
    · rw [hm]
      exact hT.noted hm
  | reveal =>
    obtain ⟨hm, rfl⟩ := switch_eq_ok h
    have hm : d.mode = .noted ∨ d.mode = .hidden := by simpa using hm
    -- The virtual field gets the local variable's state back.
    have hnonvirt := hT.nonvirt
    refine ⟨_, rfl, hT.moves rfl rfl rfl rfl rfl ?_ (fun _ => rfl) ?_⟩
    · refine hnonvirt.trans ?_
      rcases hm with hm | hm
      · rw [hm]
      · rw [hm]; rfl
    · rcases hm with hm | hm
      · rw [hm]
        exact hT.noted hm
      · rw [hm]; rfl
  | prepare_return =>
    obtain ⟨hm, rfl⟩ := switch_eq_ok h
    have hm : d.mode = .inside ∨ d.mode = .noted := by simpa using hm
    obtain ⟨hv, hn⟩ := hT.inside hm
    -- The state moves back to the non-virtual field.
    refine ⟨{ s with cache := { s.cache with
      _nonvirt_cache_state := some s.cache.cache_state, _virt_cache_state := none } }, ?_,
      hT.moves rfl rfl rfl rfl rfl rfl (fun h => by cases h) ?_⟩
    · simp [cachedFlags, Cache.prepare_return, hn, Except.map]
    · rcases hm with hm | hm <;> rw [hm] <;> rfl
  | _ => exact absurd rfl (hc _)

/-- Without a cache an operation raises nothing: it is refused or returns. -/
theorem directFlags_error {β : Type} {c : FlagCmd β} {e : Option Exc}
    (h : directFlags β c d = .error e) : e = none := by
  have haccess : ∀ {α : Type} {i : ℕ} {f : Mem → Except (Option Exc) (α × Mem)} {e : Option Exc},
      (∀ pMem e, f pMem = .error e → e = none) → d.access i f = .error e → e = none := by
    intro α i f e hf h
    unfold DirectCells.access at h
    split at h
    · exact (Except.error.inj h).symm
    · split_ifs at h
      · exact (Except.error.inj h).symm
      · rename_i pMem _ _
        cases hfp : f pMem with
        | error e' => rw [hfp] at h; exact (Except.error.inj h) ▸ hf pMem e' hfp
        | ok x => rw [hfp] at h; cases h
  cases c <;> simp only [directFlags] at h
  case get_flags i => exact haccess (fun _ _ h => by cases h) h
  case set_flags i f => exact haccess (fun _ _ h => by cases h) h
  case assure_flags i f =>
    refine haccess (fun pMem e h => ?_) h
    split_ifs at h
    exact (Except.error.inj h).symm
  all_goals
    try unfold DirectCells.switch at h
    split_ifs at h
    exact (Except.error.inj h).symm

/-- The cached machine follows the direct one: a call that the protocol allows does not raise. -/
theorem cachedFlags_simulates : Simulates Transparent cachedFlags directFlags := by
  intro β c s d hT
  cases h : directFlags β c d with
  | error e =>
    rw [directFlags_error h]
    exact trivial
  | ok r =>
    by_cases hc : ∃ i, c.OnCell i
    · obtain ⟨i, hc⟩ := hc
      obtain ⟨s', hrun, hT', -⟩ := hT.onCell hc h
      exact ⟨s', hrun, hT'⟩
    · obtain ⟨s', hrun, hT'⟩ := hT.switches (not_exists.mp hc) h
      exact ⟨s', hrun, hT'⟩

end FlagCells

/-- A program that keeps the protocol gets through the cache the answers that it gets without one,
and leaves the same cells; no assertion fails on the way. Afterwards an operation on one cell does
not change what is known of another. -/
theorem flagsTransparent {α : Type} (mems : List Mem) (num_flags : ℕ) (use_cache jitted : Bool)
    (table : CacheTable) (p : Prog FlagCmd α) {a : α} {d : DirectCells}
    (h : run directFlags p (DirectCells.init mems) = .ok (a, d)) :
    ∃ s, run cachedFlags p (FlagCells.init mems num_flags use_cache jitted table) = .ok (a, s) ∧
      s.mems = d.mems ∧
      ∀ (β : Type) (c : FlagCmd β) (i : ℕ), c.OnCell i →
        ∀ b d', directFlags β c d = .ok (b, d') →
          ∃ s', cachedFlags β c s = .ok (b, s') ∧
            ∀ j, j ≠ i → s'.cache.cache_state.knows j = s.cache.cache_state.knows j := by
  have hrun := run_simulates FlagCells.cachedFlags_simulates p _ _
    (FlagCells.Transparent.init mems num_flags use_cache jitted table)
  rw [h] at hrun
  obtain ⟨s, hs, hT⟩ := hrun
  refine ⟨s, hs, hT.mems, fun β c i hc b d' hstep => ?_⟩
  obtain ⟨s', hs', -, hothers⟩ := hT.onCell hc hstep
  exact ⟨s', hs', hothers⟩

/-- A cell with the flags `f` and nothing in it. -/
def Mem.ofFlags (f : Flags) : Mem := ⟨f, 0, 0, .null, [], 0, SQLITE_UTF8, false⟩

/-- One round of the loop of `mainloop`, with a write past the cache. -/
def flagsRound : Prog FlagCmd (Flags × Flags) := do
  Prog.perform .reenter
  Prog.perform .reveal
  let before ← Prog.perform (.get_flags 0)
  Prog.perform (.set_flags 0 before)
  Prog.perform (.write 0 (Mem.ofFlags MEM_Real))
  Prog.perform (.invalidate 0)
  Prog.perform .cache_state
  Prog.perform .hide
  Prog.perform .reveal
  let after ← Prog.perform (.get_flags 0)
  Prog.perform .prepare_return
  return (before, after)

/-- A round of accesses with the cache. -/
theorem flagsTransparent_round :
    ∃ s, run cachedFlags flagsRound (FlagCells.init [Mem.ofFlags MEM_Int] 1 true false []) =
        .ok ((MEM_Int, MEM_Real), s) ∧
      s.mems = [Mem.ofFlags MEM_Real] := by
  obtain ⟨s, hrun, hmems, -⟩ := flagsTransparent [Mem.ofFlags MEM_Int] 1 true false [] flagsRound
    (a := (MEM_Int, MEM_Real)) (d := ⟨[Mem.ofFlags MEM_Real], .outside, _⟩) rfl
  exact ⟨s, hrun, hmems⟩

end SQPyte
