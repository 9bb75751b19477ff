import SQPyte.Mem.CacheState

/-!
# The flag cache of a query

`CacheHolder` keeps the current `CacheState` of one query, either as the virtual one (inside
`mainloop`) or as the non-virtual one (between two calls), and answers the accesses to cells from it
where it can. `Cache` adds the process-wide table of states, and whether the accesses run in
compiled code, where the assertions that compare cache and memory are left out.

Each access here takes the cell it is about and returns the cell and the cache it leaves.
-/

namespace SQPyte

/-- `class CacheHolder`. -/
structure CacheHolder where
  /-- The state in which nothing is known. -/
  _invalid_cache_state : CacheState
  /-- The current state between two calls of `mainloop`. -/
  _nonvirt_cache_state : Option CacheState
  /-- The current state inside `mainloop`. -/
  _virt_cache_state : Option CacheState
  /-- The known `u.i` that are not constants. -/
  integers : List ℤ
  /-- The known `u.r` that are not constants. -/
  floats : List Binary64
  /-- Without it, the current state is always the one in which nothing is known. -/
  use_cache : Bool
deriving Repr

/-- A query's cache with the table of all states and the mode of execution. -/
structure Cache extends CacheHolder where
  /-- `CacheState._cache`. -/
  table : CacheTable
  /-- `jit.we_are_jitted()`. -/
  jitted : Bool
deriving Repr

namespace CacheHolder

/-- `CacheHolder.__init__`. -/
def init (num_flags : ℕ) (use_cache : Bool) : CacheHolder where
  _invalid_cache_state := CacheState.all_unknown num_flags
  _nonvirt_cache_state := some (CacheState.all_unknown num_flags)
  _virt_cache_state := none
  integers := List.replicate num_flags 0
  floats := List.replicate num_flags 0
  use_cache := use_cache

/-- `cache_state`. Neither state is there only between `hide` and `reveal`, where nothing asks. -/
def cache_state (h : CacheHolder) : CacheState :=
  match h._virt_cache_state with
  | some cs => cs
  | none => h._nonvirt_cache_state.getD h._invalid_cache_state

end CacheHolder

namespace Cache

variable (h : Cache)

/-- `set_cache_state`. -/
def set_cache_state (cache_state : CacheState) : Cache :=
  let cache_state := if h.use_cache then cache_state else h._invalid_cache_state
  if h._virt_cache_state.isSome then { h with _virt_cache_state := some cache_state }
  else { h with _nonvirt_cache_state := some cache_state }

/-- Makes the state `m` computes the current one, with the table it leaves. -/
def update (m : StateM CacheTable CacheState) : Cache :=
  let (cache_state, table) := m h.table
  { h with table := table }.set_cache_state cache_state

/-- `prepare_return`. -/
def prepare_return : Except Exc Cache :=
  if !h.jitted && h._nonvirt_cache_state.isSome then .error .assertion
  else .ok { h with _nonvirt_cache_state := some h.cache_state, _virt_cache_state := none }

/-- `reenter`: the state it returns, and the cache. Where there is no state, the code fails at its
first use of it. -/
def reenter : Except Exc (CacheState × Cache) :=
  if !h.jitted && h._virt_cache_state.isSome then .error .assertion
  else
    match h._nonvirt_cache_state with
    | none => .error .attribute
    | some cache_state => .ok (cache_state,
        { h with _nonvirt_cache_state := none, _virt_cache_state := some cache_state })

/-- `hide`. -/
def hide : Cache := { h with _virt_cache_state := none }

/-- `reveal`. -/
def reveal (x : CacheState) : Cache := { h with _virt_cache_state := some x }

/-- `invalidate`. -/
def invalidate (i : ℕ) : Cache := h.update (h.cache_state.set_unknown i)

/-- `invalidate_all`. -/
def invalidate_all : Cache := h.set_cache_state h._invalid_cache_state

/-- `invalidate_all_outside`. -/
def invalidate_all_outside : Except Exc Cache :=
  if !h.jitted && h._virt_cache_state.isSome then .error .assertion
  else .ok { h with _nonvirt_cache_state := some h._invalid_cache_state }

/-- `get_flags`. -/
def get_flags (i : ℕ) (pMem : Mem) : Except Exc (Flags × Cache) :=
  let state := h.cache_state
  if state.is_flag_known i then
    if !h.jitted && state.flagsAt i != pMem.flags then .error .assertion
    else .ok (state.flagsAt i, h)
  else .ok (pMem.flags, h.update (state.change_flags i pMem.flags))

/-- `_set_flags`. -/
def _set_flags (i : ℕ) (pMem : Mem) (newflags : Flags) (needs_write : Bool) :
    Except Exc (Mem × Cache) :=
  let state := h.cache_state
  if state.is_flag_known i && state.flagsAt i == newflags then .ok (pMem, h)
  else
    let pMem := if needs_write then { pMem with flags := newflags } else pMem
    if !h.use_cache then .ok (pMem, h)
    else
      let h' := h.update (state.change_flags i newflags)
      if !h'.jitted && !(h'.cache_state.is_flag_known i && h'.cache_state.flagsAt i == pMem.flags &&
          pMem.flags == newflags) then .error .assertion
      else .ok (pMem, h')

/-- `set_flags`. -/
def set_flags (i : ℕ) (pMem : Mem) (newflags : Flags) : Except Exc (Mem × Cache) :=
  h._set_flags i pMem newflags true

/-- `Mem.assure_flags`: the flags are in memory already, and the cache is told. -/
def assure_flags (i : ℕ) (pMem : Mem) (newflags : Flags) : Except Exc (Mem × Cache) :=
  if !h.jitted && pMem.flags != newflags then .error .assertion
  else h._set_flags i pMem newflags false

/-- `get_u_i`. -/
def get_u_i (i : ℕ) (pMem : Mem) : ℤ :=
  let state := h.cache_state
  if state.is_constant_u_i i then state.get_constant_u_i i
  else if state.is_u_i_known i then h.integers.getD i 0
  else pMem.u_i

/-- `get_u_r`. -/
def get_u_r (i : ℕ) (pMem : Mem) : Binary64 :=
  let state := h.cache_state
  if state.is_constant_u_r i then state.get_constant_u_r i
  else if state.is_u_r_known i then h.floats.getD i 0
  else pMem.u_r

/-- `set_u_i`. The value is a machine word already. -/
def set_u_i (i : ℕ) (pMem : Mem) (u_i : BitVec 64) (constant : Bool) : Mem × Cache :=
  let pMem := { pMem with u := u_i }
  let state := h.cache_state
  if !constant then
    let status := (state.statusAt i &&& ~~~STATE_CONSTANT) &&& ~~~STATE_INT_KNOWN
    (pMem, h.update (state.change_cache_state i status))
  else (pMem, h.update (state.set_u_i_constant i u_i.toInt))

/-- `set_u_r`. -/
def set_u_r (i : ℕ) (pMem : Mem) (u_r : Binary64) (constant : Bool) : Mem × Cache :=
  let pMem := { pMem with u := u_r }
  let state := h.cache_state
  if !constant then
    let status := (state.statusAt i &&& ~~~STATE_CONSTANT) &&& ~~~STATE_FLOAT_KNOWN
    (pMem, h.update (state.change_cache_state i status))
  else (pMem, h.update (state.set_u_r_constant i u_r))

/-- The state that was set, unless the cache is off. -/
theorem cache_state_set_cache_state (cs : CacheState) :
    (h.set_cache_state cs).cache_state = if h.use_cache then cs else h._invalid_cache_state := by
  unfold set_cache_state CacheHolder.cache_state
  cases hv : h._virt_cache_state with
  | none => simp
  | some v => simp

/-! ## Coherence with memory -/

/-- The cache is coherent with the cells: known flags are the flags in memory, and where these
announce an integer (a real), a known `u.i` (`u.r`) is the one in memory. -/
def CoherentAt (i : ℕ) (pMem : Mem) : Prop :=
  (h.cache_state.is_flag_known i = true → h.cache_state.flagsAt i = pMem.flags) ∧
    (h.cache_state.is_flag_known i = true → h.cache_state.is_u_i_known i = true →
      pMem.flags.has MEM_Int = true → h.get_u_i i pMem = pMem.u_i) ∧
    (h.cache_state.is_flag_known i = true → h.cache_state.is_u_r_known i = true →
      pMem.flags.has MEM_Real = true → h.get_u_r i pMem = pMem.u_r)

/-- Coherence of a whole cache with the cells `mems`. -/
def Coherent (mems : List Mem) : Prop :=
  ∀ i pMem, mems[i]? = some pMem → h.CoherentAt i pMem

end Cache

end SQPyte
