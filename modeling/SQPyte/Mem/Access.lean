import SQPyte.Library.Commands
import SQPyte.Mem.CacheHolder

/-!
# Access to the cells

The methods of `Mem` and the opcodes are programs over `MemCmd`: reads and writes of the flags and
of the union through the flag cache, direct accesses to the other fields, and calls into C. The
state `Machine ρ` holds the cells and the cache of one query, and in `rest` whatever else there is.

`machine` executes the commands as the code does.
-/

namespace SQPyte

open Commands

/-- The state of one query. -/
structure Machine (ρ : Type) where
  /-- The registers `0 … nMem`, then the bound variables: the numbering of the flag cache. -/
  mems : List Mem
  /-- The number of the last register. -/
  nMem : ℕ
  /-- The flag cache. -/
  cache : Cache
  /-- Everything else. -/
  rest : ρ

/-- What the code asks of the machine. -/
inductive MemCmd (ρ : Type) : Type → Type 1 where
  /-- `hlquery.mem_with_index(i)`: the cell with Python's index `i` among the registers. -/
  | mem_with_index (i : ℤ) : MemCmd ρ ℕ
  /-- `hlquery.var_with_index(i)`: the cell with Python's index `i` among the variables. -/
  | var_with_index (i : ℤ) : MemCmd ρ ℕ
  /-- `mem.get_flags()`. -/
  | get_flags (i : ℕ) : MemCmd ρ Flags
  /-- `mem.set_flags(newflags)`. -/
  | set_flags (i : ℕ) (newflags : Flags) : MemCmd ρ Unit
  /-- `mem.assure_flags(newflags)`. -/
  | assure_flags (i : ℕ) (newflags : Flags) : MemCmd ρ Unit
  /-- `mem.get_u_i()`. -/
  | get_u_i (i : ℕ) : MemCmd ρ ℤ
  /-- `mem.set_u_i(val, constant)`. -/
  | set_u_i (i : ℕ) (val : BitVec 64) (constant : Bool) : MemCmd ρ Unit
  /-- `mem.get_u_r()`. -/
  | get_u_r (i : ℕ) : MemCmd ρ Binary64
  /-- `mem.set_u_r(val, constant)`. -/
  | set_u_r (i : ℕ) (val : Binary64) (constant : Bool) : MemCmd ρ Unit
  /-- `mem.is_constant_u_i()`. -/
  | is_constant_u_i (i : ℕ) : MemCmd ρ Bool
  /-- `mem.invalidate_cache()`. -/
  | invalidate_cache (i : ℕ) : MemCmd ρ Unit
  /-- `hlquery.invalidate_caches()`. -/
  | invalidate_caches : MemCmd ρ Unit
  /-- A read of another field of the cell. -/
  | peek {α : Type} (i : ℕ) (read : Mem → α) : MemCmd ρ α
  /-- A write to other fields of the cell. -/
  | poke (i : ℕ) (update : FieldUpdate) : MemCmd ρ Unit
  /-- `mem.set_u_nZero(val)`. -/
  | set_u_nZero (i : ℕ) (val : ℤ) : MemCmd ρ Unit
  /-- `mem.invalidate_cache()` and then a C routine that works on this cell. -/
  | c_mem {α : Type} (i : ℕ) (routine : Mem → ρ → Except Exc (α × Mem × ρ)) : MemCmd ρ α
  /-- A step that does not touch the cells. -/
  | other {α : Type} (step : ρ → Except Exc (α × ρ)) : MemCmd ρ α
  /-- C code that works on any of the cells, which the cache is not told of. -/
  | c_mems {α : Type} (step : List Mem → ρ → Except Exc (α × List Mem × ρ)) : MemCmd ρ α

/-- Python's list index: negative indices count from the end. -/
def pyIndex (length : ℕ) (i : ℤ) : Option ℕ :=
  if 0 ≤ i ∧ i < length then some i.toNat
  else if -length ≤ i ∧ i < 0 then some (length + i).toNat
  else none

namespace Machine

variable {ρ α β : Type}

/-- The number of the cell `mem_with_index(i)`. -/
def memIndex (length nMem : ℕ) (i : ℤ) : Except Exc ℕ :=
  match pyIndex (min (nMem + 1) length) i with
  | some k => .ok k
  | none => .error .sqpyte

/-- The number of the cell `var_with_index(i)`. -/
def varIndex (length nMem : ℕ) (i : ℤ) : Except Exc ℕ :=
  match pyIndex (length - (nMem + 1)) i with
  | some k => .ok (nMem + 1 + k)
  | none => .error .sqpyte

/-- An access to cell `i` that may change the cell and the cache. -/
def atMem (m : Machine ρ) (i : ℕ) (f : Mem → Except Exc (α × Mem × Cache × ρ)) :
    Except Exc (α × Machine ρ) :=
  match m.mems[i]? with
  | none => .error .index
  | some pMem =>
    match f pMem with
    | .error e => .error e
    | .ok (a, pMem', cache, rest) =>
      .ok (a, { m with mems := m.mems.set i pMem', cache := cache, rest := rest })

end Machine

/-- The machine as the code has it. -/
def machine (ρ : Type) : Handler (MemCmd ρ) Exc (Machine ρ)
  | _, .mem_with_index i, m => (Machine.memIndex m.mems.length m.nMem i).map (·, m)
  | _, .var_with_index i, m => (Machine.varIndex m.mems.length m.nMem i).map (·, m)
  | _, .get_flags i, m => m.atMem i fun pMem =>
      (m.cache.get_flags i pMem).map fun (f, cache) => (f, pMem, cache, m.rest)
  | _, .set_flags i f, m => m.atMem i fun pMem =>
      (m.cache.set_flags i pMem f).map fun (pMem', cache) => ((), pMem', cache, m.rest)
  | _, .assure_flags i f, m => m.atMem i fun pMem =>
      (m.cache.assure_flags i pMem f).map fun (pMem', cache) => ((), pMem', cache, m.rest)
  | _, .get_u_i i, m => m.atMem i fun pMem => .ok (m.cache.get_u_i i pMem, pMem, m.cache, m.rest)
  | _, .set_u_i i v constant, m => m.atMem i fun pMem =>
      let (pMem', cache) := m.cache.set_u_i i pMem v constant
      .ok ((), pMem', cache, m.rest)
  | _, .get_u_r i, m => m.atMem i fun pMem => .ok (m.cache.get_u_r i pMem, pMem, m.cache, m.rest)
  | _, .set_u_r i v constant, m => m.atMem i fun pMem =>
      let (pMem', cache) := m.cache.set_u_r i pMem v constant
      .ok ((), pMem', cache, m.rest)
  | _, .is_constant_u_i i, m => m.atMem i fun pMem =>
      .ok (m.cache.cache_state.is_constant_u_i i, pMem, m.cache, m.rest)
  | _, .invalidate_cache i, m => m.atMem i fun pMem => .ok ((), pMem, m.cache.invalidate i, m.rest)
  | _, .invalidate_caches, m => .ok ((), { m with cache := m.cache.invalidate_all })
  | _, .peek i read, m => m.atMem i fun pMem => .ok (read pMem, pMem, m.cache, m.rest)
  | _, .poke i update, m => m.atMem i fun pMem => .ok ((), update.write pMem, m.cache, m.rest)
  | _, .set_u_nZero i v, m => m.atMem i fun pMem =>
      .ok ((), { pMem with u := Mem.nZeroWord pMem.u v }, m.cache, m.rest)
  | _, .c_mem i routine, m => m.atMem i fun pMem =>
      (routine pMem m.rest).map fun (a, pMem', rest) => (a, pMem', m.cache.invalidate i, rest)
  | _, .other step, m => (step m.rest).map fun (a, rest) => (a, { m with rest := rest })
  | _, .c_mems step, m => (step m.mems m.rest).map fun (a, mems, rest) =>
      (a, { m with mems := mems, rest := rest })

/-- A program over the cells. -/
abbrev MemM (ρ α : Type) := Prog (MemCmd ρ) α

section commands

variable {ρ α : Type}

/-- `hlquery.mem_with_index(i)`. -/
def mem_with_index (i : ℤ) : MemM ρ ℕ := Prog.perform (.mem_with_index i)
/-- `hlquery.var_with_index(i)`. -/
def var_with_index (i : ℤ) : MemM ρ ℕ := Prog.perform (.var_with_index i)
/-- `mem.get_flags()`. -/
def get_flags (i : ℕ) : MemM ρ Flags := Prog.perform (.get_flags i)
/-- `mem.set_flags(newflags)`. -/
def set_flags (i : ℕ) (newflags : Flags) : MemM ρ Unit := Prog.perform (.set_flags i newflags)
/-- `mem.assure_flags(newflags)`. -/
def assure_flags (i : ℕ) (newflags : Flags) : MemM ρ Unit :=
  Prog.perform (.assure_flags i newflags)
/-- `mem.get_u_i()`. -/
def get_u_i (i : ℕ) : MemM ρ ℤ := Prog.perform (.get_u_i i)
/-- `mem.set_u_i(val)`, and `mem.set_u_i(val, constant=True)`. -/
def set_u_i (i : ℕ) (val : ℤ) (constant : Bool := false) : MemM ρ Unit :=
  Prog.perform (.set_u_i i (BitVec.ofInt 64 val) constant)
/-- `mem.get_u_r()`. -/
def get_u_r (i : ℕ) : MemM ρ Binary64 := Prog.perform (.get_u_r i)
/-- `mem.set_u_r(val)`, and `mem.set_u_r(val, constant=True)`. -/
def set_u_r (i : ℕ) (val : Binary64) (constant : Bool := false) : MemM ρ Unit :=
  Prog.perform (.set_u_r i val constant)
/-- `mem.is_constant_u_i()`. -/
def is_constant_u_i (i : ℕ) : MemM ρ Bool := Prog.perform (.is_constant_u_i i)
/-- `mem.invalidate_cache()`. -/
def invalidate_cache (i : ℕ) : MemM ρ Unit := Prog.perform (.invalidate_cache i)
/-- `hlquery.invalidate_caches()`. -/
def invalidate_caches : MemM ρ Unit := Prog.perform .invalidate_caches
/-- A read of a field the cache does not keep. -/
def peek (i : ℕ) (read : Mem → α) : MemM ρ α := Prog.perform (.peek i read)
/-- A write to fields the cache does not keep. -/
def poke (i : ℕ) (update : FieldUpdate) : MemM ρ Unit := Prog.perform (.poke i update)
/-- `mem.set_u_nZero(val)`. -/
def set_u_nZero (i : ℕ) (val : ℤ) : MemM ρ Unit := Prog.perform (.set_u_nZero i val)
/-- `mem.invalidate_cache()` and a C routine on the cell. -/
def c_mem (i : ℕ) (routine : Mem → ρ → Except Exc (α × Mem × ρ)) : MemM ρ α :=
  Prog.perform (.c_mem i routine)
/-- A step that does not touch the cells. -/
def other (step : ρ → Except Exc (α × ρ)) : MemM ρ α := Prog.perform (.other step)
/-- C code that works on any of the cells. -/
def c_mems (step : List Mem → ρ → Except Exc (α × List Mem × ρ)) : MemM ρ α :=
  Prog.perform (.c_mems step)
/-- An exception. -/
def throwExc (e : Exc) : MemM ρ α := other fun _ => .error e
/-- `assert cond`. -/
def pyAssert (cond : Bool) : MemM ρ Unit := if cond then pure () else throwExc .assertion

end commands

end SQPyte
