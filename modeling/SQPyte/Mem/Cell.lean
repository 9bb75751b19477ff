import SQPyte.Library.Binary64
import SQPyte.Mem.Flags

/-!
# Memory cells

A `Mem` is one register (or bound variable) of the virtual machine. The union `u` is kept as its
64-bit word, so that reading a member other than the one written last gives what the machine gives:
`u.i` is the word as a signed integer, `u.r` the word as a double, and `u.nZero` its low half.

The pointer `z` is null, or equal to `zMalloc` (the cell's own allocation), or points elsewhere; in
the last case the bytes behind it are kept with the cell.
-/

namespace SQPyte

/-- What a call that does not return normally ends with. -/
inductive Exc where
  /-- An `assert` of the Python code failed. -/
  | assertion
  /-- A `SQPyteException`. -/
  | sqpyte
  /-- A `FunctionError`. -/
  | function
  /-- A list index out of range. -/
  | index
  /-- A `ValueError`. -/
  | value
  /-- An attribute of `None`. -/
  | attribute
  /-- The C code read or wrote outside a buffer. -/
  | memory
deriving DecidableEq, Repr

/-- An 8-bit byte. -/
abbrev Byte := UInt8

/-- The text encoding `SQLITE_UTF8`. -/
def SQLITE_UTF8 : ℕ := 1

/-- Where the pointer `z` of a cell points. -/
inductive ZPtr where
  /-- Nowhere: `z == 0`. -/
  | null
  /-- To the cell's own allocation: `z == zMalloc`. -/
  | own
  /-- To memory that is not the cell's own. -/
  | ext (bytes : List Byte)
deriving DecidableEq, Repr

/-- `struct Mem`. -/
structure Mem where
  /-- Some combination of the `MEM_*` masks. -/
  flags : Flags
  /-- The word of the union `u`. -/
  u : BitVec 64
  /-- Number of characters in the string or blob value, excluding the terminator. -/
  n : ℤ
  /-- The string or blob value. -/
  z : ZPtr
  /-- The cell's own allocation. -/
  zMalloc : List Byte
  /-- Size of the cell's own allocation, `0` if there is none. -/
  szMalloc : ℕ
  /-- The text encoding. -/
  enc : ℕ
  /-- The destructor `xDel` is set. -/
  xDel : Bool
deriving DecidableEq, Repr

namespace Mem

/-- `u.i`. -/
def u_i (m : Mem) : ℤ := m.u.toInt

/-- `u.r`. -/
def u_r (m : Mem) : Binary64 := m.u

/-- `u.nZero`, an `int` in the low half of the word. -/
def u_nZero (m : Mem) : ℤ := (m.u.setWidth 32).toInt

/-- The bytes behind `z`. -/
def buffer (m : Mem) : List Byte :=
  match m.z with
  | .null => []
  | .own => m.zMalloc
  | .ext bytes => bytes

/-- The bytes of the string or blob value: the first `n` behind `z`. -/
def bytes (m : Mem) : List Byte := m.buffer.take m.n.toNat

/-- The word of the union after `u.nZero = v`. -/
def nZeroWord (u : BitVec 64) (v : ℤ) : BitVec 64 :=
  (u &&& 0xffffffff00000000#64) ||| (BitVec.ofInt 32 v).setWidth 64

end Mem

/-- A write to fields of a cell that the flag cache knows nothing of. -/
structure FieldUpdate where
  /-- The write. -/
  write : Mem → Mem
  /-- It leaves the flags alone. -/
  flags_eq : ∀ m, (write m).flags = m.flags
  /-- It leaves the union alone. -/
  u_eq : ∀ m, (write m).u = m.u

/-! ## Lists of cells -/

section lists

variable {mems : List Mem} {i : ℕ} {c c' : Mem}

/-- Writing back what is there changes nothing. -/
theorem set_self (h : mems[i]? = some c) : mems.set i c = mems := by
  rw [← (List.getElem?_eq_some_iff.mp h).2, List.set_getElem_self]

/-- What is written to a cell can be told from what is left. -/
theorem set_eq_set_iff (hi : i < mems.length) : mems.set i c = mems.set i c' ↔ c = c' := by
  constructor
  · intro heq
    have := congrArg (·[i]?) heq
    simpa only [List.getElem?_set_self hi, Option.some.injEq] using this
  · rintro rfl
    rfl

/-- To modify a cell is to write it. -/
theorem modify_eq_set (h : mems[i]? = some c) (f : Mem → Mem) :
    mems.modify i f = mems.set i (f c) := by
  apply List.ext_getElem? fun j => ?_
  rw [List.getElem?_modify, List.getElem?_set]
  by_cases hij : i = j
  · subst hij
    obtain ⟨hlt, rfl⟩ := List.getElem?_eq_some_iff.mp h
    simp [hlt]
  · simp [hij]

end lists

end SQPyte
