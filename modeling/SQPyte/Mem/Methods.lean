import SQPyte.Mem.Strict
import SQPyte.Mem.Routines

/-!
# The methods of `Mem`

The methods of `class Mem`, as programs over the cells. A method is named as in the source, and its
first argument is the number of the cell it is called on.
-/

namespace SQPyte

/-- `sys.maxint`. -/
def maxint : ℤ := 2^63 - 1

variable {ρ : Type} (L : CLib ρ)

/-- A C routine on one cell that always returns. -/
def c_mem_total {α : Type} (i : ℕ) (routine : Mem → ρ → α × Mem × ρ) : MemM ρ α :=
  c_mem i fun pMem r => .ok (routine pMem r)

/-- `SQLITE_INTEGER`. -/
def SQLITE_INTEGER : ℕ := 1
/-- `SQLITE_FLOAT`. -/
def SQLITE_FLOAT : ℕ := 2
/-- `SQLITE_TEXT`. -/
def SQLITE_TEXT : ℕ := 3
/-- `SQLITE_BLOB`. -/
def SQLITE_BLOB : ℕ := 4
/-- `SQLITE_NULL`. -/
def SQLITE_NULL : ℕ := 5

/-- The first half of `_type_encoding_list`, where `MEM_Blob` is clear. The second half is the same. -/
def _type_encoding_list : List ℕ :=
  [SQLITE_BLOB, SQLITE_NULL, SQLITE_TEXT, SQLITE_NULL, SQLITE_INTEGER, SQLITE_NULL, SQLITE_INTEGER,
    SQLITE_NULL, SQLITE_FLOAT, SQLITE_NULL, SQLITE_FLOAT, SQLITE_NULL, SQLITE_INTEGER, SQLITE_NULL,
    SQLITE_INTEGER, SQLITE_NULL]

/-- `_type_encoding_list[flags & MEM_AffMask]`. -/
def valueTypeOf (flags : Flags) : ℕ :=
  (_type_encoding_list ++ _type_encoding_list).getD (flags &&& MEM_AffMask).toNat SQLITE_BLOB

/-- `Mem.MemSetTypeFlag`. -/
def MemSetTypeFlag (self : ℕ) (flags : Flags) : MemM ρ Unit := do
  set_flags self (withTypeFlag (← get_flags self) flags)

/-- `Mem.vdbeMemClearExternAndSetNull`. -/
def vdbeMemClearExternAndSetNull (self : ℕ) : MemM ρ Unit :=
  c_mem_total self fun pMem r => ((), pMem.vdbeMemClearExternAndSetNull L r)

/-- `Mem.VdbeMemRelease`. -/
def VdbeMemRelease (self : ℕ) : MemM ρ Unit := do
  if VdbeMemDynamic (← get_flags self) then vdbeMemClearExternAndSetNull L self

/-- `self.set_zMalloc_null()` after `sqlite3DbFree`, and `self.set_z_null()`. -/
def freeBuffer (freeMalloc : Bool) : FieldUpdate where
  write m := if freeMalloc then { m with zMalloc := [], z := .null } else { m with z := .null }
  flags_eq m := by split <;> rfl
  u_eq m := by split <;> rfl

/-- `Mem.vdbeMemClear`. -/
def vdbeMemClear (self : ℕ) : MemM ρ Unit := do
  if VdbeMemDynamic (← get_flags self) then vdbeMemClearExternAndSetNull L self
  poke self (freeBuffer ((← peek self Mem.szMalloc) ≠ 0))

/-- `Mem.sqlite3VdbeMemRelease`. -/
def sqlite3VdbeMemRelease (self : ℕ) : MemM ρ Unit := do
  VdbeMemRelease L self
  if VdbeMemDynamic (← get_flags self) || (← peek self Mem.szMalloc) ≠ 0 then vdbeMemClear L self

/-- `Mem.sqlite3VdbeMemSetInt64`. -/
def sqlite3VdbeMemSetInt64 (self : ℕ) (val : ℤ) (constant : Bool) : MemM ρ Unit := do
  if (← get_flags self) ≠ MEM_Int then
    sqlite3VdbeMemRelease L self
    set_flags self MEM_Int
  set_u_i self val constant

/-- `Mem.sqlite3VdbeMemSetNull`. -/
def sqlite3VdbeMemSetNull (self : ℕ) : MemM ρ Unit := do
  if (← get_flags self).has MEM_Frame || (← get_flags self).has MEM_RowSet then
    c_mem_total self fun pMem r => ((), pMem.sqlite3VdbeMemSetNull L r)
  else MemSetTypeFlag self MEM_Null

/-- `Mem.sqlite3VdbeMemSetDouble`. -/
def sqlite3VdbeMemSetDouble (self : ℕ) (val : Binary64) : MemM ρ Unit := do
  if val.isNaN then sqlite3VdbeMemSetNull L self
  else
    if (← get_flags self) ≠ MEM_Real then
      sqlite3VdbeMemRelease L self
      set_flags self MEM_Real
    set_u_r self val

/-- `Mem.sqlite3VdbeMemStringify`. -/
def sqlite3VdbeMemStringify (self : ℕ) (enc : ℕ) (bForce : Bool) : MemM ρ ℕ :=
  c_mem self (Mem.sqlite3VdbeMemStringify L enc bForce)

/-- `Mem.applyNumericAffinity`. -/
def applyNumericAffinity (self : ℕ) (bTryForInt : Bool) : MemM ρ Unit :=
  c_mem_total self fun pMem r => ((), pMem.applyNumericAffinity L bTryForInt, r)

/-- `Mem.sqlite3VdbeMemGrow`. -/
def sqlite3VdbeMemGrow (self : ℕ) (n : ℤ) (bPreserve : Bool) : MemM ρ ℕ :=
  c_mem self (Mem.sqlite3VdbeMemGrow L n bPreserve)

/-- `Mem.sqlite3VdbeMemExpandBlob`. -/
def sqlite3VdbeMemExpandBlob (self : ℕ) : MemM ρ ℕ := c_mem self (Mem.sqlite3VdbeMemExpandBlob L)

/-- `Mem.ExpandBlob`. -/
def ExpandBlob (self : ℕ) : MemM ρ ℕ := do
  if (← get_flags self).has MEM_Zero then sqlite3VdbeMemExpandBlob L self
  else pure SQLITE_OK

/-- `Mem.sqlite3VdbeIntegerAffinity`. -/
def sqlite3VdbeIntegerAffinity (self : ℕ) : MemM ρ Flags := do
  let flags ← get_flags self
  pyAssert (!flags.has MEM_RowSet)
  -- `u.r` is read whether or not the cell holds a real.
  let floatval ← get_u_r self
  let intval := floatval.toInt64
  if floatval.feq (Binary64.ofInt intval) && intval < maxint && intval > -maxint - 1 then
    set_u_i self intval
    MemSetTypeFlag self MEM_Int
  return flags

/-- `Mem.applyAffinity`. -/
def applyAffinity (self : ℕ) (affinity enc : ℕ) : MemM ρ Unit := do
  let flags ← get_flags self
  if affinity ≥ SQLITE_AFF_NUMERIC then
    pyAssert (affinity == SQLITE_AFF_INTEGER || affinity == SQLITE_AFF_REAL ||
      affinity == SQLITE_AFF_NUMERIC)
    if !flags.has MEM_Int then
      if !flags.has MEM_Real then
        if flags.has MEM_Str then applyNumericAffinity L self true
        else
          let _ ← sqlite3VdbeIntegerAffinity self
  else if affinity = SQLITE_AFF_TEXT then
    if !flags.has MEM_Str && flags.has (MEM_Real ||| MEM_Int) then
      let _ ← sqlite3VdbeMemStringify L self enc true

/-- `Mem._atoi`. -/
def _atoi (self : ℕ) : MemM ρ (ℕ × ℤ) := peek self fun pMem => L.Atoi64 pMem.buffer pMem.n pMem.enc

/-- `Mem.sqlite3VdbeIntValue`, also under the name `sqlite3_value_int64`. -/
def sqlite3VdbeIntValue (self : ℕ) : MemM ρ ℤ := do
  let flags ← get_flags self
  if flags.has MEM_Int then get_u_i self
  else if flags.has MEM_Real then return (← get_u_r self).toInt64
  else if flags.has (MEM_Str ||| MEM_Blob) then return (← _atoi L self).2
  else return 0

/-- `Mem.sqlite3VdbeRealValue`, also under the name `sqlite3_value_double`. -/
def sqlite3VdbeRealValue (self : ℕ) : MemM ρ Binary64 := do
  let flags ← get_flags self
  if flags.has MEM_Real then get_u_r self
  else if flags.has MEM_Int then return Binary64.ofInt (← get_u_i self)
  else if flags.has (MEM_Str ||| MEM_Blob) then
    peek self fun pMem => (L.AtoF pMem.buffer pMem.n pMem.enc).2
  else return 0

/-- `Mem.sqlite3_value_type`. -/
def sqlite3_value_type (self : ℕ) : MemM ρ ℕ := do return valueTypeOf (← get_flags self)

/-- `Mem.sqlite3_value_numeric_type`. -/
def sqlite3_value_numeric_type (self : ℕ) : MemM ρ ℕ := do
  let eType ← sqlite3_value_type self
  if eType = SQLITE_TEXT then
    applyNumericAffinity L self false
    sqlite3_value_type self
  else return eType

/-- The number of a cell with the flags `flags` as a double, in `Mem.sqlite3MemCompare`. -/
def get_number (self : ℕ) (flags : Flags) : MemM ρ Binary64 :=
  if flags.has MEM_Real then get_u_r self else Binary64.ofInt <$> get_u_i self

/-- `Mem.sqlite3MemCompare`. -/
def sqlite3MemCompare (self other : ℕ) (coll : Option CollSeq) : MemM ρ ℤ := do
  let flags1 ← get_flags self
  let flags2 ← get_flags other
  let combined_flags := flags1 ||| flags2
  if combined_flags.has MEM_Null then return nullBit flags2 - nullBit flags1
  if combined_flags.has (MEM_Int ||| MEM_Real) then
    if Flags.has (flags1 &&& flags2) MEM_Int then
      let i1 ← get_u_i self
      let i2 ← get_u_i other
      return if i1 < i2 then -1 else if i1 > i2 then 1 else 0
    else if !flags1.has MEM_Real && !flags1.has MEM_Int then return 1
    else
      let r1 ← get_number self flags1
      if !flags2.has MEM_Real && !flags2.has MEM_Int then return 1
      else
        let r2 ← get_number other flags2
        return if r1.lt r2 then -1 else if r2.lt r1 then 1 else 0
  invalidate_cache self
  invalidate_cache other
  let pMem1 ← peek self id
  let pMem2 ← peek other id
  return c_sqlite3MemCompare pMem1 pMem2 coll

end SQPyte
