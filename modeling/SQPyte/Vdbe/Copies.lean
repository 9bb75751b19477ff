import SQPyte.Record.MakeRecord

/-!
# Copies and texts

The methods of `Mem` that copy a cell, make its text or blob its own, and give it to the caller as a
text.
-/

namespace SQPyte

variable {ρ : Type} (L : CLib ρ)

namespace Mem

/-- `vdbeMemAddTerminator`: room for a terminator, which is written. -/
def vdbeMemAddTerminator (p : Mem) (r : ρ) : Except Exc (ℕ × Mem × ρ) := do
  let (rc, p, r) ← p.sqlite3VdbeMemGrow L (p.n + 2) true r
  if rc ≠ SQLITE_OK then return (SQLITE_NOMEM, p, r)
  else
    let p ← p.writeOwn p.n.toNat [0, 0]
    return (SQLITE_OK, { p with flags := p.flags ||| MEM_Term }, r)

/-- `sqlite3VdbeMemNulTerminate` of `vdbemem.c`. -/
def sqlite3VdbeMemNulTerminate (p : Mem) (r : ρ) : Except Exc (ℕ × Mem × ρ) :=
  if p.flags &&& (MEM_Term ||| MEM_Str) ≠ MEM_Str then .ok (SQLITE_OK, p, r)
  else p.vdbeMemAddTerminator L r

/-- `sqlite3VdbeMemRelease` of `vdbemem.c`. -/
def sqlite3VdbeMemRelease (p : Mem) (r : ρ) : Mem × ρ :=
  if VdbeMemDynamic p.flags || p.szMalloc ≠ 0 then
    let (p, r) := if VdbeMemDynamic p.flags then p.vdbeMemClearExternAndSetNull L r else (p, r)
    ({ p with zMalloc := [], szMalloc := 0, z := .null }, r)
  else (p, r)

/-- `sqlite3Strlen30`. -/
def sqlite3Strlen30 (z : List Byte) : ℕ := (z.takeWhile (· ≠ 0)).length % 2^30

/-- `sqlite3VdbeMemSetStr` with a UTF-8 text of `n` bytes that is copied, and the limit on its
length. Behind the bytes `z` there is a NUL. -/
def sqlite3VdbeMemSetStr (limit : ℤ) (z : List Byte) (n : ℤ) (p : Mem) (r : ρ) :
    Except Exc (ℕ × Mem × ρ) :=
  let nByte : ℤ := if n < 0 then min (sqlite3Strlen30 z) (limit + 1) else n
  let flags := if n < 0 then MEM_Str ||| MEM_Term else MEM_Str
  let nAlloc := if n < 0 then nByte + 1 else nByte
  if limit < nByte then .ok (SQLITE_TOOBIG, p, r)
  else do
    let (rc, p, r) ← p.sqlite3VdbeMemClearAndResize L (max nAlloc 32).toNat r
    if rc ≠ SQLITE_OK then return (SQLITE_NOMEM, p, r)
    else
      let p ← p.writeOwn 0 ((z ++ [0]).take nAlloc.toNat)
      return (SQLITE_OK, { p with n := nByte, flags := flags, enc := SQLITE_UTF8 }, r)

/-- `valueToText`: the cell with the text among its representations, and the bytes behind `z`, or
nothing if the encoding could not be had. -/
def valueToText (enc : ℕ) (p : Mem) (r : ρ) : Except Exc (Option (List Byte) × Mem × ρ) := do
  let (p, r) ←
    if p.flags.has (MEM_Blob ||| MEM_Str) then do
      let p := { p with flags := p.flags ||| MEM_Str }
      let (p, r) ←
        if p.flags.has MEM_Zero then do
          let (_, p, r) ← p.sqlite3VdbeMemExpandBlob L r
          pure (p, r)
        else pure (p, r)
      let (p, r) := if p.enc ≠ enc then p.sqlite3VdbeChangeEncoding L enc r else (p, r)
      let (_, p, r) ← p.sqlite3VdbeMemNulTerminate L r
      pure (p, r)
    else do
      let (_, p, r) ← p.sqlite3VdbeMemStringify L enc false r
      pure (p, r)
  return (if p.enc = enc then some p.buffer else none, p, r)

end Mem

/-- `Mem.sqlite3VdbeMemMakeWriteable`. -/
def sqlite3VdbeMemMakeWriteable (self : ℕ) : MemM ρ ℕ := do
  pyAssert (!(← get_flags self).has MEM_RowSet)
  let _ ← ExpandBlob L self
  let f ← get_flags self
  -- two null pointers are equal too
  let elsewhere ← peek self fun pMem => pMem.z ≠ .own && !(pMem.z == .null && pMem.zMalloc == [])
  if f.has (MEM_Str ||| MEM_Blob) && elsewhere then
    if (← sqlite3VdbeMemGrow L self ((← peek self Mem.n) + 2) true) ≠ SQLITE_OK then
      return SQLITE_NOMEM
    else
      putBytes self (← peek self Mem.n).toNat [0, 0]
      set_flags self (f ||| MEM_Term)
      return SQLITE_OK
  else return SQLITE_OK

/-- `Mem.sqlite3VdbeMemNulTerminate`. -/
def sqlite3VdbeMemNulTerminate (self : ℕ) : MemM ρ ℕ := do
  if (← get_flags self) &&& (MEM_Term ||| MEM_Str) ≠ MEM_Str then return SQLITE_OK
  else c_mem self (Mem.sqlite3VdbeMemNulTerminate L)

/-- The assignments `set_enc`, `set_n` and `set_z` of `sqlite3VdbeMemShallowCopy`. The text or blob
of another cell is not the cell's own. -/
def copyText (from_ : Mem) : FieldUpdate where
  write m := { m with
    enc := from_.enc
    n := from_.n
    z := match from_.z with
      | .null => .null
      | _ => .ext from_.buffer }
  flags_eq _ := rfl
  u_eq _ := rfl

/-- `Mem.sqlite3VdbeMemShallowCopy`. The union of an aggregate or a frame is copied as a word. -/
def sqlite3VdbeMemShallowCopy (self from_ : ℕ) (srcType : Flags) : MemM ρ Unit := do
  pyAssert (!(← get_flags from_).has MEM_RowSet)
  if VdbeMemDynamic (← get_flags self) then vdbeMemClearExternAndSetNull L self
  let fromflags ← get_flags from_
  if fromflags.has MEM_Real then set_u_r self (← get_u_r from_)
  if fromflags.has MEM_Int then set_u_i self (← get_u_i from_)
  if fromflags.has MEM_Zero then set_u_nZero self (← peek from_ Mem.u_nZero)
  if fromflags.has MEM_Agg then
    pyAssert (fromflags == MEM_Agg)
    set_u_r self (← peek from_ Mem.u)
  if fromflags.has MEM_Frame then
    pyAssert (fromflags == MEM_Frame)
    set_u_r self (← peek from_ Mem.u)
  poke self (copyText (← peek from_ id))
  if !fromflags.has MEM_Static then
    set_flags self (fromflags &&& ~~~(MEM_Dyn ||| MEM_Static ||| MEM_Ephem) ||| srcType)
  else set_flags self fromflags

/-- `Mem.sqlite3VdbeMemTooBig`, with the limit `db->aLimit[SQLITE_LIMIT_LENGTH]`. -/
def sqlite3VdbeMemTooBig (limit : ℤ) (self : ℕ) : MemM ρ Bool := do
  if !(← get_flags self).has (MEM_Str ||| MEM_Blob) then return false
  else
    peek self fun pMem =>
      limit < if pMem.flags.has MEM_Zero then pMem.n + pMem.u_nZero else pMem.n

/-- `Mem.sqlite3ValueText`: the bytes behind the pointer that it returns. -/
def sqlite3ValueText (self enc : ℕ) : MemM ρ (Option (List Byte)) := do
  let flags ← get_flags self
  pyAssert (!flags.has MEM_RowSet)
  if flags &&& (MEM_Str ||| MEM_Term) = MEM_Str ||| MEM_Term && (← peek self Mem.enc) = enc then
    peek self fun pMem => some pMem.buffer
  else if flags.has MEM_Null then return none
  else c_mem self (Mem.valueToText L enc)

/-- `Mem.sqlite3ValueBytes`. -/
def sqlite3ValueBytes (self enc : ℕ) : MemM ρ ℤ := do
  let stored ←
    if (← get_flags self).has MEM_Blob then pure true
    else do
      let text ← sqlite3ValueText L self enc
      pure text.isSome
  if stored then
    if (← get_flags self).has MEM_Zero then
      peek self fun pMem => pMem.n + pMem.u_nZero
    else peek self Mem.n
  else return 0

end SQPyte
