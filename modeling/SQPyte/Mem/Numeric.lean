import SQPyte.Library.Binary64Arith
import SQPyte.Mem.Affinity
import SQPyte.Mem.Results

/-!
# Numbers and operands

An operand of an arithmetic opcode is NULL, an integer, a real, or neither: a text or blob that does
not look like a number, whose real value is that of its longest prefix that does. `numericType`
tells which, and fills the union of a text or blob on the way. `Mem.operand` is what an opcode sees
of a cell, and `At.run_numericType` says that this is what the method computes.

`set_u_i` leaves an integer in a cell whose flags do not announce one. The strict machine refuses to
read that, so the opcodes are not run on it as a whole. `Leads` is what takes its place: a program
leads from cells to cells whatever the cache knows.
-/

namespace SQPyte

open Commands

/-! ## Programs on related machines -/

section leads

variable {ρ α β : Type} {p : MemM ρ α} {s s' t : Strict ρ} {a : α} {b : β}

/-- On every machine related to `s` the program returns `a` and leaves one related to `s'`. -/
def Leads (p : MemM ρ α) (s : Strict ρ) (a : α) (s' : Strict ρ) : Prop :=
  ∀ m, Related m s → ∃ m', run (machine ρ) p m = .ok (a, m') ∧ Related m' s'

/-- A run of the strict machine. -/
theorem Leads.of_strict (h : run (strictMachine ρ) p s = .ok (a, s')) : Leads p s a s' :=
  fun _ hR => run_machine_of_strict hR h

/-- One program after the other. -/
theorem Leads.bind {f : α → MemM ρ β} (hp : Leads p s a s') (hf : Leads (f a) s' b t) :
    Leads (p >>= f) s b t := by
  intro m hR
  obtain ⟨m', hrun, hR'⟩ := hp m hR
  rw [run_bind_ok hrun]
  exact hf m' hR'

/-- A run on the cells alone, and then the rest. -/
theorem Leads.step {f : α → MemM ρ β} (hp : run (strictMachine ρ) p s = .ok (a, s'))
    (hf : Leads (f a) s' b t) : Leads (p >>= f) s b t := (Leads.of_strict hp).bind hf

/-- What a program leads to is what a run through the cache gives. -/
theorem Leads.execute (hp : Leads p s a s') {m : Machine ρ} (hR : Related m s) :
    execute p m = .ok (a, s'.mems, s'.rest) := by
  obtain ⟨m', hrun, hR'⟩ := hp m hR
  unfold SQPyte.execute
  rw [hrun]
  simp only [Except.map, hR'.mems, hR'.rest]

variable {i : ℕ} {c : Mem} {w : Member}

/-- The integer written last is read, whatever the flags announce. -/
theorem Leads.get_u_i (h : s.At i c w) (hw : w = .i ∨ w = .foreign) :
    Leads (get_u_i i) s c.u_i s := by
  intro m hR
  have hi : m.mems[i]? = some c := hR.mems ▸ h.1
  refine ⟨m, ?_, hR⟩
  unfold SQPyte.get_u_i
  rw [run_perform, machine, Machine.atMem, hi]
  dsimp only
  rw [set_self hi, Cache.get_u_i_spec (h.2 ▸ hR.slots i c h.1) hw]

/-- Whether an integer is a constant depends on the cache, and so does what follows. -/
theorem Leads.is_constant_u_i {f : Bool → MemM ρ β} (h : s.At i c w)
    (hf : ∀ constant, Leads (f constant) s b t) : Leads (is_constant_u_i i >>= f) s b t := by
  intro m hR
  have hi : m.mems[i]? = some c := hR.mems ▸ h.1
  have hrun : run (machine ρ) (SQPyte.is_constant_u_i i) m =
      .ok (m.cache.cache_state.is_constant_u_i i, m) := by
    unfold SQPyte.is_constant_u_i
    rw [run_perform, machine, Machine.atMem, hi]
    dsimp only
    rw [set_self hi]
  rw [run_bind_ok hrun]
  exact hf _ m hR

end leads

variable {ρ : Type} (L : CLib ρ)

/-! ## The numeric type -/

/-- `numericType` and `computeNumericType` of `vdbe.c`. -/
def Mem.numericType (pMem : Mem) : Flags × Mem :=
  if pMem.flags.has (MEM_Int ||| MEM_Real) then (pMem.flags &&& (MEM_Int ||| MEM_Real), pMem)
  else if pMem.flags.has (MEM_Str ||| MEM_Blob) then
    let (isNumber, r) := L.AtoF pMem.buffer pMem.n pMem.enc
    let pMem := { pMem with u := r }
    if !isNumber then (0, pMem)
    else
      let (rc, i) := L.Atoi64 pMem.buffer pMem.n pMem.enc
      let pMem := { pMem with u := BitVec.ofInt 64 i }
      if rc = SQLITE_OK then (MEM_Int, pMem) else (MEM_Real, pMem)
  else (0, pMem)

/-- `sqlite3VdbeIntValue` of `vdbemem.c`. -/
def Mem.sqlite3VdbeIntValue (pMem : Mem) : ℤ :=
  if pMem.flags.has MEM_Int then pMem.u_i
  else if pMem.flags.has MEM_Real then doubleToInt64 pMem.u_r
  else if pMem.flags.has (MEM_Str ||| MEM_Blob) then (L.Atoi64 pMem.buffer pMem.n pMem.enc).2
  else 0

/-- `Mem.numericType`. -/
def numericType (self : ℕ) : MemM ρ Flags := do
  let flags ← get_flags self
  if flags.has (MEM_Int ||| MEM_Real) then return flags &&& (MEM_Int ||| MEM_Real)
  if flags.has (MEM_Str ||| MEM_Blob) then
    let (atof, val1) ← peek self fun pMem => L.AtoF pMem.buffer pMem.n pMem.enc
    set_u_r self val1
    if !atof then return 0
    let (atoi64, value) ← _atoi L self
    set_u_i self value
    if atoi64 = SQLITE_OK then return MEM_Int
    return MEM_Real
  return 0

/-- The integers that `sqlite3Atoi64` accepts are those of 64 bits, and `sqlite3AtoF` reads them as
finite doubles. The two extremes that matter to a division have exactly their own. -/
structure CLib.ReadsIntegers (L : CLib ρ) : Prop where
  /-- An integer that is accepted fits. -/
  fits : ∀ z n enc, (L.Atoi64 z n enc).1 = SQLITE_OK →
    -2^63 ≤ (L.Atoi64 z n enc).2 ∧ (L.Atoi64 z n enc).2 < 2^63
  /-- Its text is a finite double. -/
  finite : ∀ z n enc, (L.Atoi64 z n enc).1 = SQLITE_OK → (L.AtoF z n enc).2.isFinite = true
  /-- The texts of `-1` and `-2^63` have the doubles of these. -/
  exact : ∀ z n enc, (L.Atoi64 z n enc).1 = SQLITE_OK →
    (L.Atoi64 z n enc).2 = -1 ∨ (L.Atoi64 z n enc).2 = -2^63 →
    (L.AtoF z n enc).2 = Binary64.ofInt (L.Atoi64 z n enc).2

/-- What an opcode sees of a cell. -/
inductive NumericOperand where
  /-- NULL. -/
  | null
  /-- An integer, with its real value. -/
  | int (i : ℤ) (r : Binary64)
  /-- A real. -/
  | real (r : Binary64)
  /-- No number, with the real value of a prefix. -/
  | other (r : Binary64)
deriving DecidableEq, Repr

/-- What an opcode sees of the cell `c`. -/
def Mem.operand (c : Mem) : NumericOperand :=
  if c.flags.has MEM_Null then .null
  else if (c.numericType L).1.has MEM_Int then .int (c.numericType L).2.u_i (c.realValue L)
  else if (c.numericType L).1.has MEM_Real then .real (c.realValue L)
  else .other (c.realValue L)

/-- What an opcode stores. -/
inductive Number where
  /-- NULL. -/
  | null
  /-- An integer. -/
  | int (i : ℤ)
  /-- A real. -/
  | real (r : Binary64)
deriving DecidableEq, Repr

/-- The real value of an operand. -/
def NumericOperand.value : NumericOperand → Binary64
  | .null => 0
  | .int _ r => r
  | .real r => r
  | .other r => r

/-- The operand is a real. -/
def NumericOperand.isReal : NumericOperand → Bool
  | .real _ => true
  | _ => false

/-- The integer strictly inside the 64-bit range that a double is. -/
def smallInt (x : Binary64) : Option ℤ :=
  let ix := Mem.doubleToInt64 x
  if x.feq (Binary64.ofInt ix) && ix > -2^63 && ix < 2^63 - 1 then some ix else none

/-- The reals that are integers of 64 bits, but for the ends. -/
theorem smallInt_eq_some {x : Binary64} {v : ℤ} :
    smallInt x = some v ↔ x.Is v ∧ v < 2^63 - 1 ∧ -2^63 < v := by
  unfold smallInt
  dsimp only
  split_ifs with h
  · obtain ⟨v', his, hhi, hlo⟩ := (integerAffinity_test_iff x).mp h
    rw [doubleToInt64_of_is his hhi hlo, Option.some.injEq]
    constructor
    · rintro rfl
      exact ⟨his, hhi, hlo⟩
    · rintro ⟨his', -, -⟩
      rw [← his.trunc_eq, ← his'.trunc_eq]
  · refine ⟨fun h => (nomatch h), fun ⟨his, hhi, hlo⟩ => ?_⟩
    exact absurd ((integerAffinity_test_iff x).mpr ⟨v, his, hhi, hlo⟩) h

/-- The number in a cell. -/
def Mem.number (c : Mem) : Option Number :=
  if c.flags.has MEM_Null then some .null
  else if c.flags.has MEM_Int then some (.int c.u_i)
  else if c.flags.has MEM_Real then some (.real c.u_r)
  else none

/-- What `Mem.sqlite3VdbeMemSetNull` leaves of a cell, and of the state outside it. -/
def Mem.pySetNull (c : Mem) (r : ρ) : Mem × ρ :=
  if c.flags.has MEM_Frame || c.flags.has MEM_RowSet then c.sqlite3VdbeMemSetNull L r
  else ({ c with flags := withTypeFlag c.flags MEM_Null }, r)

/-- The number in place of the value of a cell. NULL is stored by `setNull`. -/
def Mem.store (setNull : Mem → ρ → Mem × ρ) (x : Number) (c : Mem) (r : ρ) : Mem × ρ :=
  match x with
  | .null => setNull c r
  | .int i => ({ c with u := BitVec.ofInt 64 i, flags := withTypeFlag c.flags MEM_Int }, r)
  | .real x => ({ c with u := x, flags := withTypeFlag c.flags MEM_Real }, r)

namespace Mem

variable {L} {c c' : Mem}

/-- `sqlite3VdbeIntegerAffinity` stores the integer that the real is. -/
theorem sqlite3VdbeIntegerAffinity_eq (c : Mem) : c.sqlite3VdbeIntegerAffinity =
    match smallInt c.u_r with
    | some v => { c with u := BitVec.ofInt 64 v, flags := withTypeFlag c.flags MEM_Int }
    | none => c := by
  unfold sqlite3VdbeIntegerAffinity smallInt
  dsimp only
  split_ifs <;> rfl

/-- Two cells that differ in the union only. -/
def SameButUnion (c c' : Mem) : Prop := c' = { c with u := c'.u }

/-- A cell that was not touched. -/
theorem SameButUnion.refl (c : Mem) : SameButUnion c c := rfl

/-- The flags are the same. -/
theorem SameButUnion.flags_eq (h : SameButUnion c c') : c'.flags = c.flags := by rw [h]

/-- Reading the numeric type changes the union at most. -/
theorem numericType_sameButUnion (c : Mem) : SameButUnion c (c.numericType L).2 := by
  unfold numericType SameButUnion
  dsimp only
  split_ifs <;> rfl

/-- A number has its own type. -/
theorem numericType_of_number (h : c.flags.has (MEM_Int ||| MEM_Real) = true) :
    c.numericType L = (c.flags &&& (MEM_Int ||| MEM_Real), c) := if_pos h

/-- What is neither a number nor a text or blob has no numeric type. -/
theorem numericType_of_neither (hnum : c.flags.has (MEM_Int ||| MEM_Real) = false)
    (hstr : c.flags.has (MEM_Str ||| MEM_Blob) = false) : c.numericType L = (0, c) := by
  unfold numericType
  rw [hnum, hstr]
  rfl

/-- A text or blob that is no number has the value of a prefix in its union. -/
theorem numericType_of_text (hnum : c.flags.has (MEM_Int ||| MEM_Real) = false)
    (hstr : c.flags.has (MEM_Str ||| MEM_Blob) = true)
    (hno : (L.AtoF c.buffer c.n c.enc).1 = false) :
    c.numericType L = (0, { c with u := (L.AtoF c.buffer c.n c.enc).2 }) := by
  unfold numericType
  rw [hnum, hstr]
  simp only [Bool.false_eq_true, ↓reduceIte, hno, Bool.not_false]

/-- A text or blob that is a number has its integer part in its union. -/
theorem numericType_of_numeric (hnum : c.flags.has (MEM_Int ||| MEM_Real) = false)
    (hstr : c.flags.has (MEM_Str ||| MEM_Blob) = true)
    (hyes : (L.AtoF c.buffer c.n c.enc).1 = true) :
    c.numericType L = (if (L.Atoi64 c.buffer c.n c.enc).1 = SQLITE_OK then MEM_Int else MEM_Real,
      { c with u := BitVec.ofInt 64 (L.Atoi64 c.buffer c.n c.enc).2 }) := by
  unfold numericType
  rw [hnum, hstr]
  simp only [Bool.false_eq_true, ↓reduceIte, hyes, Bool.not_true]
  show (if (L.Atoi64 c.buffer c.n c.enc).1 = SQLITE_OK then _ else _) = _
  split_ifs <;> rfl

/-- The numeric type of a cell that has been filled is the same, and nothing is left to fill. -/
theorem numericType_numericType (c : Mem) :
    (c.numericType L).2.numericType L = c.numericType L := by
  cases hnum : c.flags.has (MEM_Int ||| MEM_Real) with
  | true => rw [numericType_of_number hnum, numericType_of_number hnum]
  | false =>
    cases hstr : c.flags.has (MEM_Str ||| MEM_Blob) with
    | false => rw [numericType_of_neither hnum hstr, numericType_of_neither hnum hstr]
    | true =>
      cases hf : (L.AtoF c.buffer c.n c.enc).1 with
      | false =>
        rw [numericType_of_text hnum hstr hf]
        exact numericType_of_text (c := { c with u := _ }) hnum hstr hf
      | true =>
        rw [numericType_of_numeric hnum hstr hf]
        exact numericType_of_numeric (c := { c with u := _ }) hnum hstr hf

/-- The real value of a cell that has been filled is the same. -/
theorem realValue_numericType (c : Mem) : (c.numericType L).2.realValue L = c.realValue L := by
  have hsame := numericType_sameButUnion (L := L) c
  by_cases hnum : c.flags.has (MEM_Int ||| MEM_Real) = true
  · rw [numericType_of_number hnum]
  · rw [Flags.has_or_right, Bool.or_eq_true, not_or] at hnum
    unfold realValue
    rw [hsame.flags_eq, if_neg hnum.2, if_neg hnum.1, if_neg hnum.2, if_neg hnum.1, hsame]
    rfl

/-- The numeric type of a value is one of two. -/
theorem IsValue.numericType {enc : ℕ} (h : c.IsValue enc) :
    ¬ ((c.numericType L).1.has MEM_Int = true ∧ (c.numericType L).1.has MEM_Real = true) := by
  have hno : ¬ (Flags.has 0 MEM_Int = true ∧ Flags.has 0 MEM_Real = true) := by decide
  cases hnum : c.flags.has (MEM_Int ||| MEM_Real) with
  | true =>
    have hint := h.int_real
    rw [numericType_of_number hnum]
    simp only [MEM_Int, MEM_Real, Flags.has_MEM_Int, Flags.has_MEM_Real, BitVec.getLsbD_and] at hint ⊢
    simp only [Bool.and_eq_true]
    tauto
  | false =>
    cases hstr : c.flags.has (MEM_Str ||| MEM_Blob) with
    | false => rw [numericType_of_neither hnum hstr]; exact hno
    | true =>
      cases hf : (L.AtoF c.buffer c.n c.enc).1 with
      | false => rw [numericType_of_text hnum hstr hf]; exact hno
      | true =>
        rw [numericType_of_numeric hnum hstr hf]
        dsimp only
        split_ifs <;> decide

/-- What an opcode sees of a value that is not NULL. -/
theorem IsValue.numericOperand {enc : ℕ} (h : c.IsValue enc) (hnull : c.flags.has MEM_Null = false) :
    ((c.numericType L).1.has MEM_Int = true ∧ (c.numericType L).1.has MEM_Real = false ∧
      c.operand L = .int (c.numericType L).2.u_i (c.realValue L)) ∨
    ((c.numericType L).1.has MEM_Int = false ∧ (c.numericType L).1.has MEM_Real = true ∧
      c.operand L = .real (c.realValue L)) ∨
    ((c.numericType L).1.has MEM_Int = false ∧ (c.numericType L).1.has MEM_Real = false ∧
      c.operand L = .other (c.realValue L)) := by
  have hboth := h.numericType (L := L)
  unfold Mem.operand
  rw [hnull]
  cases hint : (c.numericType L).1.has MEM_Int <;> cases hreal : (c.numericType L).1.has MEM_Real
  · simp
  · simp
  · simp
  · exact absurd ⟨hint, hreal⟩ hboth

/-- The integer in a cell has 64 bits. -/
theorem u_i_fits (c : Mem) : -2^63 ≤ c.u_i ∧ c.u_i < 2^63 := by
  unfold u_i
  have hlo := BitVec.le_toInt c.u
  have hhi := BitVec.toInt_lt (x := c.u)
  omega

/-- An integer that fits a word. -/
theorem toInt_ofInt_of_fits {v : ℤ} (hlo : -2^63 ≤ v) (hhi : v < 2^63) :
    (BitVec.ofInt 64 v).toInt = v := by
  rw [BitVec.toInt_ofInt, Int.bmod_eq_of_le (by omega) (by omega)]

/-- The integer that an opcode sees has 64 bits, and its real value is a number. -/
theorem operand_int {enc : ℕ} (hL : L.ReadsIntegers) (h : c.IsValue enc) {i : ℤ} {r : Binary64}
    (hop : c.operand L = .int i r) :
    (-2^63 ≤ i ∧ i < 2^63) ∧ r.isFinite = true ∧ (i = -1 ∨ i = -2^63 → r = Binary64.ofInt i) := by
  have hnull : c.flags.has MEM_Null = false := by
    cases hn : c.flags.has MEM_Null with
    | true =>
      have hnull : c.operand L = .null := if_pos hn
      rw [hnull] at hop
      cases hop
    | false => rfl
  rcases h.numericOperand (L := L) hnull with ⟨hint, -, heq⟩ | ⟨-, -, heq⟩ | ⟨-, -, heq⟩
  · rw [hop] at heq
    injection heq with hi hr
    rw [hi, hr]
    refine ⟨u_i_fits _, ?_⟩
    cases hnum : c.flags.has (MEM_Int ||| MEM_Real) with
    | true =>
      -- A cell with an integer.
      have hnot := h.int_real
      rw [numericType_of_number hnum] at hint ⊢
      have hci : c.flags.has MEM_Int = true := by
        simp only [MEM_Int, MEM_Real, Flags.has_MEM_Int, BitVec.getLsbD_and] at hint ⊢
        exact (Bool.and_eq_true_iff.mp hint).1
      have hcr : c.flags.has MEM_Real = false := by
        cases hr : c.flags.has MEM_Real with
        | true => exact absurd ⟨hci, hr⟩ hnot
        | false => rfl
      have hreal : c.realValue L = Binary64.ofInt c.u_i := by
        unfold realValue
        rw [hci, hcr]
        rfl
      have hb := u_i_fits c
      rw [hreal]
      exact ⟨Binary64.isFinite_ofInt (by omega) (by omega), fun _ => rfl⟩
    | false =>
      cases hstr : c.flags.has (MEM_Str ||| MEM_Blob) with
      | false =>
        rw [numericType_of_neither hnum hstr] at hint
        exact absurd hint (by simp [Flags.has])
      | true =>
        cases hf : (L.AtoF c.buffer c.n c.enc).1 with
        | false =>
          rw [numericType_of_text hnum hstr hf] at hint
          exact absurd hint (by simp [Flags.has])
        | true =>
          -- The text of an integer.
          rw [numericType_of_numeric hnum hstr hf] at hint ⊢
          have hrc : (L.Atoi64 c.buffer c.n c.enc).1 = SQLITE_OK := by
            by_contra hrc
            rw [if_neg hrc] at hint
            exact absurd hint (by simp)
          have hfits := hL.fits _ _ _ hrc
          have hu : ({ c with u := BitVec.ofInt 64 (L.Atoi64 c.buffer c.n c.enc).2 } : Mem).u_i =
              (L.Atoi64 c.buffer c.n c.enc).2 := toInt_ofInt_of_fits hfits.1 hfits.2
          rw [Flags.has_or_right, Bool.or_eq_false_iff] at hnum
          have hreal : c.realValue L = (L.AtoF c.buffer c.n c.enc).2 := by
            unfold realValue
            rw [hnum.1, hnum.2, hstr]
            rfl
          rw [hreal, hu]
          exact ⟨hL.finite _ _ _ hrc, hL.exact _ _ _ hrc⟩
  · rw [hop] at heq
    cases heq
  · rw [hop] at heq
    cases heq

end Mem

namespace Strict

variable {L} {s : Strict ρ} {i : ℕ} {c : Mem} {w : Member}

/-- The method does what the routine of `vdbe.c` does, and an integer it finds can be read. -/
theorem At.run_numericType (L : CLib ρ) (h : s.At i c w) (ha : Announces c w) :
    ∃ w', run (strictMachine ρ) (numericType L i) s =
        .ok ((c.numericType L).1, s.setMem i (c.numericType L).2 w') ∧
      Announces (c.numericType L).2 w' ∧
      ((c.numericType L).1.has MEM_Int = true → w' = .i ∨ w' = .foreign) := by
  unfold numericType
  rw [run_bind_ok h.run_get_flags]
  by_cases hnum : c.flags.has (MEM_Int ||| MEM_Real) = true
  · rw [if_pos hnum, Mem.numericType_of_number hnum]
    refine ⟨w, by rw [h.setMem_self, run_pure], ha, fun hint => ha.1 ?_⟩
    simp only [MEM_Int, MEM_Real, Flags.has_MEM_Int, BitVec.getLsbD_and] at hint ⊢
    exact (Bool.and_eq_true_iff.mp hint).1
  have hnum' : c.flags.has (MEM_Int ||| MEM_Real) = false := by simpa using hnum
  have hneither : ∀ (u : BitVec 64) (w' : Member), Announces { c with u := u } w' := by
    rw [Flags.has_or_right, Bool.or_eq_true, not_or] at hnum
    exact fun u w' => ⟨fun h => absurd h hnum.1, fun h => absurd h hnum.2⟩
  rw [if_neg hnum]
  by_cases hstr : c.flags.has (MEM_Str ||| MEM_Blob) = true
  · have hat := h.setMem { c with u := (L.AtoF c.buffer c.n c.enc).2 } .r
    rw [if_pos hstr, run_bind_ok (h.run_peek _)]
    dsimp only
    rw [run_bind_ok (h.run_set_u_r _)]
    cases hf : (L.AtoF c.buffer c.n c.enc).1 with
    | false =>
      rw [if_pos (by simp), Mem.numericType_of_text hnum' hstr hf]
      exact ⟨.r, run_pure .., hneither _ _, by simp [Flags.has]⟩
    | true =>
      unfold _atoi
      rw [if_neg (by simp), Mem.numericType_of_numeric hnum' hstr hf, run_bind_ok (hat.run_peek _)]
      dsimp only
      have hbuffer : ∀ u, ({ c with u := u } : Mem).buffer = c.buffer := fun _ => rfl
      rw [run_bind_ok (hat.run_set_u_i _ _), Strict.setMem_setMem, hbuffer]
      refine ⟨.i, ?_, hneither _ _, fun _ => Or.inl rfl⟩
      split_ifs <;> rfl
  · rw [if_neg hstr, Mem.numericType_of_neither hnum' (by simpa using hstr)]
    exact ⟨w, by rw [h.setMem_self, run_pure], ha, by simp [Flags.has]⟩

/-- Setting a cell to NULL. -/
theorem At.run_setNull (L : CLib ρ) (h : s.At i c w) :
    ∃ w', run (strictMachine ρ) (sqlite3VdbeMemSetNull L i) s =
        .ok ((), { s.setMem i (c.pySetNull L s.rest).1 w' with rest := (c.pySetNull L s.rest).2 }) ∧
      Announces (c.pySetNull L s.rest).1 w' := by
  unfold Mem.pySetNull
  by_cases hfr : (c.flags.has MEM_Frame || c.flags.has MEM_RowSet) = true
  · rw [if_pos hfr]
    refine ⟨.foreign, ?_, fun _ => Or.inr rfl, fun _ => Or.inr rfl⟩
    unfold sqlite3VdbeMemSetNull
    rw [run_bind_ok h.run_get_flags, run_bind_ok h.run_get_flags, if_pos hfr]
    exact h.run_c_mem rfl
  · rw [if_neg hfr]
    rw [Bool.or_eq_true, not_or] at hfr
    refine ⟨w, h.run_sqlite3VdbeMemSetNull L (by simpa using hfr.1) (by simpa using hfr.2), ?_⟩
    constructor <;> simp [withTypeFlag]

/-- The Python method does what the routine of `vdbemem.c` does. -/
theorem At.run_sqlite3VdbeIntegerAffinity (h : s.At i c w) (ha : Announces c w)
    (hreal : c.flags.has MEM_Real = true) (hrow : c.flags.has MEM_RowSet = false) :
    ∃ w', run (strictMachine ρ) (sqlite3VdbeIntegerAffinity i) s =
        .ok (c.flags, s.setMem i c.sqlite3VdbeIntegerAffinity w') ∧
      Announces c.sqlite3VdbeIntegerAffinity w' := by
  unfold sqlite3VdbeIntegerAffinity
  rw [run_bind_ok h.run_get_flags, run_bind_ok (run_pyAssert s (by rw [hrow]; rfl)),
    run_bind_ok (h.run_get_u_r hreal (ha.2 hreal))]
  dsimp only
  by_cases hsmall : IsSmallInt c.u_r
  · obtain ⟨v, his, hhi, hlo⟩ := hsmall
    have hto : c.u_r.toInt64 = v :=
      ((Binary64.feq_ofInt_toInt64_iff c.u_r v).mpr ⟨his, hhi, hlo⟩).1
    have hat := h.setMem { c with u := BitVec.ofInt 64 v } .i
    rw [if_pos ((pyIntegerAffinity_test_iff _).mpr ⟨v, his, hhi, hlo⟩),
      sqlite3VdbeIntegerAffinity_of_is his hhi hlo, hto]
    refine ⟨.i, ?_, fun _ => Or.inl rfl, by simp [withTypeFlag]⟩
    unfold MemSetTypeFlag
    rw [bind_assoc, run_bind_ok (h.run_set_u_i v false), run_bind_ok hat.run_get_flags,
      run_bind_ok (hat.run_set_flags _), Strict.setMem_setMem,
      run_pure]
  · rw [if_neg (by rw [pyIntegerAffinity_test_iff]; exact hsmall),
      sqlite3VdbeIntegerAffinity_of_not hsmall]
    exact ⟨w, by rw [h.setMem_self]; rfl, ha⟩

/-! ## Two operands -/

/-- The operand `c` in cell `i` has been filled, and an integer there can be read. -/
def Filled (L : CLib ρ) (s : Strict ρ) (i : ℕ) (c : Mem) : Prop :=
  ∃ w, s.At i (c.numericType L).2 w ∧ Announces (c.numericType L).2 w ∧
    ((c.numericType L).1.has MEM_Int = true → w = .i ∨ w = .foreign)

/-- The cells `i` and `j` after both have been filled. -/
structure FilledTwo (L : CLib ρ) (s s' : Strict ρ) (i j : ℕ) (c d : Mem) : Prop where
  /-- The first cell has its numeric type. -/
  fst : s'.Filled L i c
  /-- So has the second one. -/
  snd : s'.Filled L j d
  /-- Only the two cells are written. -/
  mems : s'.mems = (s.mems.set i (c.numericType L).2).set j (d.numericType L).2
  /-- The number of registers. -/
  nMem : s'.nMem = s.nMem
  /-- Everything else. -/
  rest : s'.rest = s.rest
  /-- Every cell announces its union. -/
  announced : s'.Announced

/-- `numericType` on one operand and then on the other, which may be the same. -/
theorem run_numericType_two (L : CLib ρ) (ha : s.Announced) {j : ℕ} {d : Mem}
    (hi : s.mems[i]? = some c) (hj : s.mems[j]? = some d) :
    ∃ s₁ s₂, run (strictMachine ρ) (numericType L i) s = .ok ((c.numericType L).1, s₁) ∧
      s₁.mems.length = s.mems.length ∧ s₁.nMem = s.nMem ∧
      run (strictMachine ρ) (SQPyte.get_flags j) s₁ = .ok (d.flags, s₁) ∧
      run (strictMachine ρ) (numericType L j) s₁ = .ok ((d.numericType L).1, s₂) ∧
      FilledTwo L s s₂ i j c d := by
  have hat : s.At i c (s.written i) := ⟨hi, rfl⟩
  obtain ⟨w₁, hrun₁, hann₁, hread₁⟩ := hat.run_numericType L (ha i c hi)
  set s₁ := s.setMem i (c.numericType L).2 w₁ with hs₁
  have ha₁ : s₁.Announced := ha.setMem hann₁ i
  -- The second operand is as it was, but for what the first has filled.
  obtain ⟨e, he, hflags, htype⟩ : ∃ e, s₁.mems[j]? = some e ∧ e.flags = d.flags ∧
      e.numericType L = d.numericType L := by
    by_cases hij : i = j
    · subst hij
      obtain rfl : c = d := Option.some.inj (hi.symm.trans hj)
      exact ⟨_, List.getElem?_set_self hat.lt, (Mem.numericType_sameButUnion c).flags_eq,
        Mem.numericType_numericType c⟩
    · exact ⟨d, (List.getElem?_set_ne hij).trans hj, rfl, rfl⟩
  have hat₁ : s₁.At j e (s₁.written j) := ⟨he, rfl⟩
  obtain ⟨w₂, hrun₂, hann₂, hread₂⟩ := hat₁.run_numericType L (ha₁ j e he)
  rw [htype] at hrun₂ hann₂ hread₂
  refine ⟨s₁, s₁.setMem j (d.numericType L).2 w₂, hrun₁, List.length_set .., rfl,
    hflags ▸ hat₁.run_get_flags, hrun₂, ?_, ⟨w₂, hat₁.setMem _ _, hann₂, hread₂⟩, rfl, rfl, rfl,
    ha₁.setMem hann₂ j⟩
  by_cases hij : i = j
  · subst hij
    obtain rfl : c = d := Option.some.inj (hi.symm.trans hj)
    exact ⟨w₂, hat₁.setMem _ _, hann₂, hread₂⟩
  · exact ⟨w₁, (hat.setMem _ w₁).setMem_ne (Ne.symm hij) _ _, hann₁, hread₁⟩

end Strict

end SQPyte
