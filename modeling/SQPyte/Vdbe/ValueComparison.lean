import SQPyte.Vdbe.NullComparison

/-!
# Comparisons of values

For two operands that are not NULL, the outcome of the Python translation against that of the C
version. Under a numeric affinity the fast path is taken as soon as one operand is a number, and then
it asserts that both are. On the slow path both versions convert and expand the operands in the same
way (`convert_spec`, `expand_spec`), and differ in the comparison itself: `sqlite3MemCompare` puts a
number in `P3` after a text or blob in `P1`. `comparesAsC_iff` says that there is no other difference.
-/

namespace SQPyte

open Commands

variable {ρ : Type} {L : CLib ρ} {V : CVdbe ρ} {s : Strict ρ} {op : Op} {enc affinity : ℕ} {pc : ℤ}
  {rc : ℕ}

/-! ## Conversion and expansion -/

/-- The operand is a number. -/
def Mem.isNumber (c : Mem) : Bool := c.flags.has MEM_Int || c.flags.has MEM_Real

/-- The conversion changes an operand with these flags. -/
def converts (affinity : ℕ) (flags : Flags) : Bool :=
  if affinity ≥ SQLITE_AFF_NUMERIC then textOnly flags
  else affinity == SQLITE_AFF_TEXT && numberOnly flags

/-- The operand is a number after the conversion. -/
def numberAfter (L : CLib ρ) (affinity : ℕ) (c : Mem) : Bool :=
  if affinity ≥ SQLITE_AFF_NUMERIC then
    c.isNumber || c.flags.has MEM_Str && (L.AtoF c.buffer c.n c.enc).1
  else if affinity = SQLITE_AFF_TEXT then c.isNumber && c.flags.has MEM_Str
  else c.isNumber

/-- What the slow path relies on in the cell of an operand. -/
structure Operand (enc : ℕ) (c : Mem) : Prop where
  /-- The operand is not NULL. -/
  notNull : c.flags.has MEM_Null = false
  /-- The cell's own allocation has the size recorded. -/
  alloc : c.szMalloc = c.zMalloc.length
  /-- Zeros are implied only in a blob that is stored. -/
  zero : c.flags.has MEM_Zero = true → c.IsValue enc

/-- A text and no number. -/
theorem textOnly_iff (f : Flags) : textOnly f = true ↔
    f.has MEM_Str = true ∧ f.has MEM_Int = false ∧ f.has MEM_Real = false := by
  unfold textOnly
  rw [beq_iff_eq]
  constructor
  · intro h
    have hbit := fun k => congrArg (fun b : Flags => b.getLsbD k) h
    have h1 := hbit 1
    have h2 := hbit 2
    have h3 := hbit 3
    simp at h1 h2 h3 ⊢
    exact ⟨h1, h2, h3⟩
  · rintro ⟨hs, hi, hr⟩
    simp only [MEM_Str, MEM_Int, MEM_Real, Flags.has_MEM_Str, Flags.has_MEM_Int,
      Flags.has_MEM_Real] at hs hi hr
    ext k hk
    simp only [MEM_Int, MEM_Real, MEM_Str, BitVec.getElem_and, BitVec.getElem_or]
    interval_cases k <;> simp_all

/-- A number and no text. -/
theorem numberOnly_iff (f : Flags) : numberOnly f = true ↔
    f.has MEM_Str = false ∧ (f.has MEM_Int = true ∨ f.has MEM_Real = true) := by
  unfold numberOnly
  rw [Flags.has_or_right]
  cases f.has MEM_Str <;> simp

/-- A conversion leaves no blob with implied zeros. -/
theorem zero_of_converts (affinity : ℕ) {c : Mem} (hc : c.IsValue enc)
    (h : converts affinity c.flags = true) : c.flags.has MEM_Zero = false := by
  by_contra hz
  obtain ⟨hi, hr, hs⟩ := hc.blob (hc.zero (by simpa using hz)).1
  have hno : textOnly c.flags = false ∧ numberOnly c.flags = false := by
    constructor
    · rw [Bool.eq_false_iff, Ne, textOnly_iff, hs]; simp
    · rw [Bool.eq_false_iff, Ne, numberOnly_iff, hi, hr]; simp
  unfold converts at h
  rw [hno.1, hno.2] at h
  simp at h

/-- A value that is not NULL is an operand. -/
theorem Mem.IsValue.operand {c : Mem} (hc : c.IsValue enc) (hn : c.flags.has MEM_Null = false) :
    Operand enc c := ⟨hn, hc.alloc, fun _ => hc⟩

/-- `applyNumericAffinity` without the attempt at an integer adds a number to the type. -/
theorem applyNumericAffinity_spec (c : Mem) :
    (c.applyNumericAffinity L false).szMalloc = c.szMalloc ∧
      (c.applyNumericAffinity L false).zMalloc = c.zMalloc ∧
      (c.applyNumericAffinity L false).flags.has MEM_Null = c.flags.has MEM_Null ∧
      (c.applyNumericAffinity L false).flags.has MEM_Zero = c.flags.has MEM_Zero ∧
      (c.applyNumericAffinity L false).isNumber =
        (c.isNumber || (L.AtoF c.buffer c.n c.enc).1) := by
  unfold Mem.applyNumericAffinity Mem.isNumber
  cases h : L.AtoF c.buffer c.n c.enc with
  | mk isNumber rValue =>
    cases isNumber with
    | false => simp
    | true =>
      simp only [Bool.not_true, Bool.false_eq_true, ↓reduceIte]
      split_ifs <;> simp

/-- While memory lasts, the conversion succeeds. -/
theorem convert_spec (hL : L.Lawful V.mallocFailed) (affinity : ℕ) {c : Mem} (hc : Operand enc c)
    {flags : Flags} (hz : converts affinity flags = true → c.flags.has MEM_Zero = false) (r : ρ) :
    ∃ c' r', c_convertOperand L affinity enc flags c r = .ok (c', r') ∧ Operand enc c' ∧
      V.mallocFailed r' = V.mallocFailed r ∧ (converts affinity flags = false → c' = c) ∧
      (converts affinity flags = true → c'.flags.has MEM_Zero = false) := by
  unfold c_convertOperand converts at *
  by_cases hn : affinity ≥ SQLITE_AFF_NUMERIC
  · simp only [if_pos hn] at hz ⊢
    cases ht : textOnly flags with
    | false => exact ⟨c, r, rfl, hc, rfl, fun _ => rfl, by simp⟩
    | true =>
      obtain ⟨hsz, hzm, hnull, hzero, -⟩ := applyNumericAffinity_spec (L := L) c
      have hz := hz ht
      refine ⟨c.applyNumericAffinity L false, r, rfl, ⟨hnull.trans hc.notNull,
        by rw [hsz, hzm]; exact hc.alloc, ?_⟩, rfl, by simp, fun _ => hzero.trans hz⟩
      rw [hzero, hz]
      simp
  · simp only [if_neg hn] at hz ⊢
    by_cases ht : affinity = SQLITE_AFF_TEXT
    · simp only [ht, beq_self_eq_true, Bool.true_and, ↓reduceIte] at hz ⊢
      cases hnum : numberOnly flags with
      | false => exact ⟨c, r, rfl, hc, rfl, fun _ => rfl, by simp⟩
      | true =>
        obtain ⟨c', r', heq, ha, hm, -, hnull, -, -, hzero⟩ :=
          Mem.sqlite3VdbeMemStringify_spec hL enc hc.alloc (hz hnum) hc.notNull r
        refine ⟨c', r', ?_, ⟨hnull, ha, by rw [hzero]; simp⟩, hm, by simp, fun _ => hzero⟩
        rw [heq]; rfl
    · have : (affinity == SQLITE_AFF_TEXT) = false := by simpa using ht
      simp only [ht, this, Bool.false_and, ↓reduceIte]
      exact ⟨c, r, rfl, hc, rfl, fun _ => rfl, by simp⟩

/-- The operand is a number after the conversion in the sense of `numberAfter`. -/
theorem isNumber_of_convert (hL : L.Lawful V.mallocFailed) {c : Mem} (hc : c.IsValue enc)
    (hnull : c.flags.has MEM_Null = false) {r r' : ρ} {c' : Mem}
    (h : c_convertOperand L affinity enc c.flags c r = .ok (c', r')) :
    c'.isNumber = numberAfter L affinity c := by
  unfold c_convertOperand at h
  unfold numberAfter
  by_cases hn : affinity ≥ SQLITE_AFF_NUMERIC
  · rw [if_pos hn] at h ⊢
    obtain ⟨rfl, -⟩ := Prod.mk.inj (Except.ok.inj h)
    -- Only a text without a number in it is converted.
    cases ht : textOnly c.flags with
    | true =>
      obtain ⟨hs, hi, hr⟩ := (textOnly_iff _).mp ht
      rw [if_pos rfl, (applyNumericAffinity_spec c).2.2.2.2, hs, Bool.true_and]
    | false =>
      rw [if_neg Bool.false_ne_true]
      have ht := mt (textOnly_iff c.flags).mpr (by rw [ht]; simp)
      unfold Mem.isNumber
      cases hs : c.flags.has MEM_Str with
      | false => simp
      | true =>
        have : (c.flags.has MEM_Int || c.flags.has MEM_Real) = true := by
          by_contra hno
          rw [Bool.or_eq_true, not_or, Bool.not_eq_true, Bool.not_eq_true] at hno
          exact ht ⟨hs, hno⟩
        rw [this, Bool.true_or]
  · rw [if_neg hn] at h ⊢
    by_cases ht : affinity = SQLITE_AFF_TEXT
    · rw [if_pos ht] at h ⊢
      -- Only a number that has no text yet is printed, and is a text afterwards.
      cases hnum : numberOnly c.flags with
      | false =>
        rw [hnum, if_neg Bool.false_ne_true] at h
        obtain ⟨rfl, -⟩ := Prod.mk.inj (Except.ok.inj h)
        have hno := mt (numberOnly_iff c.flags).mpr (by rw [hnum]; simp)
        unfold Mem.isNumber
        cases hs : c.flags.has MEM_Str with
        | true => simp
        | false =>
          rw [hs] at hno
          rw [Bool.and_false, Bool.or_eq_false_iff]
          simpa using hno
      | true =>
        have hs := ((numberOnly_iff c.flags).mp hnum).1
        have hz : c.flags.has MEM_Zero = false :=
          zero_of_converts affinity hc (by
            unfold converts
            rw [if_neg hn, ht, hnum]; rfl)
        obtain ⟨c'', r'', heq, -, -, -, -, hi, hr, -⟩ :=
          Mem.sqlite3VdbeMemStringify_spec hL enc hc.alloc hz hnull r
        rw [hnum, if_pos rfl, heq] at h
        obtain ⟨rfl, -⟩ := Prod.mk.inj (Except.ok.inj h)
        unfold Mem.isNumber
        rw [hi, hr, hs, Bool.and_false]
        rfl
    · rw [if_neg ht] at h ⊢
      obtain ⟨rfl, -⟩ := Prod.mk.inj (Except.ok.inj h)
      rfl

/-- While memory lasts, the expansion succeeds, and the type stays. -/
theorem expand_spec (hL : L.Lawful V.mallocFailed) {c : Mem} (hc : Operand enc c) (flags : Flags)
    (r : ρ) :
    ∃ c' r', c_expandOperand L flags c r = .ok (c', r') ∧ Operand enc c' ∧
      V.mallocFailed r' = V.mallocFailed r ∧ c'.storageClass = c.storageClass ∧
      c'.isNumber = c.isNumber := by
  unfold c_expandOperand
  split_ifs with hf
  · by_cases hz : c.flags.has MEM_Zero = true
    · obtain ⟨c', r', heq, he, hm⟩ :=
        Mem.sqlite3VdbeMemExpandBlob_spec hL (hc.zero hz) hz r
      have hflags := he.flags
      refine ⟨c', r', by rw [heq]; rfl, ⟨?_, he.alloc, ?_⟩, hm, ?_, ?_⟩
      · have := hc.notNull
        rw [hflags]; simp at this ⊢; exact this
      · rw [hflags]; simp
      · unfold Mem.storageClass; rw [hflags]; simp
      · unfold Mem.isNumber; rw [hflags]; simp
    · refine ⟨c, r, ?_, hc, rfl, rfl, rfl⟩
      unfold Mem.sqlite3VdbeMemExpandBlob
      rw [if_neg hz]
      rfl
  · exact ⟨c, r, rfl, hc, rfl, rfl, rfl⟩

/-! ## The outcome -/

/-- The result is stored in an operand. -/
def Op.p2_is_operand (op : Op) : Bool :=
  op.p2.toNat == op.p1.toNat || op.p2.toNat == op.p3.toNat

/-- What `P2` holds under `SQLITE_STOREP2`: the word of the union and, unless `P2` is an operand, the
flags. -/
def storedOutcome (op : Op) (mems : List Mem) : Option (BitVec 64 × Option Flags) :=
  if op.p5_has SQLITE_STOREP2 then
    (mems[op.p2.toNat]?).map fun c => (c.u, if op.p2_is_operand then none else some c.flags)
  else none

/-- The outcome of a comparison: the program counter and the result code, and what is stored. -/
def comparisonOutcome (op : Op) (x : (ℤ × ℕ) × List Mem × ρ) :
    (ℤ × ℕ) × Option (BitVec 64 × Option Flags) :=
  (x.1, storedOutcome op x.2.1)

/-- The outcome that delivers a truth value. -/
def deliveredOutcome (op : Op) (pc : ℤ) (rc : ℕ) (mems : List Mem) (res : Bool) :
    (ℤ × ℕ) × Option (BitVec 64 × Option Flags) :=
  if op.p5_has SQLITE_STOREP2 then
    ((pc, rc), (mems[op.p2.toNat]?).map fun c => (BitVec.ofInt 64 (truth res),
      if op.p2_is_operand then none else some (withTypeFlag c.flags MEM_Int)))
  else ((if res then op.p2as_pc else pc, rc), none)

section outcome

variable {mems : List Mem} {i : ℕ} {c c' : Mem}

/-- The output may be an operand. -/
theorem p2_is_operand_of_eq (hi : i = op.p1.toNat ∨ i = op.p3.toNat) (h : op.p2.toNat = i) :
    op.p2_is_operand = true := by
  unfold Op.p2_is_operand
  rw [Bool.or_eq_true, beq_iff_eq, beq_iff_eq, h]
  exact hi

/-- The flags of an operand are no part of the outcome. -/
theorem storedOutcome_set (hi : i = op.p1.toNat ∨ i = op.p3.toNat) (h : mems[i]? = some c)
    (hu : c'.u = c.u) : storedOutcome op (mems.set i c') = storedOutcome op mems := by
  unfold storedOutcome
  by_cases h2 : op.p2.toNat = i
  · rw [p2_is_operand_of_eq hi h2, h2, List.getElem?_set_self (List.getElem?_eq_some_iff.mp h).1, h]
    simp [hu]
  · rw [List.getElem?_set_ne (Ne.symm h2)]

/-- Flags that are put back do not change what is stored. -/
theorem storedOutcome_set_flags (hi : i = op.p1.toNat ∨ i = op.p3.toNat) (h : mems[i]? = some c)
    (f : Flags) : storedOutcome op (mems.set i { c with flags := f }) = storedOutcome op mems :=
  storedOutcome_set hi h rfl

/-- What the operands hold is no part of a delivered outcome. -/
theorem deliveredOutcome_set (hi : i = op.p1.toNat ∨ i = op.p3.toNat) (h : i < mems.length)
    (res : Bool) : deliveredOutcome op pc rc (mems.set i c') res =
      deliveredOutcome op pc rc mems res := by
  unfold deliveredOutcome
  by_cases h2 : op.p2.toNat = i
  · rw [p2_is_operand_of_eq hi h2, h2, List.getElem?_set_self h, List.getElem?_eq_getElem h]
    simp
  · rw [List.getElem?_set_ne (Ne.symm h2)]

/-- Storing a truth value delivers it. -/
theorem storedOutcome_store (hst : op.p5_has SQLITE_STOREP2 = true)
    (h : mems[op.p2.toNat]? = some c) (res : Bool) :
    ((pc, rc), storedOutcome op (mems.set op.p2.toNat { c with
      flags := withTypeFlag c.flags MEM_Int, u := BitVec.ofInt 64 (truth res) })) =
      deliveredOutcome op pc rc mems res := by
  unfold storedOutcome deliveredOutcome
  rw [if_pos hst, if_pos hst, List.getElem?_set_self (List.getElem?_eq_some_iff.mp h).1, h]
  rfl

/-- Two truth values can be told apart by the outcome, unless the jump goes to the next instruction
anyway. -/
theorem deliveredOutcome_eq_iff (h : op.p5_has SQLITE_STOREP2 = true → op.p2.toNat < mems.length)
    (a b : Bool) : deliveredOutcome op pc rc mems a = deliveredOutcome op pc rc mems b ↔
      a = b ∨ (op.p5_has SQLITE_STOREP2 = false ∧ op.p2as_pc = pc) := by
  have htruth : ∀ a b : Bool, BitVec.ofInt 64 (truth a) = BitVec.ofInt 64 (truth b) ↔ a = b := by
    decide
  unfold deliveredOutcome
  cases hst : op.p5_has SQLITE_STOREP2 with
  | true =>
    rw [List.getElem?_eq_getElem (h hst)]
    simp [htruth]
  | false => cases a <;> cases b <;> simp [eq_comm]

/-- Putting the flags of the operands back, whatever they are, is no part of the outcome. -/
theorem c_restore_outcome (h1 : op.p1.toNat < mems.length) (h3 : op.p3.toNat < mems.length)
    (flags1 flags3 : Flags) (r : ρ) :
    (do
      let (_, mems, r) ← onMem mems op.p1 fun c => .ok ((), { c with flags := flags1 }, r)
      let (_, mems, r) ← onMem mems op.p3 fun c => .ok ((), { c with flags := flags3 }, r)
      return ((pc, rc), mems, r) : Except Exc ((ℤ × ℕ) × List Mem × ρ)).map
        (comparisonOutcome op) = .ok ((pc, rc), storedOutcome op mems) := by
  have hg1 := List.getElem?_eq_getElem h1
  rw [onMem_eq hg1]
  simp only [bind, Except.bind, Except.map]
  have h3' : op.p3.toNat <
      (mems.set op.p1.toNat { mems[op.p1.toNat] with flags := flags1 }).length := by
    simpa using h3
  have hg3 := List.getElem?_eq_getElem h3'
  rw [onMem_eq hg3]
  simp only [Except.map, pure, Except.pure, comparisonOutcome]
  rw [storedOutcome_set_flags (Or.inr rfl) hg3, storedOutcome_set_flags (Or.inl rfl) hg1]

/-- The C version delivers its result. -/
theorem c_deliver_outcome (h1 : op.p1.toNat < mems.length) (h3 : op.p3.toNat < mems.length)
    (h2 : op.p5_has SQLITE_STOREP2 = true → op.p2.toNat < mems.length) (res : Bool)
    (flags1 flags3 : Flags) (r : ρ) :
    (c_deliver op pc rc res flags1 flags3 mems r).map (comparisonOutcome op) =
      .ok (deliveredOutcome op pc rc mems res) := by
  unfold c_deliver
  cases hst : op.p5_has SQLITE_STOREP2 with
  | true =>
    have hg2 := List.getElem?_eq_getElem (h2 hst)
    rw [if_pos rfl, onMem_eq hg2, ← storedOutcome_store hst hg2]
    exact c_restore_outcome (by simpa using h1) (by simpa using h3) flags1 flags3 r
  | false =>
    have hstored : storedOutcome op mems = none := if_neg (by simp [hst])
    have hdelivered : deliveredOutcome op pc rc mems res =
        ((if res then op.p2as_pc else pc, rc), none) := if_neg (by simp [hst])
    rw [hdelivered, ← hstored]
    exact c_restore_outcome h1 h3 flags1 flags3 r

end outcome

/-! ## The fast path -/

/-- A relation between two values is the same relation between the sign of their comparison and
zero. -/
theorem cmp_eq_relation {α : Type} {eq lt le : α → α → Bool} {opcode : Opcode}
    (hop : opcode.isComparison = true) {a b : α} (heq : eq a b = (!lt a b && !lt b a))
    (hab : le a b = !lt b a) (hba : le b a = !lt a b) (hasymm : lt a b = true → lt b a = false) :
    _cmp_depending_on_opcode eq lt le opcode a b =
      relation opcode (Comparator.threeWay (lt a b) (lt b a)) := by
  have hcases : opcode = .Eq ∨ opcode = .Ne ∨ opcode = .Lt ∨ opcode = .Le ∨ opcode = .Gt ∨
      opcode = .Ge := by simpa [Opcode.isComparison] using hop
  unfold _cmp_depending_on_opcode relation Comparator.threeWay
  rcases hcases with rfl | rfl | rfl | rfl | rfl | rfl <;> dsimp only <;>
    first | rw [heq] | rw [hab] | rw [hba] | skip
  all_goals
    cases hlt : lt a b with
    | true => simp [hasymm hlt]
    | false => cases lt b a <;> simp

/-- The word of a cell is a 64-bit integer. -/
theorem Mem.u_i_bounds (c : Mem) : -2^63 ≤ c.u_i ∧ c.u_i ≤ 2^63 := by
  have h1 : c.u.toInt < 2^63 := BitVec.toInt_lt
  have h2 : -2^63 ≤ c.u.toInt := BitVec.le_toInt c.u
  unfold Mem.u_i
  omega

/-- A number as a double is no NaN. -/
theorem isNaN_asReal {c : Mem} (hc : c.IsValue enc) : c.asReal.isNaN = false := by
  unfold Mem.asReal
  split_ifs with hr
  · exact hc.real hr
  · exact Binary64.isNaN_of_isFinite (Binary64.isFinite_ofInt c.u_i_bounds.1 c.u_i_bounds.2)

/-- An operand of the fast path, read as a double. -/
theorem run_number {i : ℕ} {c : Mem} {w : Member} (hi : s.At i c w) (hw : Announces c w)
    (hc : c.IsValue enc) (hn : c.isNumber = true) :
    run (strictMachine ρ) (compareFast.number i c.flags) s = .ok (c.asReal, s) := by
  unfold Mem.isNumber at hn
  unfold compareFast.number Mem.asReal
  by_cases hint : c.flags.has MEM_Int = true
  · have hreal : ¬ c.flags.has MEM_Real = true := fun h => hc.int_real ⟨hint, h⟩
    rw [if_pos hint, if_neg hreal, run_bind_ok (hi.run_get_u_i hint (hw.1 hint)), run_pure]
  · have hreal : c.flags.has MEM_Real = true := by
      rw [Bool.or_eq_true] at hn
      exact hn.resolve_left hint
    rw [if_neg hint, if_pos hreal, run_bind_ok (Strict.run_pyAssert s hreal),
      hi.run_get_u_r hreal (hw.2 hreal)]

/-- On two numbers, the fast path computes the relation of the opcode to their comparison. -/
theorem run_compareFast {i1 i3 : ℕ} {c1 c3 : Mem} {w1 w3 : Member} {opcode : Opcode}
    (hop : opcode.isComparison = true) (h1 : s.At i1 c1 w1) (h3 : s.At i3 c3 w3)
    (hw1 : Announces c1 w1) (hw3 : Announces c3 w3) (hc1 : c1.IsValue enc) (hc3 : c3.IsValue enc)
    (hn1 : c1.isNumber = true) (hn3 : c3.isNumber = true) :
    run (strictMachine ρ) (compareFast opcode i1 i3 c1.flags c3.flags) s =
      .ok (relation opcode (numberCompare c3 c1), s) := by
  have hand : Flags.has (c1.flags &&& c3.flags) MEM_Int =
      (c1.flags.has MEM_Int && c3.flags.has MEM_Int) := Flags.has_and_twoPow _ _ 2 (by decide)
  unfold compareFast numberCompare
  rw [hand, Bool.and_comm]
  by_cases hints : (c3.flags.has MEM_Int && c1.flags.has MEM_Int) = true
  · obtain ⟨hi3, hi1⟩ := Bool.and_eq_true_iff.mp hints
    rw [if_pos hints, if_pos hints, run_bind_ok (h1.run_get_u_i hi1 (hw1.1 hi1)),
      run_bind_ok (h3.run_get_u_i hi3 (hw3.1 hi3)), run_pure, cmp_eq_relation hop]
    · rw [Bool.eq_iff_iff]; simp; omega
    · rw [Bool.eq_iff_iff]; simp
    · rw [Bool.eq_iff_iff]; simp
    · simp; omega
  · rw [if_neg hints, if_neg hints, run_bind_ok (run_number h1 hw1 hc1 hn1),
      run_bind_ok (run_number h3 hw3 hc3 hn3), run_pure, cmp_eq_relation hop]
    · rw [Bool.eq_iff_iff, Binary64.feq_iff (isNaN_asReal hc3) (isNaN_asReal hc1)]
      simp
    · rw [Bool.eq_iff_iff, Binary64.le_iff_not_lt (isNaN_asReal hc3) (isNaN_asReal hc1)]
      simp
    · rw [Bool.eq_iff_iff, Binary64.le_iff_not_lt (isNaN_asReal hc1) (isNaN_asReal hc3)]
      simp
    · exact Binary64.lt_asymm

/-- On a number and something else, the fast path fails an assertion. -/
theorem run_compareFast_mixed {i1 i3 : ℕ} {c1 c3 : Mem} {w1 : Member} {opcode : Opcode}
    (h1 : s.At i1 c1 w1) (hw1 : Announces c1 w1) (hc1 : c1.IsValue enc)
    (hn : c1.isNumber ≠ c3.isNumber) :
    run (strictMachine ρ) (compareFast opcode i1 i3 c1.flags c3.flags) s =
      .error (some .assertion) := by
  have hand : Flags.has (c1.flags &&& c3.flags) MEM_Int =
      (c1.flags.has MEM_Int && c3.flags.has MEM_Int) := Flags.has_and_twoPow _ _ 2 (by decide)
  have hfail : ∀ {i : ℕ} {c : Mem}, c.isNumber = false →
      run (strictMachine ρ) (compareFast.number i c.flags) s = .error (some .assertion) := by
    intro i c hno
    obtain ⟨hint, hreal⟩ := Bool.or_eq_false_iff.mp hno
    unfold compareFast.number
    rw [if_neg (by rw [hint]; simp), run_bind_error (Strict.run_pyAssert_false s hreal)]
  have hints : ¬ (c1.flags.has MEM_Int && c3.flags.has MEM_Int) = true := by
    intro h
    obtain ⟨hi1, hi3⟩ := Bool.and_eq_true_iff.mp h
    apply hn
    unfold Mem.isNumber
    rw [hi1, hi3, Bool.true_or, Bool.true_or]
  unfold compareFast
  rw [hand, if_neg hints]
  cases hn1 : c1.isNumber with
  | false => exact run_bind_error (hfail hn1) _
  | true =>
    have hn3 : c3.isNumber = false := by
      rw [hn1] at hn
      simpa using hn.symm
    rw [run_bind_ok (run_number h1 hw1 hc1 hn1)]
    exact run_bind_error (hfail hn3) _

/-! ## The slow path -/

section slow

variable {i i1 i3 : ℕ} {c c' c1 c3 : Mem} {w w1 w3 : Member} {flags : Flags} {r' : ρ}

/-- What an operand becomes: it was handed to C, or nothing has changed. -/
def Handed (c c' : Mem) (w w' : Member) : Prop := w' = .foreign ∨ w' = w ∧ c' = c

/-- One conversion after the other. -/
theorem Handed.trans {c'' : Mem} {w'' : Member} (h : Handed c c' w w')
    (h' : Handed c' c'' w' w'') : Handed c c'' w w'' := by
  rcases h' with hw | ⟨rfl, rfl⟩
  · exact Or.inl hw
  · exact h

/-- The conversion of an operand, on the cells alone. -/
theorem run_convertOperand (hi : s.At i c w) (hw : Announces c w)
    (h : c_convertOperand L affinity enc flags c s.rest = .ok (c', r')) :
    ∃ w', run (strictMachine ρ) (convertOperand L affinity enc i flags) s =
      .ok ((if converts affinity flags then c'.flags else flags, converts affinity flags),
        { s.setMem i c' w' with rest := r' }) ∧ Announces c' w' ∧ Handed c c' w w' := by
  have hself : ({ s.setMem i c w with rest := s.rest } : Strict ρ) = s := hi.setMem_self
  -- What a C routine wrote, the cache has forgotten.
  have hext : ∀ c : Mem, Announces c .foreign := fun _ => ⟨fun _ => Or.inr rfl, fun _ => Or.inr rfl⟩
  unfold c_convertOperand at h
  unfold convertOperand converts
  by_cases hn : affinity ≥ SQLITE_AFF_NUMERIC
  · simp only [if_pos hn] at h ⊢
    -- Numeric affinity converts texts only.
    cases ht : textOnly flags with
    | true =>
      rw [ht, if_pos rfl] at h
      obtain ⟨rfl, rfl⟩ := Prod.mk.inj (Except.ok.inj h)
      have hrun : run (strictMachine ρ) (applyNumericAffinity L i false) s =
          .ok ((), { s.setMem i (c.applyNumericAffinity L false) .foreign with rest := s.rest }) :=
        hi.run_c_mem rfl
      have hat : ({ s.setMem i (c.applyNumericAffinity L false) .foreign with rest := s.rest } :
          Strict ρ).At i (c.applyNumericAffinity L false) .foreign := hi.setMem _ _
      refine ⟨.foreign, ?_, hext _, Or.inl rfl⟩
      rw [if_pos rfl, run_bind_ok hrun, run_bind_ok hat.run_get_flags, run_pure]
      rfl
    | false =>
      rw [ht, if_neg Bool.false_ne_true] at h
      obtain ⟨rfl, rfl⟩ := Prod.mk.inj (Except.ok.inj h)
      exact ⟨w, by rw [hself]; rfl, hw, Or.inr ⟨rfl, rfl⟩⟩
  · simp only [if_neg hn] at h ⊢
    by_cases ht : affinity = SQLITE_AFF_TEXT
    · simp only [if_pos ht] at h ⊢
      -- TEXT affinity converts numbers only.
      cases hnum : numberOnly flags with
      | true =>
        rw [hnum, if_pos rfl] at h
        cases hst : c.sqlite3VdbeMemStringify L enc true s.rest with
        | error e => rw [hst] at h; cases h
        | ok x =>
          rw [hst] at h
          obtain ⟨rc, c'', r''⟩ := x
          obtain ⟨rfl, rfl⟩ := Prod.mk.inj (Except.ok.inj h)
          have hrun : run (strictMachine ρ) (sqlite3VdbeMemStringify L i enc true) s =
              .ok (rc, { s.setMem i c'' .foreign with rest := r'' }) := hi.run_c_mem hst
          have hat : ({ s.setMem i c'' .foreign with rest := r'' } : Strict ρ).At i c'' .foreign :=
            hi.setMem _ _
          refine ⟨.foreign, ?_, hext _, Or.inl rfl⟩
          rw [if_pos rfl, run_bind_ok hrun, run_bind_ok hat.run_get_flags, run_pure, ht]
          rfl
      | false =>
        rw [hnum, if_neg Bool.false_ne_true] at h
        obtain ⟨rfl, rfl⟩ := Prod.mk.inj (Except.ok.inj h)
        refine ⟨w, ?_, hw, Or.inr ⟨rfl, rfl⟩⟩
        rw [hself, Bool.and_false]
        rfl
    · simp only [if_neg ht] at h ⊢
      obtain ⟨rfl, rfl⟩ := Prod.mk.inj (Except.ok.inj h)
      have hne : (affinity == SQLITE_AFF_TEXT) = false := by simpa using ht
      refine ⟨w, ?_, hw, Or.inr ⟨rfl, rfl⟩⟩
      rw [hself, hne, Bool.false_and]
      rfl

/-- The expansion of an operand, on the cells alone. -/
theorem run_expandOperand (hi : s.At i c w) (hw : Announces c w) (orig_flags : Flags)
    (h : c_expandOperand L flags c s.rest = .ok (c', r')) :
    ∃ w', run (strictMachine ρ) (expandOperand L i flags orig_flags) s =
      .ok ((clearZero flags orig_flags, flags.has MEM_Zero),
        { s.setMem i c' w' with rest := r' }) ∧ Announces c' w' ∧ Handed c c' w w' := by
  unfold c_expandOperand at h
  unfold expandOperand clearZero
  cases hz : flags.has MEM_Zero with
  | true =>
    rw [hz, if_pos rfl] at h
    cases hst : c.sqlite3VdbeMemExpandBlob L s.rest with
    | error e => rw [hst] at h; cases h
    | ok x =>
      rw [hst] at h
      obtain ⟨rc, c'', r''⟩ := x
      obtain ⟨rfl, rfl⟩ := Prod.mk.inj (Except.ok.inj h)
      have hrun : run (strictMachine ρ) (sqlite3VdbeMemExpandBlob L i) s =
          .ok (rc, { s.setMem i c'' .foreign with rest := r'' }) := hi.run_c_mem hst
      refine ⟨.foreign, ?_, ⟨fun _ => Or.inr rfl, fun _ => Or.inr rfl⟩, Or.inl rfl⟩
      rw [if_pos rfl, run_bind_ok hrun, run_pure]
      rfl
  | false =>
    rw [hz, if_neg Bool.false_ne_true] at h
    obtain ⟨rfl, rfl⟩ := Prod.mk.inj (Except.ok.inj h)
    refine ⟨w, ?_, hw, Or.inr ⟨rfl, rfl⟩⟩
    have hself : ({ s.setMem i c w with rest := s.rest } : Strict ρ) = s := hi.setMem_self
    rw [hself]
    rfl

/-- The slow path on two registers. -/
theorem run_compareSlow_distinct {a1 a3 e1 e3 : Mem} {r1 r2 r3 r4 : ρ} (hne : i1 ≠ i3)
    (h1 : s.At i1 c1 w1) (h3 : s.At i3 c3 w3) (hw1 : Announces c1 w1) (hw3 : Announces c3 w3)
    (hp4 : op.p4_is_coll_or_null = true)
    (hconv1 : c_convertOperand L op.affinity enc c1.flags c1 s.rest = .ok (a1, r1))
    (hsame1 : converts op.affinity c1.flags = false → a1 = c1)
    (hconv3 : c_convertOperand L op.affinity enc c3.flags c3 r1 = .ok (a3, r2))
    (hsame3 : converts op.affinity c3.flags = false → a3 = c3)
    (hexp1 : c_expandOperand L a1.flags a1 r2 = .ok (e1, r3))
    (hexp3 : c_expandOperand L a3.flags a3 r3 = .ok (e3, r4)) :
    ∃ s', run (strictMachine ρ) (compareSlow L enc op i1 i3 c1.flags c3.flags) s =
        .ok ((relation op.opcode (methodCompare op.p4_pColl e3 e1), clearZero a1.flags c1.flags,
          clearZero a3.flags c3.flags, converts op.affinity c1.flags ||
            converts op.affinity c3.flags || a1.flags.has MEM_Zero || a3.flags.has MEM_Zero), s') ∧
      s'.mems = (s.mems.set i1 e1).set i3 e3 ∧ s'.nMem = s.nMem ∧ s'.rest = r4 ∧
      Handed c1 e1 w1 (s'.written i1) ∧ Handed c3 e3 w3 (s'.written i3) := by
  -- Where nothing is converted the new flags are the old ones.
  have hnew1 : (if converts op.affinity c1.flags = true then a1.flags else c1.flags) = a1.flags := by
    split_ifs with h
    · rfl
    · rw [hsame1 (by simpa using h)]
  have hnew3 : (if converts op.affinity c3.flags = true then a3.flags else c3.flags) = a3.flags := by
    split_ifs with h
    · rfl
    · rw [hsame3 (by simpa using h)]
  unfold compareSlow
  -- The steps of the slow path, each with what it leaves of the other operand.
  obtain ⟨v1, hrun1, hv1, ht1⟩ := run_convertOperand h1 hw1 hconv1
  set s1 : Strict ρ := { s.setMem i1 a1 v1 with rest := r1 } with hs1
  have h1' : s1.At i1 a1 v1 := h1.setMem _ _
  have h3' : s1.At i3 c3 w3 := h3.setMem_ne hne _ _
  obtain ⟨v3, hrun2, hv3, ht3⟩ := run_convertOperand (s := s1) h3' hw3 hconv3
  set s2 : Strict ρ := { s1.setMem i3 a3 v3 with rest := r2 } with hs2
  have h1'' : s2.At i1 a1 v1 := h1'.setMem_ne hne.symm _ _
  have h3'' : s2.At i3 a3 v3 := h3'.setMem _ _
  obtain ⟨u1, hrun3, hu1, ht1'⟩ := run_expandOperand (s := s2) h1'' hv1 c1.flags hexp1
  set s3 : Strict ρ := { s2.setMem i1 e1 u1 with rest := r3 } with hs3
  have h1e : s3.At i1 e1 u1 := h1''.setMem _ _
  have h3e : s3.At i3 a3 v3 := h3''.setMem_ne hne _ _
  obtain ⟨u3, hrun4, hu3, ht3'⟩ := run_expandOperand (s := s3) h3e hv3 c3.flags hexp3
  set s4 : Strict ρ := { s3.setMem i3 e3 u3 with rest := r4 } with hs4
  have h1f : s4.At i1 e1 u1 := h1e.setMem_ne hne.symm _ _
  have h3f : s4.At i3 e3 u3 := h3e.setMem _ _
  rw [run_bind_ok hrun1, run_bind_ok hrun2, hnew1, hnew3, run_bind_ok (Strict.run_pyAssert _ hp4),
    run_bind_ok hrun3, run_bind_ok hrun4, run_bind_ok (run_sqlite3MemCompare _ h3f h1f hu3 hu1),
    run_pure]
  refine ⟨s4, rfl, ?_, rfl, rfl, h1f.2 ▸ ht1.trans ht1', h3f.2 ▸ ht3.trans ht3'⟩
  show (((s.mems.set i1 a1).set i3 a3).set i1 e1).set i3 e3 = (s.mems.set i1 e1).set i3 e3
  rw [List.set_comm _ _ hne.symm, List.set_set, List.set_set]

/-- The slow path on one register. -/
theorem run_compareSlow_same {a a' e e' : Mem} {r1 r2 r3 r4 : ρ} (h : s.At i c w)
    (hw : Announces c w) (hp4 : op.p4_is_coll_or_null = true)
    (hconv1 : c_convertOperand L op.affinity enc c.flags c s.rest = .ok (a, r1))
    (hconv3 : c_convertOperand L op.affinity enc c.flags a r1 = .ok (a', r2))
    (hexp1 : c_expandOperand L (if converts op.affinity c.flags then a.flags else c.flags) a' r2 =
      .ok (e, r3))
    (hexp3 : c_expandOperand L (if converts op.affinity c.flags then a'.flags else c.flags) e r3 =
      .ok (e', r4)) :
    ∃ s', run (strictMachine ρ) (compareSlow L enc op i i c.flags c.flags) s =
        .ok ((relation op.opcode (methodCompare op.p4_pColl e' e'),
          clearZero (if converts op.affinity c.flags then a.flags else c.flags) c.flags,
          clearZero (if converts op.affinity c.flags then a'.flags else c.flags) c.flags,
          converts op.affinity c.flags || converts op.affinity c.flags ||
            Flags.has (if converts op.affinity c.flags then a.flags else c.flags) MEM_Zero ||
            Flags.has (if converts op.affinity c.flags then a'.flags else c.flags) MEM_Zero), s') ∧
      s'.mems = s.mems.set i e' ∧ s'.nMem = s.nMem ∧ s'.rest = r4 ∧
      Handed c e' w (s'.written i) := by
  unfold compareSlow
  obtain ⟨v1, hrun1, hv1, ht1⟩ := run_convertOperand h hw hconv1
  set s1 : Strict ρ := { s.setMem i a v1 with rest := r1 } with hs1
  have h1 : s1.At i a v1 := h.setMem _ _
  obtain ⟨v3, hrun2, hv3, ht3⟩ := run_convertOperand (s := s1) h1 hv1 hconv3
  set s2 : Strict ρ := { s1.setMem i a' v3 with rest := r2 } with hs2
  have h2 : s2.At i a' v3 := h1.setMem _ _
  obtain ⟨u1, hrun3, hu1, ht1'⟩ := run_expandOperand (s := s2) h2 hv3 c.flags hexp1
  set s3 : Strict ρ := { s2.setMem i e u1 with rest := r3 } with hs3
  have h3 : s3.At i e u1 := h2.setMem _ _
  obtain ⟨u3, hrun4, hu3, ht3'⟩ := run_expandOperand (s := s3) h3 hu1 c.flags hexp3
  set s4 : Strict ρ := { s3.setMem i e' u3 with rest := r4 } with hs4
  have h4 : s4.At i e' u3 := h3.setMem _ _
  rw [run_bind_ok hrun1, run_bind_ok hrun2, run_bind_ok (Strict.run_pyAssert _ hp4),
    run_bind_ok hrun3, run_bind_ok hrun4, run_bind_ok (run_sqlite3MemCompare _ h4 h4 hu3 hu3),
    run_pure]
  refine ⟨s4, rfl, ?_, rfl, rfl, h4.2 ▸ ((ht1.trans ht3).trans ht1').trans ht3'⟩
  show (((s.mems.set i a).set i a').set i e).set i e' = s.mems.set i e'
  rw [List.set_set, List.set_set, List.set_set]

/-- The C version on operands that are not NULL, step by step: `b1` and `b3` are what the steps before
left in the operands. -/
theorem impl_of_steps (pc : ℤ) (rc : ℕ) {mems : List Mem} {a1 a3 b1 b3 b3' e1 e3 d1 : Mem}
    {r r1 r2 r3 r4 : ρ}
    (h1 : mems[op.p1.toNat]? = some c1) (h3 : mems[op.p3.toNat]? = some c3)
    (hnull : Flags.has (c1.flags ||| c3.flags) MEM_Null = false)
    (hconv1 : c_convertOperand L op.affinity enc c1.flags c1 r = .ok (a1, r1))
    (hb3 : (mems.set op.p1.toNat a1)[op.p3.toNat]? = some b3)
    (hconv3 : c_convertOperand L op.affinity enc b3.flags b3 r1 = .ok (a3, r2))
    (hb1 : ((mems.set op.p1.toNat a1).set op.p3.toNat a3)[op.p1.toNat]? = some b1)
    (hexp1 : c_expandOperand L b1.flags b1 r2 = .ok (e1, r3))
    (hb3' : (((mems.set op.p1.toNat a1).set op.p3.toNat a3).set op.p1.toNat e1)[op.p3.toNat]? =
      some b3')
    (hexp3 : c_expandOperand L b3'.flags b3' r3 = .ok (e3, r4))
    (hd1 : ((((mems.set op.p1.toNat a1).set op.p3.toNat a3).set op.p1.toNat e1).set op.p3.toNat
      e3)[op.p1.toNat]? = some d1) (hmem : V.mallocFailed r4 = false) :
    ∃ f1 f3, impl_OP_Ne_Eq_Gt_Le_Lt_Ge L V enc pc rc op mems r =
      c_deliver op pc rc (relation op.opcode (classCompare op.p4_pColl e3 d1)) f1 f3
        ((((mems.set op.p1.toNat a1).set op.p3.toNat a3).set op.p1.toNat e1).set op.p3.toNat e3)
        r4 := by
  have hd3 : ((((mems.set op.p1.toNat a1).set op.p3.toNat a3).set op.p1.toNat e1).set op.p3.toNat
      e3)[op.p3.toNat]? = some e3 :=
    List.getElem?_set_self (List.getElem?_eq_some_iff.mp hb3').1
  refine ⟨clearZero b1.flags c1.flags, clearZero b3'.flags c3.flags, ?_⟩
  unfold impl_OP_Ne_Eq_Gt_Le_Lt_Ge
  simp only [aMem, h1, h3, bind, Except.bind]
  rw [if_neg (by rw [hnull]; simp)]
  simp only [onMem_eq h1, hconv1, Except.map, onMem_eq hb3, hconv3, onMem_eq hb1, hexp1,
    onMem_eq hb3', hexp3, hmem, Bool.false_eq_true, ↓reduceIte, hd3, hd1, c_sqlite3MemCompare_eq]

end slow

/-! ## Agreement of the two versions -/

/-- The operands of a comparison of which none is NULL. -/
structure ValueOperands (m : Machine ρ) (op : Op) (enc : ℕ) (c1 c3 : Mem) : Prop where
  /-- The opcode is a comparison. -/
  comparison : op.opcode.isComparison = true
  /-- `P4` is a collation or unused, as the C version asserts too. -/
  p4 : op.p4_is_coll_or_null = true
  /-- The collation compares texts by a total preorder. -/
  lawful : ∀ coll ∈ op.p4_pColl, coll.Lawful
  /-- `P1` is a register. -/
  p1 : IsRegister m.mems.length m.nMem op.p1
  /-- `P3` is a register. -/
  p3 : IsRegister m.mems.length m.nMem op.p3
  /-- `P2` is a register if the result is stored. -/
  p2 : op.p5_has SQLITE_STOREP2 = true → IsRegister m.mems.length m.nMem op.p2
  /-- The first operand. -/
  cell1 : m.mems[op.p1.toNat]? = some c1
  /-- The second operand. -/
  cell3 : m.mems[op.p3.toNat]? = some c3
  /-- The first operand is a value. -/
  value1 : c1.IsValue enc
  /-- The second operand is a value. -/
  value3 : c3.IsValue enc
  /-- The first operand is not NULL. -/
  notNull1 : c1.flags.has MEM_Null = false
  /-- The second operand is not NULL. -/
  notNull3 : c3.flags.has MEM_Null = false

/-- The translation fails no assertion, reads no member of a union that the flags do not announce,
and has the outcome of the C version. -/
structure ComparesAsC (L : CLib ρ) (V : CVdbe ρ) (enc : ℕ) (pc : ℤ) (rc : ℕ) (op : Op)
    (m : Machine ρ) : Prop where
  /-- No assertion fails. -/
  no_assertion : execute (OP_Ne_Eq_Gt_Le_Lt_Ge L enc pc rc op) m ≠ .error .assertion
  /-- No member is read that the flags do not announce. -/
  no_misread : run (strictMachine ρ) (OP_Ne_Eq_Gt_Le_Lt_Ge L enc pc rc op)
    (m.strict fun _ => .foreign) ≠ .error none
  /-- The outcome is that of the C version. -/
  outcome : (execute (OP_Ne_Eq_Gt_Le_Lt_Ge L enc pc rc op) m).map (comparisonOutcome op) =
    (impl_OP_Ne_Eq_Gt_Le_Lt_Ge L V enc pc rc op m.mems m.rest).map (comparisonOutcome op)

/-- A value is equal to itself. -/
theorem classCompare_self {coll : Option CollSeq} (hcoll : ∀ c ∈ coll, c.Lawful) (c : Mem) :
    classCompare coll c c = 0 := by
  have hlt : ∀ x : Binary64, x.lt x = false := fun x => by
    by_contra h
    have := Binary64.lt_asymm (by simpa using h)
    simp [this] at h
  have hmem : ∀ l : List Byte, memcmp l l = 0 := fun l => by
    induction l with
    | nil => rfl
    | cons a l ih => simp [memcmp, ih]
  have hblob : sqlite3BlobCompare c c = 0 := by simp [sqlite3BlobCompare, hmem]
  have hrefl : ∀ coll : CollSeq, coll.Lawful → ∀ z, coll.xCmp z z = 0 := fun coll h z => by
    have := Comparator.sign_eq_neg_iff.mp (h.anti z (Set.mem_univ _) z (Set.mem_univ _))
    omega
  unfold classCompare
  cases hc : c.storageClass with
  | null => rfl
  | number => simp [numberCompare, Comparator.threeWay, hlt]
  | text =>
    cases coll with
    | none => exact hblob
    | some coll =>
      show vdbeCompareMemString c c coll = 0
      unfold vdbeCompareMemString
      split_ifs <;> exact hrefl coll (hcoll coll rfl) _
  | blob => exact hblob

/-- The class of numbers, without NULL. -/
theorem storageClass_eq_number_iff {c : Mem} (h : c.flags.has MEM_Null = false) :
    c.storageClass = .number ↔ c.isNumber = true := by
  rw [Mem.storageClass_eq_number, h]
  simp [Mem.isNumber]

/-- The two comparisons differ for a number in `P3` and no number in `P1`, and the relations that
order the operands tell. -/
theorem relation_methodCompare {coll : Option CollSeq} {opcode : Opcode} {c1 c3 : Mem}
    (hop : opcode.isComparison = true) (h1 : c1.flags.has MEM_Null = false)
    (h3 : c3.flags.has MEM_Null = false) :
    relation opcode (methodCompare coll c3 c1) = relation opcode (classCompare coll c3 c1) ↔
      ¬ (opcode.isOrder = true ∧ c3.isNumber = true ∧ c1.isNumber = false) := by
  have hcases : opcode = .Eq ∨ opcode = .Ne ∨ opcode = .Lt ∨ opcode = .Le ∨ opcode = .Gt ∨
      opcode = .Ge := by simpa [Opcode.isComparison] using hop
  have hclass : c1.storageClass = .text ∨ c1.storageClass = .blob ↔ c1.isNumber = false := by
    have hnull : c1.storageClass ≠ .null := by
      rw [Ne, Mem.storageClass_eq_null, h1]; simp
    have := storageClass_eq_number_iff h1
    cases hc : c1.storageClass <;> simp_all
  unfold methodCompare
  simp only [storageClass_eq_number_iff h3, hclass]
  by_cases hmix : c3.isNumber = true ∧ c1.isNumber = false
  · have hcl : classCompare coll c3 c1 = -1 := by
      unfold classCompare
      rw [(storageClass_eq_number_iff h3).mpr hmix.1]
      rcases hclass.mpr hmix.2 with hc | hc <;> rw [hc]
    rw [if_pos hmix, hcl]
    simp only [hmix, and_true]
    rcases hcases with rfl | rfl | rfl | rfl | rfl | rfl <;> simp [relation, Opcode.isOrder]
  · rw [if_neg hmix]
    simp only [true_iff]
    exact fun h => hmix h.2

/-- Setting the flags of an operand is no part of the outcome. -/
theorem run_set_flags_outcome {i : ℕ} (hi : i = op.p1.toNat ∨ i = op.p3.toNat)
    (h : i < s.mems.length) (f : Flags) :
    ∃ s', run (strictMachine ρ) (set_flags i f) s = .ok ((), s') ∧
      s'.mems.length = s.mems.length ∧ storedOutcome op s'.mems = storedOutcome op s.mems := by
  have hg : s.At i s.mems[i] (s.written i) := ⟨List.getElem?_eq_getElem h, rfl⟩
  exact ⟨_, hg.run_set_flags f, List.length_set,
    storedOutcome_set_flags hi (List.getElem?_eq_getElem h) f⟩

/-- Delivering a truth value, and putting the flags of the operands back. -/
theorem run_deliver_undo (pc : ℤ) (rc : ℕ) (h1 : op.p1.toNat < s.mems.length)
    (h3 : op.p3.toNat < s.mems.length)
    (h2 : op.p5_has SQLITE_STOREP2 = true → IsRegister s.mems.length s.nMem op.p2)
    (changed : Bool) (f1 f3 : Flags) (res : Bool) :
    ∃ x s', run (strictMachine ρ) (do
        let pc ← deliver op pc (truth res)
        if changed then
          set_flags op.p1.toNat f1
          set_flags op.p3.toNat f3
        return (pc, rc)) s = .ok (x, s') ∧
      comparisonOutcome op (x, s'.mems, s'.rest) = deliveredOutcome op pc rc s.mems res := by
  -- The flags are given back to the operands, which is not seen where the result is stored.
  have hundo : ∀ (t : Strict ρ) (pc : ℤ), t.mems.length = s.mems.length →
      ∃ s', run (strictMachine ρ) (do
          if changed then
            set_flags op.p1.toNat f1
            set_flags op.p3.toNat f3
          return (pc, rc)) t = .ok ((pc, rc), s') ∧
        storedOutcome op s'.mems = storedOutcome op t.mems := by
    intro t pc hlen
    cases changed with
    | false => exact ⟨t, rfl, rfl⟩
    | true =>
      obtain ⟨t1, hrun1, hlen1, hout1⟩ :=
        run_set_flags_outcome (s := t) (Or.inl rfl) (hlen ▸ h1) f1
      obtain ⟨t3, hrun3, -, hout3⟩ :=
        run_set_flags_outcome (s := t1) (Or.inr rfl) (hlen1.trans hlen ▸ h3) f3
      refine ⟨t3, ?_, hout3.trans hout1⟩
      simp only [↓reduceIte]
      rw [run_bind_ok hrun1, run_bind_ok hrun3, run_pure]
  cases hst : op.p5_has SQLITE_STOREP2 with
  | true =>
    have hp2 := h2 hst
    obtain ⟨c, hc⟩ : ∃ c, s.mems[op.p2.toNat]? = some c := ⟨_, List.getElem?_eq_getElem hp2.lt⟩
    have hg2 : s.At op.p2.toNat c (s.written op.p2.toNat) := ⟨hc, rfl⟩
    obtain ⟨t, hdel, ht⟩ : ∃ t, run (strictMachine ρ) (deliver op pc (truth res)) s = .ok (pc, t) ∧
        t.mems = s.mems.set op.p2.toNat { c with
          flags := withTypeFlag c.flags MEM_Int, u := BitVec.ofInt 64 (truth res) } :=
      ⟨_, run_deliver_store hst hp2 hg2 (truth res), rfl⟩
    obtain ⟨s', hrun, hout⟩ := hundo t pc (by rw [ht, List.length_set])
    refine ⟨_, s', (run_bind_ok hdel _).trans hrun, ?_⟩
    rw [← storedOutcome_store hst hg2.1, ← ht]
    exact Prod.ext rfl hout
  | false =>
    obtain ⟨s', hrun, hout⟩ := hundo s (if res then op.p2as_pc else pc) rfl
    refine ⟨_, s', (run_bind_ok (run_deliver_jump hst res) _).trans hrun, ?_⟩
    have hno : ∀ l, storedOutcome op l = none := fun l => if_neg (by simp [hst])
    have hdelivered : deliveredOutcome op pc rc s.mems res =
        ((if res then op.p2as_pc else pc, rc), none) := if_neg (by simp [hst])
    rw [hdelivered]
    exact Prod.ext rfl (hno _)

section results

variable {m : Machine ρ} {c1 c3 : Mem} {b b' : Bool}

/-- On the cells alone, the translation has the outcome of the truth value `b`. -/
def TranslationDelivers (L : CLib ρ) (enc : ℕ) (pc : ℤ) (rc : ℕ) (op : Op) (m : Machine ρ)
    (c1 c3 : Mem) (b : Bool) : Prop :=
  ∀ written, Announces c1 (written op.p1.toNat) → Announces c3 (written op.p3.toNat) →
    ∃ x s', run (strictMachine ρ) (OP_Ne_Eq_Gt_Le_Lt_Ge L enc pc rc op) (m.strict written) =
        .ok (x, s') ∧
      comparisonOutcome op (x, s'.mems, s'.rest) = deliveredOutcome op pc rc m.mems b

/-- The C version has the outcome of the truth value `b`. -/
def VersionDelivers (L : CLib ρ) (V : CVdbe ρ) (enc : ℕ) (pc : ℤ) (rc : ℕ) (op : Op)
    (m : Machine ρ) (b : Bool) : Prop :=
  (impl_OP_Ne_Eq_Gt_Le_Lt_Ge L V enc pc rc op m.mems m.rest).map (comparisonOutcome op) =
    .ok (deliveredOutcome op pc rc m.mems b)

/-- Neither operand is NULL. -/
theorem ValueOperands.not_null (h : ValueOperands m op enc c1 c3) :
    Flags.has (c1.flags ||| c3.flags) MEM_Null = false := by
  rw [Flags.has_or_left, h.notNull1, h.notNull3]
  rfl

/-- The translation takes the fast path. -/
theorem fast_path_iff :
    (op.affinity ≥ SQLITE_AFF_NUMERIC &&
      Flags.has (c1.flags ||| c3.flags) (MEM_Int ||| MEM_Real)) = true ↔
      op.affinity ≥ SQLITE_AFF_NUMERIC ∧ (c1.isNumber = true ∨ c3.isNumber = true) := by
  unfold Mem.isNumber
  rw [Flags.has_or_left, Flags.has_or_right, Flags.has_or_right]
  simp

/-- On two numbers under a numeric affinity both versions deliver the same. -/
theorem fast_results (L : CLib ρ) (pc : ℤ) (rc : ℕ) (hmem : V.mallocFailed m.rest = false)
    (h : ValueOperands m op enc c1 c3)
    (hn : op.affinity ≥ SQLITE_AFF_NUMERIC) (hn1 : c1.isNumber = true) (hn3 : c3.isNumber = true) :
    TranslationDelivers L enc pc rc op m c1 c3
        (relation op.opcode (classCompare op.p4_pColl c3 c1)) ∧
      VersionDelivers L V enc pc rc op m (relation op.opcode (classCompare op.p4_pColl c3 c1)) := by
  have hcl : classCompare op.p4_pColl c3 c1 = numberCompare c3 c1 := classCompare_number
    ((storageClass_eq_number_iff h.notNull3).mpr hn3)
    ((storageClass_eq_number_iff h.notNull1).mpr hn1)
  constructor
  · intro written hw1 hw3
    have h1 : (m.strict written).At op.p1.toNat c1 (written op.p1.toNat) := ⟨h.cell1, rfl⟩
    have h3 : (m.strict written).At op.p3.toNat c3 (written op.p3.toNat) := ⟨h.cell3, rfl⟩
    have hend := run_deliver_undo (s := m.strict written) pc rc h.p1.lt h.p3.lt h.p2
      false 0 0 (relation op.opcode (classCompare op.p4_pColl c3 c1))
    unfold OP_Ne_Eq_Gt_Le_Lt_Ge
    rw [run_comparison_start h.p1 h.p3 h1 h3, if_neg (by rw [h.not_null]; simp),
      if_pos (fast_path_iff.mpr ⟨hn, Or.inl hn1⟩),
      run_bind_ok (run_compareFast h.comparison h1 h3 hw1 hw3 h.value1 h.value3 hn1 hn3), ← hcl]
    exact hend
  · -- In C a number is neither converted nor expanded.
    have hkeep : ∀ c : Mem, c.isNumber = true → c.IsValue enc →
        c_convertOperand L op.affinity enc c.flags c m.rest = .ok (c, m.rest) ∧
          c_expandOperand L c.flags c m.rest = .ok (c, m.rest) := by
      intro c hnum hc
      have ht : textOnly c.flags = false := by
        rw [Bool.eq_false_iff, Ne, textOnly_iff]
        rintro ⟨-, hi, hr⟩
        unfold Mem.isNumber at hnum
        rw [hi, hr] at hnum
        cases hnum
      have hz : c.flags.has MEM_Zero = false := by
        by_contra hz
        obtain ⟨hi, hr, -⟩ := hc.blob (hc.zero (by simpa using hz)).1
        unfold Mem.isNumber at hnum
        rw [hi, hr] at hnum
        cases hnum
      unfold c_convertOperand c_expandOperand
      rw [if_pos hn, ht, hz]
      exact ⟨rfl, rfl⟩
    obtain ⟨hconv1, hexp1⟩ := hkeep c1 hn1 h.value1
    obtain ⟨hconv3, hexp3⟩ := hkeep c3 hn3 h.value3
    have hself1 := set_self h.cell1
    have hself3 := set_self h.cell3
    obtain ⟨f1, f3, himpl⟩ := impl_of_steps (V := V) pc rc h.cell1 h.cell3 h.not_null hconv1
      (by rw [hself1]; exact h.cell3) hconv3 (by rw [hself1, hself3]; exact h.cell1) hexp1
      (by rw [hself1, hself3, hself1]; exact h.cell3) hexp3
      (by rw [hself1, hself3, hself1, hself3]; exact h.cell1) hmem
    unfold VersionDelivers
    rw [himpl, hself1, hself3, hself1, hself3]
    exact c_deliver_outcome h.p1.lt h.p3.lt (fun hst => (h.p2 hst).lt) _ _ _ _

/-- The slow path, from what `compareSlow` leaves on. -/
theorem translation_of_slow (h : ValueOperands m op enc c1 c3)
    (hslow : ¬ (op.affinity ≥ SQLITE_AFF_NUMERIC ∧ (c1.isNumber = true ∨ c3.isNumber = true)))
    (hrun : ∀ written, Announces c1 (written op.p1.toNat) → Announces c3 (written op.p3.toNat) →
      ∃ f1 f3 changed s', run (strictMachine ρ)
          (compareSlow L enc op op.p1.toNat op.p3.toNat c1.flags c3.flags) (m.strict written) =
          .ok ((b, f1, f3, changed), s') ∧
        s'.mems.length = m.mems.length ∧ s'.nMem = m.nMem ∧
        deliveredOutcome op pc rc s'.mems b = deliveredOutcome op pc rc m.mems b) :
    TranslationDelivers L enc pc rc op m c1 c3 b := by
  intro written hw1 hw3
  have h1 : (m.strict written).At op.p1.toNat c1 (written op.p1.toNat) := ⟨h.cell1, rfl⟩
  have h3 : (m.strict written).At op.p3.toNat c3 (written op.p3.toNat) := ⟨h.cell3, rfl⟩
  obtain ⟨f1, f3, changed, s', hrun, hlen, hnMem, hdel⟩ := hrun written hw1 hw3
  obtain ⟨x, s'', hend, hout⟩ := run_deliver_undo (s := s') pc rc (hlen ▸ h.p1.lt)
    (hlen ▸ h.p3.lt) (fun hst => by rw [hlen, hnMem]; exact h.p2 hst) changed f1 f3 b
  refine ⟨x, s'', ?_, hout.trans hdel⟩
  unfold OP_Ne_Eq_Gt_Le_Lt_Ge
  rw [run_comparison_start h.p1 h.p3 h1 h3, if_neg (by rw [h.not_null]; simp),
    if_neg (mt fast_path_iff.mp hslow), run_bind_ok hrun]
  exact hend

/-- On two registers, both versions compare what conversion and expansion leave. -/
theorem slow_results_distinct (pc : ℤ) (rc : ℕ) (hL : L.Lawful V.mallocFailed)
    (hmem : V.mallocFailed m.rest = false) (h : ValueOperands m op enc c1 c3)
    (hslow : ¬ (op.affinity ≥ SQLITE_AFF_NUMERIC ∧ (c1.isNumber = true ∨ c3.isNumber = true)))
    (hne : op.p1.toNat ≠ op.p3.toNat) :
    ∃ e1 e3, Operand enc e1 ∧ Operand enc e3 ∧ e1.isNumber = numberAfter L op.affinity c1 ∧
      e3.isNumber = numberAfter L op.affinity c3 ∧
      TranslationDelivers L enc pc rc op m c1 c3
        (relation op.opcode (methodCompare op.p4_pColl e3 e1)) ∧
      VersionDelivers L V enc pc rc op m (relation op.opcode (classCompare op.p4_pColl e3 e1)) := by
  -- Both programs convert P1's operand, then P3's, and expand them in the same order.
  obtain ⟨a1, r1, hconv1, ha1, hm1, hsame1, -⟩ := convert_spec hL op.affinity
    (h.value1.operand h.notNull1) (zero_of_converts op.affinity h.value1) m.rest
  obtain ⟨a3, r2, hconv3, ha3, hm2, hsame3, -⟩ := convert_spec hL op.affinity
    (h.value3.operand h.notNull3) (zero_of_converts op.affinity h.value3) r1
  obtain ⟨e1, r3, hexp1, he1, hm3, -, hn1⟩ := expand_spec hL ha1 a1.flags r2
  obtain ⟨e3, r4, hexp3, he3, hm4, -, hn3⟩ := expand_spec hL ha3 a3.flags r3
  have hlist : ((((m.mems.set op.p1.toNat a1).set op.p3.toNat a3).set op.p1.toNat e1).set
      op.p3.toNat e3) = (m.mems.set op.p1.toNat e1).set op.p3.toNat e3 := by
    rw [List.set_comm _ _ hne.symm, List.set_set, List.set_set]
  -- Delivering the result does not depend on what the operands became.
  have hdelivered : ∀ res, deliveredOutcome op pc rc ((m.mems.set op.p1.toNat e1).set op.p3.toNat e3)
      res = deliveredOutcome op pc rc m.mems res := fun res => by
    rw [deliveredOutcome_set (Or.inr rfl) (by rw [List.length_set]; exact h.p3.lt),
      deliveredOutcome_set (Or.inl rfl) h.p1.lt]
  refine ⟨e1, e3, he1, he3, hn1.trans (isNumber_of_convert hL h.value1 h.notNull1 hconv1),
    hn3.trans (isNumber_of_convert hL h.value3 h.notNull3 hconv3), ?_, ?_⟩
  · refine translation_of_slow h hslow fun written hw1 hw3 => ?_
    obtain ⟨s', hrun, hmems, hnMem, -⟩ := run_compareSlow_distinct
      (s := m.strict written) hne ⟨h.cell1, rfl⟩ ⟨h.cell3, rfl⟩ hw1 hw3 h.p4 hconv1 hsame1 hconv3
      hsame3 hexp1 hexp3
    refine ⟨_, _, _, s', hrun, ?_, hnMem, ?_⟩
    · rw [hmems, List.length_set, List.length_set]; rfl
    · rw [hmems]; exact hdelivered _
  · have hself : ∀ {l : List Mem} {i : ℕ} {c : Mem} (d : Mem), l[i]? = some c →
        (l.set i d)[i]? = some d := fun d hc =>
      List.getElem?_set_self (List.getElem?_eq_some_iff.mp hc).1
    have hset : ∀ {l : List Mem} {i j : ℕ} {c : Mem} (d : Mem), l[i]? = some c → j ≠ i →
        (l.set j d)[i]? = some c := fun d hc hij => by rw [List.getElem?_set_ne hij]; exact hc
    -- The C version reads each operand again after the other one has changed.
    have h3a := hset a1 h.cell3 hne
    have h1b := hset a3 (hself a1 h.cell1) hne.symm
    have h3c := hset e1 (hself a3 h3a) hne
    have h1d := hset e3 (hself e1 h1b) hne.symm
    obtain ⟨f1, f3, himpl⟩ := impl_of_steps (V := V) pc rc h.cell1 h.cell3 h.not_null hconv1 h3a
      hconv3 h1b hexp1 h3c hexp3 h1d (by rw [hm4, hm3, hm2, hm1, hmem])
    unfold VersionDelivers
    rw [himpl, hlist, ← hdelivered]
    refine c_deliver_outcome ?_ ?_ (fun hst => ?_) _ _ _ _ <;>
      rw [List.length_set, List.length_set]
    · exact h.p1.lt
    · exact h.p3.lt
    · exact (h.p2 hst).lt

/-- On one register, both versions find it equal to itself. -/
theorem slow_results_same (pc : ℤ) (rc : ℕ) (hL : L.Lawful V.mallocFailed)
    (hmem : V.mallocFailed m.rest = false) (h : ValueOperands m op enc c1 c3)
    (hslow : ¬ (op.affinity ≥ SQLITE_AFF_NUMERIC ∧ (c1.isNumber = true ∨ c3.isNumber = true)))
    (hsame : op.p1.toNat = op.p3.toNat) :
    TranslationDelivers L enc pc rc op m c1 c3 (relation op.opcode 0) ∧
      VersionDelivers L V enc pc rc op m (relation op.opcode 0) := by
  obtain rfl : c1 = c3 := by
    have := h.cell1
    rw [hsame, h.cell3] at this
    exact (Option.some.inj this).symm
  -- A cell equals itself, also after it was converted.
  have hmethod : ∀ c : Mem, methodCompare op.p4_pColl c c = 0 := fun c => by
    unfold methodCompare
    rw [if_neg (by rintro ⟨hn, ht | hb⟩ <;> simp_all), classCompare_self h.lawful]
  have hdelivered : ∀ e res, deliveredOutcome op pc rc (m.mems.set op.p1.toNat e) res =
      deliveredOutcome op pc rc m.mems res := fun e res =>
    deliveredOutcome_set (Or.inl rfl) h.p1.lt res
  have hself : ∀ d : Mem, (m.mems.set op.p1.toNat d)[op.p1.toNat]? = some d := fun d =>
    List.getElem?_set_self h.p1.lt
  obtain ⟨a, r1, hconv1, ha, hm1, hkeep1, hzero1⟩ := convert_spec hL op.affinity
    (h.value1.operand h.notNull1) (zero_of_converts op.affinity h.value1) m.rest
  constructor
  · refine translation_of_slow h hslow fun written hw1 _ => ?_
    -- The second conversion and the second expansion go by the flags from before the first.
    obtain ⟨a', r2, hconv3, ha', -, -, -⟩ := convert_spec hL op.affinity ha hzero1 r1
    obtain ⟨e, r3, hexp1, he, -, -, -⟩ := expand_spec hL ha'
      (if converts op.affinity c1.flags then a.flags else c1.flags) r2
    obtain ⟨e', r4, hexp3, -, -, -, -⟩ := expand_spec hL he
      (if converts op.affinity c1.flags then a'.flags else c1.flags) r3
    obtain ⟨s', hrun, hmems, hnMem, -⟩ := run_compareSlow_same
      (s := m.strict written) ⟨h.cell1, rfl⟩ hw1 h.p4 hconv1 hconv3 hexp1 hexp3
    rw [hmethod] at hrun
    rw [← hsame]
    refine ⟨_, _, _, s', hrun, ?_, hnMem, ?_⟩
    · rw [hmems, List.length_set]; rfl
    · rw [hmems]; exact hdelivered _ _
  · -- The C version's second conversion goes by the flags after the first; a zero blob is never
    -- converted.
    have hz : converts op.affinity a.flags = true → a.flags.has MEM_Zero = false := by
      intro hconv
      cases hc : converts op.affinity c1.flags with
      | true => exact hzero1 hc
      | false =>
        rw [hkeep1 hc] at hconv ⊢
        exact zero_of_converts op.affinity h.value1 hconv
    obtain ⟨k, r2, hconv3, hk, hm2, -, -⟩ := convert_spec hL op.affinity ha hz r1
    obtain ⟨e, r3, hexp1, he, hm3, -, -⟩ := expand_spec hL hk k.flags r2
    obtain ⟨e', r4, hexp3, -, hm4, -, -⟩ := expand_spec hL he e.flags r3
    have hlist : ((((m.mems.set op.p1.toNat a).set op.p3.toNat k).set op.p1.toNat e).set
        op.p3.toNat e') = m.mems.set op.p1.toNat e' := by
      rw [← hsame, List.set_set, List.set_set, List.set_set]
    obtain ⟨f1, f3, himpl⟩ := impl_of_steps (V := V) pc rc h.cell1 h.cell3 h.not_null hconv1
      (by rw [← hsame]; exact hself a) hconv3 (by rw [← hsame, List.set_set]; exact hself k) hexp1
      (by rw [← hsame, List.set_set, List.set_set]; exact hself e) hexp3
      (by rw [hlist]; exact hself e') (by rw [hm4, hm3, hm2, hm1, hmem])
    unfold VersionDelivers
    rw [himpl, hlist, classCompare_self h.lawful, ← hdelivered e']
    refine c_deliver_outcome ?_ ?_ (fun hst => ?_) _ _ _ _ <;> rw [List.length_set]
    · exact h.p1.lt
    · exact h.p3.lt
    · exact (h.p2 hst).lt

/-- Where the fast path does not fail, both versions deliver, and only an order of a number after
something else tells them apart. -/
theorem comparison_results (pc : ℤ) (rc : ℕ) (hL : L.Lawful V.mallocFailed)
    (hmem : V.mallocFailed m.rest = false) (h : ValueOperands m op enc c1 c3)
    (hfast : op.affinity ≥ SQLITE_AFF_NUMERIC → c1.isNumber = c3.isNumber) :
    ∃ b b', TranslationDelivers L enc pc rc op m c1 c3 b ∧ VersionDelivers L V enc pc rc op m b' ∧
      (b = b' ↔ ¬ (op.opcode.isOrder = true ∧ numberAfter L op.affinity c3 = true ∧
        numberAfter L op.affinity c1 = false)) := by
  by_cases hn : op.affinity ≥ SQLITE_AFF_NUMERIC ∧ (c1.isNumber = true ∨ c3.isNumber = true)
  · have hn1 : c1.isNumber = true := hn.2.elim id fun h3 => (hfast hn.1).trans h3
    have hn3 : c3.isNumber = true := (hfast hn.1).symm.trans hn1
    obtain ⟨ht, hv⟩ := fast_results L pc rc hmem h hn.1 hn1 hn3
    refine ⟨_, _, ht, hv, ?_⟩
    have hafter : numberAfter L op.affinity c1 = true := by
      unfold numberAfter
      rw [if_pos hn.1, hn1, Bool.true_or]
    simp [hafter]
  · by_cases hne : op.p1.toNat = op.p3.toNat
    · obtain ⟨ht, hv⟩ := slow_results_same pc rc hL hmem h hn hne
      obtain rfl : c1 = c3 := by
        have := h.cell1
        rw [hne, h.cell3] at this
        exact (Option.some.inj this).symm
      refine ⟨_, _, ht, hv, ?_⟩
      cases numberAfter L op.affinity c1 <;> simp
    · obtain ⟨e1, e3, he1, he3, hn1, hn3, ht, hv⟩ :=
        slow_results_distinct pc rc hL hmem h hn hne
      refine ⟨_, _, ht, hv, ?_⟩
      rw [relation_methodCompare h.comparison he1.notNull he3.notNull, hn1, hn3]

end results

/-- The translation agrees with the C version exactly if under a numeric affinity both operands are
numbers or none is, and no order is asked of a number in `P3` and something else in `P1` after the
conversion (unless the jump goes to the next instruction anyway). -/
theorem comparesAsC_iff (L : CLib ρ) (V : CVdbe ρ) (enc : ℕ) (pc : ℤ) (rc : ℕ) (op : Op)
    (m : Machine ρ) (c1 c3 : Mem) (hs : m.Sound) (hL : L.Lawful V.mallocFailed)
    (hmem : V.mallocFailed m.rest = false) (h : ValueOperands m op enc c1 c3) :
    ComparesAsC L V enc pc rc op m ↔
      (op.affinity ≥ SQLITE_AFF_NUMERIC → c1.isNumber = c3.isNumber) ∧
      (op.opcode.isOrder = true → numberAfter L op.affinity c3 = true →
        numberAfter L op.affinity c1 = false →
        op.p5_has SQLITE_STOREP2 = false ∧ op.p2as_pc = pc) := by
  obtain ⟨written, hR, hann⟩ := hs
  have hw1 := hann _ _ h.cell1
  have hw3 := hann _ _ h.cell3
  -- A run of the translation can be made in the strict machine, which has the same outcome.
  have hdelivered : ∀ {b}, TranslationDelivers L enc pc rc op m c1 c3 b →
      (execute (OP_Ne_Eq_Gt_Le_Lt_Ge L enc pc rc op) m).map (comparisonOutcome op) =
        .ok (deliveredOutcome op pc rc m.mems b) := by
    intro b hb
    obtain ⟨x, s', hrun, hout⟩ := hb written hw1 hw3
    rw [execute_of_strict hR hrun]
    exact congrArg Except.ok hout
  have hlt : op.p5_has SQLITE_STOREP2 = true → op.p2.toNat < m.mems.length := fun hst =>
    (h.p2 hst).lt
  constructor
  · intro hall
    -- The fast path asserts that its operands are both numbers or both not.
    have hfast : op.affinity ≥ SQLITE_AFF_NUMERIC → c1.isNumber = c3.isNumber := by
      intro hn
      by_contra hdiff
      have h1 : (m.strict written).At op.p1.toNat c1 (written op.p1.toNat) := ⟨h.cell1, rfl⟩
      have h3 : (m.strict written).At op.p3.toNat c3 (written op.p3.toNat) := ⟨h.cell3, rfl⟩
      have hsome : c1.isNumber = true ∨ c3.isNumber = true := by
        cases hn1 : c1.isNumber <;> cases hn3 : c3.isNumber <;> simp_all
      -- Otherwise the assertion fails and the outcome is no longer C's.
      refine hall.no_assertion (execute_of_strict_error hR ?_)
      unfold OP_Ne_Eq_Gt_Le_Lt_Ge
      rw [run_comparison_start h.p1 h.p3 h1 h3, if_neg (by rw [h.not_null]; simp),
        if_pos (fast_path_iff.mpr ⟨hn, hsome⟩)]
      exact run_bind_error (run_compareFast_mixed h1 hw1 h.value1 hdiff) _
    refine ⟨hfast, fun hord h3 h1 => ?_⟩
    -- The two results differ exactly for an order of a text against a number.
    obtain ⟨b, b', hb, hb', hiff⟩ := comparison_results pc rc hL hmem h hfast
    have hout := hall.outcome
    rw [hdelivered hb, hb'] at hout
    -- Different results have one outcome only where the jump leads to the next opcode.
    rcases (deliveredOutcome_eq_iff hlt b b').mp (Except.ok.inj hout) with heq | hjump
    · exact absurd ⟨hord, h3, h1⟩ (hiff.mp heq)
    · exact hjump
  · rintro ⟨hfast, horder⟩
    obtain ⟨b, b', hb, hb', hiff⟩ := comparison_results pc rc hL hmem h hfast
    have hout := hdelivered hb
    have hext : ∀ c : Mem, Announces c .foreign := fun _ =>
      ⟨fun _ => Or.inr rfl, fun _ => Or.inr rfl⟩
    refine ⟨fun herr => ?_, ?_, ?_⟩
    · rw [herr] at hout
      cases hout
    · obtain ⟨x, s', hrun, -⟩ := hb (fun _ => .foreign) (hext c1) (hext c3)
      rw [hrun]
      simp
    · rw [hout, hb']
      refine congrArg Except.ok ((deliveredOutcome_eq_iff hlt b b').mpr ?_)
      by_cases hord : op.opcode.isOrder = true ∧ numberAfter L op.affinity c3 = true ∧
          numberAfter L op.affinity c1 = false
      · exact Or.inr (horder hord.1 hord.2.1 hord.2.2)
      · exact Or.inl (hiff.mpr hord)

/-- The comparison `2 < 1` under numeric affinity. -/
theorem comparesAsC_integers :
    ComparesAsC CLib.decimal CVdbe.never SQLITE_UTF8 4 SQLITE_OK ⟨.Lt, 0, 9, 1, .NOTUSED, 67⟩
      (Machine.fresh [Mem.ofInt 1, Mem.ofInt 2] 1 ()) := by
  refine (comparesAsC_iff _ _ _ _ _ _ _ (Mem.ofInt 1) (Mem.ofInt 2) (Machine.Sound.fresh _ _ _)
    CLib.lawful_decimal rfl ⟨by decide, by decide, by rintro _ ⟨⟩, by decide, by decide, by decide,
      rfl, rfl, Mem.isValue_ofInt 1, Mem.isValue_ofInt 2, by decide, by decide⟩).mpr
    ⟨fun _ => by decide, fun _ _ h => absurd h (by decide)⟩

/-- The operands of the failing comparison: the integer 1 and the text `a`. -/
def integerAndText : Machine Unit := Machine.fresh [Mem.ofInt 1, Mem.ofText [97]] 1 ()

/-- Under numeric affinity, `'a' < 1` fails an assertion in the translation. -/
theorem comparison_integer_text :
    integerAndText.Sound ∧
      ValueOperands integerAndText ⟨.Lt, 0, 9, 1, .NOTUSED, 67⟩ SQLITE_UTF8 (Mem.ofInt 1)
        (Mem.ofText [97]) ∧
      execute (OP_Ne_Eq_Gt_Le_Lt_Ge CLib.decimal SQLITE_UTF8 4 SQLITE_OK
        ⟨.Lt, 0, 9, 1, .NOTUSED, 67⟩) integerAndText = .error .assertion ∧
      ¬ ComparesAsC CLib.decimal CVdbe.never SQLITE_UTF8 4 SQLITE_OK ⟨.Lt, 0, 9, 1, .NOTUSED, 67⟩
        integerAndText :=
  ⟨Machine.Sound.fresh _ _ _, ⟨by decide, by decide, by rintro _ ⟨⟩, by decide, by decide, by decide,
    rfl, rfl, Mem.isValue_ofInt 1, Mem.isValue_ofText [97], by decide, by decide⟩, rfl,
    fun h => h.no_assertion rfl⟩

end SQPyte
