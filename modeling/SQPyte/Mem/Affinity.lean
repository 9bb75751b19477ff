import SQPyte.Mem.Methods
import SQPyte.Mem.Value

/-!
# Applying an affinity to a cell

`AffinitySpec` says what applying an affinity does to a value, class by class. The routine of
`vdbe.c` meets it (`applyAffinity_spec`). The Python method has the call that converts a real in the
wrong branch of its nested conditionals: a real is never converted, and a NULL or a blob is taken
for a real. `applyAffinity_iff` gives the exact condition under which it still does what it should:
the double that `get_u_r` returns for the cell is not an integer strictly inside the 64-bit range,
where the cell is a real, a NULL or a blob and the affinity is numeric.
-/

namespace SQPyte

open Commands

/-- The double is an integer strictly inside the signed 64-bit range. -/
def IsSmallInt (x : Binary64) : Prop := ∃ v, x.Is v ∧ v < 2^63 - 1 ∧ -2^63 < v

/-- The affinities a column can have. -/
def IsAffinity (affinity : ℕ) : Prop :=
  affinity = SQLITE_AFF_NONE ∨ affinity = SQLITE_AFF_TEXT ∨ affinity = SQLITE_AFF_NUMERIC ∨
    affinity = SQLITE_AFF_INTEGER ∨ affinity = SQLITE_AFF_REAL

instance (affinity : ℕ) : Decidable (IsAffinity affinity) := inferInstanceAs (Decidable (_ ∨ _))

variable {ρ : Type} (L : CLib ρ)

/-- What applying an affinity to the cell `c` gives, with the state `r` outside the cell. -/
structure AffinitySpec (affinity enc : ℕ) (c : Mem) (r : ρ) (result : Except Exc (Mem × ρ)) :
    Prop where
  /-- A NULL and a blob are left as they are. -/
  null_blob : c.storageClass = .null ∨ c.storageClass = .blob → result = .ok (c, r)
  /-- Under a numeric affinity, an integer is left as it is. -/
  int : affinity ≥ SQLITE_AFF_NUMERIC → c.flags.has MEM_Int = true → result = .ok (c, r)
  /-- Under a numeric affinity, a real that is an integer strictly inside the signed 64-bit range
  becomes that integer. -/
  real_int : affinity ≥ SQLITE_AFF_NUMERIC → c.flags.has MEM_Real = true → ∀ v, c.u_r.Is v →
    v < 2^63 - 1 → -2^63 < v →
    result = .ok ({ c with u := BitVec.ofInt 64 v, flags := withTypeFlag c.flags MEM_Int }, r)
  /-- Under a numeric affinity, every other real is left as it is. -/
  real : affinity ≥ SQLITE_AFF_NUMERIC → c.flags.has MEM_Real = true → ¬ IsSmallInt c.u_r →
    result = .ok (c, r)
  /-- Under a numeric affinity, a text is converted if it looks like a number. -/
  text : affinity ≥ SQLITE_AFF_NUMERIC → c.storageClass = .text →
    result = .ok (c.applyNumericAffinity L true, r)
  /-- Under text affinity, a number without a text becomes text. -/
  number : affinity = SQLITE_AFF_TEXT → c.storageClass = .number → c.flags.has MEM_Str = false →
    result = (c.sqlite3VdbeMemStringify L enc true r).map Prod.snd
  /-- Under text affinity, what has a text is left as it is. -/
  string : affinity = SQLITE_AFF_TEXT → c.flags.has MEM_Str = true → result = .ok (c, r)
  /-- Without affinity everything is left as it is. -/
  none : affinity = SQLITE_AFF_NONE → result = .ok (c, r)

/-! ## The routine of `vdbe.c` -/

/-- The saturating conversion is the plain one strictly inside the range. -/
theorem doubleToInt64_of_is {x : Binary64} {v : ℤ} (his : x.Is v) (hhi : v < 2^63 - 1)
    (hlo : -2^63 < v) : Mem.doubleToInt64 x = v := by
  have hpos := Binary64.two_pow_unitExp_pos
  have hmin : (Binary64.ofInt (-2^63)).Is (-2^63) :=
    Binary64.is_ofInt (by omega) (by omega) (by decide)
  have hmax : (Binary64.ofInt (2^63 - 1)).Is (2^63) := by
    rw [show Binary64.ofInt (2^63 - 1) = Binary64.ofInt (2^63) by decide]
    exact Binary64.is_ofInt (by omega) (by omega) (by decide)
  have hlt : ∀ {y z : Binary64} {a b : ℤ}, y.Is a → z.Is b → a < b → z.le y = false := by
    intro y z a b hy hz hab
    have hkey : y.key < z.key := by
      apply Binary64.key_lt_of_scaled_lt
      rw [hy.2, hz.2]
      exact mul_lt_mul_of_pos_right hab hpos
    simp only [Binary64.le, Bool.and_eq_false_iff, decide_eq_false_iff_not]
    right; omega
  have hto := ((Binary64.feq_ofInt_toInt64_iff x v).mpr ⟨his, hhi, hlo⟩).1
  unfold Mem.doubleToInt64
  rw [if_neg (by rw [hlt hmin his hlo]; simp), if_neg (by rw [hlt his hmax (by omega)]; simp), hto]

/-- The test of `sqlite3VdbeIntegerAffinity` holds of the integers strictly inside the range. -/
theorem integerAffinity_test_iff (x : Binary64) :
    (x.feq (Binary64.ofInt (Mem.doubleToInt64 x)) && Mem.doubleToInt64 x > -2^63 &&
      Mem.doubleToInt64 x < 2^63 - 1) = true ↔ IsSmallInt x := by
  simp only [Bool.and_eq_true, decide_eq_true_eq]
  constructor
  · rintro ⟨⟨heq, hlo⟩, hhi⟩
    have hto : Mem.doubleToInt64 x = x.toInt64 := by
      unfold Mem.doubleToInt64 at hlo hhi ⊢
      split_ifs at hlo hhi ⊢ <;> omega
    rw [hto] at heq hlo hhi
    exact ⟨_, (Binary64.feq_ofInt_toInt64_iff x _).mp ⟨rfl, heq, hhi, hlo⟩⟩
  · rintro ⟨v, his, hhi, hlo⟩
    have hto := (Binary64.feq_ofInt_toInt64_iff x v).mpr ⟨his, hhi, hlo⟩
    rw [doubleToInt64_of_is his hhi hlo, ← hto.1]
    exact ⟨⟨hto.2.1, hto.2.2.2⟩, hto.2.2.1⟩

/-- A real that is an integer strictly inside the signed 64-bit range becomes that integer. -/
theorem sqlite3VdbeIntegerAffinity_of_is {c : Mem} {v : ℤ} (his : c.u_r.Is v) (hhi : v < 2^63 - 1)
    (hlo : -2^63 < v) :
    c.sqlite3VdbeIntegerAffinity =
      { c with u := BitVec.ofInt 64 v, flags := withTypeFlag c.flags MEM_Int } := by
  unfold Mem.sqlite3VdbeIntegerAffinity
  dsimp only
  rw [if_pos ((integerAffinity_test_iff c.u_r).mpr ⟨v, his, hhi, hlo⟩),
    doubleToInt64_of_is his hhi hlo]

/-- Every other real is left as it is. -/
theorem sqlite3VdbeIntegerAffinity_of_not {c : Mem} (h : ¬ IsSmallInt c.u_r) :
    c.sqlite3VdbeIntegerAffinity = c := by
  unfold Mem.sqlite3VdbeIntegerAffinity
  dsimp only
  rw [if_neg (by rw [integerAffinity_test_iff]; exact h)]

/-- A cell is read by its class: the flags of a value that the affinity code tests. -/
theorem flags_of_class {enc : ℕ} {c : Mem} (hc : c.IsValue enc) :
    (c.storageClass = .null ∨ c.storageClass = .blob →
      c.flags.has MEM_Int = false ∧ c.flags.has MEM_Real = false ∧ c.flags.has MEM_Str = false) := by
  rintro (h | h)
  · have := hc.null (Mem.storageClass_eq_null.mp h)
    exact ⟨this.1, this.2.1, this.2.2.1⟩
  · exact (Mem.storageClass_eq_blob.mp h).2

/-- The routine of `vdbe.c` does what applying an affinity is to do. -/
theorem applyAffinity_spec {enc : ℕ} {c : Mem} (hc : c.IsValue enc) (affinity : ℕ) (r : ρ) :
    AffinitySpec L affinity enc c r (c.applyAffinity L affinity enc r) := by
  have hnum : ∀ {a : ℕ}, a ≥ SQLITE_AFF_NUMERIC → a ≠ SQLITE_AFF_TEXT ∧ a ≠ SQLITE_AFF_NONE := by
    unfold SQLITE_AFF_NUMERIC SQLITE_AFF_TEXT SQLITE_AFF_NONE; omega
  unfold Mem.applyAffinity
  refine ⟨?_, ?_, ?_, ?_, ?_, ?_, ?_, ?_⟩
  · intro h
    obtain ⟨hi, hr, hs⟩ := flags_of_class hc h
    rw [Flags.has_or_right, hi, hr, hs]
    split_ifs <;> simp_all
  · intro ha hi
    rw [if_pos ha, hi]; rfl
  · intro ha hr v his hhi hlo
    have hi : c.flags.has MEM_Int = false := by
      by_contra h; exact hc.int_real ⟨by simpa using h, hr⟩
    rw [if_pos ha, hi, hr, sqlite3VdbeIntegerAffinity_of_is his hhi hlo]; rfl
  · intro ha hr hno
    have hi : c.flags.has MEM_Int = false := by
      by_contra h; exact hc.int_real ⟨by simpa using h, hr⟩
    rw [if_pos ha, hi, hr, sqlite3VdbeIntegerAffinity_of_not hno]; rfl
  · intro ha ht
    obtain ⟨-, hi, hr, hs⟩ := Mem.storageClass_eq_text.mp ht
    rw [if_pos ha, hi, hr, hs]; rfl
  · intro ha hcl hs
    have hno : ¬ affinity ≥ SQLITE_AFF_NUMERIC := fun h => (hnum h).1 ha
    have hn : c.flags.has (MEM_Real ||| MEM_Int) = true := by
      rw [Flags.has_or_right, Bool.or_eq_true]
      exact (Mem.storageClass_eq_number.mp hcl).2.symm
    rw [if_neg hno, if_pos ha, hs, hn]; rfl
  · intro ha hs
    have hno : ¬ affinity ≥ SQLITE_AFF_NUMERIC := fun h => (hnum h).1 ha
    rw [if_neg hno, if_pos ha, hs]; rfl
  · intro ha
    have hno : ¬ affinity ≥ SQLITE_AFF_NUMERIC := fun h => (hnum h).2 ha
    rw [if_neg hno, if_neg (by rw [ha]; decide)]

/-! ## The Python method -/

variable {L} {m : Machine ρ} {s : Strict ρ} {i : ℕ} {c : Mem} {w : Member} {affinity enc : ℕ}

/-- The affinity of `pyAssert` in `applyAffinity`. -/
theorem isAffinity_numeric (ha : IsAffinity affinity) (hn : affinity ≥ SQLITE_AFF_NUMERIC) :
    (affinity == SQLITE_AFF_INTEGER || affinity == SQLITE_AFF_REAL ||
      affinity == SQLITE_AFF_NUMERIC) = true := by
  unfold IsAffinity SQLITE_AFF_NONE SQLITE_AFF_TEXT SQLITE_AFF_NUMERIC SQLITE_AFF_INTEGER
    SQLITE_AFF_REAL at *
  simp only [Bool.or_eq_true, beq_iff_eq]
  omega

/-- Where it is not a NULL or blob under numeric affinity, the method does what the routine of
`vdbe.c` does, except that it leaves every real as it is under numeric affinity. -/
theorem run_applyAffinity (L : CLib ρ) (enc : ℕ) (hi : s.At i c w) (ha : IsAffinity affinity)
    (hnb : affinity ≥ SQLITE_AFF_NUMERIC →
      (c.flags.has MEM_Int || c.flags.has MEM_Real || c.flags.has MEM_Str) = true) :
    match (if affinity ≥ SQLITE_AFF_NUMERIC ∧ c.flags.has MEM_Real = true then .ok (c, s.rest)
      else c.applyAffinity L affinity enc s.rest : Except Exc (Mem × ρ)) with
    | .ok (c', r') => ∃ w', run (strictMachine ρ) (applyAffinity L i affinity enc) s =
        .ok ((), { s.setMem i c' w' with rest := r' }) ∧ (Announces c w → Announces c' w')
    | .error e => run (strictMachine ρ) (applyAffinity L i affinity enc) s = .error (some e) := by
  have hself : ({ s.setMem i c w with rest := s.rest } : Strict ρ) = s := hi.setMem_self
  have hextern : ∀ c' : Mem, Announces c' .foreign := fun _ =>
    ⟨fun _ => Or.inr rfl, fun _ => Or.inr rfl⟩
  unfold applyAffinity Mem.applyAffinity
  rw [run_bind_ok hi.run_get_flags]
  by_cases hn : affinity ≥ SQLITE_AFF_NUMERIC
  · rw [if_pos hn, if_pos hn, run_bind_ok (Strict.run_pyAssert s (isAffinity_numeric ha hn))]
    have hnb := hnb hn
    -- A number stays; what is left under a numeric affinity is a text, which C converts.
    cases hint : c.flags.has MEM_Int with
    | true =>
      simp only [Bool.not_true, Bool.false_eq_true, ↓reduceIte, ite_self]
      exact ⟨w, by rw [hself]; rfl, id⟩
    | false =>
      cases hreal : c.flags.has MEM_Real with
      | true =>
        rw [if_pos ⟨hn, rfl⟩]
        exact ⟨w, by rw [hself]; rfl, id⟩
      | false =>
        have hstr : c.flags.has MEM_Str = true := by simpa only [hint, hreal, Bool.false_or] using hnb
        rw [if_neg (by simp), hstr]
        exact ⟨.foreign, hi.run_c_mem rfl, fun _ => hextern _⟩
  · rw [if_neg hn, if_neg hn, if_neg fun h => hn h.1]
    by_cases ht : affinity = SQLITE_AFF_TEXT
    · rw [if_pos ht, if_pos ht]
      by_cases hs : (!c.flags.has MEM_Str && c.flags.has (MEM_Real ||| MEM_Int)) = true
      · rw [if_pos hs, if_pos hs]
        unfold sqlite3VdbeMemStringify
        cases hr : c.sqlite3VdbeMemStringify L enc true s.rest with
        | error e => exact run_bind_error (hi.run_c_mem_error hr) _
        | ok r => exact ⟨.foreign, run_bind_ok (hi.run_c_mem hr) _, fun _ => hextern _⟩
      · rw [if_neg hs, if_neg hs]
        exact ⟨w, by rw [hself]; rfl, id⟩
    · rw [if_neg ht, if_neg ht]
      exact ⟨w, by rw [hself]; rfl, id⟩

/-- The test of the Python `sqlite3VdbeIntegerAffinity` holds of the integers strictly inside the
range. -/
theorem pyIntegerAffinity_test_iff (x : Binary64) :
    (x.feq (Binary64.ofInt x.toInt64) && x.toInt64 < maxint && x.toInt64 > -maxint - 1) = true ↔
      IsSmallInt x := by
  unfold maxint
  simp only [Bool.and_eq_true, decide_eq_true_eq]
  constructor
  · rintro ⟨⟨heq, hhi⟩, hlo⟩
    exact ⟨_, (Binary64.feq_ofInt_toInt64_iff x _).mp ⟨rfl, heq, hhi, by omega⟩⟩
  · rintro ⟨v, his, hhi, hlo⟩
    have h := (Binary64.feq_ofInt_toInt64_iff x v).mpr ⟨his, hhi, hlo⟩
    exact ⟨⟨h.2.1, h.2.2.1⟩, by have := h.2.2.2; omega⟩

/-- A NULL or a blob under numeric affinity is taken for a real: it becomes an integer if the
double that `get_u_r` returns for it is one. -/
theorem run_applyAffinity_null_blob (L : CLib ρ) (enc : ℕ) (hR : Related m s)
    (hi : m.mems[i]? = some c)
    (ha : IsAffinity affinity) (hn : affinity ≥ SQLITE_AFF_NUMERIC)
    (hint : c.flags.has MEM_Int = false) (hreal : c.flags.has MEM_Real = false)
    (hstr : c.flags.has MEM_Str = false) (hrow : c.flags.has MEM_RowSet = false) :
    ∃ m', run (machine ρ) (applyAffinity L i affinity enc) m = .ok ((), m') ∧
      (IsSmallInt (m.cache.get_u_r i c) → Related m' (s.setMem i { c with
        u := BitVec.ofInt 64 (m.cache.get_u_r i c).toInt64,
        flags := withTypeFlag c.flags MEM_Int } .i)) ∧
      (¬ IsSmallInt (m.cache.get_u_r i c) → Related m' s) := by
  obtain ⟨m₁, hrun₁, hR₁, hu₁⟩ := Machine.run_get_flags hR hi
  have hi₁ : m₁.mems[i]? = some c := by rw [hR₁.mems, ← hR.mems]; exact hi
  obtain ⟨m₂, hrun₂, hR₂, hu₂⟩ := Machine.run_get_flags hR₁ hi₁
  have hi₂ : m₂.mems[i]? = some c := by rw [hR₂.mems, ← hR.mems]; exact hi
  have hat : s.At i c (s.written i) := ⟨by rw [← hR.mems]; exact hi, rfl⟩
  have hassert : ∀ (cond : Bool) (m : Machine ρ), cond = true →
      run (machine ρ) (pyAssert cond) m = .ok ((), m) := by
    rintro cond m rfl; rfl
  -- The method reads the flags twice and then `u.r`.
  set x := m.cache.get_u_r i c with hx
  have hread : run (machine ρ) (applyAffinity L i affinity enc) m =
      run (machine ρ) (do
        if x.feq (Binary64.ofInt x.toInt64) && x.toInt64 < maxint && x.toInt64 > -maxint - 1 then
          set_u_i i x.toInt64
          MemSetTypeFlag i MEM_Int) m₂ := by
    unfold applyAffinity sqlite3VdbeIntegerAffinity
    rw [run_bind_ok hrun₁, if_pos hn, run_bind_ok (hassert _ _ (isAffinity_numeric ha hn)), hint,
      hreal, hstr]
    simp only [Bool.not_false, ↓reduceIte, Bool.false_eq_true, bind_assoc]
    rw [run_bind_ok hrun₂, run_bind_ok (hassert _ _ (by rw [hrow]; rfl)),
      run_bind_ok (Machine.run_get_u_r hi₂), hu₂, hu₁]
    split_ifs <;> simp only [bind_assoc, pure_bind, bind_pure_unit]
  rw [hread]
  by_cases hsmall : IsSmallInt x
  · rw [if_pos ((pyIntegerAffinity_test_iff x).mpr hsmall)]
    have hat₁ := hat.run_set_u_i x.toInt64 false
    have hat' := hat.setMem { c with u := BitVec.ofInt 64 x.toInt64 } .i
    have hstrict : run (strictMachine ρ) (do
        set_u_i i x.toInt64
        MemSetTypeFlag i MEM_Int) s = .ok ((), s.setMem i { c with
          u := BitVec.ofInt 64 x.toInt64, flags := withTypeFlag c.flags MEM_Int } .i) := by
      unfold MemSetTypeFlag
      rw [run_bind_ok hat₁, run_bind_ok hat'.run_get_flags, hat'.run_set_flags,
        Strict.setMem_setMem]
    obtain ⟨m', hrun, hR'⟩ := run_machine_of_strict hR₂ hstrict
    exact ⟨m', hrun, fun _ => hR', fun h => absurd hsmall h⟩
  · rw [if_neg (by rw [pyIntegerAffinity_test_iff]; exact hsmall)]
    exact ⟨m₂, rfl, fun h => absurd h hsmall, fun _ => hR₂⟩

/-- What the method leaves of the cells and of the state outside them. -/
def affinityResult (L : CLib ρ) (m : Machine ρ) (i affinity enc : ℕ) :
    Except Exc (List Mem × ρ) :=
  (run (machine ρ) (applyAffinity L i affinity enc) m).map fun x => (x.2.mems, x.2.rest)

/-- The method does to the cell `c` at `i` what applying the affinity is to do, as does the routine
of `vdbe.c`, and leaves the other cells as they are. -/
def AppliesAffinity (L : CLib ρ) (m : Machine ρ) (i affinity enc : ℕ) (c : Mem) : Prop :=
  ∃ result, affinityResult L m i affinity enc = result.map (fun x => (m.mems.set i x.1, x.2)) ∧
    AffinitySpec L affinity enc c m.rest result ∧ result = c.applyAffinity L affinity enc m.rest

/-- The method agrees with the routine of `vdbe.c` if what it leaves is what that leaves. -/
theorem appliesAffinity_iff (hc : c.IsValue enc) :
    AppliesAffinity L m i affinity enc c ↔ affinityResult L m i affinity enc =
      (c.applyAffinity L affinity enc m.rest).map fun x => (m.mems.set i x.1, x.2) := by
  constructor
  · rintro ⟨result, hres, -, rfl⟩
    exact hres
  · exact fun h => ⟨_, h, applyAffinity_spec L hc affinity m.rest, rfl⟩

/-- Under a numeric affinity, a real stays a real in the method. -/
theorem appliesAffinity_real_iff (hs : m.Sound) (hi : m.mems[i]? = some c) (hc : c.IsValue enc)
    (ha : IsAffinity affinity) (hn : affinity ≥ SQLITE_AFF_NUMERIC)
    (hreal : c.flags.has MEM_Real = true) :
    AppliesAffinity L m i affinity enc c ↔ ¬ IsSmallInt c.u_r := by
  obtain ⟨written, hR, -⟩ := hs
  have hat : (m.strict written).At i c (written i) := ⟨hi, rfl⟩
  have hstrict := run_applyAffinity L enc hat ha fun _ => by
    rw [hreal, Bool.or_true, Bool.true_or]
  rw [if_pos ⟨hn, hreal⟩] at hstrict
  obtain ⟨w', hstrict, -⟩ := hstrict
  obtain ⟨m', hrun, hR'⟩ := run_machine_of_strict hR hstrict
  have hres : affinityResult L m i affinity enc = .ok (m.mems.set i c, m.rest) := by
    unfold affinityResult
    rw [hrun]
    simp only [Except.map, hR'.mems, hR'.rest]
    rfl
  have hspec := applyAffinity_spec L hc affinity m.rest
  rw [appliesAffinity_iff hc, hres]
  constructor
  · rintro h ⟨v, his, hhi, hlo⟩
    rw [hspec.real_int hn hreal v his hhi hlo] at h
    have heq := (set_eq_set_iff (List.getElem?_eq_some_iff.mp hi).1).mp
      (Prod.mk.inj (Except.ok.inj h)).1
    refine hc.int_real ⟨?_, hreal⟩
    rw [heq]
    simp [withTypeFlag]
  · intro hno
    rw [hspec.real hn hreal hno]
    rfl

/-- Under a numeric affinity, a NULL and a blob are taken for reals in the method. -/
theorem appliesAffinity_null_blob_iff (hs : m.Sound) (hi : m.mems[i]? = some c)
    (hc : c.IsValue enc) (ha : IsAffinity affinity) (hn : affinity ≥ SQLITE_AFF_NUMERIC)
    (hcl : c.storageClass = .null ∨ c.storageClass = .blob) :
    AppliesAffinity L m i affinity enc c ↔ ¬ IsSmallInt (m.cache.get_u_r i c) := by
  obtain ⟨written, hR, -⟩ := hs
  obtain ⟨hint, hreal, hstr⟩ := flags_of_class hc hcl
  obtain ⟨m', hrun, hsmall, hlarge⟩ :=
    run_applyAffinity_null_blob L enc hR hi ha hn hint hreal hstr hc.plain.1
  have hres : affinityResult L m i affinity enc = .ok (m'.mems, m'.rest) := by
    unfold affinityResult
    rw [hrun]
    rfl
  rw [appliesAffinity_iff hc, hres, (applyAffinity_spec L hc affinity m.rest).null_blob hcl]
  constructor
  · intro h hx
    rw [(hsmall hx).mems] at h
    have heq := (set_eq_set_iff (List.getElem?_eq_some_iff.mp hi).1).mp
      (Prod.mk.inj (Except.ok.inj h)).1
    have hint' : (withTypeFlag c.flags MEM_Int).has MEM_Int = true := by simp [withTypeFlag]
    rw [show withTypeFlag c.flags MEM_Int = c.flags from congrArg Mem.flags heq, hint] at hint'
    cases hint'
  · intro hx
    rw [(hlarge hx).mems, (hlarge hx).rest]
    simp only [Except.map, set_self hi]
    rfl

/-- In every other case the method does what the routine of `vdbe.c` does. -/
theorem appliesAffinity_other (hs : m.Sound) (hi : m.mems[i]? = some c) (hc : c.IsValue enc)
    (ha : IsAffinity affinity)
    (hother : affinity ≥ SQLITE_AFF_NUMERIC → c.flags.has MEM_Real = false ∧
      (c.flags.has MEM_Int || c.flags.has MEM_Str) = true) :
    AppliesAffinity L m i affinity enc c := by
  obtain ⟨written, hR, -⟩ := hs
  have hat : (m.strict written).At i c (written i) := ⟨hi, rfl⟩
  have hstrict := run_applyAffinity L enc hat ha fun hn => by
    obtain ⟨hr, his⟩ := hother hn
    rw [hr, Bool.or_false, his]
  have hno : ¬ (affinity ≥ SQLITE_AFF_NUMERIC ∧ c.flags.has MEM_Real = true) := fun h => by
    rw [(hother h.1).1] at h
    cases h.2
  rw [if_neg hno, show (m.strict written).rest = m.rest from rfl] at hstrict
  rw [appliesAffinity_iff hc]
  unfold affinityResult
  cases hr : c.applyAffinity L affinity enc m.rest with
  | error e =>
    rw [hr] at hstrict
    rw [run_machine_of_strict_error hR hstrict]
    rfl
  | ok x =>
    obtain ⟨c', r'⟩ := x
    rw [hr] at hstrict
    obtain ⟨w', hstrict, -⟩ := hstrict
    obtain ⟨m', hrun, hR'⟩ := run_machine_of_strict hR hstrict
    rw [hrun]
    simp only [Except.map, hR'.mems, hR'.rest]
    rfl

/-- The method does what applying an affinity is to do exactly if, under a numeric affinity, no real
is an integer strictly inside the signed 64-bit range, and no NULL or blob looks like one. -/
theorem applyAffinity_iff (L : CLib ρ) (m : Machine ρ) (i affinity enc : ℕ) (c : Mem) (hs : m.Sound)
    (hi : m.mems[i]? = some c) (hc : c.IsValue enc) (ha : IsAffinity affinity) :
    AppliesAffinity L m i affinity enc c ↔ (affinity ≥ SQLITE_AFF_NUMERIC →
      (c.flags.has MEM_Real = true → ¬ IsSmallInt c.u_r) ∧
      (c.storageClass = .null ∨ c.storageClass = .blob → ¬ IsSmallInt (m.cache.get_u_r i c))) := by
  by_cases hn : affinity ≥ SQLITE_AFF_NUMERIC
  · cases hreal : c.flags.has MEM_Real with
    | true =>
      rw [appliesAffinity_real_iff hs hi hc ha hn hreal]
      have hcl : ¬ (c.storageClass = .null ∨ c.storageClass = .blob) := fun h => by
        rw [(flags_of_class hc h).2.1] at hreal
        cases hreal
      tauto
    | false =>
      by_cases hcl : c.storageClass = .null ∨ c.storageClass = .blob
      · rw [appliesAffinity_null_blob_iff hs hi hc ha hn hcl]
        simp [hn, hcl]
      · have hother : (c.flags.has MEM_Int || c.flags.has MEM_Str) = true := by
          unfold Mem.storageClass at hcl
          rw [hreal] at hcl
          revert hcl
          cases c.flags.has MEM_Null <;> cases c.flags.has MEM_Int <;> cases c.flags.has MEM_Str <;>
            simp
        simp only [appliesAffinity_other hs hi hc ha fun _ => ⟨hreal, hother⟩, hcl,
          Bool.false_eq_true, false_implies, and_self, implies_true]
  · simp only [appliesAffinity_other hs hi hc ha fun h => absurd h hn, hn, false_implies]

/-- The real 1.5 stays under numeric affinity. -/
theorem applyAffinity_one_and_a_half :
    AppliesAffinity CLib.decimal (Machine.fresh [Mem.ofReal 0x3ff8000000000000] 0 ()) 0
      SQLITE_AFF_NUMERIC SQLITE_UTF8 (Mem.ofReal 0x3ff8000000000000) := by
  refine (applyAffinity_iff _ _ _ _ _ _ (Machine.Sound.fresh _ _ _) rfl
    (Mem.isValue_ofReal _ (by decide)) (by decide)).mpr fun _ => ⟨fun _ h => ?_, fun h => ?_⟩
  · rw [← integerAffinity_test_iff] at h
    exact absurd h (by decide +kernel)
  · exact absurd h (by decide)

/-- A NULL in a register that held the real 2.0 before. -/
def leftover : Mem := Mem.ofWord MEM_Null (Binary64.ofInt 2)

/-- Under numeric affinity the NULL becomes the integer 2. -/
theorem applyAffinity_leftover :
    (Machine.fresh [leftover] 0 ()).Sound ∧ leftover.IsValue SQLITE_UTF8 ∧
      IsAffinity SQLITE_AFF_NUMERIC ∧
      affinityResult CLib.decimal (Machine.fresh [leftover] 0 ()) 0 SQLITE_AFF_NUMERIC
        SQLITE_UTF8 = .ok ([Mem.ofInt 2], ()) ∧
      ¬ AppliesAffinity CLib.decimal (Machine.fresh [leftover] 0 ()) 0 SQLITE_AFF_NUMERIC
        SQLITE_UTF8 leftover := by
  have hvalue : leftover.IsValue SQLITE_UTF8 := by
    constructor <;> simp [leftover, Mem.ofWord]
  have hres : affinityResult CLib.decimal (Machine.fresh [leftover] 0 ()) 0 SQLITE_AFF_NUMERIC
      SQLITE_UTF8 = .ok ([Mem.ofInt 2], ()) := by decide +kernel
  refine ⟨Machine.Sound.fresh _ _ _, hvalue, by decide, hres, fun h => ?_⟩
  rw [appliesAffinity_iff hvalue, hres] at h
  exact absurd h (by decide +kernel)

end SQPyte
