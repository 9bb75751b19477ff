import Mathlib.Tactic.IntervalCases
import SQPyte.Mem.Allocation
import SQPyte.Mem.RealLimits

/-!
# Casts of a cell

`sqlite3VdbeMemCast` and the conversions it is made of, as methods of `Mem` and as routines of
`vdbemem.c`. The routine leaves exactly the type that the cast is to (`sqlite3VdbeMemCast_types`).
The methods that make an integer and a real do what the routines do, the first below `2^63`; the one
that makes a number of a text or blob fails, since it goes on with the flags it read at the start
(`Strict.At.run_sqlite3VdbeMemNumerify_text`).
-/

namespace SQPyte

open Commands

variable {ρ : Type} (L : CLib ρ)

/-! ## The methods -/

/-- `Mem.sqlite3VdbeMemIntegerify`. -/
def sqlite3VdbeMemIntegerify (self : ℕ) : MemM ρ ℕ := do
  let flags ← get_flags self
  if !flags.has MEM_Int then
    set_u_i self (← sqlite3VdbeIntValue L self)
  MemSetTypeFlag self MEM_Int
  return SQLITE_OK

/-- `Mem.sqlite3VdbeMemRealify`. -/
def sqlite3VdbeMemRealify (self : ℕ) : MemM ρ Unit := do
  set_u_r self (← sqlite3VdbeRealValue L self)
  MemSetTypeFlag self MEM_Real

/-- `Mem.sqlite3VdbeMemNumerify`. -/
def sqlite3VdbeMemNumerify (self : ℕ) : MemM ρ ℕ := do
  let flags ← get_flags self
  if !flags.has (MEM_Int ||| MEM_Real ||| MEM_Null) then
    pyAssert (flags.has (MEM_Blob ||| MEM_Str))
    let (rc, value) ← _atoi L self
    if rc = 0 then
      set_u_i self value
      MemSetTypeFlag self MEM_Int
    else
      set_u_r self (← sqlite3VdbeRealValue L self)
      MemSetTypeFlag self MEM_Real
      let _ ← sqlite3VdbeIntegerAffinity self
  pyAssert (flags.has (MEM_Int ||| MEM_Real ||| MEM_Null))
  set_flags self (flags &&& ~~~(MEM_Str ||| MEM_Blob))
  return SQLITE_OK

/-- `Mem.sqlite3VdbeMemCast`. -/
def sqlite3VdbeMemCast (mallocFailed : ρ → Bool) (self aff encoding : ℕ) : MemM ρ Unit := do
  let flags ← get_flags self
  if flags.has MEM_Null then return
  if aff = SQLITE_AFF_NONE then pyAssert false
  else if aff = SQLITE_AFF_NUMERIC then
    let _ ← sqlite3VdbeMemNumerify L self
  else if aff = SQLITE_AFF_INTEGER then
    let _ ← sqlite3VdbeMemIntegerify L self
  else if aff = SQLITE_AFF_REAL then sqlite3VdbeMemRealify L self
  else if aff = SQLITE_AFF_TEXT then
    set_flags self (flags ||| ((flags &&& MEM_Blob) >>> 3))
    applyAffinity L self SQLITE_AFF_TEXT encoding
    let flags ← get_flags self
    pyAssert (flags.has MEM_Str || (← other fun r => .ok (mallocFailed r, r)))
    let flags ← get_flags self
    set_flags self (flags &&& ~~~(MEM_Int ||| MEM_Real ||| MEM_Blob ||| MEM_Zero))
  else pyAssert false

/-! ## The routines of `vdbemem.c` -/

namespace Mem

/-- `sqlite3VdbeMemIntegerify` of `vdbemem.c`. -/
def sqlite3VdbeMemIntegerify (pMem : Mem) : Mem :=
  { pMem with
    u := BitVec.ofInt 64 (pMem.sqlite3VdbeIntValue L), flags := withTypeFlag pMem.flags MEM_Int }

/-- `sqlite3VdbeMemRealify` of `vdbemem.c`. -/
def sqlite3VdbeMemRealify (pMem : Mem) : Mem :=
  { pMem with u := pMem.realValue L, flags := withTypeFlag pMem.flags MEM_Real }

/-- The first part of `sqlite3VdbeMemNumerify` of `vdbemem.c`, for what is no number. -/
def numerified (pMem : Mem) : Mem :=
  let (rc, value) := L.Atoi64 pMem.buffer pMem.n pMem.enc
  let pMem := { pMem with u := BitVec.ofInt 64 value }
  if rc = 0 then { pMem with flags := withTypeFlag pMem.flags MEM_Int }
  else (pMem.sqlite3VdbeMemRealify L).sqlite3VdbeIntegerAffinity

/-- `sqlite3VdbeMemNumerify` of `vdbemem.c`. -/
def sqlite3VdbeMemNumerify (pMem : Mem) : Mem :=
  let pMem :=
    if !pMem.flags.has (MEM_Int ||| MEM_Real ||| MEM_Null) then pMem.numerified L else pMem
  { pMem with flags := pMem.flags &&& ~~~(MEM_Str ||| MEM_Blob) }

/-- `flags |= (flags & MEM_Blob) >> 3`: a blob is a text, too. -/
def asText (pMem : Mem) : Mem :=
  { pMem with flags := pMem.flags ||| ((pMem.flags &&& MEM_Blob) >>> 3) }

/-- `sqlite3VdbeMemCast` of `vdbemem.c`. -/
def sqlite3VdbeMemCast (aff encoding : ℕ) (pMem : Mem) (r : ρ) : Except Exc (Mem × ρ) :=
  if pMem.flags.has MEM_Null then .ok (pMem, r)
  else if aff = SQLITE_AFF_NONE then
    if !pMem.flags.has MEM_Blob then
      (pMem.applyAffinity L SQLITE_AFF_TEXT encoding r).map fun x =>
        ({ x.1 with flags := withTypeFlag x.1.flags MEM_Blob }, x.2)
    else .ok ({ pMem with flags := pMem.flags &&& ~~~(MEM_TypeMask &&& ~~~MEM_Blob) }, r)
  else if aff = SQLITE_AFF_NUMERIC then .ok (pMem.sqlite3VdbeMemNumerify L, r)
  else if aff = SQLITE_AFF_INTEGER then .ok (pMem.sqlite3VdbeMemIntegerify L, r)
  else if aff = SQLITE_AFF_REAL then .ok (pMem.sqlite3VdbeMemRealify L, r)
  else
    (pMem.asText.applyAffinity L SQLITE_AFF_TEXT encoding r).map fun x =>
      ({ x.1 with flags := x.1.flags &&& ~~~(MEM_Int ||| MEM_Real ||| MEM_Blob ||| MEM_Zero) }, x.2)

/-! ## Types -/

/-- The type of a cell, with the flag for implied zeros. -/
def type (pMem : Mem) : Flags := pMem.flags &&& (MEM_TypeMask ||| MEM_Zero)

/-- The number that a cast to `SQLITE_AFF_NUMERIC` makes of a text or blob. -/
def castNumeric (pMem : Mem) : Number :=
  if (L.Atoi64 pMem.buffer pMem.n pMem.enc).1 = 0 then
    .int (L.Atoi64 pMem.buffer pMem.n pMem.enc).2
  else
    match smallInt (L.AtoF pMem.buffer pMem.n pMem.enc).2 with
    | some v => .int v
    | none => .real (L.AtoF pMem.buffer pMem.n pMem.enc).2

end Mem

/-- The types that a cast to `aff` can leave. -/
def castTypes (aff : ℕ) : List Flags :=
  if aff = SQLITE_AFF_NONE then [MEM_Blob]
  else if aff = SQLITE_AFF_NUMERIC then [MEM_Int, MEM_Real]
  else if aff = SQLITE_AFF_INTEGER then [MEM_Int]
  else if aff = SQLITE_AFF_REAL then [MEM_Real]
  else [MEM_Str]

/-- No type bits are set but those of NULL, text, integer, real and blob. -/
def Flags.PlainType (f : Flags) : Prop := f &&& (MEM_TypeMask &&& ~~~MEM_AffMask) = 0

/-- The translation of a text sets no other type bits. -/
def CLib.KeepsPlain (L : CLib ρ) : Prop :=
  ∀ enc p r, p.flags.PlainType → (L.translate enc p r).1.flags.PlainType

/-- The translation changes no type. -/
theorem CLib.keepsPlain_decimal : CLib.decimal.KeepsPlain := fun _ _ _ h => h

/-- The four bits that a plain type has not. -/
theorem Flags.plainType_iff {f : Flags} : f.PlainType ↔ f.getLsbD 5 = false ∧
    f.getLsbD 6 = false ∧ f.getLsbD 7 = false ∧ f.getLsbD 8 = false := by
  unfold PlainType
  constructor
  · intro h
    have hbit := fun k => congrArg (fun b : Flags => b.getLsbD k) h
    have h5 := hbit 5
    have h6 := hbit 6
    have h7 := hbit 7
    have h8 := hbit 8
    simp at h5 h6 h7 h8
    exact ⟨h5, h6, h7, h8⟩
  · rintro ⟨h5, h6, h7, h8⟩
    ext k hk
    interval_cases k <;> simp_all

/-- `MemSetTypeFlag` sets exactly the type given. -/
theorem type_withTypeFlag (old : Flags) {t : Flags} (ht : t &&& (MEM_TypeMask ||| MEM_Zero) = t) :
    withTypeFlag old t &&& (MEM_TypeMask ||| MEM_Zero) = t := by
  unfold withTypeFlag
  rw [BitVec.and_or_distrib_right, ht, BitVec.and_assoc]
  simp

/-- A text next to whatever else has the type of a text when that is cleared. -/
theorem type_text {f : Flags} (hf : f.PlainType) (hnull : f.has MEM_Null = false)
    (hstr : f.has MEM_Str = true) :
    (f &&& ~~~(MEM_Int ||| MEM_Real ||| MEM_Blob ||| MEM_Zero)) &&& (MEM_TypeMask ||| MEM_Zero) =
      MEM_Str := by
  obtain ⟨h5, h6, h7, h8⟩ := Flags.plainType_iff.mp hf
  simp only [MEM_Null, MEM_Str, Flags.has_MEM_Null, Flags.has_MEM_Str] at hnull hstr
  ext k hk
  interval_cases k <;> simp_all

/-- A blob has the type of a blob when everything else is cleared. -/
theorem type_blob {f : Flags} (hz : f.has MEM_Zero = false) (hblob : f.has MEM_Blob = true) :
    (f &&& ~~~(MEM_TypeMask &&& ~~~MEM_Blob)) &&& (MEM_TypeMask ||| MEM_Zero) = MEM_Blob := by
  simp only [MEM_Zero, MEM_Blob, Flags.has_MEM_Zero, Flags.has_MEM_Blob] at hz hblob
  ext k hk
  interval_cases k <;> simp_all

/-- A number next to a text has the type of the number when the text is cleared. -/
theorem type_number {f : Flags} (hf : f.PlainType) (hz : f.has MEM_Zero = false)
    (hnull : f.has MEM_Null = false)
    (hnum : (f.has MEM_Int = true ∧ f.has MEM_Real = false) ∨
      (f.has MEM_Int = false ∧ f.has MEM_Real = true)) :
    (f &&& ~~~(MEM_Str ||| MEM_Blob)) &&& (MEM_TypeMask ||| MEM_Zero) =
      if f.has MEM_Int then MEM_Int else MEM_Real := by
  obtain ⟨h5, h6, h7, h8⟩ := Flags.plainType_iff.mp hf
  simp only [MEM_Zero, MEM_Null, MEM_Int, MEM_Real, Flags.has_MEM_Zero, Flags.has_MEM_Null,
    Flags.has_MEM_Int, Flags.has_MEM_Real] at hz hnull hnum ⊢
  rcases hnum with ⟨hi, hr⟩ | ⟨hi, hr⟩
  · rw [hi, if_pos rfl]
    ext k hk
    interval_cases k <;> simp_all
  · rw [hi, if_neg (by decide)]
    ext k hk
    interval_cases k <;> simp_all

/-- A type set by `MemSetTypeFlag` stays when the text and the blob are cleared. -/
theorem type_numerified (old : Flags) {t : Flags} (ht : t &&& (MEM_TypeMask ||| MEM_Zero) = t)
    (hnum : t &&& ~~~(MEM_Str ||| MEM_Blob) = t) :
    (withTypeFlag old t &&& ~~~(MEM_Str ||| MEM_Blob)) &&& (MEM_TypeMask ||| MEM_Zero) = t := by
  rw [BitVec.and_assoc, BitVec.and_comm (~~~(MEM_Str ||| MEM_Blob)), ← BitVec.and_assoc,
    type_withTypeFlag old ht, hnum]

/-- The bits that a type consists of. -/
theorem getLsbD_of_type {f t : Flags} (h : f &&& (MEM_TypeMask ||| MEM_Zero) = t) {k : ℕ}
    (hk : (MEM_TypeMask ||| MEM_Zero).getLsbD k = true) : f.getLsbD k = t.getLsbD k := by
  rw [← h, BitVec.getLsbD_and, hk, Bool.and_true]

/-- `MemSetTypeFlag` changes nothing in a cell that has the type already. -/
theorem withTypeFlag_of_type {f t : Flags} (h : f &&& (MEM_TypeMask ||| MEM_Zero) = t) :
    withTypeFlag f t = f := by
  have hall : ~~~(MEM_TypeMask ||| MEM_Zero) ||| (MEM_TypeMask ||| MEM_Zero) = BitVec.allOnes 16 := by
    decide
  unfold withTypeFlag
  rw [← h, ← BitVec.and_or_distrib_left, hall, BitVec.and_allOnes]

/-- Clearing what is not set changes nothing. -/
theorem and_not_of_type {f t m : Flags} (h : f &&& (MEM_TypeMask ||| MEM_Zero) = t)
    (hm : m &&& (MEM_TypeMask ||| MEM_Zero) = m) (ht : m &&& t = 0) : f &&& ~~~m = f := by
  have hfm : f &&& m = 0 := by
    rw [← hm, BitVec.and_comm m, ← BitVec.and_assoc, h, BitVec.and_comm, ht]
  ext k hk
  have hbit : (f &&& m)[k] = false := by
    rw [hfm]
    exact BitVec.getElem_zero hk
  rw [BitVec.getElem_and] at hbit ⊢
  rw [BitVec.getElem_not]
  cases hf : f[k] with
  | false => rfl
  | true => rw [hf, Bool.true_and] at hbit; rw [hbit]; rfl

namespace Mem

variable {L} {mallocFailed : ρ → Bool} {enc aff : ℕ} {c : Mem}

/-- The cell is not NULL, and can be cast. -/
structure IsCastable (enc : ℕ) (c : Mem) : Prop where
  /-- The cell holds a value. -/
  value : c.IsValue enc
  /-- It is not NULL. -/
  notNull : c.flags.has MEM_Null = false
  /-- No zeros are implied. -/
  zero : c.flags.has MEM_Zero = false
  /-- It has no type that is not one of a value. -/
  plainType : c.flags.PlainType

/-- What is neither a number nor NULL is a text or blob. -/
theorem IsCastable.text (h : c.IsCastable enc) (hnum : c.flags.has (MEM_Int ||| MEM_Real) = false) :
    c.flags.has (MEM_Str ||| MEM_Blob) = true := by
  rw [Flags.has_or_right, Bool.or_eq_false_iff] at hnum
  have := h.value.nonempty
  rw [h.notNull, hnum.1, hnum.2] at this
  rw [Flags.has_or_right]
  simpa using this

/-- A number is an integer or a real, but not both. -/
theorem IsCastable.number (h : c.IsCastable enc) (hnum : c.flags.has (MEM_Int ||| MEM_Real) = true) :
    (c.flags.has MEM_Int = true ∧ c.flags.has MEM_Real = false) ∨
      (c.flags.has MEM_Int = false ∧ c.flags.has MEM_Real = true) := by
  have hboth := h.value.int_real
  rw [Flags.has_or_right] at hnum
  cases hi : c.flags.has MEM_Int <;> cases hr : c.flags.has MEM_Real <;> simp_all

/-- The printed form of a number is a text. -/
theorem sqlite3VdbeMemStringify_text (hL : L.Lawful mallocFailed) (hP : L.KeepsPlain)
    (h : c.IsCastable enc) (e : ℕ) (r : ρ) :
    ∃ c' r', c.sqlite3VdbeMemStringify L e true r = .ok (SQLITE_OK, c', r') ∧
      c'.flags.PlainType ∧ c'.flags.has MEM_Null = false ∧ c'.flags.has MEM_Str = true := by
  obtain ⟨c', r', hrun, -, -, hstr, hnull, -⟩ :=
    sqlite3VdbeMemStringify_spec hL e h.value.alloc h.zero h.notNull r
  obtain ⟨q, r₁, heq, -, hprinted⟩ := sqlite3VdbeMemStringify_eq hL e h.value.alloc r
  obtain ⟨kept, hkept, hq⟩ := hprinted.flags
  refine ⟨c', r', hrun, ?_, hnull, hstr⟩
  have hplain : q.flags.PlainType := by
    have hc := Flags.plainType_iff.mp h.plainType
    rw [hq, Flags.plainType_iff]
    rcases hkept with rfl | rfl <;> simp_all
  rw [heq, Except.ok.injEq, Prod.mk.injEq] at hrun
  have hc' : c' = (q.sqlite3VdbeChangeEncoding L e r₁).1 := by rw [hrun.2]
  rw [hc']
  unfold sqlite3VdbeChangeEncoding
  split_ifs
  · exact hplain
  · exact hP e q r₁ hplain

/-- What is neither a number nor NULL is made a number of the type of its value. -/
theorem numerified_flags (c : Mem) : ∃ t, (t = MEM_Int ∨ t = MEM_Real) ∧
    (c.numerified L).flags = withTypeFlag c.flags t := by
  unfold numerified
  dsimp only
  split_ifs
  · exact ⟨MEM_Int, Or.inl rfl, rfl⟩
  · rw [sqlite3VdbeIntegerAffinity_eq]
    split
    · exact ⟨MEM_Int, Or.inl rfl, withTypeFlag_withTypeFlag _ _ (by decide)⟩
    · exact ⟨MEM_Real, Or.inr rfl, rfl⟩

/-- The result is an integer or a real. -/
theorem sqlite3VdbeMemNumerify_type (h : c.IsCastable enc) :
    (c.sqlite3VdbeMemNumerify L).type = MEM_Int ∨ (c.sqlite3VdbeMemNumerify L).type = MEM_Real := by
  unfold sqlite3VdbeMemNumerify type
  dsimp only
  have hor : c.flags.has (MEM_Int ||| MEM_Real ||| MEM_Null) =
      c.flags.has (MEM_Int ||| MEM_Real) := by
    rw [Flags.has_or_right, h.notNull, Bool.or_false]
  rw [hor]
  cases hnum : c.flags.has (MEM_Int ||| MEM_Real) with
  | true =>
    simp only [Bool.not_true, Bool.false_eq_true, ↓reduceIte]
    rw [type_number h.plainType h.zero h.notNull (h.number hnum)]
    split_ifs
    · exact Or.inl rfl
    · exact Or.inr rfl
  | false =>
    obtain ⟨t, ht, hflags⟩ := numerified_flags (L := L) c
    simp only [Bool.not_false, ↓reduceIte]
    rw [hflags]
    rcases ht with rfl | rfl
    · exact Or.inl (type_numerified _ (by decide) (by decide))
    · exact Or.inr (type_numerified _ (by decide) (by decide))

/-- A number loses the text next to it. -/
theorem sqlite3VdbeMemNumerify_of_number (h : c.flags.has (MEM_Int ||| MEM_Real) = true) :
    c.sqlite3VdbeMemNumerify L = { c with flags := c.flags &&& ~~~(MEM_Str ||| MEM_Blob) } := by
  unfold sqlite3VdbeMemNumerify
  rw [Flags.has_or_right, h]
  rfl

/-- The word of a cell with an integer. -/
theorem ofInt_intValue (h : c.flags.has MEM_Int = true) :
    BitVec.ofInt 64 (c.intValue L) = c.u := by
  unfold intValue
  rw [if_pos h]
  exact BitVec.ofInt_toInt

/-- Only a blob is changed. -/
theorem asText_of_not_blob (h : c.flags.has MEM_Blob = false) : c.asText = c := by
  have hflags : c.flags ||| ((c.flags &&& MEM_Blob) >>> 3) = c.flags := by
    simp only [MEM_Blob, Flags.has_MEM_Blob] at h ⊢
    ext k hk
    interval_cases k <;> simp_all
  unfold asText
  rw [hflags]

/-- A blob that is a text, too. -/
theorem asText_of_blob (h : c.flags.has MEM_Blob = true) : c.asText.flags = c.flags ||| MEM_Str := by
  unfold asText
  simp only [MEM_Blob, MEM_Str, Flags.has_MEM_Blob] at h ⊢
  ext k hk
  interval_cases k <;> simp_all

/-- A value that is no blob has a text once text affinity is applied. -/
theorem applyAffinity_text (hL : L.Lawful mallocFailed) (hP : L.KeepsPlain) (h : c.IsCastable enc)
    (hblob : c.flags.has MEM_Blob = false) (e : ℕ) (r : ρ) :
    ∃ c' r', c.applyAffinity L SQLITE_AFF_TEXT e r = .ok (c', r') ∧ c'.flags.PlainType ∧
      c'.flags.has MEM_Null = false ∧ c'.flags.has MEM_Str = true := by
  unfold applyAffinity
  rw [if_neg (by decide), if_pos rfl]
  by_cases hs : (!c.flags.has MEM_Str && c.flags.has (MEM_Real ||| MEM_Int)) = true
  · obtain ⟨c', r', hrun, hplain, hnull, hstr⟩ := sqlite3VdbeMemStringify_text hL hP h e r
    exact ⟨c', r', by rw [if_pos hs, hrun]; rfl, hplain, hnull, hstr⟩
  · refine ⟨c, r, if_neg hs, h.plainType, h.notNull, ?_⟩
    -- A value that is no number and no blob is a text already.
    have hne := h.value.nonempty
    rw [h.notNull, hblob] at hne
    rw [Flags.has_or_right] at hs
    revert hs hne
    cases c.flags.has MEM_Str <;> cases c.flags.has MEM_Int <;> cases c.flags.has MEM_Real <;> simp

/-- Whatever the value, it has a text once that of a blob is taken for one. -/
theorem applyAffinity_asText (hL : L.Lawful mallocFailed) (hP : L.KeepsPlain)
    (h : c.IsCastable enc) (e : ℕ) (r : ρ) :
    ∃ c' r', c.asText.applyAffinity L SQLITE_AFF_TEXT e r = .ok (c', r') ∧ c'.flags.PlainType ∧
      c'.flags.has MEM_Null = false ∧ c'.flags.has MEM_Str = true := by
  cases hblob : c.flags.has MEM_Blob with
  | false =>
    rw [asText_of_not_blob hblob]
    exact applyAffinity_text hL hP h hblob e r
  | true =>
    have hflags := asText_of_blob hblob
    have hplain := Flags.plainType_iff.mp h.plainType
    have hnull := h.notNull
    have hstr : c.asText.flags.has MEM_Str = true := by
      rw [hflags, Flags.has_or_left]
      simp
    refine ⟨c.asText, r, ?_, ?_, ?_, hstr⟩
    · unfold applyAffinity
      rw [if_neg (by decide), if_pos rfl, hstr]
      rfl
    · rw [hflags, Flags.plainType_iff]
      simp_all
    · rw [hflags, Flags.has_or_left, hnull]
      decide

/-- With its zeros stored, a blob can be cast. -/
theorem expandBlob_castable (hL : L.Lawful mallocFailed) (hc : c.IsValue enc)
    (hnull : c.flags.has MEM_Null = false) (hplain : c.flags.PlainType) (r : ρ) :
    ∃ d r', c.sqlite3VdbeMemExpandBlob L r = .ok (SQLITE_OK, d, r') ∧ d.IsCastable enc ∧
      d.flags.has MEM_Int = c.flags.has MEM_Int ∧ d.flags.has MEM_Real = c.flags.has MEM_Real ∧
      d.u = c.u := by
  by_cases hz : c.flags.has MEM_Zero = true
  · obtain ⟨d, r', hrun, hd, -⟩ := sqlite3VdbeMemExpandBlob_spec hL hc hz r
    obtain ⟨hblob, hpos⟩ := hc.zero hz
    have hlen := hc.length_bytes (by rw [hblob, Bool.or_true])
    have hdlen := congrArg List.length hd.bytes
    have hn := hd.n_eq
    -- The expansion takes MEM_Zero away and leaves all other types.
    have hhas : ∀ t ∈ [MEM_Null, MEM_Int, MEM_Real, MEM_Str, MEM_Blob, MEM_RowSet, MEM_Frame,
        MEM_Agg, MEM_Undefined], d.flags.has t = c.flags.has t := by
      intro t ht
      rw [hd.flags]
      simp only [List.mem_cons, List.not_mem_nil, or_false] at ht
      rcases ht with rfl | rfl | rfl | rfl | rfl | rfl | rfl | rfl | rfl <;> simp
    have hN := hhas MEM_Null (by simp)
    have hI := hhas MEM_Int (by simp)
    have hR := hhas MEM_Real (by simp)
    have hS := hhas MEM_Str (by simp)
    have hB := hhas MEM_Blob (by simp)
    have hdz : d.flags.has MEM_Zero = false := by
      rw [hd.flags]
      simp
    have hdplain : d.flags.PlainType := by
      have hbits := Flags.plainType_iff.mp hplain
      rw [hd.flags, Flags.plainType_iff]
      simp_all
    obtain ⟨hint, hreal, hstr⟩ := hc.blob hblob
    have hvalue : d.IsValue enc :=
      { null := fun h => absurd h (by rw [hN, hnull]; decide)
        nonempty := by rw [hB, hblob, Bool.or_true]
        int_real := fun h => absurd h.1 (by rw [hI, hint]; decide)
        blob := fun _ => ⟨hI.trans hint, hR.trans hreal, hS.trans hstr⟩
        real := fun h => absurd h (by rw [hR, hreal]; decide)
        plain := by
          rw [hhas MEM_RowSet (by simp), hhas MEM_Frame (by simp), hhas MEM_Agg (by simp),
            hhas MEM_Undefined (by simp)]
          exact hc.plain
        zero := fun h => absurd h (by rw [hdz]; decide)
        stored := fun _ => by
          unfold bytes at hdlen hlen
          rw [List.length_append, List.length_replicate, List.length_take] at hdlen
          rw [List.length_take] at hlen
          rw [List.length_take] at hdlen
          omega
        enc_eq := fun h => absurd h (by rw [hS, hstr]; decide)
        alloc := hd.alloc }
    exact ⟨d, r', hrun, ⟨hvalue, hN.trans hnull, hdz, hdplain⟩, hI, hR, hd.u⟩
  · exact ⟨c, r, if_neg hz, ⟨hc, hnull, by simpa using hz, hplain⟩, rfl, rfl, rfl⟩

/-- The routine leaves exactly the type that the cast is to. -/
theorem sqlite3VdbeMemCast_types (hL : L.Lawful mallocFailed) (hP : L.KeepsPlain)
    (h : c.IsCastable enc) (aff e : ℕ) (r : ρ) :
    ∃ c' r', c.sqlite3VdbeMemCast L aff e r = .ok (c', r') ∧ c'.type ∈ castTypes aff := by
  unfold sqlite3VdbeMemCast castTypes
  rw [if_neg (by rw [h.notNull]; decide)]
  split_ifs with hnone hnb hnumeric hint hreal
  · obtain ⟨c', r', hrun, -⟩ := applyAffinity_text hL hP h (by simpa using hnb) e r
    refine ⟨_, _, by rw [hrun]; rfl, List.mem_singleton.mpr ?_⟩
    exact type_withTypeFlag _ (by decide)
  · exact ⟨_, _, rfl, List.mem_singleton.mpr (type_blob h.zero (by simpa using hnb))⟩
  · exact ⟨_, _, rfl, by simpa using sqlite3VdbeMemNumerify_type h⟩
  · exact ⟨_, _, rfl, List.mem_singleton.mpr (type_withTypeFlag _ (by decide))⟩
  · exact ⟨_, _, rfl, List.mem_singleton.mpr (type_withTypeFlag _ (by decide))⟩
  · obtain ⟨c', r', hrun, hplain, hnull, hstr⟩ := applyAffinity_asText hL hP h e r
    refine ⟨_, _, by rw [hrun]; rfl, List.mem_singleton.mpr ?_⟩
    exact type_text hplain hnull hstr

end Mem

/-! ## Runs of the methods -/

namespace Strict

variable {L} {s : Strict ρ} {i enc aff : ℕ} {c : Mem} {w : Member} {mallocFailed : ρ → Bool}

/-- Setting the type of a cell. -/
theorem At.run_MemSetTypeFlag (h : s.At i c w) (t : Flags) :
    run (strictMachine ρ) (MemSetTypeFlag i t) s =
      .ok ((), s.setMem i { c with flags := withTypeFlag c.flags t } w) := by
  unfold MemSetTypeFlag
  rw [run_bind_ok h.run_get_flags, h.run_set_flags]

/-- Turning a cell into an integer. -/
theorem At.run_sqlite3VdbeMemIntegerify (L : CLib ρ) (h : s.At i c w) (ha : Announces c w) :
    ∃ w', run (strictMachine ρ) (sqlite3VdbeMemIntegerify L i) s = .ok (SQLITE_OK, s.setMem i
        { c with u := BitVec.ofInt 64 (c.intValue L), flags := withTypeFlag c.flags MEM_Int } w') ∧
      (w' = .i ∨ w' = .foreign) := by
  unfold sqlite3VdbeMemIntegerify
  rw [run_bind_ok h.run_get_flags]
  cases hint : c.flags.has MEM_Int with
  | true =>
    simp only [Bool.not_true, Bool.false_eq_true, ↓reduceIte]
    rw [run_bind_ok (h.run_MemSetTypeFlag MEM_Int), run_pure, Mem.ofInt_intValue hint]
    exact ⟨w, rfl, ha.1 hint⟩
  | false =>
    have hat := h.setMem { c with u := BitVec.ofInt 64 (c.intValue L) } .i
    simp only [Bool.not_false, ↓reduceIte]
    rw [run_bind_ok (h.run_sqlite3VdbeIntValue L ha), run_bind_ok (h.run_set_u_i _ _),
      run_bind_ok (hat.run_MemSetTypeFlag MEM_Int), run_pure, Strict.setMem_setMem]
    exact ⟨.i, rfl, Or.inl rfl⟩

/-- Turning a cell into a real. -/
theorem At.run_sqlite3VdbeMemRealify (L : CLib ρ) (h : s.At i c w) (ha : Announces c w) :
    run (strictMachine ρ) (sqlite3VdbeMemRealify L i) s =
      .ok ((), s.setMem i (c.sqlite3VdbeMemRealify L) .r) := by
  have hat := h.setMem { c with u := c.realValue L } .r
  unfold sqlite3VdbeMemRealify
  rw [run_bind_ok (h.run_sqlite3VdbeRealValue L ha), run_bind_ok (h.run_set_u_r _),
    hat.run_MemSetTypeFlag, Strict.setMem_setMem]
  rfl

/-- A number keeps its type and loses its text. -/
theorem At.run_sqlite3VdbeMemNumerify_number (L : CLib ρ) (h : s.At i c w)
    (hnum : c.flags.has (MEM_Int ||| MEM_Real) = true) :
    run (strictMachine ρ) (sqlite3VdbeMemNumerify L i) s =
      .ok (SQLITE_OK, s.setMem i (c.sqlite3VdbeMemNumerify L) w) := by
  have hor : c.flags.has (MEM_Int ||| MEM_Real ||| MEM_Null) = true := by
    rw [Flags.has_or_right, hnum, Bool.true_or]
  unfold sqlite3VdbeMemNumerify
  rw [run_bind_ok h.run_get_flags, hor, Mem.sqlite3VdbeMemNumerify_of_number hnum]
  simp only [Bool.not_true, Bool.false_eq_true, ↓reduceIte]
  rw [run_bind_ok (run_pyAssert s rfl), run_bind_ok (h.run_set_flags _), run_pure]

/-- A text or blob is converted, but then the flags read before are checked, and the method fails. -/
theorem At.run_sqlite3VdbeMemNumerify_text (L : CLib ρ) (h : s.At i c w) (hc : c.IsCastable enc)
    (hnum : c.flags.has (MEM_Int ||| MEM_Real) = false) :
    run (strictMachine ρ) (sqlite3VdbeMemNumerify L i) s = .error (some .assertion) := by
  have hor : c.flags.has (MEM_Int ||| MEM_Real ||| MEM_Null) = false := by
    rw [Flags.has_or_right, hnum, hc.notNull, Bool.false_or]
  have htext : c.flags.has (MEM_Blob ||| MEM_Str) = true := by
    rw [BitVec.or_comm]
    exact hc.text hnum
  have hann : Announces c w := by
    rw [Flags.has_or_right, Bool.or_eq_false_iff] at hnum
    exact ⟨fun hi => absurd hi (by rw [hnum.1]; decide), fun hr => absurd hr (by rw [hnum.2]; decide)⟩
  unfold sqlite3VdbeMemNumerify _atoi
  rw [run_bind_ok h.run_get_flags, hor]
  simp only [Bool.not_false, ↓reduceIte]
  rw [run_bind_ok (run_pyAssert s htext), run_bind_ok (h.run_peek _)]
  split_ifs
  · have hat := h.setMem { c with u := BitVec.ofInt 64 (L.Atoi64 c.buffer c.n c.enc).2 } .i
    rw [run_bind_ok (h.run_set_u_i _ _), run_bind_ok (hat.run_MemSetTypeFlag _)]
    exact run_bind_error (run_pyAssert_false _ rfl) _
  · have hat := h.setMem { c with u := c.realValue L } .r
    have hat' := hat.setMem { c with u := c.realValue L, flags := withTypeFlag c.flags MEM_Real } .r
    obtain ⟨w', hrun, -⟩ := hat'.run_sqlite3VdbeIntegerAffinity
      ⟨fun hi => by simp [withTypeFlag] at hi, fun _ => Or.inl rfl⟩ (by simp [withTypeFlag])
      (by simp [withTypeFlag])
    rw [run_bind_ok (h.run_sqlite3VdbeRealValue L hann), run_bind_ok (h.run_set_u_r _),
      run_bind_ok (hat.run_MemSetTypeFlag _), run_bind_ok hrun]
    exact run_bind_error (run_pyAssert_false _ rfl) _

/-- A cast to text. -/
theorem At.run_sqlite3VdbeMemCast_text (hL : L.Lawful mallocFailed) (hP : L.KeepsPlain)
    (h : s.At i c w) (hc : c.IsCastable enc) (e : ℕ) :
    ∃ c' r' w', c.sqlite3VdbeMemCast L SQLITE_AFF_TEXT e s.rest = .ok (c', r') ∧
      run (strictMachine ρ) (sqlite3VdbeMemCast L mallocFailed i SQLITE_AFF_TEXT e) s =
        .ok ((), { s.setMem i c' w' with rest := r' }) ∧ Announces c' w' := by
  obtain ⟨d, r', hrun, -, hnull, hstr⟩ := Mem.applyAffinity_asText hL hP hc e s.rest
  have hnot : ¬ c.flags.has MEM_Null = true := by
    rw [hc.notNull]
    decide
  have hat := h.setMem c.asText w
  have hpy := run_applyAffinity L e hat (show IsAffinity SQLITE_AFF_TEXT by decide)
    fun hn => absurd hn (by decide)
  rw [if_neg fun hn => absurd hn.1 (by decide),
    show (s.setMem i c.asText w).rest = s.rest from rfl, hrun] at hpy
  obtain ⟨w', hpy, hann⟩ := hpy
  rw [Strict.setMem_setMem] at hpy
  have hat' : Strict.At { s.setMem i d w' with rest := r' } i d w' := h.setMem d w'
  refine ⟨{ d with flags := d.flags &&& ~~~(MEM_Int ||| MEM_Real ||| MEM_Blob ||| MEM_Zero) }, r', w',
    ?_, ?_, ?_⟩
  · unfold Mem.sqlite3VdbeMemCast
    rw [if_neg hnot, if_neg (by decide), if_neg (by decide), if_neg (by decide), if_neg (by decide),
      hrun]
    rfl
  · unfold sqlite3VdbeMemCast
    rw [run_bind_ok h.run_get_flags, if_neg hnot, if_neg (by decide), if_neg (by decide),
      if_neg (by decide), if_neg (by decide), if_pos rfl, run_bind_ok (h.run_set_flags _)]
    refine (run_bind_ok hpy _).trans ?_
    rw [run_bind_ok hat'.run_get_flags, run_bind_ok (run_other_ok rfl),
      run_bind_ok (run_pyAssert _ (by rw [hstr, Bool.true_or])), run_bind_ok hat'.run_get_flags,
      hat'.run_set_flags]
    simp [Strict.setMem]
  · constructor <;> simp

/-- A text is not changed by a cast to text. -/
theorem At.run_castText_again (L : CLib ρ) (mallocFailed : ρ → Bool) (h : s.At i c w)
    (htype : c.type = MEM_Str) (e : ℕ) :
    ∃ w', run (strictMachine ρ) (sqlite3VdbeMemCast L mallocFailed i SQLITE_AFF_TEXT e) s =
      .ok ((), s.setMem i c w') := by
  have hnull : c.flags.has MEM_Null = false := by
    simpa using getLsbD_of_type htype (k := 0) (by decide)
  have hstr : c.flags.has MEM_Str = true := by
    simpa using getLsbD_of_type htype (k := 1) (by decide)
  have hblob : c.flags.has MEM_Blob = false := by
    simpa using getLsbD_of_type htype (k := 4) (by decide)
  have hset : run (strictMachine ρ) (set_flags i (c.flags ||| ((c.flags &&& MEM_Blob) >>> 3))) s =
      .ok ((), s) := by
    rw [h.run_set_flags]
    have hself := Mem.asText_of_not_blob hblob
    unfold Mem.asText at hself
    rw [hself, h.setMem_self]
  have hclear : c.flags &&& ~~~(MEM_Int ||| MEM_Real ||| MEM_Blob ||| MEM_Zero) = c.flags :=
    and_not_of_type htype (by decide) (by decide)
  have happly : c.applyAffinity L SQLITE_AFF_TEXT e s.rest = .ok (c, s.rest) := by
    unfold Mem.applyAffinity
    rw [if_neg (by decide), if_pos rfl, hstr]
    rfl
  have hpy := run_applyAffinity L e h (show IsAffinity SQLITE_AFF_TEXT by decide)
    fun hn => absurd hn (by decide)
  rw [if_neg fun hn => absurd hn.1 (by decide), happly] at hpy
  obtain ⟨w', hpy, -⟩ := hpy
  have hat := h.setMem c w'
  refine ⟨w', ?_⟩
  unfold sqlite3VdbeMemCast
  rw [run_bind_ok h.run_get_flags, hnull, if_neg (by decide), if_neg (by decide),
    if_neg (by decide), if_neg (by decide), if_neg (by decide), if_pos rfl, run_bind_ok hset]
  refine (run_bind_ok hpy _).trans ?_
  have hsame : ({ s.setMem i c w' with rest := s.rest } : Strict ρ) = s.setMem i c w' := rfl
  rw [hsame, run_bind_ok hat.run_get_flags, run_bind_ok (run_other_ok rfl),
    run_bind_ok (run_pyAssert _ (by rw [hstr, Bool.true_or])), run_bind_ok hat.run_get_flags,
    hat.run_set_flags, hclear, Strict.setMem_setMem]

/-- A cell with a type that a cast leaves is not changed by the cast. -/
theorem At.run_sqlite3VdbeMemCast_again (L : CLib ρ) (mallocFailed : ρ → Bool) (h : s.At i c w)
    (ha : Announces c w) (htype : c.type ∈ castTypes aff) (haff : aff = SQLITE_AFF_TEXT ∨
      aff = SQLITE_AFF_NUMERIC ∨ aff = SQLITE_AFF_INTEGER ∨ aff = SQLITE_AFF_REAL) (e : ℕ) :
    ∃ w', run (strictMachine ρ) (sqlite3VdbeMemCast L mallocFailed i aff e) s =
      .ok ((), s.setMem i c w') := by
  rcases haff with rfl | rfl | rfl | rfl
  · exact h.run_castText_again L mallocFailed (List.mem_singleton.mp htype) e
  · -- NUMERIC leaves a number as it is.
    have hmem : c.type ∈ [MEM_Int, MEM_Real] := htype
    have ht : c.type = MEM_Int ∨ c.type = MEM_Real := by simpa using hmem
    have hnull : c.flags.has MEM_Null = false := by
      rcases ht with ht | ht <;> simpa using getLsbD_of_type ht (k := 0) (by decide)
    have hnum : c.flags.has (MEM_Int ||| MEM_Real) = true := by
      rw [Flags.has_or_right, Bool.or_eq_true]
      rcases ht with ht | ht
      · exact Or.inl (by simpa using getLsbD_of_type ht (k := 2) (by decide))
      · exact Or.inr (by simpa using getLsbD_of_type ht (k := 3) (by decide))
    have hclear : c.flags &&& ~~~(MEM_Str ||| MEM_Blob) = c.flags := by
      rcases ht with ht | ht <;> exact and_not_of_type ht (by decide) (by decide)
    have hself : c.sqlite3VdbeMemNumerify L = c := by
      rw [Mem.sqlite3VdbeMemNumerify_of_number hnum, hclear]
    refine ⟨w, ?_⟩
    unfold sqlite3VdbeMemCast
    rw [run_bind_ok h.run_get_flags, hnull, if_neg (by decide), if_neg (by decide), if_pos rfl,
      run_bind_ok (h.run_sqlite3VdbeMemNumerify_number L hnum), hself, run_pure]
  · have ht : c.type = MEM_Int := List.mem_singleton.mp htype
    have hnull : c.flags.has MEM_Null = false := by
      simpa using getLsbD_of_type ht (k := 0) (by decide)
    have hint : c.flags.has MEM_Int = true := by
      simpa using getLsbD_of_type ht (k := 2) (by decide)
    -- INTEGER writes the integer again.
    obtain ⟨w', hrun, -⟩ := h.run_sqlite3VdbeMemIntegerify L ha
    rw [Mem.ofInt_intValue hint, withTypeFlag_of_type ht] at hrun
    refine ⟨w', ?_⟩
    unfold sqlite3VdbeMemCast
    rw [run_bind_ok h.run_get_flags, hnull, if_neg (by decide), if_neg (by decide),
      if_neg (by decide), if_pos rfl, run_bind_ok hrun, run_pure]
  · have ht : c.type = MEM_Real := List.mem_singleton.mp htype
    have hnull : c.flags.has MEM_Null = false := by
      simpa using getLsbD_of_type ht (k := 0) (by decide)
    have hreal : c.flags.has MEM_Real = true := by
      simpa using getLsbD_of_type ht (k := 3) (by decide)
    -- REAL writes the real again.
    have hself : c.sqlite3VdbeMemRealify L = c := by
      unfold Mem.sqlite3VdbeMemRealify Mem.realValue
      rw [if_pos hreal, withTypeFlag_of_type ht]
      rfl
    refine ⟨.r, ?_⟩
    unfold sqlite3VdbeMemCast
    rw [run_bind_ok h.run_get_flags, hnull, if_neg (by decide), if_neg (by decide),
      if_neg (by decide), if_neg (by decide), if_pos rfl, h.run_sqlite3VdbeMemRealify L ha, hself]

/-- The method stores the implied zeros of a blob, and leaves everything else as it is. -/
theorem At.run_ExpandBlob (h : s.At i c w) {rc : ℕ} {d : Mem} {r' : ρ}
    (hd : c.sqlite3VdbeMemExpandBlob L s.rest = .ok (rc, d, r')) :
    ∃ w', run (strictMachine ρ) (ExpandBlob L i) s =
        .ok (rc, { s.setMem i d w' with rest := r' }) ∧ (Announces c w → Announces d w') := by
  unfold ExpandBlob sqlite3VdbeMemExpandBlob
  rw [run_bind_ok h.run_get_flags]
  split_ifs with hz
  · exact ⟨.foreign, h.run_c_mem hd, fun _ => ⟨fun _ => Or.inr rfl, fun _ => Or.inr rfl⟩⟩
  · unfold Mem.sqlite3VdbeMemExpandBlob at hd
    rw [if_neg hz] at hd
    simp only [Except.ok.injEq, Prod.mk.injEq] at hd
    obtain ⟨rfl, rfl, rfl⟩ := hd
    refine ⟨w, ?_, id⟩
    rw [run_pure, h.setMem_self]

/-- The casts that the method makes as the routine of `vdbemem.c` does. -/
theorem At.run_sqlite3VdbeMemCast (hL : L.Lawful mallocFailed) (hP : L.KeepsPlain)
    (h : s.At i c w) (ha : Announces c w) (hc : c.IsCastable enc) (e : ℕ)
    (haff : aff = SQLITE_AFF_TEXT ∨
      (aff = SQLITE_AFF_NUMERIC ∧ c.flags.has (MEM_Int ||| MEM_Real) = true) ∨
      (aff = SQLITE_AFF_INTEGER ∧ (c.flags.has MEM_Real = true → c.u_r.value < 2^63)) ∨
      aff = SQLITE_AFF_REAL) :
    ∃ c' r' w', c.sqlite3VdbeMemCast L aff e s.rest = .ok (c', r') ∧
      run (strictMachine ρ) (sqlite3VdbeMemCast L mallocFailed i aff e) s =
        .ok ((), { s.setMem i c' w' with rest := r' }) ∧ Announces c' w' := by
  have hnull := hc.notNull
  -- In each case the method and the C routine take the branch of the affinity; the conditions are
  -- where the two branches agree.
  rcases haff with rfl | ⟨rfl, hnum⟩ | ⟨rfl, hlt⟩ | rfl
  · exact h.run_sqlite3VdbeMemCast_text hL hP hc e
  · refine ⟨c.sqlite3VdbeMemNumerify L, s.rest, w, ?_, ?_, ?_⟩
    · unfold Mem.sqlite3VdbeMemCast
      rw [hnull, if_neg (by decide), if_neg (by decide), if_pos rfl]
    · unfold sqlite3VdbeMemCast
      rw [run_bind_ok h.run_get_flags, hnull, if_neg (by decide), if_neg (by decide), if_pos rfl,
        run_bind_ok (h.run_sqlite3VdbeMemNumerify_number L hnum), run_pure]
      rfl
    · rw [Mem.sqlite3VdbeMemNumerify_of_number hnum]
      exact ⟨fun hi => ha.1 (by simpa using hi), fun hr => ha.2 (by simpa using hr)⟩
  · obtain ⟨w', hrun, hw'⟩ := h.run_sqlite3VdbeMemIntegerify L ha
    rw [(intValue_eq_iff L hc.value).mpr hlt] at hrun
    refine ⟨c.sqlite3VdbeMemIntegerify L, s.rest, w', ?_, ?_, ?_⟩
    · unfold Mem.sqlite3VdbeMemCast
      rw [hnull, if_neg (by decide), if_neg (by decide), if_neg (by decide), if_pos rfl]
    · unfold sqlite3VdbeMemCast
      rw [run_bind_ok h.run_get_flags, hnull, if_neg (by decide), if_neg (by decide),
        if_neg (by decide), if_pos rfl, run_bind_ok hrun, run_pure]
      rfl
    · exact ⟨fun _ => hw', fun hr => by simp [Mem.sqlite3VdbeMemIntegerify, withTypeFlag] at hr⟩
  · refine ⟨c.sqlite3VdbeMemRealify L, s.rest, .r, ?_, ?_, ?_⟩
    · unfold Mem.sqlite3VdbeMemCast
      rw [hnull, if_neg (by decide), if_neg (by decide), if_neg (by decide), if_neg (by decide),
        if_pos rfl]
    · unfold sqlite3VdbeMemCast
      rw [run_bind_ok h.run_get_flags, hnull, if_neg (by decide), if_neg (by decide),
        if_neg (by decide), if_neg (by decide), if_pos rfl, h.run_sqlite3VdbeMemRealify L ha]
      rfl
    · exact ⟨fun hi => by simp [Mem.sqlite3VdbeMemRealify, withTypeFlag] at hi, fun _ => Or.inl rfl⟩

end Strict

end SQPyte
