import SQPyte.Library.Comparator
import SQPyte.Mem.Methods
import SQPyte.Mem.Value

/-!
# The sort order of values

`Mem.sqlite3MemCompare` of the Python code against the routine of `vdbeaux.c` it translates. The C
routine compares by a total preorder on every set of values whose numbers are of one kind: the four
classes are told apart first, and within a class there is a comparator (`isComparator_memCompare`).

The translation computes what the C routine computes, except for a number against a text or blob:
there it returns 1 where C returns -1 (`run_sqlite3MemCompare`). So it is the sort order on a set of
values exactly when the set does not hold both a number and a text or blob
(`sqlite3MemCompare_order_iff`).
-/

namespace SQPyte

open Commands Comparator

/-! ## The C routine -/

/-- A collation compares texts by a total preorder. -/
def CollSeq.Lawful (coll : CollSeq) : Prop := IsComparator Set.univ coll.xCmp

/-- A number as a double. -/
def Mem.asReal (c : Mem) : Binary64 :=
  if c.flags.has MEM_Real then c.u_r else Binary64.ofInt c.u_i

/-- The comparison of two numbers: as integers if both are, else as doubles. -/
def numberCompare (a b : Mem) : ℤ :=
  if a.flags.has MEM_Int && b.flags.has MEM_Int then threeWay (a.u_i < b.u_i) (b.u_i < a.u_i)
  else threeWay (a.asReal.lt b.asReal) (b.asReal.lt a.asReal)

/-- The comparison of two texts: by the collation, or as blobs if there is none. -/
def textCompare (coll : Option CollSeq) (a b : Mem) : ℤ :=
  match coll with
  | some coll => vdbeCompareMemString a b coll
  | none => sqlite3BlobCompare a b

/-- The comparison by classes. -/
def classCompare (coll : Option CollSeq) (a b : Mem) : ℤ :=
  match a.storageClass, b.storageClass with
  | .null, .null => 0
  | .null, _ => -1
  | _, .null => 1
  | .number, .number => numberCompare a b
  | .number, _ => -1
  | _, .number => 1
  | .text, .text => textCompare coll a b
  | .text, .blob => -1
  | .blob, .text => 1
  | .blob, .blob => sqlite3BlobCompare a b

/-- The bit as a number. -/
theorem nullBit_eq (f : Flags) : nullBit f = if f.has MEM_Null then 1 else 0 := by
  have h : f &&& 1#16 = if f.has 1#16 then 1#16 else 0#16 := by
    rw [Flags.has_MEM_Null]
    exact BitVec.and_twoPow f 0
  unfold nullBit
  rw [show MEM_Null = 1#16 from rfl, h]
  split_ifs <;> rfl

/-- The C routine compares by classes. -/
theorem c_sqlite3MemCompare_eq (a b : Mem) (coll : Option CollSeq) :
    c_sqlite3MemCompare a b coll = classCompare coll a b := by
  have hand : Flags.has (a.flags &&& b.flags) MEM_Int =
      (a.flags.has MEM_Int && b.flags.has MEM_Int) := Flags.has_and_twoPow _ _ 2 (by decide)
  unfold classCompare c_sqlite3MemCompare Mem.storageClass numberCompare Mem.asReal textCompare
    threeWay
  dsimp only
  rw [hand]
  simp only [nullBit_eq, Flags.has_or_left, Flags.has_or_right]
  cases a.flags.has MEM_Null <;> cases a.flags.has MEM_Int <;> cases a.flags.has MEM_Real <;>
    cases a.flags.has MEM_Str <;> cases b.flags.has MEM_Null <;> cases b.flags.has MEM_Int <;>
    cases b.flags.has MEM_Real <;> cases b.flags.has MEM_Str <;> cases coll <;> simp

/-- Blobs are compared lexicographically. -/
theorem sqlite3BlobCompare_eq {a b : Mem} (ha : (a.bytes.length : ℤ) = a.n)
    (hb : (b.bytes.length : ℤ) = b.n) :
    sqlite3BlobCompare a b = lexCompare (fun x : Byte => (x.toNat : ℤ)) a.bytes b.bytes := by
  have key : ∀ x y : List Byte, (if memcmp x y ≠ 0 then memcmp x y else (x.length : ℤ) - y.length) =
      lexCompare (fun x : Byte => (x.toNat : ℤ)) x y := by
    intro x y
    induction x generalizing y with
    | nil => cases y <;> simp [memcmp, lexCompare]
    | cons u x ih =>
      cases y with
      | nil => simp [memcmp, lexCompare]
      | cons v y =>
        unfold memcmp lexCompare
        by_cases huv : u = v
        · subst huv
          rw [if_pos rfl, if_pos rfl, ← ih]
          simp
        · have hne : (u.toNat : ℤ) ≠ v.toNat := by
            intro h; exact huv (UInt8.toNat_inj.mp (by exact_mod_cast h))
          rw [if_neg huv, if_neg hne, if_pos (by omega)]
  unfold sqlite3BlobCompare
  rw [← key, ha, hb]

/-- Numbers of one kind: all integers, or all reals. -/
def NumbersOfOneKind (S : Set Mem) : Prop :=
  (∀ c ∈ S, c.storageClass = .number → c.flags.has MEM_Int = true) ∨
    (∀ c ∈ S, c.storageClass = .number → c.flags.has MEM_Real = true)

section comparison

variable {enc : ℕ} {coll : Option CollSeq} {S : Set Mem}

/-- The classes are told apart first. -/
theorem classCompare_rank_lt {a b : Mem} (h : a.storageClass.rank < b.storageClass.rank) :
    classCompare coll a b < 0 ∧ 0 < classCompare coll b a := by
  unfold classCompare
  cases ha : a.storageClass <;> cases hb : b.storageClass <;>
    simp_all [StorageClass.rank]

/-- Blobs are ordered. -/
theorem isComparator_blob (hS : ∀ c ∈ S, (c.bytes.length : ℤ) = c.n) :
    IsComparator S sqlite3BlobCompare :=
  ((isComparator_lex fun x : Byte => (x.toNat : ℤ)).comap Mem.bytes fun _ _ => Set.mem_univ _).congr
    fun a ha b hb => sqlite3BlobCompare_eq (hS a ha) (hS b hb)

/-- Texts in the encoding of the database are compared by a total preorder. -/
theorem isComparator_text (hcoll : ∀ c ∈ coll, c.Lawful) (henc : ∀ c ∈ S, c.enc = enc)
    (hS : ∀ c ∈ S, (c.bytes.length : ℤ) = c.n) : IsComparator S (textCompare coll) := by
  cases coll with
  | none => exact isComparator_blob hS
  | some coll =>
    have hlaw : IsComparator Set.univ coll.xCmp := hcoll coll rfl
    by_cases he : enc = coll.enc
    · refine (hlaw.comap Mem.bytes fun _ _ => Set.mem_univ _).congr fun a ha b _ => ?_
      show vdbeCompareMemString a b coll = _
      exact if_pos ((henc a ha).trans he)
    · refine (hlaw.comap coll.convert fun _ _ => Set.mem_univ _).congr fun a ha b _ => ?_
      show vdbeCompareMemString a b coll = _
      exact if_neg (by rw [henc a ha]; exact he)

/-- The comparison of numbers changes its sign with the order of the arguments. -/
theorem numberCompare_antisymmetric : Antisymmetric S numberCompare := by
  intro a _ b _
  unfold numberCompare threeWay
  by_cases hint : a.flags.has MEM_Int = true ∧ b.flags.has MEM_Int = true
  · simp only [hint, Bool.and_self, ↓reduceIte, decide_eq_true_eq]
    rcases lt_trichotomy a.u_i b.u_i with h | h | h
    · simp [h, h.not_gt]
    · simp [h]
    · simp [h, h.not_gt]
  · have hint' : ¬ (b.flags.has MEM_Int = true ∧ a.flags.has MEM_Int = true) := by tauto
    simp only [Bool.and_eq_true, hint, hint', ↓reduceIte]
    by_cases hab : a.asReal.lt b.asReal = true
    · simp [hab, Binary64.lt_asymm hab]
    · by_cases hba : b.asReal.lt a.asReal = true
      · simp [hab, hba]
      · simp [hab, hba]

/-- Integers among themselves, and reals among themselves, are compared by a total preorder. -/
theorem isComparator_number (hS : ∀ c ∈ S, c.IsValue enc)
    (hkind : (∀ c ∈ S, c.flags.has MEM_Int = true) ∨ ∀ c ∈ S, c.flags.has MEM_Real = true) :
    IsComparator S numberCompare := by
  rcases hkind with hint | hreal
  · refine (isComparator_key S Mem.u_i).congr fun a ha b hb => ?_
    unfold numberCompare
    rw [if_pos (by rw [hint a ha, hint b hb]; rfl)]
  · refine (isComparator_key S fun c => c.u_r.key).congr fun a ha b hb => ?_
    have hint : ∀ c ∈ S, c.flags.has MEM_Int = false := fun c hc => by
      by_contra h
      exact (hS c hc).int_real ⟨by simpa using h, hreal c hc⟩
    have hlt : ∀ c ∈ S, ∀ d ∈ S, c.asReal.lt d.asReal = decide (c.u_r.key < d.u_r.key) := by
      intro c hc d hd
      unfold Mem.asReal
      rw [if_pos (hreal c hc), if_pos (hreal d hd), Bool.eq_iff_iff, decide_eq_true_eq]
      exact Binary64.lt_iff ((hS c hc).real (hreal c hc)) ((hS d hd).real (hreal d hd))
    unfold numberCompare
    rw [if_neg (by rw [hint a ha]; simp), hlt a ha b hb, hlt b hb a ha]

/-- The class with a given rank. -/
def classOfRank : ℕ → StorageClass
  | 0 => .null
  | 1 => .number
  | 2 => .text
  | _ => .blob

/-- The cells of a rank are of one class. -/
theorem rank_subset (S : Set Mem) (r : ℕ) :
    {c ∈ S | c.storageClass.rank = r} ⊆ {c ∈ S | c.storageClass = classOfRank r} := by
  rintro c ⟨hc, rfl⟩
  refine ⟨hc, ?_⟩
  cases c.storageClass <;> rfl

/-- Within a class that is not the numbers, the comparison is a total preorder. -/
theorem isComparator_class (hcoll : ∀ c ∈ coll, c.Lawful) (hS : ∀ c ∈ S, c.IsValue enc)
    {k : StorageClass} (hk : k ≠ .number) :
    IsComparator {c ∈ S | c.storageClass = k} (classCompare coll) := by
  have hlen : ∀ c ∈ S, (c.flags.has MEM_Str || c.flags.has MEM_Blob) = true →
      (c.bytes.length : ℤ) = c.n := fun c hc h => (hS c hc).length_bytes h
  cases k with
  | number => exact absurd rfl hk
  | null =>
    refine (isComparator_key _ fun _ : Mem => (0 : ℤ)).congr fun a ha b hb => ?_
    unfold classCompare
    rw [ha.2, hb.2]
    rfl
  | text =>
    have hstr : ∀ c ∈ {c ∈ S | c.storageClass = .text}, c.flags.has MEM_Str = true := fun c hc =>
      (Mem.storageClass_eq_text.mp hc.2).2.2.2
    refine (isComparator_text hcoll (fun c hc => (hS c hc.1).enc_eq (hstr c hc))
      fun c hc => hlen c hc.1 (by rw [hstr c hc]; rfl)).congr fun a ha b hb => ?_
    unfold classCompare
    rw [ha.2, hb.2]
  | blob =>
    have hblob : ∀ c ∈ {c ∈ S | c.storageClass = .blob}, c.flags.has MEM_Blob = true := by
      intro c hc
      obtain ⟨h0, h1, h2, h3⟩ := Mem.storageClass_eq_blob.mp hc.2
      have := (hS c hc.1).nonempty
      simpa only [h0, h1, h2, h3, Bool.false_or] using this
    refine (isComparator_blob fun c hc => hlen c hc.1 (by rw [hblob c hc, Bool.or_true])).congr
      fun a ha b hb => ?_
    unfold classCompare
    rw [ha.2, hb.2]

/-- Two numbers are compared as numbers. -/
theorem classCompare_number {a b : Mem} (ha : a.storageClass = .number)
    (hb : b.storageClass = .number) : classCompare coll a b = numberCompare a b := by
  unfold classCompare
  rw [ha, hb]

/-- On values, the comparison changes its sign with the order of the arguments. -/
theorem classCompare_antisymmetric (hcoll : ∀ c ∈ coll, c.Lawful) (hS : ∀ c ∈ S, c.IsValue enc) :
    Antisymmetric S (classCompare coll) := by
  refine antisymmetric_of_rank (fun c => c.storageClass.rank)
    (fun a _ b _ h => classCompare_rank_lt h) fun r a ha b hb => ?_
  have ha' := rank_subset S r ha
  have hb' := rank_subset S r hb
  by_cases hk : classOfRank r = .number
  · have hna := ha'.2.trans hk
    have hnb := hb'.2.trans hk
    rw [classCompare_number hna hnb, classCompare_number hnb hna]
    exact numberCompare_antisymmetric a ha'.1 b hb'.1
  · exact (isComparator_class hcoll hS hk).anti a ha' b hb'

/-- On values whose numbers are of one kind, the comparison is a total preorder. -/
theorem isComparator_classCompare (hcoll : ∀ c ∈ coll, c.Lawful) (hS : ∀ c ∈ S, c.IsValue enc)
    (hkind : NumbersOfOneKind S) : IsComparator S (classCompare coll) := by
  refine IsComparator.of_rank (fun c => c.storageClass.rank)
    (fun a _ b _ h => classCompare_rank_lt h) fun r => ?_
  refine IsComparator.mono ?_ (rank_subset S r)
  by_cases hk : classOfRank r = .number
  · rw [hk]
    refine (isComparator_number (fun c hc => hS c hc.1) ?_).congr fun a ha b hb =>
      classCompare_number ha.2 hb.2
    rcases hkind with h | h
    · exact Or.inl fun c hc => h c hc.1 hc.2
    · exact Or.inr fun c hc => h c hc.1 hc.2
  · exact isComparator_class hcoll hS hk

end comparison

/-! ## The Python method -/

/-- What the Python method returns for the cells `a` and `b`. -/
def methodCompare (coll : Option CollSeq) (a b : Mem) : ℤ :=
  if a.storageClass = .number ∧ (b.storageClass = .text ∨ b.storageClass = .blob) then 1
  else classCompare coll a b

variable {ρ : Type} {s : Strict ρ} {i j : ℕ} {a b : Mem} {wa wb : Member}

/-- The number of a cell, read as a double. -/
theorem run_get_number (hi : s.At i a wa) (hwa : Announces a wa)
    (ha : a.flags.has MEM_Int = true ∨ a.flags.has MEM_Real = true) :
    run (strictMachine ρ) (get_number i a.flags) s = .ok (a.asReal, s) := by
  unfold get_number Mem.asReal
  by_cases hr : a.flags.has MEM_Real = true
  · rw [if_pos hr, if_pos hr, hi.run_get_u_r hr (hwa.2 hr)]
  · have hint := ha.resolve_right hr
    rw [if_neg hr, if_neg hr, map_eq_pure_bind, run_bind_ok (hi.run_get_u_i hint (hwa.1 hint)),
      run_pure]

/-- On the cells alone, the method returns this and leaves everything as it was. -/
theorem run_sqlite3MemCompare (coll : Option CollSeq) (hi : s.At i a wa) (hj : s.At j b wb)
    (hwa : Announces a wa) (hwb : Announces b wb) :
    run (strictMachine ρ) (sqlite3MemCompare i j coll) s = .ok (methodCompare coll a b, s) := by
  have hand : Flags.has (a.flags &&& b.flags) MEM_Int =
      (a.flags.has MEM_Int && b.flags.has MEM_Int) := Flags.has_and_twoPow _ _ 2 (by decide)
  have hnum : ∀ c : Mem, (!c.flags.has MEM_Real && !c.flags.has MEM_Int) = true ↔
      ¬ (c.flags.has MEM_Int = true ∨ c.flags.has MEM_Real = true) := by
    intro c
    cases c.flags.has MEM_Int <;> cases c.flags.has MEM_Real <;> simp
  unfold sqlite3MemCompare methodCompare
  rw [run_bind_ok hi.run_get_flags, run_bind_ok hj.run_get_flags, ← c_sqlite3MemCompare_eq]
  dsimp only
  -- A NULL decides the comparison at once, as in C.
  by_cases hnull : Flags.has (a.flags ||| b.flags) MEM_Null = true
  · have hmixed : ¬ (a.storageClass = .number ∧
        (b.storageClass = .text ∨ b.storageClass = .blob)) := by
      rw [Flags.has_or_left, Bool.or_eq_true] at hnull
      rintro ⟨ha, hb⟩
      have hna := (Mem.storageClass_eq_number.mp ha).1
      have hnb : b.flags.has MEM_Null = false := by
        rcases hb with hb | hb
        · exact (Mem.storageClass_eq_text.mp hb).1
        · exact (Mem.storageClass_eq_blob.mp hb).1
      rw [hna, hnb] at hnull
      simp at hnull
    rw [if_pos hnull, run_pure, if_neg hmixed]
    unfold c_sqlite3MemCompare
    dsimp only
    rw [if_pos hnull]
  have hnn : a.flags.has MEM_Null = false ∧ b.flags.has MEM_Null = false := by
    simpa only [Flags.has_or_left, Bool.or_eq_true, not_or, Bool.not_eq_true] using hnull
  -- Without a NULL the flag tests of the method decide the storage classes.
  have hclass : ∀ c : Mem, c.flags.has MEM_Null = false → (c.storageClass = .number ↔
      (c.flags.has MEM_Int = true ∨ c.flags.has MEM_Real = true)) := fun c hc =>
    ⟨fun h => (Mem.storageClass_eq_number.mp h).2, fun h => Mem.storageClass_eq_number.mpr ⟨hc, h⟩⟩
  have hclass' : b.storageClass = .text ∨ b.storageClass = .blob ↔
      ¬ (b.flags.has MEM_Int = true ∨ b.flags.has MEM_Real = true) := by
    rw [← hclass b hnn.2]
    have hb0 : b.storageClass ≠ .null := by
      rw [Ne, Mem.storageClass_eq_null, hnn.2]; simp
    cases hb : b.storageClass <;> simp_all
  -- The test on the union of the flags asks whether either operand is a number.
  have hcomb : Flags.has (a.flags ||| b.flags) (MEM_Int ||| MEM_Real) = true ↔
      (a.flags.has MEM_Int = true ∨ a.flags.has MEM_Real = true) ∨
        (b.flags.has MEM_Int = true ∨ b.flags.has MEM_Real = true) := by
    rw [Flags.has_or_left, Flags.has_or_right, Flags.has_or_right]
    simp only [Bool.or_eq_true]
  rw [if_neg hnull]
  simp only [hclass a hnn.1, hclass']
  by_cases hA : a.flags.has MEM_Int = true ∨ a.flags.has MEM_Real = true
  · rw [if_pos (hcomb.mpr (Or.inl hA))]
    by_cases hB : b.flags.has MEM_Int = true ∨ b.flags.has MEM_Real = true
    · -- Two numbers.
      rw [if_neg (show ¬ (_ ∧ ¬ _) from fun h => h.2 hB), c_sqlite3MemCompare_eq,
        classCompare_number ((hclass a hnn.1).mpr hA) ((hclass b hnn.2).mpr hB)]
      unfold numberCompare threeWay
      rw [hand]
      -- Two integers are compared as integers, any other two numbers as doubles.
      by_cases hints : (a.flags.has MEM_Int && b.flags.has MEM_Int) = true
      · have hab := Bool.and_eq_true_iff.mp hints
        rw [if_pos hints, if_pos hints, run_bind_ok (hi.run_get_u_i hab.1 (hwa.1 hab.1)),
          run_bind_ok (hj.run_get_u_i hab.2 (hwb.1 hab.2)), run_pure]
        simp only [decide_eq_true_eq, gt_iff_lt]
      · rw [if_neg hints, if_neg hints, if_neg (by rw [hnum]; exact not_not.mpr hA),
          run_bind_ok (run_get_number hi hwa hA), if_neg (by rw [hnum]; exact not_not.mpr hB),
          run_bind_ok (run_get_number hj hwb hB), run_pure]
    · -- A number against a text or blob: this is where the two differ.
      have hints : ¬ Flags.has (a.flags &&& b.flags) MEM_Int = true := by
        rw [hand, Bool.and_eq_true]
        exact fun h => hB (Or.inl h.2)
      rw [if_neg hints, if_neg (by rw [hnum]; exact not_not.mpr hA),
        run_bind_ok (run_get_number hi hwa hA), if_pos ((hnum b).mpr hB), run_pure,
        if_pos (And.intro hA hB)]
  · rw [if_neg (show ¬ (_ ∧ ¬ _) from fun h => hA h.1)]
    -- The first operand is a text or a blob: a number comes before it, and two of them go to the C
    -- routine.
    by_cases hB : b.flags.has MEM_Int = true ∨ b.flags.has MEM_Real = true
    · have hints : ¬ Flags.has (a.flags &&& b.flags) MEM_Int = true := by
        rw [hand, Bool.and_eq_true]
        exact fun h => hA (Or.inl h.1)
      unfold c_sqlite3MemCompare
      dsimp only
      rw [if_pos (hcomb.mpr (Or.inr hB)), if_neg hints, if_pos ((hnum a).mpr hA), run_pure,
        if_neg hnull, if_pos (hcomb.mpr (Or.inr hB)), if_neg hints, if_pos ((hnum a).mpr hA)]
    · have hno : ¬ Flags.has (a.flags ||| b.flags) (MEM_Int ||| MEM_Real) = true := fun h =>
        (hcomb.mp h).elim hA hB
      rw [if_neg hno, run_bind_ok hi.run_invalidate_cache, run_bind_ok hj.run_invalidate_cache,
        run_bind_ok (hi.run_peek _), run_bind_ok (hj.run_peek _), run_pure]
      rfl

/-- The answer of `sqlite3MemCompare` for the cells `i` and `j` of a machine. -/
def compareResult (m : Machine ρ) (coll : Option CollSeq) (i j : ℕ) : Except Exc ℤ :=
  (run (machine ρ) (sqlite3MemCompare i j coll) m).map Prod.fst

/-- What the method returns, whatever the cache knows. -/
theorem compareResult_eq {m : Machine ρ} (hm : m.Sound) (coll : Option CollSeq)
    (hi : m.mems[i]? = some a) (hj : m.mems[j]? = some b) :
    compareResult m coll i j = .ok (methodCompare coll a b) := by
  obtain ⟨written, hR, hann⟩ := hm
  have hrun := run_sqlite3MemCompare (s := m.strict written) coll ⟨hi, rfl⟩ ⟨hj, rfl⟩ (hann i a hi)
    (hann j b hj)
  obtain ⟨m', hm', -⟩ := run_machine_of_strict hR hrun
  unfold compareResult
  rw [hm']
  rfl

/-! ## The sort order -/

/-- The cells with numbers in `S`. -/
def Machine.cells (m : Machine ρ) (S : Set ℕ) : Set Mem := {c | ∃ i ∈ S, m.mems[i]? = some c}

/-- On the cells `S`, the answers `cmp` of `sqlite3MemCompare` are those of the sort order. -/
structure IsSortOrder (m : Machine ρ) (coll : Option CollSeq) (S : Set ℕ) (cmp : ℕ → ℕ → ℤ) :
    Prop where
  /-- These are the answers. -/
  result : ∀ i ∈ S, ∀ j ∈ S, compareResult m coll i j = .ok (cmp i j)
  /-- The sign changes with the order of the arguments. -/
  antisymmetric : Antisymmetric S cmp
  /-- NULL comes before numbers, numbers before texts, and texts before blobs. -/
  classes : ∀ i ∈ S, ∀ j ∈ S, ∀ a b, m.mems[i]? = some a → m.mems[j]? = some b →
    a.storageClass.rank < b.storageClass.rank → cmp i j < 0
  /-- Values whose numbers are all integers, or all reals, are compared by a total preorder. -/
  preorder : ∀ T ⊆ S, NumbersOfOneKind (m.cells T) → IsComparator T cmp
  /-- The sign is that of the C routine. -/
  agrees : ∀ i ∈ S, ∀ j ∈ S, ∀ a b, m.mems[i]? = some a → m.mems[j]? = some b →
    (cmp i j).sign = (c_sqlite3MemCompare a b coll).sign

/-- `sqlite3MemCompare` is the sort order of the values in the cells `S`. -/
def SortOrder (m : Machine ρ) (coll : Option CollSeq) (S : Set ℕ) : Prop :=
  ∃ cmp, IsSortOrder m coll S cmp

/-- Some cell of `S` holds a number and some cell a text or a blob. -/
def Mixes (m : Machine ρ) (S : Set ℕ) : Prop :=
  (∃ a ∈ m.cells S, a.storageClass = .number) ∧
    ∃ b ∈ m.cells S, b.storageClass = .text ∨ b.storageClass = .blob

/-- `sqlite3MemCompare` is the sort order on the values in a set of cells exactly when these are not
both a number and a text or blob. -/
theorem sqlite3MemCompare_order_iff (m : Machine ρ) (hm : m.Sound) (coll : Option CollSeq)
    (hcoll : ∀ c ∈ coll, c.Lawful) (enc : ℕ) (S : Set ℕ)
    (hS : ∀ i ∈ S, ∃ c, m.mems[i]? = some c ∧ c.IsValue enc) :
    SortOrder m coll S ↔ ¬ Mixes m S := by
  constructor
  · -- A number and a text or blob compare as greater, against the order of the classes.
    rintro ⟨cmp, h⟩ ⟨⟨a, ⟨i, hi, ha⟩, hna⟩, b, ⟨j, hj, hb⟩, hnb⟩
    have hres := h.result i hi j hj
    rw [compareResult_eq hm coll ha hb, methodCompare, if_pos ⟨hna, hnb⟩] at hres
    have hcmp : cmp i j = 1 := (Except.ok.inj hres).symm
    have := h.classes i hi j hj a b ha hb (by rcases hnb with hnb | hnb <;> rw [hna, hnb] <;> decide)
    omega
  · intro hmix
    -- Without such a pair the method is the C routine, which is an order.
    obtain ⟨cell, hcell⟩ : ∃ cell : ℕ → Mem, ∀ i ∈ S, m.mems[i]? = some (cell i) := by
      refine ⟨fun i => m.mems.getD i Mem.ofNull, fun i hi => ?_⟩
      obtain ⟨c, hc, -⟩ := hS i hi
      simp [hc]
    have hval : ∀ i ∈ S, (cell i).IsValue enc := by
      intro i hi
      obtain ⟨c, hc, hv⟩ := hS i hi
      rw [hcell i hi] at hc
      exact Option.some.inj hc ▸ hv
    have hsame : ∀ i ∈ S, ∀ j ∈ S, methodCompare coll (cell i) (cell j) =
        classCompare coll (cell i) (cell j) := by
      intro i hi j hj
      exact if_neg fun h => hmix ⟨⟨_, ⟨i, hi, hcell i hi⟩, h.1⟩, _, ⟨j, hj, hcell j hj⟩, h.2⟩
    refine ⟨fun i j => classCompare coll (cell i) (cell j), ?_, ?_, ?_, ?_, ?_⟩
    · intro i hi j hj
      rw [compareResult_eq hm coll (hcell i hi) (hcell j hj), hsame i hi j hj]
    · intro i hi j hj
      exact classCompare_antisymmetric (S := {c | c.IsValue enc}) hcoll (fun _ h => h) _ (hval i hi)
        _ (hval j hj)
    · intro i hi j hj a b ha hb hlt
      obtain rfl := Option.some.inj ((hcell i hi).symm.trans ha)
      obtain rfl := Option.some.inj ((hcell j hj).symm.trans hb)
      exact (classCompare_rank_lt hlt).1
    · intro T hT hkind
      have hTv : ∀ c ∈ m.cells T, c.IsValue enc := by
        rintro c ⟨i, hi, hc⟩
        rw [hcell i (hT hi)] at hc
        exact Option.some.inj hc ▸ hval i (hT hi)
      exact (isComparator_classCompare hcoll hTv hkind).comap cell fun i hi =>
        ⟨i, hi, hcell i (hT hi)⟩
    · intro i hi j hj a b ha hb
      obtain rfl := Option.some.inj ((hcell i hi).symm.trans ha)
      obtain rfl := Option.some.inj ((hcell j hj).symm.trans hb)
      rw [c_sqlite3MemCompare_eq]

/-- The collation `BINARY`. -/
def CollSeq.binary : CollSeq where
  enc := SQLITE_UTF8
  xCmp := lexCompare fun x : Byte => (x.toNat : ℤ)
  convert := Mem.bytes

/-- The binary collation is lawful. -/
theorem CollSeq.lawful_binary : CollSeq.binary.Lawful := isComparator_lex _

/-- The order of NULL and two integers. -/
theorem sqlite3MemCompare_order_integers :
    SortOrder (Machine.fresh [Mem.ofNull, Mem.ofInt 1, Mem.ofInt (-1)] 2 ()) (some CollSeq.binary)
      {0, 1, 2} := by
  refine (sqlite3MemCompare_order_iff _ (Machine.Sound.fresh _ _ _) (some CollSeq.binary) ?_
    SQLITE_UTF8 _ ?_).mpr ?_
  · rintro c ⟨⟩
    exact CollSeq.lawful_binary
  · rintro i (rfl | rfl | rfl)
    · exact ⟨_, rfl, Mem.isValue_ofNull⟩
    · exact ⟨_, rfl, Mem.isValue_ofInt 1⟩
    · exact ⟨_, rfl, Mem.isValue_ofInt (-1)⟩
  · rintro ⟨-, b, ⟨i, (rfl | rfl | rfl), hb⟩, hclass⟩
    all_goals
      obtain rfl := Option.some.inj hb
      revert hclass
      decide

/-- The cells of the failing comparison: the integer 1 and the text `a`. -/
def numberAndText : Machine Unit := Machine.fresh [Mem.ofInt 1, Mem.ofText [97]] 1 ()

/-- The integer 1 against the text `a` gives 1 in both orders, so the number is not before the
text. -/
theorem sqlite3MemCompare_number_text :
    numberAndText.Sound ∧
      (∀ i ∈ ({0, 1} : Set ℕ), ∃ c, numberAndText.mems[i]? = some c ∧ c.IsValue SQLITE_UTF8) ∧
      compareResult numberAndText none 0 1 = .ok 1 ∧ compareResult numberAndText none 1 0 = .ok 1 ∧
      ¬ SortOrder numberAndText none {0, 1} := by
  have h01 : compareResult numberAndText none 0 1 = .ok 1 := rfl
  have h10 : compareResult numberAndText none 1 0 = .ok 1 := rfl
  refine ⟨Machine.Sound.fresh _ _ _, ?_, h01, h10, ?_⟩
  · rintro i (rfl | rfl)
    · exact ⟨_, rfl, Mem.isValue_ofInt 1⟩
    · exact ⟨_, rfl, Mem.isValue_ofText [97]⟩
  · rintro ⟨cmp, h⟩
    have hcmp := h.result 0 (by simp) 1 (by simp)
    have := h.classes 0 (by simp) 1 (by simp) _ _ rfl rfl (by decide)
    rw [h01, Except.ok.injEq] at hcmp
    omega

end SQPyte
