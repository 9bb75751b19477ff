import Mathlib.Tactic.IntervalCases
import SQPyte.Mem.Value

/-!
# Allocation

What the allocating routines of `vdbemem.c` leave, as long as memory lasts: `sqlite3VdbeMemGrow`
gives a cell its own allocation of the size asked for and keeps the value if it is told to
(`sqlite3VdbeMemGrow_spec`), `sqlite3VdbeMemExpandBlob` stores the implied zeros of a blob
(`sqlite3VdbeMemExpandBlob_spec`), and `sqlite3VdbeMemStringify` turns a number into a text
(`sqlite3VdbeMemStringify_spec`).
-/

namespace SQPyte

variable {ρ : Type}

/-- What the routines rely on. Memory lasts, so that `mallocFailed` stays as it is; the numbers are
printed into a buffer of 32 bytes; and the translation of a text keeps its type. -/
structure CLib.Lawful (L : CLib ρ) (mallocFailed : ρ → Bool) : Prop where
  /-- A block of at least the requested size is there. -/
  malloc : ∀ n r, ∃ block r', L.malloc n r = (some block, r') ∧ n ≤ block.length ∧
    mallocFailed r' = mallocFailed r
  /-- No destructor runs out of memory. -/
  destroy : ∀ p r, mallocFailed (L.destroy p r) = mallocFailed r
  /-- A printed integer fits the buffer. -/
  printInt : ∀ v, (L.printInt v).length < 32
  /-- A printed real fits the buffer. -/
  printReal : ∀ x, (L.printReal x).length < 32
  /-- A translated text is a text with an allocation of its own. -/
  translate : ∀ enc p r, p.flags.has MEM_Str = true → p.flags.has MEM_Zero = false →
    p.szMalloc = p.zMalloc.length →
      (L.translate enc p r).1.flags &&& (MEM_AffMask ||| MEM_Zero) = p.flags &&& MEM_AffMask ∧
      (L.translate enc p r).1.szMalloc = (L.translate enc p r).1.zMalloc.length ∧
      mallocFailed (L.translate enc p r).2 = mallocFailed r

/-- The library with decimal numbers is lawful. -/
theorem CLib.lawful_decimal : CLib.decimal.Lawful fun _ => false where
  malloc n r := ⟨_, r, rfl, by rw [List.length_replicate], rfl⟩
  destroy _ _ := rfl
  printInt v := by
    simp only [CLib.decimal, List.length_take]
    omega
  printReal x := by
    simp only [CLib.decimal, List.length_take]
    omega
  translate enc p r hs hz ha := by
    refine ⟨?_, ha, rfl⟩
    show p.flags &&& (MEM_AffMask ||| MEM_Zero) = p.flags &&& MEM_AffMask
    have h14 : p.flags.getLsbD 14 = false := by simpa using hz
    ext k hk
    simp only [MEM_AffMask, MEM_Zero, BitVec.getElem_and, BitVec.getElem_or]
    interval_cases k <;> simp_all

/-- What the routines rely on when memory can run out: a block is as large as requested, a printed
number fits its buffer, and a translation of a text changes nothing of the number next to it. -/
structure CLib.Fits (L : CLib ρ) : Prop where
  /-- A block is as large as requested. -/
  malloc : ∀ n r block r', L.malloc n r = (some block, r') → n ≤ block.length
  /-- A printed integer fits the buffer. -/
  printInt : ∀ v, (L.printInt v).length < 32
  /-- A printed real fits the buffer. -/
  printReal : ∀ x, (L.printReal x).length < 32
  /-- A translated text is a number only if it was one. -/
  translate : ∀ enc p r, p.flags.has (MEM_Int ||| MEM_Real) = false →
    (L.translate enc p r).1.flags.has (MEM_Int ||| MEM_Real) = false

/-- The part of this that says how much room there is. -/
structure CLib.Sized (L : CLib ρ) : Prop where
  /-- A block is as large as requested. -/
  malloc : ∀ n r block r', L.malloc n r = (some block, r') → n ≤ block.length
  /-- A printed integer fits the buffer. -/
  printInt : ∀ v, (L.printInt v).length < 32
  /-- A printed real fits the buffer. -/
  printReal : ∀ x, (L.printReal x).length < 32

/-- A library that fits is sized. -/
theorem CLib.Fits.sized {L : CLib ρ} (hL : L.Fits) : L.Sized :=
  ⟨hL.malloc, hL.printInt, hL.printReal⟩

/-- So is one that is lawful. -/
theorem CLib.Lawful.sized {L : CLib ρ} {mallocFailed : ρ → Bool} (hL : L.Lawful mallocFailed) :
    L.Sized := by
  refine ⟨fun n r block r' h => ?_, hL.printInt, hL.printReal⟩
  obtain ⟨block₁, r₁, hblock, hsize, -⟩ := hL.malloc n r
  rw [h] at hblock
  obtain rfl := Option.some.inj (Prod.mk.inj hblock).1
  exact hsize

/-- From the state `r` to `r'` by at most one request for memory and then at most one destructor. -/
def CLib.Allocates (L : CLib ρ) (r r' : ρ) : Prop :=
  ∃ r₁, (r₁ = r ∨ ∃ n, r₁ = (L.malloc n r).2) ∧ (r' = r₁ ∨ ∃ p, r' = L.destroy p r₁)

/-- Allocations that succeed leave the flag alone. -/
theorem CLib.Lawful.allocates {L : CLib ρ} {mallocFailed : ρ → Bool} (hL : L.Lawful mallocFailed)
    {r r' : ρ} (h : L.Allocates r r') : mallocFailed r' = mallocFailed r := by
  obtain ⟨r₁, h₁, h₂⟩ := h
  have hlast : mallocFailed r₁ = mallocFailed r := by
    rcases h₁ with rfl | ⟨n, rfl⟩
    · rfl
    · obtain ⟨block, r₂, hblock, -, hr₂⟩ := hL.malloc n r
      rw [hblock]
      exact hr₂
  rcases h₂ with rfl | ⟨p, rfl⟩
  · exact hlast
  · exact (hL.destroy p r₁).trans hlast

/-- The library with decimal numbers fits. -/
theorem CLib.fits_decimal : CLib.decimal.Fits where
  malloc n r block r' h := by
    simp only [CLib.decimal, Prod.mk.injEq, Option.some.injEq] at h
    rw [← h.1, List.length_replicate]
  printInt := CLib.lawful_decimal.printInt
  printReal := CLib.lawful_decimal.printReal
  translate _ _ _ h := h

namespace Mem

variable {L : CLib ρ} {mallocFailed : ρ → Bool} {enc : ℕ} {c : Mem}

/-! ## `sqlite3VdbeMemGrow` -/

/-- The cell `c'` is `c` with an allocation of its own of at least `n` bytes. -/
structure Grown (c c' : Mem) (n : ℤ) (bPreserve : Bool) : Prop where
  /-- The value is in the allocation. -/
  z : c'.z = .own
  /-- The size of the allocation is recorded. -/
  alloc : c'.szMalloc = c'.zMalloc.length
  /-- The allocation is large enough. -/
  size : n ≤ c'.szMalloc
  /-- The value is in no other place. -/
  flags : c'.flags = c.flags &&& ~~~(MEM_Dyn ||| MEM_Ephem ||| MEM_Static)
  /-- The union stays. -/
  u : c'.u = c.u
  /-- The length stays. -/
  n_eq : c'.n = c.n
  /-- The encoding stays. -/
  enc : c'.enc = c.enc
  /-- The value is kept if that was asked for. -/
  bytes : bPreserve = true → c'.bytes = c.bytes

/-- The end of `sqlite3VdbeMemGrow` in a cell with an allocation that is large enough. -/
theorem growFinish_spec (L : CLib ρ) (ha : c.szMalloc = c.zMalloc.length) (n : ℤ)
    (bPreserve copy : Bool) (hn : n ≤ c.szMalloc) (hp : bPreserve = true →
      (c.z = .own ∨ copy = true) ∧ c.n.toNat ≤ c.buffer.length ∧ c.n ≤ n)
    (hcopy : copy = true → bPreserve = true) (r : ρ) :
    ∃ c', c.growFinish L copy r =
      .ok (c', if c.flags.has MEM_Dyn then L.destroy c r else r) ∧ Grown c c' n bPreserve := by
  unfold growFinish
  cases hz : c.z with
  | null =>
    refine ⟨_, rfl, rfl, ha, hn, rfl, rfl, rfl, rfl, fun hb => ?_⟩
    have hlen : c.n.toNat ≤ 0 := by simpa [buffer, hz] using (hp hb).2.1
    simp [bytes, Nat.le_zero.mp hlen]
  | own =>
    refine ⟨_, rfl, rfl, ha, hn, rfl, rfl, rfl, rfl, fun _ => ?_⟩
    simp [bytes, buffer, hz]
  | ext z =>
    cases copy with
    | false =>
      refine ⟨_, rfl, rfl, ha, hn, rfl, rfl, rfl, rfl, fun hb => ?_⟩
      simpa [hz] using (hp hb).1
    | true =>
      obtain ⟨-, hlen, hle⟩ := hp (hcopy rfl)
      have hlen : c.n.toNat ≤ z.length := by simpa [buffer, hz] using hlen
      have hfit : c.n.toNat ≤ c.zMalloc.length := by omega
      simp only [↓reduceIte]
      rw [if_pos ⟨hlen, hfit⟩]
      refine ⟨_, rfl, rfl, ?_, ?_, rfl, rfl, rfl, rfl, fun _ => ?_⟩
      · simp only [List.length_append, List.length_take, List.length_drop]; omega
      · simpa using hn
      · simp only [bytes, buffer, hz]
        rw [List.take_append_of_le_length (by simp [hlen]), List.take_take, Nat.min_self]

/-- The allocation that `sqlite3VdbeMemGrow` gets from a block: the value is in it already, or still
to be copied. -/
theorem growAlloc_spec {block : List Byte} {n : ℕ} {r r' : ρ}
    (hblock : L.malloc n r = (some block, r')) (hsize : n ≤ block.length)
    (ha : c.szMalloc = c.zMalloc.length) (hlt : c.szMalloc < n) (bPreserve : Bool)
    (hp : bPreserve = true → c.n.toNat ≤ c.buffer.length) :
    ∃ p copy, c.growAlloc L n bPreserve r = (some (p, copy), r') ∧
      p.szMalloc = p.zMalloc.length ∧ n ≤ p.szMalloc ∧
      (p.flags = c.flags ∧ p.u = c.u ∧ p.n = c.n ∧ p.enc = c.enc) ∧
      (copy = true → bPreserve = true) ∧
      (bPreserve = true → (p.z = .own ∨ copy = true) ∧ c.n.toNat ≤ p.buffer.length ∧
        p.bytes = c.bytes) := by
  unfold growAlloc
  rw [hblock]
  dsimp only
  by_cases hre : (bPreserve && decide (c.szMalloc > 0) && c.z == .own) = true
  · -- The old allocation is extended, and the value stays at its start.
    rw [hre]
    simp only [Bool.and_eq_true, decide_eq_true_eq, beq_iff_eq] at hre
    obtain ⟨⟨rfl, -⟩, hz⟩ := hre
    have hlen : c.n.toNat ≤ c.zMalloc.length := by simpa [buffer, hz] using hp rfl
    simp only [↓reduceIte, Bool.not_true, Bool.and_false]
    refine ⟨_, _, rfl, rfl, ?_, ⟨rfl, rfl, rfl, rfl⟩, by simp,
      fun _ => ⟨Or.inl rfl, ?_, ?_⟩⟩
    · simp only [List.length_append, List.length_take, List.length_drop]; omega
    · simp only [buffer, List.length_append, List.length_take, List.length_drop]; omega
    · simp only [bytes, buffer, hz]
      rw [List.take_of_length_le (show c.zMalloc.length ≤ block.length by omega),
        List.take_append_of_le_length hlen]
  · rw [Bool.not_eq_true] at hre
    rw [hre]
    simp only [Bool.false_eq_true, ↓reduceIte, Bool.not_false, Bool.and_true]
    refine ⟨_, bPreserve, rfl, rfl, hsize, ⟨rfl, rfl, rfl, rfl⟩, id, fun hb => ?_⟩
    have hlen := hp hb
    cases hz : c.z with
    | own =>
      -- An allocation of no bytes holds a value of no bytes.
      have hzero : c.n.toNat = 0 := by
        simp only [hb, hz, Bool.true_and, beq_self_eq_true, Bool.and_true, decide_eq_false_iff_not,
          not_lt, Nat.le_zero_eq, gt_iff_lt] at hre
        simp only [buffer, hz, ← ha, hre] at hlen
        omega
      exact ⟨Or.inr hb, by omega, by simp [bytes, hzero]⟩
    | null => exact ⟨Or.inr hb, by simpa [buffer, hz] using hlen, by simp [bytes, buffer, hz]⟩
    | ext z => exact ⟨Or.inr hb, by simpa [buffer, hz] using hlen, by simp [bytes, buffer, hz]⟩

/-- `sqlite3VdbeMemGrow` finds `n` bytes: in the cell's own allocation, or at the allocator. -/
def served (L : CLib ρ) (n : ℤ) (c : Mem) (r : ρ) : Bool :=
  decide (n ≤ c.szMalloc) || (L.malloc (max n 32).toNat r).1.isSome

/-- Where it is served, `sqlite3VdbeMemGrow` gives the cell an allocation that is large enough. -/
theorem sqlite3VdbeMemGrow_served (hL : L.Sized) (ha : c.szMalloc = c.zMalloc.length) {n : ℤ}
    (bPreserve : Bool) (hp : bPreserve = true → c.n.toNat ≤ c.buffer.length ∧ c.n ≤ n) {r : ρ}
    (hs : c.served L n r = true) :
    ∃ c' r', c.sqlite3VdbeMemGrow L n bPreserve r = .ok (SQLITE_OK, c', r') ∧
      Grown c c' n bPreserve ∧ L.Allocates r r' := by
  have hdestroy : ∀ (p : Mem) (r₁ : ρ), (if p.flags.has MEM_Dyn = true then L.destroy p r₁ else r₁) =
      r₁ ∨ ∃ q, (if p.flags.has MEM_Dyn = true then L.destroy p r₁ else r₁) = L.destroy q r₁ := by
    intro p r₁
    split_ifs
    · exact Or.inr ⟨p, rfl⟩
    · exact Or.inl rfl
  unfold sqlite3VdbeMemGrow
  by_cases hlt : (c.szMalloc : ℤ) < n
  · rw [if_pos hlt]
    unfold served at hs
    rw [decide_eq_false (by omega), Bool.false_or, Option.isSome_iff_exists] at hs
    obtain ⟨block, hblock⟩ := hs
    have hm : L.malloc (max n 32).toNat r = (some block, (L.malloc (max n 32).toNat r).2) :=
      Prod.ext hblock rfl
    obtain ⟨p, copy, halloc, hap, hsize, ⟨hf, hu, hn, he⟩, hcopy, hkeep⟩ :=
      growAlloc_spec hm (hL.malloc _ _ _ _ hm) ha (by omega) bPreserve fun hb => (hp hb).1
    obtain ⟨c', hfin, hg⟩ := growFinish_spec L hap n bPreserve copy (by omega)
      (fun hb => ⟨(hkeep hb).1, hn ▸ (hkeep hb).2.1, hn ▸ (hp hb).2⟩) hcopy
      (L.malloc (max n 32).toNat r).2
    refine ⟨c', _, ?_, ⟨hg.z, hg.alloc, hg.size, hf ▸ hg.flags, hg.u.trans hu, hg.n_eq.trans hn,
      hg.enc.trans he, fun hb => (hg.bytes hb).trans (hkeep hb).2.2⟩,
      _, Or.inr ⟨(max n 32).toNat, rfl⟩, hdestroy p _⟩
    rw [halloc]
    dsimp only
    rw [hfin]
    rfl
  · rw [if_neg hlt]
    obtain ⟨c', hfin, hg⟩ := growFinish_spec L ha n bPreserve bPreserve
      (by omega) (fun hb => ⟨Or.inr hb, hp hb⟩) id r
    exact ⟨c', _, by rw [hfin]; rfl, hg, r, Or.inl rfl, hdestroy c r⟩

/-- Where it is refused, `sqlite3VdbeMemGrow` leaves NULL. -/
theorem sqlite3VdbeMemGrow_refused {n : ℤ} {r : ρ} (bPreserve : Bool)
    (hs : c.served L n r = false) :
    ∃ r', c.sqlite3VdbeMemGrow L n bPreserve r =
      .ok (SQLITE_NOMEM, { c with flags := MEM_Null, z := .null, zMalloc := [], szMalloc := 0 },
        r') := by
  unfold served at hs
  obtain ⟨hlt, hnone⟩ := Bool.or_eq_false_iff.mp hs
  rw [decide_eq_false_iff_not, not_le] at hlt
  have hm : L.malloc (max n 32).toNat r = (none, (L.malloc (max n 32).toNat r).2) :=
    Prod.ext (Option.isSome_eq_false_iff.mp hnone |> Option.isNone_iff_eq_none.mp) rfl
  unfold sqlite3VdbeMemGrow growAlloc
  rw [if_pos hlt, hm]
  dsimp only
  unfold sqlite3VdbeMemSetNull vdbeMemClearExternAndSetNull
  split_ifs <;> exact ⟨_, rfl⟩

/-- While memory lasts, everything is served. -/
theorem served_of_lawful (hL : L.Lawful mallocFailed) (n : ℤ) (c : Mem) (r : ρ) :
    c.served L n r = true := by
  obtain ⟨block, r', hblock, -⟩ := hL.malloc (max n 32).toNat r
  unfold served
  rw [hblock]
  simp

/-- While memory lasts, `sqlite3VdbeMemGrow` gives the cell an allocation that is large enough. -/
theorem sqlite3VdbeMemGrow_spec (hL : L.Lawful mallocFailed) (ha : c.szMalloc = c.zMalloc.length)
    (n : ℤ) (bPreserve : Bool)
    (hp : bPreserve = true → c.n.toNat ≤ c.buffer.length ∧ c.n ≤ n) (r : ρ) :
    ∃ c' r', c.sqlite3VdbeMemGrow L n bPreserve r = .ok (SQLITE_OK, c', r') ∧
      Grown c c' n bPreserve ∧ mallocFailed r' = mallocFailed r := by
  obtain ⟨c', r', hgrow, hg, hr'⟩ :=
    sqlite3VdbeMemGrow_served hL.sized ha bPreserve hp (served_of_lawful hL n c r)
  exact ⟨c', r', hgrow, hg, hL.allocates hr'⟩

/-! ## `sqlite3VdbeMemExpandBlob` -/

/-- The cell `c'` is the blob `c` with its implied zeros stored. -/
structure Expanded (c c' : Mem) : Prop where
  /-- The value is in the allocation. -/
  z : c'.z = .own
  /-- The size of the allocation is recorded. -/
  alloc : c'.szMalloc = c'.zMalloc.length
  /-- No zeros are implied any more. -/
  flags : c'.flags =
    c.flags &&& ~~~(MEM_Dyn ||| MEM_Ephem ||| MEM_Static) &&& ~~~(MEM_Zero ||| MEM_Term)
  /-- The union stays. -/
  u : c'.u = c.u
  /-- The zeros are counted. -/
  n_eq : c'.n = c.n + c.u_nZero
  /-- The encoding stays. -/
  enc : c'.enc = c.enc
  /-- The zeros are stored. -/
  bytes : c'.bytes = c.bytes ++ List.replicate c.u_nZero.toNat 0

/-- The number of bytes that `sqlite3VdbeMemExpandBlob` asks for. -/
def expandedSize (c : Mem) : ℤ := if c.n + c.u_nZero ≤ 0 then 1 else c.n + c.u_nZero

/-- Where it is served, `sqlite3VdbeMemExpandBlob` stores the implied zeros. -/
theorem sqlite3VdbeMemExpandBlob_served (hL : L.Sized) (hc : c.IsValue enc)
    (hz : c.flags.has MEM_Zero = true) {r : ρ} (hs : c.served L c.expandedSize r = true) :
    ∃ c' r', c.sqlite3VdbeMemExpandBlob L r = .ok (SQLITE_OK, c', r') ∧ Expanded c c' ∧
      L.Allocates r r' := by
  obtain ⟨hblob, hpos⟩ := hc.zero hz
  obtain ⟨hn, hlen⟩ := hc.stored (by rw [hblob, Bool.or_true])
  have hbyte : c.n + c.u_nZero ≤ c.expandedSize := by unfold expandedSize; split_ifs <;> omega
  obtain ⟨p, r', hgrow, hg, hr'⟩ := sqlite3VdbeMemGrow_served hL hc.alloc true
    (fun _ => ⟨hlen, by omega⟩) hs
  unfold sqlite3VdbeMemExpandBlob
  rw [if_pos hz]
  dsimp only
  rw [← expandedSize, hgrow]
  have hu : p.u_nZero = c.u_nZero := by unfold u_nZero; rw [hg.u]
  have hsize := hg.size
  have halloc := hg.alloc
  have hnp := hg.n_eq
  -- The grown buffer has room for the zeros, which are written behind the bytes.
  have hfit : p.n.toNat + (List.replicate p.u_nZero.toNat (0 : Byte)).length ≤ p.zMalloc.length := by
    rw [List.length_replicate, hu]; omega
  have hbytes := hg.bytes rfl
  simp only [bytes, buffer, hg.z] at hbytes
  refine ⟨{ p with
    zMalloc := p.zMalloc.take p.n.toNat ++ List.replicate p.u_nZero.toNat 0 ++
      p.zMalloc.drop (p.n.toNat + p.u_nZero.toNat),
    n := p.n + p.u_nZero, flags := p.flags &&& ~~~(MEM_Zero ||| MEM_Term) }, r', ?_,
    ⟨?_, ?_, ?_, ?_, ?_, ?_, ?_⟩, hr'⟩
  · have hwrite : p.writeOwn p.n.toNat (List.replicate p.u_nZero.toNat 0) = .ok { p with
        zMalloc := p.zMalloc.take p.n.toNat ++ List.replicate p.u_nZero.toNat 0 ++
          p.zMalloc.drop (p.n.toNat + p.u_nZero.toNat) } := by
      unfold writeOwn
      rw [if_pos hfit, List.length_replicate]
    simp only [bind, Except.bind, ne_eq, not_true_eq_false, ↓reduceIte, hwrite]
    rfl
  · exact hg.z
  · simp only [List.length_append, List.length_take, List.length_drop, List.length_replicate]
    rw [List.length_replicate] at hfit
    omega
  · rw [hg.flags]
  · exact hg.u
  · rw [hnp, hu]
  · exact hg.enc
  · simp only [bytes, buffer, hg.z]
    rw [hbytes, hu, List.take_append_of_le_length, List.take_of_length_le]
    all_goals
      simp only [List.length_append, List.length_take, List.length_replicate]
      have := congrArg List.length hbytes
      simp only [List.length_take, buffer] at this hlen ⊢
      omega

/-- Where it is refused, `sqlite3VdbeMemExpandBlob` leaves NULL. -/
theorem sqlite3VdbeMemExpandBlob_refused (hz : c.flags.has MEM_Zero = true) {r : ρ}
    (hs : c.served L c.expandedSize r = false) :
    ∃ r', c.sqlite3VdbeMemExpandBlob L r =
      .ok (SQLITE_NOMEM, { c with flags := MEM_Null, z := .null, zMalloc := [], szMalloc := 0 },
        r') := by
  obtain ⟨r', hgrow⟩ := sqlite3VdbeMemGrow_refused true hs
  refine ⟨r', ?_⟩
  unfold sqlite3VdbeMemExpandBlob
  rw [if_pos hz]
  dsimp only
  rw [← expandedSize, hgrow]
  rfl

/-- While memory lasts, `sqlite3VdbeMemExpandBlob` stores the implied zeros. -/
theorem sqlite3VdbeMemExpandBlob_spec (hL : L.Lawful mallocFailed) (hc : c.IsValue enc)
    (hz : c.flags.has MEM_Zero = true) (r : ρ) :
    ∃ c' r', c.sqlite3VdbeMemExpandBlob L r = .ok (SQLITE_OK, c', r') ∧ Expanded c c' ∧
      mallocFailed r' = mallocFailed r := by
  obtain ⟨c', r', hrun, he, hr'⟩ :=
    sqlite3VdbeMemExpandBlob_served hL.sized hc hz (served_of_lawful hL _ c r)
  exact ⟨c', r', hrun, he, hL.allocates hr'⟩

/-! ## `sqlite3VdbeMemStringify` -/

/-- The type of a text that is no number can be read off the masked flags. -/
theorem flags_of_masked {f g : Flags} (hf : f.has MEM_Str = true ∧ f.has MEM_Null = false ∧
      f.has MEM_Int = false ∧ f.has MEM_Real = false ∧ f.has MEM_Zero = false)
    (h : g &&& (MEM_AffMask ||| MEM_Zero) = f &&& MEM_AffMask) :
    g.has MEM_Str = true ∧ g.has MEM_Null = false ∧ g.has MEM_Int = false ∧
      g.has MEM_Real = false ∧ g.has MEM_Zero = false := by
  have hbit := fun k => congrArg (fun b : Flags => b.getLsbD k) h
  have h0 := hbit 0
  have h1 := hbit 1
  have h2 := hbit 2
  have h3 := hbit 3
  have h14 := hbit 14
  simp at hf h0 h1 h2 h3 h14 ⊢
  simp_all

/-- The printed form of the number in a cell. -/
def printed (L : CLib ρ) (c : Mem) : List Byte :=
  if c.flags.has MEM_Int then L.printInt c.u_i else L.printReal c.u_r

/-- The cell `q` has the printed form of the number in `c`, in UTF-8, and some of the flags of `c`. -/
structure Printed (L : CLib ρ) (c q : Mem) : Prop where
  /-- The size of the allocation is recorded. -/
  alloc : q.szMalloc = q.zMalloc.length
  /-- The number is still in the union. -/
  u : q.u = c.u
  /-- The length of the text. -/
  n_eq : q.n = (c.printed L).length
  /-- The text. -/
  bytes : q.bytes = c.printed L
  /-- Its encoding. -/
  enc : q.enc = SQLITE_UTF8
  /-- Its type, next to what `sqlite3VdbeMemClearAndResize` kept. -/
  flags : ∃ kept, (kept = ~~~(MEM_Dyn ||| MEM_Ephem ||| MEM_Static) ∨
      kept = MEM_Null ||| MEM_Int ||| MEM_Real) ∧
    q.flags = ((c.flags &&& kept) ||| (MEM_Str ||| MEM_Term)) &&& ~~~(MEM_Int ||| MEM_Real)

/-- The room for a printed number, where it is served. -/
theorem sqlite3VdbeMemClearAndResize_served (hL : L.Sized) (ha : c.szMalloc = c.zMalloc.length)
    {r : ρ} (hs : c.served L 32 r = true) :
    ∃ p r' kept, c.sqlite3VdbeMemClearAndResize L 32 r = .ok (SQLITE_OK, p, r') ∧ p.z = .own ∧
      p.szMalloc = p.zMalloc.length ∧ 32 ≤ p.szMalloc ∧ p.u = c.u ∧ L.Allocates r r' ∧
      (kept = ~~~(MEM_Dyn ||| MEM_Ephem ||| MEM_Static) ∨
        kept = MEM_Null ||| MEM_Int ||| MEM_Real) ∧ p.flags = c.flags &&& kept := by
  unfold sqlite3VdbeMemClearAndResize
  by_cases hlt : c.szMalloc < 32
  · rw [if_pos hlt]
    obtain ⟨p, r', hgrow, hg, hr'⟩ := sqlite3VdbeMemGrow_served hL ha (n := ((32 : ℕ) : ℤ)) false
      (by simp) hs
    exact ⟨p, r', _, hgrow, hg.z, hg.alloc, by have := hg.size; omega, hg.u, hr', Or.inl rfl,
      hg.flags⟩
  · rw [if_neg hlt]
    exact ⟨_, r, _, rfl, rfl, ha, by simpa using hlt, rfl, ⟨r, Or.inl rfl, Or.inl rfl⟩, Or.inr rfl,
      rfl⟩

/-- Where it is served, `sqlite3VdbeMemStringify` with `bForce` prints the number into a cell, and
translates that. -/
theorem sqlite3VdbeMemStringify_served (hL : L.Sized) (enc : ℕ)
    (ha : c.szMalloc = c.zMalloc.length) {r : ρ} (hs : c.served L 32 r = true) :
    ∃ q r', c.sqlite3VdbeMemStringify L enc true r =
        .ok (SQLITE_OK, q.sqlite3VdbeChangeEncoding L enc r') ∧ Printed L c q ∧
      L.Allocates r r' := by
  obtain ⟨p, r', kept, hres, hown, hap, hsize, hu, hr', hkept, hpf⟩ :=
    sqlite3VdbeMemClearAndResize_served hL ha hs
  have htext : (if c.flags.has MEM_Int = true then L.printInt p.u_i else L.printReal p.u_r) =
      c.printed L := by
    unfold printed u_i u_r
    rw [hu]
  have hlen : (c.printed L).length < 32 := by
    unfold printed
    split_ifs
    · exact hL.printInt _
    · exact hL.printReal _
  have hwrite : p.writeOwn 0 (c.printed L ++ [0]) = .ok { p with
      zMalloc := p.zMalloc.take 0 ++ (c.printed L ++ [0]) ++
        p.zMalloc.drop (0 + (c.printed L ++ [0]).length) } := by
    unfold writeOwn
    rw [if_pos (by simp; omega)]
  unfold sqlite3VdbeMemStringify
  rw [hres]
  simp only [bind, Except.bind, ne_eq, not_true_eq_false, ↓reduceIte, htext, hwrite]
  refine ⟨_, r', rfl, ⟨?_, hu, rfl, ?_, rfl, kept, hkept, by rw [hpf]⟩, hr'⟩
  · simp only [List.length_append, List.length_take, List.length_drop, List.length_cons,
      List.length_nil]
    omega
  · simp only [bytes, buffer, hown, List.take_zero, List.nil_append, List.append_assoc,
      Int.toNat_natCast]
    exact List.take_left' rfl

/-- Where it is refused, `sqlite3VdbeMemStringify` leaves NULL. -/
theorem sqlite3VdbeMemStringify_refused (enc : ℕ) {r : ρ} (hs : c.served L 32 r = false) :
    ∃ r', c.sqlite3VdbeMemStringify L enc true r =
      .ok (SQLITE_NOMEM, { c with flags := MEM_Null, z := .null, zMalloc := [], szMalloc := 0 },
        r') := by
  obtain ⟨r', hgrow⟩ := sqlite3VdbeMemGrow_refused false hs
  have hlt : c.szMalloc < 32 := by
    unfold served at hs
    have := of_decide_eq_false (Bool.or_eq_false_iff.mp hs).1
    omega
  refine ⟨r', ?_⟩
  unfold sqlite3VdbeMemStringify sqlite3VdbeMemClearAndResize
  rw [if_pos hlt, show ((32 : ℕ) : ℤ) = 32 from rfl, hgrow]
  rfl

/-- While memory lasts, `sqlite3VdbeMemStringify` with `bForce` prints the number into a cell of
which it keeps some flags, and translates that. -/
theorem sqlite3VdbeMemStringify_eq (hL : L.Lawful mallocFailed) (enc : ℕ)
    (ha : c.szMalloc = c.zMalloc.length) (r : ρ) :
    ∃ q r', c.sqlite3VdbeMemStringify L enc true r =
        .ok (SQLITE_OK, q.sqlite3VdbeChangeEncoding L enc r') ∧
      mallocFailed r' = mallocFailed r ∧ Printed L c q := by
  obtain ⟨q, r', heq, hq, hr'⟩ :=
    sqlite3VdbeMemStringify_served hL.sized enc ha (served_of_lawful hL 32 c r)
  exact ⟨q, r', heq, hL.allocates hr', hq⟩

/-- While memory lasts, `sqlite3VdbeMemStringify` with `bForce` leaves a text and no number. -/
theorem sqlite3VdbeMemStringify_spec (hL : L.Lawful mallocFailed) (enc : ℕ)
    (ha : c.szMalloc = c.zMalloc.length) (hz : c.flags.has MEM_Zero = false)
    (hnull : c.flags.has MEM_Null = false) (r : ρ) :
    ∃ c' r', c.sqlite3VdbeMemStringify L enc true r = .ok (SQLITE_OK, c', r') ∧
      c'.szMalloc = c'.zMalloc.length ∧ mallocFailed r' = mallocFailed r ∧
      c'.flags.has MEM_Str = true ∧ c'.flags.has MEM_Null = false ∧
      c'.flags.has MEM_Int = false ∧ c'.flags.has MEM_Real = false ∧
      c'.flags.has MEM_Zero = false := by
  obtain ⟨q, r', heq, hr', hprinted⟩ := sqlite3VdbeMemStringify_eq hL enc ha r
  obtain ⟨kept, hkept, hq⟩ := hprinted.flags
  have hqf : q.flags.has MEM_Str = true ∧ q.flags.has MEM_Null = false ∧
      q.flags.has MEM_Int = false ∧ q.flags.has MEM_Real = false ∧ q.flags.has MEM_Zero = false := by
    rw [hq]
    rcases hkept with rfl | rfl
    · simp at hnull hz ⊢
      exact ⟨hnull, hz⟩
    · simp at hnull ⊢
      exact hnull
  -- The text is translated if the database has another encoding.
  unfold sqlite3VdbeChangeEncoding at heq
  split_ifs at heq
  · exact ⟨q, r', heq, hprinted.alloc, hr', hqf⟩
  · obtain ⟨hf, ha', hm⟩ := hL.translate enc q r' hqf.1 hqf.2.2.2.2 hprinted.alloc
    exact ⟨_, _, heq, ha', hm.trans hr', flags_of_masked hqf hf⟩

/-- `sqlite3VdbeMemStringify` with `bForce` leaves no number, also when memory runs out. -/
theorem sqlite3VdbeMemStringify_fits (hL : L.Fits) (enc : ℕ) (ha : c.szMalloc = c.zMalloc.length)
    (r : ρ) :
    ∃ rc c' r', c.sqlite3VdbeMemStringify L enc true r = .ok (rc, c', r') ∧
      c'.flags.has (MEM_Int ||| MEM_Real) = false := by
  cases hs : c.served L 32 r with
  | true =>
    obtain ⟨q, r', heq, hq, -⟩ := sqlite3VdbeMemStringify_served hL.sized enc ha hs
    refine ⟨SQLITE_OK, (q.sqlite3VdbeChangeEncoding L enc r').1,
      (q.sqlite3VdbeChangeEncoding L enc r').2, heq, ?_⟩
    have hnone : q.flags.has (MEM_Int ||| MEM_Real) = false := by
      obtain ⟨kept, -, hf⟩ := hq.flags
      rw [hf, Flags.has_or_right]
      simp
    unfold sqlite3VdbeChangeEncoding
    split_ifs
    · exact hnone
    · exact hL.translate _ _ _ hnone
  | false =>
    obtain ⟨r', heq⟩ := sqlite3VdbeMemStringify_refused enc hs
    exact ⟨_, _, _, heq, show MEM_Null.has (MEM_Int ||| MEM_Real) = false by decide⟩

end Mem

end SQPyte
