import SQPyte.Vdbe.Isolation

/-!
# Deep copies

`sqlite3VdbeMemMakeWriteable` brings a text or blob that is somewhere else into the cell's own
allocation, with two zeros after it. A text that is there already stays as it is, and a blob with
implied zeros gets them stored.
-/

namespace SQPyte.Memory

open Buffers (Ptr Cell Destructors)

variable {A : Allocator} {D : Destructors} {c c' p p' : Cell} {w w' : World}

/-! ## Bytes -/

/-- The bytes of a text or blob, with the zeros that are implied. -/
def value (c : Cell) (w : World) : List Byte :=
  (w.content c.z).take c.n.toNat ++
    if c.flags.has MEM_Zero then List.replicate c.u_nZero.toNat 0 else []

/-- The cell holds text or a blob, and its bytes are there. -/
structure HoldsText (c : Cell) (w : World) : Prop where
  /-- The type. -/
  type : IsText c
  /-- The length. -/
  n : 0 ≤ c.n
  /-- The bytes that are stored. -/
  stored : c.n ≤ (w.content c.z).length

/-- Two zeros follow what is stored. -/
def Terminated (c : Cell) (w : World) : Prop :=
  ((w.content c.z).drop c.n.toNat).take 2 = [0, 0]

section splice

variable {at_ k : ℕ} {bs old : List Byte}

/-- The bytes up to the end of what was written. -/
theorem take_splice (h : at_ ≤ old.length) :
    (World.splice at_ bs old).take (at_ + bs.length) = old.take at_ ++ bs := by
  have hlen : (old.take at_ ++ bs).length = at_ + bs.length := by
    rw [List.length_append, List.length_take, Nat.min_eq_left h]
  unfold World.splice
  rw [List.take_append_of_le_length hlen.ge, ← hlen, List.take_length]

/-- The bytes before it. -/
theorem take_splice_of_le (h : at_ ≤ old.length) (hk : k ≤ at_) :
    (World.splice at_ bs old).take k = old.take k := by
  have hle : k ≤ at_ + bs.length := by omega
  have hshort : k ≤ (old.take at_).length := by
    rw [List.length_take, Nat.min_eq_left h]
    exact hk
  calc (World.splice at_ bs old).take k
      = ((World.splice at_ bs old).take (at_ + bs.length)).take k := by
        rw [List.take_take, Nat.min_eq_left hle]
    _ = (old.take at_).take k := by
        rw [take_splice h, List.take_append_of_le_length hshort]
    _ = old.take k := by rw [List.take_take, Nat.min_eq_left hk]

/-- The bytes that were written. -/
theorem take_drop_splice (h : at_ ≤ old.length) :
    ((World.splice at_ bs old).drop at_).take bs.length = bs := by
  have hlen : (old.take at_).length = at_ := by rw [List.length_take, Nat.min_eq_left h]
  rw [List.take_drop, take_splice h, List.drop_left' hlen]

/-- A byte and the one after it. -/
theorem splice_splice {x y : Byte} (h : at_ + 2 ≤ old.length) :
    World.splice (at_ + 1) [y] (World.splice at_ [x] old) = World.splice at_ [x, y] old := by
  have hlen : (old.take at_ ++ [x]).length = at_ + 1 := by
    rw [List.length_append, List.length_take, Nat.min_eq_left (by omega), List.length_singleton]
  have htake : (World.splice at_ [x] old).take (at_ + 1) = old.take at_ ++ [x] :=
    @take_splice at_ [x] old (by omega)
  have hdrop : (World.splice at_ [x] old).drop (at_ + 1 + 1) = old.drop (at_ + 2) := by
    unfold World.splice
    rw [List.length_singleton, ← List.drop_drop, List.drop_left' hlen, List.drop_drop]
  show (World.splice at_ [x] old).take (at_ + 1) ++ [y] ++
    (World.splice at_ [x] old).drop (at_ + 1 + 1) = old.take at_ ++ [x, y] ++ old.drop (at_ + 2)
  rw [htake, hdrop, List.append_assoc (old.take at_)]
  rfl

end splice

/-! ## `sqlite3VdbeMemGrow` -/

/-- The content of an allocation that was set. -/
theorem World.content_set {a : ℕ} (bs : List Byte) : (w.set a (some bs)).content (.heap a) = bs := by
  show ((w.set a (some bs)).heap a).getD [] = bs
  rw [World.heap_set_self, Option.getD_some]

/-- The content of a live allocation. -/
theorem World.content_heap {a : ℕ} {bs : List Byte} (h : w.heap a = some bs) :
    w.content (.heap a) = bs := by
  show (w.heap a).getD [] = bs
  rw [h, Option.getD_some]

/-- At the end of `sqlite3VdbeMemGrow` the text or blob is copied, unless it is there. -/
theorem take_growFinish (hD : Outside D) {bPreserve : Bool}
    (hthere : p.z = p.zMalloc ∨ bPreserve = true) (hrun : growFinish A D bPreserve p w = .ok (p', w'))
    (hstored : p.n.toNat ≤ (w.content p.z).length) :
    (w'.content p'.z).take p.n.toNat = (w.content p.z).take p.n.toNat := by
  obtain ⟨rfl, ⟨rfl, hsame⟩ | ⟨a, old, hz, hold, hn, hle, hfits, rfl⟩⟩ := growFinish_eq_ok hD hrun
  · rcases hsame with hb | hnull | hsame
    · rw [hthere.resolve_right (by rw [hb]; decide)]
    · -- no bytes are stored behind a null pointer
      rw [hnull] at hstored ⊢
      have h0 : p.n.toNat = 0 := Nat.le_zero.mp hstored
      rw [h0, List.take_zero, List.take_zero]
    · rw [hsame]
  · show ((w.set a _).content p.zMalloc).take _ = _
    rw [hz, World.content_set]
    have hlen : ((w.content p.z).take p.n.toNat).length = p.n.toNat := by
      rw [List.length_take, Nat.min_eq_left hstored]
    have htake := @take_splice 0 ((w.content p.z).take p.n.toNat) old (Nat.zero_le _)
    rwa [hlen, Nat.zero_add, List.take_zero, List.nil_append] at htake

/-- What is stored somewhere else is not in the allocation that is given up. -/
theorem take_allocated {n : ℕ} (hall : Allocated n p w p' w')
    (hown : ¬ (true && 0 < p.szMalloc && p.z = p.zMalloc) = true)
    (hstored : p.n.toNat ≤ (w.content p.z).length) :
    (w'.content p.z).take p.n.toNat = (w.content p.z).take p.n.toNat := by
  cases hz : p.z with
  | null => rfl
  | ext id =>
    show (w'.ext id).take _ = (w.ext id).take _
    rw [hall.ext]
  | heap a =>
    rw [hz] at hstored
    by_cases hlive : w.heap a = none
    · have hempty : w.content (.heap a) = [] := by
        show (w.heap a).getD [] = []
        rw [hlive]
        rfl
      have h0 : p.n.toNat = 0 := by
        rw [hempty] at hstored
        exact Nat.le_zero.mp hstored
      rw [h0, List.take_zero, List.take_zero]
    · have hno : ¬ p.Owns a := fun ha => hown (by
        simp only [Bool.true_and, Bool.and_eq_true, decide_eq_true_eq]
        exact ⟨ha.1, hz.trans ha.2.symm⟩)
      show ((w'.heap a).getD []).take _ = ((w.heap a).getD []).take _
      rw [(hall.frame a hlive hno).1]

/-- `sqlite3VdbeMemGrow` keeps the text or blob. -/
theorem take_sqlite3VdbeMemGrow (hD : Outside D) {n : ℤ} (hn : p.n ≤ n)
    (hstored : p.n.toNat ≤ (w.content p.z).length)
    (hrun : sqlite3VdbeMemGrow A D n true p w = .ok (0, p', w')) :
    (w'.content p'.z).take p.n.toNat = (w.content p.z).take p.n.toNat := by
  unfold sqlite3VdbeMemGrow at hrun
  by_cases hlt : (p.szMalloc : ℤ) < n
  · rw [if_pos hlt] at hrun
    obtain ⟨⟨b, p₁, w₁⟩, halloc, hrest⟩ := bind_eq_ok.mp hrun
    have hall := growAlloc_allocated halloc
    have hn₁ : p₁.n = p.n := by rw [hall.fields]
    dsimp only at hrest
    by_cases hnull : p₁.zMalloc = .null
    · rw [if_pos hnull] at hrest
      obtain ⟨⟨p₂, w₂⟩, -, hpure⟩ := bind_eq_ok.mp hrest
      simp only [pure, Except.pure, Except.ok.injEq, Prod.mk.injEq] at hpure
      exact absurd hpure.1 (by decide)
    · rw [if_neg hnull] at hrest
      obtain ⟨⟨p₂, w₂⟩, hfinish, hpure⟩ := bind_eq_ok.mp hrest
      simp only [pure, Except.pure, Except.ok.injEq, Prod.mk.injEq] at hpure
      obtain ⟨-, rfl, rfl⟩ := hpure
      -- what is stored is still behind `z`, or has been moved with it
      have hmoved : (w₁.content p₁.z).take p.n.toNat = (w.content p.z).take p.n.toNat ∧
          (p₁.z = p₁.zMalloc ∨ b = true) := by
        by_cases hown : (true && 0 < p.szMalloc && p.z = p.zMalloc) = true
        · obtain ⟨-, -, hz, hcontent⟩ := growAlloc_realloc hown halloc
          exact ⟨hcontent hnull _ (by omega) hstored, Or.inl hz⟩
        · obtain ⟨-, hb, hz⟩ := growAlloc_malloc hown halloc
          rw [hz]
          exact ⟨take_allocated hall hown hstored, Or.inr hb⟩
      have hstored₁ : p.n.toNat ≤ (w₁.content p₁.z).length := by
        have hlen := congrArg List.length hmoved.1
        rw [List.length_take, List.length_take, Nat.min_eq_left hstored] at hlen
        omega
      have hfinish' := take_growFinish
        (p := { p₁ with szMalloc := sqlite3DbMallocSize p₁.zMalloc w₁ }) hD hmoved.2 hfinish (by
          show p₁.n.toNat ≤ _
          rwa [hn₁])
      rw [← hmoved.1, ← hn₁]
      exact hfinish'
  · rw [if_neg hlt] at hrun
    obtain ⟨⟨p₂, w₂⟩, hfinish, hpure⟩ := bind_eq_ok.mp hrun
    simp only [pure, Except.pure, Except.ok.injEq, Prod.mk.injEq] at hpure
    obtain ⟨-, rfl, rfl⟩ := hpure
    exact take_growFinish hD (Or.inr rfl) hfinish hstored

/-! ## `sqlite3VdbeMemMakeWriteable` -/

/-- What `sqlite3VdbeMemMakeWriteable` does to a cell with text or a blob. -/
structure MadeWriteable (c : Cell) (w : World) (c' : Cell) (w' : World) : Prop where
  /-- The bytes are the same. A blob whose zeros cannot be stored is NULL. -/
  value : c.flags.has MEM_Zero = true ∧ c'.flags = MEM_Null ∨ value c' w' = value c w
  /-- What was somewhere else is in the cell's own allocation. -/
  elsewhere : c.flags.has MEM_Zero = false → c.z ≠ c.zMalloc →
    c'.z = c'.zMalloc ∧ c'.n + 2 ≤ c'.szMalloc ∧ Terminated c' w'
  /-- What was there is left as it was. -/
  own : c.flags.has MEM_Zero = false → c.z = c.zMalloc → 0 < c.szMalloc → c' = c ∧ w' = w
  /-- Zeros that were implied are stored, in the cell's own allocation. -/
  zeros : c.flags.has MEM_Zero = true → c'.flags = MEM_Null ∨
    c'.flags.has (MEM_Ephem ||| MEM_Static ||| MEM_Dyn ||| MEM_Zero) = false ∧
      c'.z = c'.zMalloc ∧ c'.n ≤ c'.szMalloc

/-- Without implied zeros there is nothing to expand. -/
theorem ExpandBlob_eq_self (h : p.flags.has MEM_Zero = false) :
    ExpandBlob A D p w = .ok (0, p, w) := by
  unfold ExpandBlob
  rw [if_neg (by rw [h]; decide)]

/-- A text is elsewhere if it is not in the cell's own allocation. -/
theorem elsewhere_eq_true : Elsewhere p = true ↔ IsText p ∧ p.z ≠ p.zMalloc := by
  unfold Elsewhere IsText
  rw [Bool.and_eq_true, decide_eq_true_eq]

/-- A cell with implied zeros. -/
theorem zeros_of_MakeWriteable (hD : Outside D) (hc : c.Live w.sizes) (ht : HoldsText c w)
    (hzero : c.flags.has MEM_Zero = true)
    (hrun : sqlite3VdbeMemMakeWriteable A D c w = .ok (0, c', w')) :
    c'.flags = MEM_Null ∨
      value c' w' = value c w ∧
        c'.flags.has (MEM_Ephem ||| MEM_Static ||| MEM_Dyn ||| MEM_Zero) = false ∧
        c'.z = c'.zMalloc ∧ c'.n ≤ c'.szMalloc := by
  obtain ⟨rc₁, c₁, w₁, hexpand, hrest⟩ := sqlite3VdbeMemMakeWriteable_eq_ok hrun
  obtain ⟨rc₂, c₂, w₂, hgrow, ⟨hrc, rfl, rfl⟩ | ⟨rfl, hclear, hc₁⟩⟩ := ExpandBlob_eq_ok hzero hexpand
  · -- no memory for the zeros: the cell is NULL, and is left so
    have hflags := (keeps_sqlite3VdbeMemGrow hD hc (Or.inl (expandedSize_pos c)) hgrow).2.2 hrc
    rcases hrest with ⟨-, -, rfl, -⟩ | ⟨hz, -⟩
    · exact Or.inl hflags
    · have htext := (elsewhere_eq_true.mp hz).1
      unfold IsText at htext
      rw [hflags] at htext
      exact absurd htext (by decide)
  · have hgrown := (keeps_sqlite3VdbeMemGrow hD hc (Or.inl (expandedSize_pos c)) hgrow).2.1 rfl
    -- The expanded blob is in the cell's own buffer, so it is not copied again.
    have hz₁ : c₁.z = c₁.zMalloc := by
      rw [hc₁]
      exact hgrown.z
    rcases hrest with ⟨-, -, rfl, rfl⟩ | ⟨hz, -⟩
    · have hu : c₂.u_nZero = c.u_nZero := by
        unfold Cell.u_nZero
        rw [hgrown.u]
      obtain ⟨hcount, hwrite⟩ := World.clear_eq_ok hclear
      obtain ⟨a, old, hz, hold, hn, hfits, rfl⟩ := World.write_eq_ok hwrite
      have hn₂ := hgrown.n
      have hsize := hgrown.size
      have hpos := expandedSize_pos c
      -- The buffer has room for the bytes and the zeros after them.
      have hexpanded : c.n ≤ expandedSize c ∧ c.n + c.u_nZero ≤ expandedSize c := by
        have hnonneg := ht.n
        unfold expandedSize
        split_ifs <;> omega
      have htake := take_sqlite3VdbeMemGrow hD hexpanded.1 (by have := ht.stored; omega) hgrow
      have hflags : c'.flags = c.flags &&& ~~~(MEM_Dyn ||| MEM_Ephem ||| MEM_Static) &&&
          ~~~(MEM_Zero ||| MEM_Term) := by
        rw [hc₁, ← hgrown.flags]
      have hnozero : c'.flags.has MEM_Zero = false := by
        rw [hflags]
        simp
      have hz' : c'.z = .heap a := by
        rw [hc₁]
        exact hz
      have hn' : c'.n = c.n + c.u_nZero := by
        rw [hc₁, ← hn₂, ← hu]
      have hsz : c'.szMalloc = c₂.szMalloc := by rw [hc₁]
      refine Or.inr ⟨?_, ?_, hz₁, by omega⟩
      · -- The value is the bytes kept by the growth, then the zeros written behind them.
        rw [hz, World.content_heap hold] at htake
        unfold value
        rw [hz', World.content_set, hnozero, hzero, if_neg Bool.false_ne_true, if_pos rfl,
          List.append_nil, hu, hn₂]
        have hlen : (List.replicate c.u_nZero.toNat (0 : Byte)).length = c.u_nZero.toNat :=
          List.length_replicate
        have hsum : c'.n.toNat = c.n.toNat + (List.replicate c.u_nZero.toNat (0 : Byte)).length := by
          rw [hlen]
          omega
        rw [hsum, take_splice (by rw [hu, hlen] at hfits; omega), htake]
      · rw [hflags]
        simp only [Flags.has_or_right]
        simp
    · exact absurd hz₁ (elsewhere_eq_true.mp hz).2

/-- A text or blob that is somewhere else. -/
theorem elsewhere_of_MakeWriteable (hD : Outside D) (hc : c.Live w.sizes) (ht : HoldsText c w)
    (hzero : c.flags.has MEM_Zero = false) (hz : c.z ≠ c.zMalloc)
    (hrun : sqlite3VdbeMemMakeWriteable A D c w = .ok (0, c', w')) :
    value c' w' = value c w ∧ c'.z = c'.zMalloc ∧ c'.n + 2 ≤ c'.szMalloc ∧ Terminated c' w' := by
  obtain ⟨rc₁, c₁, w₁, hexpand, hrest⟩ := sqlite3VdbeMemMakeWriteable_eq_ok hrun
  rw [ExpandBlob_eq_self hzero, Except.ok.injEq, Prod.mk.injEq, Prod.mk.injEq] at hexpand
  obtain ⟨rfl, rfl, rfl⟩ := hexpand
  rcases hrest with ⟨hno, -⟩ | ⟨-, rc₂, c₂, w₂, hgrow, ⟨-, hrc, -⟩ | ⟨rfl, -, hterm, hc'⟩⟩
  · rw [elsewhere_eq_true.mpr ⟨ht.type, hz⟩] at hno
    exact absurd hno (by decide)
  · exact absurd hrc (by decide)
  · have hnonneg := ht.n
    have hgrown := (keeps_sqlite3VdbeMemGrow hD hc (Or.inl (by omega)) hgrow).2.1 rfl
    have htake := take_sqlite3VdbeMemGrow hD (by omega) (by have := ht.stored; omega) hgrow
    obtain ⟨a, old, hza, hold, hn, hfits, rfl⟩ := terminate_eq_ok hterm
    have hn₂ := hgrown.n
    have hsize := hgrown.size
    have hz' : c'.z = .heap a := by
      rw [hc']
      exact hza
    have hown : c'.z = c'.zMalloc := by
      rw [hc']
      exact hgrown.z
    have hn' : c'.n = c.n := by
      rw [hc']
      exact hn₂
    have hsz : c'.szMalloc = c₂.szMalloc := by rw [hc']
    have hnozero : c'.flags.has MEM_Zero = false := by
      rw [hc']
      show Flags.has (c.flags ||| MEM_Term) MEM_Zero = false
      rw [Flags.has_or_left, hzero]
      decide
    -- the zeros are written after the bytes
    have hzeros : World.splice (c₂.n + 1).toNat [0] (World.splice c₂.n.toNat [0] old) =
        World.splice c.n.toNat [0, 0] old := by
      have hsucc : (c₂.n + 1).toNat = c.n.toNat + 1 := by omega
      rw [hsucc, hn₂, splice_splice (by omega)]
    refine ⟨?_, hown, by omega, ?_⟩
    · rw [hza, World.content_heap hold] at htake
      unfold value
      rw [hz', World.content_set, hzeros, hnozero, hzero, hn', take_splice_of_le (by omega) le_rfl,
        htake, if_neg Bool.false_ne_true, if_neg Bool.false_ne_true]
    · unfold Terminated
      rw [hz', World.content_set, hzeros, hn']
      exact @take_drop_splice c.n.toNat [0, 0] old (by omega)

/-- A text or blob without implied zeros that is in the cell's own allocation, or seems to be. -/
theorem own_of_MakeWriteable (hzero : c.flags.has MEM_Zero = false) (hno : Elsewhere c = false)
    (hrun : sqlite3VdbeMemMakeWriteable A D c w = .ok (0, c', w')) : c' = c ∧ w' = w := by
  obtain ⟨rc₁, c₁, w₁, hexpand, hrest⟩ := sqlite3VdbeMemMakeWriteable_eq_ok hrun
  rw [ExpandBlob_eq_self hzero, Except.ok.injEq, Prod.mk.injEq, Prod.mk.injEq] at hexpand
  obtain ⟨rfl, rfl, rfl⟩ := hexpand
  rcases hrest with ⟨-, -, hc, hw⟩ | ⟨hz, -⟩
  · exact ⟨hc, hw⟩
  · rw [hz] at hno
    exact absurd hno (by decide)

/-- A cell that was made writeable has its text in its own allocation. -/
theorem madeWriteable (hD : Outside D) (hc : c.Live w.sizes) (ht : HoldsText c w)
    (hrun : sqlite3VdbeMemMakeWriteable A D c w = .ok (0, c', w')) : MadeWriteable c w c' w' := by
  have hno : c.z = c.zMalloc → Elsewhere c = false := fun hz =>
    Bool.eq_false_iff.mpr fun h => (elsewhere_eq_true.mp h).2 hz
  cases hzero : c.flags.has MEM_Zero with
  | true =>
    have hzeros := zeros_of_MakeWriteable hD hc ht hzero hrun
    refine ⟨hzeros.imp (⟨hzero, ·⟩) (·.1), fun h => absurd (hzero.symm.trans h) (by decide),
      fun h => absurd (hzero.symm.trans h) (by decide),
      fun _ => hzeros.imp_right fun h => h.2⟩
  | false =>
    refine ⟨Or.inr ?_, fun _ hz => ?_, fun _ hz _ => own_of_MakeWriteable hzero (hno hz) hrun,
      fun h => absurd (hzero.symm.trans h) (by decide)⟩
    · by_cases hz : c.z = c.zMalloc
      · obtain ⟨rfl, rfl⟩ := own_of_MakeWriteable hzero (hno hz) hrun
        rfl
      · exact (elsewhere_of_MakeWriteable hD hc ht hzero hz hrun).1
    · exact (elsewhere_of_MakeWriteable hD hc ht hzero hz hrun).2

/-- The text seems to be in the cell's own allocation, but that one was moved to another register. -/
structure Stale (c : Cell) : Prop where
  /-- Text or a blob. -/
  type : IsText c
  /-- No zeros are implied. -/
  stored : c.flags.has MEM_Zero = false
  /-- It seems to be in the cell's own allocation. -/
  own : c.z = c.zMalloc
  /-- It is somewhere. -/
  ne_null : c.z ≠ .null
  /-- There is none. -/
  szMalloc : c.szMalloc = 0

/-- Where a text or blob is after `sqlite3VdbeMemMakeWriteable`. -/
theorem place_of_MakeWriteable (hD : Outside D) (hc : c.Live w.sizes)
    (hrun : sqlite3VdbeMemMakeWriteable A D c w = .ok (0, c', w')) :
    c.flags.has MEM_Zero = false ∧ Elsewhere c = false ∧ c' = c ∨ c'.flags = MEM_Null ∨
      ∃ a, c'.z = .heap a ∧ c'.Owns a := by
  obtain ⟨rc₁, c₁, w₁, hexpand, hrest⟩ := sqlite3VdbeMemMakeWriteable_eq_ok hrun
  have hlive₁ := (keeps_ExpandBlob hD hc hexpand).live
  rcases hrest with ⟨hno, -, rfl, rfl⟩ | ⟨hz, rc₂, c₂, w₂, hgrow, ⟨-, hrc, -⟩ | ⟨rfl, -, hterm, hc'⟩⟩
  · cases hzero : c.flags.has MEM_Zero with
    | true =>
      have hpos := expandedSize_pos c
      obtain ⟨rc₂, c₂, w₂, hgrow, ⟨hrc, rfl, rfl⟩ | ⟨rfl, hclear, hc'⟩⟩ :=
        ExpandBlob_eq_ok hzero hexpand
      · have hnull := (keeps_sqlite3VdbeMemGrow hD hc (Or.inl hpos) hgrow).2.2 hrc
        exact Or.inr (Or.inl hnull)
      · have hgrown := (keeps_sqlite3VdbeMemGrow hD hc (Or.inl hpos) hgrow).2.1 rfl
        obtain ⟨a, old, hza, -⟩ := World.write_eq_ok (World.clear_eq_ok hclear).2
        have hsize := hgrown.size
        rw [hc']
        exact Or.inr (Or.inr ⟨a, hza, by show 0 < c₂.szMalloc; omega, hgrown.z ▸ hza⟩)
    | false =>
      rw [ExpandBlob_eq_self hzero, Except.ok.injEq, Prod.mk.injEq, Prod.mk.injEq] at hexpand
      obtain ⟨-, rfl, -⟩ := hexpand
      exact Or.inl ⟨rfl, hno, rfl⟩
  · exact absurd hrc (by decide)
  · have hgrown := (keeps_sqlite3VdbeMemGrow hD hlive₁ (by omega) hgrow).2.1 rfl
    obtain ⟨a, old, hza, -, hn, -, -⟩ := terminate_eq_ok hterm
    have hn₂ := hgrown.n
    have hsize := hgrown.size
    rw [hc']
    exact Or.inr (Or.inr ⟨a, hza, by show 0 < c₂.szMalloc; omega, hgrown.z ▸ hza⟩)

/-- A cell that is not stale has its text in its own allocation afterwards. -/
theorem secure_of_MakeWriteable (hD : Outside D) (hc : c.Live w.sizes) (hstale : ¬ Stale c)
    (hrun : sqlite3VdbeMemMakeWriteable A D c w = .ok (0, c', w')) (static : Set ℕ) :
    Secure static c' := by
  intro htext
  rcases place_of_MakeWriteable hD hc hrun with ⟨hzero, hno, rfl⟩ | hnull | hown
  · have hz : c'.z = c'.zMalloc := by
      by_contra hne
      rw [elsewhere_eq_true.mpr ⟨htext, hne⟩] at hno
      cases hno
    by_cases hnull : c'.z = .null
    · exact Or.inl hnull
    · have hsz : c'.szMalloc ≠ 0 := fun h0 => hstale ⟨htext, hzero, hz, hnull, h0⟩
      rcases hc hsz with hm | ⟨a, hm, -⟩
      · exact absurd (hz.trans hm) hnull
      · exact Or.inr (Or.inr ⟨a, hz.trans hm, Nat.pos_of_ne_zero hsz, hm⟩)
  · unfold IsText at htext
    rw [hnull] at htext
    exact absurd htext (by decide)
  · exact Or.inr (Or.inr hown)

/-! ## The loops of `OP_Copy` and `OP_ResultRow` -/

/-- `hlquery.mem_with_index(i)`. -/
def mem_with_index (nMem : ℕ) (i : ℤ) : Except Fault ℕ :=
  (Machine.memIndex (nMem + 1) nMem i).mapError fun _ => .sqpyte

variable (A D)

/-- `get_flags() & MEM_Ephem and sqlite3VdbeMemMakeWriteable()`. -/
def deephemeralize (self : ℕ) (s : State) : Except Fault (Bool × State) :=
  if (s.cells self).flags.has MEM_Ephem then do
    let (rc, s) ← s.onCell self (sqlite3VdbeMemMakeWriteable A D)
    return (rc ≠ 0, s)
  else return (false, s)

/-- The first `k` iterations of a loop that is left when memory runs out, and whether it did. -/
def iterate (body : ℕ → State → Except Fault (Bool × State)) :
    ℕ → State → Except Fault (Bool × State)
  | 0, s => return (false, s)
  | k + 1, s => do
    let (no_mem, s) ← iterate body k s
    if no_mem then return (true, s) else body k s

/-- The body of the loop of `OP_Copy`. -/
def copyRegister (nMem : ℕ) (op : Op) (i : ℕ) (s : State) : Except Fault (Bool × State) := do
  let pIn1 ← mem_with_index nMem (op.p1 + i)
  let pOut ← mem_with_index nMem (op.p2 + i)
  let s ← s.step A D (.op (.sqlite3VdbeMemShallowCopy pOut pIn1 .ephem))
  deephemeralize A D pOut s

/-- `OP_Copy`, and whether memory ran out. -/
def OP_Copy (nMem : ℕ) (op : Op) : State → Except Fault (Bool × State) :=
  iterate (copyRegister A D nMem op) (op.p3 + 1).toNat

/-- The body of the loop of `OP_ResultRow`. -/
def resultColumn (nMem : ℕ) (op : Op) (i : ℕ) (s : State) : Except Fault (Bool × State) := do
  let pMem ← mem_with_index nMem (op.p1 + i)
  if (s.cells pMem).flags.has MEM_Undefined then throw .assertion
  let (no_mem, s) ← deephemeralize A D pMem s
  if no_mem then return (true, s)
  else
    let s ← s.step A D (.sqlite3VdbeMemNulTerminate pMem)
    return (false, s)

/-- The loop of `OP_ResultRow`, which is all it does to the registers. -/
def resultColumns (nMem : ℕ) (op : Op) : State → Except Fault (Bool × State) :=
  iterate (resultColumn A D nMem op) op.p2.toNat

/-- At each iteration of `OP_Copy`, a static text of the source never changes, and the copy is not
stale before it is made the register's own. -/
def CopiesFresh (static : Set ℕ) (nMem : ℕ) (op : Op) (s : State) : Prop :=
  ∀ (k : ℕ), (k : ℤ) ≤ op.p3 → ∀ s₁ pIn1 pOut,
    iterate (copyRegister A D nMem op) k s = .ok (false, s₁) →
    mem_with_index nMem (op.p1 + k) = .ok pIn1 → mem_with_index nMem (op.p2 + k) = .ok pOut →
    ((s₁.cells pIn1).flags.has MEM_Static = true → IsText (s₁.cells pIn1) →
      (s₁.cells pIn1).z = .null ∨ ∃ id ∈ static, (s₁.cells pIn1).z = .ext id) ∧
    ∀ s₂, s₁.step A D (.op (.sqlite3VdbeMemShallowCopy pOut pIn1 .ephem)) = .ok s₂ →
      ¬ Stale (s₂.cells pOut)

/-- At each iteration of `OP_ResultRow`, the column is not stale. -/
def ColumnsFresh (nMem : ℕ) (op : Op) (s : State) : Prop :=
  ∀ k < op.p2.toNat, ∀ s₁ pMem, iterate (resultColumn A D nMem op) k s = .ok (false, s₁) →
    mem_with_index nMem (op.p1 + k) = .ok pMem → ¬ Stale (s₁.cells pMem)

/-- The column is flagged as ephemeral only if it refers to no memory of others. -/
def EphemOwned (c : Cell) : Prop :=
  c.flags.has MEM_Ephem = true → IsText c → c.z = .null ∨ ∃ a, c.z = .heap a ∧ c.Owns a

variable {A D} {s s' : State} {j nMem : ℕ} {op : Op}

/-- An iteration is about one register, which has the property afterwards if the iteration meets the
condition. Then all registers of the loop have it at the end. -/
theorem iterate_spec {body : ℕ → State → Except Fault (Bool × State)} {register : ℕ → Except Fault ℕ}
    {C : ℕ → State → Prop} {P : Cell → Prop}
    (hbody : ∀ k s s', s.sizes.Sound → C k s → body k s = .ok (false, s') →
      ∃ j, register k = .ok j ∧ Leaves [j] s s' ∧ P (s'.cells j)) {n : ℕ} (hs : s.sizes.Sound)
    (hC : ∀ k < n, ∀ s₁, iterate body k s = .ok (false, s₁) → C k s₁)
    (hrun : iterate body n s = .ok (false, s')) :
    s'.sizes.Sound ∧ ∀ k < n, ∃ j, register k = .ok j ∧ P (s'.cells j) := by
  induction n generalizing s' with
  | zero =>
    obtain ⟨-, rfl⟩ := Prod.mk.inj (Except.ok.inj hrun)
    exact ⟨hs, fun k hk => absurd hk (Nat.not_lt_zero k)⟩
  | succ n ih =>
    obtain ⟨⟨no_mem, s₁⟩, hfirst, hrest⟩ := bind_eq_ok.mp hrun
    dsimp only at hrest
    cases no_mem with
    | true =>
      rw [if_pos rfl] at hrest
      obtain ⟨h, -⟩ := Prod.mk.inj (Except.ok.inj hrest)
      cases h
    | false =>
      rw [if_neg Bool.false_ne_true] at hrest
      obtain ⟨hs₁, hold⟩ := ih (fun k hk => hC k (Nat.lt_succ_of_lt hk)) hfirst
      obtain ⟨j, hj, hleaves, hP⟩ := hbody n s₁ s' hs₁ (hC n (Nat.lt_succ_self n) s₁ hfirst) hrest
      refine ⟨hleaves.sound, fun k hk => ?_⟩
      rcases Nat.lt_succ_iff_lt_or_eq.mp hk with hk | rfl
      · obtain ⟨i, hi, hPi⟩ := hold k hk
        refine ⟨i, hi, ?_⟩
        -- two iterations may be about the same register
        by_cases hij : i = j
        · rw [hij]
          exact hP
        · rw [hleaves.cells i (by simpa using hij)]
          exact hPi
      · exact ⟨j, hj, hP⟩

/-- `deephemeralize` changes an ephemeral cell only, and makes it writeable. -/
theorem deephemeralize_eq_ok (hrun : deephemeralize A D j s = .ok (false, s')) :
    (s.cells j).flags.has MEM_Ephem = false ∧ s' = s ∨
      ∃ c w, sqlite3VdbeMemMakeWriteable A D (s.cells j) s.world = .ok (0, c, w) ∧
        s' = ⟨Function.update s.cells j c, w⟩ := by
  unfold deephemeralize at hrun
  by_cases hephem : (s.cells j).flags.has MEM_Ephem = true
  · rw [if_pos hephem] at hrun
    obtain ⟨⟨rc, s₁⟩, hcell, hpure⟩ := bind_eq_ok.mp hrun
    obtain ⟨hrc, rfl⟩ := Prod.mk.inj (Except.ok.inj hpure)
    obtain ⟨c, w, hf, hs'⟩ := onCell_eq_ok hcell
    have h0 : rc = 0 := by simpa using hrc
    rw [h0] at hf
    exact Or.inr ⟨c, w, hf, hs'⟩
  · rw [if_neg hephem] at hrun
    obtain ⟨-, rfl⟩ := Prod.mk.inj (Except.ok.inj hrun)
    exact Or.inl ⟨Bool.eq_false_iff.mpr hephem, rfl⟩

/-- A register that is not stale has its own text afterwards, if it was ephemeral. -/
theorem deephemeralize_spec (hD : Outside D) (hs : s.sizes.Sound) (hstale : ¬ Stale (s.cells j))
    (hrun : deephemeralize A D j s = .ok (false, s')) :
    Leaves [j] s s' ∧ ((s.cells j).flags.has MEM_Ephem = false ∧ s' = s ∨
      ∀ static, Secure static (s'.cells j)) := by
  rcases deephemeralize_eq_ok hrun with ⟨hno, rfl⟩ | ⟨c, w, hf, rfl⟩
  · exact ⟨⟨hs, fun _ _ => rfl, fun _ _ _ _ => rfl⟩, Or.inl ⟨hno, rfl⟩⟩
  · refine ⟨Leaves.of_keeps hs (keeps_sqlite3VdbeMemMakeWriteable hD (hs.live j) hf),
      Or.inr fun static => ?_⟩
    show Secure static (Function.update s.cells j c j)
    rw [Function.update_self]
    exact secure_of_MakeWriteable hD (hs.live j) hstale hf static

/-- What is left alone by one thing after the other. -/
theorem Leaves.trans {r : List ℕ} {s'' : State} (h : Leaves r s s') (h' : Leaves r s' s'') :
    Leaves r s s'' :=
  ⟨h'.sound, fun i hi => (h'.cells i hi).trans (h.cells i hi), fun i hi a ha =>
    (h'.heap i hi a (by rw [h.cells i hi]; exact ha)).trans (h.heap i hi a ha)⟩

/-- A shallow copy has the pointer and the flags of the source, which has lost what it had if it is
the same register and was dynamic. -/
theorem shallowCopy_spec (hD : Outside D) (hs : s.sizes.Sound) {from_ : ℕ} {srcType : Cell.SrcType}
    (hrun : s.step A D (.op (.sqlite3VdbeMemShallowCopy j from_ srcType)) = .ok s') :
    ∃ d : Cell, (d = s.cells from_ ∨ d.flags = MEM_Null) ∧ (s'.cells j).z = d.z ∧
      (s'.cells j).flags = if d.flags.has MEM_Static then d.flags
        else d.flags &&& ~~~(MEM_Dyn ||| MEM_Static ||| MEM_Ephem) ||| srcType.mask := by
  obtain ⟨b, hb, rfl⟩ := freeing_state_eq_ok hrun
  change s.sizes.sqlite3VdbeMemShallowCopy D j from_ srcType = .ok b at hb
  unfold Buffers.State.sqlite3VdbeMemShallowCopy at hb
  by_cases hrow : (s.sizes.cells from_).flags.has MEM_RowSet = true
  · rw [if_pos hrow] at hb
    cases hb
  rw [if_neg hrow] at hb
  obtain ⟨b₁, hrel, hcopy⟩ := bind_eq_ok.mp hb
  unfold Buffers.State.onCell at hrel hcopy
  obtain ⟨⟨c₁, h₁⟩, hc₁, hpure⟩ := bind_eq_ok.mp hrel
  obtain rfl := Except.ok.inj hpure
  obtain ⟨⟨c₂, h₂⟩, hc₂, hpure⟩ := bind_eq_ok.mp hcopy
  obtain rfl := Except.ok.inj hpure
  obtain ⟨c₃, hfields, hpure⟩ := bind_eq_ok.mp hc₂
  obtain ⟨rfl, rfl⟩ := Prod.mk.inj (Except.ok.inj hpure)
  obtain ⟨-, -, hz, -, hflags⟩ := copyFields_spec hfields
  refine ⟨Function.update s.cells j c₁ from_, ?_, ?_, ?_⟩
  · by_cases hsame : from_ = j
    · rw [hsame, Function.update_self]
      have hlive : (s.cells j).Live s.world.sizes := hs.live j
      change (s.cells j).VdbeMemRelease D s.world.sizes = .ok (c₁, h₁) at hc₁
      unfold Cell.VdbeMemRelease at hc₁
      split_ifs at hc₁ with hdyn
      · exact Or.inr (spares_clear hD hlive hdyn hc₁).2
      · exact Or.inl (Prod.mk.inj (Except.ok.inj hc₁)).1.symm
    · rw [Function.update_of_ne hsame]
      exact Or.inl rfl
  · dsimp only
    rw [Function.update_self]
    exact hz
  · dsimp only
    rw [Function.update_self]
    exact hflags

/-- What is not flagged as static becomes ephemeral. -/
theorem has_Ephem_of_copy (f : Flags) :
    Flags.has (f &&& ~~~(MEM_Dyn ||| MEM_Static ||| MEM_Ephem) ||| Cell.SrcType.ephem.mask)
      MEM_Ephem = true := by
  unfold Cell.SrcType.mask
  rw [Flags.has_or_left]
  simp

/-- One iteration of `OP_Copy`. -/
theorem copyRegister_spec (hD : Outside D) (hs : s.sizes.Sound) {static : Set ℕ} {k : ℕ}
    (hfresh : ∀ pIn1 pOut, mem_with_index nMem (op.p1 + k) = .ok pIn1 →
      mem_with_index nMem (op.p2 + k) = .ok pOut →
      ((s.cells pIn1).flags.has MEM_Static = true → IsText (s.cells pIn1) →
        (s.cells pIn1).z = .null ∨ ∃ id ∈ static, (s.cells pIn1).z = .ext id) ∧
      ∀ s₂, s.step A D (.op (.sqlite3VdbeMemShallowCopy pOut pIn1 .ephem)) = .ok s₂ →
        ¬ Stale (s₂.cells pOut))
    (hrun : copyRegister A D nMem op k s = .ok (false, s')) :
    ∃ j, mem_with_index nMem (op.p2 + k) = .ok j ∧ Leaves [j] s s' ∧ Secure static (s'.cells j) := by
  obtain ⟨pIn1, hIn1, hrest⟩ := bind_eq_ok.mp hrun
  obtain ⟨pOut, hOut, hrest⟩ := bind_eq_ok.mp hrest
  obtain ⟨s₁, hcopy, hdeep⟩ := bind_eq_ok.mp hrest
  obtain ⟨hstatic, hstale⟩ := hfresh pIn1 pOut hIn1 hOut
  have hleaves₁ : Leaves [pOut] s s₁ := State.step_leaves hD hs hcopy
  obtain ⟨hleaves₂, hend⟩ := deephemeralize_spec hD hleaves₁.sound (hstale s₁ hcopy) hdeep
  refine ⟨pOut, hOut, hleaves₁.trans hleaves₂, ?_⟩
  rcases hend with ⟨hno, rfl⟩ | hsecure
  · obtain ⟨d, hd, hz, hflags⟩ := shallowCopy_spec hD hs hcopy
    -- the copy is flagged as static, as the source is
    have hdstatic : d.flags.has MEM_Static = true := by
      by_contra hdno
      rw [if_neg hdno] at hflags
      rw [hflags, has_Ephem_of_copy] at hno
      cases hno
    rw [if_pos hdstatic] at hflags
    rcases hd with rfl | hnull
    · intro htext
      unfold IsText at htext
      rw [hflags] at htext
      rw [hz]
      rcases hstatic hdstatic htext with hz | hz
      · exact Or.inl hz
      · exact Or.inr (Or.inl hz)
    · rw [hnull] at hdstatic
      exact absurd hdstatic (by decide)
  · exact hsecure static

/-- After `OP_Copy` every destination has its text or blob in its own allocation, or in memory that
never changes. -/
theorem OP_Copy_secure (hD : Outside D) (hs : s.sizes.Sound) {static : Set ℕ}
    (hfresh : CopiesFresh A D static nMem op s) (hrun : OP_Copy A D nMem op s = .ok (false, s')) :
    s'.sizes.Sound ∧ ∀ k : ℕ, (k : ℤ) ≤ op.p3 →
      ∃ j, mem_with_index nMem (op.p2 + k) = .ok j ∧ Secure static (s'.cells j) := by
  have hspec := iterate_spec (fun _ _ _ hs₁ hC h => copyRegister_spec hD hs₁ hC h) hs
    (fun k hk s₁ h₁ pIn1 pOut hIn1 hOut =>
      hfresh k (by omega) s₁ pIn1 pOut h₁ hIn1 hOut) hrun
  exact ⟨hspec.1, fun k hk => hspec.2 k (by omega)⟩

/-- `sqlite3VdbeMemNulTerminate` makes no register ephemeral. -/
theorem nulTerminate_ephemOwned (hD : Outside D) (hc : c.Live w.sizes) (hown : EphemOwned c) {rc : ℕ}
    (hrun : sqlite3VdbeMemNulTerminate A D c w = .ok (rc, c', w')) : EphemOwned c' := by
  unfold sqlite3VdbeMemNulTerminate at hrun
  split_ifs at hrun with hflags
  · simp only [Except.ok.injEq, Prod.mk.injEq] at hrun
    obtain ⟨-, rfl, -⟩ := hrun
    exact hown
  · obtain ⟨rc₁, c₁, w₁, hgrow, hend⟩ := vdbeMemAddTerminator_eq_ok hrun
    obtain ⟨-, hgrown, hnull⟩ := keeps_sqlite3VdbeMemGrow hD hc (by omega) hgrow
    intro hephem
    rcases hend with ⟨hrc, rfl, rfl⟩ | ⟨hrc, -, rfl⟩
    · rw [hnull hrc] at hephem
      exact absurd hephem (by decide)
    · have hflags₁ := (hgrown hrc).flags
      change (Flags.has (c₁.flags ||| MEM_Term) MEM_Ephem) = true at hephem
      rw [hflags₁, Flags.has_or_left] at hephem
      simp at hephem

/-- One iteration of `OP_ResultRow`. -/
theorem resultColumn_spec (hD : Outside D) (hs : s.sizes.Sound) {k : ℕ}
    (hfresh : ∀ pMem, mem_with_index nMem (op.p1 + k) = .ok pMem → ¬ Stale (s.cells pMem))
    (hrun : resultColumn A D nMem op k s = .ok (false, s')) :
    ∃ j, mem_with_index nMem (op.p1 + k) = .ok j ∧ Leaves [j] s s' ∧ EphemOwned (s'.cells j) := by
  obtain ⟨pMem, hMem, hrest⟩ := bind_eq_ok.mp hrun
  dsimp only at hrest
  by_cases hundef : (s.cells pMem).flags.has MEM_Undefined = true
  · rw [if_pos hundef] at hrest
    cases hrest
  rw [if_neg hundef] at hrest
  obtain ⟨⟨no_mem, s₁⟩, hdeep, hrest⟩ := bind_eq_ok.mp hrest
  dsimp only at hrest
  cases no_mem with
  | true =>
    rw [if_pos rfl] at hrest
    obtain ⟨h, -⟩ := Prod.mk.inj (Except.ok.inj hrest)
    cases h
  | false =>
    rw [if_neg Bool.false_ne_true] at hrest
    obtain ⟨s₂, hterm, hpure⟩ := bind_eq_ok.mp hrest
    obtain ⟨-, rfl⟩ := Prod.mk.inj (Except.ok.inj hpure)
    obtain ⟨hleaves₁, hend⟩ := deephemeralize_spec hD hs (hfresh pMem hMem) hdeep
    have hown₁ : EphemOwned (s₁.cells pMem) := by
      rcases hend with ⟨hno, rfl⟩ | hsecure
      · intro hephem
        rw [hno] at hephem
        cases hephem
      · intro _ htext
        rcases hsecure ∅ htext with hz | ⟨id, hid, -⟩ | hown
        · exact Or.inl hz
        · exact absurd hid (Set.notMem_empty id)
        · exact Or.inr hown
    have hleaves₂ : Leaves [pMem] s₁ s₂ := State.step_leaves hD hleaves₁.sound hterm
    refine ⟨pMem, hMem, hleaves₁.trans hleaves₂, ?_⟩
    obtain ⟨⟨rc, s₃⟩, hcell, hpure⟩ := bind_eq_ok.mp hterm
    obtain rfl := Except.ok.inj hpure
    obtain ⟨c, w, hf, rfl⟩ := onCell_eq_ok hcell
    show EphemOwned (Function.update s₁.cells pMem c pMem)
    rw [Function.update_self]
    exact nulTerminate_ephemOwned hD (hleaves₁.sound.live pMem) hown₁ hf

/-- After the loop of `OP_ResultRow` no column refers to memory of others as ephemeral. -/
theorem resultColumns_ephemOwned (hD : Outside D) (hs : s.sizes.Sound)
    (hfresh : ColumnsFresh A D nMem op s) (hrun : resultColumns A D nMem op s = .ok (false, s')) :
    ∀ k < op.p2.toNat, ∃ j, mem_with_index nMem (op.p1 + k) = .ok j ∧ EphemOwned (s'.cells j) :=
  (iterate_spec (fun _ _ _ hs₁ hC h => resultColumn_spec hD hs₁ hC h) hs
    (fun k hk s₁ h₁ pMem hMem => hfresh k hk s₁ pMem h₁ hMem) hrun).2

/-! ## The results -/

/-- `sqlite3VdbeMemMakeWriteable` keeps the bytes and brings what is somewhere else into the cell's
own allocation. After `OP_Copy`, in any state that the registers get to from an empty start, nothing
that happens to other registers or to memory outside changes a destination. After the loop of
`OP_ResultRow`, no column refers to memory of others as ephemeral. -/
theorem copies_are_deep (hD : Outside D) :
    (∀ c w c' w', c.Live w.sizes → HoldsText c w →
      sqlite3VdbeMemMakeWriteable A D c w = .ok (0, c', w') → MadeWriteable c w c' w') ∧
    ∀ (s₀ : State) before s, (∀ i, (s₀.cells i).szMalloc = 0) → s₀.run A D before = .ok s →
      (∀ nMem op static s', CopiesFresh A D static nMem op s →
        OP_Copy A D nMem op s = .ok (false, s') → ∀ k : ℕ, (k : ℤ) ≤ op.p3 →
          ∃ j, mem_with_index nMem (op.p2 + k) = .ok j ∧
            ∀ after s'', (∀ x ∈ after, x.Apart static j) → s'.run A D after = .ok s'' →
              Same j s' s'') ∧
      (∀ nMem op s', ColumnsFresh A D nMem op s → resultColumns A D nMem op s = .ok (false, s') →
        ∀ k < op.p2.toNat, ∃ j, mem_with_index nMem (op.p1 + k) = .ok j ∧
          EphemOwned (s'.cells j)) := by
  refine ⟨fun c w c' w' hc ht hrun => madeWriteable hD hc ht hrun, fun s₀ before s h0 hbefore => ?_⟩
  have hs : s.sizes.Sound := State.run_sound hD (sound_of_empty h0) hbefore
  constructor
  · intro nMem op static s' hfresh hcopy k hk
    obtain ⟨hs', hsecure⟩ := OP_Copy_secure hD hs hfresh hcopy
    obtain ⟨j, hj, hjsecure⟩ := hsecure k hk
    exact ⟨j, hj, fun after s'' hafter hrun => State.run_isolated hD hs' hjsecure hafter hrun⟩
  · intro nMem op s' hfresh hrow
    exact resultColumns_ephemOwned hD hs hfresh hrow

/-- Destructors that free nothing are outside. -/
theorem outside_plain : Outside Destructors.plain :=
  ⟨Destructors.lawful_plain, fun _ _ _ h => (Except.ok.inj h).symm⟩

/-- An allocator with room for one allocation at a time, which it clears. -/
def Allocator.single : Allocator where
  toAllocator := Buffers.Allocator.single
  content _ size := List.replicate size 0
  length_content _ _ := List.length_replicate

/-- An ephemeral text in register 1. -/
def ephemeralText : State where
  cells i :=
    if i = 1 then ⟨MEM_Str ||| MEM_Ephem, 0, 2, SQLITE_UTF8, .ext 0, .null, 0⟩
    else ⟨MEM_Null, 0, 0, 0, .null, .null, 0⟩
  world := ⟨fun _ => none, fun _ => [0x61, 0x62]⟩

/-- What returns has a result. -/
theorem exists_ok {ε α : Type} {x : Except ε α} (h : x.isOk = true) : ∃ a, x = .ok a := by
  cases x with
  | error e => cases h
  | ok a => exact ⟨a, rfl⟩

/-- A choice between an error and a result that is one. -/
theorem exists_ok_of_ite {b : Bool} {e : Fault} {α : Type} {x : Except Fault α} {a : α}
    (h : (if b then .error e else x) = .ok a) : b = false ∧ x = .ok a := by
  cases b with
  | true => cases h
  | false => exact ⟨rfl, h⟩

/-- The text is copied to register 2, and the page that it was on is changed. -/
theorem copies_are_deep_ephemeralText :
    (∃ c' w', sqlite3VdbeMemMakeWriteable Allocator.single .plain (ephemeralText.cells 1)
        ephemeralText.world = .ok (0, c', w') ∧
      MadeWriteable (ephemeralText.cells 1) ephemeralText.world c' w') ∧
    (∃ s' s'', OP_Copy Allocator.single .plain 3 ⟨.Copy, 1, 2, 0, .NOTUSED, 0⟩ ephemeralText =
        .ok (false, s') ∧
      s'.run Allocator.single .plain [.outside 0 [0, 0], .op (.sqlite3VdbeMemRelease 1)] = .ok s'' ∧
      Same 2 s' s'') ∧
    ∃ s', resultColumns Allocator.single .plain 3 ⟨.ResultRow, 1, 1, 0, .NOTUSED, 0⟩ ephemeralText =
        .ok (false, s') ∧ EphemOwned (s'.cells 1) := by
  have h0 : ∀ i, (ephemeralText.cells i).szMalloc = 0 := by
    intro i
    unfold ephemeralText
    dsimp only
    split_ifs <;> rfl
  obtain ⟨hwriteable, hrun⟩ := copies_are_deep (A := Allocator.single) outside_plain
  obtain ⟨hcopy, hrow⟩ := hrun ephemeralText [] ephemeralText h0 rfl
  refine ⟨?_, ?_, ?_⟩
  · -- The runs below are evaluated once, with their results left abstract.
    obtain ⟨c', w', hmade⟩ : ∃ c' w', sqlite3VdbeMemMakeWriteable Allocator.single .plain
        (ephemeralText.cells 1) ephemeralText.world = .ok (0, c', w') := by
      obtain ⟨r, hr⟩ := exists_ok (x := sqlite3VdbeMemMakeWriteable Allocator.single .plain
        (ephemeralText.cells 1) ephemeralText.world >>= fun r =>
          if r.1 ≠ 0 then .error .sqpyte else .ok r) (by decide +kernel)
      obtain ⟨⟨rc, c', w'⟩, hmade, hrc⟩ := bind_eq_ok.mp hr
      dsimp only at hrc
      split_ifs at hrc with h
      rw [not_not] at h
      exact ⟨c', w', by rw [hmade, h]⟩
    -- The cell holds a text and owns no allocation, so it is fresh.
    have htext : HoldsText (ephemeralText.cells 1) ephemeralText.world :=
      ⟨by unfold IsText; decide, by decide, by decide⟩
    exact ⟨c', w', hmade, hwriteable _ _ _ _ (fun hsz => absurd (h0 1) hsz) htext hmade⟩
  · -- The source is overwritten from outside and released, and the copy stays.
    obtain ⟨s', s'', hcopied, hchanged⟩ : ∃ s' s'', OP_Copy Allocator.single .plain 3
        ⟨.Copy, 1, 2, 0, .NOTUSED, 0⟩ ephemeralText = .ok (false, s') ∧
        s'.run Allocator.single .plain [.outside 0 [0, 0], .op (.sqlite3VdbeMemRelease 1)] =
          .ok s'' := by
      obtain ⟨s'', hr⟩ := exists_ok (x := OP_Copy Allocator.single .plain 3
        ⟨.Copy, 1, 2, 0, .NOTUSED, 0⟩ ephemeralText >>= fun r =>
          if r.1 then .error .sqpyte else r.2.run Allocator.single .plain
            [.outside 0 [0, 0], .op (.sqlite3VdbeMemRelease 1)]) (by decide +kernel)
      obtain ⟨⟨no_mem, s'⟩, hcopied, hrest⟩ := bind_eq_ok.mp hr
      obtain ⟨rfl, hchanged⟩ := exists_ok_of_ite hrest
      exact ⟨s', s'', hcopied, hchanged⟩
    refine ⟨s', s'', hcopied, hchanged, ?_⟩
    -- The one register copied owns no allocation, so no stale `zMalloc` can equal its `z`.
    have hfresh : CopiesFresh Allocator.single .plain ∅ 3 ⟨.Copy, 1, 2, 0, .NOTUSED, 0⟩
        ephemeralText := by
      intro k hk s₁ pIn1 pOut hs₁ hIn1 hOut
      obtain rfl : k = 0 := by
        change (k : ℤ) ≤ 0 at hk
        omega
      obtain ⟨-, rfl⟩ := Prod.mk.inj (Except.ok.inj hs₁)
      obtain rfl : 1 = pIn1 := Except.ok.inj hIn1
      obtain rfl : 2 = pOut := Except.ok.inj hOut
      refine ⟨fun hstatic => absurd hstatic (by decide), fun s₂ hs₂ hstale => ?_⟩
      obtain rfl := Except.ok.inj hs₂
      exact absurd hstale.own (by decide)
    obtain ⟨j, hj, hsame⟩ := hcopy 3 _ ∅ s' hfresh hcopied 0 (by decide)
    obtain rfl : 2 = j := Except.ok.inj hj
    refine hsame _ _ (fun x hx => ?_) hchanged
    rcases List.mem_cons.mp hx with rfl | hx
    · exact ⟨by decide, fun id hid => absurd hid (Set.notMem_empty id)⟩
    · obtain rfl := List.mem_singleton.mp hx
      exact ⟨by decide, fun id hid => absurd hid (Set.notMem_empty id)⟩
  · obtain ⟨s', hcolumns⟩ : ∃ s', resultColumns Allocator.single .plain 3
        ⟨.ResultRow, 1, 1, 0, .NOTUSED, 0⟩ ephemeralText = .ok (false, s') := by
      obtain ⟨s', hr⟩ := exists_ok (x := resultColumns Allocator.single .plain 3
        ⟨.ResultRow, 1, 1, 0, .NOTUSED, 0⟩ ephemeralText >>= fun r =>
          if r.1 then .error .sqpyte else .ok r.2) (by decide +kernel)
      obtain ⟨⟨no_mem, s₁⟩, hcolumns, hrest⟩ := bind_eq_ok.mp hr
      obtain ⟨rfl, -⟩ := exists_ok_of_ite hrest
      exact ⟨s₁, hcolumns⟩
    refine ⟨s', hcolumns, ?_⟩
    -- The same holds of the one column of the row.
    have hfresh : ColumnsFresh Allocator.single .plain 3 ⟨.ResultRow, 1, 1, 0, .NOTUSED, 0⟩
        ephemeralText := by
      intro k hk s₁ pMem hs₁ hMem hstale
      obtain rfl : k = 0 := by
        change k < 1 at hk
        omega
      obtain ⟨-, rfl⟩ := Prod.mk.inj (Except.ok.inj hs₁)
      obtain rfl : 1 = pMem := Except.ok.inj hMem
      exact absurd hstale.own (by decide)
    obtain ⟨j, hj, hown⟩ := hrow 3 _ s' hfresh hcolumns 0 (by decide)
    obtain rfl : 1 = j := Except.ok.inj hj
    exact hown

/-- What is said of `sqlite3VdbeMemMakeWriteable`. -/
structure Writeable (c : Cell) (w : World) (c' : Cell) (w' : World) : Prop where
  /-- The bytes are the same. -/
  value : value c' w' = value c w
  /-- The text or blob is the cell's own. -/
  flags : c'.flags.has (MEM_Ephem ||| MEM_Static ||| MEM_Dyn) = false
  /-- It is in the cell's own allocation. -/
  z : c'.z = c'.zMalloc
  /-- There is room for two more bytes. -/
  size : c'.n + 2 ≤ c'.szMalloc
  /-- These are zero. -/
  terminated : Terminated c' w'

/-- A blob of 40 bytes in an allocation of 40 bytes. -/
def fullBlob : Cell := ⟨MEM_Blob, 0, 40, SQLITE_UTF8, .heap 0, .heap 0, 40⟩

/-- It is left as it is. -/
theorem not_writeable_fullBlob :
    ¬ ∀ (A : Allocator) (D : Destructors), Outside D → ∀ c w c' w', c.Live w.sizes → HoldsText c w →
      sqlite3VdbeMemMakeWriteable A D c w = .ok (0, c', w') → Writeable c w c' w' := by
  intro h
  have hwriteable := h Allocator.single .plain outside_plain fullBlob
    ⟨fun a => if a = 0 then some (List.replicate 40 7) else none, fun _ => []⟩ fullBlob _
    (fun _ => Or.inr ⟨0, rfl, rfl⟩) ⟨by unfold IsText; decide, by decide, by decide⟩ rfl
  exact absurd hwriteable.size (by decide)

end SQPyte.Memory
