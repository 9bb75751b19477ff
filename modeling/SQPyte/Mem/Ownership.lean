import SQPyte.Mem.Buffers

/-!
# Ownership of the buffers

Every live allocation belongs to exactly one cell with `szMalloc > 0`. `Transfer` says what an
operation on one cell may do to the heap: free what the cell owned, and own what was not live.
Whatever keeps to it keeps the ownership of all cells (`Owned.onCell`).

`vdbeMemClear` of the Python code frees `zMalloc` and leaves `szMalloc`, so that the cell claims an
allocation it does not have. Only `sqlite3VdbeMemMove` may release a cell with a buffer, since it
overwrites the whole cell after that.

A cell may also point to the allocation of another cell. `sqlite3VdbeMemMakeWriteable` of the Python
code takes a pointer for the cell's own that is equal to a `zMalloc` left over from a move. Once the
other cell has freed the allocation, `sqlite3VdbeMemGrow` copies out of freed memory
(`Cell.CopiesFreed`). `keepsOwnership_iff` says that these two are all that goes wrong.
-/

namespace SQPyte.Buffers

variable {A : Allocator} {D : Destructors}

/-! ## One cell -/

/-- The cell manages the allocation `a`. -/
def Cell.Owns (c : Cell) (a : ℕ) : Prop := 0 < c.szMalloc ∧ c.zMalloc = .heap a

/-- If `szMalloc > 0` then `zMalloc` is a live allocation of at least `szMalloc` bytes. -/
def Cell.Holds (c : Cell) (h : Heap) : Prop :=
  0 < c.szMalloc → ∃ a size, c.zMalloc = .heap a ∧ h a = some size ∧ c.szMalloc ≤ size

/-- The cell is no object with a destructor, and its lengths are no negative numbers. -/
structure Cell.Plain (c : Cell) : Prop where
  /-- No destructor is to be called. -/
  dynamic : VdbeMemDynamic c.flags = false
  /-- The length of a text or blob. -/
  n : (c.flags.has MEM_Str || c.flags.has MEM_Blob) = true → 0 ≤ c.n
  /-- The implied zeros. -/
  zero : c.flags.has MEM_Zero = true → 0 ≤ c.u_nZero

/-- The flags of values with destructors are clear. -/
theorem Cell.Plain.clear {c : Cell} (h : c.Plain) : c.flags.has MEM_Agg = false ∧
    c.flags.has MEM_Dyn = false ∧ c.flags.has MEM_RowSet = false ∧ c.flags.has MEM_Frame = false := by
  have hdyn := h.dynamic
  unfold VdbeMemDynamic at hdyn
  rw [Flags.has_or_right, Flags.has_or_right, Flags.has_or_right] at hdyn
  simp only [Bool.or_eq_false_iff] at hdyn
  exact ⟨hdyn.1.1.1, hdyn.1.1.2, hdyn.1.2, hdyn.2⟩

/-- A cell with fewer flags of the kinds that matter is as plain. -/
theorem Cell.Plain.of_flags {c c' : Cell} (h : c.Plain) (hn : c'.n = c.n)
    (hu : c.flags.has MEM_Zero = true → c'.u_nZero = c.u_nZero)
    (hf : ∀ m ∈ [MEM_Agg, MEM_Dyn, MEM_RowSet, MEM_Frame, MEM_Str, MEM_Blob, MEM_Zero],
      c.flags.has m = false → c'.flags.has m = false) : c'.Plain := by
  obtain ⟨hagg, hdyn, hrow, hframe⟩ := h.clear
  have hback : ∀ m ∈ [MEM_Agg, MEM_Dyn, MEM_RowSet, MEM_Frame, MEM_Str, MEM_Blob, MEM_Zero],
      c'.flags.has m = true → c.flags.has m = true := by
    intro m hm h'
    by_contra hne
    rw [hf m hm (Bool.eq_false_iff.mpr hne)] at h'
    cases h'
  refine ⟨?_, fun h' => ?_, fun h' => ?_⟩
  · unfold VdbeMemDynamic
    rw [Flags.has_or_right, Flags.has_or_right, Flags.has_or_right, hf _ (by simp) hagg,
      hf _ (by simp) hdyn, hf _ (by simp) hrow, hf _ (by simp) hframe]
    rfl
  · rw [hn]
    rw [Bool.or_eq_true] at h'
    exact h.n (by
      rw [Bool.or_eq_true]
      exact h'.imp (hback _ (by simp)) (hback _ (by simp)))
  · have hz := hback _ (by simp) h'
    rw [hu hz]
    exact h.zero hz

/-- What an operation on one cell does to the heap. -/
structure Transfer (c : Cell) (h : Heap) (c' : Cell) (h' : Heap) : Prop where
  /-- The cell has what it claims. -/
  holds : c'.Holds h'
  /-- The rest of the heap is as it was. -/
  frame : ∀ a, ¬ c.Owns a → ¬ c'.Owns a → h' a = h a
  /-- What the cell does not manage any more is free. -/
  freed : ∀ a, c.Owns a → ¬ c'.Owns a → h' a = none
  /-- What the cell has come to manage was free. -/
  fresh : ∀ a, c'.Owns a → ¬ c.Owns a → h a = none

/-- An operation that leaves the allocation of the cell alone. -/
theorem Transfer.of_same {c c' : Cell} {h : Heap} (hc : c.Holds h) (hsz : c'.szMalloc = c.szMalloc)
    (hz : c'.zMalloc = c.zMalloc) : Transfer c h c' h := by
  have howns : ∀ a, c'.Owns a ↔ c.Owns a := fun a => by unfold Cell.Owns; rw [hsz, hz]
  refine ⟨?_, fun _ _ _ => rfl, fun a h hn => absurd ((howns a).mpr h) hn,
    fun a h hn => absurd ((howns a).mp h) hn⟩
  unfold Cell.Holds
  rw [hsz, hz]
  exact hc

/-- One operation after another. -/
theorem Transfer.trans {c c' c'' : Cell} {h h' h'' : Heap} (h₁ : Transfer c h c' h')
    (h₂ : Transfer c' h' c'' h'') : Transfer c h c'' h'' := by
  refine ⟨h₂.holds, fun a ha ha'' => ?_, fun a ha ha'' => ?_, fun a ha'' ha => ?_⟩
  · by_cases ha' : c'.Owns a
    · rw [h₂.freed a ha' ha'', h₁.fresh a ha' ha]
    · rw [h₂.frame a ha' ha'', h₁.frame a ha ha']
  · by_cases ha' : c'.Owns a
    · exact h₂.freed a ha' ha''
    · rw [h₂.frame a ha' ha'', h₁.freed a ha ha']
  · by_cases ha' : c'.Owns a
    · exact h₁.fresh a ha' ha
    · rw [← h₁.frame a ha ha', h₂.fresh a ha'' ha']

/-! ## `sqlite3VdbeMemGrow` -/

/-- The heap without what the cell manages. -/
structure Freed (c : Cell) (h h' : Heap) : Prop where
  /-- What the cell managed is free. -/
  own : ∀ a, c.Owns a → h' a = none
  /-- The rest is as it was. -/
  frame : ∀ a, ¬ c.Owns a → h' a = h a

/-- The heap once the cell's allocation is freed. -/
def Cell.released (c : Cell) (h : Heap) : Heap :=
  match c.zMalloc with
  | .heap a => if 0 < c.szMalloc then Function.update h a none else h
  | _ => h

/-- The heap afterwards is determined. -/
theorem Freed.eq_released {c : Cell} {h h' : Heap} (hf : Freed c h h') : h' = c.released h := by
  unfold Cell.released
  funext a
  by_cases ha : c.Owns a
  · rw [hf.own a ha, ha.2]
    dsimp only
    rw [if_pos ha.1, Function.update_self]
  · rw [hf.frame a ha]
    cases hz : c.zMalloc with
    | null => rfl
    | ext id => rfl
    | heap b =>
      dsimp only
      split_ifs with hsz
      · have hne : a ≠ b := by
          rintro rfl
          exact ha ⟨hsz, hz⟩
        rw [Function.update_of_ne hne]
      · rfl

/-- A cell can free its buffer. -/
theorem free_own {c : Cell} {h : Heap} (hc : c.Holds h) (hsz : 0 < c.szMalloc) :
    ∃ h', sqlite3DbFree c.zMalloc h = .ok h' ∧ Freed c h h' := by
  obtain ⟨a, size, hz, ha, -⟩ := hc hsz
  refine ⟨Function.update h a none, ?_, fun b hb => ?_, fun b hb => ?_⟩
  · rw [hz]
    simp [sqlite3DbFree, ha]
  · obtain rfl : a = b := by
      have := hz.symm.trans hb.2
      injection this
    exact Function.update_self ..
  · have hne : b ≠ a := by
      rintro rfl
      exact hb ⟨hsz, hz⟩
    exact Function.update_of_ne hne none h

/-- Without a buffer there is nothing to free. -/
theorem freed_nothing {c : Cell} (h : Heap) (hsz : c.szMalloc = 0) : Freed c h h :=
  ⟨fun _ ha => absurd ha.1 (by omega), fun _ _ => rfl⟩

/-- A new allocation in the place of what the cell managed, or nothing. -/
theorem Freed.malloc {c : Cell} {h h' : Heap} (hf : Freed c h h') {n : ℕ} (hn : 0 < n) {c' : Cell}
    (hz : c'.zMalloc = (sqlite3DbMallocRaw A n h').1)
    (hsz : c'.szMalloc = sqlite3DbMallocSize c'.zMalloc (sqlite3DbMallocRaw A n h').2) :
    Transfer c h c' (sqlite3DbMallocRaw A n h').2 := by
  cases hm : A.malloc h' n with
  | none =>
    have hraw : sqlite3DbMallocRaw A n h' = (.null, h') := by
      unfold sqlite3DbMallocRaw
      rw [hm]
    rw [hraw] at hz hsz ⊢
    -- Without memory the cell owns nothing.
    have hnot : ∀ a, ¬ c'.Owns a := by
      rintro a ⟨-, ha⟩
      rw [hz] at ha
      cases ha
    refine ⟨fun hpos => ?_, fun a ha _ => hf.frame a ha, fun a ha _ => hf.own a ha,
      fun a ha _ => absurd ha (hnot a)⟩
    rw [hz] at hsz
    exact absurd hsz (Nat.ne_of_gt hpos)
  | some x =>
    obtain ⟨a, size⟩ := x
    have hraw : sqlite3DbMallocRaw A n h' = (.heap a, Function.update h' a (some size)) := by
      unfold sqlite3DbMallocRaw
      rw [hm]
    have hfresh := A.fresh hm
    have hle := A.enough hm
    rw [hraw] at hz hsz ⊢
    dsimp only at hz hsz ⊢
    have hsize : c'.szMalloc = size := by
      rw [hsz, hz]
      show (Function.update h' a (some size) a).getD 0 = size
      rw [Function.update_self]
      rfl
    -- The cell owns the new allocation, which was not in use, and no other.
    have howns : c'.Owns a := ⟨by omega, hz⟩
    have honly : ∀ b, c'.Owns b → b = a := by
      rintro b ⟨-, hb⟩
      have := hz.symm.trans hb
      injection this with this
      exact this.symm
    have hother : ∀ b, ¬ c'.Owns b → Function.update h' a (some size) b = h' b := by
      intro b hb
      refine Function.update_of_ne ?_ _ h'
      rintro rfl
      exact hb howns
    refine ⟨fun _ => ⟨a, size, hz, Function.update_self .., hsize.le⟩, fun b hb hb' => ?_,
      fun b hb hb' => ?_, fun b hb hb' => ?_⟩
    · rw [hother b hb', hf.frame b hb]
    · rw [hother b hb', hf.own b hb]
    · obtain rfl := honly b hb
      rw [← hf.frame b hb', hfresh]

/-- An allocation that succeeds is not empty. -/
theorem size_pos {n : ℕ} (hn : 0 < n) {h : Heap} (hz : (sqlite3DbMallocRaw A n h).1 ≠ .null) :
    0 < sqlite3DbMallocSize (sqlite3DbMallocRaw A n h).1 (sqlite3DbMallocRaw A n h).2 := by
  unfold sqlite3DbMallocRaw at hz ⊢
  cases hm : A.malloc h n with
  | none =>
    rw [hm] at hz
    exact absurd rfl hz
  | some x =>
    have hle := A.enough hm
    show 0 < (Function.update h x.1 (some x.2) x.1).getD 0
    rw [Function.update_self]
    exact lt_of_lt_of_le hn hle

/-- The first half of the growth: the old buffer is freed, a new one is allocated, and what is to be
kept is still where it was unless it was in the old buffer. -/
theorem Cell.growAlloc_spec {c : Cell} {h : Heap} (hc : c.Holds h) (n : ℕ) (bPreserve : Bool) :
    ∃ b c' h', c.growAlloc A n bPreserve h = .ok (b, c', (sqlite3DbMallocRaw A n h').2) ∧
      Freed c h h' ∧ c'.zMalloc = (sqlite3DbMallocRaw A n h').1 ∧ c'.flags = c.flags ∧ c'.u = c.u ∧
      c'.n = c.n ∧ (b = true → bPreserve = true ∧ c'.z = c.z ∧ ∀ a, c.Owns a → c.z ≠ .heap a) ∧
      (bPreserve = true → b = false → ∀ a, c.z = .heap a → h a ≠ none) := by
  unfold growAlloc
  by_cases hsz : 0 < c.szMalloc
  · obtain ⟨h', hfree, hfreed⟩ := free_own hc hsz
    by_cases hr : (bPreserve && 0 < c.szMalloc && c.z = c.zMalloc) = true
    · have hz : c.z = c.zMalloc := by
        simp only [Bool.and_eq_true, decide_eq_true_eq] at hr
        exact hr.2
      rw [if_pos hr, hz, hfree]
      refine ⟨_, _, h', rfl, hfreed, rfl, rfl, rfl, rfl, nofun, fun _ _ a ha => ?_⟩
      -- the content is in the cell's own allocation
      obtain ⟨b, size, hb, hlive, -⟩ := hc hsz
      obtain rfl : b = a := Ptr.heap.inj (hb.symm.trans ha)
      rw [hlive]
      exact Option.some_ne_none size
    · rw [if_neg hr, if_pos hsz, hfree]
      refine ⟨_, _, h', rfl, hfreed, rfl, rfl, rfl, rfl, fun hb => ⟨hb, rfl, fun a ha hz => ?_⟩,
        fun hb hb' => absurd (hb.symm.trans hb') (by decide)⟩
      exact hr (by simp [hb, hsz, hz, ha.2])
  · rw [if_neg (by simp [hsz]), if_neg hsz]
    exact ⟨_, _, h, rfl, freed_nothing h (by omega), rfl, rfl, rfl, rfl,
      fun hb => ⟨hb, rfl, fun a ha => absurd ha.1 hsz⟩,
      fun hb hb' => absurd (hb.symm.trans hb') (by decide)⟩

/-- A cell can write to its buffer. -/
theorem writeTo_own {c : Cell} {h : Heap} (hc : c.Holds h) (hsz : 0 < c.szMalloc) :
    writeTo c.zMalloc h = .ok () := by
  obtain ⟨a, size, hz, ha, -⟩ := hc hsz
  rw [hz]
  simp [writeTo, ha]

/-- The content of the cell is in an allocation that has been freed. -/
def Cell.Dangles (c : Cell) (h : Heap) : Prop := c.n ≠ 0 ∧ ∃ a, c.z = .heap a ∧ h a = none

instance (c : Cell) (h : Heap) : Decidable (c.Dangles h) :=
  match hz : c.z with
  | .heap a => decidable_of_iff (c.n ≠ 0 ∧ h a = none)
      ⟨fun hd => ⟨hd.1, a, hz, hd.2⟩, fun ⟨hn, _, hb, hfree⟩ =>
        ⟨hn, Ptr.heap.inj (hz.symm.trans hb) ▸ hfree⟩⟩
  | .null => isFalse fun ⟨_, _, hb, _⟩ => nomatch hz.symm.trans hb
  | .ext _ => isFalse fun ⟨_, _, hb, _⟩ => nomatch hz.symm.trans hb

/-- What is live can be read. -/
theorem readFrom_of_not_dangles {c : Cell} {h : Heap} (hread : ¬ c.Dangles h) :
    readFrom c.z c.n h = .ok () := by
  cases hz : c.z with
  | null => rfl
  | ext id => rfl
  | heap a =>
    refine if_pos ?_
    by_contra hnot
    rw [not_or] at hnot
    exact hread ⟨hnot.1, a, hz, Option.not_isSome_iff_eq_none.mp hnot.2⟩

/-- The second half: the content is copied to the buffer, if it can be read. -/
theorem Cell.growFinish_spec {c : Cell} {h : Heap} (hc : c.Holds h) (hsz : 0 < c.szMalloc)
    (hdyn : c.flags.has MEM_Dyn = false) {bPreserve : Bool}
    (hread : bPreserve = true → ¬ c.Dangles h) :
    c.growFinish D bPreserve h = .ok ({ c with
      z := c.zMalloc, flags := c.flags &&& ~~~(MEM_Dyn ||| MEM_Ephem ||| MEM_Static) }, h) := by
  unfold growFinish
  rw [writeTo_own hc hsz, hdyn, if_neg Bool.false_ne_true]
  by_cases hb : (bPreserve && c.z ≠ .null && c.z ≠ c.zMalloc) = true
  · have hpreserve : bPreserve = true := by
      simp only [Bool.and_eq_true] at hb
      exact hb.1.1
    rw [if_pos hb, readFrom_of_not_dangles (hread hpreserve)]
    rfl
  · rw [if_neg hb]
    rfl

/-- What has been freed is not copied. -/
theorem Cell.growFinish_dangles {c : Cell} {h : Heap} (hc : c.Holds h) (hsz : 0 < c.szMalloc)
    (hread : c.Dangles h) : c.growFinish D true h = .error .read := by
  obtain ⟨hn, a, hz, ha⟩ := hread
  have hne : c.z ≠ c.zMalloc := by
    obtain ⟨b, size, hb, hlive, -⟩ := hc hsz
    intro heq
    obtain rfl : a = b := Ptr.heap.inj (hz.symm.trans (heq.trans hb))
    exact absurd (ha.symm.trans hlive) nofun
  have hfault : readFrom c.z c.n h = .error .read := by
    rw [hz]
    exact if_neg (by simp [hn, ha])
  unfold growFinish
  have hnull : c.z ≠ .null := by
    rw [hz]
    exact nofun
  rw [if_pos (by simp [hne, hnull]), hfault]
  rfl

/-- What holds of a cell after its buffer is grown. -/
structure Grown (c c' : Cell) : Prop where
  /-- The text or blob is in the cell's own allocation. -/
  z : c'.z = c'.zMalloc
  /-- There is one. -/
  pos : 0 < c'.szMalloc
  /-- The flags but for the kind of storage. -/
  flags : c'.flags = c.flags &&& ~~~(MEM_Dyn ||| MEM_Ephem ||| MEM_Static)
  /-- The union. -/
  u : c'.u = c.u
  /-- The length. -/
  n : c'.n = c.n

/-- A cell stays plain as it grows. -/
theorem Cell.Plain.grown {c c' : Cell} (hp : c.Plain) (hg : Grown c c') : c'.Plain := by
  refine hp.of_flags hg.n (fun _ => congrArg (fun u => (u.setWidth 32).toInt) hg.u) fun m hm h => ?_
  rw [hg.flags]
  simp only [List.mem_cons, List.not_mem_nil, or_false] at hm
  rcases hm with rfl | rfl | rfl | rfl | rfl | rfl | rfl <;> simp at h ⊢ <;> simp [h]

/-- `sqlite3VdbeMemGrow` to `n` bytes copies the content out of an allocation that has been freed: there
is room for it, or the memory for it is found at another address. -/
def Cell.CopiesFreed (A : Allocator) (n : ℤ) (c : Cell) (h : Heap) : Prop :=
  c.Dangles h ∧ (n ≤ c.szMalloc ∨
    ∃ x ∈ A.malloc (c.released h) (max n 32).toNat, c.z ≠ .heap x.1)

instance (A : Allocator) (n : ℤ) (c : Cell) (h : Heap) : Decidable (c.CopiesFreed A n h) :=
  inferInstanceAs (Decidable (_ ∧ _))

/-- After the allocation the content dangles if it did before, and is not where the new memory is. -/
theorem dangles_after_malloc {c c' : Cell} {h h' : Heap} (hf : Freed c h h') {n : ℕ} (hz : c'.z = c.z)
    (hn : c'.n = c.n) (hown : ∀ a, c.Owns a → c.z ≠ .heap a)
    (hnull : (sqlite3DbMallocRaw A n h').1 ≠ .null) :
    c'.Dangles (sqlite3DbMallocRaw A n h').2 ↔
      c.Dangles h ∧ ∃ x ∈ A.malloc (c.released h) n, c.z ≠ .heap x.1 := by
  unfold sqlite3DbMallocRaw at hnull ⊢
  rw [← hf.eq_released]
  cases hm : A.malloc h' n with
  | none =>
    rw [hm] at hnull
    exact absurd rfl hnull
  | some x =>
    unfold Cell.Dangles
    dsimp only
    rw [hz, hn]
    constructor
    · rintro ⟨hlen, a, ha, hfree⟩
      have hne : a ≠ x.1 := by
        rintro rfl
        rw [Function.update_self] at hfree
        cases hfree
      rw [Function.update_of_ne hne, hf.frame a fun ho => hown a ho ha] at hfree
      exact ⟨⟨hlen, a, ha, hfree⟩, x, rfl, fun hx => hne (Ptr.heap.inj (ha.symm.trans hx))⟩
    · rintro ⟨⟨hlen, a, ha, hfree⟩, y, hy, hne⟩
      obtain rfl := Option.some.inj hy
      refine ⟨hlen, a, ha, ?_⟩
      have hax : a ≠ x.1 := fun hax => hne (by rw [ha, hax])
      rw [Function.update_of_ne hax, hf.frame a fun ho => hown a ho ha]
      exact hfree

/-- What `sqlite3VdbeMemGrow` does to its cell. -/
structure GrowsTo (c : Cell) (h : Heap) (rc : ℕ) (c' : Cell) (h' : Heap) : Prop where
  /-- The ownership is kept. -/
  transfer : Transfer c h c' h'
  /-- The cell stays plain. -/
  plain : c'.Plain
  /-- There is memory. -/
  grown : rc = 0 → Grown c c'
  /-- There is none. -/
  null : rc ≠ 0 → c'.flags = MEM_Null

/-- `sqlite3VdbeMemGrow` keeps the ownership, or faults where it copies freed memory. -/
theorem Cell.sqlite3VdbeMemGrow_spec {c : Cell} {h : Heap} (hp : c.Plain) (hc : c.Holds h) {n : ℤ}
    (hn : 0 < n) (bPreserve : Bool) :
    ((bPreserve = true → ¬ c.CopiesFreed A n h) →
      ∃ rc c' h', c.sqlite3VdbeMemGrow A D n bPreserve h = .ok (rc, c', h') ∧
        GrowsTo c h rc c' h') ∧
    (bPreserve = true → c.CopiesFreed A n h →
      c.sqlite3VdbeMemGrow A D n bPreserve h = .error .read) := by
  have hdyn := hp.clear.2.1
  unfold sqlite3VdbeMemGrow
  -- The cell's own allocation is used again when it is large enough.
  by_cases hlt : (c.szMalloc : ℤ) < n
  · obtain ⟨b, c₁, h₁, halloc, hfreed, hz, hflags, hu, hlen, hcopy, hown⟩ :=
      Cell.growAlloc_spec (A := A) hc (max n 32).toNat bPreserve
    rw [if_pos hlt, halloc]
    simp only [bind, Except.bind]
    -- Out of memory: the cell is set to NULL, without a destructor as it is not dynamic.
    by_cases hnull : c₁.zMalloc = .null
    · have hset : c₁.c_sqlite3VdbeMemSetNull D (sqlite3DbMallocRaw A (max n 32).toNat h₁).2 =
          .ok ({ c₁ with flags := MEM_Null }, (sqlite3DbMallocRaw A (max n 32).toNat h₁).2) := by
        unfold c_sqlite3VdbeMemSetNull
        rw [hflags, hp.dynamic]
        rfl
      rw [if_pos hnull, hset]
      refine ⟨fun _ => ⟨_, _, _, rfl, hfreed.malloc (by omega) hz ?_, ⟨?_, ?_, ?_⟩, fun h => ?_,
        fun _ => rfl⟩, fun hb hcopies => ?_⟩
      · rw [hnull]
        rfl
      · show VdbeMemDynamic MEM_Null = false
        decide
      · exact fun h => absurd h (by simp)
      · exact fun h => absurd h (by simp)
      · cases h
      · -- without memory nothing is copied
        exfalso
        rcases hcopies.2 with hle | ⟨x, hx, -⟩
        · omega
        · rw [← hfreed.eq_released] at hx
          rw [hz] at hnull
          unfold sqlite3DbMallocRaw at hnull
          rw [show A.malloc h₁ (max n 32).toNat = some x from hx] at hnull
          cases hnull
    · rw [if_neg hnull]
      -- The new allocation is the cell's, with the size the allocator reports.
      set h₂ := (sqlite3DbMallocRaw A (max n 32).toNat h₁).2 with hh₂
      set c₂ : Cell := { c₁ with szMalloc := sqlite3DbMallocSize c₁.zMalloc h₂ } with hc₂
      have htransfer : Transfer c h c₂ h₂ := hfreed.malloc (by omega) hz rfl
      have hpos : 0 < c₂.szMalloc := by
        rw [hz] at hnull
        rw [hc₂, hz]
        exact size_pos (by omega) hnull
      -- The copy reads freed memory exactly where `z` did before the allocation.
      have hdangles : b = true → (c₂.Dangles h₂ ↔ c.CopiesFreed A n h) := by
        intro hb
        obtain ⟨-, hz', hnot⟩ := hcopy hb
        rw [hz] at hnull
        rw [hh₂, dangles_after_malloc hfreed (show c₂.z = c.z from hz') hlen hnot hnull]
        exact and_congr_right fun _ => (or_iff_right (by omega)).symm
      constructor
      · -- `z` is live, so the copy goes through.
        intro hread
        have hread₂ : b = true → ¬ c₂.Dangles h₂ := fun hb hd =>
          hread (hcopy hb).1 ((hdangles hb).mp hd)
        rw [Cell.growFinish_spec htransfer.holds hpos
          (by rw [show c₂.flags = _ from hflags, hdyn]) hread₂]
        have hgrown : Grown c { c₂ with
            z := c₂.zMalloc,
            flags := c₂.flags &&& ~~~(MEM_Dyn ||| MEM_Ephem ||| MEM_Static) } :=
          ⟨rfl, hpos, by rw [← hflags], hu, hlen⟩
        exact ⟨_, _, _, rfl, htransfer.trans (Transfer.of_same htransfer.holds rfl rfl),
          hp.grown hgrown, fun _ => hgrown, fun hne => absurd rfl hne⟩
      · -- `z` is freed. A `realloc` that kept the content would have needed it to be the cell's
        -- own.
        intro hb hcopies
        cases hb' : b with
        | true => rw [Cell.growFinish_dangles htransfer.holds hpos ((hdangles hb').mpr hcopies)]
        | false =>
          obtain ⟨⟨-, a, ha, hfree⟩, -⟩ := hcopies
          exact absurd hfree (hown hb hb' a ha)
  · rw [if_neg hlt]
    -- Nothing is allocated, so `z` is live or not as before.
    constructor
    · intro hread
      rw [Cell.growFinish_spec hc (by omega) hdyn fun hb hd =>
        hread hb ⟨hd, Or.inl (not_lt.mp hlt)⟩]
      have hgrown : Grown c { c with
          z := c.zMalloc, flags := c.flags &&& ~~~(MEM_Dyn ||| MEM_Ephem ||| MEM_Static) } :=
        ⟨rfl, by show 0 < c.szMalloc; omega, rfl, rfl, rfl⟩
      exact ⟨_, _, _, rfl, Transfer.of_same hc rfl rfl, hp.grown hgrown, fun _ => hgrown,
        fun hne => absurd rfl hne⟩
    · rintro rfl hcopies
      rw [Cell.growFinish_dangles hc (by omega) hcopies.1]
      rfl

/-! ## The other methods -/

/-- What a method does to its cell: where `P` holds it keeps the ownership, and elsewhere it fails or
leaves a cell that claims an allocation it does not have. -/
structure Outcome (P : Prop) (c : Cell) (h : Heap) (r : Except Fault (Cell × Heap)) : Prop where
  /-- The ownership is kept. -/
  keeps : P → ∃ c' h', r = .ok (c', h') ∧ Transfer c h c' h' ∧ c'.Plain
  /-- It is not. -/
  breaks : ¬ P → ∀ c' h', r = .ok (c', h') → 0 < c'.szMalloc ∧ c'.zMalloc = .null

/-- A method that always keeps the ownership. -/
theorem Outcome.of_keeps {c c' : Cell} {h h' : Heap} {r : Except Fault (Cell × Heap)}
    (hr : r = .ok (c', h')) (ht : Transfer c h c' h') (hp : c'.Plain) : Outcome True c h r :=
  ⟨fun _ => ⟨c', h', hr, ht, hp⟩, fun hno => absurd trivial hno⟩

/-- The size that `sqlite3VdbeMemExpandBlob` asks of `sqlite3VdbeMemGrow`. -/
def Cell.expandedSize (c : Cell) : ℤ := if c.n + c.u_nZero ≤ 0 then 1 else c.n + c.u_nZero

/-- A blob is never expanded to nothing. -/
theorem Cell.expandedSize_pos (c : Cell) : 0 < c.expandedSize := by
  unfold expandedSize
  split_ifs <;> omega

/-- `sqlite3VdbeMemExpandBlob` leaves nothing for `sqlite3VdbeMemMakeWriteable` to do. -/
theorem Cell.sqlite3VdbeMemExpandBlob_spec {c : Cell} {h : Heap} (hp : c.Plain) (hc : c.Holds h)
    (hz : c.flags.has MEM_Zero = true) :
    (¬ c.CopiesFreed A c.expandedSize h →
      ∃ rc c' h', c.sqlite3VdbeMemExpandBlob A D h = .ok (rc, c', h') ∧ Transfer c h c' h' ∧
        c'.Plain ∧ (c'.flags.has (MEM_Str ||| MEM_Blob) && c'.z ≠ c'.zMalloc) = false) ∧
    (c.CopiesFreed A c.expandedSize h → c.sqlite3VdbeMemExpandBlob A D h = .error .read) := by
  obtain ⟨hgrows, hfaults⟩ :=
    Cell.sqlite3VdbeMemGrow_spec (A := A) (D := D) hp hc c.expandedSize_pos true
  unfold expandedSize at hgrows hfaults ⊢
  unfold sqlite3VdbeMemExpandBlob
  constructor
  · intro hread
    obtain ⟨rc, c₁, h₁, hgrow, ht, hp₁, hgrown, hnull⟩ := hgrows fun _ => hread
    dsimp only
    rw [hgrow]
    simp only [bind, Except.bind]
    by_cases hrc : rc ≠ 0
    · rw [if_pos hrc]
      refine ⟨_, _, _, rfl, ht, hp₁, ?_⟩
      rw [hnull hrc]
      rfl
    · have hg := hgrown (not_not.mp hrc)
      rw [if_neg hrc, hg.z, writeTo_own ht.holds hg.pos]
      refine ⟨_, _, _, rfl, ht.trans (Transfer.of_same ht.holds rfl rfl), ?_, ?_⟩
      · -- the zeros are written out, and the length is still no negative number
        have hnn := hp₁.zero (by
          rw [hg.flags]
          simpa using hz)
        have hp₂ : Cell.Plain { c₁ with flags := c₁.flags &&& ~~~(MEM_Zero ||| MEM_Term) } := by
          refine hp₁.of_flags rfl (fun _ => rfl) fun m hm h => ?_
          simp only [List.mem_cons, List.not_mem_nil, or_false] at hm
          rcases hm with rfl | rfl | rfl | rfl | rfl | rfl | rfl <;> simp at h ⊢ <;> simp [h]
        exact ⟨hp₂.dynamic, fun h => Int.add_nonneg (hp₂.n h) hnn, hp₂.zero⟩
      · simp
  · intro hcopies
    dsimp only
    rw [hfaults rfl hcopies]
    rfl

/-- The size that `sqlite3VdbeMemMakeWriteable` asks of `sqlite3VdbeMemGrow`, if it calls it. -/
def Cell.writeableSize (c : Cell) : Option ℤ :=
  if c.flags.has MEM_Zero then some c.expandedSize
  else if c.flags.has (MEM_Str ||| MEM_Blob) && c.z ≠ c.zMalloc then some (c.n + 2) else none

/-- The part of `sqlite3VdbeMemMakeWriteable` after `ExpandBlob`, where it does something. -/
theorem Cell.writeable_spec {c : Cell} {h : Heap} (hp : c.Plain) (hc : c.Holds h)
    (hb : c.flags.has (MEM_Str ||| MEM_Blob) = true) :
    Outcome (¬ c.CopiesFreed A (c.n + 2) h) c h (do
      let (rc, self, h) ← c.sqlite3VdbeMemGrow A D (c.n + 2) true h
      if rc ≠ 0 then return (self, h)
      else
        writeTo self.z h
        return ({ self with flags := c.flags ||| MEM_Term }, h)) := by
  have hn := hp.n (by rwa [← Flags.has_or_right])
  obtain ⟨hgrows, hfaults⟩ :=
    Cell.sqlite3VdbeMemGrow_spec (A := A) (D := D) hp hc (n := c.n + 2) (by omega) true
  constructor
  · intro hread
    obtain ⟨rc, c₁, h₁, hgrow, ht, hp₁, hgrown, -⟩ := hgrows fun _ => hread
    rw [hgrow]
    simp only [bind, Except.bind]
    by_cases hrc : rc ≠ 0
    · rw [if_pos hrc]
      exact ⟨_, _, rfl, ht, hp₁⟩
    · have hg := hgrown (not_not.mp hrc)
      rw [if_neg hrc, hg.z, writeTo_own ht.holds hg.pos]
      refine ⟨_, _, rfl, ht.trans (Transfer.of_same ht.holds rfl rfl), ?_⟩
      refine hp.of_flags hg.n (fun _ => congrArg (fun u => (u.setWidth 32).toInt) hg.u)
        fun m hm h => ?_
      show Flags.has (c.flags ||| MEM_Term) m = false
      rw [Flags.has_or_left, h, Bool.false_or]
      simp only [List.mem_cons, List.not_mem_nil, or_false] at hm
      rcases hm with rfl | rfl | rfl | rfl | rfl | rfl | rfl <;> decide
  · intro hcopies c' h' hrun
    rw [hfaults rfl (not_not.mp hcopies)] at hrun
    cases hrun

/-- `sqlite3VdbeMemMakeWriteable` keeps the ownership, or faults where it copies freed memory. -/
theorem Cell.sqlite3VdbeMemMakeWriteable_outcome {c : Cell} {h : Heap} (hp : c.Plain)
    (hc : c.Holds h) :
    Outcome (∀ size ∈ c.writeableSize, ¬ c.CopiesFreed A size h) c h
      (c.sqlite3VdbeMemMakeWriteable A D h) := by
  unfold sqlite3VdbeMemMakeWriteable ExpandBlob writeableSize
  rw [hp.clear.2.2.1, if_neg Bool.false_ne_true]
  by_cases hz : c.flags.has MEM_Zero = true
  · obtain ⟨hexpands, hfaults⟩ := Cell.sqlite3VdbeMemExpandBlob_spec (A := A) (D := D) hp hc hz
    rw [if_pos hz, if_pos hz]
    constructor
    · intro hread
      obtain ⟨rc, c₁, h₁, hexp, ht, hp₁, hdone⟩ := hexpands (hread _ rfl)
      rw [hexp]
      simp only [bind, Except.bind]
      rw [if_neg (Bool.eq_false_iff.mp hdone)]
      exact ⟨_, _, rfl, ht, hp₁⟩
    · intro hno c' h' hrun
      have hcopies : c.CopiesFreed A c.expandedSize h := by
        by_contra hread
        exact hno fun size hsize => Option.some.inj hsize ▸ hread
      rw [hfaults hcopies] at hrun
      cases hrun
  · rw [if_neg hz, if_neg hz]
    simp only [bind, Except.bind]
    by_cases hb : (c.flags.has (MEM_Str ||| MEM_Blob) && c.z ≠ c.zMalloc) = true
    · rw [if_pos hb, if_pos hb]
      obtain ⟨hkeeps, hbreaks⟩ := Cell.writeable_spec (A := A) (D := D) hp hc
        (Bool.and_eq_true_iff.mp hb).1
      exact ⟨fun hread => hkeeps (hread _ rfl), fun hno => hbreaks fun hread =>
        hno fun size hsize => Option.some.inj hsize ▸ hread⟩
    · rw [if_neg hb, if_neg hb]
      exact ⟨fun _ => ⟨_, _, rfl, Transfer.of_same hc rfl rfl, hp⟩,
        fun hno => absurd (fun _ h => nomatch h) hno⟩

/-- A plain cell has nothing for a destructor. -/
theorem Cell.VdbeMemRelease_plain {c : Cell} (hp : c.Plain) (h : Heap) :
    c.VdbeMemRelease D h = .ok (c, h) := by
  unfold VdbeMemRelease
  rw [hp.dynamic]
  rfl

/-- A cell without a buffer is released as it should be. -/
theorem Cell.sqlite3VdbeMemRelease_empty {c : Cell} (hp : c.Plain) (h0 : c.szMalloc = 0) (h : Heap) :
    c.sqlite3VdbeMemRelease D h = .ok (c, h) := by
  unfold sqlite3VdbeMemRelease
  rw [Cell.VdbeMemRelease_plain hp]
  simp only [bind, Except.bind]
  rw [hp.dynamic, h0]
  rfl

/-- The buffer of a cell is freed, and `szMalloc` is left. -/
theorem Cell.vdbeMemClear_buffer {c : Cell} {h : Heap} (hp : c.Plain) (hc : c.Holds h)
    (hsz : 0 < c.szMalloc) :
    ∃ h', c.vdbeMemClear D h = .ok ({ c with zMalloc := .null, z := .null }, h') ∧ Freed c h h' := by
  obtain ⟨h', hfree, hfreed⟩ := free_own hc hsz
  refine ⟨h', ?_, hfreed⟩
  unfold vdbeMemClear
  rw [Cell.VdbeMemRelease_plain hp]
  simp only [bind, Except.bind]
  rw [if_pos (by omega), hfree]
  rfl

/-- The release of a cell with a buffer clears it. -/
theorem Cell.sqlite3VdbeMemRelease_buffer {c : Cell} (hp : c.Plain) (hsz : 0 < c.szMalloc)
    (h : Heap) : c.sqlite3VdbeMemRelease D h = c.vdbeMemClear D h := by
  unfold sqlite3VdbeMemRelease
  rw [Cell.VdbeMemRelease_plain hp]
  simp only [bind, Except.bind]
  rw [hp.dynamic, if_pos (by simp; omega)]

/-- Clearing keeps the ownership exactly if there is no buffer. -/
theorem Cell.vdbeMemClear_outcome {c : Cell} {h : Heap} (hp : c.Plain) (hc : c.Holds h) :
    Outcome (c.szMalloc = 0) c h (c.vdbeMemClear D h) := by
  by_cases h0 : c.szMalloc = 0
  · refine ⟨fun _ => ⟨{ c with z := .null }, h, ?_, Transfer.of_same hc rfl rfl, hp.dynamic, hp.n,
      hp.zero⟩, fun hne => absurd h0 hne⟩
    unfold vdbeMemClear
    rw [Cell.VdbeMemRelease_plain hp]
    simp only [bind, Except.bind]
    rw [h0, if_neg (by simp)]
    rfl
  · obtain ⟨h', hrun, -⟩ := Cell.vdbeMemClear_buffer (D := D) hp hc (Nat.pos_of_ne_zero h0)
    refine ⟨fun h => absurd h h0, fun _ c'' h'' hrun' => ?_⟩
    obtain ⟨rfl, -⟩ := Prod.mk.inj (Except.ok.inj (hrun.symm.trans hrun'))
    exact ⟨Nat.pos_of_ne_zero h0, rfl⟩

/-- So does a release. -/
theorem Cell.sqlite3VdbeMemRelease_outcome {c : Cell} {h : Heap} (hp : c.Plain) (hc : c.Holds h) :
    Outcome (c.szMalloc = 0) c h (c.sqlite3VdbeMemRelease D h) := by
  by_cases h0 : c.szMalloc = 0
  · rw [Cell.sqlite3VdbeMemRelease_empty hp h0]
    exact ⟨fun _ => ⟨c, h, rfl, Transfer.of_same hc rfl rfl, hp⟩, fun hne => absurd h0 hne⟩
  · rw [Cell.sqlite3VdbeMemRelease_buffer hp (Nat.pos_of_ne_zero h0)]
    exact Cell.vdbeMemClear_outcome hp hc

/-- Either way the allocation is freed. -/
theorem Cell.sqlite3VdbeMemRelease_freed {c : Cell} {h : Heap} (hp : c.Plain) (hc : c.Holds h) :
    ∃ c' h', c.sqlite3VdbeMemRelease D h = .ok (c', h') ∧ Freed c h h' := by
  by_cases h0 : c.szMalloc = 0
  · exact ⟨c, h, Cell.sqlite3VdbeMemRelease_empty hp h0 h, freed_nothing h h0⟩
  · obtain ⟨h', hrun, hfreed⟩ := Cell.vdbeMemClear_buffer (D := D) hp hc (Nat.pos_of_ne_zero h0)
    exact ⟨_, h', (Cell.sqlite3VdbeMemRelease_buffer hp (Nat.pos_of_ne_zero h0) h).trans hrun, hfreed⟩

/-- A number of the type `f` written to a cell, with the word `u` in the union. -/
theorem Cell.setNumber_outcome {c : Cell} {h : Heap} (hp : c.Plain) (hc : c.Holds h) {f : Flags}
    (hf : f = MEM_Int ∨ f = MEM_Real) (u : BitVec 64) :
    Outcome (c.flags = f ∨ c.szMalloc = 0) c h (do
      let (self, h) ←
        if c.flags ≠ f then do
          let (self, h) ← c.sqlite3VdbeMemRelease D h
          pure ({ self with flags := f }, h)
        else pure (c, h)
      return ({ self with u := u }, h)) := by
  have hplain : ∀ c' : Cell, c'.flags = f → c'.Plain := by
    intro c' hc'
    refine ⟨?_, ?_, ?_⟩
    · rw [hc']
      rcases hf with rfl | rfl <;> decide
    · rw [hc']
      rcases hf with rfl | rfl <;> exact fun h => absurd h (by decide)
    · rw [hc']
      rcases hf with rfl | rfl <;> exact fun h => absurd h (by decide)
  by_cases hflags : c.flags = f
  · rw [if_neg (not_not.mpr hflags)]
    exact ⟨fun _ => ⟨{ c with u := u }, h, rfl, Transfer.of_same hc rfl rfl, hplain _ hflags⟩,
      fun hne => absurd (Or.inl hflags) hne⟩
  · rw [if_pos hflags]
    obtain ⟨hkeeps, hbreaks⟩ := Cell.sqlite3VdbeMemRelease_outcome (D := D) hp hc
    constructor
    · intro hor
      obtain ⟨c', h', hrun, ht, -⟩ := hkeeps (hor.resolve_left hflags)
      rw [hrun]
      exact ⟨_, _, rfl, ht.trans (Transfer.of_same ht.holds rfl rfl), hplain _ rfl⟩
    · intro hne c'' h'' hrun
      -- what the release leaves is overwritten but for its allocation
      cases hrel : c.sqlite3VdbeMemRelease D h with
      | error e =>
        rw [hrel] at hrun
        cases hrun
      | ok x =>
        rw [hrel] at hrun
        obtain ⟨rfl, -⟩ := Prod.mk.inj (Except.ok.inj hrun)
        exact hbreaks (fun h0 => hne (Or.inr h0)) x.1 x.2 hrel

/-- Setting to NULL leaves the buffer to the cell. -/
theorem Cell.sqlite3VdbeMemSetNull_outcome {c : Cell} {h : Heap} (hp : c.Plain) (hc : c.Holds h) :
    Outcome True c h (c.sqlite3VdbeMemSetNull D h) := by
  unfold sqlite3VdbeMemSetNull
  rw [hp.clear.2.2.2, hp.clear.2.2.1]
  refine .of_keeps rfl (Transfer.of_same hc rfl rfl) (hp.of_flags rfl (fun _ => rfl) fun m hm h => ?_)
  unfold withTypeFlag
  simp only [List.mem_cons, List.not_mem_nil, or_false] at hm
  rcases hm with rfl | rfl | rfl | rfl | rfl | rfl | rfl <;> simp at h ⊢ <;> simp [h]

/-- The number of zeros that was stored is read. -/
theorem nZero_nZeroWord (u : BitVec 64) (x : BitVec 32) :
    (Mem.nZeroWord u x.toInt).setWidth 32 = x := by
  unfold Mem.nZeroWord
  rw [BitVec.ofInt_toInt]
  ext i hi
  simp

/-- The fields that `sqlite3VdbeMemShallowCopy` assigns leave the allocation alone. -/
theorem Cell.copyFields_spec {c d : Cell} (hd : d.Plain) (srcType : Cell.SrcType) :
    ∃ c', c.copyFields d srcType = .ok c' ∧ c'.szMalloc = c.szMalloc ∧ c'.zMalloc = c.zMalloc ∧
      c'.Plain := by
  obtain ⟨hagg, hdyn, hrow, hframe⟩ := hd.clear
  unfold copyFields
  simp only [hagg, hframe, Bool.false_and, Bool.false_eq_true, ↓reduceIte]
  refine ⟨_, rfl, rfl, rfl, hd.of_flags rfl (fun hz => ?_) fun m hm h => ?_⟩
  · unfold u_nZero
    dsimp only
    rw [if_pos hz, nZero_nZeroWord]
  · dsimp only
    split_ifs
    · exact h
    · simp only [List.mem_cons, List.not_mem_nil, or_false] at hm
      rcases hm with rfl | rfl | rfl | rfl | rfl | rfl | rfl <;> cases srcType <;>
        simp [SrcType.mask] at h ⊢ <;> simp [h]

/-! ## Any number of cells -/

section cells

variable {ι : Type} [DecidableEq ι] {s : State ι}

/-- The representation invariant: what a cell claims is there, and every live allocation belongs to
exactly one cell. -/
structure Owned (s : State ι) : Prop where
  /-- If `szMalloc > 0` then `zMalloc` is a live allocation of at least `szMalloc` bytes. -/
  holds : ∀ i, (s.cells i).Holds s.heap
  /-- A live allocation has `szMalloc > 0` in exactly one cell. -/
  owner : ∀ a, (s.heap a).isSome → ∃! i, (s.cells i).Owns a

/-- The invariant of the runs: no cell is an object with a destructor either. -/
structure Inv (s : State ι) : Prop extends Owned s where
  /-- The cells are plain. -/
  plain : ∀ i, (s.cells i).Plain

omit [DecidableEq ι] in
/-- Two cells do not manage the same allocation. -/
theorem Owned.unique (h : Owned s) {i j : ι} {a : ℕ} (hi : (s.cells i).Owns a)
    (hj : (s.cells j).Owns a) : i = j := by
  obtain ⟨b, size, hz, hb, -⟩ := h.holds i hi.1
  obtain rfl : a = b := by
    have := hi.2.symm.trans hz
    injection this
  exact (h.owner a (by rw [hb]; rfl)).unique hi hj

omit [DecidableEq ι] in
/-- What a cell manages is live. -/
theorem Owned.live (h : Owned s) {i : ι} {a : ℕ} (hi : (s.cells i).Owns a) : s.heap a ≠ none := by
  obtain ⟨b, size, hz, hb, -⟩ := h.holds i hi.1
  have := hi.2.symm.trans hz
  injection this with this
  rw [this, hb]
  simp

omit [DecidableEq ι] in
/-- A cell keeps what it claims if what it manages is left alone. -/
theorem Cell.Holds.frame {c : Cell} {h h' : Heap} (hc : c.Holds h)
    (hsame : ∀ a, c.Owns a → h' a = h a) : c.Holds h' := by
  intro hpos
  obtain ⟨a, size, hz, ha, hle⟩ := hc hpos
  exact ⟨a, size, hz, (hsame a ⟨hpos, hz⟩).trans ha, hle⟩

/-- A transfer of one cell keeps the ownership of all. -/
theorem Owned.onCell (h : Owned s) {i : ι} {c' : Cell} {h' : Heap}
    (ht : Transfer (s.cells i) s.heap c' h') :
    Owned ⟨Function.update s.cells i c', h'⟩ := by
  -- what another cell manages is not touched
  have hother : ∀ j ≠ i, ∀ a, (s.cells j).Owns a → ¬ (s.cells i).Owns a ∧ ¬ c'.Owns a := by
    intro j hj a ha
    have hi : ¬ (s.cells i).Owns a := fun hi => hj (h.unique ha hi)
    exact ⟨hi, fun hc' => h.live ha (ht.fresh a hc' hi)⟩
  refine ⟨fun j => ?_, fun a ha => ?_⟩
  · by_cases hj : j = i
    · subst hj
      show (Function.update s.cells j c' j).Holds h'
      rw [Function.update_self]
      exact ht.holds
    · show (Function.update s.cells i c' j).Holds h'
      rw [Function.update_of_ne hj]
      exact (h.holds j).frame fun a ha => ht.frame a (hother j hj a ha).1 (hother j hj a ha).2
  · by_cases hc' : c'.Owns a
    · refine ⟨i, ?_, fun j hja => ?_⟩
      · show (Function.update s.cells i c' i).Owns a
        rw [Function.update_self]
        exact hc'
      · by_contra hj
        have hja : (Function.update s.cells i c' j).Owns a := hja
        rw [Function.update_of_ne hj] at hja
        exact (hother j hj a hja).2 hc'
    · have hi : ¬ (s.cells i).Owns a := by
        intro hi
        have ha : (h' a).isSome := ha
        rw [ht.freed a hi hc'] at ha
        cases ha
      have ha : (s.heap a).isSome := by
        rw [← ht.frame a hi hc']
        exact ha
      obtain ⟨k, hk, huniq⟩ := h.owner a ha
      have hki : k ≠ i := by
        rintro rfl
        exact hi hk
      refine ⟨k, ?_, fun j hja => ?_⟩
      · show (Function.update s.cells i c' k).Owns a
        rw [Function.update_of_ne hki]
        exact hk
      · have hja : (Function.update s.cells i c' j).Owns a := hja
        by_cases hj : j = i
        · rw [hj, Function.update_self] at hja
          exact absurd hja hc'
        · rw [Function.update_of_ne hj] at hja
          exact huniq j hja

/-- A method of one cell, on all of them. -/
theorem Inv.onCell (h : Inv s) {i : ι} {f : Cell → Heap → Except Fault (Cell × Heap)} {P : Prop}
    (hf : Outcome P (s.cells i) s.heap (f (s.cells i) s.heap)) :
    (P → ∃ s', s.onCell i f = .ok s' ∧ Inv s') ∧
      (¬ P → ∀ s', s.onCell i f = .ok s' → ¬ Owned s') := by
  constructor
  · intro hyes
    obtain ⟨c', h', hrun, ht, hp⟩ := hf.keeps hyes
    refine ⟨⟨Function.update s.cells i c', h'⟩, ?_, h.toOwned.onCell ht, fun j => ?_⟩
    · unfold State.onCell
      rw [hrun]
      rfl
    · show (Function.update s.cells i c' j).Plain
      by_cases hj : j = i
      · rw [hj, Function.update_self]
        exact hp
      · rw [Function.update_of_ne hj]
        exact h.plain j
  · intro hno s' hs' howned
    unfold State.onCell at hs'
    cases hrun : f (s.cells i) s.heap with
    | error e =>
      rw [hrun] at hs'
      cases hs'
    | ok x =>
      rw [hrun] at hs'
      obtain rfl := Except.ok.inj hs'
      obtain ⟨hpos, hnull⟩ := hf.breaks hno x.1 x.2 hrun
      have hholds : (Function.update s.cells i x.1 i).Holds x.2 := howned.holds i
      rw [Function.update_self] at hholds
      obtain ⟨a, size, hz, -⟩ := hholds hpos
      rw [hnull] at hz
      cases hz

omit [DecidableEq ι] in
/-- What one cell manages goes over to another one, whose own allocation is freed. -/
theorem Owned.move (h : Owned s) {self from_ : ι} {h' : Heap} {cells' : ι → Cell}
    (hf : Freed (s.cells self) s.heap h') (hfrom : (cells' from_).szMalloc = 0)
    (hself : self ≠ from_ → cells' self = s.cells from_)
    (hother : ∀ j, j ≠ self → j ≠ from_ → cells' j = s.cells j) : Owned ⟨cells', h'⟩ := by
  -- what a cell other than `self` manages is not touched
  have hkeep : ∀ j ≠ self, ∀ a, (s.cells j).Owns a → h' a = s.heap a := fun j hj a ha =>
    hf.frame a fun hs => hj (h.unique ha hs)
  have hnone : ∀ a, ¬ (cells' from_).Owns a := by
    rintro a ⟨hpos, -⟩
    omega
  refine ⟨fun j => ?_, fun a ha => ?_⟩
  · show (cells' j).Holds h'
    by_cases hj : j = from_
    · rw [hj]
      exact fun hpos => absurd hfrom (by omega)
    by_cases hjs : j = self
    · subst hjs
      rw [hself hj]
      exact (h.holds from_).frame (hkeep from_ (Ne.symm hj))
    · rw [hother j hjs hj]
      exact (h.holds j).frame (hkeep j hjs)
  · have ha : (h' a).isSome := ha
    have hs : ¬ (s.cells self).Owns a := by
      intro hs
      rw [hf.own a hs] at ha
      cases ha
    obtain ⟨k, hk, huniq⟩ := h.owner a (by rw [← hf.frame a hs]; exact ha)
    have hks : k ≠ self := by
      rintro rfl
      exact hs hk
    by_cases hkf : k = from_
    · -- the allocation of `from_` belongs to `self` now
      subst hkf
      refine ⟨self, ?_, fun j hja => ?_⟩
      · show (cells' self).Owns a
        rw [hself (Ne.symm hks)]
        exact hk
      · have hja : (cells' j).Owns a := hja
        by_contra hj
        have hjf : j ≠ k := by
          rintro rfl
          exact hnone a hja
        rw [hother j hj hjf] at hja
        exact hjf (huniq j hja)
    · refine ⟨k, ?_, fun j hja => ?_⟩
      · show (cells' k).Owns a
        rw [hother k hks hkf]
        exact hk
      · have hja : (cells' j).Owns a := hja
        have hjf : j ≠ from_ := by
          rintro rfl
          exact hnone a hja
        by_cases hjs : j = self
        · subst hjs
          rw [hself hjf] at hja
          exact absurd (huniq from_ hja).symm hkf
        · rw [hother j hjs hjf] at hja
          exact huniq j hja

/-- `sqlite3VdbeMemMove` keeps the ownership: the cell that it releases is overwritten. -/
theorem Inv.sqlite3VdbeMemMove (h : Inv s) (self from_ : ι) :
    ∃ s', s.sqlite3VdbeMemMove D self from_ = .ok s' ∧ Inv s' := by
  obtain ⟨c₁, h₁, hrun, hfreed⟩ := Cell.sqlite3VdbeMemRelease_freed (D := D) (h.plain self)
    (h.holds self)
  -- The target is released, becomes the source, and the source is NULL without a buffer.
  set s₁ : State ι := ⟨Function.update s.cells self c₁, h₁⟩ with hs₁
  have hrel : s.onCell self (Cell.sqlite3VdbeMemRelease D) = .ok s₁ := by
    unfold State.onCell
    rw [hrun]
    rfl
  set s₂ := s₁.set self (s₁.cells from_) with hs₂
  set s₃ := s₂.set from_ { s₂.cells from_ with flags := MEM_Null, szMalloc := 0 } with hs₃
  have hfrom : s₃.cells from_ = { s₂.cells from_ with flags := MEM_Null, szMalloc := 0 } :=
    Function.update_self ..
  -- What the target owns now, the source owned before.
  have hself : self ≠ from_ → s₃.cells self = s.cells from_ := by
    intro hne
    show Function.update s₂.cells from_ _ self = _
    rw [Function.update_of_ne hne]
    show Function.update s₁.cells self _ self = _
    rw [Function.update_self]
    exact Function.update_of_ne (Ne.symm hne) _ _
  have hother : ∀ j, j ≠ self → j ≠ from_ → s₃.cells j = s.cells j := by
    intro j hjs hjf
    show Function.update s₂.cells from_ _ j = _
    rw [Function.update_of_ne hjf]
    show Function.update s₁.cells self _ j = _
    rw [Function.update_of_ne hjs]
    exact Function.update_of_ne hjs _ _
  refine ⟨s₃, ?_, ?_, fun j => ?_⟩
  · unfold State.sqlite3VdbeMemMove
    rw [hrel]
    rfl
  · exact h.toOwned.move hfreed (congrArg Cell.szMalloc hfrom) hself hother
  · by_cases hjf : j = from_
    · rw [hjf, hfrom]
      exact ⟨by show VdbeMemDynamic MEM_Null = false; decide, fun h => absurd h (by simp),
        fun h => absurd h (by simp)⟩
    by_cases hjs : j = self
    · subst hjs
      rw [hself hjf]
      exact h.plain from_
    · rw [hother j hjs hjf]
      exact h.plain j

/-- `sqlite3VdbeMemShallowCopy` leaves the allocations alone. -/
theorem Inv.sqlite3VdbeMemShallowCopy (h : Inv s) (self from_ : ι) (srcType : Cell.SrcType) :
    ∃ s', s.sqlite3VdbeMemShallowCopy D self from_ srcType = .ok s' ∧ Inv s' := by
  have hrel : s.onCell self (Cell.VdbeMemRelease D) = .ok s := by
    unfold State.onCell
    rw [Cell.VdbeMemRelease_plain (h.plain self)]
    show Except.ok _ = _
    rw [Function.update_eq_self]
  obtain ⟨c', hcopy, hsz, hz, hp⟩ := Cell.copyFields_spec (c := s.cells self) (h.plain from_) srcType
  have hcopied : (do return (← (s.cells self).copyFields (s.cells from_) srcType, s.heap) :
      Except Fault (Cell × Heap)) = .ok (c', s.heap) := by
    rw [hcopy]
    rfl
  obtain ⟨s', hrun, hinv⟩ := (h.onCell (i := self)
    (f := fun c h => do return (← c.copyFields (s.cells from_) srcType, h))
    (.of_keeps hcopied (Transfer.of_same (h.holds self) hsz hz) hp)).1 trivial
  refine ⟨s', ?_, hinv⟩
  unfold State.sqlite3VdbeMemShallowCopy
  rw [(h.plain from_).clear.2.2.1, hrel]
  exact hrun

/-! ## Runs -/

/-- No operation but `sqlite3VdbeMemMove` releases a cell with a buffer, and no content is copied out of
an allocation that has been freed. -/
def Allowed (A : Allocator) (s : State ι) : Op ι → Prop
  | .sqlite3VdbeMemRelease i | .vdbeMemClear i => (s.cells i).szMalloc = 0
  | .sqlite3VdbeMemSetInt64 i _ => (s.cells i).flags = MEM_Int ∨ (s.cells i).szMalloc = 0
  | .sqlite3VdbeMemSetDouble i val =>
    val.isNaN = true ∨ (s.cells i).flags = MEM_Real ∨ (s.cells i).szMalloc = 0
  | .sqlite3VdbeMemMakeWriteable i =>
    ∀ size ∈ (s.cells i).writeableSize, ¬ (s.cells i).CopiesFreed A size s.heap
  | .sqlite3VdbeMemGrow i n bPreserve => bPreserve = true → ¬ (s.cells i).CopiesFreed A n s.heap
  | _ => True

instance (A : Allocator) (s : State ι) : ∀ op : Op ι, Decidable (Allowed A s op)
  | .sqlite3VdbeMemRelease _ | .vdbeMemClear _ => inferInstanceAs (Decidable (_ = _))
  | .sqlite3VdbeMemSetInt64 _ _ => inferInstanceAs (Decidable (_ ∨ _))
  | .sqlite3VdbeMemSetDouble _ _ => inferInstanceAs (Decidable (_ ∨ _ ∨ _))
  | .sqlite3VdbeMemMakeWriteable i => inferInstanceAs
      (Decidable (∀ size ∈ (s.cells i).writeableSize, ¬ (s.cells i).CopiesFreed A size s.heap))
  | .sqlite3VdbeMemGrow _ _ _ => inferInstanceAs (Decidable (_ → ¬ _))
  | .sqlite3VdbeMemMove _ _ | .sqlite3VdbeMemShallowCopy _ _ _ | .sqlite3VdbeMemSetNull _ =>
    inferInstanceAs (Decidable True)

/-- One operation keeps the invariant where it is allowed. Elsewhere it fails or breaks it. -/
theorem Inv.step (h : Inv s) (op : Op ι) :
    (Allowed A s op → ∃ s', s.step A D op = .ok s' ∧ Inv s') ∧
      (¬ Allowed A s op → ∀ s', s.step A D op = .ok s' → ¬ Owned s') := by
  cases op with
  | sqlite3VdbeMemMove self from_ =>
    exact ⟨fun _ => h.sqlite3VdbeMemMove self from_, fun hno => absurd trivial hno⟩
  | sqlite3VdbeMemShallowCopy self from_ srcType =>
    exact ⟨fun _ => h.sqlite3VdbeMemShallowCopy self from_ srcType, fun hno => absurd trivial hno⟩
  | sqlite3VdbeMemMakeWriteable self =>
    exact h.onCell (Cell.sqlite3VdbeMemMakeWriteable_outcome (h.plain self) (h.holds self))
  | sqlite3VdbeMemGrow self n bPreserve =>
    -- A growth that copies from a freed allocation is a fault, so it is not allowed.
    obtain ⟨hgrows, hfaults⟩ := Cell.sqlite3VdbeMemGrow_spec (A := A) (D := D)
      (h.plain self) (h.holds self) (n := n) (by exact_mod_cast n.pos) bPreserve
    refine h.onCell (f := fun c h => return (← c.sqlite3VdbeMemGrow A D n bPreserve h).2) ⟨?_, ?_⟩
    · intro hread
      obtain ⟨rc, c', h', hrun, hgrow⟩ := hgrows hread
      rw [hrun]
      exact ⟨c', h', rfl, hgrow.transfer, hgrow.plain⟩
    · intro hno c' h' hrun
      obtain ⟨hb, hcopies⟩ := Classical.not_imp.mp hno
      rw [hfaults hb (not_not.mp hcopies)] at hrun
      cases hrun
  | sqlite3VdbeMemRelease self =>
    exact h.onCell (Cell.sqlite3VdbeMemRelease_outcome (h.plain self) (h.holds self))
  | vdbeMemClear self => exact h.onCell (Cell.vdbeMemClear_outcome (h.plain self) (h.holds self))
  | sqlite3VdbeMemSetInt64 self val =>
    exact h.onCell (Cell.setNumber_outcome (h.plain self) (h.holds self) (Or.inl rfl) _)
  | sqlite3VdbeMemSetDouble self val =>
    -- A NaN is stored as NULL, which always goes well.
    by_cases hnan : val.isNaN = true
    · obtain ⟨hkeeps, -⟩ := h.onCell (i := self) (P := True)
        (f := Cell.sqlite3VdbeMemSetDouble D val) (by
          unfold Cell.sqlite3VdbeMemSetDouble
          rw [if_pos hnan]
          exact Cell.sqlite3VdbeMemSetNull_outcome (h.plain self) (h.holds self))
      exact ⟨fun _ => hkeeps trivial, fun hno => absurd (Or.inl hnan) hno⟩
    · obtain ⟨hkeeps, hbreaks⟩ := h.onCell (i := self)
        (P := (s.cells self).flags = MEM_Real ∨ (s.cells self).szMalloc = 0)
        (f := Cell.sqlite3VdbeMemSetDouble D val) (by
          unfold Cell.sqlite3VdbeMemSetDouble
          rw [if_neg hnan]
          exact Cell.setNumber_outcome (h.plain self) (h.holds self) (Or.inr rfl) _)
      exact ⟨fun hyes => hkeeps (hyes.resolve_left hnan),
        fun hno => hbreaks fun hyes => hno (Or.inr hyes)⟩
  | sqlite3VdbeMemSetNull self =>
    obtain ⟨hkeeps, -⟩ := h.onCell
      (Cell.sqlite3VdbeMemSetNull_outcome (D := D) (h.plain self) (h.holds self))
    exact ⟨fun _ => hkeeps trivial, fun hno => absurd trivial hno⟩

variable (D) in
/-- Along the run every operation returns, without a fault, and every state keeps the invariant. Each
operation comes with the answers of the allocator, which may depend on what happened before. -/
def KeepsOwnership : List (Allocator × Op ι) → State ι → Prop
  | [], s => Owned s
  | (A, op) :: ops, s => Owned s ∧ ∃ s', s.step A D op = .ok s' ∧ KeepsOwnership ops s'

variable (D) in
/-- Along the run every operation is allowed in the state before it. -/
def AllAllowed : List (Allocator × Op ι) → State ι → Prop
  | [], _ => True
  | (A, op) :: ops, s => Allowed A s op ∧ ∀ s', s.step A D op = .ok s' → AllAllowed ops s'

/-- Whether the operations are allowed is decided by running them. -/
instance AllAllowed.decidable : ∀ ops (s : State ι), Decidable (AllAllowed D ops s)
  | [], _ => inferInstanceAs (Decidable True)
  | (A, op) :: ops, s =>
    match hs : s.step A D op with
    | .error _ => decidable_of_iff (Allowed A s op)
        ⟨fun ha => ⟨ha, fun _ hs' => nomatch hs.symm.trans hs'⟩, fun h => h.1⟩
    | .ok s' =>
      have := AllAllowed.decidable ops s'
      decidable_of_iff (Allowed A s op ∧ AllAllowed D ops s')
        ⟨fun h => ⟨h.1, fun _ hs' => Except.ok.inj (hs.symm.trans hs') ▸ h.2⟩,
          fun h => ⟨h.1, h.2 s' hs⟩⟩

/-- The cells own nothing: no allocation is live, none is claimed, and there are no destructors. -/
structure OwnsNothing (s : State ι) : Prop where
  /-- No allocation is live. -/
  heap : ∀ a, s.heap a = none
  /-- No cell claims one. -/
  szMalloc : ∀ i, (s.cells i).szMalloc = 0
  /-- The cells are plain. -/
  plain : ∀ i, (s.cells i).Plain

omit [DecidableEq ι] in
/-- A state in which nobody owns anything meets the invariant. -/
theorem OwnsNothing.inv (h : OwnsNothing s) : Inv s where
  holds i := fun hpos => absurd (h.szMalloc i) (by omega)
  owner a := fun ha => by rw [h.heap a] at ha; cases ha
  plain := h.plain

/-- The ownership is kept along a run exactly if its operations are allowed. -/
theorem Inv.keeps_iff (ops : List (Allocator × Op ι)) :
    ∀ s : State ι, Inv s → (KeepsOwnership D ops s ↔ AllAllowed D ops s) := by
  induction ops with
  | nil => exact fun s h => ⟨fun _ => trivial, fun _ => h.toOwned⟩
  | cons x ops ih =>
    obtain ⟨A, op⟩ := x
    intro s h
    obtain ⟨hkeeps, hbreaks⟩ := h.step (A := A) (D := D) op
    constructor
    · rintro ⟨-, t, ht, hrest⟩
      have howned : Owned t := by
        cases ops with
        | nil => exact hrest
        | cons _ _ => exact hrest.1
      have hallowed : Allowed A s op := by
        by_contra hno
        exact hbreaks hno t ht howned
      obtain ⟨s', hs', hinv⟩ := hkeeps hallowed
      obtain rfl := Except.ok.inj (hs'.symm.trans ht)
      refine ⟨hallowed, fun u hu => ?_⟩
      obtain rfl := Except.ok.inj (hs'.symm.trans hu)
      exact (ih s' hinv).mp hrest
    · rintro ⟨hallowed, hall⟩
      obtain ⟨s', hs', hinv⟩ := hkeeps hallowed
      exact ⟨h.toOwned, s', hs', (ih s' hinv).mpr (hall s' hs')⟩

/-- From cells that own nothing, the ownership is kept along a run exactly if no operation but
`sqlite3VdbeMemMove` releases a cell with a buffer, and none copies out of freed memory. -/
theorem keepsOwnership_iff (h : OwnsNothing s) (ops : List (Allocator × Op ι)) :
    KeepsOwnership D ops s ↔ AllAllowed D ops s := h.inv.keeps_iff ops s

end cells

/-! ## Concrete runs -/

/-- An allocator with room for one allocation at a time. -/
def Allocator.at (a : ℕ) : Allocator where
  malloc h n := if h a = none then some (a, n) else none
  fresh h := by
    split_ifs at h with hnone
    obtain ⟨rfl, -⟩ := Prod.mk.inj (Option.some.inj h)
    exact hnone
  enough h := by
    split_ifs at h
    exact (Prod.mk.inj (Option.some.inj h)).2.le

/-- The allocator with room for one allocation at the address 0. -/
def Allocator.single : Allocator := .at 0

/-- No destructor is there. -/
def Destructors.none : Destructors := ⟨fun _ _ => .error .free, fun _ _ => .error .free⟩

/-- A static text of three bytes. -/
def staticText : Cell := ⟨MEM_Str ||| MEM_Static, 0, 3, SQLITE_UTF8, .ext 0, .null, 0⟩

/-- Cells with static texts. -/
def staticTexts (ι : Type) : State ι := ⟨fun _ => staticText, fun _ => Option.none⟩

/-- Static texts own nothing. -/
theorem ownsNothing_staticTexts (ι : Type) : OwnsNothing (staticTexts ι) where
  heap _ := rfl
  szMalloc _ := rfl
  plain _ := by
    show staticText.Plain
    exact ⟨by decide, fun _ => by decide, fun h => absurd h (by decide)⟩

/-- A text is copied from cell to cell, made longer, and moved over the cell that it came from. -/
def movedBack : List (Allocator × Op Bool) :=
  [(.single, .sqlite3VdbeMemMakeWriteable false), (.single, .sqlite3VdbeMemShallowCopy true false .ephem),
    (.at 1, .sqlite3VdbeMemMakeWriteable true), (.at 1, .sqlite3VdbeMemGrow true 50 true),
    (.single, .sqlite3VdbeMemMove false true), (.single, .sqlite3VdbeMemSetInt64 true 5)]

theorem keepsOwnership_moved : KeepsOwnership Destructors.none movedBack (staticTexts Bool) :=
  (keepsOwnership_iff (ownsNothing_staticTexts Bool) movedBack).mpr (by decide +kernel)

/-- An integer in the place of a text with a buffer. The allocation is freed and still claimed. -/
def textToInt : List (Op (Fin 3)) := [.sqlite3VdbeMemMakeWriteable 0, .sqlite3VdbeMemSetInt64 0 5]

/-- A text is moved, copied back to where it was, and not made that cell's own, since the pointer is
equal to the `zMalloc` that the move has left. Then it is freed in the other cell. -/
def copiedBack : List (Op (Fin 3)) :=
  [.sqlite3VdbeMemMakeWriteable 0, .sqlite3VdbeMemMove 1 0, .sqlite3VdbeMemShallowCopy 0 1 .ephem,
    .sqlite3VdbeMemMakeWriteable 0, .sqlite3VdbeMemMove 1 2]

/-- In the first run the next text that is copied to the cell is written to a null pointer. In the
second one the cell is grown out of freed memory. -/
theorem not_keepsOwnership_textToInt :
    OwnsNothing (staticTexts (Fin 3)) ∧
    ¬ KeepsOwnership Destructors.none (textToInt.map fun op => (.single, op)) (staticTexts (Fin 3)) ∧
    (textToInt ++ [Op.sqlite3VdbeMemShallowCopy 0 1 .static, Op.sqlite3VdbeMemMakeWriteable 0]).foldlM
      (State.step Allocator.single Destructors.none) (staticTexts (Fin 3)) = .error .write ∧
    ¬ KeepsOwnership Destructors.none ((copiedBack.map fun op => (.single, op)) ++
      [(.at 1, .sqlite3VdbeMemGrow 0 50 true)]) (staticTexts (Fin 3)) ∧
    (copiedBack.foldlM (State.step Allocator.single Destructors.none) (staticTexts (Fin 3)) >>= fun s =>
      s.step (.at 1) Destructors.none (.sqlite3VdbeMemGrow 0 50 true)) = .error .read := by
  refine ⟨ownsNothing_staticTexts (Fin 3), ?_, rfl, ?_, rfl⟩
  · rintro ⟨-, s₁, h₁, -, s₂, h₂, howned⟩
    obtain rfl := Except.ok.inj h₁
    obtain rfl := Except.ok.inj h₂
    obtain ⟨a, size, hz, -⟩ := howned.holds 0 (by decide)
    cases hz
  · rintro ⟨-, s₁, h₁, -, s₂, h₂, -, s₃, h₃, -, s₄, h₄, -, s₅, h₅, -, s₆, h₆, -⟩
    obtain rfl := Except.ok.inj h₁
    obtain rfl := Except.ok.inj h₂
    obtain rfl := Except.ok.inj h₃
    obtain rfl := Except.ok.inj h₄
    obtain rfl := Except.ok.inj h₅
    cases h₆

end SQPyte.Buffers
