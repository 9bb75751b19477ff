import SQPyte.Mem.Memory
import SQPyte.Vdbe.Moves

/-!
# What a method of one cell leaves alone

A method of one cell leaves the allocations that the cell does not own as they are, contents
included, and the cell comes to own none of them (`Keeps`).

For the methods that copy nothing this is a fact about sizes (`Spares`). For the others each part of
`sqlite3VdbeMemGrow` has one lemma that says all that it can do, and the methods follow from these.
-/

namespace SQPyte.Memory

open Buffers (Ptr Cell Destructors Freed)

/-- The destructors act on memory outside of the cells: `vdbeMemClearExternAndSetNull` leaves a NULL,
and `xDel` frees no allocation of a cell. -/
structure Outside (D : Destructors) : Prop where
  /-- `vdbeMemClearExternAndSetNull`. -/
  clear : D.Lawful
  /-- `xDel(z)`. -/
  xDel : ∀ p h h', D.xDel p h = .ok h' → h' = h

/-- A sequence returns if both parts do. -/
theorem bind_eq_ok {ε α β : Type} {x : Except ε α} {f : α → Except ε β} {b : β} :
    x >>= f = .ok b ↔ ∃ a, x = .ok a ∧ f a = .ok b := by
  cases x with
  | error e => simp [bind, Except.bind]
  | ok a => simp [bind, Except.bind]

/-! ## Sizes -/

section sizes

variable {D : Destructors} {c c' c'' : Cell} {h h' h'' : Buffers.Heap}

/-- The allocations that a cell does not own are left alone, and not owned afterwards. -/
structure Spares (c : Cell) (h : Buffers.Heap) (c' : Cell) (h' : Buffers.Heap) : Prop where
  /-- The cell has what it claims. -/
  live : c'.Live h'
  /-- The allocations of others are as they were. -/
  frame : ∀ a, h a ≠ none → ¬ c.Owns a → h' a = h a
  /-- They are still those of others. -/
  owns : ∀ a, h a ≠ none → ¬ c.Owns a → ¬ c'.Owns a

/-- Only other fields are changed. -/
theorem Spares.of_same (hc : c.Live h) (hz : c'.zMalloc = c.zMalloc)
    (hsz : c'.szMalloc = c.szMalloc) : Spares c h c' h := by
  refine ⟨?_, fun _ _ _ => rfl, fun a _ hno howns => hno ?_⟩
  · unfold Cell.Live
    rw [hz, hsz]
    exact hc
  · exact ⟨hsz ▸ howns.1, hz ▸ howns.2⟩

/-- What is spared one after the other. -/
theorem Spares.trans (h₁ : Spares c h c' h') (h₂ : Spares c' h' c'' h'') : Spares c h c'' h'' := by
  have hkept : ∀ a, h a ≠ none → ¬ c.Owns a → h' a ≠ none ∧ ¬ c'.Owns a := fun a ha hno =>
    ⟨by rw [h₁.frame a ha hno]; exact ha, h₁.owns a ha hno⟩
  refine ⟨h₂.live, fun a ha hno => ?_, fun a ha hno => ?_⟩
  · obtain ⟨ha', hno'⟩ := hkept a ha hno
    rw [h₂.frame a ha' hno', h₁.frame a ha hno]
  · obtain ⟨ha', hno'⟩ := hkept a ha hno
    exact h₂.owns a ha' hno'

/-- What is destroyed is outside of the cells. -/
theorem Spares.of_destroyed (hd : Buffers.Destroyed c h c' h') : Spares c h c' h' := by
  have howns : ∀ a, h a ≠ none → ¬ c.Owns a → ¬ c'.Owns a := fun a ha hno howns =>
    ha (hd.fresh a howns hno)
  exact ⟨hd.live, fun a ha hno => hd.frame a hno (howns a ha hno), howns⟩

/-- What the cell owned is freed, and it owns nothing. -/
theorem Spares.of_freed (hf : Freed c h h') (hz : c'.zMalloc = .null) : Spares c h c' h' := by
  refine ⟨fun _ => Or.inl hz, fun a _ hno => hf.frame a hno, fun a _ _ howns => ?_⟩
  have hptr := hz.symm.trans howns.2
  cases hptr

/-- A dynamic cell is NULL afterwards. -/
theorem spares_clear (hD : Outside D) (hc : c.Live h) (hdyn : VdbeMemDynamic c.flags = true)
    (hrun : D.vdbeMemClearExternAndSetNull c h = .ok (c', h')) :
    Spares c h c' h' ∧ c'.flags = MEM_Null := by
  obtain ⟨c₁, h₁, hrun₁, hd⟩ := hD.clear c h hc hdyn
  obtain ⟨rfl, rfl⟩ := Prod.mk.inj (Except.ok.inj (hrun₁.symm.trans hrun))
  exact ⟨Spares.of_destroyed hd, hd.flags⟩

/-- The routine of C spares the allocations of others, and leaves NULL. -/
theorem spares_c_sqlite3VdbeMemSetNull (hD : Outside D) (hc : c.Live h)
    (hrun : c.c_sqlite3VdbeMemSetNull D h = .ok (c', h')) :
    Spares c h c' h' ∧ c'.flags = MEM_Null := by
  unfold Cell.c_sqlite3VdbeMemSetNull at hrun
  split_ifs at hrun with hdyn
  · exact spares_clear hD hc hdyn hrun
  · obtain ⟨rfl, rfl⟩ := Prod.mk.inj (Except.ok.inj hrun)
    exact ⟨Spares.of_same hc rfl rfl, rfl⟩

/-- So does the macro, which calls a destructor at most. -/
theorem spares_VdbeMemRelease (hD : Outside D) (hc : c.Live h)
    (hrun : c.VdbeMemRelease D h = .ok (c', h')) : Spares c h c' h' := by
  unfold Cell.VdbeMemRelease at hrun
  split_ifs at hrun with hdyn
  · exact (spares_clear hD hc hdyn hrun).1
  · obtain ⟨rfl, rfl⟩ := Prod.mk.inj (Except.ok.inj hrun)
    exact Spares.of_same hc rfl rfl

/-- Clearing frees no allocation but the cell's own. -/
theorem spares_vdbeMemClear (hD : Outside D) (hc : c.Live h)
    (hrun : c.vdbeMemClear D h = .ok (c', h')) : Spares c h c' h' := by
  unfold Cell.vdbeMemClear at hrun
  obtain ⟨⟨c₁, h₁⟩, hrel, hrest⟩ := bind_eq_ok.mp hrun
  have hs₁ := spares_VdbeMemRelease hD hc hrel
  dsimp only at hrest
  split_ifs at hrest with hsz
  · obtain ⟨h₂, hfree, hrun₂⟩ := bind_eq_ok.mp hrest
    obtain ⟨rfl, rfl⟩ := Prod.mk.inj (Except.ok.inj hrun₂)
    obtain ⟨h₃, hfree₃, hfreed⟩ := hs₁.live.free hsz
    obtain rfl := Except.ok.inj (hfree₃.symm.trans hfree)
    exact hs₁.trans (Spares.of_freed hfreed rfl)
  · obtain ⟨rfl, rfl⟩ := Prod.mk.inj (Except.ok.inj hrest)
    exact hs₁.trans (Spares.of_same hs₁.live rfl rfl)

/-- Nor does a release. -/
theorem spares_sqlite3VdbeMemRelease (hD : Outside D) (hc : c.Live h)
    (hrun : c.sqlite3VdbeMemRelease D h = .ok (c', h')) : Spares c h c' h' := by
  unfold Cell.sqlite3VdbeMemRelease at hrun
  obtain ⟨⟨c₁, h₁⟩, hrel, hrest⟩ := bind_eq_ok.mp hrun
  have hs₁ := spares_VdbeMemRelease hD hc hrel
  dsimp only at hrest
  split_ifs at hrest with hclear
  · exact hs₁.trans (spares_vdbeMemClear hD hs₁.live hrest)
  · obtain ⟨rfl, rfl⟩ := Prod.mk.inj (Except.ok.inj hrest)
    exact hs₁

/-- A number in the place of what was there. -/
theorem spares_number (hD : Outside D) (hc : c.Live h) {f : Flags} {u : BitVec 64}
    (hrun : (do
      let (self, h) ←
        if c.flags ≠ f then do
          let (self, h) ← c.sqlite3VdbeMemRelease D h
          pure ({ self with flags := f }, h)
        else pure (c, h)
      return ({ self with u := u }, h)) = Except.ok (c', h')) : Spares c h c' h' := by
  dsimp only at hrun
  split_ifs at hrun with hflags
  · obtain ⟨⟨c₁, h₁⟩, hrel, hrest⟩ := bind_eq_ok.mp hrun
    obtain ⟨rfl, rfl⟩ := Prod.mk.inj (Except.ok.inj hrest)
    have hs := spares_sqlite3VdbeMemRelease hD hc hrel
    exact hs.trans (Spares.of_same hs.live rfl rfl)
  · obtain ⟨rfl, rfl⟩ := Prod.mk.inj (Except.ok.inj hrun)
    exact Spares.of_same hc rfl rfl

/-- Setting a cell to NULL frees no allocation but its own. -/
theorem spares_sqlite3VdbeMemSetNull (hD : Outside D) (hc : c.Live h)
    (hrun : c.sqlite3VdbeMemSetNull D h = .ok (c', h')) : Spares c h c' h' := by
  unfold Cell.sqlite3VdbeMemSetNull at hrun
  split_ifs at hrun with hframe
  · exact (spares_c_sqlite3VdbeMemSetNull hD hc hrun).1
  · obtain ⟨rfl, rfl⟩ := Prod.mk.inj (Except.ok.inj hrun)
    exact Spares.of_same hc rfl rfl

/-- Nor does setting it to a real. -/
theorem spares_sqlite3VdbeMemSetDouble (hD : Outside D) (hc : c.Live h) {val : Binary64}
    (hrun : c.sqlite3VdbeMemSetDouble D val h = .ok (c', h')) : Spares c h c' h' := by
  unfold Cell.sqlite3VdbeMemSetDouble at hrun
  by_cases hnan : val.isNaN = true
  · rw [if_pos hnan] at hrun
    exact spares_sqlite3VdbeMemSetNull hD hc hrun
  · rw [if_neg hnan] at hrun
    exact spares_number hD hc hrun

/-- The assignments of `sqlite3VdbeMemShallowCopy`. -/
theorem copyFields_spec {d : Cell} {srcType : Cell.SrcType}
    (hrun : c.copyFields d srcType = .ok c') :
    c'.zMalloc = c.zMalloc ∧ c'.szMalloc = c.szMalloc ∧ c'.z = d.z ∧ c'.n = d.n ∧
      c'.flags = if d.flags.has MEM_Static then d.flags
        else d.flags &&& ~~~(MEM_Dyn ||| MEM_Static ||| MEM_Ephem) ||| srcType.mask := by
  unfold Cell.copyFields at hrun
  dsimp only at hrun
  by_cases hagg : (d.flags.has MEM_Agg && d.flags ≠ MEM_Agg) = true
  · rw [if_pos hagg] at hrun
    cases hrun
  by_cases hframe : (d.flags.has MEM_Frame && d.flags ≠ MEM_Frame) = true
  · rw [if_neg hagg, if_pos hframe] at hrun
    cases hrun
  rw [if_neg hagg, if_neg hframe] at hrun
  obtain rfl := Except.ok.inj hrun
  exact ⟨rfl, rfl, rfl, rfl, rfl⟩

end sizes

/-! ## Contents -/

section contents

variable {A : Allocator} {D : Destructors} {c c' c'' : Cell} {w w' w'' : World}
  {h : Buffers.Heap} {a : ℕ}

/-- An allocation has a size exactly if it is live. -/
theorem World.sizes_ne_none : w.sizes a ≠ none ↔ w.heap a ≠ none := by
  unfold World.sizes
  rw [Ne, Option.map_eq_none_iff]

/-- The sizes are those it was given. -/
theorem World.sizes_resized : (w.resized A h).sizes = h := by
  funext a
  unfold World.sizes World.resized
  dsimp only
  cases hh : h a with
  | none => rfl
  | some size =>
    rw [Option.map_some, Option.map_some]
    split_ifs with hsame
    · obtain ⟨bs, hbs, hlen⟩ := Option.map_eq_some_iff.mp hsame
      rw [hbs, Option.getD_some, hlen]
    · rw [A.length_content]

/-- An allocation of the same size has the same content. -/
theorem World.heap_resized (hsame : h a = w.sizes a) : (w.resized A h).heap a = w.heap a := by
  show (h a).map _ = w.heap a
  rw [hsame]
  cases hw : w.heap a with
  | none =>
    unfold World.sizes
    rw [hw]
    rfl
  | some bs =>
    have hsize : w.sizes a = some bs.length := by
      unfold World.sizes
      rw [hw]
      rfl
    rw [hsize, Option.map_some, if_pos rfl, Option.getD_some]

/-- To give it the sizes it has changes nothing. -/
theorem World.resized_sizes : w.resized A w.sizes = w := by
  have hheap : (w.resized A w.sizes).heap = w.heap := funext fun a => World.heap_resized rfl
  calc w.resized A w.sizes = ⟨(w.resized A w.sizes).heap, w.ext⟩ := rfl
    _ = w := by rw [hheap]

/-- The allocations that a cell does not own are left alone with their contents, and not owned
afterwards. -/
structure Keeps (c : Cell) (w : World) (c' : Cell) (w' : World) : Prop where
  /-- The cell has what it claims. -/
  live : c'.Live w'.sizes
  /-- The allocations of others are as they were. -/
  frame : ∀ a, w.heap a ≠ none → ¬ c.Owns a → w'.heap a = w.heap a
  /-- They are still those of others. -/
  owns : ∀ a, w.heap a ≠ none → ¬ c.Owns a → ¬ c'.Owns a
  /-- Nothing outside of the cells is written. -/
  ext : w'.ext = w.ext

/-- Only other fields are changed. -/
theorem Keeps.of_same (hc : c.Live w.sizes) (hz : c'.zMalloc = c.zMalloc)
    (hsz : c'.szMalloc = c.szMalloc) : Keeps c w c' w := by
  have hs := Spares.of_same hc hz hsz
  exact ⟨hs.live, fun _ _ _ => rfl, fun a ha hno => hs.owns a (World.sizes_ne_none.mpr ha) hno, rfl⟩

/-- What is kept one after the other. -/
theorem Keeps.trans (h₁ : Keeps c w c' w') (h₂ : Keeps c' w' c'' w'') : Keeps c w c'' w'' := by
  have hkept : ∀ a, w.heap a ≠ none → ¬ c.Owns a → w'.heap a ≠ none ∧ ¬ c'.Owns a :=
    fun a ha hno => ⟨by rw [h₁.frame a ha hno]; exact ha, h₁.owns a ha hno⟩
  refine ⟨h₂.live, fun a ha hno => ?_, fun a ha hno => ?_, h₂.ext.trans h₁.ext⟩
  · obtain ⟨ha', hno'⟩ := hkept a ha hno
    rw [h₂.frame a ha' hno', h₁.frame a ha hno]
  · obtain ⟨ha', hno'⟩ := hkept a ha hno
    exact h₂.owns a ha' hno'

/-- What holds of the sizes holds of the contents. -/
theorem Spares.keeps (hs : Spares c w.sizes c' h) : Keeps c w c' (w.resized A h) := by
  refine ⟨?_, fun a ha hno => ?_, fun a ha hno => hs.owns a (World.sizes_ne_none.mpr ha) hno, rfl⟩
  · rw [World.sizes_resized]
    exact hs.live
  · exact World.heap_resized (hs.frame a (World.sizes_ne_none.mpr ha) hno)

/-- A routine that only frees is run on the sizes. -/
theorem freeing_eq_ok {f : Cell → Buffers.Heap → Except Buffers.Fault (Cell × Buffers.Heap)}
    (hrun : freeing A f c w = .ok (c', w')) :
    ∃ h, f c w.sizes = .ok (c', h) ∧ w' = w.resized A h := by
  unfold freeing at hrun
  cases hf : f c w.sizes with
  | error e =>
    rw [hf] at hrun
    cases hrun
  | ok x =>
    obtain ⟨c₁, h⟩ := x
    rw [hf] at hrun
    obtain ⟨rfl, rfl⟩ := Prod.mk.inj (Except.ok.inj hrun)
    exact ⟨h, rfl, rfl⟩

/-- A destructor from outside touches no allocation. -/
theorem xDel_eq_ok (hD : Outside D) {p : Ptr} (hrun : xDel A D p w = .ok w') : w' = w := by
  unfold xDel at hrun
  cases hx : D.xDel p w.sizes with
  | error e =>
    rw [hx] at hrun
    cases hrun
  | ok h =>
    rw [hx] at hrun
    obtain rfl := Except.ok.inj hrun
    rw [hD.xDel p _ h hx, World.resized_sizes]

/-! ### `sqlite3VdbeMemGrow` -/

/-- What is written lies in a live allocation. -/
theorem World.write_eq_ok {p : Ptr} {at_ : ℤ} {bs : List Byte} (hrun : w.write p at_ bs = .ok w') :
    ∃ a old, p = .heap a ∧ w.heap a = some old ∧ 0 ≤ at_ ∧ at_ + bs.length ≤ old.length ∧
      w' = w.set a (some (World.splice at_.toNat bs old)) := by
  unfold World.write at hrun
  cases p with
  | null => cases hrun
  | ext id => cases hrun
  | heap a =>
    dsimp only at hrun
    cases hold : w.heap a with
    | none =>
      rw [hold] at hrun
      cases hrun
    | some old =>
      rw [hold] at hrun
      dsimp only at hrun
      split_ifs at hrun with hle
      obtain rfl := Except.ok.inj hrun
      exact ⟨a, old, rfl, hold, hle.1, hle.2, rfl⟩

/-- What is read are the first bytes of the content. -/
theorem World.read_eq_ok {p : Ptr} {n : ℤ} {bs : List Byte} (hrun : w.read p n = .ok bs) :
    0 ≤ n ∧ n ≤ (w.content p).length ∧ bs = (w.content p).take n.toNat := by
  unfold World.read at hrun
  split_ifs at hrun with hle
  exact ⟨hle.1, hle.2, (Except.ok.inj hrun).symm⟩

/-- The other allocations. -/
theorem World.heap_set_ne {b : ℕ} (hne : b ≠ a) (bs : Option (List Byte)) :
    (w.set a bs).heap b = w.heap b := Function.update_of_ne hne ..

/-- The allocation that was set. -/
theorem World.heap_set_self (bs : Option (List Byte)) : (w.set a bs).heap a = bs :=
  Function.update_self ..

/-- What is freed is no more, and the rest is as it was. -/
theorem World.sqlite3DbFree_eq_ok {p : Ptr} (hrun : w.sqlite3DbFree p = .ok w') :
    w'.ext = w.ext ∧ (∀ a, p = .heap a → w'.heap a = none) ∧
      ∀ a, p ≠ .heap a → w'.heap a = w.heap a := by
  cases p with
  | null =>
    obtain rfl := Except.ok.inj hrun
    exact ⟨rfl, fun _ h => Ptr.noConfusion h, fun _ _ => rfl⟩
  | ext id => cases hrun
  | heap b =>
    unfold World.sqlite3DbFree at hrun
    dsimp only at hrun
    split_ifs at hrun
    obtain rfl := Except.ok.inj hrun
    refine ⟨rfl, fun a h => ?_, fun a h => World.heap_set_ne (fun hab => h (by rw [hab])) none⟩
    obtain rfl := Ptr.heap.inj h
    exact World.heap_set_self none

/-- What the first part of `sqlite3VdbeMemGrow` leaves: an allocation of `n` bytes or none, in the
place of the cell's own. -/
structure Allocated (n : ℕ) (p : Cell) (w : World) (p' : Cell) (w' : World) : Prop where
  /-- The other fields are as they were. -/
  fields : p' = { p with z := p'.z, zMalloc := p'.zMalloc }
  /-- The allocations of others are as they were. -/
  frame : ∀ a, w.heap a ≠ none → ¬ p.Owns a → w'.heap a = w.heap a ∧ p'.zMalloc ≠ .heap a
  /-- Nothing outside of the cells is written. -/
  ext : w'.ext = w.ext
  /-- The allocation. -/
  zMalloc : p'.zMalloc = .null ∨
    ∃ a bs, p'.zMalloc = .heap a ∧ w'.heap a = some bs ∧ n ≤ bs.length

/-- A new allocation where what the cell owned is freed. -/
theorem allocated_of_freed {p p' : Cell} {w₁ : World} {n : ℕ}
    (hfields : p' = { p with z := p'.z, zMalloc := p'.zMalloc })
    (hframe : ∀ a, ¬ p.Owns a → w₁.heap a = w.heap a) (hext : w₁.ext = w.ext)
    (hnone : A.malloc w₁.sizes n = none → p'.zMalloc = .null ∧ w' = w₁)
    (hsome : ∀ a size, A.malloc w₁.sizes n = some (a, size) →
      p'.zMalloc = .heap a ∧ ∃ bs, bs.length = size ∧ w' = w₁.set a (some bs)) :
    Allocated n p w p' w' := by
  cases hm : A.malloc w₁.sizes n with
  | none =>
    obtain ⟨hz, rfl⟩ := hnone hm
    refine ⟨hfields, fun a _ hno => ⟨hframe a hno, fun h => ?_⟩, hext, Or.inl hz⟩
    rw [hz] at h
    cases h
  | some x =>
    obtain ⟨b, size⟩ := x
    obtain ⟨hz, bs, hlen, rfl⟩ := hsome b size hm
    have hfresh : w₁.heap b = none := by
      have hb := A.fresh hm
      unfold World.sizes at hb
      exact Option.map_eq_none_iff.mp hb
    have hother : ∀ a, w.heap a ≠ none → ¬ p.Owns a → a ≠ b := by
      rintro a ha hno rfl
      exact ha ((hframe a hno).symm.trans hfresh)
    refine ⟨hfields, fun a ha hno => ⟨?_, fun h => ?_⟩, hext,
      Or.inr ⟨b, bs, hz, World.heap_set_self _, ?_⟩⟩
    · rw [World.heap_set_ne (hother a ha hno), hframe a hno]
    · exact hother a ha hno (Ptr.heap.inj (h.symm.trans hz))
    · rw [hlen]
      exact A.enough hm

/-- A text or blob in the cell's own allocation is moved to a larger one. -/
theorem growAlloc_realloc {p p' : Cell} {n : ℕ} {bPreserve b' : Bool}
    (hown : (bPreserve && 0 < p.szMalloc && p.z = p.zMalloc) = true)
    (hrun : growAlloc A n bPreserve p w = .ok (b', p', w')) :
    Allocated n p w p' w' ∧ b' = false ∧ p'.z = p'.zMalloc ∧
      (p'.zMalloc ≠ .null → ∀ k ≤ n, k ≤ (w.content p.z).length →
        (w'.content p'.z).take k = (w.content p.z).take k) := by
  have hconds : bPreserve = true ∧ 0 < p.szMalloc ∧ p.z = p.zMalloc := by
    simpa [and_assoc] using hown
  obtain ⟨-, hsz, hz⟩ := hconds
  unfold growAlloc at hrun
  rw [if_pos hown] at hrun
  obtain ⟨⟨z, w₂⟩, hrealloc, hrest⟩ := bind_eq_ok.mp hrun
  obtain ⟨rfl, hp, rfl⟩ : b' = false ∧ p' = { p with z := z, zMalloc := z } ∧ w' = w₂ := by
    obtain ⟨h1, h2⟩ := Prod.mk.inj (Except.ok.inj hrest)
    obtain ⟨h2, h3⟩ := Prod.mk.inj h2
    exact ⟨h1.symm, h2.symm, h3.symm⟩
  -- `realloc` frees the old allocation and fills the new one with what it held.
  unfold World.sqlite3DbReallocOrFree at hrealloc
  obtain ⟨w₁, hfree, hmalloc⟩ := bind_eq_ok.mp hrealloc
  obtain ⟨hext, -, hkept⟩ := World.sqlite3DbFree_eq_ok hfree
  have hframe : ∀ a, ¬ p.Owns a → w₁.heap a = w.heap a := fun a hno =>
    hkept a fun h => hno ⟨hsz, hz ▸ h⟩
  have hfields : p' = { p with z := p'.z, zMalloc := p'.zMalloc } := by rw [hp]
  have hz' : p'.z = z := by rw [hp]
  have hzMalloc : p'.zMalloc = z := by rw [hp]
  -- Without memory the old allocation is freed all the same, and both pointers are NULL.
  cases hm : A.malloc w₁.sizes n with
  | none =>
    rw [hm] at hmalloc
    obtain ⟨rfl, rfl⟩ := Prod.mk.inj (Except.ok.inj hmalloc)
    refine ⟨allocated_of_freed (A := A) hfields hframe hext (fun _ => ⟨hzMalloc, rfl⟩)
      (fun a size h => by rw [hm] at h; cases h), rfl, hz'.trans hzMalloc.symm,
      fun hnull => absurd hzMalloc hnull⟩
  | some x =>
    obtain ⟨a, size⟩ := x
    rw [hm] at hmalloc
    obtain ⟨rfl, rfl⟩ := Prod.mk.inj (Except.ok.inj hmalloc)
    set old := w.content p.z with hold
    set bs := old.take size ++ (A.content a size).drop old.length with hbs
    have hlen : bs.length = size := by
      rw [hbs, List.length_append, List.length_take, List.length_drop, A.length_content]
      omega
    have hle : n ≤ size := A.enough hm
    refine ⟨allocated_of_freed (A := A) hfields hframe hext (fun h => by rw [hm] at h; cases h)
      (fun b size' h => ?_), rfl, hz'.trans hzMalloc.symm, fun _ k hk hkold => ?_⟩
    · rw [hm] at h
      obtain ⟨rfl, rfl⟩ := Prod.mk.inj (Option.some.inj h)
      exact ⟨hzMalloc, bs, hlen, rfl⟩
    · -- As many bytes as both allocations have are the old ones.
      have hcontent : (w₁.set a (some bs)).content p'.z = bs := by
        rw [hz']
        show ((w₁.set a (some bs)).heap a).getD [] = bs
        rw [World.heap_set_self, Option.getD_some]
      have hshort : k ≤ (old.take size).length := by
        rw [List.length_take]
        omega
      rw [hcontent, hbs, List.take_append_of_le_length hshort, List.take_take,
        Nat.min_eq_left (hk.trans hle)]

/-- Else what is in the cell's own allocation is lost. -/
theorem growAlloc_malloc {p p' : Cell} {n : ℕ} {bPreserve b' : Bool}
    (hown : ¬ (bPreserve && 0 < p.szMalloc && p.z = p.zMalloc) = true)
    (hrun : growAlloc A n bPreserve p w = .ok (b', p', w')) :
    Allocated n p w p' w' ∧ b' = bPreserve ∧ p'.z = p.z := by
  unfold growAlloc at hrun
  rw [if_neg hown] at hrun
  obtain ⟨w₁, hfreed, hrest⟩ : ∃ w₁ : World,
      (w₁.ext = w.ext ∧ ∀ a, ¬ p.Owns a → w₁.heap a = w.heap a) ∧
      (bPreserve, { p with zMalloc := (w₁.sqlite3DbMallocRaw A n).1 },
        (w₁.sqlite3DbMallocRaw A n).2) = (b', p', w') := by
    dsimp only at hrun
    split_ifs at hrun with hsz
    · obtain ⟨w₁, hfree, hrest⟩ := bind_eq_ok.mp hrun
      obtain ⟨hext, -, hkept⟩ := World.sqlite3DbFree_eq_ok hfree
      exact ⟨w₁, ⟨hext, fun a hno => hkept a fun h => hno ⟨hsz, h⟩⟩, Except.ok.inj hrest⟩
    · exact ⟨w, ⟨rfl, fun _ _ => rfl⟩, Except.ok.inj hrun⟩
  simp only [Prod.mk.injEq] at hrest
  obtain ⟨rfl, hp, rfl⟩ := hrest
  have hp := hp.symm
  have hzMalloc : p'.zMalloc = (w₁.sqlite3DbMallocRaw A n).1 := by rw [hp]
  refine ⟨allocated_of_freed (A := A) (by rw [hp]) hfreed.2 hfreed.1 (fun hm => ?_)
    (fun a size hm => ?_), rfl, by rw [hp]⟩
  · rw [hzMalloc]
    unfold World.sqlite3DbMallocRaw
    rw [hm]
    exact ⟨rfl, rfl⟩
  · rw [hzMalloc]
    unfold World.sqlite3DbMallocRaw
    rw [hm]
    exact ⟨rfl, A.content a size, A.length_content a size, rfl⟩

/-- After the first half of the growth the cell has an allocation of its own. -/
theorem growAlloc_allocated {p p' : Cell} {n : ℕ} {bPreserve b' : Bool}
    (hrun : growAlloc A n bPreserve p w = .ok (b', p', w')) : Allocated n p w p' w' := by
  by_cases hown : (bPreserve && 0 < p.szMalloc && p.z = p.zMalloc) = true
  · exact (growAlloc_realloc hown hrun).1
  · exact (growAlloc_malloc hown hrun).1

/-- What is copied at the end of `sqlite3VdbeMemGrow`. -/
theorem growFinish_eq_ok (hD : Outside D) {p p' : Cell} {bPreserve : Bool}
    (hrun : growFinish A D bPreserve p w = .ok (p', w')) :
    p' = { p with
      z := p.zMalloc, flags := p.flags &&& ~~~(MEM_Dyn ||| MEM_Ephem ||| MEM_Static) } ∧
    (w' = w ∧ (bPreserve = false ∨ p.z = .null ∨ p.z = p.zMalloc) ∨
      ∃ a old, p.zMalloc = .heap a ∧ w.heap a = some old ∧ 0 ≤ p.n ∧
        p.n ≤ (w.content p.z).length ∧ p.n ≤ old.length ∧
        w' = w.set a (some (World.splice 0 ((w.content p.z).take p.n.toNat) old))) := by
  unfold growFinish at hrun
  -- `xDel` changes nothing
  have hdel : ∀ w₁ : World, (do
      let w₂ ← if p.flags.has MEM_Dyn then xDel A D p.z w₁ else pure w₁
      return ({ p with
        z := p.zMalloc, flags := p.flags &&& ~~~(MEM_Dyn ||| MEM_Ephem ||| MEM_Static) }, w₂) :
        Except Fault (Cell × World)) = .ok (p', w') →
      p' = { p with
        z := p.zMalloc, flags := p.flags &&& ~~~(MEM_Dyn ||| MEM_Ephem ||| MEM_Static) } ∧
      w' = w₁ := by
    intro w₁ hrest
    dsimp only at hrest
    split_ifs at hrest with hdyn
    · obtain ⟨w₂, hx, hpure⟩ := bind_eq_ok.mp hrest
      obtain ⟨rfl, rfl⟩ := Prod.mk.inj (Except.ok.inj hpure)
      exact ⟨rfl, xDel_eq_ok hD hx⟩
    · obtain ⟨rfl, rfl⟩ := Prod.mk.inj (Except.ok.inj hrest)
      exact ⟨rfl, rfl⟩
  by_cases hcopy : (bPreserve && p.z ≠ .null && p.z ≠ p.zMalloc) = true
  · rw [if_pos hcopy] at hrun
    obtain ⟨bs, hread, hrest⟩ := bind_eq_ok.mp hrun
    obtain ⟨w₁, hwrite, hrest⟩ := bind_eq_ok.mp hrest
    obtain ⟨hn, hle, rfl⟩ := World.read_eq_ok hread
    obtain ⟨a, old, hz, hold, -, hfits, rfl⟩ := World.write_eq_ok hwrite
    obtain ⟨hp, rfl⟩ := hdel _ hrest
    refine ⟨hp, Or.inr ⟨a, old, hz, hold, hn, hle, ?_, rfl⟩⟩
    rw [List.length_take] at hfits
    omega
  · rw [if_neg hcopy] at hrun
    obtain ⟨hp, rfl⟩ := hdel _ hrun
    refine ⟨hp, Or.inl ⟨rfl, ?_⟩⟩
    simp only [Bool.and_eq_true, decide_eq_true_eq, not_and, not_not] at hcopy
    by_cases hb : bPreserve = true
    · by_cases hnull : p.z = .null
      · exact Or.inr (Or.inl hnull)
      · exact Or.inr (Or.inr (hcopy ⟨hb, hnull⟩))
    · exact Or.inl (Bool.eq_false_iff.mpr hb)

/-- What is written to the cell's own allocation is seen by no other cell. -/
theorem Keeps.of_set {p : Cell} (hown : p.Owns a) (bs : List Byte) :
    Keeps p w p (w.set a (some bs)) := by
  refine ⟨fun _ => Or.inr ⟨a, hown.2, ?_⟩, fun b _ hno => World.heap_set_ne ?_ _,
    fun b _ hno h => hno h, rfl⟩
  · unfold World.sizes
    rw [World.heap_set_self]
    rfl
  · rintro rfl
    exact hno hown

/-- What is copied goes to the cell's own allocation. -/
theorem keeps_growFinish (hD : Outside D) {p p' : Cell} {bPreserve : Bool} (hp : p.Live w.sizes)
    (hsz : 0 < p.szMalloc ∨ p.n < 0) (hrun : growFinish A D bPreserve p w = .ok (p', w')) :
    Keeps p w p' w' := by
  obtain ⟨rfl, ⟨rfl, -⟩ | ⟨a, old, hz, hold, hn, -, -, rfl⟩⟩ := growFinish_eq_ok hD hrun
  · exact Keeps.of_same hp rfl rfl
  · have hown : p.Owns a := ⟨by omega, hz⟩
    have hk := Keeps.of_set (w := w) hown (World.splice 0 ((w.content p.z).take p.n.toNat) old)
    exact hk.trans (Keeps.of_same hk.live rfl rfl)

/-- A cell whose buffer is grown. -/
structure GrownTo (n : ℤ) (p p' : Cell) : Prop where
  /-- The text or blob is in the cell's own allocation. -/
  z : p'.z = p'.zMalloc
  /-- It is large enough. -/
  size : n ≤ p'.szMalloc
  /-- The flags but for the kind of storage. -/
  flags : p'.flags = p.flags &&& ~~~(MEM_Dyn ||| MEM_Ephem ||| MEM_Static)
  /-- The union. -/
  u : p'.u = p.u
  /-- The length. -/
  n : p'.n = p.n

/-- A cell with no buffer owns nothing. -/
theorem Keeps.of_empty (h0 : c'.szMalloc = 0) : Keeps c w c' w :=
  ⟨fun hsz => absurd h0 hsz, fun _ _ _ => rfl, fun _ _ _ howns => absurd howns.1 (by omega), rfl⟩

/-- Growing a cell keeps the contents of the others. It has the size that was asked for, or is NULL.
-/
theorem keeps_sqlite3VdbeMemGrow (hD : Outside D) {p p' : Cell} {n : ℤ} {bPreserve : Bool} {rc : ℕ}
    (hp : p.Live w.sizes) (hn : 0 < n ∨ p.n < 0)
    (hrun : sqlite3VdbeMemGrow A D n bPreserve p w = .ok (rc, p', w')) :
    Keeps p w p' w' ∧ (rc = 0 → GrownTo n p p') ∧ (rc ≠ 0 → p'.flags = MEM_Null) := by
  unfold sqlite3VdbeMemGrow at hrun
  -- An allocation that is large enough is kept.
  by_cases hlt : (p.szMalloc : ℤ) < n
  · rw [if_pos hlt] at hrun
    obtain ⟨⟨b, p₁, w₁⟩, halloc, hrest⟩ := bind_eq_ok.mp hrun
    have hall := growAlloc_allocated halloc
    have hfields := hall.fields
    -- Without memory the cell owns nothing any more and is set to NULL.
    by_cases hnull : p₁.zMalloc = .null
    · dsimp only at hrest
      rw [if_pos hnull] at hrest
      obtain ⟨⟨p₂, w₂⟩, hclear, hpure⟩ := bind_eq_ok.mp hrest
      simp only [pure, Except.pure, Except.ok.injEq, Prod.mk.injEq] at hpure
      obtain ⟨rfl, rfl, rfl⟩ := hpure
      obtain ⟨h₂, hset, rfl⟩ := freeing_eq_ok hclear
      -- A cell without a buffer owns no allocation.
      have hnone : ∀ a, ¬ p₁.Owns a := fun a howns => by
        have := hnull.symm.trans howns.2
        cases this
      have hk₁ : Keeps p w p₁ w₁ := ⟨fun _ => Or.inl hnull, fun a ha hno => (hall.frame a ha hno).1,
        fun a _ _ => hnone a, hall.ext⟩
      obtain ⟨hs₂, hflags⟩ := spares_c_sqlite3VdbeMemSetNull hD hk₁.live hset
      refine ⟨(hk₁.trans hs₂.keeps).trans (Keeps.of_empty rfl), fun h => ?_, fun _ => hflags⟩
      cases h
    · dsimp only at hrest
      rw [if_neg hnull] at hrest
      obtain ⟨⟨p₂, w₂⟩, hfinish, hpure⟩ := bind_eq_ok.mp hrest
      simp only [pure, Except.pure, Except.ok.injEq, Prod.mk.injEq] at hpure
      obtain ⟨rfl, rfl, rfl⟩ := hpure
      obtain ⟨a, bs, hz, hbs, hlen⟩ := hall.zMalloc.resolve_left hnull
      -- The cell takes over the allocation, with the size that the allocator reports.
      have hsize : sqlite3DbMallocSize p₁.zMalloc w₁ = bs.length := by
        rw [hz]
        show ((w₁.heap a).map List.length).getD 0 = bs.length
        rw [hbs]
        rfl
      set p₃ : Cell := { p₁ with szMalloc := sqlite3DbMallocSize p₁.zMalloc w₁ } with hp₃
      have hsz : p₃.szMalloc = bs.length := hsize
      have hk₁ : Keeps p w p₃ w₁ := by
        refine ⟨fun _ => Or.inr ⟨a, hz, ?_⟩, fun b hb hno => (hall.frame b hb hno).1,
          fun b hb hno howns => (hall.frame b hb hno).2 howns.2, hall.ext⟩
        unfold World.sizes
        rw [hbs]
        rfl
      -- Finishing moves the content into it, and touches no other buffer.
      have hk₂ := keeps_growFinish hD hk₁.live (Or.inl (by omega)) hfinish
      obtain ⟨rfl, -⟩ := growFinish_eq_ok hD hfinish
      refine ⟨hk₁.trans hk₂, fun _ => ⟨rfl, ?_, ?_, ?_, ?_⟩, fun h => absurd rfl h⟩
      · show n ≤ (p₃.szMalloc : ℤ)
        omega
      · show p₁.flags &&& _ = _
        rw [hfields]
      · show p₁.u = _
        rw [hfields]
      · show p₁.n = _
        rw [hfields]
  · rw [if_neg hlt] at hrun
    obtain ⟨⟨p₂, w₂⟩, hfinish, hpure⟩ := bind_eq_ok.mp hrun
    simp only [pure, Except.pure, Except.ok.injEq, Prod.mk.injEq] at hpure
    obtain ⟨rfl, rfl, rfl⟩ := hpure
    have hk := keeps_growFinish hD hp (hn.imp_left (by omega)) hfinish
    obtain ⟨rfl, -⟩ := growFinish_eq_ok hD hfinish
    exact ⟨hk, fun _ => ⟨rfl, by show n ≤ (p.szMalloc : ℤ); omega, rfl, rfl, rfl⟩,
      fun h => absurd rfl h⟩

/-! ### The other methods that copy -/

/-- The two zeros. -/
theorem terminate_eq_ok {p : Cell} (hrun : terminate p w = .ok w') :
    ∃ a old, p.z = .heap a ∧ w.heap a = some old ∧ 0 ≤ p.n ∧ p.n + 2 ≤ old.length ∧
      w' = w.set a (some (World.splice (p.n + 1).toNat [0] (World.splice p.n.toNat [0] old))) := by
  unfold terminate at hrun
  obtain ⟨w₁, h₁, h₂⟩ := bind_eq_ok.mp hrun
  obtain ⟨a, old, hz, hold, hn, hle, rfl⟩ := World.write_eq_ok h₁
  obtain ⟨b, old₂, hz₂, hold₂, -, hle₂, rfl⟩ := World.write_eq_ok h₂
  obtain rfl : a = b := Ptr.heap.inj (hz.symm.trans hz₂)
  rw [World.heap_set_self] at hold₂
  obtain rfl := Option.some.inj hold₂
  refine ⟨a, old, hz, hold, hn, ?_, ?_⟩
  · have hlen : (World.splice p.n.toNat [0] old).length = old.length := by
      unfold World.splice
      simp only [List.length_append, List.length_take, List.length_drop, List.length_cons,
        List.length_nil] at hle ⊢
      omega
    rw [hlen] at hle₂
    simpa [add_assoc] using hle₂
  · unfold World.set
    dsimp only
    rw [Function.update_idem]

/-- The terminator is written into the cell's own allocation. -/
theorem keeps_terminate {p : Cell} (hz : p.z = p.zMalloc) (hsz : p.n + 2 ≤ p.szMalloc)
    (hrun : terminate p w = .ok w') : Keeps p w p w' := by
  obtain ⟨a, old, hz', -, hn, -, rfl⟩ := terminate_eq_ok hrun
  exact Keeps.of_set ⟨by omega, hz ▸ hz'⟩ _

/-- The buffer that the zeros of a blob are written to. -/
def expandedSize (p : Cell) : ℤ := if p.n + p.u_nZero ≤ 0 then 1 else p.n + p.u_nZero

/-- What `ExpandBlob` does to a blob whose zeros are implied. -/
theorem ExpandBlob_eq_ok {p p' : Cell} {rc : ℕ} (hzero : p.flags.has MEM_Zero = true)
    (hrun : ExpandBlob A D p w = .ok (rc, p', w')) :
    ∃ rc₁ p₁ w₁, sqlite3VdbeMemGrow A D (expandedSize p) true p w = .ok (rc₁, p₁, w₁) ∧
      (rc₁ ≠ 0 ∧ p' = p₁ ∧ w' = w₁ ∨
        rc₁ = 0 ∧ w₁.clear p₁.z p₁.n p₁.u_nZero = .ok w' ∧ p' = { p₁ with
          n := p₁.n + p₁.u_nZero, flags := p₁.flags &&& ~~~(MEM_Zero ||| MEM_Term) }) := by
  unfold ExpandBlob sqlite3VdbeMemExpandBlob at hrun
  rw [if_pos hzero] at hrun
  obtain ⟨⟨rc₁, p₁, w₁⟩, hgrow, hrest⟩ := bind_eq_ok.mp hrun
  refine ⟨rc₁, p₁, w₁, hgrow, ?_⟩
  by_cases hrc : rc₁ ≠ 0
  · dsimp only at hrest
    rw [if_pos hrc] at hrest
    simp only [pure, Except.pure, Except.ok.injEq, Prod.mk.injEq] at hrest
    obtain ⟨-, rfl, rfl⟩ := hrest
    exact Or.inl ⟨hrc, rfl, rfl⟩
  · dsimp only at hrest
    rw [if_neg hrc] at hrest
    obtain ⟨w₂, hclear, hpure⟩ := bind_eq_ok.mp hrest
    simp only [pure, Except.pure, Except.ok.injEq, Prod.mk.injEq] at hpure
    obtain ⟨-, rfl, rfl⟩ := hpure
    exact Or.inr ⟨not_not.mp hrc, hclear, rfl⟩

/-- Clearing is writing zeros. -/
theorem World.clear_eq_ok {p : Ptr} {at_ count : ℤ} (hrun : w.clear p at_ count = .ok w') :
    0 ≤ count ∧ w.write p at_ (List.replicate count.toNat 0) = .ok w' := by
  unfold World.clear at hrun
  split_ifs at hrun with hneg
  exact ⟨by omega, hrun⟩

/-- A blob is never expanded to nothing. -/
theorem expandedSize_pos (p : Cell) : 0 < expandedSize p := by
  unfold expandedSize
  split_ifs <;> omega

/-- Expanding a blob keeps the contents of the others. -/
theorem keeps_ExpandBlob (hD : Outside D) {p p' : Cell} {rc : ℕ} (hp : p.Live w.sizes)
    (hrun : ExpandBlob A D p w = .ok (rc, p', w')) : Keeps p w p' w' := by
  by_cases hzero : p.flags.has MEM_Zero = true
  · obtain ⟨rc₁, p₁, w₁, hgrow, ⟨-, rfl, rfl⟩ | ⟨hrc, hclear, rfl⟩⟩ := ExpandBlob_eq_ok hzero hrun
    · exact (keeps_sqlite3VdbeMemGrow hD hp (Or.inl (expandedSize_pos p)) hgrow).1
    · obtain ⟨hk, hgrown, -⟩ :=
        keeps_sqlite3VdbeMemGrow hD hp (Or.inl (expandedSize_pos p)) hgrow
      obtain ⟨-, hwrite⟩ := World.clear_eq_ok hclear
      obtain ⟨a, old, hz, -, -, -, rfl⟩ := World.write_eq_ok hwrite
      have hg := hgrown hrc
      have hpos := expandedSize_pos p
      have hsize := hg.size
      have hk₂ := Keeps.of_set (w := w₁) (p := p₁) ⟨by omega, hg.z ▸ hz⟩
        (World.splice p₁.n.toNat (List.replicate p₁.u_nZero.toNat 0) old)
      exact (hk.trans hk₂).trans (Keeps.of_same hk₂.live rfl rfl)
  · unfold ExpandBlob at hrun
    rw [if_neg hzero] at hrun
    simp only [Except.ok.injEq, Prod.mk.injEq] at hrun
    obtain ⟨-, rfl, rfl⟩ := hrun
    exact Keeps.of_same hp rfl rfl

/-- The text or blob is somewhere else than in what the cell has as its own. -/
def Elsewhere (p : Cell) : Bool := p.flags.has (MEM_Str ||| MEM_Blob) && p.z ≠ p.zMalloc

/-- What `sqlite3VdbeMemMakeWriteable` does after the zeros are there. -/
theorem sqlite3VdbeMemMakeWriteable_eq_ok {p p' : Cell} {rc : ℕ}
    (hrun : sqlite3VdbeMemMakeWriteable A D p w = .ok (rc, p', w')) :
    ∃ rc₁ p₁ w₁, ExpandBlob A D p w = .ok (rc₁, p₁, w₁) ∧
      (Elsewhere p₁ = false ∧ rc = 0 ∧ p' = p₁ ∧ w' = w₁ ∨
        Elsewhere p₁ = true ∧
          ∃ rc₂ p₂ w₂, sqlite3VdbeMemGrow A D (p₁.n + 2) true p₁ w₁ = .ok (rc₂, p₂, w₂) ∧
            (rc₂ ≠ 0 ∧ rc = 7 ∧ p' = p₂ ∧ w' = w₂ ∨
              rc₂ = 0 ∧ rc = 0 ∧ terminate p₂ w₂ = .ok w' ∧
                p' = { p₂ with flags := p₁.flags ||| MEM_Term })) := by
  unfold sqlite3VdbeMemMakeWriteable at hrun
  by_cases hrow : p.flags.has MEM_RowSet = true
  · rw [if_pos hrow] at hrun
    cases hrun
  rw [if_neg hrow] at hrun
  obtain ⟨⟨rc₁, p₁, w₁⟩, hexpand, hrest⟩ := bind_eq_ok.mp hrun
  refine ⟨rc₁, p₁, w₁, hexpand, ?_⟩
  by_cases hz : Elsewhere p₁ = true
  · have hz' : (p₁.flags.has (MEM_Str ||| MEM_Blob) && p₁.z ≠ p₁.zMalloc) = true := hz
    dsimp only at hrest
    rw [if_pos hz'] at hrest
    obtain ⟨⟨rc₂, p₂, w₂⟩, hgrow, hrest⟩ := bind_eq_ok.mp hrest
    refine Or.inr ⟨hz, rc₂, p₂, w₂, hgrow, ?_⟩
    by_cases hrc : rc₂ ≠ 0
    · dsimp only at hrest
      rw [if_pos hrc] at hrest
      simp only [pure, Except.pure, Except.ok.injEq, Prod.mk.injEq] at hrest
      obtain ⟨rfl, rfl, rfl⟩ := hrest
      exact Or.inl ⟨hrc, rfl, rfl, rfl⟩
    · dsimp only at hrest
      rw [if_neg hrc] at hrest
      obtain ⟨w₃, hterm, hpure⟩ := bind_eq_ok.mp hrest
      simp only [pure, Except.pure, Except.ok.injEq, Prod.mk.injEq] at hpure
      obtain ⟨rfl, rfl, rfl⟩ := hpure
      exact Or.inr ⟨not_not.mp hrc, rfl, hterm, rfl⟩
  · have hz' : ¬ (p₁.flags.has (MEM_Str ||| MEM_Blob) && p₁.z ≠ p₁.zMalloc) = true := hz
    dsimp only at hrest
    rw [if_neg hz'] at hrest
    simp only [pure, Except.pure, Except.ok.injEq, Prod.mk.injEq] at hrest
    obtain ⟨rfl, rfl, rfl⟩ := hrest
    exact Or.inl ⟨Bool.eq_false_iff.mpr hz, rfl, rfl, rfl⟩

/-- Making a cell writeable keeps the contents of the others. -/
theorem keeps_sqlite3VdbeMemMakeWriteable (hD : Outside D) {p p' : Cell} {rc : ℕ}
    (hp : p.Live w.sizes) (hrun : sqlite3VdbeMemMakeWriteable A D p w = .ok (rc, p', w')) :
    Keeps p w p' w' := by
  obtain ⟨rc₁, p₁, w₁, hexpand, ⟨-, -, rfl, rfl⟩ | ⟨-, rc₂, p₂, w₂, hgrow, hend⟩⟩ :=
    sqlite3VdbeMemMakeWriteable_eq_ok hrun
  · exact keeps_ExpandBlob hD hp hexpand
  have hk₁ := keeps_ExpandBlob hD hp hexpand
  obtain ⟨hk₂, hgrown, -⟩ := keeps_sqlite3VdbeMemGrow hD hk₁.live (by omega) hgrow
  rcases hend with ⟨-, -, rfl, rfl⟩ | ⟨hrc, -, hterm, rfl⟩
  · exact hk₁.trans hk₂
  · have hg := hgrown hrc
    have hk₃ := keeps_terminate hg.z (hg.n ▸ hg.size) hterm
    exact (hk₁.trans hk₂).trans (hk₃.trans (Keeps.of_same hk₃.live rfl rfl))

/-- What `vdbeMemAddTerminator` does. -/
theorem vdbeMemAddTerminator_eq_ok {p p' : Cell} {rc : ℕ}
    (hrun : vdbeMemAddTerminator A D p w = .ok (rc, p', w')) :
    ∃ rc₁ p₁ w₁, sqlite3VdbeMemGrow A D (p.n + 2) true p w = .ok (rc₁, p₁, w₁) ∧
      (rc₁ ≠ 0 ∧ p' = p₁ ∧ w' = w₁ ∨
        rc₁ = 0 ∧ terminate p₁ w₁ = .ok w' ∧ p' = { p₁ with flags := p₁.flags ||| MEM_Term }) := by
  unfold vdbeMemAddTerminator at hrun
  obtain ⟨⟨rc₁, p₁, w₁⟩, hgrow, hrest⟩ := bind_eq_ok.mp hrun
  refine ⟨rc₁, p₁, w₁, hgrow, ?_⟩
  by_cases hrc : rc₁ ≠ 0
  · dsimp only at hrest
    rw [if_pos hrc] at hrest
    simp only [pure, Except.pure, Except.ok.injEq, Prod.mk.injEq] at hrest
    obtain ⟨-, rfl, rfl⟩ := hrest
    exact Or.inl ⟨hrc, rfl, rfl⟩
  · dsimp only at hrest
    rw [if_neg hrc] at hrest
    obtain ⟨w₂, hterm, hpure⟩ := bind_eq_ok.mp hrest
    simp only [pure, Except.pure, Except.ok.injEq, Prod.mk.injEq] at hpure
    obtain ⟨-, rfl, rfl⟩ := hpure
    exact Or.inr ⟨not_not.mp hrc, hterm, rfl⟩

/-- Terminating a text keeps the contents of the other cells. -/
theorem keeps_sqlite3VdbeMemNulTerminate (hD : Outside D) {p p' : Cell} {rc : ℕ}
    (hp : p.Live w.sizes) (hrun : sqlite3VdbeMemNulTerminate A D p w = .ok (rc, p', w')) :
    Keeps p w p' w' := by
  unfold sqlite3VdbeMemNulTerminate at hrun
  split_ifs at hrun with hflags
  · simp only [Except.ok.injEq, Prod.mk.injEq] at hrun
    obtain ⟨-, rfl, rfl⟩ := hrun
    exact Keeps.of_same hp rfl rfl
  · obtain ⟨rc₁, p₁, w₁, hgrow, hend⟩ := vdbeMemAddTerminator_eq_ok hrun
    obtain ⟨hk, hgrown, -⟩ := keeps_sqlite3VdbeMemGrow hD hp (by omega) hgrow
    rcases hend with ⟨-, rfl, rfl⟩ | ⟨hrc, hterm, rfl⟩
    · exact hk
    · have hg := hgrown hrc
      have hk₂ := keeps_terminate hg.z (hg.n ▸ hg.size) hterm
      exact hk.trans (hk₂.trans (Keeps.of_same hk₂.live rfl rfl))

end contents

end SQPyte.Memory
