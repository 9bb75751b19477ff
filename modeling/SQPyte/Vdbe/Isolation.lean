import SQPyte.Vdbe.BufferFrames

/-!
# Registers that others cannot reach

No two registers own the same allocation, and what they own is live (`Buffers.State.Sound`). Every
access keeps that (`State.step_leaves`). So a register whose text or blob is in its own allocation,
or in memory that never changes, keeps it whatever happens to the other registers
(`State.run_isolated`).
-/

namespace SQPyte.Memory

open Buffers (Ptr Cell Destructors)

variable {A : Allocator} {D : Destructors} {s s' s'' : State} {i j : ℕ}

/-! ## One access -/

/-- What owns an allocation has it. -/
theorem owned_live (hs : s.sizes.Sound) {a : ℕ} (ha : (s.cells i).Owns a) : s.world.heap a ≠ none := by
  rcases hs.live i (Nat.pos_iff_ne_zero.mp ha.1) with hz | ⟨b, hz, hb⟩
  · have := hz.symm.trans ha.2
    cases this
  · obtain rfl : b = a := Ptr.heap.inj (hz.symm.trans ha.2)
    exact World.sizes_ne_none.mp (Option.isSome_iff_ne_none.mp hb)

/-- All that an access leaves alone: the registers that it is not about, with what they own. -/
structure Leaves (registers : List ℕ) (s s' : State) : Prop where
  /-- Nothing claims an allocation that is not live, and no two registers claim the same. -/
  sound : s'.sizes.Sound
  /-- The other registers. -/
  cells : ∀ j ∉ registers, s'.cells j = s.cells j
  /-- What they own. -/
  heap : ∀ j ∉ registers, ∀ a, (s.cells j).Owns a → s'.world.heap a = s.world.heap a

/-- A method of one cell is about one register. -/
theorem Leaves.of_keeps (hs : s.sizes.Sound) {c : Cell} {w : World}
    (hk : Keeps (s.cells i) s.world c w) : Leaves [i] s ⟨Function.update s.cells i c, w⟩ := by
  -- what another register owns is live, and not owned by this one
  have hother : ∀ j, j ≠ i → ∀ a, (s.cells j).Owns a →
      s.world.heap a ≠ none ∧ ¬ (s.cells i).Owns a := fun j hj a ha =>
    ⟨owned_live hs ha, fun hi => hj (hs.unique j i a ha hi)⟩
  have hnotin : ∀ j, j ∉ [i] → j ≠ i := fun j hj h => hj (h ▸ List.mem_singleton_self _)
  have hself : Function.update s.cells i c i = c := Function.update_self ..
  have hne : ∀ j, j ≠ i → Function.update s.cells i c j = s.cells j := fun j hj =>
    Function.update_of_ne hj ..
  refine ⟨⟨fun j => ?_, fun j k a hj hk' => ?_⟩, fun j hj => hne j (hnotin j hj),
    fun j hj a ha => ?_⟩
  · show (Function.update s.cells i c j).Live w.sizes
    by_cases hji : j = i
    · rw [hji, hself]
      exact hk.live
    · rw [hne j hji]
      intro hsz
      rcases hs.live j hsz with hz | ⟨a, hz, ha⟩
      · exact Or.inl hz
      · obtain ⟨hlive, hno⟩ := hother j hji a ⟨Nat.pos_of_ne_zero hsz, hz⟩
        refine Or.inr ⟨a, hz, ?_⟩
        unfold World.sizes
        rw [hk.frame a hlive hno]
        exact ha
  · have hj : (Function.update s.cells i c j).Owns a := hj
    have hk' : (Function.update s.cells i c k).Owns a := hk'
    -- only `i` may have come to own it, and then no other register had it
    have hsplit : ∀ k, k ≠ i → (Function.update s.cells i c k).Owns a → ¬ c.Owns a := by
      intro k hki hka
      rw [hne k hki] at hka
      obtain ⟨hlive, hno⟩ := hother k hki a hka
      exact hk.owns a hlive hno
    by_cases hji : j = i
    · by_cases hki : k = i
      · rw [hji, hki]
      · rw [hji, hself] at hj
        exact absurd hj (hsplit k hki hk')
    · by_cases hki : k = i
      · rw [hki, hself] at hk'
        exact absurd hk' (hsplit j hji hj)
      · rw [hne j hji] at hj
        rw [hne k hki] at hk'
        exact hs.unique j k a hj hk'
  · obtain ⟨hlive, hno⟩ := hother j (hnotin j hj) a ha
    exact hk.frame a hlive hno

/-- A routine on one cell. -/
theorem onCell_eq_ok {f : Cell → World → Except Fault (ℕ × Cell × World)} {rc : ℕ}
    (hrun : s.onCell i f = .ok (rc, s')) :
    ∃ c w, f (s.cells i) s.world = .ok (rc, c, w) ∧ s' = ⟨Function.update s.cells i c, w⟩ := by
  unfold State.onCell at hrun
  obtain ⟨⟨rc₁, c, w⟩, hf, hpure⟩ := bind_eq_ok.mp hrun
  simp only [pure, Except.pure, Except.ok.injEq, Prod.mk.injEq] at hpure
  obtain ⟨rfl, rfl⟩ := hpure
  exact ⟨c, w, hf, rfl⟩

/-- A method that copies nothing. -/
theorem Leaves.of_spares (hs : s.sizes.Sound)
    {f : Cell → Buffers.Heap → Except Buffers.Fault (Cell × Buffers.Heap)}
    (hf : ∀ c h, f (s.cells i) s.world.sizes = .ok (c, h) → Spares (s.cells i) s.world.sizes c h)
    {b : Buffers.State ℕ} (hrun : s.sizes.onCell i f = .ok b) :
    Leaves [i] s ⟨b.cells, s.world.resized A b.heap⟩ := by
  unfold Buffers.State.onCell at hrun
  obtain ⟨⟨c, h⟩, hc, hpure⟩ := bind_eq_ok.mp hrun
  obtain rfl := Except.ok.inj hpure
  exact Leaves.of_keeps hs (hf c h hc).keeps

/-- A register is moved: what it owned is owned by the other one. -/
theorem Leaves.sqlite3VdbeMemMove (hD : Outside D) (hs : s.sizes.Sound) {self from_ : ℕ}
    {b : Buffers.State ℕ} (hrun : s.sizes.sqlite3VdbeMemMove D self from_ = .ok b) :
    Leaves [self, from_] s ⟨b.cells, s.world.resized A b.heap⟩ := by
  unfold Buffers.State.sqlite3VdbeMemMove at hrun
  obtain ⟨b₁, hrel, hpure⟩ := bind_eq_ok.mp hrun
  have h₁ : Leaves [self] s ⟨b₁.cells, s.world.resized A b₁.heap⟩ :=
    Leaves.of_spares hs (fun c h => spares_sqlite3VdbeMemRelease hD (hs.live self)) hrel
  obtain rfl := Except.ok.inj hpure
  -- The target becomes a copy of the source, and the source gives up its buffer.
  set cells₂ := Function.update b₁.cells self (b₁.cells from_) with hcells₂
  set cells₃ := Function.update cells₂ from_
    { cells₂ from_ with flags := MEM_Null, szMalloc := 0 } with hcells₃
  have hfrom : (cells₃ from_).szMalloc = 0 := by rw [hcells₃, Function.update_self]
  have hself : self ≠ from_ → cells₃ self = b₁.cells from_ := by
    intro hne
    rw [hcells₃, Function.update_of_ne hne, hcells₂, Function.update_self]
  have hother : ∀ j, j ≠ self → j ≠ from_ → cells₃ j = b₁.cells j := by
    intro j hjs hjf
    rw [hcells₃, Function.update_of_ne hjf, hcells₂, Function.update_of_ne hjs]
  -- what a register owns now, one of the registers before owned
  have hback : ∀ j a, (cells₃ j).Owns a →
      j ≠ from_ ∧ (b₁.cells (if j = self then from_ else j)).Owns a := by
    intro j a ha
    have hjf : j ≠ from_ := by
      rintro rfl
      have := ha.1
      omega
    refine ⟨hjf, ?_⟩
    by_cases hjs : j = self
    · rw [if_pos hjs, ← hself (hjs ▸ hjf), ← hjs]
      exact ha
    · rw [if_neg hjs, ← hother j hjs hjf]
      exact ha
  have hunique := h₁.sound.unique
  have hlive := h₁.sound.live
  refine ⟨⟨fun j => ?_, fun j k a hj hk => ?_⟩, fun j hj => ?_, fun j hj a ha => ?_⟩
  · -- A register's buffer is live where it was before the move.
    show (cells₃ j).Live _
    by_cases hjf : j = from_
    · rw [hjf]
      exact fun hsz => absurd hfrom hsz
    by_cases hjs : j = self
    · rw [hjs, hself (hjs ▸ hjf)]
      exact hlive from_
    · rw [hother j hjs hjf]
      exact hlive j
  · obtain ⟨hjf, hj'⟩ := hback j a hj
    obtain ⟨hkf, hk'⟩ := hback k a hk
    have heq := hunique _ _ a hj' hk'
    split_ifs at heq with hjs hks hks
    · rw [hjs, hks]
    · exact absurd heq.symm hkf
    · exact absurd heq hjf
    · exact heq
  · simp only [List.mem_cons, List.not_mem_nil, or_false, not_or] at hj
    show cells₃ j = s.cells j
    rw [hother j hj.1 hj.2]
    exact h₁.cells j (by simpa using hj.1)
  · simp only [List.mem_cons, List.not_mem_nil, or_false, not_or] at hj
    exact h₁.heap j (by simpa using hj.1) a ha

/-- A shallow copy leaves all but its target alone. -/
theorem Leaves.sqlite3VdbeMemShallowCopy (hD : Outside D) (hs : s.sizes.Sound) {self from_ : ℕ}
    {srcType : Cell.SrcType} {b : Buffers.State ℕ}
    (hrun : s.sizes.sqlite3VdbeMemShallowCopy D self from_ srcType = .ok b) :
    Leaves [self] s ⟨b.cells, s.world.resized A b.heap⟩ := by
  unfold Buffers.State.sqlite3VdbeMemShallowCopy at hrun
  by_cases hrow : (s.sizes.cells from_).flags.has MEM_RowSet = true
  · rw [if_pos hrow] at hrun
    cases hrun
  rw [if_neg hrow] at hrun
  obtain ⟨b₁, hrel, hcopy⟩ := bind_eq_ok.mp hrun
  unfold Buffers.State.onCell at hrel hcopy
  obtain ⟨⟨c₁, h₁⟩, hc₁, hpure⟩ := bind_eq_ok.mp hrel
  obtain rfl := Except.ok.inj hpure
  obtain ⟨⟨c₂, h₂⟩, hc₂, hpure⟩ := bind_eq_ok.mp hcopy
  obtain rfl := Except.ok.inj hpure
  obtain ⟨c₃, hfields, hpure⟩ := bind_eq_ok.mp hc₂
  obtain ⟨rfl, rfl⟩ := Prod.mk.inj (Except.ok.inj hpure)
  have hs₁ : Spares (s.cells self) s.world.sizes c₁ h₁ :=
    spares_VdbeMemRelease hD (hs.live self) hc₁
  obtain ⟨hz, hsz, -⟩ := copyFields_spec hfields
  dsimp only at hz hsz
  rw [Function.update_self] at hz hsz
  have hk : Keeps (s.cells self) s.world c₃ (s.world.resized A h₁) :=
    (hs₁.trans (Spares.of_same hs₁.live hz hsz)).keeps
  have hleaves := Leaves.of_keeps hs hk
  dsimp only
  rw [Function.update_idem]
  exact hleaves

/-- A routine that only frees, on the whole state. -/
theorem freeing_state_eq_ok {r : Except Buffers.Fault (Buffers.State ℕ)}
    (hrun : s.freeing A r = .ok s') :
    ∃ b, r = .ok b ∧ s' = ⟨b.cells, s.world.resized A b.heap⟩ := by
  cases r with
  | error e => cases hrun
  | ok b => exact ⟨b, rfl, (Except.ok.inj hrun).symm⟩

/-- One access leaves alone the registers that it is not about. -/
theorem State.step_leaves (hD : Outside D) (hs : s.sizes.Sound) {x : Access}
    (hrun : s.step A D x = .ok s') : Leaves x.registers s s' := by
  -- Each access changes its own registers by a routine whose frame lemma says what becomes of the
  -- buffers.
  cases x with
  | op o =>
    cases o with
    | sqlite3VdbeMemGrow self n bPreserve =>
      obtain ⟨⟨rc, s₁⟩, hcell, hpure⟩ := bind_eq_ok.mp hrun
      obtain rfl := Except.ok.inj hpure
      obtain ⟨c, w, hf, rfl⟩ := onCell_eq_ok hcell
      exact Leaves.of_keeps hs (keeps_sqlite3VdbeMemGrow hD (hs.live self)
        (Or.inl (by exact_mod_cast n.pos)) hf).1
    | sqlite3VdbeMemMakeWriteable self =>
      obtain ⟨⟨rc, s₁⟩, hcell, hpure⟩ := bind_eq_ok.mp hrun
      obtain rfl := Except.ok.inj hpure
      obtain ⟨c, w, hf, rfl⟩ := onCell_eq_ok hcell
      exact Leaves.of_keeps hs (keeps_sqlite3VdbeMemMakeWriteable hD (hs.live self) hf)
    | sqlite3VdbeMemMove self from_ =>
      obtain ⟨b, hb, rfl⟩ := freeing_state_eq_ok hrun
      exact Leaves.sqlite3VdbeMemMove hD hs hb
    | sqlite3VdbeMemShallowCopy self from_ srcType =>
      obtain ⟨b, hb, rfl⟩ := freeing_state_eq_ok hrun
      exact Leaves.sqlite3VdbeMemShallowCopy hD hs hb
    | sqlite3VdbeMemRelease self =>
      obtain ⟨b, hb, rfl⟩ := freeing_state_eq_ok hrun
      exact Leaves.of_spares hs (fun c h => spares_sqlite3VdbeMemRelease hD (hs.live self)) hb
    | vdbeMemClear self =>
      obtain ⟨b, hb, rfl⟩ := freeing_state_eq_ok hrun
      exact Leaves.of_spares hs (fun c h => spares_vdbeMemClear hD (hs.live self)) hb
    | sqlite3VdbeMemSetInt64 self val =>
      obtain ⟨b, hb, rfl⟩ := freeing_state_eq_ok hrun
      exact Leaves.of_spares hs (fun c h => spares_number hD (hs.live self)) hb
    | sqlite3VdbeMemSetDouble self val =>
      obtain ⟨b, hb, rfl⟩ := freeing_state_eq_ok hrun
      exact Leaves.of_spares hs (fun c h => spares_sqlite3VdbeMemSetDouble hD (hs.live self)) hb
    | sqlite3VdbeMemSetNull self =>
      obtain ⟨b, hb, rfl⟩ := freeing_state_eq_ok hrun
      exact Leaves.of_spares hs (fun c h => spares_sqlite3VdbeMemSetNull hD (hs.live self)) hb
  | sqlite3VdbeMemNulTerminate self =>
    obtain ⟨⟨rc, s₁⟩, hcell, hpure⟩ := bind_eq_ok.mp hrun
    obtain rfl := Except.ok.inj hpure
    obtain ⟨c, w, hf, rfl⟩ := onCell_eq_ok hcell
    exact Leaves.of_keeps hs (keeps_sqlite3VdbeMemNulTerminate hD (hs.live self) hf)
  -- An assignment from outside changes neither `zMalloc` nor `szMalloc`.
  | assign self flags u n enc z =>
    obtain rfl := Except.ok.inj hrun
    exact Leaves.of_keeps hs (Keeps.of_same (hs.live self) rfl rfl)
  -- Bytes are only written into the register's own buffer.
  | write self at_ bs =>
    unfold State.step at hrun
    dsimp only at hrun
    split_ifs at hrun with hsz
    obtain ⟨w, hwrite, hpure⟩ := bind_eq_ok.mp hrun
    obtain rfl := Except.ok.inj hpure
    obtain ⟨a, old, hz, -, -, -, rfl⟩ := World.write_eq_ok hwrite
    have hleaves := Leaves.of_keeps hs (Keeps.of_set (w := s.world) (p := s.cells self) ⟨hsz, hz⟩
      (World.splice at_.toNat bs old))
    rw [Function.update_eq_self] at hleaves
    exact hleaves
  -- The memory of others is no register's buffer.
  | outside id bs =>
    obtain rfl := Except.ok.inj hrun
    exact ⟨⟨hs.live, hs.unique⟩, fun _ _ => rfl, fun _ _ _ _ => rfl⟩

/-- Memory that no register manages is changed from outside only. -/
theorem State.step_ext (hD : Outside D) (hs : s.sizes.Sound) {x : Access}
    (hrun : s.step A D x = .ok s') {id : ℕ} (hid : ∀ bs, x ≠ .outside id bs) :
    s'.world.ext id = s.world.ext id := by
  -- An operation that only frees leaves the memory of others as it is.
  have hfreeing : ∀ {r : Except Buffers.Fault (Buffers.State ℕ)}, s.freeing A r = .ok s' →
      s'.world.ext id = s.world.ext id := by
    intro r hfreed
    obtain ⟨b, -, rfl⟩ := freeing_state_eq_ok hfreed
    rfl
  cases x with
  | op o =>
    cases o with
    | sqlite3VdbeMemGrow self n bPreserve =>
      obtain ⟨⟨rc, s₁⟩, hcell, hpure⟩ := bind_eq_ok.mp hrun
      obtain rfl := Except.ok.inj hpure
      obtain ⟨c, w, hf, rfl⟩ := onCell_eq_ok hcell
      exact congrFun (keeps_sqlite3VdbeMemGrow hD (hs.live self)
        (Or.inl (by exact_mod_cast n.pos)) hf).1.ext id
    | sqlite3VdbeMemMakeWriteable self =>
      obtain ⟨⟨rc, s₁⟩, hcell, hpure⟩ := bind_eq_ok.mp hrun
      obtain rfl := Except.ok.inj hpure
      obtain ⟨c, w, hf, rfl⟩ := onCell_eq_ok hcell
      exact congrFun (keeps_sqlite3VdbeMemMakeWriteable hD (hs.live self) hf).ext id
    | sqlite3VdbeMemMove self from_ => exact hfreeing hrun
    | sqlite3VdbeMemShallowCopy self from_ srcType => exact hfreeing hrun
    | sqlite3VdbeMemRelease self => exact hfreeing hrun
    | vdbeMemClear self => exact hfreeing hrun
    | sqlite3VdbeMemSetInt64 self val => exact hfreeing hrun
    | sqlite3VdbeMemSetDouble self val => exact hfreeing hrun
    | sqlite3VdbeMemSetNull self => exact hfreeing hrun
  | sqlite3VdbeMemNulTerminate self =>
    obtain ⟨⟨rc, s₁⟩, hcell, hpure⟩ := bind_eq_ok.mp hrun
    obtain rfl := Except.ok.inj hpure
    obtain ⟨c, w, hf, rfl⟩ := onCell_eq_ok hcell
    exact congrFun (keeps_sqlite3VdbeMemNulTerminate hD (hs.live self) hf).ext id
  | assign self flags u n enc z =>
    obtain rfl := Except.ok.inj hrun
    rfl
  | write self at_ bs =>
    unfold State.step at hrun
    dsimp only at hrun
    split_ifs at hrun with hsz
    obtain ⟨w, hwrite, hpure⟩ := bind_eq_ok.mp hrun
    obtain rfl := Except.ok.inj hpure
    obtain ⟨a, old, -, -, -, -, rfl⟩ := World.write_eq_ok hwrite
    rfl
  | outside id' bs =>
    obtain rfl := Except.ok.inj hrun
    have hne : id ≠ id' := by
      rintro rfl
      exact hid bs rfl
    exact Function.update_of_ne hne ..

/-! ## Runs -/

/-- The cell holds text or a blob. -/
def IsText (c : Cell) : Prop := c.flags.has (MEM_Str ||| MEM_Blob) = true

/-- Where the cell has its text or blob: in its own allocation, or in memory that never changes. -/
def Secure (static : Set ℕ) (c : Cell) : Prop :=
  IsText c → c.z = .null ∨ (∃ id ∈ static, c.z = .ext id) ∨ ∃ a, c.z = .heap a ∧ c.Owns a

/-- The access is not about register `j`, and changes no memory that never changes. -/
structure Access.Apart (static : Set ℕ) (j : ℕ) (x : Access) : Prop where
  /-- It is about other registers. -/
  registers : j ∉ x.registers
  /-- What never changes is not changed. -/
  static : ∀ id ∈ static, ∀ bs, x ≠ .outside id bs

/-- A run without accesses. -/
theorem State.run_nil : s.run A D [] = .ok s := rfl

/-- The first access of a run. -/
theorem State.run_cons {x : Access} {xs : List Access} :
    s.run A D (x :: xs) = .ok s'' ↔ ∃ s', s.step A D x = .ok s' ∧ s'.run A D xs = .ok s'' := by
  show (s.step A D x >>= fun s' => List.foldlM (State.step A D) s' xs) = _ ↔ _
  rw [bind_eq_ok]
  rfl

/-- At the start no register has a buffer. -/
theorem sound_of_empty (h0 : ∀ i, (s.cells i).szMalloc = 0) : s.sizes.Sound := by
  refine ⟨fun i hsz => absurd (h0 i) hsz, fun i j a hi => ?_⟩
  have hpos : 0 < (s.cells i).szMalloc := hi.1
  rw [h0 i] at hpos
  exact absurd hpos (Nat.lt_irrefl 0)

/-- Whatever happens, no two registers own the same allocation. -/
theorem State.run_sound (hD : Outside D) (hs : s.sizes.Sound) {xs : List Access}
    (hrun : s.run A D xs = .ok s') : s'.sizes.Sound := by
  induction xs generalizing s with
  | nil =>
    obtain rfl := Except.ok.inj (State.run_nil.symm.trans hrun)
    exact hs
  | cons x xs ih =>
    obtain ⟨s₁, hstep, hrest⟩ := State.run_cons.mp hrun
    exact ih (State.step_leaves hD hs hstep).sound hrest

/-- Register `j` is the same, with the same text or blob. -/
structure Same (j : ℕ) (s s' : State) : Prop where
  /-- The register. -/
  cell : s'.cells j = s.cells j
  /-- What is behind `z`. -/
  content : IsText (s.cells j) →
    s'.world.content (s.cells j).z = s.world.content (s.cells j).z

/-- One access changes nothing of a secure register that it is not about. -/
theorem State.step_same (hD : Outside D) (hs : s.sizes.Sound) {static : Set ℕ}
    (hj : Secure static (s.cells j)) {x : Access} (hx : x.Apart static j)
    (hrun : s.step A D x = .ok s') : Same j s s' := by
  have hleaves := State.step_leaves hD hs hrun
  refine ⟨hleaves.cells j hx.registers, fun htext => ?_⟩
  rcases hj htext with hz | ⟨id, hid, hz⟩ | ⟨a, hz, ha⟩
  · rw [hz]
    rfl
  · rw [hz]
    exact State.step_ext hD hs hrun (hx.static id hid)
  · rw [hz]
    show (s'.world.heap a).getD [] = (s.world.heap a).getD []
    rw [hleaves.heap j hx.registers a ha]

/-- A secure register is the same after any accesses that are about other registers. -/
theorem State.run_isolated (hD : Outside D) (hs : s.sizes.Sound) {static : Set ℕ}
    (hj : Secure static (s.cells j)) {xs : List Access} (hxs : ∀ x ∈ xs, x.Apart static j)
    (hrun : s.run A D xs = .ok s') : Same j s s' := by
  induction xs generalizing s with
  | nil =>
    obtain rfl := Except.ok.inj (State.run_nil.symm.trans hrun)
    exact ⟨rfl, fun _ => rfl⟩
  | cons x xs ih =>
    obtain ⟨s₁, hstep, hrest⟩ := State.run_cons.mp hrun
    have h₁ := State.step_same hD hs hj (hxs x List.mem_cons_self) hstep
    have hs₁ := (State.step_leaves hD hs hstep).sound
    have h₂ := ih hs₁ (by rw [h₁.cell]; exact hj)
      (fun y hy => hxs y (List.mem_cons_of_mem x hy)) hrest
    refine ⟨h₂.cell.trans h₁.cell, fun htext => ?_⟩
    have hcontent := h₂.content (by rw [h₁.cell]; exact htext)
    rw [h₁.cell] at hcontent
    exact hcontent.trans (h₁.content htext)

end SQPyte.Memory
