import SQPyte.Mem.Ownership
import SQPyte.Vdbe.Nulling

/-!
# Moving registers

`OP_Move` moves the registers `P1, …, P1+P3-1` to `P2, …, P2+P3-1`, one after the other. After each
of them it fetches the next two registers, and only then does it see whether it is done. So the
registers after the two ranges are fetched too, and if there is none the opcode raises.

The opcode is a program over few commands, and there are two views of the registers to run it on:
the cells with the flag cache, where a cell has its text or blob with it, and the cells with their
pointers and the live allocations. A loop lemma for any view (`run_moveLoop`) gives what is moved in
both of them.
-/

namespace SQPyte

open Commands

/-! ## The opcode -/

/-- What `OP_Move` asks of the registers. -/
inductive MoveCmd : Type → Type where
  /-- `hlquery.mem_with_index(i)`. -/
  | mem_with_index (i : ℤ) : MoveCmd ℕ
  /-- `self.sqlite3VdbeMemMove(from_)`. -/
  | sqlite3VdbeMemMove (self from_ : ℕ) : MoveCmd Unit
  /-- `assert cond`. -/
  | pyAssert (cond : Bool) : MoveCmd Unit

/-- The `while` loop of `OP_Move`. -/
def moveLoop : ℕ → ℤ → ℤ → ℕ → ℕ → Prog MoveCmd Unit
  | 0, _, _, _, _ => pure ()
  | n + 1, p1, p2, pIn1, pOut => do
    Prog.perform (.sqlite3VdbeMemMove pOut pIn1)
    let pIn1 ← Prog.perform (.mem_with_index (p1 + 1))
    let pOut ← Prog.perform (.mem_with_index (p2 + 1))
    moveLoop n (p1 + 1) (p2 + 1) pIn1 pOut

/-- `OP_Move`. -/
def OP_Move (op : Op) : Prog MoveCmd Unit := do
  Prog.perform (.pyAssert (op.p3 > 0 && op.p1 > 0 && op.p2 > 0))
  Prog.perform (.pyAssert (op.p1 + op.p3 ≤ op.p2 || op.p2 + op.p3 ≤ op.p1))
  let pIn1 ← Prog.perform (.mem_with_index op.p1)
  let pOut ← Prog.perform (.mem_with_index op.p2)
  moveLoop op.p3.toNat op.p1 op.p2 pIn1 pOut

/-! ## What is moved -/

section moved

variable {α : Type} {p1 p2 n : ℕ} {cells cells' cells'' : ℕ → α} {clear : α → α}

/-- The `n` cells from `p2` on are what those from `p1` on were, and these are cleared. -/
structure Moved (clear : α → α) (p1 p2 n : ℕ) (cells cells' : ℕ → α) : Prop where
  /-- The destinations. -/
  dest : ∀ k < n, cells' (p2 + k) = cells (p1 + k)
  /-- The sources. -/
  source : ∀ k < n, cells' (p1 + k) = clear (cells (p1 + k))
  /-- The other cells. -/
  other : ∀ j, (∀ k < n, j ≠ p1 + k ∧ j ≠ p2 + k) → cells' j = cells j

/-- Nothing has been moved. -/
theorem Moved.zero : Moved clear p1 p2 0 cells cells :=
  ⟨fun _ hk => absurd hk (Nat.not_lt_zero _), fun _ hk => absurd hk (Nat.not_lt_zero _),
    fun _ _ => rfl⟩

/-- One cell more. -/
theorem Moved.succ {N : ℕ} (hdisjoint : p1 + N ≤ p2 ∨ p2 + N ≤ p1) (hn : n < N)
    (h : Moved clear p1 p2 n cells cells') (hdest : cells'' (p2 + n) = cells' (p1 + n))
    (hsource : cells'' (p1 + n) = clear (cells' (p1 + n)))
    (hother : ∀ j, j ≠ p1 + n → j ≠ p2 + n → cells'' j = cells' j) :
    Moved clear p1 p2 (n + 1) cells cells'' := by
  have hnext : cells' (p1 + n) = cells (p1 + n) := h.other _ fun k hk => by omega
  refine ⟨fun k hk => ?_, fun k hk => ?_, fun j hj => ?_⟩
  · by_cases hkn : k = n
    · rw [hkn, hdest, hnext]
    · rw [hother _ (by omega) (by omega), h.dest k (by omega)]
  · by_cases hkn : k = n
    · rw [hkn, hsource, hnext]
    · rw [hother _ (by omega) (by omega), h.source k (by omega)]
  · obtain ⟨h1, h2⟩ := hj n (Nat.lt_succ_self n)
    rw [hother j h1 h2, h.other j fun k hk => hj k (Nat.lt_succ_of_lt hk)]

/-- Two views of the cells that agree before agree afterwards. -/
theorem Moved.rel {β : Type} {views views' : ℕ → β} {clearView : β → β} {R : α → β → Prop}
    (h : Moved clear p1 p2 n cells cells') (h' : Moved clearView p1 p2 n views views')
    (hclear : ∀ a b, R a b → R (clear a) (clearView b)) (hR : ∀ j, R (cells j) (views j)) (j : ℕ) :
    R (cells' j) (views' j) := by
  by_cases hdest : ∃ k < n, j = p2 + k
  · obtain ⟨k, hk, rfl⟩ := hdest
    rw [h.dest k hk, h'.dest k hk]
    exact hR _
  by_cases hsource : ∃ k < n, j = p1 + k
  · obtain ⟨k, hk, rfl⟩ := hsource
    rw [h.source k hk, h'.source k hk]
    exact hclear _ _ (hR _)
  · have hj : ∀ k < n, j ≠ p1 + k ∧ j ≠ p2 + k := fun k hk =>
      ⟨fun heq => hsource ⟨k, hk, heq⟩, fun heq => hdest ⟨k, hk, heq⟩⟩
    rw [h.other j hj, h'.other j hj]
    exact hR j

end moved

/-! ## The loop -/

section loop

variable {ε σ : Type} {h : Handler MoveCmd ε σ} {I : ℕ → σ → Prop} (p1 p2 N : ℕ)

/-- The loop moves cell after cell, if the registers after the last ones exist too. -/
theorem run_moveLoop (hmove : ∀ k < N, ∀ s, I k s →
      ∃ s', h _ (.sqlite3VdbeMemMove (p2 + k) (p1 + k)) s = .ok ((), s') ∧ I (k + 1) s')
    (hfetch : ∀ k ≤ N, ∀ s, I k s → h _ (.mem_with_index (p1 + k : ℕ)) s = .ok (p1 + k, s) ∧
      h _ (.mem_with_index (p2 + k : ℕ)) s = .ok (p2 + k, s))
    {n k : ℕ} (hk : k + n = N) {s : σ} (hI : I k s) :
    ∃ s', run h (moveLoop n (p1 + k : ℕ) (p2 + k : ℕ) (p1 + k) (p2 + k)) s = .ok ((), s') ∧
      I N s' := by
  induction n generalizing k s with
  | zero =>
    obtain rfl : k = N := hk
    exact ⟨s, rfl, hI⟩
  | succ n ih =>
    obtain ⟨s₁, hrun, hI₁⟩ := hmove k (by omega) s hI
    obtain ⟨hfetch1, hfetch2⟩ := hfetch (k + 1) (by omega) s₁ hI₁
    obtain ⟨s', hrest, hN⟩ := ih (by omega) hI₁
    refine ⟨s', ?_, hN⟩
    unfold moveLoop
    rw [run_bind_ok ((run_perform ..).trans hrun)]
    refine (run_bind_ok ((run_perform ..).trans hfetch1) _).trans
      ((run_bind_ok ((run_perform ..).trans hfetch2) _).trans ?_)
    exact hrest

/-- If there is no register after the last one of a range, the loop raises. -/
theorem run_moveLoop_error {e : ε} (hmove : ∀ k < N, ∀ s, I k s →
      ∃ s', h _ (.sqlite3VdbeMemMove (p2 + k) (p1 + k)) s = .ok ((), s') ∧ I (k + 1) s')
    (hfetch : ∀ k < N, ∀ s, I k s → h _ (.mem_with_index (p1 + k : ℕ)) s = .ok (p1 + k, s) ∧
      h _ (.mem_with_index (p2 + k : ℕ)) s = .ok (p2 + k, s))
    (hlast : ∀ s, I N s → h _ (.mem_with_index (p1 + N : ℕ)) s = .error e ∨
      h _ (.mem_with_index (p1 + N : ℕ)) s = .ok (p1 + N, s) ∧
        h _ (.mem_with_index (p2 + N : ℕ)) s = .error e)
    {n k : ℕ} (hn : 0 < n) (hk : k + n = N) {s : σ} (hI : I k s) :
    run h (moveLoop n (p1 + k : ℕ) (p2 + k : ℕ) (p1 + k) (p2 + k)) s = .error e := by
  induction n generalizing k s with
  | zero => exact absurd hn (Nat.lt_irrefl 0)
  | succ n ih =>
    obtain ⟨s₁, hrun, hI₁⟩ := hmove k (by omega) s hI
    unfold moveLoop
    rw [run_bind_ok ((run_perform ..).trans hrun)]
    by_cases hn0 : n = 0
    · -- the last two registers are moved
      subst hn0
      obtain rfl : k + 1 = N := hk
      rcases hlast s₁ hI₁ with hfetch1 | ⟨hfetch1, hfetch2⟩
      · exact run_bind_error ((run_perform ..).trans hfetch1) _
      · exact (run_bind_ok ((run_perform ..).trans hfetch1) _).trans
          (run_bind_error ((run_perform ..).trans hfetch2) _)
    · obtain ⟨hfetch1, hfetch2⟩ := hfetch (k + 1) (by omega) s₁ hI₁
      refine (run_bind_ok ((run_perform ..).trans hfetch1) _).trans
        ((run_bind_ok ((run_perform ..).trans hfetch2) _).trans ?_)
      exact ih (Nat.pos_of_ne_zero hn0) (by omega) hI₁

end loop

/-! ## The cells with the flag cache -/

/-- `set_szMalloc`. -/
def set_szMalloc (val : ℕ) : FieldUpdate where
  write pMem := { pMem with szMalloc := val }
  flags_eq _ := rfl
  u_eq _ := rfl

section machine

variable {ρ : Type} (L : CLib ρ)

/-- `Mem.memcpy_full`. -/
def memcpy_full (self from_ : ℕ) : MemM ρ Unit := do
  let pMem ← peek from_ id
  c_mem_total self fun _ r => ((), pMem, r)
  assure_flags self (← get_flags from_)

/-- `Mem.sqlite3VdbeMemMove`. -/
def sqlite3VdbeMemMove (self from_ : ℕ) : MemM ρ Unit := do
  sqlite3VdbeMemRelease L self
  memcpy_full self from_
  set_flags from_ MEM_Null
  poke from_ (set_szMalloc 0)

/-- The registers with the flag cache. -/
def moveOnMachine : Handler MoveCmd Exc (Machine ρ)
  | _, .mem_with_index i, m => run (machine ρ) (SQPyte.mem_with_index i) m
  | _, .sqlite3VdbeMemMove self from_, m =>
    run (machine ρ) (SQPyte.sqlite3VdbeMemMove L self from_) m
  | _, .pyAssert cond, m => run (machine ρ) (SQPyte.pyAssert cond) m

/-- What is left of a register that was moved: NULL, with no buffer. -/
def Mem.moved (c : Mem) : Mem := { c with flags := MEM_Null, szMalloc := 0 }

end machine

section machine_moves

variable {ρ : Type} {L : CLib ρ}

/-- A release destroys what is dynamic. -/
theorem Mem.released_recording (L : CLib ρ) (c : Mem) (r : List Mem × ρ) :
    (c.released L.recording r).2.1 = r.1 ++ [c].filter Mem.dynamic := by
  unfold Mem.released
  by_cases hd : VdbeMemDynamic c.flags = true
  · rw [if_pos hd, List.filter_cons_of_pos (by exact hd), List.filter_nil]
    dsimp only
    split_ifs <;> rfl
  · rw [if_neg hd, List.filter_cons_of_neg (by exact hd), List.filter_nil, List.append_nil]
    dsimp only
    split_ifs <;> rfl

/-- `sqlite3VdbeMemMove` takes the value over, leaves NULL behind, and records what was dynamic. -/
theorem Strict.run_sqlite3VdbeMemMove (L : CLib ρ) {s : Strict (List Mem × ρ)} {i j : ℕ} {c d : Mem}
    {w v : Member} (hself : s.At i c w) (hfrom : s.At j d v) (hij : i ≠ j) :
    ∃ s', run (strictMachine _) (SQPyte.sqlite3VdbeMemMove L.recording i j) s = .ok ((), s') ∧
      s'.nMem = s.nMem ∧ s'.mems = (s.mems.set i d).set j d.moved ∧
      s'.rest.1 = s.rest.1 ++ [c].filter Mem.dynamic := by
  obtain ⟨w', hrelease⟩ := hself.run_sqlite3VdbeMemRelease L.recording
  set s₁ : Strict (List Mem × ρ) := { s.setMem i (c.released L.recording s.rest).1 w' with
    rest := (c.released L.recording s.rest).2 } with hs₁
  have hself₁ : s₁.At i (c.released L.recording s.rest).1 w' := hself.setMem _ w'
  have hfrom₁ : s₁.At j d v := hfrom.setMem_ne hij _ w'
  -- the copy
  set s₂ := s₁.setMem i d .foreign with hs₂
  have hcopy : run (strictMachine _) (c_mem_total i fun _ r => ((), d, r)) s₁ = .ok ((), s₂) :=
    hself₁.run_c_mem rfl
  have hself₂ : s₂.At i d .foreign := hself₁.setMem d .foreign
  have hfrom₂ : s₂.At j d v := hfrom₁.setMem_ne hij d .foreign
  have hassure : run (strictMachine _) (assure_flags i d.flags) s₂ = .ok ((), s₂) := by
    unfold SQPyte.assure_flags
    rw [run_perform, strictMachine, hself₂.atMem_ok (if_pos rfl), hself₂.setMem_self]
  -- the source
  have hfrom₃ := hfrom₂.setMem { d with flags := MEM_Null } v
  set s₃ := s₂.setMem j { d with flags := MEM_Null } v with hs₃
  set s₄ := s₃.setMem j d.moved v with hs₄
  have hsource : run (strictMachine _) (poke j (set_szMalloc 0)) s₃ = .ok ((), s₄) :=
    hfrom₃.run_poke _
  refine ⟨s₄, ?_, rfl, ?_, Mem.released_recording L c s.rest⟩
  · unfold SQPyte.sqlite3VdbeMemMove memcpy_full
    refine (run_bind_ok hrelease _).trans ((run_bind_ok ((run_bind_ok (hfrom₁.run_peek id) _).trans
      ((run_bind_ok hcopy _).trans ((run_bind_ok hfrom₂.run_get_flags _).trans hassure))) _).trans
      ((run_bind_ok (hfrom₂.run_set_flags MEM_Null) _).trans hsource))
  · show (((s.mems.set i _).set i d).set j _).set j _ = _
    rw [List.set_set, List.set_set]

/-- What the loop has done to the registers after `k` moves. -/
structure MachineMoved (p1 p2 : ℕ) (m : Machine (List Mem × ρ)) (k : ℕ)
    (m' : Machine (List Mem × ρ)) : Prop where
  /-- The cache knows nothing false of the flags. -/
  related : ∃ s, Related m' s
  /-- There are as many registers. -/
  nMem : m'.nMem = m.nMem
  /-- There are as many cells. -/
  length : m'.mems.length = m.mems.length
  /-- The cells. -/
  cells : Moved (Option.map Mem.moved) p1 p2 k (m.mems[·]?) (m'.mems[·]?)
  /-- What was dynamic in the destinations is destroyed. -/
  record : m'.rest.1 = m.rest.1 ++ ((m.mems.drop p2).take k).filter Mem.dynamic

/-- One register. -/
theorem MachineMoved.succ (L : CLib ρ) {m m' : Machine (List Mem × ρ)} {p1 p2 k N : ℕ}
    (h : MachineMoved p1 p2 m k m') (hk : k < N) (hdisjoint : p1 + N ≤ p2 ∨ p2 + N ≤ p1)
    (h1 : p1 + k < m.mems.length) (h2 : p2 + k < m.mems.length) :
    ∃ m'', run (machine _) (SQPyte.sqlite3VdbeMemMove L.recording (p2 + k) (p1 + k)) m' =
        .ok ((), m'') ∧ MachineMoved p1 p2 m (k + 1) m'' := by
  obtain ⟨s, hR⟩ := h.related
  have hne : p2 + k ≠ p1 + k := by omega
  have hstays : ∀ j, (∀ i < k, j ≠ p1 + i ∧ j ≠ p2 + i) → j < m.mems.length →
      ∃ c, m.mems[j]? = some c ∧ s.At j c (s.written j) := by
    intro j hj hlt
    refine ⟨m.mems[j], List.getElem?_eq_getElem hlt, ?_, rfl⟩
    rw [← hR.mems, h.cells.other j hj, List.getElem?_eq_getElem hlt]
  obtain ⟨c, hc, hself⟩ := hstays (p2 + k) (fun i hi => by omega) h2
  obtain ⟨d, hd, hfrom⟩ := hstays (p1 + k) (fun i hi => by omega) h1
  obtain ⟨s', hrun, hnMem, hmems, hrecord⟩ := Strict.run_sqlite3VdbeMemMove L hself hfrom hne
  obtain ⟨m'', hrun', hR'⟩ := run_machine_of_strict hR hrun
  have hmems' : m''.mems = (m'.mems.set (p2 + k) d).set (p1 + k) d.moved := by
    rw [hR'.mems, hmems, hR.mems]
  have hlength : m''.mems.length = m'.mems.length := by
    rw [hmems', List.length_set, List.length_set]
  have h1' : p1 + k < m'.mems.length := h.length ▸ h1
  have hd' : m'.mems[p1 + k]? = some d := by rw [h.cells.other _ fun i hi => by omega, hd]
  refine ⟨m'', hrun', ⟨_, hR'⟩, ?_, hlength.trans h.length,
    h.cells.succ hdisjoint hk ?_ ?_ fun j hj1 hj2 => ?_, ?_⟩
  · rw [hR'.nMem, hnMem, ← hR.nMem, h.nMem]
  · rw [hmems', List.getElem?_set_ne (Ne.symm hne), List.getElem?_set_self (h.length ▸ h2), hd']
  · rw [hmems', List.getElem?_set_self (by rwa [List.length_set]), hd', Option.map_some]
  · rw [hmems', List.getElem?_set_ne (Ne.symm hj1), List.getElem?_set_ne (Ne.symm hj2)]
  · have hget : (m.mems.drop p2)[k]? = some c := by rw [List.getElem?_drop, hc]
    rw [hR'.rest, hrecord, ← hR.rest, h.record, List.take_add_one, hget, Option.toList_some,
      List.filter_append, List.append_assoc]

end machine_moves

/-! ## The cells with their pointers -/

namespace Buffers

/-- If `szMalloc > 0` then `zMalloc` is null or a live allocation. -/
def Cell.Live (c : Cell) (h : Heap) : Prop :=
  c.szMalloc ≠ 0 → c.zMalloc = .null ∨ ∃ a, c.zMalloc = .heap a ∧ (h a).isSome

/-- What a destructor or a finaliser does to a cell and the allocations. -/
structure Destroyed (c : Cell) (h : Heap) (c' : Cell) (h' : Heap) : Prop where
  /-- The cell is NULL. -/
  flags : c'.flags = MEM_Null
  /-- It has what it claims. -/
  live : c'.Live h'
  /-- The allocations that it does not manage are as they were. -/
  frame : ∀ a, ¬ c.Owns a → ¬ c'.Owns a → h' a = h a
  /-- What it does not manage any more is free. -/
  freed : ∀ a, c.Owns a → ¬ c'.Owns a → h' a = none
  /-- What it manages now was free. -/
  fresh : ∀ a, c'.Owns a → ¬ c.Owns a → h a = none

/-- `vdbeMemClearExternAndSetNull` returns, and the cell is NULL. -/
def Destructors.Lawful (D : Destructors) : Prop :=
  ∀ c h, c.Live h → VdbeMemDynamic c.flags = true →
    ∃ c' h', D.vdbeMemClearExternAndSetNull c h = .ok (c', h') ∧ Destroyed c h c' h'

/-- The registers with their pointers. -/
def moveOnHeap (D : Destructors) (nMem : ℕ) : Handler MoveCmd (Exc ⊕ Fault) (State ℕ)
  | _, .mem_with_index i, b => ((Machine.memIndex (nMem + 1) nMem i).map (·, b)).mapError .inl
  | _, .sqlite3VdbeMemMove self from_, b =>
    ((b.sqlite3VdbeMemMove D self from_).map ((), ·)).mapError .inr
  | _, .pyAssert cond, b => if cond then .ok ((), b) else .error (.inl .assertion)

/-- What is left of a register that was moved: NULL, with no buffer. -/
def Cell.moved (c : Cell) : Cell := { c with flags := MEM_Null, szMalloc := 0 }

/-- Nothing claims an allocation that is not live, and no two cells claim the same. -/
structure State.Sound (b : State ℕ) : Prop where
  /-- What is claimed is live. -/
  live : ∀ i, (b.cells i).Live b.heap
  /-- It is claimed once. -/
  unique : ∀ i j a, (b.cells i).Owns a → (b.cells j).Owns a → i = j

section release

variable {D : Destructors} {c : Cell} {h : Heap}

/-- A live buffer can be freed. -/
theorem Cell.Live.free (hc : c.Live h) (hsz : c.szMalloc ≠ 0) :
    ∃ h', sqlite3DbFree c.zMalloc h = .ok h' ∧ Freed c h h' := by
  rcases hc hsz with hz | ⟨a, hz, ha⟩
  · refine ⟨h, by rw [hz]; rfl, fun a ha => ?_, fun _ _ => rfl⟩
    have hptr := hz.symm.trans ha.2
    cases hptr
  · refine ⟨Function.update h a none, ?_, fun b hb => ?_, fun b hb => ?_⟩
    · rw [hz]
      unfold sqlite3DbFree
      exact if_pos ha
    · obtain rfl : a = b := by
        have := hz.symm.trans hb.2
        injection this
      exact Function.update_self ..
    · refine Function.update_of_ne (fun hba => hb ⟨Nat.pos_of_ne_zero hsz, ?_⟩) _ _
      rw [hz, hba]

/-- What a cell that is not dynamic owns is freed. -/
theorem Cell.vdbeMemClear_frees (hd : VdbeMemDynamic c.flags = false) (hc : c.Live h)
    (hsz : c.szMalloc ≠ 0) : ∃ c' h', c.vdbeMemClear D h = .ok (c', h') ∧ Freed c h h' := by
  obtain ⟨h', hfree, hfreed⟩ := hc.free hsz
  refine ⟨{ c with zMalloc := .null, z := .null }, h', ?_, hfreed⟩
  unfold vdbeMemClear VdbeMemRelease
  rw [if_neg (by rw [hd]; exact Bool.false_ne_true)]
  simp only [bind, Except.bind]
  rw [if_pos hsz, hfree]
  rfl

/-- A release frees what the cell owns, and nothing else. -/
theorem Cell.sqlite3VdbeMemRelease_frees (hD : D.Lawful) (hc : c.Live h) :
    ∃ c' h', c.sqlite3VdbeMemRelease D h = .ok (c', h') ∧ Freed c h h' := by
  -- the part of a cell that is not dynamic
  have hbuffer : ∀ {c₁ : Cell} {h₁ : Heap}, VdbeMemDynamic c₁.flags = false → c₁.Live h₁ →
      ∃ c' h', (if (VdbeMemDynamic c₁.flags || decide (c₁.szMalloc ≠ 0)) = true
          then c₁.vdbeMemClear D h₁ else pure (c₁, h₁)) = .ok (c', h') ∧ Freed c₁ h₁ h' := by
    intro c₁ h₁ hd hlive
    by_cases hsz : c₁.szMalloc = 0
    · refine ⟨c₁, h₁, ?_, freed_nothing h₁ hsz⟩
      rw [hd, if_neg (by simp [hsz])]
      rfl
    · obtain ⟨c', h', hrun, hfreed⟩ := Cell.vdbeMemClear_frees (D := D) hd hlive hsz
      refine ⟨c', h', ?_, hfreed⟩
      rw [if_pos (by simp [hsz]), hrun]
  unfold sqlite3VdbeMemRelease VdbeMemRelease
  by_cases hd : VdbeMemDynamic c.flags = true
  · obtain ⟨c₁, h₁, hdestroy, hdestroyed⟩ := hD c h hc hd
    obtain ⟨c', h', hrun, hfreed⟩ := hbuffer
      (show VdbeMemDynamic c₁.flags = false by rw [hdestroyed.flags]; decide) hdestroyed.live
    refine ⟨c', h', ?_, fun a ha => ?_, fun a ha => ?_⟩
    · rw [if_pos hd, hdestroy]
      exact hrun
    · by_cases ha₁ : c₁.Owns a
      · exact hfreed.own a ha₁
      · rw [hfreed.frame a ha₁, hdestroyed.freed a ha ha₁]
    · by_cases ha₁ : c₁.Owns a
      · rw [hfreed.own a ha₁, hdestroyed.fresh a ha₁ ha]
      · rw [hfreed.frame a ha₁, hdestroyed.frame a ha ha₁]
  · obtain ⟨c', h', hrun, hfreed⟩ := hbuffer (Bool.eq_false_iff.mpr hd) hc
    refine ⟨c', h', ?_, hfreed⟩
    rw [if_neg hd]
    exact hrun

end release

section heap_moves

variable {D : Destructors} {b b' : State ℕ} {p1 p2 : ℕ}

/-- What the loop has done to the registers and the allocations after `k` moves. -/
structure HeapMoved (p1 p2 : ℕ) (b : State ℕ) (k : ℕ) (b' : State ℕ) : Prop where
  /-- The cells. -/
  cells : Moved Cell.moved p1 p2 k b.cells b'.cells
  /-- What the destinations owned is free. -/
  released : ∀ j < k, ∀ a, (b.cells (p2 + j)).Owns a → b'.heap a = none
  /-- The other allocations are as they were. -/
  kept : ∀ a, (∀ j < k, ¬ (b.cells (p2 + j)).Owns a) → b'.heap a = b.heap a

/-- One register. -/
theorem HeapMoved.succ {k N : ℕ} (hD : D.Lawful) (hb : b.Sound) (h : HeapMoved p1 p2 b k b')
    (hk : k < N) (hdisjoint : p1 + N ≤ p2 ∨ p2 + N ≤ p1) :
    ∃ b'', b'.sqlite3VdbeMemMove D (p2 + k) (p1 + k) = .ok b'' ∧ HeapMoved p1 p2 b (k + 1) b'' := by
  have hne : p1 + k ≠ p2 + k := by omega
  have hself : b'.cells (p2 + k) = b.cells (p2 + k) := h.cells.other _ fun i hi => by omega
  -- no destination before this one owns what this one owns
  have hothers : ∀ a, (b.cells (p2 + k)).Owns a → ∀ j < k, ¬ (b.cells (p2 + j)).Owns a := by
    intro a ha j hj haj
    have := hb.unique _ _ a ha haj
    omega
  have hlive : (b'.cells (p2 + k)).Live b'.heap := by
    rw [hself]
    intro hsz
    rcases hb.live _ hsz with hz | ⟨a, hz, ha⟩
    · exact Or.inl hz
    · refine Or.inr ⟨a, hz, ?_⟩
      rw [h.kept a (hothers a ⟨Nat.pos_of_ne_zero hsz, hz⟩)]
      exact ha
  obtain ⟨c', h', hrun, hfreed⟩ := Cell.sqlite3VdbeMemRelease_frees hD hlive
  rw [hself] at hfreed
  set cells₁ := Function.update b'.cells (p2 + k) c' with hcells₁
  have hfrom : cells₁ (p1 + k) = b'.cells (p1 + k) := Function.update_of_ne hne _ _
  set cells₂ := Function.update cells₁ (p2 + k) (cells₁ (p1 + k)) with hcells₂
  have hfrom₂ : cells₂ (p1 + k) = b'.cells (p1 + k) := (Function.update_of_ne hne _ _).trans hfrom
  refine ⟨⟨Function.update cells₂ (p1 + k) (cells₂ (p1 + k)).moved, h'⟩, ?_,
    h.cells.succ hdisjoint hk ?_ ?_ fun j hj1 hj2 => ?_, fun j hj a ha => ?_, fun a ha => ?_⟩
  · unfold State.sqlite3VdbeMemMove State.onCell
    rw [hrun]
    rfl
  · show Function.update cells₂ (p1 + k) _ (p2 + k) = _
    rw [Function.update_of_ne (Ne.symm hne), hcells₂, Function.update_self, hfrom]
  · show Function.update cells₂ (p1 + k) _ (p1 + k) = _
    rw [Function.update_self, hfrom₂]
  · show Function.update cells₂ (p1 + k) _ j = _
    rw [Function.update_of_ne hj1, hcells₂, Function.update_of_ne hj2, hcells₁,
      Function.update_of_ne hj2]
  · by_cases hown : (b.cells (p2 + k)).Owns a
    · exact hfreed.own a hown
    · show h' a = none
      rw [hfreed.frame a hown]
      refine h.released j ?_ a ha
      rcases Nat.lt_succ_iff_lt_or_eq.mp hj with hlt | rfl
      · exact hlt
      · exact absurd ha hown
  · show h' a = b.heap a
    rw [hfreed.frame a (ha k (Nat.lt_succ_self k)),
      h.kept a fun j hj => ha j (Nat.lt_succ_of_lt hj)]

end heap_moves

/-- Destructors that do nothing but set the cell to NULL. -/
def Destructors.plain : Destructors :=
  ⟨fun c h => .ok ({ c with flags := MEM_Null }, h), fun _ h => .ok h⟩

/-- Destructors that free nothing are lawful. -/
theorem Destructors.lawful_plain : Destructors.plain.Lawful := fun c h hc _ =>
  ⟨{ c with flags := MEM_Null }, h, rfl, rfl, hc, fun _ _ _ => rfl,
    fun _ ha hno => absurd ha hno, fun _ ha hno => absurd ha hno⟩

end Buffers

/-! ## The whole range -/

section range

variable {ρ : Type} {L : CLib ρ} {D : Buffers.Destructors} {m : Machine (List Mem × ρ)}
  {b : Buffers.State ℕ} {op : Op}

/-- The operands of `OP_Move` are two ranges of registers, of which none is in both. -/
structure MoveRegisters (m : Machine ρ) (op : Op) : Prop where
  /-- The cache knows nothing false. -/
  related : ∃ s, Related m s
  /-- The registers are there. -/
  cells : m.nMem < m.mems.length
  /-- The first source. -/
  p1 : 0 < op.p1
  /-- The first destination. -/
  p2 : 0 < op.p2
  /-- At least one register is moved. -/
  p3 : 0 < op.p3
  /-- The last source is a register. -/
  last1 : op.p1 + op.p3 - 1 ≤ m.nMem
  /-- So is the last destination. -/
  last2 : op.p2 + op.p3 - 1 ≤ m.nMem
  /-- Sources and destinations do not overlap. -/
  disjoint : op.p1 + op.p3 ≤ op.p2 ∨ op.p2 + op.p3 ≤ op.p1

/-- A cell with its text or blob, and with its pointers. -/
def Mem.SameCell (pMem : Option Mem) (c : Buffers.Cell) : Prop :=
  ∀ x, pMem = some x →
    x.flags = c.flags ∧ x.u = c.u ∧ x.n = c.n ∧ x.enc = c.enc ∧ x.szMalloc = c.szMalloc

/-- What `OP_Move` leaves in both views of the registers. -/
structure RangeMoved (L : CLib ρ) (D : Buffers.Destructors) (m : Machine (List Mem × ρ))
    (b : Buffers.State ℕ) (op : Op) (m' : Machine (List Mem × ρ)) (b' : Buffers.State ℕ) :
    Prop where
  /-- The opcode returns on the cells with the cache. -/
  onMachine : run (moveOnMachine L.recording) (OP_Move op) m = .ok ((), m')
  /-- It returns on the cells with their pointers. -/
  onHeap : run (Buffers.moveOnHeap D m.nMem) (OP_Move op) b = .ok ((), b')
  /-- Value, flags and text or blob are moved, the sources are NULL, and what was dynamic in the
  destinations is destroyed. -/
  machine : MachineMoved op.p1.toNat op.p2.toNat m op.p3.toNat m'
  /-- The pointers are moved, the sources own no buffer, and what the destinations owned is free. -/
  heap : Buffers.HeapMoved op.p1.toNat op.p2.toNat b op.p3.toNat b'
  /-- Both are views of the same cells. -/
  same : ∀ j, Mem.SameCell m'.mems[j]? (b'.cells j)

/-- `OP_Move` moves the range. -/
def MovesRange (L : CLib ρ) (D : Buffers.Destructors) (m : Machine (List Mem × ρ))
    (b : Buffers.State ℕ) (op : Op) : Prop :=
  ∃ m' b', RangeMoved L D m b op m' b'

/-- A fetch after the last register raises. -/
theorem memIndex_error {length nMem : ℕ} {i : ℤ} (hcells : nMem < length) (hi : (nMem : ℤ) < i) :
    Machine.memIndex length nMem i = .error .sqpyte := by
  unfold Machine.memIndex pyIndex
  rw [if_neg (by omega), if_neg (by omega)]

/-- The opcode before its loop. -/
theorem run_OP_Move {ε σ : Type} {h : Handler MoveCmd ε σ} {s : σ} (p1 p2 n : ℕ) (h1 : 0 < op.p1)
    (h2 : 0 < op.p2) (h3 : 0 < op.p3) (hdisjoint : op.p1 + op.p3 ≤ op.p2 ∨ op.p2 + op.p3 ≤ op.p1)
    (hp1 : op.p1 = p1) (hp2 : op.p2 = p2) (hn : op.p3 = n)
    (hassert : h _ (.pyAssert true) s = .ok ((), s))
    (hfetch1 : h _ (.mem_with_index p1) s = .ok (p1, s))
    (hfetch2 : h _ (.mem_with_index p2) s = .ok (p2, s)) :
    run h (OP_Move op) s = run h (moveLoop n p1 p2 p1 p2) s := by
  have hcond1 : (op.p3 > 0 && op.p1 > 0 && op.p2 > 0) = true := by simp [h1, h2, h3]
  have hcond2 : (decide (op.p1 + op.p3 ≤ op.p2) || decide (op.p2 + op.p3 ≤ op.p1)) = true := by
    simpa using hdisjoint
  unfold OP_Move
  rw [hcond1, hcond2, hp1, hp2, hn, Int.toNat_natCast]
  rw [run_bind_ok ((run_perform ..).trans hassert), run_bind_ok ((run_perform ..).trans hassert),
    run_bind_ok ((run_perform ..).trans hfetch1), run_bind_ok ((run_perform ..).trans hfetch2)]

/-- Nothing has been moved. -/
theorem MachineMoved.zero (hR : ∃ s, Related m s) (p1 p2 : ℕ) : MachineMoved p1 p2 m 0 m :=
  ⟨hR, rfl, rfl, Moved.zero, by rw [List.take_zero, List.filter_nil, List.append_nil]⟩

/-- While registers are moved, the others can be fetched. -/
theorem MachineMoved.fetch {p1 p2 k i : ℕ} {m' : Machine (List Mem × ρ)}
    (h : MachineMoved p1 p2 m k m') (hcells : m.nMem < m.mems.length) (hi : i ≤ m.nMem) :
    moveOnMachine L.recording _ (.mem_with_index i) m' = .ok (i, m') := by
  have hreg : IsRegister m'.mems.length m'.nMem i := by
    rw [h.length, h.nMem]
    exact ⟨by omega, by omega, hcells⟩
  exact Machine.run_mem_with_index hreg.memIndex_eq

/-- A fetch after the last register raises. -/
theorem MachineMoved.fetch_error {p1 p2 k i : ℕ} {m' : Machine (List Mem × ρ)}
    (h : MachineMoved p1 p2 m k m') (hcells : m.nMem < m.mems.length) (hi : m.nMem < i) :
    moveOnMachine L.recording _ (.mem_with_index i) m' = .error .sqpyte := by
  show run _ (SQPyte.mem_with_index _) m' = _
  unfold SQPyte.mem_with_index
  rw [run_perform, SQPyte.machine, memIndex_error (by rw [h.length, h.nMem]; exact hcells)
    (by rw [h.nMem]; omega)]
  rfl

/-- A fetch on the cells with their pointers. -/
theorem moveOnHeap_fetch {nMem i : ℕ} (hi : i ≤ nMem) (b : Buffers.State ℕ) :
    Buffers.moveOnHeap D nMem _ (.mem_with_index i) b = .ok (i, b) := by
  have hreg : IsRegister (nMem + 1) nMem i := ⟨by omega, by omega, by omega⟩
  show ((Machine.memIndex (nMem + 1) nMem i).map _).mapError _ = _
  rw [hreg.memIndex_eq]
  rfl

/-- The operands as numbers of registers. -/
theorem MoveRegisters.operands (hregs : MoveRegisters m op) : ∃ p1 p2 n : ℕ, op.p1 = p1 ∧
    op.p2 = p2 ∧ op.p3 = n ∧ 0 < n ∧ p1 + n ≤ m.nMem + 1 ∧ p2 + n ≤ m.nMem + 1 ∧
    (p1 + n ≤ p2 ∨ p2 + n ≤ p1) := by
  obtain ⟨p1, hp1⟩ := Int.eq_ofNat_of_zero_le hregs.p1.le
  obtain ⟨p2, hp2⟩ := Int.eq_ofNat_of_zero_le hregs.p2.le
  obtain ⟨n, hn⟩ := Int.eq_ofNat_of_zero_le hregs.p3.le
  have hpos := hregs.p3
  have hlast1 := hregs.last1
  have hlast2 := hregs.last2
  have hdisjoint := hregs.disjoint
  exact ⟨p1, p2, n, hp1, hp2, hn, by omega, by omega, by omega, by omega⟩

section runs

variable {p1 p2 n : ℕ} (hregs : MoveRegisters m op) (hp1 : op.p1 = p1) (hp2 : op.p2 = p2)
  (hn : op.p3 = n) (hpos : 0 < n) (hlast1 : p1 + n ≤ m.nMem + 1) (hlast2 : p2 + n ≤ m.nMem + 1)
  (hdisjoint : p1 + n ≤ p2 ∨ p2 + n ≤ p1)

include hregs hp1 hp2 hn hpos hlast1 hlast2

/-- The opcode is its loop. -/
theorem run_OP_Move_onMachine : run (moveOnMachine L.recording) (OP_Move op) m =
    run (moveOnMachine L.recording) (moveLoop n p1 p2 p1 p2) m := by
  have hzero := MachineMoved.zero hregs.related p1 p2
  exact run_OP_Move p1 p2 n hregs.p1 hregs.p2 hregs.p3 hregs.disjoint hp1 hp2 hn rfl
    (hzero.fetch hregs.cells (by omega)) (hzero.fetch hregs.cells (by omega))

include hdisjoint

/-- With the cache, the range is moved if there is a register after each range. -/
theorem OP_Move_onMachine (h1 : p1 + n ≤ m.nMem) (h2 : p2 + n ≤ m.nMem) :
    ∃ m', run (moveOnMachine L.recording) (OP_Move op) m = .ok ((), m') ∧
      MachineMoved p1 p2 m n m' := by
  have hcells := hregs.cells
  rw [run_OP_Move_onMachine hregs hp1 hp2 hn hpos hlast1 hlast2]
  exact run_moveLoop p1 p2 n (fun k hk s hI => hI.succ L hk hdisjoint (by omega) (by omega))
    (fun k hk s hI => ⟨hI.fetch hcells (by omega), hI.fetch hcells (by omega)⟩) (Nat.zero_add n)
    (MachineMoved.zero hregs.related p1 p2)

/-- If there is none after one of them, the opcode raises, with all registers moved. -/
theorem OP_Move_onMachine_error (hno : ¬ (p1 + n ≤ m.nMem ∧ p2 + n ≤ m.nMem)) :
    run (moveOnMachine L.recording) (OP_Move op) m = .error .sqpyte := by
  have hcells := hregs.cells
  rw [run_OP_Move_onMachine hregs hp1 hp2 hn hpos hlast1 hlast2]
  refine run_moveLoop_error p1 p2 n
    (fun k hk s hI => hI.succ L hk hdisjoint (by omega) (by omega))
    (fun k hk s hI => ⟨hI.fetch hcells (by omega), hI.fetch hcells (by omega)⟩) (fun s hI => ?_)
    hpos (Nat.zero_add n) (MachineMoved.zero hregs.related p1 p2)
  by_cases h1 : p1 + n ≤ m.nMem
  · exact Or.inr ⟨hI.fetch hcells h1, hI.fetch_error hcells (by omega)⟩
  · exact Or.inl (hI.fetch_error hcells (by omega))

omit hlast1 hlast2 in
/-- With the pointers, the range is moved if there is a register after each range. -/
theorem OP_Move_onHeap (hD : D.Lawful) (hb : b.Sound) (h1 : p1 + n ≤ m.nMem)
    (h2 : p2 + n ≤ m.nMem) :
    ∃ b', run (Buffers.moveOnHeap D m.nMem) (OP_Move op) b = .ok ((), b') ∧
      Buffers.HeapMoved p1 p2 b n b' := by
  have hmove : ∀ k < n, ∀ s, Buffers.HeapMoved p1 p2 b k s →
      ∃ s', Buffers.moveOnHeap D m.nMem _ (.sqlite3VdbeMemMove (p2 + k) (p1 + k)) s = .ok ((), s') ∧
        Buffers.HeapMoved p1 p2 b (k + 1) s' := by
    intro k hk s hI
    obtain ⟨s', hmove, hI'⟩ := hI.succ hD hb hk hdisjoint
    refine ⟨s', ?_, hI'⟩
    show ((s.sqlite3VdbeMemMove D (p2 + k) (p1 + k)).map _).mapError _ = _
    rw [hmove]
    rfl
  rw [run_OP_Move p1 p2 n hregs.p1 hregs.p2 hregs.p3 hregs.disjoint hp1 hp2 hn rfl
    (moveOnHeap_fetch (by omega) b) (moveOnHeap_fetch (by omega) b)]
  exact run_moveLoop p1 p2 n hmove (fun k hk s _ => ⟨moveOnHeap_fetch (by omega) s,
    moveOnHeap_fetch (by omega) s⟩) (Nat.zero_add n)
    ⟨Moved.zero, fun j hj => absurd hj (Nat.not_lt_zero j), fun _ _ => rfl⟩

end runs

/-- `OP_Move` moves the range exactly if there is a register after each of the two ranges. -/
theorem movesRange_iff (hD : D.Lawful) (hregs : MoveRegisters m op) (hb : b.Sound)
    (hsame : ∀ j, Mem.SameCell m.mems[j]? (b.cells j)) :
    MovesRange L D m b op ↔ op.p1 + op.p3 ≤ m.nMem ∧ op.p2 + op.p3 ≤ m.nMem := by
  obtain ⟨p1, p2, n, hp1, hp2, hn, hpos, hlast1, hlast2, hdisjoint⟩ := hregs.operands
  constructor
  · rintro ⟨m', b', hmoved⟩
    by_contra hno
    have herror := OP_Move_onMachine_error (L := L) hregs hp1 hp2 hn hpos hlast1 hlast2 hdisjoint
      (by omega)
    exact nomatch hmoved.onMachine.symm.trans herror
  · rintro ⟨h1, h2⟩
    obtain ⟨m', hrun, hm'⟩ := OP_Move_onMachine (L := L) hregs hp1 hp2 hn hpos hlast1 hlast2
      hdisjoint (by omega) (by omega)
    obtain ⟨b', hrun', hb'⟩ := OP_Move_onHeap hregs hp1 hp2 hn hpos hdisjoint hD hb (by omega)
      (by omega)
    have hnat : op.p1.toNat = p1 ∧ op.p2.toNat = p2 ∧ op.p3.toNat = n := by omega
    refine ⟨m', b', hrun, hrun', ?_, ?_, ?_⟩
    · rw [hnat.1, hnat.2.1, hnat.2.2]
      exact hm'
    · rw [hnat.1, hnat.2.1, hnat.2.2]
      exact hb'
    · refine hm'.cells.rel hb'.cells (fun pMem c hR x hx => ?_) hsame
      obtain ⟨y, rfl, rfl⟩ := Option.map_eq_some_iff.mp hx
      obtain ⟨-, hu, hn, henc, -⟩ := hR y rfl
      exact ⟨rfl, hu, hn, henc, rfl⟩

/-- The cells with their pointers. Each buffer is a block of its own. -/
def buffered (mems : List Mem) : Buffers.State ℕ where
  cells i :=
    let pMem := mems[i]?.getD Mem.ofNull
    let block : Buffers.Ptr := if pMem.szMalloc = 0 then .null else .heap i
    ⟨pMem.flags, pMem.u, pMem.n, pMem.enc, block, block, pMem.szMalloc⟩
  heap a :=
    let pMem := mems[a]?.getD Mem.ofNull
    if pMem.szMalloc = 0 then none else some pMem.szMalloc

/-- Every buffer is live and owned once. -/
theorem sound_buffered (mems : List Mem) : (buffered mems).Sound where
  live i h := by
    have hsz : (mems[i]?.getD Mem.ofNull).szMalloc ≠ 0 := h
    exact Or.inr ⟨i, if_neg hsz, by simp [buffered, hsz]⟩
  unique i j a hi hj := by
    have hblock : ∀ k, ((buffered mems).cells k).Owns a → k = a := by
      intro k hk
      have hsz : (mems[k]?.getD Mem.ofNull).szMalloc ≠ 0 := hk.1.ne'
      have hz : (if (mems[k]?.getD Mem.ofNull).szMalloc = 0 then Buffers.Ptr.null else .heap k) =
          .heap a := hk.2
      rw [if_neg hsz] at hz
      exact Buffers.Ptr.heap.inj hz
    rw [hblock i hi, hblock j hj]

/-- Both views are of the same cells. -/
theorem same_buffered (mems : List Mem) (j : ℕ) :
    Mem.SameCell mems[j]? ((buffered mems).cells j) := by
  intro x hx
  have hget : mems[j]?.getD Mem.ofNull = x := by rw [hx, Option.getD_some]
  refine ⟨?_, ?_, ?_, ?_, ?_⟩ <;> rw [← hget] <;> rfl

/-- A text in a buffer of the cell. -/
def Mem.bufferedText (z : List Byte) : Mem :=
  ⟨MEM_Str, 0, z.length, .own, z, z.length, SQLITE_UTF8, false⟩

/-- Six registers. The second one and the fifth one have buffers. -/
def sixRegisters : List Mem :=
  [Mem.ofNull, Mem.ofInt 7, Mem.bufferedText [97, 98], Mem.ofNull, Mem.ofInt 8,
    Mem.bufferedText [99], Mem.ofNull]

/-- `OP_Move` of the registers 1 and 2 to 4 and 5. -/
def moveTwo : Op := ⟨.Move, 1, 4, 2, .NOTUSED, 0#8⟩

/-- An integer and a text are moved over an integer and a text. -/
theorem movesRange_six : MovesRange CLib.decimal .plain (Machine.fresh sixRegisters 6 ([], ()))
    (buffered sixRegisters) moveTwo := by
  obtain ⟨written, hR, -⟩ := Machine.Sound.fresh sixRegisters 6 (([], ()) : List Mem × Unit)
  have hregs : MoveRegisters (Machine.fresh sixRegisters 6 (([], ()) : List Mem × Unit)) moveTwo :=
    ⟨⟨_, hR⟩, by decide, by decide, by decide, by decide, by decide, by decide, by decide⟩
  exact (movesRange_iff Buffers.Destructors.lawful_plain hregs (sound_buffered _)
    (same_buffered _)).mpr (by decide)

/-- `OP_Move` of one register from 1 to 2. -/
def moveOne : Op := ⟨.Move, 1, 2, 1, .NOTUSED, 0#8⟩

/-- Of two registers, the last one is a destination. Both are moved when the opcode raises. -/
theorem not_movesRange_last :
    MoveRegisters (twoRegisters (Mem.ofInt 7) Mem.ofNull) moveOne ∧
    ¬ MovesRange CLib.decimal .plain (twoRegisters (Mem.ofInt 7) Mem.ofNull)
      (buffered [Mem.ofNull, Mem.ofInt 7, Mem.ofNull]) moveOne := by
  have hregs : MoveRegisters (twoRegisters (Mem.ofInt 7) Mem.ofNull) moveOne :=
    ⟨(nullRegisters_two _ _).related, by decide, by decide, by decide, by decide, by decide,
      by decide, by decide⟩
  refine ⟨hregs, fun ⟨m', b', hmoved⟩ => ?_⟩
  have hp1 : moveOne.p1 = (1 : ℕ) := rfl
  have hp2 : moveOne.p2 = (2 : ℕ) := rfl
  have hn : moveOne.p3 = (1 : ℕ) := rfl
  have herror := OP_Move_onMachine_error (L := CLib.decimal) hregs hp1 hp2 hn (by decide) (by decide)
    (by decide) (by decide) (by decide)
  exact nomatch hmoved.onMachine.symm.trans herror

end range

end SQPyte
