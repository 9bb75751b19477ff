import SQPyte.Mem.Results
import SQPyte.Mem.Value
import SQPyte.Vdbe.Op

/-!
# Setting registers to NULL

`OP_Null` writes NULL into the registers `P2` to `P3`. What a register owned outside its buffer is to
be released by its destructor or finaliser, which C tells by `VdbeMemDynamic`. Before the opcode the
main loop releases the first register this way. For the others the opcode relies on
`sqlite3VdbeMemSetNull`, which leaves to C only row sets and frames: for any other cell it masks the
bits of the type, and a destructor or an accumulator is forgotten.

A destructor is any function of the state outside the cells. To count the calls, the C library is
taken with a record of the cells it has destroyed (`CLib.recording`).
-/

namespace SQPyte

open Commands

variable {ρ : Type}

/-- The library with a record of the cells that were destroyed, in order. -/
def CLib.recording (L : CLib ρ) : CLib (List Mem × ρ) where
  malloc n r := ((L.malloc n r.2).1, r.1, (L.malloc n r.2).2)
  destroy pMem r := (r.1 ++ [pMem], L.destroy pMem r.2)
  AtoF := L.AtoF
  Atoi64 := L.Atoi64
  printInt := L.printInt
  printReal := L.printReal
  translate enc pMem r := ((L.translate enc pMem r.2).1, r.1, (L.translate enc pMem r.2).2)

section opcode

variable (L : CLib ρ)

/-- What `mainloop` does before an opcode with `OPFLG_OUT2_PRERELEASE`. -/
def out2Prerelease (op : Op) : MemM ρ Unit := do
  let pOut ← op.mem_of_p2
  VdbeMemRelease L pOut
  set_flags pOut MEM_Int

/-- The `nullFlag` of `OP_Null`. -/
def Op.nullFlag (op : Op) : Flags := if op.p1 ≠ 0 then MEM_Null ||| MEM_Cleared else MEM_Null

/-- The body of the loop of `OP_Null`. -/
def nullRegister (nullFlag : Flags) (index : ℤ) : MemM ρ Unit := do
  let pOut ← mem_with_index index
  sqlite3VdbeMemSetNull L pOut
  set_flags pOut nullFlag

/-- `OP_Null`. The `while` loop runs over the indices from `P2 + 1` to `P3`. -/
def OP_Null (op : Op) : MemM ρ Unit := do
  let pOut ← op.mem_of_p2
  set_flags pOut op.nullFlag
  Prog.forRange (op.p2 + 1) (op.p3 - op.p2).toNat () fun index _ => nullRegister L op.nullFlag index

/-- The opcode as the main loop runs it. -/
def runNull (op : Op) : MemM ρ Unit := do
  out2Prerelease L op
  OP_Null L op

end opcode

/-! ## The methods on one cell -/

section methods

variable {L : CLib ρ} {s : Strict (List Mem × ρ)} {i : ℕ} {c : Mem} {w : Member}

/-- Row sets and frames are what `sqlite3VdbeMemSetNull` leaves to C. -/
def Mem.leftToC (c : Mem) : Bool := c.flags.has MEM_Frame || c.flags.has MEM_RowSet

/-- The cell owns something outside its buffer. -/
def Mem.dynamic (c : Mem) : Bool := VdbeMemDynamic c.flags

/-- No bit of a mask is set in a word that has none of a larger mask. -/
theorem Flags.has_eq_false_of_masked {f k mask : Flags} (h : f &&& k = 0#16)
    (hmask : mask &&& k = mask) : f.has mask = false := by
  unfold Flags.has
  rw [← hmask, BitVec.and_comm mask, ← BitVec.and_assoc, h, BitVec.zero_and]
  rfl

/-- What is left to C is dynamic. -/
theorem Mem.dynamic_of_leftToC (h : c.leftToC = true) : c.dynamic = true := by
  unfold leftToC at h
  unfold dynamic VdbeMemDynamic
  rw [Flags.has_or_right, Flags.has_or_right]
  rcases Bool.or_eq_true_iff.mp h with h | h
  · rw [h, Bool.or_true]
  · rw [h, Bool.or_true, Bool.true_or]

/-- `VdbeMemRelease` destroys what is dynamic. The fields but for the flags stay. -/
theorem Strict.At.run_VdbeMemRelease_recording (L : CLib ρ) (h : s.At i c w) :
    ∃ f w' r, run (strictMachine _) (VdbeMemRelease L.recording i) s =
      .ok ((), { s.setMem i { c with flags := f } w' with rest := r }) ∧
      r.1 = s.rest.1 ++ [c].filter Mem.dynamic := by
  obtain ⟨w', hrun⟩ := h.run_VdbeMemRelease L.recording
  cases hd : VdbeMemDynamic c.flags with
  | true =>
    rw [hd, if_pos rfl] at hrun
    refine ⟨MEM_Null, w', _, hrun, ?_⟩
    rw [List.filter_cons_of_pos (by exact hd), List.filter_nil]
    rfl
  | false =>
    rw [hd, if_neg Bool.false_ne_true] at hrun
    refine ⟨c.flags, w', _, hrun, ?_⟩
    rw [List.filter_cons_of_neg (by unfold Mem.dynamic; rw [hd]; exact Bool.false_ne_true),
      List.filter_nil, List.append_nil]

/-- `sqlite3VdbeMemSetNull` of `vdbemem.c` destroys what is dynamic. -/
theorem Mem.sqlite3VdbeMemSetNull_recording (L : CLib ρ) (c : Mem) (r : List Mem × ρ) :
    (c.sqlite3VdbeMemSetNull L.recording r).1 = { c with flags := MEM_Null } ∧
    (c.sqlite3VdbeMemSetNull L.recording r).2.1 = r.1 ++ [c].filter Mem.dynamic := by
  unfold Mem.sqlite3VdbeMemSetNull
  by_cases hd : VdbeMemDynamic c.flags = true
  · rw [if_pos hd, List.filter_cons_of_pos (by exact hd), List.filter_nil]
    exact ⟨rfl, rfl⟩
  · rw [if_neg hd, List.filter_cons_of_neg (by exact hd), List.filter_nil, List.append_nil]
    exact ⟨rfl, rfl⟩

/-- The Python method destroys row sets and frames, and masks the type of other cells. -/
theorem Strict.At.run_sqlite3VdbeMemSetNull_recording (L : CLib ρ) (h : s.At i c w) :
    ∃ w' r, run (strictMachine _) (sqlite3VdbeMemSetNull L.recording i) s =
      .ok ((), { s.setMem i
          { c with flags := if c.leftToC then MEM_Null else withTypeFlag c.flags MEM_Null } w' with
        rest := r }) ∧
      r.1 = s.rest.1 ++ [c].filter Mem.leftToC := by
  by_cases hc : c.leftToC = true
  · obtain ⟨hcell, hrecord⟩ := Mem.sqlite3VdbeMemSetNull_recording L c s.rest
    refine ⟨.foreign, (c.sqlite3VdbeMemSetNull L.recording s.rest).2, ?_, ?_⟩
    · unfold sqlite3VdbeMemSetNull c_mem_total
      rw [run_bind_ok h.run_get_flags, run_bind_ok h.run_get_flags, if_pos (by exact hc), if_pos hc,
        ← hcell]
      exact h.run_c_mem rfl
    · rw [hrecord, List.filter_cons_of_pos (Mem.dynamic_of_leftToC hc), List.filter_nil,
        List.filter_cons_of_pos hc, List.filter_nil]
  · obtain ⟨hframe, hrow⟩ := Bool.or_eq_false_iff.mp (Bool.eq_false_iff.mpr hc)
    refine ⟨w, s.rest, ?_, ?_⟩
    · rw [if_neg hc]
      exact h.run_sqlite3VdbeMemSetNull L.recording hframe hrow
    · rw [List.filter_cons_of_neg hc, List.filter_nil, List.append_nil]

end methods

/-! ## The range of registers -/

section range

variable {L : CLib ρ} {op : Op}

/-- The cells from `i` on, `n` of them, have the flags `f` now. -/
structure Flagged (f : Flags) (i n : ℕ) (mems mems' : List Mem) : Prop where
  /-- There are as many cells. -/
  length : mems'.length = mems.length
  /-- The cells in the range, and the others. -/
  cells : ∀ j, mems'[j]? =
    if i ≤ j ∧ j < i + n then mems[j]?.map ({ · with flags := f }) else mems[j]?

/-- Nothing has been flagged. -/
theorem Flagged.zero (f : Flags) (i : ℕ) (mems : List Mem) : Flagged f i 0 mems mems :=
  ⟨rfl, fun j => (if_neg (by omega)).symm⟩

/-- One cell more. -/
theorem Flagged.succ {f : Flags} {i n : ℕ} {mems mems' : List Mem} {c : Mem}
    (h : Flagged f i n mems mems') (hc : mems[i + n]? = some c) :
    Flagged f i (n + 1) mems (mems'.set (i + n) { c with flags := f }) := by
  refine ⟨(List.length_set ..).trans h.length, fun j => ?_⟩
  by_cases hj : i + n = j
  · subst hj
    have hlt : i + n < mems'.length := h.length ▸ (List.getElem?_eq_some_iff.mp hc).1
    rw [List.getElem?_set_self hlt, if_pos (by omega), hc, Option.map_some]
  · rw [List.getElem?_set_ne hj, h.cells j]
    exact if_congr (by omega) rfl rfl

/-- What the loop of `OP_Null` has done after `k` registers from `i` on. -/
structure NullLoop (f : Flags) (i : ℕ) (s : Strict (List Mem × ρ)) (k : ℕ)
    (s' : Strict (List Mem × ρ)) : Prop where
  /-- There are as many registers. -/
  nMem : s'.nMem = s.nMem
  /-- They are NULL now. -/
  cells : Flagged f i k s.mems s'.mems
  /-- The row sets and frames among them are destroyed. -/
  record : s'.rest.1 = s.rest.1 ++ ((s.mems.drop i).take k).filter Mem.leftToC

/-- One register. -/
theorem NullLoop.succ (L : CLib ρ) {f : Flags} {index : ℤ} {k : ℕ} {s s₁ : Strict (List Mem × ρ)}
    (hI : NullLoop f index.toNat s k s₁) (hindex : 0 ≤ index)
    (hreg : IsRegister s.mems.length s.nMem (index + k)) :
    ∃ s', run (strictMachine _) (nullRegister L.recording f (index + k)) s₁ = .ok ((), s') ∧
      NullLoop f index.toNat s (k + 1) s' := by
  have hi : (index + k).toNat = index.toNat + k := by omega
  obtain ⟨c, hc⟩ : ∃ c, s.mems[index.toNat + k]? = some c :=
    ⟨_, List.getElem?_eq_getElem (hi ▸ hreg.lt)⟩
  have hat : s₁.At (index.toNat + k) c (s₁.written (index.toNat + k)) := by
    refine ⟨?_, rfl⟩
    rw [hI.cells.cells, if_neg (by omega), hc]
  obtain ⟨w', r, hnull, hr⟩ := hat.run_sqlite3VdbeMemSetNull_recording L
  have hmem : run (strictMachine _) (mem_with_index (index + k)) s₁ =
      .ok (index.toNat + k, s₁) := by
    refine Strict.run_mem_with_index _ ?_
    rw [hI.cells.length, hI.nMem, hreg.memIndex_eq, hi]
  set d : Mem := { c with
    flags := if c.leftToC then MEM_Null else withTypeFlag c.flags MEM_Null } with hd
  have hat' : Strict.At { s₁.setMem (index.toNat + k) d w' with rest := r } (index.toNat + k) d w' :=
    hat.setMem d w'
  refine ⟨_, (run_bind_ok hmem _).trans ((run_bind_ok hnull _).trans (hat'.run_set_flags f)),
    hI.nMem, ?_, ?_⟩
  · show Flagged f index.toNat (k + 1) s.mems ((s₁.mems.set _ d).set _ { d with flags := f })
    rw [List.set_set]
    exact hI.cells.succ (c := c) hc
  · have hget : (s.mems.drop index.toNat)[k]? = some c := by rw [List.getElem?_drop, hc]
    show r.1 = _
    rw [hr, hI.record, List.take_add_one, hget, Option.toList_some, List.filter_append,
      List.append_assoc]

/-- The loop of `OP_Null` over `n` registers. -/
theorem run_nullLoop (L : CLib ρ) (f : Flags) {index : ℤ} (n : ℕ) {s : Strict (List Mem × ρ)}
    (hindex : 0 ≤ index) (hregs : ∀ k < n, IsRegister s.mems.length s.nMem (index + k)) :
    ∃ (_ : Unit) (s' : Strict (List Mem × ρ)), run (strictMachine _) (Prog.forRange index n ()
        fun index _ => nullRegister L.recording f index) s = .ok ((), s') ∧
      NullLoop f index.toNat s n s' :=
  run_forRange (fun k _ s' => NullLoop f index.toNat s k s')
    (fun k hk _ _ hI => ⟨(), hI.succ L hindex (hregs k hk)⟩)
    ⟨rfl, Flagged.zero f _ _, by rw [List.take_zero, List.filter_nil, List.append_nil]⟩

/-- The registers that `OP_Null` is to set: `P2` to `P3`, or only `P2`. -/
def nullRange (m : Machine ρ) (op : Op) : List Mem :=
  (m.mems.drop op.p2.toNat).take (1 + (op.p3 - op.p2).toNat)

/-- The operands of `OP_Null` are registers, and the cache knows nothing false of the flags. -/
structure NullRegisters (m : Machine ρ) (op : Op) : Prop where
  /-- The cache knows nothing false. -/
  related : ∃ s, Related m s
  /-- The first register. -/
  first : IsRegister m.mems.length m.nMem op.p2
  /-- The last one, if there is more than one. -/
  last : op.p2 < op.p3 → op.p3 ≤ m.nMem

/-- `OP_Null` gives the registers in the range the flags of NULL, destroys each of them that is
dynamic once, and leaves the other cells alone. -/
def NullsRange (L : CLib ρ) (m : Machine (List Mem × ρ)) (op : Op) : Prop :=
  ∃ m', run (machine _) (runNull L.recording op) m = .ok ((), m') ∧
    (∀ j : ℕ, op.p2 ≤ j → j ≤ max op.p2 op.p3 → m'.mems[j]?.map Mem.flags = some op.nullFlag) ∧
    (∀ j : ℕ, j < op.p2 ∨ max op.p2 op.p3 < j → m'.mems[j]? = m.mems[j]?) ∧
    m'.rest.1 = m.rest.1 ++ (nullRange m op).filter Mem.dynamic

/-- `sqlite3VdbeMemSetNull` gives the cell `i` the flags of NULL, destroys it once if it is dynamic,
and leaves the other cells alone. -/
def SetsNull (L : CLib ρ) (m : Machine (List Mem × ρ)) (i : ℕ) : Prop :=
  ∃ m', run (machine _) (sqlite3VdbeMemSetNull L.recording i) m = .ok ((), m') ∧
    m'.mems[i]?.map Mem.flags = some MEM_Null ∧
    (∀ j, j ≠ i → m'.mems[j]? = m.mems[j]?) ∧
    m'.rest.1 = m.rest.1 ++ m.mems[i]?.toList.filter Mem.dynamic

/-- What `OP_Null` leaves, after the release before it: the range is NULL, and destroyed were the
first register if it was dynamic, and the row sets and frames among the others. -/
theorem run_runNull (L : CLib ρ) {m : Machine (List Mem × ρ)} (hregs : NullRegisters m op) :
    ∃ m' first rest, run (machine _) (runNull L.recording op) m = .ok ((), m') ∧
      Flagged op.nullFlag op.p2.toNat (1 + (op.p3 - op.p2).toNat) m.mems m'.mems ∧
      nullRange m op = first :: rest ∧
      m'.rest.1 = m.rest.1 ++ ([first].filter Mem.dynamic ++ rest.filter Mem.leftToC) := by
  obtain ⟨s, hR⟩ := hregs.related
  have hfirst := hregs.first
  have hlast := hregs.last
  rw [hR.mems, hR.nMem] at hfirst
  rw [hR.nMem] at hlast
  have h0 : 0 ≤ op.p2 := hfirst.1
  obtain ⟨c, hc⟩ : ∃ c, s.mems[op.p2.toNat]? = some c := ⟨_, List.getElem?_eq_getElem hfirst.lt⟩
  -- the release before the opcode
  have hat : s.At op.p2.toNat c (s.written _) := ⟨hc, rfl⟩
  obtain ⟨f, w', r, hrelease, hr⟩ := hat.run_VdbeMemRelease_recording L
  have hmem : ∀ t : Strict (List Mem × ρ), t.mems.length = s.mems.length → t.nMem = s.nMem →
      run (strictMachine _) op.mem_of_p2 t = .ok (op.p2.toNat, t) := fun t hlen hnMem =>
    Strict.run_mem_with_index t (by rw [hlen, hnMem]; exact hfirst.memIndex_eq)
  set s₀ : Strict (List Mem × ρ) :=
    { s.setMem op.p2.toNat { c with flags := f } w' with rest := r } with hs₀
  have hat₀ : s₀.At op.p2.toNat { c with flags := f } w' := hat.setMem _ w'
  -- the first register
  set s₁ := s₀.setMem op.p2.toNat { c with flags := MEM_Int } w' with hs₁
  have hat₁ : s₁.At op.p2.toNat { c with flags := MEM_Int } w' := hat₀.setMem _ w'
  set s₂ := s₁.setMem op.p2.toNat { c with flags := op.nullFlag } w' with hs₂
  have hmems₁ : s₂.mems = s.mems.set op.p2.toNat { c with flags := op.nullFlag } := by
    show ((s.mems.set _ _).set _ _).set _ _ = _
    rw [List.set_set, List.set_set]
  have hlen₁ : s₂.mems.length = s.mems.length := by rw [hmems₁, List.length_set]
  -- the others
  obtain ⟨-, s', hloop, -, hcells, hrecord⟩ := run_nullLoop L op.nullFlag
    (op.p3 - op.p2).toNat (s := s₂) (show 0 ≤ op.p2 + 1 by omega) (fun k hk => by
      rw [hlen₁]
      exact ⟨by omega, show op.p2 + 1 + k ≤ (s.nMem : ℤ) by omega, hfirst.2.2⟩)
  have hrun : run (strictMachine _) (runNull L.recording op) s = .ok ((), s') := by
    unfold runNull out2Prerelease OP_Null
    rw [run_bind_ok ((run_bind_ok (hmem s rfl rfl) _).trans ((run_bind_ok hrelease _).trans
      (hat₀.run_set_flags MEM_Int)))]
    refine (run_bind_ok (hmem s₁ ?_ rfl) _).trans
      ((run_bind_ok (hat₁.run_set_flags op.nullFlag) _).trans hloop)
    show ((s.mems.set _ _).set _ _).length = _
    rw [List.length_set, List.length_set]
  obtain ⟨m', hrun', hR'⟩ := run_machine_of_strict hR hrun
  have hnat : (op.p2 + 1).toNat = op.p2.toNat + 1 := by omega
  refine ⟨m', c, (s.mems.drop (op.p2.toNat + 1)).take (op.p3 - op.p2).toNat, hrun', ?_, ?_, ?_⟩
  · rw [hR.mems, hR'.mems]
    refine ⟨hcells.length.trans hlen₁, fun j => ?_⟩
    rw [hcells.cells j, hmems₁, hnat]
    by_cases hj : op.p2.toNat = j
    · subst hj
      rw [if_neg (by omega), if_pos (by omega), List.getElem?_set_self hfirst.lt, hc, Option.map_some]
    · rw [List.getElem?_set_ne hj]
      exact if_congr (by omega) rfl rfl
  · unfold nullRange
    rw [hR.mems, List.drop_eq_getElem_cons hfirst.lt, Nat.add_comm 1, List.take_succ_cons]
    rw [List.getElem?_eq_getElem hfirst.lt, Option.some_inj] at hc
    rw [hc]
  · rw [hR.rest, hR'.rest, hrecord, hnat, hmems₁, List.drop_set_of_lt (by omega)]
    show r.1 ++ _ = _
    rw [hr, List.append_assoc]

/-- The registers are set to NULL as they are to be exactly if every dynamic one after the first is a
row set or a frame. -/
theorem nullsRange_iff {L : CLib ρ} {m : Machine (List Mem × ρ)} (hregs : NullRegisters m op) :
    NullsRange L m op ↔ ∀ c ∈ (nullRange m op).tail, c.dynamic = true → c.leftToC = true := by
  obtain ⟨m', first, rest, hrun, hcells, hrange, hrecord⟩ := run_runNull L hregs
  have h0 : 0 ≤ op.p2 := hregs.first.1
  have hsub : rest.filter Mem.leftToC = (rest.filter Mem.dynamic).filter Mem.leftToC := by
    rw [List.filter_filter]
    refine List.filter_congr fun c _ => ?_
    cases hc : c.leftToC with
    | false => rfl
    | true => rw [Mem.dynamic_of_leftToC hc, Bool.and_self]
  have hall : m'.rest.1 = m.rest.1 ++ (nullRange m op).filter Mem.dynamic ↔
      ∀ c ∈ rest, c.dynamic = true → c.leftToC = true := by
    rw [hrecord, hrange, List.append_cancel_left_eq, hsub,
      show first :: rest = [first] ++ rest from rfl, List.filter_append, List.append_cancel_left_eq,
      List.filter_eq_self]
    exact ⟨fun h c hc hd => h c (List.mem_filter.mpr ⟨hc, hd⟩),
      fun h c hc => h c (List.mem_filter.mp hc).1 (List.mem_filter.mp hc).2⟩
  rw [hrange, List.tail_cons, ← hall]
  constructor
  · rintro ⟨m'', hrun', -, -, h⟩
    obtain ⟨-, rfl⟩ := Prod.mk.inj (Except.ok.inj (hrun.symm.trans hrun'))
    exact h
  · refine fun h => ⟨m', hrun, fun j hlo hhi => ?_, fun j hj => ?_, h⟩
    · have hlast := hregs.last
      have hj : j < m.mems.length := by
        have := hregs.first.2
        omega
      rw [hcells.cells j, if_pos (by omega), List.getElem?_eq_getElem hj, Option.map_some,
        Option.map_some]
    · rw [hcells.cells j, if_neg (by omega)]

/-- One cell is set to NULL as it is to be exactly if it is a row set or a frame, or has no flag
outside its type but `MEM_Zero`. -/
theorem setsNull_iff {L : CLib ρ} {m : Machine (List Mem × ρ)} (hR : ∃ s, Related m s) {i : ℕ}
    {c : Mem} (hc : m.mems[i]? = some c) :
    SetsNull L m i ↔ c.leftToC = true ∨ c.flags &&& ~~~(MEM_TypeMask ||| MEM_Zero) = 0#16 := by
  obtain ⟨s, hR⟩ := hR
  have hat : s.At i c (s.written i) := ⟨hR.mems ▸ hc, rfl⟩
  -- The run records the cells that C is given.
  obtain ⟨w', r, hnull, hr⟩ := hat.run_sqlite3VdbeMemSetNull_recording L
  obtain ⟨m', hrun, hR'⟩ := run_machine_of_strict hR hnull
  have hmem : m'.mems[i]? = some { c with
      flags := if c.leftToC then MEM_Null else withTypeFlag c.flags MEM_Null } := by
    rw [hR'.mems]
    exact List.getElem?_set_self hat.lt
  constructor
  · rintro ⟨m'', hrun', hflags, -, -⟩
    obtain ⟨-, rfl⟩ := Prod.mk.inj (Except.ok.inj (hrun.symm.trans hrun'))
    rw [hmem, Option.map_some, Option.some_inj] at hflags
    by_cases hleft : c.leftToC = true
    · exact Or.inl hleft
    · right
      rw [if_neg hleft] at hflags
      change withTypeFlag c.flags MEM_Null = MEM_Null at hflags
      unfold withTypeFlag at hflags
      -- the bits that are kept are among those of `MEM_Null`, which are masked
      calc c.flags &&& ~~~(MEM_TypeMask ||| MEM_Zero)
          = (c.flags &&& ~~~(MEM_TypeMask ||| MEM_Zero) ||| MEM_Null) &&&
              ~~~(MEM_TypeMask ||| MEM_Zero) := by
            rw [BitVec.and_or_distrib_right, BitVec.and_assoc, BitVec.and_self,
              show MEM_Null &&& ~~~(MEM_TypeMask ||| MEM_Zero) = 0#16 by decide, BitVec.or_zero]
        _ = 0#16 := by rw [hflags]; decide
  · intro h
    refine ⟨m', hrun, ?_, fun j hj => ?_, ?_⟩
    · rw [hmem, Option.map_some, Option.some_inj]
      by_cases hleft : c.leftToC = true
      · rw [if_pos hleft]
      · rw [if_neg hleft]
        unfold withTypeFlag
        rw [h.resolve_left hleft, BitVec.zero_or]
    · rw [hR'.mems, hR.mems]
      exact List.getElem?_set_ne hj.symm
    · rw [hR'.rest, hR.rest, hc, Option.toList_some]
      show r.1 = _
      rw [hr]
      by_cases hleft : c.leftToC = true
      · rw [List.filter_cons_of_pos hleft, List.filter_cons_of_pos (Mem.dynamic_of_leftToC hleft),
          List.filter_nil, List.filter_nil]
      · -- On the fast path no flag is kept, so there was no resource to give up.
        have hdyn : ¬ c.dynamic = true := by
          intro hdyn
          have hmask := h.resolve_left hleft
          unfold Mem.dynamic VdbeMemDynamic at hdyn
          rw [Flags.has_or_right, Flags.has_or_right, Flags.has_or_right,
            Flags.has_eq_false_of_masked hmask (by decide : MEM_Agg &&& _ = MEM_Agg),
            Flags.has_eq_false_of_masked hmask (by decide : MEM_Dyn &&& _ = MEM_Dyn)] at hdyn
          refine hleft ?_
          unfold Mem.leftToC
          rw [Bool.or_comm]
          exact hdyn
        rw [List.filter_cons_of_neg hleft, List.filter_cons_of_neg hdyn, List.filter_nil,
          List.filter_nil]

/-- Setting registers to NULL. -/
theorem setsRegistersNull_iff {L : CLib ρ} {m : Machine (List Mem × ρ)} (hregs : NullRegisters m op)
    {i : ℕ} {c : Mem} (hc : m.mems[i]? = some c) :
    (NullsRange L m op ↔ ∀ d ∈ (nullRange m op).tail, d.dynamic = true → d.leftToC = true) ∧
    (SetsNull L m i ↔ c.leftToC = true ∨ c.flags &&& ~~~(MEM_TypeMask ||| MEM_Zero) = 0#16) :=
  ⟨nullsRange_iff hregs, setsNull_iff hregs.related hc⟩

/-- A blob with a destructor. -/
def dynamicBlob : Mem := ⟨MEM_Blob ||| MEM_Dyn, 0, 1, .ext [0], [], 0, SQLITE_UTF8, true⟩

/-- A row set. -/
def emptyRowSet : Mem := ⟨MEM_RowSet, 0, 0, .null, [], 0, SQLITE_UTF8, false⟩

/-- Two registers, with nothing recorded yet. -/
def twoRegisters (r1 r2 : Mem) : Machine (List Mem × Unit) :=
  Machine.fresh [Mem.ofNull, r1, r2] 2 ([], ())

/-- `OP_Null` on the two registers. -/
def nullBoth : Op := ⟨.Null, 0, 1, 2, .NOTUSED, 0#8⟩

/-- Two registers to set to NULL. -/
theorem nullRegisters_two (r1 r2 : Mem) : NullRegisters (twoRegisters r1 r2) nullBoth := by
  obtain ⟨written, hR, -⟩ := Machine.Sound.fresh [Mem.ofNull, r1, r2] 2 (([], ()) : List Mem × Unit)
  have hfirst : IsRegister 3 2 1 := by decide
  exact ⟨⟨_, hR⟩, hfirst, fun _ => le_rfl⟩

/-- A blob with a destructor comes first, and the row set after it is left to C. -/
theorem setsRegistersNull_rowSet :
    NullsRange CLib.decimal (twoRegisters dynamicBlob emptyRowSet) nullBoth ∧
    SetsNull CLib.decimal (twoRegisters dynamicBlob emptyRowSet) 2 := by
  obtain ⟨hrange, hcell⟩ := setsRegistersNull_iff (L := CLib.decimal)
    (nullRegisters_two dynamicBlob emptyRowSet) (i := 2) (c := emptyRowSet) rfl
  exact ⟨hrange.mpr (by decide), hcell.mpr (Or.inl (by decide))⟩

/-- The destructor of a blob in the second register is never called, and the flags that
`sqlite3VdbeMemSetNull` leaves still say that there is one. -/
theorem not_setsRegistersNull_dynamic :
    ¬ NullsRange CLib.decimal (twoRegisters Mem.ofNull dynamicBlob) nullBoth ∧
    ¬ SetsNull CLib.decimal (twoRegisters Mem.ofNull dynamicBlob) 2 := by
  have hregs := nullRegisters_two Mem.ofNull dynamicBlob
  rw [nullsRange_iff hregs, setsNull_iff hregs.related (c := dynamicBlob) rfl]
  decide

end range

end SQPyte
