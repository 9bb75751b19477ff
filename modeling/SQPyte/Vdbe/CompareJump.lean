import SQPyte.Library.Runs
import SQPyte.Mem.Compare
import SQPyte.Vdbe.Op

/-!
# The opcodes `OP_Compare` and `OP_Jump`

`OP_Compare` compares two vectors of registers position by position, each by its own collation and
sort order, and leaves the result in `hlquery.iCompare` for `OP_Jump`. It leaves the first difference
(`run_OP_Compare`, where the induction is over the positions compared so far).

The documentation of `OP_Jump` and the C code go by the most recent `OP_Compare`. The Python code
clears `iCompare` in `OP_Jump`, so a second `OP_Jump` takes the vectors for equal. `compareJump_iff`
says for which runs this makes no difference, whatever other opcodes are executed in between.
-/

namespace SQPyte

open Commands

/-- `OPFLAG_PERMUTE`. -/
def OPFLAG_PERMUTE : BitVec 8 := 0x01#8

namespace Op

/-- `Op.p4_pKeyInfo`: the `aColl` and the `aSortOrder` of each field. -/
def p4_pKeyInfo (op : Op) : Option (List (Option CollSeq × Bool)) :=
  match op.p4 with
  | .KEYINFO fields => some fields
  | _ => none

end Op

section opcodes

variable {ρ : Type}

/-- The result of `OP_Compare`, if there is a difference at position `i`. -/
def compareTerm (op : Op) (pKeyInfo : List (Option CollSeq × Bool)) (i : ℤ) :
    MemM ρ (Option ℤ) := do
  match pKeyInfo[i.toNat]? with
  | none => throwExc .assertion
  | some (pColl, bRev) =>
    let pIn1 ← mem_with_index (op.p1 + i)
    let pIn2 ← mem_with_index (op.p2 + i)
    let iCompare ← sqlite3MemCompare pIn1 pIn2 pColl
    if iCompare ≠ 0 then return some (if bRev then -iCompare else iCompare)
    else return none

/-- The body of the loop of `OP_Compare`. After a difference it is left. -/
def compareStep (op : Op) (pKeyInfo : List (Option CollSeq × Bool)) (i : ℤ) :
    Option ℤ → MemM ρ (Option ℤ)
  | some iCompare => pure (some iCompare)
  | none => compareTerm op pKeyInfo i

/-- `OP_Compare`: the new value of `hlquery.iCompare`. -/
def OP_Compare (op : Op) : MemM ρ ℤ := do
  if op.p5_has OPFLAG_PERMUTE then throwExc .assertion
  else
    pyAssert (0 < op.p3)
    match op.p4_pKeyInfo with
    | none => throwExc .assertion
    | some pKeyInfo =>
      let found ← Prog.forRange 0 op.p3.toNat none (compareStep op pKeyInfo)
      return found.getD 0

/-- `OP_Jump`: the address it returns and the new value of `hlquery.iCompare`. -/
def OP_Jump (iCompare : ℤ) (op : Op) : ℤ × ℤ :=
  let pc := if iCompare < 0 then op.p1 - 1 else if iCompare = 0 then op.p2 - 1 else op.p3 - 1
  (pc, 0)

end opcodes

/-! ## The first difference -/

/-- The first of the `n` results `c` that is not 0, reversed where `rev` says so. -/
def firstDifference (c : ℕ → ℤ) (rev : ℕ → Bool) : ℕ → Option ℤ
  | 0 => none
  | n + 1 =>
    match firstDifference c rev n with
    | some x => some x
    | none => if c n ≠ 0 then some (if rev n then -c n else c n) else none

section firstDifference

variable {c : ℕ → ℤ} {rev : ℕ → Bool} {n : ℕ}

/-- There is no difference. -/
theorem firstDifference_eq_none_iff (c : ℕ → ℤ) (rev : ℕ → Bool) {n : ℕ} :
    firstDifference c rev n = none ↔ ∀ k < n, c k = 0 := by
  induction n with
  | zero => exact ⟨fun _ k hk => absurd hk (Nat.not_lt_zero k), fun _ => rfl⟩
  | succ n ih =>
    unfold firstDifference
    cases hf : firstDifference c rev n with
    | some x =>
      refine ⟨fun h => (by cases h), fun h => ?_⟩
      rw [ih.mpr fun k hk => h k (by omega)] at hf
      cases hf
    | none =>
      have hbefore := ih.mp hf
      dsimp only
      split_ifs with hn
      · exact ⟨fun h => (by cases h), fun h => absurd (h n (by omega)) hn⟩
      · refine ⟨fun _ k hk => ?_, fun _ => rfl⟩
        rcases Nat.lt_succ_iff_lt_or_eq.mp hk with hk | rfl
        · exact hbefore k hk
        · exact not_not.mp hn

/-- The first difference, turned round where the order is descending. -/
theorem firstDifference_eq_some {k : ℕ} (hk : k < n) (hne : c k ≠ 0) (hfirst : ∀ j < k, c j = 0) :
    firstDifference c rev n = some (if rev k then -c k else c k) := by
  induction n with
  | zero => exact absurd hk (Nat.not_lt_zero k)
  | succ n ih =>
    unfold firstDifference
    rcases Nat.lt_succ_iff_lt_or_eq.mp hk with hk | rfl
    · rw [ih hk]
    · rw [(firstDifference_eq_none_iff c rev).mpr hfirst]
      exact if_pos hne

/-- A difference is not zero. -/
theorem firstDifference_ne_zero {x : ℤ} (h : firstDifference c rev n = some x) : x ≠ 0 := by
  induction n with
  | zero => cases h
  | succ n ih =>
    unfold firstDifference at h
    cases hf : firstDifference c rev n with
    | some y =>
      rw [hf] at h
      exact ih (hf.trans h)
    | none =>
      rw [hf] at h
      dsimp only at h
      split_ifs at h with hn hrev
      · rw [← Option.some.inj h]
        exact neg_ne_zero.mpr hn
      · rw [← Option.some.inj h]
        exact hn

end firstDifference

/-! ## `OP_Compare` -/

section compare

variable {ρ : Type} {m : Machine ρ} {op : Op}

/-- The registers of `OP_Compare`: two vectors of `P3` registers, and a `KeyInfo` with a collation
and a sort order for each position. -/
structure CompareInputs (m : Machine ρ) (op : Op) (keys : List (Option CollSeq × Bool)) : Prop where
  /-- There are positions. -/
  p3 : 0 < op.p3
  /-- The registers are compared in order. -/
  p5 : op.p5_has OPFLAG_PERMUTE = false
  /-- The `KeyInfo` has a field for each position. -/
  p4 : op.p4 = .KEYINFO keys ∧ op.p3.toNat ≤ keys.length
  /-- The vectors are registers. -/
  registers : ∀ k < op.p3.toNat, IsRegister m.mems.length m.nMem (op.p1 + (k : ℤ)) ∧
    IsRegister m.mems.length m.nMem (op.p2 + (k : ℤ))

/-- `x` is what comparing vectors is to give: the sign of the first answer of `sqlite3MemCompare` that
is not 0, reversed where the sort order is descending, and 0 if all are. -/
structure ComparesVectors (m : Machine ρ) (op : Op) (keys : List (Option CollSeq × Bool)) (x : ℤ) :
    Prop where
  /-- The result of each position, by its own collation. -/
  result : ∃ c : ℕ → ℤ,
    (∀ k < op.p3.toNat, ∃ key, keys[k]? = some key ∧
      compareResult m key.1 (op.p1 + (k : ℤ)).toNat (op.p2 + (k : ℤ)).toNat = .ok (c k) ∧
      (c k ≠ 0 → (∀ j < k, c j = 0) → x.sign = if key.2 then -(c k).sign else (c k).sign)) ∧
    (x = 0 ↔ ∀ k < op.p3.toNat, c k = 0)

/-- On the cells alone, `OP_Compare` finds the first difference and changes nothing. -/
theorem run_OP_Compare {keys : List (Option CollSeq × Bool)} (h : CompareInputs m op keys)
    {written : ℕ → Member} (hann : ∀ i pMem, m.mems[i]? = some pMem → Announces pMem (written i))
    {c : ℕ → ℤ} (hc : ∀ k < op.p3.toNat, ∃ key a b, keys[k]? = some key ∧
      m.mems[(op.p1 + (k : ℤ)).toNat]? = some a ∧ m.mems[(op.p2 + (k : ℤ)).toNat]? = some b ∧
      c k = methodCompare key.1 a b) :
    run (strictMachine ρ) (OP_Compare op) (m.strict written) =
      .ok ((firstDifference c (fun k => (keys.getD k (none, false)).2) op.p3.toNat).getD 0,
        m.strict written) := by
  -- One position: the registers are compared, and a difference is turned around for a descending
  -- column.
  have hterm : ∀ k < op.p3.toNat, run (strictMachine ρ) (compareTerm op keys (0 + (k : ℤ)))
      (m.strict written) = .ok (if c k ≠ 0 then
        some (if (keys.getD k (none, false)).2 then -c k else c k) else none, m.strict written) := by
    intro k hk
    obtain ⟨⟨coll, rev⟩, a, b, hkey, ha, hb, hck⟩ := hc k hk
    obtain ⟨hreg1, hreg2⟩ := h.registers k hk
    unfold compareTerm
    rw [zero_add, Int.toNat_natCast, hkey, List.getD_eq_getElem?_getD, hkey]
    dsimp only [Option.getD_some]
    rw [run_bind_ok (Strict.run_mem_with_index _ hreg1.memIndex_eq),
      run_bind_ok (Strict.run_mem_with_index _ hreg2.memIndex_eq),
      run_bind_ok (run_sqlite3MemCompare coll ⟨ha, rfl⟩ ⟨hb, rfl⟩ (hann _ a ha) (hann _ b hb)),
      ← hck]
    split_ifs <;> rfl
  unfold OP_Compare
  rw [h.p5, if_neg Bool.false_ne_true,
    run_bind_ok (Strict.run_pyAssert _ (show decide (0 < op.p3) = true from decide_eq_true h.p3)),
    show op.p4_pKeyInfo = some keys by unfold Op.p4_pKeyInfo; rw [h.p4.1]]
  dsimp only
  -- After `k` positions, the accumulator is the first difference among them.
  have hstep : ∀ k < op.p3.toNat, ∀ found s,
      found = firstDifference c (fun k => (keys.getD k (none, false)).2) k ∧ s = m.strict written →
      ∃ found' s', run (strictMachine ρ) (compareStep op keys (0 + (k : ℤ)) found) s =
          .ok (found', s') ∧
        found' = firstDifference c (fun k => (keys.getD k (none, false)).2) (k + 1) ∧
        s' = m.strict written := by
    rintro k hk found s ⟨rfl, rfl⟩
    cases hf : firstDifference c (fun k => (keys.getD k (none, false)).2) k with
    | some x =>
      refine ⟨some x, _, rfl, ?_, rfl⟩
      unfold firstDifference
      rw [hf]
    | none =>
      refine ⟨_, _, hterm k hk, ?_, rfl⟩
      rw [firstDifference, hf]
  obtain ⟨found, s, hrun, rfl, rfl⟩ := run_forRange _ hstep
    (show none = firstDifference c _ 0 ∧ m.strict written = m.strict written from ⟨rfl, rfl⟩)
  rw [run_bind_ok hrun, run_pure]

/-- `OP_Compare` records what comparing the vectors is to give, and changes no register. -/
theorem OP_Compare_spec (hm : m.Sound) {keys : List (Option CollSeq × Bool)}
    (h : CompareInputs m op keys) :
    ∃ x m', run (machine ρ) (OP_Compare op) m = .ok (x, m') ∧ ComparesVectors m op keys x ∧
      m'.Sound ∧ m'.mems = m.mems ∧ m'.rest = m.rest := by
  have hsound := hm
  obtain ⟨written, hR, hann⟩ := hm
  have hcell : ∀ {p : ℤ}, IsRegister m.mems.length m.nMem p →
      m.mems[p.toNat]? = some (m.mems.getD p.toNat Mem.ofNull) := by
    intro p hp
    rw [List.getD_eq_getElem?_getD, List.getElem?_eq_getElem hp.lt]
    rfl
  have hkey : ∀ k < op.p3.toNat, keys[k]? = some (keys.getD k (none, false)) := by
    intro k hk
    have := h.p4.2
    rw [List.getD_eq_getElem?_getD, List.getElem?_eq_getElem (by omega)]
    rfl
  -- The results of all positions are named at once, also of those that the opcode does not get to.
  obtain ⟨c, hc⟩ : ∃ c : ℕ → ℤ, ∀ k, c k = methodCompare (keys.getD k (none, false)).1
      (m.mems.getD (op.p1 + (k : ℤ)).toNat Mem.ofNull)
      (m.mems.getD (op.p2 + (k : ℤ)).toNat Mem.ofNull) := ⟨_, fun _ => rfl⟩
  have hrun := run_OP_Compare h hann fun k hk => ⟨_, _, _, hkey k hk,
    hcell (h.registers k hk).1, hcell (h.registers k hk).2, hc k⟩
  obtain ⟨m', hrun', hR'⟩ := run_machine_of_strict hR hrun
  refine ⟨_, m', hrun', ⟨c, ?_, ?_⟩, Machine.Sound.of_related hR' hann, hR'.mems, hR'.rest⟩
  · intro k hk
    refine ⟨_, hkey k hk, ?_, fun hne hfirst => ?_⟩
    · rw [hc k]
      exact compareResult_eq hsound _ (hcell (h.registers k hk).1) (hcell (h.registers k hk).2)
    · rw [firstDifference_eq_some hk hne hfirst, Option.getD_some]
      split_ifs
      · exact Int.sign_neg _
      · rfl
  · rw [← firstDifference_eq_none_iff c fun k => (keys.getD k (none, false)).2]
    cases hf : firstDifference c (fun k => (keys.getD k (none, false)).2) op.p3.toNat with
    | none => exact ⟨fun _ => rfl, fun _ => rfl⟩
    | some x =>
      exact ⟨fun hx => absurd hx (firstDifference_ne_zero hf), fun hx => (by cases hx)⟩

end compare

/-! ## Runs -/

section runs

variable {ρ : Type}

/-- A query between two opcodes. -/
structure CompareState (ρ : Type) where
  /-- The registers and the rest. -/
  m : Machine ρ
  /-- `hlquery.iCompare`. -/
  iCompare : ℤ
  /-- The address of the next opcode. -/
  pc : ℤ
  /-- The result of the most recent `OP_Compare`. -/
  last : Option ℤ
  /-- An `OP_Jump` was executed since. -/
  jumped : Bool

/-- A new query. -/
def CompareState.init (m : Machine ρ) : CompareState ρ := ⟨m, 0, 0, none, false⟩

/-- What happens next. -/
inductive CompareEvent (ρ : Type) where
  /-- The `OP_Compare` or `OP_Jump` at `pc` is executed. -/
  | execute
  /-- Anything else, such as another opcode or a reset, goes on at `pc` with the registers `m`. Only
  `OP_Compare` and `OP_Jump` use `iCompare`. -/
  | elsewhere (pc : ℤ) (m : Machine ρ)

/-- The opcode at an address. -/
def fetch (program : List Op) (pc : ℤ) : Option Op :=
  if 0 ≤ pc then program[pc.toNat]? else none

/-- The next state. The loop adds 1 to the address an opcode returns. -/
def compareStepOf (program : List Op) (s : CompareState ρ) :
    CompareEvent ρ → Option (CompareState ρ)
  | .execute =>
    match fetch program s.pc with
    | some op =>
      if op.opcode = .Compare then
        match run (machine ρ) (OP_Compare op) s.m with
        | .ok (iCompare, m) => some ⟨m, iCompare, s.pc + 1, some iCompare, false⟩
        | .error _ => none
      else if op.opcode = .Jump then
        let (pc, iCompare) := OP_Jump s.iCompare op
        some { s with iCompare := iCompare, pc := pc + 1, jumped := true }
      else none
    | none => none
  | .elsewhere pc m => some { s with pc := pc, m := m }

/-- Where an `OP_Jump` is to go by the result `x` of an `OP_Compare`. -/
def jumpTarget (op : Op) (x : ℤ) : ℤ := if x < 0 then op.p1 else if x = 0 then op.p2 else op.p3

/-- An executed `OP_Jump` goes where the most recent `OP_Compare` says. -/
def JumpsRight (program : List Op) (s : CompareState ρ) (e : CompareEvent ρ)
    (s' : CompareState ρ) : Prop :=
  ∀ op x, e = .execute → fetch program s.pc = some op → op.opcode = .Jump → s.last = some x →
    s'.pc = jumpTarget op x

/-- An executed `OP_Jump` is the first since the most recent `OP_Compare`, or it is to go to `P2`. -/
def JumpsFirst (program : List Op) (s : CompareState ρ) (e : CompareEvent ρ) : Prop :=
  ∀ op x, e = .execute → fetch program s.pc = some op → op.opcode = .Jump → s.last = some x →
    s.jumped = true → jumpTarget op x = op.p2

/-- What `iCompare` is. -/
structure CompareInvariant (s : CompareState ρ) : Prop where
  /-- The result, until an `OP_Jump`. -/
  result : s.jumped = false → ∀ x, s.last = some x → s.iCompare = x
  /-- 0 from then on. -/
  cleared : s.jumped = true → s.iCompare = 0

/-- What an `OP_Jump` does. -/
theorem compareStepOf_jump {program : List Op} {s : CompareState ρ} {op : Op}
    (hop : fetch program s.pc = some op) (hjump : op.opcode = .Jump) :
    compareStepOf program s .execute =
      some { s with iCompare := 0, pc := jumpTarget op s.iCompare, jumped := true } := by
  have hpc : (OP_Jump s.iCompare op).1 + 1 = jumpTarget op s.iCompare := by
    unfold OP_Jump jumpTarget
    dsimp only
    split_ifs <;> omega
  unfold compareStepOf
  rw [hop]
  dsimp only
  rw [hjump, if_neg (by decide), if_pos rfl, hpc]
  rfl

/-- A step keeps the invariant. -/
theorem CompareInvariant.step {program : List Op} {s s' : CompareState ρ} {e : CompareEvent ρ}
    (h : CompareInvariant s) (hs' : compareStepOf program s e = some s') :
    CompareInvariant s' := by
  cases e with
  | elsewhere pc m =>
    obtain rfl := Option.some.inj hs'
    exact ⟨h.result, h.cleared⟩
  | execute =>
    cases hop : fetch program s.pc with
    | none =>
      unfold compareStepOf at hs'
      rw [hop] at hs'
      cases hs'
    | some op =>
      by_cases hjump : op.opcode = .Jump
      · rw [compareStepOf_jump hop hjump] at hs'
        obtain rfl := Option.some.inj hs'
        exact ⟨fun hno => (by cases hno), fun _ => rfl⟩
      · unfold compareStepOf at hs'
        rw [hop] at hs'
        dsimp only at hs'
        rw [if_neg hjump] at hs'
        split_ifs at hs' with hcompare
        split at hs'
        · obtain rfl := Option.some.inj hs'
          exact ⟨fun _ x hx => Option.some.inj hx, fun hyes => (by cases hyes)⟩
        · cases hs'

/-- `OP_Compare` compares vectors of registers as the `KeyInfo` says, and in a run of any program
each `OP_Jump` goes by the most recent `OP_Compare` exactly if each is the first since then, or is to
go to `P2`. -/
theorem compareJump_iff (program : List Op) (m : Machine ρ) (es : List (CompareEvent ρ)) :
    (∀ (m : Machine ρ) (op : Op) (keys : List (Option CollSeq × Bool)), m.Sound →
      CompareInputs m op keys → ∃ x m', run (machine ρ) (OP_Compare op) m = .ok (x, m') ∧
        ComparesVectors m op keys x ∧ m'.Sound ∧ m'.mems = m.mems ∧ m'.rest = m.rest) ∧
    (Runs.Throughout (compareStepOf program) (JumpsRight program) es (.init m) ↔
      Runs.Each (compareStepOf program) (JumpsFirst program) es (.init m)) := by
  refine ⟨fun m op keys hm h => OP_Compare_spec hm h, ?_⟩
  have hinit : CompareInvariant (CompareState.init m) :=
    ⟨fun _ x hx => (by cases hx), fun h => (by cases h)⟩
  refine Runs.throughout_iff_each (I := CompareInvariant) (fun s e s' h hfirst hs' => ?_)
    (fun s e h hnot => ?_) hinit
  · refine ⟨h.step hs', fun op x he hop hjump hlast => ?_⟩
    subst he
    rw [compareStepOf_jump hop hjump] at hs'
    obtain rfl := Option.some.inj hs'
    show jumpTarget op s.iCompare = jumpTarget op x
    cases hj : s.jumped with
    | false => rw [h.result hj x hlast]
    | true =>
      rw [h.cleared hj, hfirst op x rfl hop hjump hlast hj]
      rfl
  · unfold JumpsFirst at hnot
    push Not at hnot
    obtain ⟨op, x, rfl, hop, hjump, hlast, hj, hne⟩ := hnot
    refine ⟨_, compareStepOf_jump hop hjump, fun hright => hne ?_⟩
    have hpc := hright op x rfl hop hjump hlast
    rw [← hpc]
    show jumpTarget op s.iCompare = op.p2
    rw [h.cleared hj]
    rfl

/-- Two integers are compared, and two `OP_Jump` follow. -/
def twoJumps : List Op :=
  [⟨.Compare, 1, 2, 1, .KEYINFO [(none, false)], 0⟩, ⟨.Jump, 2, 3, 4, .NOTUSED, 0⟩,
    ⟨.Jump, 5, 6, 7, .NOTUSED, 0⟩]

/-- The registers of `twoJumps`, with 1 and 2. -/
def twoIntegers : Machine Unit := Machine.fresh [Mem.ofNull, Mem.ofInt 1, Mem.ofInt 2, Mem.ofNull] 2 ()

/-- The first `OP_Jump` goes where it is to go. -/
theorem jumpsRight_once : Runs.Throughout (compareStepOf twoJumps) (JumpsRight twoJumps)
    [.execute, .execute] (.init twoIntegers) := by
  refine (compareJump_iff twoJumps twoIntegers [.execute, .execute]).2.mpr ⟨?_, fun s hs => ?_⟩
  · intro op x _ hop hjump
    obtain rfl := Option.some.inj hop
    cases hjump
  · have hfirst : s.jumped = false := by
      obtain rfl := Option.some.inj hs
      rfl
    exact ⟨fun op x _ _ _ _ hj => absurd (hfirst.symm.trans hj) (by decide), fun _ _ => trivial⟩

/-- The integer 1 is less than 2, so both are to go to `P1`. The second goes to its `P2`, which is
6. -/
theorem not_jumpsRight_twice : ¬ Runs.Throughout (compareStepOf twoJumps) (JumpsRight twoJumps)
    [.execute, .execute, .execute] (.init twoIntegers) := by
  obtain ⟨s₁, h₁, hpc₁, hlast₁, hi₁⟩ : ∃ s, compareStepOf twoJumps (.init twoIntegers) .execute =
      some s ∧ s.pc = 1 ∧ s.last = some (-1) ∧ s.iCompare = -1 := ⟨_, rfl, rfl, rfl, rfl⟩
  have hop₁ : fetch twoJumps s₁.pc = some ⟨.Jump, 2, 3, 4, .NOTUSED, 0⟩ := by rw [hpc₁]; rfl
  have h₂ := compareStepOf_jump hop₁ rfl
  rw [hi₁] at h₂
  have hop₂ : fetch twoJumps 2 = some ⟨.Jump, 5, 6, 7, .NOTUSED, 0⟩ := rfl
  intro h
  have hright := (((h s₁ h₁).2 _ h₂).2 _ (compareStepOf_jump hop₂ rfl)).1
  have hpc : (6 : ℤ) = 5 := hright _ (-1) rfl hop₂ rfl hlast₁
  exact absurd hpc (by decide)

end runs

end SQPyte
