import SQPyte.Mem.Frame
import SQPyte.Mem.Acceptance
import SQPyte.Mem.Affinity
import SQPyte.Record.RoundTrip

/-!
# The affinities of `OP_MakeRecord`

The affinity loop of `OP_MakeRecord` never advances its index, so every register gets the first
affinity of `P4`. `appliesAffinities_iff` says when that makes no difference: for each register, the
first affinity and its own are of the same kind, or neither of them converts the register.

What the method does to a cell is a function of the cell and of the double that `get_u_r` returns for
it (`pyAffinity`), and so a loop over different registers folds that function (`run_affinityLoop`): a
step on one register changes neither another register nor what the cache holds of it. The rest of
`OP_MakeRecord` does not depend on the cache (`accepts_makeRecord`).
-/

namespace SQPyte

open Commands

variable {ρ : Type} {L : CLib ρ} {enc : ℕ}

/-! ## One register -/

/-- What `Mem.applyAffinity` does to a value `c` for which `get_u_r` returns `x`, with the state `r`
outside the cell. -/
def pyAffinity (L : CLib ρ) (enc affinity : ℕ) (c : Mem) (x : Binary64) (r : ρ) :
    Except Exc (Mem × ρ) :=
  if affinity ≥ SQLITE_AFF_NUMERIC then
    if c.flags.has (MEM_Int ||| MEM_Real) then .ok (c, r)
    else if c.flags.has MEM_Str then .ok (c.applyNumericAffinity L true, r)
    else if x.feq (Binary64.ofInt x.toInt64) && x.toInt64 < maxint && x.toInt64 > -maxint - 1 then
      .ok ({ c with u := BitVec.ofInt 64 x.toInt64, flags := withTypeFlag c.flags MEM_Int }, r)
    else .ok (c, r)
  else if affinity = SQLITE_AFF_TEXT then
    if !c.flags.has MEM_Str && c.flags.has (MEM_Int ||| MEM_Real) then
      (c.sqlite3VdbeMemStringify L enc true r).map Prod.snd
    else .ok (c, r)
  else .ok (c, r)

/-- The affinity converts the value `c`, for which `get_u_r` returns `x`. -/
def Converts (L : CLib ρ) (affinity : ℕ) (c : Mem) (x : Binary64) : Prop :=
  (affinity ≥ SQLITE_AFF_NUMERIC ∧ c.flags.has (MEM_Int ||| MEM_Real) = false ∧
    if c.flags.has MEM_Str then (L.AtoF c.buffer c.n c.enc).1 = true else IsSmallInt x) ∨
  (affinity = SQLITE_AFF_TEXT ∧ c.flags.has (MEM_Int ||| MEM_Real) = true ∧
    c.flags.has MEM_Str = false)

/-- Two affinities are of the same kind: both numeric, both TEXT, or both neither. -/
def SameKind (affinity affinity' : ℕ) : Prop :=
  (affinity ≥ SQLITE_AFF_NUMERIC ↔ affinity' ≥ SQLITE_AFF_NUMERIC) ∧
    (affinity = SQLITE_AFF_TEXT ↔ affinity' = SQLITE_AFF_TEXT)

/-- Letters of one kind do the same to a cell. -/
theorem pyAffinity_congr {affinity affinity' : ℕ} (h : SameKind affinity affinity') (c : Mem)
    (x : Binary64) (r : ρ) : pyAffinity L enc affinity c x r = pyAffinity L enc affinity' c x r := by
  unfold pyAffinity
  rw [if_congr h.1 rfl rfl, if_congr h.2 rfl rfl]

/-- A conversion to a number succeeds where the text is one. -/
theorem applyNumericAffinity_isNumber (c : Mem) :
    (L.AtoF c.buffer c.n c.enc).1 = true ∧
        (c.applyNumericAffinity L true).flags.has (MEM_Int ||| MEM_Real) = true ∨
      (L.AtoF c.buffer c.n c.enc).1 = false ∧ c.applyNumericAffinity L true = c := by
  unfold Mem.applyNumericAffinity
  cases hA : L.AtoF c.buffer c.n c.enc with
  | mk isNumber rValue =>
  cases isNumber with
  | false => exact Or.inr ⟨rfl, rfl⟩
  | true =>
    refine Or.inl ⟨rfl, ?_⟩
    simp only [Bool.not_true, Bool.false_eq_true, ↓reduceIte]
    split_ifs with hrc
    · rw [Flags.has_or_right]
      simp
    · unfold Mem.sqlite3VdbeIntegerAffinity
      dsimp only
      split_ifs
      · rw [Flags.has_or_right]
        simp [withTypeFlag]
      · rw [Flags.has_or_right]
        simp

/-- A conversion turns a number into a value that is none, or the other way; anything else is left as
it is. -/
theorem pyAffinity_spec (hL : L.Fits) (affinity : ℕ) {c : Mem} (hc : c.IsValue enc) (x : Binary64)
    (r : ρ) :
    ∃ c' r', pyAffinity L enc affinity c x r = .ok (c', r') ∧
      (Converts L affinity c x → c'.flags.has (MEM_Int ||| MEM_Real) =
        !c.flags.has (MEM_Int ||| MEM_Real)) ∧
      (¬ Converts L affinity c x → c' = c ∧ r' = r) := by
  have hkinds : ∀ {a : ℕ}, a ≥ SQLITE_AFF_NUMERIC → a ≠ SQLITE_AFF_TEXT := by
    unfold SQLITE_AFF_NUMERIC SQLITE_AFF_TEXT; omega
  unfold pyAffinity Converts
  -- The numeric affinities are those from `'C'` on.
  by_cases hn : affinity ≥ SQLITE_AFF_NUMERIC
  · have ht := hkinds hn
    rw [if_pos hn]
    -- A number stays what it is.
    cases hnum : c.flags.has (MEM_Int ||| MEM_Real) with
    | true =>
      refine ⟨c, r, rfl, ?_, fun _ => ⟨rfl, rfl⟩⟩
      rintro (⟨-, h, -⟩ | ⟨h, -⟩)
      · cases h
      · exact absurd h ht
    | false =>
      simp only [hn, ht, true_and, false_and, or_false]
      -- A text is converted when it reads as a number.
      cases hs : c.flags.has MEM_Str with
      | true =>
        simp only [Bool.false_eq_true, ↓reduceIte]
        refine ⟨_, r, rfl, ?_, ?_⟩
        · intro h
          rcases applyNumericAffinity_isNumber (L := L) c with ⟨-, h'⟩ | ⟨h', -⟩
          · exact h'
          · rw [h] at h'; cases h'
        · intro h
          rcases applyNumericAffinity_isNumber (L := L) c with ⟨h', -⟩ | ⟨-, h'⟩
          · exact absurd h' h
          · exact ⟨h', rfl⟩
      | false =>
        simp only [Bool.false_eq_true, ↓reduceIte]
        -- A NULL or a blob is given the type of what is left in its union.
        rw [← pyIntegerAffinity_test_iff]
        split_ifs with hx
        · refine ⟨_, r, rfl, fun _ => ?_, fun h => absurd hx h⟩
          rw [Flags.has_or_right]
          simp [withTypeFlag]
        · exact ⟨c, r, rfl, fun h => absurd h hx, fun _ => ⟨rfl, rfl⟩⟩
  · rw [if_neg hn]
    simp only [hn, false_and, false_or]
    by_cases ht : affinity = SQLITE_AFF_TEXT
    · rw [if_pos ht]
      simp only [ht, true_and]
      -- TEXT affinity prints a number that has no text yet.
      by_cases hnum : c.flags.has (MEM_Int ||| MEM_Real) = true ∧ c.flags.has MEM_Str = false
      · obtain ⟨rc, c', r', hrun, hnone⟩ := Mem.sqlite3VdbeMemStringify_fits hL enc hc.alloc r
        refine ⟨c', r', ?_, fun _ => ?_, fun h => absurd hnum h⟩
        · rw [hnum.1, hnum.2, hrun]
          rfl
        · rw [hnone, hnum.1]
          rfl
      · refine ⟨c, r, ?_, fun h => absurd h hnum, fun _ => ⟨rfl, rfl⟩⟩
        rw [if_neg]
        simpa [and_comm] using hnum
    · rw [if_neg ht]
      exact ⟨c, r, rfl, fun h => absurd h.1 ht, fun _ => ⟨rfl, rfl⟩⟩

section oneRegister

variable {m : Machine ρ} {i affinity : ℕ} {c : Mem}

/-- An assertion is about no cell. -/
theorem pyAssert_onCell (i : ℕ) (cond : Bool) : (pyAssert cond).All (MemCmd.OnCell (ρ := ρ) i) := by
  unfold pyAssert throwExc SQPyte.other
  refine Prog.All.ite (Prog.All.pure ()) (Prog.All.perform ?_)
  exact trivial

/-- The integer affinity is about its cell only. -/
theorem sqlite3VdbeIntegerAffinity_onCell (i : ℕ) :
    (sqlite3VdbeIntegerAffinity i).All (MemCmd.OnCell (ρ := ρ) i) := by
  unfold sqlite3VdbeIntegerAffinity MemSetTypeFlag
  refine (Prog.All.perform rfl).bind fun flags => ?_
  refine (pyAssert_onCell i _).bind fun _ => ?_
  refine (Prog.All.perform rfl).bind fun x => ?_
  refine Prog.All.ite ?_ (Prog.All.pure flags)
  refine (Prog.All.perform ⟨rfl, rfl⟩).bind fun _ => ?_
  refine Prog.All.bind ?_ fun _ => Prog.All.pure flags
  exact (Prog.All.perform rfl).bind fun _ => Prog.All.perform rfl

/-- So is every affinity. -/
theorem applyAffinity_onCell (i affinity enc : ℕ) :
    (applyAffinity L i affinity enc).All (MemCmd.OnCell (ρ := ρ) i) := by
  unfold applyAffinity
  have hreturn : ((pure () : MemM ρ Unit)).All (MemCmd.OnCell i) := Prog.All.pure ()
  refine (Prog.All.perform rfl).bind fun flags => Prog.All.ite ?_ (Prog.All.ite ?_ hreturn)
  · refine (pyAssert_onCell i _).bind fun _ => ?_
    refine Prog.All.ite (Prog.All.ite (Prog.All.ite ?_ ?_) hreturn) hreturn
    · exact Prog.All.perform rfl
    · exact (sqlite3VdbeIntegerAffinity_onCell i).bind fun _ => hreturn
  · refine Prog.All.ite ?_ hreturn
    exact (Prog.All.perform rfl).bind fun _ => hreturn

/-- Where the class of the value does not mislead it, the method does what the routine of `vdbe.c`
does, except that it leaves every real. -/
theorem pyAffinity_eq (hnb : affinity ≥ SQLITE_AFF_NUMERIC →
      (c.flags.has MEM_Int || c.flags.has MEM_Real || c.flags.has MEM_Str) = true)
    (hir : ¬ (c.flags.has MEM_Int = true ∧ c.flags.has MEM_Real = true)) (x : Binary64) (r : ρ) :
    pyAffinity L enc affinity c x r =
      if affinity ≥ SQLITE_AFF_NUMERIC ∧ c.flags.has MEM_Real = true then .ok (c, r)
      else c.applyAffinity L affinity enc r := by
  unfold pyAffinity Mem.applyAffinity
  rw [Flags.has_or_right, Flags.has_or_right, Bool.or_comm (c.flags.has MEM_Real)]
  by_cases hn : affinity ≥ SQLITE_AFF_NUMERIC
  · have hnb := hnb hn
    simp only [hn, ↓reduceIte, true_and]
    cases hi : c.flags.has MEM_Int <;> cases hr : c.flags.has MEM_Real <;>
      cases hs : c.flags.has MEM_Str <;> simp_all
  · simp only [hn, ↓reduceIte, false_and]

/-- The method does to the cell `c` what `pyAffinity` says, and leaves the rest alone. -/
theorem run_applyAffinity_sound (hL : L.Fits) (hs : m.Sound) (hi : m.mems[i]? = some c)
    (hc : c.IsValue enc) (ha : IsAffinity affinity) :
    ∃ c' r' m', pyAffinity L enc affinity c (m.cache.get_u_r i c) m.rest = .ok (c', r') ∧
      run (machine ρ) (applyAffinity L i affinity enc) m = .ok ((), m') ∧ m'.Sound ∧
      m'.mems = m.mems.set i c' ∧ m'.rest = r' ∧ Machine.Elsewhere i m m' := by
  obtain ⟨written, hR, hann⟩ := hs
  have hat : (m.strict written).At i c (written i) := ⟨hi, rfl⟩
  have hlt : i < m.mems.length := (List.getElem?_eq_some_iff.mp hi).1
  -- Only cell `i` has a new last writer, so the others announce what they did.
  have hannounce : ∀ (c' : Mem) (w' : Member) (r : ρ), Announces c' w' →
      ∀ j d, ({ (m.strict written).setMem i c' w' with rest := r } : Strict ρ).mems[j]? = some d →
        Announces d (Function.update written i w' j) := by
    intro c' w' r hc' j d hj
    by_cases hji : j = i
    · subst hji
      obtain rfl : c' = d := by
        simpa [Strict.setMem, Machine.strict, hlt] using hj
      rw [Function.update_self]
      exact hc'
    · rw [Function.update_of_ne hji]
      refine hann j d ?_
      simpa [Strict.setMem, Machine.strict, List.getElem?_set_ne (Ne.symm hji)] using hj
  -- Every cell but a NULL or a blob under a numeric affinity is handled within the strict machine.
  by_cases hnb : affinity ≥ SQLITE_AFF_NUMERIC →
      (c.flags.has MEM_Int || c.flags.has MEM_Real || c.flags.has MEM_Str) = true
  · have hstrict := run_applyAffinity L enc hat ha hnb
    obtain ⟨c', r', heff, -⟩ := pyAffinity_spec hL affinity hc (m.cache.get_u_r i c) m.rest
    have heq : pyAffinity L enc affinity c (m.cache.get_u_r i c) m.rest = _ :=
      pyAffinity_eq hnb hc.int_real (m.cache.get_u_r i c) m.rest
    rw [show (m.strict written).rest = m.rest from rfl, ← heq, heff] at hstrict
    obtain ⟨w', hrun, hkeep⟩ := hstrict
    obtain ⟨m', hrun', hR'⟩ := run_machine_of_strict hR hrun
    exact ⟨c', r', m', heff, hrun', Machine.Sound.of_related hR'
      (hannounce c' w' r' (hkeep (hann i c hi))), hR'.mems, hR'.rest,
      Machine.run_elsewhere (applyAffinity_onCell i affinity enc) ⟨_, hR⟩ hrun'⟩
  · simp only [Classical.not_imp, Bool.not_eq_true, Bool.or_eq_false_iff] at hnb
    -- There the code reads the union of a cell that holds no number.
    obtain ⟨hn, ⟨hint, hreal⟩, hstr⟩ := hnb
    obtain ⟨m', hrun, hsmall, hlarge⟩ :=
      run_applyAffinity_null_blob L enc hR hi ha hn hint hreal hstr hc.plain.1
    have heff : ∀ x, pyAffinity L enc affinity c x m.rest =
        if x.feq (Binary64.ofInt x.toInt64) && x.toInt64 < maxint && x.toInt64 > -maxint - 1 then
          .ok ({ c with u := BitVec.ofInt 64 x.toInt64, flags := withTypeFlag c.flags MEM_Int },
            m.rest)
        else .ok (c, m.rest) := by
      intro x
      unfold pyAffinity
      rw [if_pos hn, Flags.has_or_right, hint, hreal, hstr]
      simp only [Bool.or_false, Bool.false_eq_true, ↓reduceIte]
    have helse := Machine.run_elsewhere (applyAffinity_onCell i affinity enc) ⟨_, hR⟩ hrun
    -- What it read decides whether the cell becomes an integer.
    by_cases hx : IsSmallInt (m.cache.get_u_r i c)
    · have hR' := hsmall hx
      refine ⟨_, _, m', (heff _).trans (if_pos ((pyIntegerAffinity_test_iff _).mpr hx)), hrun,
        Machine.Sound.of_related hR' (hannounce _ .i m.rest ⟨fun _ => Or.inl rfl, fun h => ?_⟩),
        hR'.mems, hR'.rest, helse⟩
      simp [withTypeFlag] at h
    · have hR' := hlarge hx
      refine ⟨_, _, m', (heff _).trans (if_neg (by rw [pyIntegerAffinity_test_iff]; exact hx)), hrun,
        Machine.Sound.of_related hR' hann, ?_, hR'.rest, helse⟩
      rw [set_self hi]
      exact hR'.mems

end oneRegister

/-! ## The loops -/

section loops

/-- The affinities do the same to the value `c`, for which `get_u_r` returns `x`: they are of the
same kind, or neither of them converts it. -/
def AffinitiesAgree (L : CLib ρ) (affinity affinity' : ℕ) (c : Mem) (x : Binary64) : Prop :=
  SameKind affinity affinity' ∨ (¬ Converts L affinity c x ∧ ¬ Converts L affinity' c x)

/-- Letters that agree on a cell do the same to it. -/
theorem AffinitiesAgree.pyAffinity_eq (hL : L.Fits) {affinity affinity' : ℕ} {c : Mem}
    {x : Binary64} (h : AffinitiesAgree L affinity affinity' c x) (hc : c.IsValue enc) (r : ρ) :
    pyAffinity L enc affinity c x r = pyAffinity L enc affinity' c x r := by
  rcases h with hkind | ⟨hno, hno'⟩
  · exact pyAffinity_congr hkind c x r
  · obtain ⟨c₁, r₁, heff, -, hkeep⟩ := pyAffinity_spec hL affinity hc x r
    obtain ⟨c₂, r₂, heff', -, hkeep'⟩ := pyAffinity_spec hL affinity' hc x r
    obtain ⟨rfl, rfl⟩ := hkeep hno
    obtain ⟨rfl, rfl⟩ := hkeep' hno'
    rw [heff, heff']

/-- Two affinities that both convert a value are of the same kind. -/
theorem sameKind_of_converts {affinity affinity' : ℕ} {c : Mem} {x : Binary64}
    (h : Converts L affinity c x) (h' : Converts L affinity' c x) : SameKind affinity affinity' := by
  have htext : ¬ SQLITE_AFF_TEXT ≥ SQLITE_AFF_NUMERIC := by decide
  unfold SameKind
  rcases h with ⟨hn, hnum, -⟩ | ⟨rfl, hnum, -⟩ <;> rcases h' with ⟨hn', hnum', -⟩ | ⟨rfl, hnum', -⟩
  · have hne : affinity ≠ SQLITE_AFF_TEXT := fun heq => htext (heq ▸ hn)
    have hne' : affinity' ≠ SQLITE_AFF_TEXT := fun heq => htext (heq ▸ hn')
    simp [hn, hn', hne, hne']
  · exact absurd (hnum.symm.trans hnum') (by simp)
  · exact absurd (hnum.symm.trans hnum') (by simp)
  · simp

/-- Affinities that leave the same cell agree. -/
theorem affinitiesAgree_of_eq (hL : L.Fits) {affinity affinity' : ℕ} {c c' : Mem} {x : Binary64}
    {r r₁ r₂ : ρ} (hc : c.IsValue enc) (h : pyAffinity L enc affinity c x r = .ok (c', r₁))
    (h' : pyAffinity L enc affinity' c x r = .ok (c', r₂)) :
    AffinitiesAgree L affinity affinity' c x := by
  obtain ⟨c₁, r₁', heff, hconv, hkeep⟩ := pyAffinity_spec hL affinity hc x r
  obtain ⟨c₂, r₂', heff', hconv', hkeep'⟩ := pyAffinity_spec hL affinity' hc x r
  obtain ⟨rfl, -⟩ := Prod.mk.inj (Except.ok.inj (heff.symm.trans h))
  obtain ⟨rfl, -⟩ := Prod.mk.inj (Except.ok.inj (heff'.symm.trans h'))
  -- A conversion changes whether the cell is a number, so one of the two does not do it alone.
  by_cases hC : Converts L affinity c x
  · by_cases hC' : Converts L affinity' c x
    · exact Or.inl (sameKind_of_converts hC hC')
    · have hflip := hconv hC
      rw [(hkeep' hC').1] at hflip
      exact absurd hflip (Bool.eq_not_self _).mp
  · by_cases hC' : Converts L affinity' c x
    · have hflip := hconv' hC'
      rw [(hkeep hC).1] at hflip
      exact absurd hflip (Bool.eq_not_self _).mp
    · exact Or.inr ⟨hC, hC'⟩

/-- What a loop does to the registers `cs` from `start` on, where register `i` gets the affinity
`letter i`, and `get_u_r` returns `x i c` for the cell `c` in register `i`. -/
def affinityFold (L : CLib ρ) (enc : ℕ) (letter : ℤ → ℕ) (x : ℕ → Mem → Binary64) :
    ℤ → List Mem → ρ → Except Exc (List Mem × ρ)
  | _, [], r => .ok ([], r)
  | start, c :: cs, r => do
    let (c, r) ← pyAffinity L enc (letter start) c (x start.toNat c) r
    let (cs, r) ← affinityFold L enc letter x (start + 1) cs r
    return (c :: cs, r)

variable {letter letter' : ℤ → ℕ} {x : ℕ → Mem → Binary64}

/-- The fold over the cells, starting with the first one. -/
theorem affinityFold_cons (letter : ℤ → ℕ) (x : ℕ → Mem → Binary64) (start : ℤ) {c : Mem}
    (cs : List Mem) (hL : L.Fits) (hc : c.IsValue enc) (r : ρ) :
    ∃ c' r', pyAffinity L enc (letter start) c (x start.toNat c) r = .ok (c', r') ∧
      affinityFold L enc letter x start (c :: cs) r =
        (affinityFold L enc letter x (start + 1) cs r').map fun y => (c' :: y.1, y.2) := by
  obtain ⟨c', r', heff, -⟩ := pyAffinity_spec hL (letter start) hc (x start.toNat c) r
  refine ⟨c', r', heff, ?_⟩
  rw [affinityFold, heff]
  dsimp only [bind, Except.bind]
  cases affinityFold L enc letter x (start + 1) cs r' <;> rfl

/-- Every value can be converted. -/
theorem affinityFold_ok (letter : ℤ → ℕ) (x : ℕ → Mem → Binary64) (start : ℤ) {cs : List Mem}
    (hL : L.Fits) (hcs : ∀ c ∈ cs, c.IsValue enc) (r : ρ) :
    ∃ cs' r', affinityFold L enc letter x start cs r = .ok (cs', r') ∧
      cs'.length = cs.length := by
  induction cs generalizing start r with
  | nil => exact ⟨[], r, rfl, rfl⟩
  | cons c cs ih =>
    obtain ⟨c', r', -, hfold⟩ := affinityFold_cons letter x start cs hL
      (hcs c List.mem_cons_self) r
    obtain ⟨cs', r'', hrest, hlen⟩ := ih (start + 1)
      (fun c hc => hcs c (List.mem_cons_of_mem _ hc)) r'
    exact ⟨c' :: cs', r'', by rw [hfold, hrest]; rfl, by rw [List.length_cons, hlen]; rfl⟩

/-- Two loops leave the same exactly if their affinities agree on every register. -/
theorem affinityFold_eq_iff (letter letter' : ℤ → ℕ) (x : ℕ → Mem → Binary64) (start : ℤ)
    {cs : List Mem} (hL : L.Fits) (hcs : ∀ c ∈ cs, c.IsValue enc) (r : ρ) :
    affinityFold L enc letter x start cs r = affinityFold L enc letter' x start cs r ↔
      ∀ j (hj : j < cs.length), AffinitiesAgree L (letter (start + j)) (letter' (start + j)) cs[j]
        (x (start + j).toNat cs[j]) := by
  induction cs generalizing start r with
  | nil => simp [affinityFold]
  | cons c cs ih =>
    have hc := hcs c List.mem_cons_self
    have hcs' : ∀ d ∈ cs, d.IsValue enc := fun d hd => hcs d (List.mem_cons_of_mem _ hd)
    obtain ⟨c₁, r₁, heff, hfold⟩ := affinityFold_cons letter x start cs hL hc r
    obtain ⟨c₂, r₂, heff', hfold'⟩ := affinityFold_cons letter' x start cs hL hc r
    -- The first register, then the others with the indices moved by one.
    have hhead : (∀ j (hj : j < (c :: cs).length), AffinitiesAgree L (letter (start + j))
          (letter' (start + j)) (c :: cs)[j] (x (start + j).toNat (c :: cs)[j])) ↔
        AffinitiesAgree L (letter start) (letter' start) c (x start.toNat c) ∧
          ∀ j (hj : j < cs.length), AffinitiesAgree L (letter (start + 1 + j))
            (letter' (start + 1 + j)) cs[j] (x (start + 1 + j).toNat cs[j]) := by
      constructor
      · intro h
        have h0 := h 0 (Nat.succ_pos _)
        rw [Nat.cast_zero, add_zero] at h0
        refine ⟨h0, fun j hj => ?_⟩
        have := h (j + 1) (by simpa using hj)
        rwa [show start + ((j + 1 : ℕ) : ℤ) = start + 1 + j by push_cast; ring] at this
      · rintro ⟨h0, h⟩ j hj
        cases j with
        | zero => simpa using h0
        | succ j =>
          have := h j (by simpa using hj)
          rwa [← show start + ((j + 1 : ℕ) : ℤ) = start + 1 + j by push_cast; ring] at this
    rw [hhead, hfold, hfold']
    constructor
    · intro heq
      obtain ⟨ds, s, hrest, -⟩ := affinityFold_ok letter x (start + 1) hL hcs' r₁
      obtain ⟨ds', s', hrest', -⟩ := affinityFold_ok letter' x (start + 1) hL hcs' r₂
      rw [hrest, hrest'] at heq
      have heq := Except.ok.inj heq
      simp only [Prod.mk.injEq, List.cons.injEq] at heq
      obtain ⟨⟨rfl, rfl⟩, rfl⟩ := heq
      -- Equal results for the first register mean that the letters agree on it, and then the states
      -- agree too.
      have hagree := affinitiesAgree_of_eq hL hc heff heff'
      obtain ⟨-, rfl⟩ := Prod.mk.inj (Except.ok.inj
        (heff.symm.trans ((hagree.pyAffinity_eq hL hc r).trans heff')))
      exact ⟨hagree, (ih (start + 1) hcs' r₁).mp (hrest.trans hrest'.symm)⟩
    · rintro ⟨hagree, hrest⟩
      obtain ⟨rfl, rfl⟩ := Prod.mk.inj (Except.ok.inj
        (heff.symm.trans ((hagree.pyAffinity_eq hL hc r).trans heff')))
      rw [(ih (start + 1) hcs' r₁).mpr hrest]

/-- The cells with the registers from `start` on replaced. -/
def writeBack : List Mem → ℤ → List Mem → List Mem
  | mems, _, [] => mems
  | mems, start, c :: cs => writeBack (mems.set start.toNat c) (start + 1) cs

/-- Writing back keeps the number of registers. -/
theorem length_writeBack (mems : List Mem) (start : ℤ) (cs : List Mem) :
    (writeBack mems start cs).length = mems.length := by
  induction cs generalizing mems start with
  | nil => rfl
  | cons c cs ih => rw [writeBack, ih, List.length_set]

/-- And those before the first one. -/
theorem getElem?_writeBack_of_lt {start : ℤ} {k : ℕ} (h : (k : ℤ) < start) (mems cs : List Mem) :
    (writeBack mems start cs)[k]? = mems[k]? := by
  induction cs generalizing mems start with
  | nil => rfl
  | cons c cs ih => rw [writeBack, ih (by omega), List.getElem?_set_ne (by omega)]

/-- Different cells leave different registers. -/
theorem writeBack_injective {mems : List Mem} {start : ℤ} {cs cs' : List Mem} (h0 : 0 ≤ start)
    (hlt : ∀ j < cs.length, (start + j).toNat < mems.length) (hlen : cs.length = cs'.length)
    (h : writeBack mems start cs = writeBack mems start cs') : cs = cs' := by
  induction cs generalizing mems start cs' with
  | nil => exact (List.length_eq_zero_iff.mp hlen.symm).symm
  | cons c cs ih =>
    cases cs' with
    | nil => cases hlen
    | cons c' cs' =>
      rw [writeBack, writeBack] at h
      have hhead : start.toNat < mems.length := by simpa using hlt 0 (Nat.succ_pos _)
      have hcell : ∀ (d : Mem) (ds : List Mem),
          (writeBack (mems.set start.toNat d) (start + 1) ds)[start.toNat]? = some d := fun d ds => by
        rw [getElem?_writeBack_of_lt (by omega), List.getElem?_set_self hhead]
      obtain rfl : c = c' := Option.some.inj ((hcell c cs).symm.trans
        ((congrArg (fun l : List Mem => l[start.toNat]?) h).trans (hcell c' cs')))
      rw [ih (by omega) (fun j hj => ?_) (Nat.succ.inj hlen) h]
      rw [List.length_set]
      have := hlt (j + 1) (Nat.succ_lt_succ hj)
      omega

/-- The loop leaves in the registers what `affinityFold` says, and nothing else. -/
theorem run_affinityLoop (letter : ℤ → ℕ) (x : ℕ → Mem → Binary64) (cs : List Mem)
    (body : ℤ → Unit → MemM ρ Unit) (hL : L.Fits) {m : Machine ρ} {start : ℤ} (hs : m.Sound)
    (hcells : ∀ j (hj : j < cs.length), IsRegister m.mems.length m.nMem (start + j) ∧
      m.mems[(start + j).toNat]? = some cs[j])
    (hcs : ∀ c ∈ cs, c.IsValue enc)
    (hx : ∀ j (hj : j < cs.length),
      m.cache.get_u_r (start + j).toNat cs[j] = x (start + j).toNat cs[j])
    (hletter : ∀ j < cs.length, IsAffinity (letter (start + j)))
    (hbody : ∀ j < cs.length, body (start + j) () = do
      applyAffinity L (← mem_with_index (start + j)) (letter (start + j)) enc) :
    ∃ cs' m', affinityFold L enc letter x start cs m.rest = .ok (cs', m'.rest) ∧
      run (machine ρ) (Prog.forRange start cs.length () body) m = .ok ((), m') ∧ m'.Sound ∧
      m'.nMem = m.nMem ∧ m'.mems = writeBack m.mems start cs' := by
  induction cs generalizing m start with
  | nil => exact ⟨[], m, rfl, rfl, hs, rfl, rfl⟩
  | cons c cs ih =>
    have h0 := hcells 0 (Nat.succ_pos _)
    have hx0 := hx 0 (Nat.succ_pos _)
    have hletter0 := hletter 0 (Nat.succ_pos _)
    have hbody0 := hbody 0 (Nat.succ_pos _)
    rw [Nat.cast_zero, add_zero] at h0 hx0 hletter0 hbody0
    obtain ⟨hreg, hcell⟩ := h0
    -- The first register's affinity writes that register and its slot of the cache only.
    obtain ⟨c', r', m₁, heff, hrun, hs₁, hmems, rfl, helse⟩ := run_applyAffinity_sound hL hs hcell
      (hcs c List.mem_cons_self) hletter0
    have hne : ∀ j : ℕ, (start + 1 + j).toNat ≠ start.toNat := fun j => by
      have := hreg.1
      omega
    have hsucc : ∀ j : ℕ, start + 1 + (j : ℤ) = start + ((j + 1 : ℕ) : ℤ) := fun j => by
      push_cast
      ring
    -- So the other registers and what the cache holds of them are as before the step.
    obtain ⟨cs', m', hfold, hrun', hs', hnMem, hmems'⟩ := ih hs₁
      (fun j hj => by
        have h := hcells (j + 1) (Nat.succ_lt_succ hj)
        rw [← hsucc] at h
        rw [helse.length, helse.nMem, helse.mems _ (hne j)]
        exact h)
      (fun d hd => hcs d (List.mem_cons_of_mem _ hd))
      (fun j hj => by
        have h := hx (j + 1) (Nat.succ_lt_succ hj)
        rw [← hsucc] at h
        exact (helse.get_u_r (hne j) _).trans h)
      (fun j hj => by
        have h := hletter (j + 1) (Nat.succ_lt_succ hj)
        rwa [← hsucc] at h)
      (fun j hj => by
        have h := hbody (j + 1) (Nat.succ_lt_succ hj)
        rwa [← hsucc] at h)
    refine ⟨c' :: cs', m', ?_, ?_, hs', hnMem.trans helse.nMem, ?_⟩
    · have hx0 : m.cache.get_u_r start.toNat c = x start.toNat c := hx0
      have heff : pyAffinity L enc (letter start) c (m.cache.get_u_r start.toNat c) m.rest =
        .ok (c', m₁.rest) := heff
      rw [affinityFold, ← hx0, heff]
      dsimp only [bind, Except.bind]
      rw [hfold]
      rfl
    · -- One turn of the loop, then the rest.
      have hstep : run (machine ρ) (body start ()) m = .ok ((), m₁) := by
        have hmem : run (machine ρ) (mem_with_index start) m = .ok (start.toNat, m) := by
          unfold mem_with_index
          rw [run_perform, machine, hreg.memIndex_eq]
          rfl
        rw [hbody0, run_bind_ok hmem]
        exact hrun
      rw [List.length_cons, Prog.forRange, ← Prog.bind_eq_andThen, run_bind_ok hstep]
      exact hrun'
    · rw [hmems', hmems]
      rfl

end loops

/-! ## The encoding -/

section encoding

open Strict

variable (L)

/-- A step of the first loop does not fail. -/
theorem accepts_recordSizeStep (ff : ℕ) (memindex : ℤ) (size : RecordSize) :
    Accepts (strictMachine ρ) Announced (recordSizeStep L ff memindex size) fun _ => Announced := by
  have hann : ∀ {i : ℕ} {f : Flags}, ∀ s : Strict ρ, HasFlags i f s → s.Announced := fun _ h => h.1
  have hret : ∀ {γ : Type} {i : ℕ} {f : Flags} (a : γ),
      Accepts (strictMachine ρ) (HasFlags i f) (pure a) fun _ => Announced :=
    fun _ => Accepts.pure hann
  have hpure : ∀ {γ : Type} (a : γ),
      Accepts (strictMachine ρ) Announced (pure a) fun _ => Announced :=
    fun _ => Accepts.pure fun _ h => h
  unfold recordSizeStep
  refine (accepts_mem_with_index memindex).bind fun pRec => ?_
  refine Accepts.bind (R := fun _ => Announced) ?_ fun valid => ?_
  · exact (accepts_get_flags pRec).bind fun f => hret _
  refine (accepts_pyAssert valid).bind fun _ => ?_
  refine Accepts.bind (R := fun _ => Announced) ?_ fun field => ?_
  · -- The integer is read where the flags say that there is one.
    unfold sqlite3VdbeSerialType_Len_and_HdrLen
    refine (accepts_get_flags pRec).bind fun f => Accepts.ite (fun _ => hret _) fun _ => ?_
    refine Accepts.ite (fun hint => ?_) fun _ => Accepts.ite (fun _ => hret _) fun _ => ?_
    · exact (accepts_get_u_i hint).bind fun v => hpure _
    · refine Accepts.bind (R := fun _ => Announced) ?_ fun n => ?_
      · exact (accepts_peek pRec _).conseq hann fun _ _ h => h
      · exact (accepts_pyAssert _).bind fun _ => hpure _
  refine (accepts_get_flags pRec).bind fun f => Accepts.ite (fun _ => ?_) fun _ => hret _
  refine Accepts.ite (fun _ => ?_) fun _ => ?_
  · refine Accepts.bind (R := fun _ => Announced) ?_ fun _ => hpure _
    unfold ExpandBlob
    refine Accepts.conseq ?_ hann fun _ _ h => h
    refine (accepts_get_flags pRec).bind fun f => Accepts.ite (fun _ => ?_) fun _ => hret _
    exact (accepts_c_mem pRec _).conseq hann fun _ _ h => h
  · exact ((accepts_peek pRec _).conseq hann fun _ _ h => h).bind fun _ => hpure _

/-- Bytes can be written. -/
theorem accepts_putBytes (pOut at_ : ℕ) (bs : List Byte) :
    Accepts (strictMachine ρ) Announced (putBytes pOut at_ bs) fun _ => Announced :=
  (accepts_peek pOut _).bind fun _ =>
    Accepts.ite (fun _ => accepts_poke pOut _) fun _ => accepts_throwExc _

/-- So can a varint. -/
theorem accepts_putVarint32 (pOut v at_ : ℕ) :
    Accepts (strictMachine ρ) Announced (putVarint32 pOut v at_) fun _ => Announced :=
  Accepts.ite (fun _ => (accepts_putBytes pOut _ _).bind fun _ => Accepts.pure fun _ h => h)
    fun _ => (accepts_putBytes pOut _ _).bind fun _ => Accepts.pure fun _ h => h

/-- A step of the second loop does not fail. -/
theorem accepts_recordWriteStep (pOut : ℕ) (memindex : ℤ) (w : RecordWrite) :
    Accepts (strictMachine ρ) Announced (recordWriteStep pOut memindex w) fun _ => Announced := by
  have hann : ∀ {i : ℕ} {f : Flags}, ∀ s : Strict ρ, HasFlags i f s → s.Announced := fun _ h => h.1
  have hpure : ∀ {γ : Type} (a : γ),
      Accepts (strictMachine ρ) Announced (pure a) fun _ => Announced :=
    fun _ => Accepts.pure fun _ h => h
  unfold recordWriteStep
  refine (accepts_mem_with_index memindex).bind fun pRec => ?_
  cases w.fields with
  | nil => exact accepts_throwExc _
  | cons field fields =>
    refine Accepts.bind (R := fun _ => Announced) ?_ fun hdrlen => ?_
    · unfold putSerialType
      exact Accepts.ite (fun _ => (accepts_putBytes pOut _ _).bind fun _ => hpure _)
        fun _ => accepts_putVarint32 pOut _ _
    refine Accepts.bind (R := fun _ => Announced) ?_ fun addj => ?_
    · -- A number is read by the member that the flags announce.
      unfold _sqlite3VdbeSerialPut_with_length _write_int_to_buf
      refine (accepts_get_flags pRec).bind fun f => ?_
      refine Accepts.ite (fun _ => Accepts.pure hann) fun _ => ?_
      refine Accepts.ite (fun hnum => ?_) fun _ => ?_
      · refine Accepts.ite (fun hint => ?_) fun hint => ?_
        · exact (accepts_get_u_i hint).bind fun v =>
            (accepts_putBytes pOut _ _).bind fun _ => hpure _
        · have hreal : f.has MEM_Real = true := by
            rw [Flags.has_or_right, Bool.or_eq_true] at hnum
            exact hnum.resolve_left hint
          exact (accepts_get_u_r hreal).bind fun v =>
            (accepts_putBytes pOut _ _).bind fun _ => hpure _
      · refine ((accepts_peek pRec _).conseq hann fun _ _ h => h).bind fun z => ?_
        exact Accepts.ite (fun _ => (accepts_putBytes pOut _ _).bind fun _ => hpure _)
          fun _ => accepts_throwExc _
    exact (accepts_pyAssert _).bind fun _ => hpure _

/-- Nor does the second loop. -/
theorem accepts_writeRecord (pOut : ℕ) (data0 : ℤ) (nField : ℕ) (size : RecordSize) :
    Accepts (strictMachine ρ) Announced (writeRecord pOut data0 nField size) fun _ => Announced := by
  have hblob : (MEM_Blob ||| MEM_Zero).has MEM_Int = false ∧
      (MEM_Blob ||| MEM_Zero).has MEM_Real = false := by decide
  unfold writeRecord
  refine (accepts_putVarint32 pOut _ 0).bind fun i => ?_
  refine (Accepts.forRange fun _ _ => accepts_recordWriteStep pOut _ _).bind fun w => ?_
  refine (accepts_pyAssert _).bind fun _ => (accepts_poke pOut _).bind fun _ => ?_
  refine (accepts_set_flags pOut (by decide) (by decide)).bind fun _ => ?_
  refine (accepts_poke_flags pOut setXDelNull).bind fun _ => ?_
  have hend : Accepts (strictMachine ρ) Announced (do poke pOut setEncUtf8; return RecordEnd.done)
      fun _ => Announced := (accepts_poke pOut _).bind fun _ => Accepts.pure fun _ h => h
  refine Accepts.ite (fun _ => ?_) fun _ => hend.conseq (fun _ h => h.1) fun _ _ h => h
  refine (accepts_set_u_nZero _ (by decide) (by decide)).bind fun _ => ?_
  refine (accepts_get_flags_known pOut MEM_Blob).bind fun f => ?_
  rintro s ⟨rfl, hs⟩
  exact ((accepts_set_flags pOut hblob.1 hblob.2).bind fun _ =>
    hend.conseq (fun _ h => h.1) fun _ _ h => h) s hs.1

/-- The encoding does not depend on what the cache holds. -/
theorem accepts_makeRecord (ff : ℕ) (limit : ℤ) (pOut : ℕ) (data0 : ℤ) (nField : ℕ) :
    Accepts (strictMachine ρ) Announced (makeRecord L ff limit pOut data0 nField)
      fun _ => Announced := by
  unfold makeRecord
  refine (Accepts.forRange fun _ _ => accepts_recordSizeStep L ff _ _).bind fun size => ?_
  refine Accepts.ite (fun _ => Accepts.pure fun _ h => h) fun _ => ?_
  exact (accepts_c_mem pOut _).bind fun rc =>
    Accepts.ite (fun _ => Accepts.pure fun _ h => h) fun _ => accepts_writeRecord pOut _ _ _

end encoding

/-! ## The opcode -/

section opcode

/-- The registers of `OP_MakeRecord` with an affinity string `P4`: the `P2` cells `cs` from `P1` on
hold values, and the string has an affinity for each of them. -/
structure AffinityInputs (enc : ℕ) (m : Machine ρ) (op : Op) (cs : List Mem) : Prop where
  /-- The cache is sound. -/
  sound : m.Sound
  /-- There are `P2` cells. -/
  p2 : op.p2 = cs.length
  /-- The cells are the registers from `P1` on. -/
  cells : ∀ j (hj : j < cs.length), IsRegister m.mems.length m.nMem (op.p1 + j) ∧
    m.mems[(op.p1 + j).toNat]? = some cs[j]
  /-- They hold values. -/
  values : ∀ c ∈ cs, c.IsValue enc
  /-- The string is as long. -/
  p4 : op.p4_z.length = cs.length
  /-- Its characters are affinities. -/
  affinities : ∀ z ∈ op.p4_z, IsAffinity z.toNat

/-- `OP_MakeRecord` applies to each register its own affinity. -/
structure AppliesAffinities (L : CLib ρ) (V : CVdbe ρ) (enc ff : ℕ) (limit : ℤ) (rc : ℕ) (op : Op)
    (m : Machine ρ) : Prop where
  /-- Before the encoding, the registers are as `OP_Affinity` leaves them. -/
  registers : execute (recordAffinity L enc op.p4_z op.p1 op.p2.toNat) m =
    execute (OP_Affinity L enc op) m
  /-- The registers afterwards, and the record among them, are those of `OP_Affinity` and an
  `OP_MakeRecord` without an affinity string. -/
  record : execute (OP_MakeRecord L V enc ff limit rc op) m = execute (do
    OP_Affinity L enc op
    OP_MakeRecord L V enc ff limit rc { op with p4 := .NOTUSED }) m

variable {m : Machine ρ} {op : Op} {cs : List Mem}

/-- The body of the loop of `OP_Affinity`. -/
def affinityStep (L : CLib ρ) (enc : ℕ) (zAffinity : List Byte) (p1 index : ℤ) : MemM ρ Unit := do
  let pRec ← mem_with_index index
  match zAffinity[(index - p1).toNat]? with
  | some z => applyAffinity L pRec z.toNat enc
  | none => throwExc .index

/-- Both loops end, and leave what `affinityFold` says. -/
theorem AffinityInputs.loops (hL : L.Fits) (h : AffinityInputs enc m op cs) :
    ∃ cs₁ m₁ cs₂ m₂,
      affinityFold L enc (fun _ => (op.p4_z.headD 0).toNat) m.cache.get_u_r op.p1 cs m.rest =
        .ok (cs₁, m₁.rest) ∧
      run (machine ρ) (recordAffinity L enc op.p4_z op.p1 op.p2.toNat) m = .ok ((), m₁) ∧
      m₁.Sound ∧ m₁.nMem = m.nMem ∧ m₁.mems = writeBack m.mems op.p1 cs₁ ∧
      affinityFold L enc (fun i => (op.p4_z.getD (i - op.p1).toNat 0).toNat) m.cache.get_u_r op.p1 cs
        m.rest = .ok (cs₂, m₂.rest) ∧
      run (machine ρ) (OP_Affinity L enc op) m = .ok ((), m₂) ∧
      m₂.Sound ∧ m₂.nMem = m.nMem ∧ m₂.mems = writeBack m.mems op.p1 cs₂ := by
  have hp2 : op.p2.toNat = cs.length := by rw [h.p2]; rfl
  -- The `j`-th register from P1 has the `j`-th letter.
  have hindex : ∀ j : ℕ, (op.p1 + j - op.p1).toNat = j := fun j => by omega
  have hget : ∀ j < cs.length, ∃ z, op.p4_z[j]? = some z ∧ IsAffinity z.toNat := fun j hj =>
    ⟨_, List.getElem?_eq_getElem (h.p4 ▸ hj), h.affinities _ (List.getElem_mem _)⟩
  -- `OP_MakeRecord` applies the first letter to every register.
  have hrecord : recordAffinity L enc op.p4_z op.p1 op.p2.toNat =
      Prog.forRange op.p1 cs.length () (fun memindex _ => do
        applyAffinity L (← mem_with_index memindex) (op.p4_z.headD 0).toNat enc) := by
    rw [hp2]
    cases hz : op.p4_z with
    | nil =>
      have hlen := h.p4
      rw [hz] at hlen
      rw [← hlen]
      rfl
    | cons z zs => rfl
  obtain ⟨cs₁, m₁, hfold₁, hrun₁, hs₁, hnMem₁, hmems₁⟩ := run_affinityLoop
    (fun _ => (op.p4_z.headD 0).toNat) m.cache.get_u_r cs
    (fun memindex _ => do
      applyAffinity L (← mem_with_index memindex) (op.p4_z.headD 0).toNat enc)
    hL h.sound h.cells h.values (fun _ _ => rfl) (fun j hj => by
      obtain ⟨z, hz, ha⟩ := hget 0 (by omega)
      rw [List.headD_eq_head?_getD, List.head?_eq_getElem?, hz]
      exact ha) (fun _ _ => rfl)
  -- `OP_Affinity` applies to each its own letter.
  obtain ⟨cs₂, m₂, hfold₂, hrun₂, hs₂, hnMem₂, hmems₂⟩ := run_affinityLoop
    (fun i => (op.p4_z.getD (i - op.p1).toNat 0).toNat) m.cache.get_u_r cs
    (fun index _ => affinityStep L enc op.p4_z op.p1 index)
    hL h.sound h.cells h.values (fun _ _ => rfl) (fun j hj => by
      obtain ⟨z, hz, ha⟩ := hget j hj
      rw [hindex, List.getD_eq_getElem?_getD, hz]
      exact ha) (fun j hj => by
      obtain ⟨z, hz, -⟩ := hget j hj
      unfold affinityStep
      rw [hindex, List.getD_eq_getElem?_getD, hz]
      rfl)
  refine ⟨cs₁, m₁, cs₂, m₂, hfold₁, by rw [hrecord]; exact hrun₁, hs₁, hnMem₁, hmems₁, hfold₂, ?_,
    hs₂, hnMem₂, hmems₂⟩
  have hlen : (((op.p4_z.length : ℤ)) == op.p2) = true := by
    rw [h.p4, h.p2]
    exact beq_self_eq_true _
  unfold OP_Affinity
  dsimp only
  rw [hlen, hp2]
  exact hrun₂

/-- After the affinities, the rest of the opcode depends on the cells only. -/
theorem execute_OP_MakeRecord_congr (L : CLib ρ) (V : CVdbe ρ) (enc ff : ℕ) (limit : ℤ) (rc : ℕ)
    (op : Op) {m₁ m₂ : Machine ρ}
    (hrun₁ : run (machine ρ) (recordAffinity L enc op.p4_z op.p1 op.p2.toNat) m = .ok ((), m₁))
    (hrun₂ : run (machine ρ) (OP_Affinity L enc op) m = .ok ((), m₂)) (h : m₁.SameCells m₂)
    (hlen : m₁.mems.length = m.mems.length) (hnMem : m₁.nMem = m.nMem) :
    execute (OP_MakeRecord L V enc ff limit rc op) m = execute (do
      OP_Affinity L enc op
      OP_MakeRecord L V enc ff limit rc { op with p4 := .NOTUSED }) m := by
  have hlen₂ : m₂.mems.length = m.mems.length := by rw [← h.mems]; exact hlen
  have hnMem₂ : m₂.nMem = m.nMem := h.nMem.symm.trans hnMem
  unfold execute
  rw [run_bind_ok hrun₂]
  unfold OP_MakeRecord
  -- The output register is looked up before the affinity in one program and after it in the other;
  -- affinity moves no register.
  have hpout : ∀ n : Machine ρ, n.mems.length = m.mems.length → n.nMem = m.nMem →
      run (machine ρ) op.mem_of_p3 n =
        (Machine.memIndex m.mems.length m.nMem op.p3).map (·, n) := fun n h1 h2 => by
    unfold Op.mem_of_p3 mem_with_index
    rw [run_perform, machine, h1, h2]
  cases hindex : Machine.memIndex m.mems.length m.nMem op.p3 with
  | error e =>
    have hpout₁ : run (machine ρ) op.mem_of_p3 m = .error e := by
      rw [hpout m rfl rfl, hindex]
      rfl
    have hpout₂ : run (machine ρ) { op with p4 := .NOTUSED }.mem_of_p3 m₂ = .error e := by
      have hp3 := hpout m₂ hlen₂ hnMem₂
      rw [hindex] at hp3
      exact hp3
    rw [run_bind_error hpout₁, run_bind_error hpout₂]
  | ok pOut =>
    have hpout₁ : run (machine ρ) op.mem_of_p3 m = .ok (pOut, m) := by
      rw [hpout m rfl rfl, hindex]
      rfl
    have hpout₂ : run (machine ρ) { op with p4 := .NOTUSED }.mem_of_p3 m₂ = .ok (pOut, m₂) := by
      have hp3 := hpout m₂ hlen₂ hnMem₂
      rw [hindex] at hp3
      exact hp3
    -- Without an affinity string the second program's own loop does nothing.
    have hskip : run (machine ρ) (recordAffinity L enc { op with p4 := .NOTUSED }.p4_z
        { op with p4 := .NOTUSED }.p1 { op with p4 := .NOTUSED }.p2.toNat) m₂ = .ok ((), m₂) := rfl
    rw [run_bind_ok hpout₁, run_bind_ok hpout₂, run_bind_ok hrun₁, run_bind_ok hskip]
    -- From alike cells the rest of the opcode runs alike.
    rcases h.run (accepts_makeRecord L ff limit pOut op.p1 op.p2.toNat) with
      ⟨ending, m₁', m₂', h₁, h₂, hsame⟩ | ⟨e, h₁, h₂⟩
    · rw [run_bind_ok h₁, run_bind_ok h₂]
      have hlabel : ∀ label : List Mem → ρ → ℕ × List Mem × ρ,
          (run (machine ρ) (c_mems fun mems r => .ok (label mems r)) m₁').map
              (fun x => (x.1, x.2.mems, x.2.rest)) =
            (run (machine ρ) (c_mems fun mems r => .ok (label mems r)) m₂').map
              fun x => (x.1, x.2.mems, x.2.rest) := fun label => by
        unfold c_mems
        rw [run_perform, run_perform, machine, machine, hsame.mems, hsame.rest]
        rfl
      cases ending with
      | done =>
        rw [run_pure, run_pure]
        simp only [Except.map, hsame.mems, hsame.rest]
      | too_big => exact hlabel _
      | no_mem => exact hlabel _
    · rw [run_bind_error h₁, run_bind_error h₂]

/-- Each register gets its own affinity exactly if, for each of them, the first affinity of `P4` and
its own are of the same kind or neither converts it. -/
theorem appliesAffinities_iff (hL : L.Fits) (V : CVdbe ρ) (enc ff : ℕ) (limit : ℤ) (rc : ℕ)
    (m : Machine ρ) (op : Op) (cs : List Mem) (h : AffinityInputs enc m op cs) :
    AppliesAffinities L V enc ff limit rc op m ↔
      ∀ k (hk : k < cs.length), AffinitiesAgree L (op.p4_z.headD 0).toNat
        (op.p4_z.getD k 0).toNat cs[k] (m.cache.get_u_r (op.p1 + k).toNat cs[k]) := by
  -- Both programs are folds over the registers, which differ in the letters.
  obtain ⟨cs₁, m₁, cs₂, m₂, hfold₁, hrun₁, hs₁, hnMem₁, hmems₁, hfold₂, hrun₂, hs₂, hnMem₂,
    hmems₂⟩ := h.loops hL
  have hindex : ∀ j : ℕ, (op.p1 + j - op.p1).toNat = j := fun j => by omega
  have hiff := affinityFold_eq_iff (fun _ => (op.p4_z.headD 0).toNat)
    (fun i => (op.p4_z.getD (i - op.p1).toNat 0).toNat) m.cache.get_u_r op.p1 hL h.values m.rest
  simp only [hindex] at hiff
  rw [← hiff]
  obtain ⟨ds₁, r₁, hok₁, hlen₁⟩ := affinityFold_ok (fun _ => (op.p4_z.headD 0).toNat)
    m.cache.get_u_r op.p1 hL h.values m.rest
  obtain ⟨ds₂, r₂, hok₂, hlen₂⟩ := affinityFold_ok
    (fun i => (op.p4_z.getD (i - op.p1).toNat 0).toNat) m.cache.get_u_r op.p1 hL h.values m.rest
  obtain ⟨rfl, -⟩ := Prod.mk.inj (Except.ok.inj (hok₁.symm.trans hfold₁))
  obtain ⟨rfl, -⟩ := Prod.mk.inj (Except.ok.inj (hok₂.symm.trans hfold₂))
  constructor
  · -- The registers alone tell the folds apart.
    rintro ⟨hregisters, -⟩
    unfold execute at hregisters
    rw [hrun₁, hrun₂] at hregisters
    have heq := Except.ok.inj hregisters
    simp only [Prod.mk.injEq, true_and] at heq
    obtain ⟨hmems, hrest⟩ := heq
    rw [hmems₁, hmems₂] at hmems
    rw [hfold₁, hfold₂, hrest]
    cases hcs : cs with
    | nil =>
      rw [hcs] at hlen₁ hlen₂
      rw [List.length_eq_zero_iff.mp hlen₁, List.length_eq_zero_iff.mp hlen₂]
    | cons c cs' =>
      have h0 := (h.cells 0 (by rw [hcs]; exact Nat.succ_pos _)).1.1
      rw [Nat.cast_zero, add_zero] at h0
      rw [writeBack_injective h0 (fun j hj => (h.cells j (by omega)).1.lt) (by omega) hmems]
  · intro hfold
    rw [hfold₁, hfold₂] at hfold
    have heq := Except.ok.inj hfold
    simp only [Prod.mk.injEq] at heq
    obtain ⟨hcells, hrest⟩ := heq
    have hmems : m₁.mems = m₂.mems := by rw [hmems₁, hmems₂, hcells]
    refine ⟨?_, execute_OP_MakeRecord_congr L V enc ff limit rc op hrun₁ hrun₂
      ⟨hmems, hnMem₁.trans hnMem₂.symm, hrest, hs₁, hs₂⟩
      (by rw [hmems₁, length_writeBack]) hnMem₁⟩
    unfold execute
    rw [hrun₁, hrun₂]
    simp only [Except.map, hmems, hrest]

/-- An `OP_MakeRecord` of two registers, with the affinities `z` and `z'`. -/
def makeRecordOfTwo (z z' : Byte) : Op := ⟨.MakeRecord, 0, 2, 2, .TEXT [z, z'], 0⟩

/-- Two registers with integers. -/
theorem affinityInputs_two {z z' : Byte} (hz : IsAffinity z.toNat) (hz' : IsAffinity z'.toNat) :
    AffinityInputs SQLITE_UTF8 (Machine.fresh [Mem.ofInt 7, Mem.ofInt 8, Mem.ofNull] 2 ())
      (makeRecordOfTwo z z') [Mem.ofInt 7, Mem.ofInt 8] where
  sound := Machine.Sound.fresh _ _ _
  p2 := rfl
  cells j hj := by
    match j, hj with
    | 0, _ => exact ⟨show IsRegister 3 2 (0 + 0) by decide, rfl⟩
    | 1, _ => exact ⟨show IsRegister 3 2 (0 + 1) by decide, rfl⟩
  values c hc := by
    simp only [List.mem_cons, List.not_mem_nil, or_false] at hc
    rcases hc with rfl | rfl
    · exact Mem.isValue_ofInt 7
    · exact Mem.isValue_ofInt 8
  p4 := rfl
  affinities y hy := by
    simp only [makeRecordOfTwo, Op.p4_z, List.mem_cons, List.not_mem_nil, or_false] at hy
    rcases hy with rfl | rfl
    · exact hz
    · exact hz'

/-- Two integers under INTEGER and NUMERIC affinity. -/
theorem appliesAffinities_numeric : AppliesAffinities CLib.decimal CVdbe.never SQLITE_UTF8 4 1000
    SQLITE_OK (makeRecordOfTwo 0x44 0x43)
    (Machine.fresh [Mem.ofInt 7, Mem.ofInt 8, Mem.ofNull] 2 ()) := by
  refine (appliesAffinities_iff CLib.fits_decimal CVdbe.never SQLITE_UTF8 4 1000 SQLITE_OK _ _
    [Mem.ofInt 7, Mem.ofInt 8] (affinityInputs_two (by decide) (by decide))).mpr fun k hk => ?_
  match k, hk with
  | 0, _ => exact Or.inl (by unfold SameKind; decide)
  | 1, _ => exact Or.inl (by unfold SameKind; decide)

/-- Under NUMERIC and TEXT affinity, the second integer is to become a text, and stays. -/
theorem not_appliesAffinities_text :
    AffinityInputs SQLITE_UTF8 (Machine.fresh [Mem.ofInt 7, Mem.ofInt 8, Mem.ofNull] 2 ())
      (makeRecordOfTwo 0x43 0x42) [Mem.ofInt 7, Mem.ofInt 8] ∧
    ¬ AppliesAffinities CLib.decimal CVdbe.never SQLITE_UTF8 4 1000 SQLITE_OK
      (makeRecordOfTwo 0x43 0x42) (Machine.fresh [Mem.ofInt 7, Mem.ofInt 8, Mem.ofNull] 2 ()) := by
  refine ⟨affinityInputs_two (by decide) (by decide), fun h => ?_⟩
  have heq := h.registers
  revert heq
  decide +kernel

end opcode

end SQPyte
