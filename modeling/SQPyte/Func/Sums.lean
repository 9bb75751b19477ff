import Mathlib.Data.List.Induction
import Mathlib.Data.List.TakeWhile
import SQPyte.Func.Nulls
import SQPyte.Vdbe.Arithmetic

/-!
# Sums of integers and reals

The `sum` aggregate against `sumStep` and `sumFinalize` of `func.c`. Over values other than NULL, the
state after any number of rows says three things of the integers before the first value that is none
(`SumInvariant`): whether each of their prefix sums fits in 64 bits, and if so their sum. A row keeps
this (`SumInvariant.step`), so an overflow is reported exactly if one of these prefix sums does not
fit, whatever comes later.
-/

namespace SQPyte

open Commands

variable {κ ρ : Type} (L : CLib (Wrappers κ ρ)) (U : UserClasses κ ρ) (C : CAggregates (Wrappers κ ρ))

/-! ## The C version -/

/-- `sumStep`. -/
def sumStep (p : SumState) (v : Mem) : SumState :=
  let v := v.numericForm L
  let type := valueTypeOf v.flags
  if type ≠ SQLITE_NULL then
    let p := { p with cnt := p.cnt + 1 }
    if type = SQLITE_INTEGER then
      let i := v.sqlite3VdbeIntValue L
      let p := { p with rSum := p.rSum.add (Binary64.ofInt i) }
      if !p.approx && !p.overflow then
        match sqlite3AddInt64 p.iSum i with
        | some iSum => { p with iSum := iSum }
        | none => { p with overflow := true }
      else p
    else { p with rSum := p.rSum.add (v.realValue L), approx := true }
  else p

/-- `sumFinalize`: the number that becomes the result, or the error. -/
def sumFinalize (p : Option SumState) : Except Exc Number :=
  match p with
  | none => .ok .null
  | some p =>
    if p.cnt > 0 then
      if p.overflow then .error .function
      else if p.approx then .ok (if p.rSum.isNaN then .null else .real p.rSum)
      else .ok (.int p.iSum)
    else .ok .null

/-- `sumStep` on each row, in the context that the first one gets. -/
def sumRows (vs : List Mem) : Option SumState :=
  vs.foldl (fun p v => some (sumStep L (p.getD {}) v)) none

/-! ## Prefix sums -/

/-- Every prefix of the integers has a sum that fits. -/
def PrefixesFit (is : List ℤ) : Prop := ∀ js, js <+: is → FitsInt64 js.sum

/-- There is nothing to overflow. -/
theorem prefixesFit_nil : PrefixesFit [] := by
  intro js hjs
  rw [List.prefix_nil.mp hjs]
  decide

/-- One summand more. -/
theorem prefixesFit_concat {is : List ℤ} {i : ℤ} :
    PrefixesFit (is ++ [i]) ↔ PrefixesFit is ∧ FitsInt64 (is.sum + i) := by
  have hsum : (is ++ [i]).sum = is.sum + i := by rw [List.sum_append, List.sum_singleton]
  constructor
  · intro h
    exact ⟨fun js hjs => h js (hjs.trans (List.prefix_append is [i])),
      hsum ▸ h _ List.prefix_rfl⟩
  · rintro ⟨his, hi⟩ js hjs
    rcases List.prefix_concat_iff.mp hjs with rfl | hjs
    · rw [hsum]
      exact hi
    · exact his js hjs

/-- The value is an integer for the aggregate. -/
def isInteger (v : Mem) : Bool := valueTypeOf (v.numericForm L).flags = SQLITE_INTEGER

/-- The integers before the first value that is none. -/
def leadingIntegers (vs : List Mem) : List ℤ :=
  (vs.takeWhile (isInteger L)).map fun v => (v.numericForm L).u_i

variable {L U C} {vs : List Mem} {v : Mem}

/-- A value that is an integer, behind integers. -/
theorem leadingIntegers_concat (hvs : ∀ w ∈ vs, isInteger L w = true) (hv : isInteger L v = true) :
    leadingIntegers L (vs ++ [v]) = leadingIntegers L vs ++ [(v.numericForm L).u_i] := by
  unfold leadingIntegers
  rw [List.takeWhile_append_of_pos hvs, List.takeWhile_eq_self_iff.mpr hvs,
    List.takeWhile_cons_of_pos hv, List.takeWhile_nil, List.map_append]
  rfl

/-- A value that is none, or that comes behind one, does not belong to them. -/
theorem leadingIntegers_concat_of_not (h : (∃ w ∈ vs, isInteger L w = false) ∨ isInteger L v = false) :
    leadingIntegers L (vs ++ [v]) = leadingIntegers L vs := by
  unfold leadingIntegers
  congr 1
  rw [List.takeWhile_append]
  split_ifs with hlen
  · have hall : vs.takeWhile (isInteger L) = vs := (List.takeWhile_prefix _).eq_of_length hlen
    have hv : isInteger L v = false := by
      rcases h with ⟨w, hw, hno⟩ | hv
      · have := List.takeWhile_eq_self_iff.mp hall w hw
        rw [hno] at this
        cases this
      · exact hv
    rw [List.takeWhile_cons_of_neg (by simp [hv]), List.append_nil, hall]
  · rfl

/-! ## One row -/

/-- An integer has the flag. -/
theorem has_int_of_integer {f : Flags} (h : valueTypeOf f = SQLITE_INTEGER) :
    f.has MEM_Int = true := by
  have hlist : ∀ k : Fin 32, (_type_encoding_list ++ _type_encoding_list).getD k SQLITE_BLOB =
      SQLITE_INTEGER → (k : ℕ) / 4 % 2 = 1 := by decide
  have hmask : (f &&& MEM_AffMask).toNat = f.toNat % 32 := by
    rw [BitVec.toNat_and]
    exact Nat.and_two_pow_sub_one_eq_mod f.toNat 5
  have hlt : f.toNat % 32 < 32 := Nat.mod_lt _ (by decide)
  unfold valueTypeOf at h
  rw [hmask] at h
  have hbit := hlist ⟨f.toNat % 32, hlt⟩ h
  rw [MEM_Int, Flags.has_MEM_Int, BitVec.getLsbD, Nat.testBit_eq_decide_div_mod_eq]
  simp only [decide_eq_true_eq]
  dsimp only at hbit
  omega

/-- The integer of a value is that of its numeric form. -/
theorem intValue_of_isInteger (h : isInteger L v = true) :
    (v.numericForm L).intValue L = (v.numericForm L).u_i ∧
      (v.numericForm L).sqlite3VdbeIntValue L = (v.numericForm L).u_i := by
  unfold isInteger at h
  have hint := has_int_of_integer (of_decide_eq_true h)
  exact ⟨if_pos hint, if_pos hint⟩

/-- The word of a cell is a 64-bit integer. -/
theorem fitsInt64_u_i (c : Mem) : FitsInt64 c.u_i := by
  have := Mem.u_i_fits c
  unfold FitsInt64 SMALLEST_INT64 LARGEST_INT64
  omega

/-- What the state says of the rows `vs`. -/
structure SumInvariant (L : CLib (Wrappers κ ρ)) (vs : List Mem) (st : SumState) : Prop where
  /-- A value that is no integer was seen. -/
  approx : st.approx = true ↔ ∃ v ∈ vs, isInteger L v = false
  /-- A prefix sum of the leading integers does not fit. -/
  overflow : st.overflow = true ↔ ¬ PrefixesFit (leadingIntegers L vs)
  /-- The integer sum is a prefix sum, and that of all leading integers where they all fit. -/
  iSum : ∃ is, is <+: leadingIntegers L vs ∧ PrefixesFit is ∧ st.iSum = is.sum ∧
    (st.overflow = false → is = leadingIntegers L vs)

/-- Before the first row. -/
theorem SumInvariant.init (L : CLib (Wrappers κ ρ)) : SumInvariant L [] {} where
  approx := by simp
  overflow := by
    constructor
    · intro h
      cases h
    · exact fun h => absurd prefixesFit_nil h
  iSum := ⟨[], List.prefix_rfl, prefixesFit_nil, rfl, fun _ => rfl⟩

/-- The integer sum fits. -/
theorem SumInvariant.fits {st : SumState} (h : SumInvariant L vs st) : FitsInt64 st.iSum := by
  obtain ⟨is, -, hfit, hsum, -⟩ := h.iSum
  rw [hsum]
  exact hfit is List.prefix_rfl

/-- A row that is no integer makes the sum a real. -/
theorem stepValue_of_not_integer (st : SumState) (hv : isInteger L v = false) :
    (st.stepValue L v).approx = true ∧ (st.stepValue L v).overflow = st.overflow ∧
      (st.stepValue L v).iSum = st.iSum := by
  unfold isInteger at hv
  unfold SumState.stepValue
  dsimp only
  rw [if_neg (of_decide_eq_false hv)]
  exact ⟨rfl, rfl, rfl⟩

/-- A row that is an integer is added to the integer sum, if that is still kept. -/
theorem stepValue_of_integer (st : SumState) (hv : isInteger L v = true) :
    (st.stepValue L v).approx = st.approx ∧
    ((st.approx = true ∨ st.overflow = true) →
      (st.stepValue L v).overflow = st.overflow ∧ (st.stepValue L v).iSum = st.iSum) ∧
    (st.approx = false → st.overflow = false →
      (FitsInt64 (st.iSum + (v.numericForm L).u_i) → (st.stepValue L v).overflow = false ∧
        (st.stepValue L v).iSum = st.iSum + (v.numericForm L).u_i) ∧
      (¬ FitsInt64 (st.iSum + (v.numericForm L).u_i) → (st.stepValue L v).overflow = true ∧
        (st.stepValue L v).iSum = st.iSum)) := by
  have hi := (intValue_of_isInteger hv).1
  have hfits : ∀ n : ℤ, (-2^63 ≤ n ∧ n < 2^63) ↔ FitsInt64 n := fun n => by
    unfold FitsInt64 SMALLEST_INT64 LARGEST_INT64
    omega
  unfold isInteger at hv
  unfold SumState.stepValue SumState.addInt
  dsimp only
  rw [if_pos (of_decide_eq_true hv), hi]
  simp only [hfits]
  refine ⟨by split_ifs <;> rfl, fun h => ?_, fun happrox hover => ⟨fun hfit => ?_, fun hno => ?_⟩⟩
  · rw [if_neg (by rcases h with h | h <;> simp [h])]
    exact ⟨rfl, rfl⟩
  · rw [happrox, hover, if_pos (by simp), if_pos hfit]
    exact ⟨rfl, rfl⟩
  · rw [happrox, hover, if_pos (by simp), if_neg hno]
    exact ⟨rfl, rfl⟩

/-- One more row. -/
theorem SumInvariant.step {st : SumState} (h : SumInvariant L vs st) (v : Mem) :
    SumInvariant L (vs ++ [v]) (st.stepValue L v) := by
  obtain ⟨happrox, hover, is, hprefix, hfit, hsum, hall⟩ := h
  have hexists : (∃ w ∈ vs ++ [v], isInteger L w = false) ↔
      (∃ w ∈ vs, isInteger L w = false) ∨ isInteger L v = false := by
    simp only [List.mem_append, List.mem_singleton, or_and_right, exists_or, exists_eq_left]
  cases hv : isInteger L v with
  | false =>
    obtain ⟨ha, ho, hs⟩ := stepValue_of_not_integer st hv
    have hlead : leadingIntegers L (vs ++ [v]) = leadingIntegers L vs :=
      leadingIntegers_concat_of_not (Or.inr hv)
    refine ⟨?_, ?_, is, ?_, hfit, ?_, ?_⟩
    · rw [ha, hexists]
      simp [hv]
    · rw [ho, hlead]
      exact hover
    · rw [hlead]
      exact hprefix
    · rw [hs]
      exact hsum
    · rw [ho, hlead]
      exact hall
  | true =>
    obtain ⟨ha, hkeep, hadd⟩ := stepValue_of_integer st hv
    have happrox' : (st.stepValue L v).approx = true ↔ ∃ w ∈ vs ++ [v], isInteger L w = false := by
      rw [ha, hexists, happrox]
      simp [hv]
    cases hst : st.approx with
    | true =>
      -- Behind a value that is no integer nothing is added.
      obtain ⟨ho, hs⟩ := hkeep (Or.inl hst)
      have hlead := leadingIntegers_concat_of_not (v := v) (Or.inl (happrox.mp hst))
      refine ⟨happrox', ?_, is, ?_, hfit, ?_, ?_⟩
      · rw [ho, hlead]
        exact hover
      · rw [hlead]
        exact hprefix
      · rw [hs]
        exact hsum
      · rw [ho, hlead]
        exact hall
    | false =>
      have hints : ∀ w ∈ vs, isInteger L w = true := by
        intro w hw
        by_contra hno
        rw [Bool.not_eq_true] at hno
        rw [happrox.mpr ⟨w, hw, hno⟩] at hst
        cases hst
      have hlead := leadingIntegers_concat hints hv
      cases hso : st.overflow with
      | true =>
        obtain ⟨ho, hs⟩ := hkeep (Or.inr hso)
        refine ⟨happrox', ?_, is, ?_, hfit, ?_, fun h => ?_⟩
        · rw [ho, hso, hlead, prefixesFit_concat]
          simp [hover.mp hso]
        · rw [hlead]
          exact hprefix.trans (List.prefix_append _ _)
        · rw [hs]
          exact hsum
        · rw [ho, hso] at h
          cases h
      | false =>
        obtain ⟨hfits, hno⟩ := hadd hst hso
        obtain rfl := hall hso
        rw [hsum] at hfits hno
        by_cases hnew : FitsInt64 ((leadingIntegers L vs).sum + (v.numericForm L).u_i)
        · obtain ⟨ho, hs⟩ := hfits hnew
          have hfit' := prefixesFit_concat.mpr ⟨hfit, hnew⟩
          refine ⟨happrox', ?_, _, List.prefix_rfl, ?_, ?_, fun _ => rfl⟩
          · rw [ho, hlead]
            simp [hfit']
          · rw [hlead]
            exact hfit'
          · rw [hs, hlead, List.sum_append, List.sum_singleton]
        · obtain ⟨ho, hs⟩ := hno hnew
          refine ⟨happrox', ?_, _, ?_, hfit, hs, fun h => ?_⟩
          · rw [ho, hlead, prefixesFit_concat]
            simp [hnew]
          · rw [hlead]
            exact List.prefix_append _ _
          · rw [ho] at h
            cases h

variable (L) in
/-- The state of a sum after the rows `vs`. -/
def sumState (vs : List Mem) : SumState := vs.foldl (fun st v => st.stepValue L v) {}

/-- The invariant holds after any number of rows. -/
theorem sumInvariant_sumState (vs : List Mem) : SumInvariant L vs (sumState L vs) := by
  induction vs using List.reverseRecOn with
  | nil => exact SumInvariant.init L
  | append_singleton vs v ih =>
    unfold sumState
    rw [List.foldl_append]
    exact ih.step v

/-- An overflow is never forgotten. -/
theorem overflow_of_prefix {ws : List Mem} (h : ws <+: vs)
    (hover : (sumState L ws).overflow = true) : (sumState L vs).overflow = true := by
  have hlead : leadingIntegers L ws <+: leadingIntegers L vs := by
    obtain ⟨us, rfl⟩ := h
    unfold leadingIntegers
    refine List.IsPrefix.map _ ?_
    rw [List.takeWhile_append]
    split_ifs with hlen
    · rw [(List.takeWhile_prefix _).eq_of_length hlen]
      exact List.prefix_append _ _
    · exact List.prefix_rfl
  rw [(sumInvariant_sumState ws).overflow] at hover
  rw [(sumInvariant_sumState vs).overflow]
  exact fun hfit => hover fun js hjs => hfit js (hjs.trans hlead)

/-! ## The C version computes the same -/

/-- The overflow test of C is exact on integers of 64 bits. -/
theorem sqlite3AddInt64_eq {a b : ℤ} (ha : FitsInt64 a) (hb : FitsInt64 b) :
    sqlite3AddInt64 a b = if FitsInt64 (a + b) then some (a + b) else none := by
  unfold FitsInt64 SMALLEST_INT64 LARGEST_INT64 at ha hb
  have hfits : FitsInt64 (a + b) ↔ -2^63 ≤ a + b ∧ a + b ≤ 2^63 - 1 := Iff.rfl
  unfold sqlite3AddInt64 LARGEST_INT64
  by_cases hb0 : b ≥ 0
  · rw [if_pos hb0]
    by_cases hover : a > 0 ∧ 2^63 - 1 - a < b
    · rw [if_pos hover, if_neg (by rw [hfits]; omega)]
    · rw [if_neg hover, if_pos (hfits.mpr (by omega))]
  · rw [if_neg hb0]
    by_cases hover : a < 0 ∧ -(a + (2^63 - 1)) > b + 1
    · rw [if_pos hover, if_neg (by rw [hfits]; omega)]
    · rw [if_neg hover, if_pos (hfits.mpr (by omega))]

/-- A row that is not NULL has the same effect in C. -/
theorem sumStep_eq {st : SumState} (hst : FitsInt64 st.iSum)
    (hnull : valueTypeOf (v.numericForm L).flags ≠ SQLITE_NULL) :
    sumStep L st v = st.stepValue L v := by
  have hfits : ∀ n : ℤ, (-2^63 ≤ n ∧ n < 2^63) ↔ FitsInt64 n := fun n => by
    unfold FitsInt64 SMALLEST_INT64 LARGEST_INT64
    omega
  unfold sumStep SumState.stepValue sumTerm SumState.addInt
  dsimp only
  rw [if_pos hnull]
  by_cases hint : valueTypeOf (v.numericForm L).flags = SQLITE_INTEGER
  · obtain ⟨hpy, hc⟩ := intValue_of_isInteger (L := L) (v := v) (decide_eq_true hint)
    rw [if_pos hint, if_pos hint, if_pos hint, hpy, hc,
      sqlite3AddInt64_eq hst (fitsInt64_u_i _)]
    simp only [hfits]
    split_ifs <;> rfl
  · rw [if_neg hint, if_neg hint, if_neg hint]

/-! ## The outcome -/

/-- The numeric form of a value that is not NULL is not NULL. -/
theorem numericForm_not_null (hv : v.isNull = false) :
    valueTypeOf (v.numericForm L).flags ≠ SQLITE_NULL := by
  rw [ne_eq, valueTypeOf_eq_null_iff, Bool.not_eq_true]
  unfold Mem.numericForm Mem.applyNumericAffinity
  simp only [Bool.false_eq_true, ↓reduceIte]
  have hint : Flags.has (v.flags ||| MEM_Int) MEM_Null = false := by
    rw [Flags.has_or_left]
    simpa [Mem.isNull] using hv
  have hreal : Flags.has (v.flags ||| MEM_Real) MEM_Null = false := by
    rw [Flags.has_or_left]
    simpa [Mem.isNull] using hv
  split_ifs with htext hno hint'
  · exact hv
  · exact hint
  · exact hreal
  · exact hv

/-- The state of C after any number of rows is that of the context. -/
theorem sumRows_eq (hvs : ∀ v ∈ vs, v.isNull = false) :
    sumRows L vs = if vs = [] then none else some (sumState L vs) := by
  induction vs using List.reverseRecOn with
  | nil => rfl
  | append_singleton vs v ih =>
    have hstep : sumStep L (sumState L vs) v = (sumState L vs).stepValue L v :=
      sumStep_eq (sumInvariant_sumState vs).fits
        (numericForm_not_null (hvs v (List.mem_append_right _ (List.mem_singleton_self v))))
    have hlast : sumState L (vs ++ [v]) = (sumState L vs).stepValue L v := by
      unfold sumState
      rw [List.foldl_append]
      rfl
    have hget : (sumRows L vs).getD {} = sumState L vs := by
      rw [ih fun w hw => hvs w (List.mem_append_left _ hw)]
      split_ifs with hnil
      · rw [hnil]
        rfl
      · rfl
    rw [if_neg (by simp), hlast, ← hstep, ← hget]
    unfold sumRows
    rw [List.foldl_append]
    rfl

variable (L U C) in
/-- The number that the finalisation of the sum leaves in the accumulator, or the error. -/
def sumOutcome (m : Machine (Wrappers κ ρ)) (arg acc : ℕ) (vs : List Mem) :
    Except Exc (Option Number) :=
  (aggregated L U C sumFunc m arg acc vs).map fun c => c.bind Mem.number

variable {enc : ℕ} {m : Machine (Wrappers κ ρ)} {arg acc : ℕ}

/-- The context after some rows. -/
theorem steppedContext_sum (h : Accumulator enc m arg acc) (hvs : vs ≠ []) :
    steppedContext L U C sumFunc m arg acc vs = .ok (some (.SumCtx (sumState L vs))) := by
  have hbuiltin : (PyContext.SumCtx {} : PyContext κ).BuiltIn := trivial
  rw [steppedContext_eq h (by decide) rfl hbuiltin vs, contextAfter_none, if_neg hvs, foldl_SumCtx]
  rfl

/-- The finalisation leaves what `sumFinalize` gives in the same state. -/
theorem sumOutcome_eq (h : Accumulator enc m arg acc) (vs : List Mem) :
    sumOutcome L U C m arg acc vs =
      (sumFinalize (if vs = [] then none else some (sumState L vs))).map some := by
  unfold sumOutcome
  refine aggregated_of (.SumCtx {}) (fun r => r.map (fun c => c.bind Mem.number) = _) h
    sumFunc_class (by decide) rfl trivial vs fun s c w hat hvalue hnull => ?_
  rw [contextAfter_none]
  -- Without a row there is no context, and the result is NULL.
  by_cases hvs : vs = []
  · rw [if_pos hvs, if_pos hvs]
    show Except.map _ (.ok s.mems[acc]?) = _
    rw [hat.1]
    simp only [Except.map, Option.bind_some, sumFinalize, Mem.number]
    rw [if_pos (show c.flags.has MEM_Null = true from hnull)]
  -- Otherwise `finalize` sees the state after all rows, whose count is positive.
  rw [if_neg hvs, if_neg hvs, foldl_SumCtx]
  have hfold : vs.foldl (fun st v => st.stepValue L v) {} = sumState L vs := rfl
  rw [hfold]
  set st := sumState L vs with hst
  have hcnt : st.cnt > 0 := by
    have hcnt : st.cnt = vs.length := (foldl_cnt vs {}).trans (zero_add _)
    have := List.length_pos_iff.mpr hvs
    omega
  dsimp only [ContextClass.finalize, SumCtx.finalize, sumFinalize]
  rw [if_pos hcnt, if_pos hcnt]
  -- It raises on an overflow, and sets an integer unless a value was not one.
  cases hover : st.overflow with
  | true => rfl
  | false =>
    rw [if_neg Bool.false_ne_true, if_neg Bool.false_ne_true]
    cases happrox : st.approx with
    | false =>
      rw [if_neg Bool.false_ne_true, if_neg Bool.false_ne_true, hat.run_sqlite3VdbeMemSetInt64 L]
      show Except.map _ (.ok (s.setMem acc _ .i).mems[acc]?) = _
      have hfits := (sumInvariant_sumState (L := L) vs).fits
      rw [← hst] at hfits
      unfold FitsInt64 SMALLEST_INT64 LARGEST_INT64 at hfits
      rw [getElem?_setMem hat]
      simp only [Except.map, Option.bind_some, Mem.number]
      rw [if_neg (by simp), if_pos (by simp), Mem.u_i, Mem.toInt_ofInt_of_fits (by omega) (by omega)]
    | true =>
      rw [if_pos rfl, if_pos rfl]
      -- A sum that is not a number is stored as NULL.
      cases hnan : st.rSum.isNaN with
      | true =>
        rw [hat.run_sqlite3VdbeMemSetDouble_nan L hnan hvalue.plain.2.1 hvalue.plain.1]
        show Except.map _ (.ok (s.setMem acc _ w).mems[acc]?) = _
        rw [getElem?_setMem hat]
        simp only [Except.map, Option.bind_some, Mem.number]
        rw [if_pos (by simp [withTypeFlag])]
        rfl
      | false =>
        rw [hat.run_sqlite3VdbeMemSetDouble L hnan]
        show Except.map _ (.ok (s.setMem acc _ .r).mems[acc]?) = _
        rw [getElem?_setMem hat]
        simp only [Except.map, Option.bind_some, Mem.number]
        rw [if_neg (by simp), if_neg (by simp), if_pos (by simp)]
        rfl

variable (L U C) in
/-- What the sum has to do on the values `vs`. The numbers `allowed` are those that may come out for
a sum of doubles. -/
structure SumsUp (allowed : Binary64 → Number → Prop) (m : Machine (Wrappers κ ρ)) (arg acc : ℕ)
    (vs : List Mem) : Prop where
  /-- Integers have their exact sum iff every prefix sum fits, and overflow otherwise. -/
  integers : (∀ v ∈ vs, isInteger L v = true) →
    (PrefixesFit (leadingIntegers L vs) →
      sumOutcome L U C m arg acc vs = .ok (some (.int (leadingIntegers L vs).sum))) ∧
    (¬ PrefixesFit (leadingIntegers L vs) → sumOutcome L U C m arg acc vs = .error .function)
  /-- With another value among them it is the integers before that decide about an overflow. -/
  mixed : (∃ v ∈ vs, isInteger L v = false) →
    (PrefixesFit (leadingIntegers L vs) → ∃ x, allowed (floatSum L vs) x ∧
      sumOutcome L U C m arg acc vs = .ok (some x)) ∧
    (¬ PrefixesFit (leadingIntegers L vs) → sumOutcome L U C m arg acc vs = .error .function)
  /-- After any of the rows there is a context, and it remembers an overflow from before. -/
  remembered : ∀ us ws, us <+: ws → ws <+: vs → us ≠ [] → ∃ st st',
    steppedContext L U C sumFunc m arg acc us = .ok (some (.SumCtx st)) ∧
    steppedContext L U C sumFunc m arg acc ws = .ok (some (.SumCtx st')) ∧
    (st.overflow = true → st'.overflow = true)
  /-- The integer sum is never wrapped: it is a sum of integers stepped so far, and fits. -/
  unwrapped : ∀ ws st, ws <+: vs →
    steppedContext L U C sumFunc m arg acc ws = .ok (some (.SumCtx st)) →
    FitsInt64 st.iSum ∧ ∃ is, is <+: leadingIntegers L ws ∧ st.iSum = is.sum
  /-- The C version has the same outcome. -/
  reference : sumOutcome L U C m arg acc vs = (sumFinalize (sumRows L vs)).map some

/-- A sum of doubles is a real, or NULL if it is no number. -/
def realOrNull (r : Binary64) (x : Number) : Prop := x = if r.isNaN then .null else .real r

/-- Values that are not NULL are summed up. -/
theorem sumsUp_of_not_null (h : Accumulator enc m arg acc) (hne : vs ≠ [])
    (hvs : ∀ v ∈ vs, v.isNull = false) : SumsUp L U C realOrNull m arg acc vs := by
  have hinv := sumInvariant_sumState (L := L) vs
  have hcnt : (sumState L vs).cnt > 0 := by
    have hcnt : (sumState L vs).cnt = vs.length := (foldl_cnt vs {}).trans (zero_add _)
    have := List.length_pos_iff.mpr hne
    omega
  have hout := sumOutcome_eq (L := L) (U := U) (C := C) h vs
  rw [if_neg hne] at hout
  -- The sum of the leading integers overflowed on the way, which `finalize` reports.
  have herror : ¬ PrefixesFit (leadingIntegers L vs) →
      sumOutcome L U C m arg acc vs = .error .function := by
    intro hfit
    rw [hout, sumFinalize, if_pos hcnt, if_pos (hinv.overflow.mpr hfit)]
    rfl
  have hnover : PrefixesFit (leadingIntegers L vs) → (sumState L vs).overflow = false := by
    intro hfit
    rw [← Bool.not_eq_true, hinv.overflow]
    exact not_not_intro hfit
  refine ⟨fun hall => ⟨fun hfit => ?_, herror⟩, fun hmixed => ⟨fun hfit => ?_, herror⟩, ?_, ?_, ?_⟩
  · -- Integers only: the sum is exact.
    have happrox : (sumState L vs).approx = false := by
      rw [← Bool.not_eq_true, hinv.approx]
      rintro ⟨v, hv, hno⟩
      rw [hall v hv] at hno
      cases hno
    obtain ⟨is, -, -, hsum, hlead⟩ := hinv.iSum
    rw [hout, sumFinalize, if_pos hcnt, hnover hfit, happrox, hsum, hlead (hnover hfit)]
    rfl
  · refine ⟨_, rfl, ?_⟩
    -- With another value among them the sum is in doubles.
    have hsum : (sumState L vs).rSum = floatSum L vs := foldl_rSum vs {}
    rw [hout, sumFinalize, if_pos hcnt, hnover hfit, hinv.approx.mpr hmixed, hsum]
    rfl
  · intro us ws hus hws hnil
    have hws' : ws ≠ [] := by
      rintro rfl
      exact hnil (List.prefix_nil.mp hus)
    exact ⟨_, _, steppedContext_sum h hnil, steppedContext_sum h hws', overflow_of_prefix hus⟩
  · intro ws st hws hst
    by_cases hnil : ws = []
    · have hbuiltin : (PyContext.SumCtx {} : PyContext κ).BuiltIn := trivial
      rw [steppedContext_eq h (by decide) rfl hbuiltin, contextAfter_none, if_pos hnil] at hst
      cases hst
    · rw [steppedContext_sum h hnil] at hst
      obtain rfl : sumState L ws = st := by
        injection hst with hst
        injection hst with hst
        injection hst
      -- In between, `iSum` is the sum of some leading integers.
      obtain ⟨is, hprefix, -, hsum, -⟩ := (sumInvariant_sumState (L := L) ws).iSum
      exact ⟨(sumInvariant_sumState ws).fits, is, hprefix, hsum⟩
  · rw [hout, sumRows_eq hvs, if_neg hne]

/-- 1 and 2 are. -/
theorem sumsUp_one_two : SumsUp (CLib.decimalOver _) UserClasses.none CAggregates.none realOrNull
    twoNulls 0 1 [Mem.ofInt 1, Mem.ofInt 2] :=
  sumsUp_of_not_null accumulator_twoNulls (by decide) (by decide)

/-- The infinities are values, and their sum is NULL. -/
theorem not_sumsUp_infinities :
    Accumulator SQLITE_UTF8 twoNulls 0 1 ∧
    (∀ v ∈ [Mem.ofReal (Binary64.inf false), Mem.ofReal (Binary64.inf true)],
      v.IsValue SQLITE_UTF8 ∧ v.isNull = false) ∧
    ¬ SumsUp (CLib.decimalOver _) UserClasses.none CAggregates.none (fun _ x => ∃ r, x = .real r)
      twoNulls 0 1 [Mem.ofReal (Binary64.inf false), Mem.ofReal (Binary64.inf true)] := by
  refine ⟨accumulator_twoNulls, fun v hv => ?_, fun h => ?_⟩
  · simp only [List.mem_cons, List.not_mem_nil, or_false] at hv
    rcases hv with rfl | rfl
    · exact ⟨Mem.isValue_ofReal _ (by decide), by decide⟩
    · exact ⟨Mem.isValue_ofReal _ (by decide), by decide⟩
  · obtain ⟨x, ⟨r, rfl⟩, hout⟩ := (h.mixed (by decide)).1 (by
      rw [show leadingIntegers _ _ = [] from by decide]
      exact prefixesFit_nil)
    rw [sumOutcome_eq accumulator_twoNulls] at hout
    have hnone : (sumFinalize (some (sumState (CLib.decimalOver (Wrappers Unit Unit))
        [Mem.ofReal (Binary64.inf false), Mem.ofReal (Binary64.inf true)]))) = .ok .null := by
      decide +kernel
    rw [if_neg (by decide), hnone] at hout
    cases hout

end SQPyte
