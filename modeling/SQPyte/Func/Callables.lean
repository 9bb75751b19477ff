import SQPyte.Func.Context
import SQPyte.Func.Registry
import SQPyte.Mem.Frame
import SQPyte.Mem.Results
import SQPyte.Record.Encoding
import SQPyte.Vdbe.Copies

/-!
# Scalar functions in Python

A callable gets the wrappers of its arguments and of the output register. It calls methods of the
arguments, sets results by the `sqlite3_result_*` methods, and does other things in Python: a program
over `FuncCmd`. Its run records the value that was set last.

`impl_OP_Function` sets the output register to NULL before it calls a C function, and
`RPyFunc.call_in_python` does not. What a callable sets replaces what was there (`setResult_spec`),
so the register holds what the call determines exactly if the callable has set a value, or the
register was NULL before (`pythonResult_iff`).
-/

namespace SQPyte

open Commands

/-- A call of one of the `sqlite3_result_*` methods. -/
inductive Result where
  /-- `sqlite3_result_int64(val)`. -/
  | int64 (val : BitVec 64)
  /-- `sqlite3_result_double(val)`. -/
  | double (val : Binary64)
  /-- `sqlite3_result_null()`. -/
  | null
  /-- `sqlite3_result_text(s)`. -/
  | text (s : List Byte) (hs : s.length < 2^31)

/-- A method of an argument, which works on its cell alone. -/
structure CellMethod (ρ α : Type) where
  /-- The method. -/
  call : ℕ → MemM ρ α
  /-- Its accesses are to that cell. -/
  onCell : ∀ i, (call i).All (MemCmd.OnCell i)

/-- What a callable does. -/
inductive FuncCmd (ρ : Type) : Type → Type 1 where
  /-- A method of `args[k]`. -/
  | method {α : Type} (k : ℕ) (m : CellMethod ρ α) : FuncCmd ρ α
  /-- A result is set. -/
  | result (r : Result) : FuncCmd ρ Unit
  /-- Anything else. -/
  | python {α : Type} (step : ρ → Except Exc (α × ρ)) : FuncCmd ρ α

/-- A callable, given the number of the arguments. -/
abbrev Callable (ρ : Type) := ℕ → Prog (FuncCmd ρ) Unit

variable {ρ κ γ α : Type} (L : CLib ρ) (limit : ℤ)

/-- A `sqlite3_result_*` method: the `rc` of the C routine, which Python does not look at. -/
def setResult (memout : ℕ) : Result → MemM ρ ℕ
  | .int64 val => do
    sqlite3VdbeMemSetInt64 L memout val.toInt false
    return SQLITE_OK
  | .double val => do
    sqlite3VdbeMemSetDouble L memout val
    return SQLITE_OK
  | .null => do
    sqlite3VdbeMemSetNull L memout
    return SQLITE_OK
  | .text s _ => c_mem memout (Mem.sqlite3VdbeMemSetStr L limit s s.length)

/-- The value that such a call sets. A NaN is NULL, a text over the length limit is not set, and when
memory runs out it is NULL that is set. -/
def Result.stored (rc : ℕ) : Result → Option Value
  | .int64 val => some (.int val.toInt)
  | .double val => some (if val.isNaN then .null else .real val)
  | .null => some .null
  | .text s _ =>
    if rc = SQLITE_OK then some (.text s) else if rc = SQLITE_NOMEM then some .null else none

/-- A method of `args[k]`. -/
def callMethod (args : List ℕ) (k : ℕ) (m : CellMethod ρ α) : MemM ρ α :=
  match args[k]? with
  | some arg => m.call arg
  | none => throwExc .index

/-- The rest of a call, with the value that was set last. -/
def recordCall (args : List ℕ) (memout : ℕ) :
    Prog (FuncCmd ρ) α → Option Value → MemM ρ (α × Option Value)
  | .ret a, last => pure (a, last)
  | .cmd (.method k m) rest, last => do
    let b ← callMethod args k m
    recordCall args memout (rest b) last
  | .cmd (.result r) rest, last => do
    let rc ← setResult L limit memout r
    recordCall args memout (rest ()) ((r.stored rc).or last)
  | .cmd (.python step) rest, last => do
    let b ← other step
    recordCall args memout (rest b) last

namespace RPyFunc

/-- `RPyFunc.call_in_python`: `rc`, and the value that the callable set last. -/
def call_in_python (rpyfunc : Callable ρ) (index : ℤ) (numargs memout : ℕ) :
    MemM ρ (ℕ × Option Value) := do
  let args ← argMems index numargs
  let x ← recordCall L limit args memout (rpyfunc args.length) none
  return (0, x.2)

/-- `OP_Function`. A function that is not one in Python is left to `impl`. -/
def OP_Function (callables : κ → Callable ρ) (impl : Op → MemM ρ (ℕ × Option Value))
    (func : AbstractFunc κ γ) (op : Op) : MemM ρ (ℕ × Option Value) :=
  match func with
  | .RPyFunc _ _ rpyfunc => do
    let memout ← op.mem_of_p3
    call_in_python L limit (callables rpyfunc) op.p2 op.p5.toNat memout
  | _ => impl op

end RPyFunc

/-! ## One result -/

section result

variable {L : CLib ρ} {limit : ℤ} {m m' m'' : Machine ρ} {i j : ℕ} {c : Mem} {p p' : Mem} {r r' : ρ}

/-- A cell that has grown has its text in its own allocation. -/
theorem Mem.growFinish_own {bPreserve : Bool} (h : p.growFinish L bPreserve r = .ok (p', r')) :
    p'.z = .own := by
  unfold Mem.growFinish at h
  dsimp only at h
  split at h
  · by_cases hb : bPreserve = true
    · rw [if_pos hb] at h
      split_ifs at h <;>
      · obtain ⟨rfl, -⟩ := Prod.mk.inj (Except.ok.inj h)
        rfl
    · rw [if_neg hb] at h
      obtain ⟨rfl, -⟩ := Prod.mk.inj (Except.ok.inj h)
      rfl
  · obtain ⟨rfl, -⟩ := Prod.mk.inj (Except.ok.inj h)
    rfl

/-- A cell that is set to NULL has the flag. -/
theorem Mem.sqlite3VdbeMemSetNull_flags (p : Mem) (r : ρ) :
    (p.sqlite3VdbeMemSetNull L r).1.flags = MEM_Null := by
  unfold Mem.sqlite3VdbeMemSetNull Mem.vdbeMemClearExternAndSetNull
  split_ifs <;> rfl

/-- `sqlite3VdbeMemGrow` gives the cell an allocation of its own, or makes it NULL. -/
theorem Mem.sqlite3VdbeMemGrow_own {n : ℤ} {bPreserve : Bool} {rc : ℕ}
    (h : p.sqlite3VdbeMemGrow L n bPreserve r = .ok (rc, p', r')) :
    (rc = SQLITE_OK ∧ p'.z = .own) ∨ (rc = SQLITE_NOMEM ∧ p'.flags = MEM_Null) := by
  unfold Mem.sqlite3VdbeMemGrow at h
  split_ifs at h
  · cases halloc : p.growAlloc L (max n 32).toNat bPreserve r with
    | mk block r₁ =>
      rw [halloc] at h
      cases block with
      | none =>
        simp only [Except.ok.injEq, Prod.mk.injEq] at h
        obtain ⟨rfl, rfl, -⟩ := h
        exact Or.inr ⟨rfl, p.sqlite3VdbeMemSetNull_flags r₁⟩
      | some x =>
        obtain ⟨p₁, copy⟩ := x
        dsimp only at h
        cases hfin : p₁.growFinish L copy r₁ with
        | error e => rw [hfin] at h; cases h
        | ok y =>
          rw [hfin] at h
          obtain ⟨rfl, hy⟩ := Prod.mk.inj (Except.ok.inj h)
          exact Or.inl ⟨rfl, (congrArg (fun y => y.1.z) hy).symm.trans (Mem.growFinish_own hfin)⟩
  · cases hfin : p.growFinish L bPreserve r with
    | error e => rw [hfin] at h; cases h
    | ok y =>
      rw [hfin] at h
      obtain ⟨rfl, hy⟩ := Prod.mk.inj (Except.ok.inj h)
      exact Or.inl ⟨rfl, (congrArg (fun y => y.1.z) hy).symm.trans (Mem.growFinish_own hfin)⟩

/-- The value of NULL. -/
theorem Mem.value_of_null {c : Mem} (h : c.flags.has MEM_Null = true) : c.value = .null := by
  unfold Mem.value
  rw [if_pos h]

/-- The value of an integer. -/
theorem Mem.value_of_int {c : Mem} (h : c.flags = MEM_Int) : c.value = .int c.u_i := by
  simp [Mem.value, h]

/-- The value of a real. -/
theorem Mem.value_of_real {c : Mem} (h : c.flags = MEM_Real) : c.value = .real c.u_r := by
  simp [Mem.value, h]

/-- `sqlite3VdbeMemSetStr` sets the text, or NULL where memory runs out. A text that is too long
leaves the cell as it is. -/
theorem Mem.sqlite3VdbeMemSetStr_value {z : List Byte} (hz : z.length < 2^31) {rc : ℕ}
    (h : p.sqlite3VdbeMemSetStr L limit z z.length r = .ok (rc, p', r')) :
    p'.value = (Result.stored rc (.text z hz)).getD p.value := by
  have hn : ¬ ((z.length : ℤ) < 0) := by omega
  have hmax : (max (z.length : ℤ) 32).toNat = max z.length 32 := by omega
  have htake : (z ++ [0]).take (z.length : ℤ).toNat = z := by
    rw [Int.toNat_natCast]
    exact List.take_left
  unfold Mem.sqlite3VdbeMemSetStr at h
  simp only [if_neg hn, hmax, htake] at h
  unfold Result.stored
  -- A text that is too long is refused, and the cell keeps its value.
  split_ifs at h with hlimit
  · obtain ⟨rfl, hp⟩ := Prod.mk.inj (Except.ok.inj h)
    obtain ⟨rfl, -⟩ := Prod.mk.inj hp
    rfl
  · cases hresize : p.sqlite3VdbeMemClearAndResize L (max z.length 32) r with
    | error e => rw [hresize] at h; cases h
    | ok x =>
      obtain ⟨rc₁, p₁, r₁⟩ := x
      -- The cell gets a buffer of its own, or is NULL when there is no memory.
      have hown : (rc₁ = SQLITE_OK ∧ p₁.z = .own) ∨ (rc₁ = SQLITE_NOMEM ∧ p₁.flags = MEM_Null) := by
        unfold Mem.sqlite3VdbeMemClearAndResize at hresize
        split_ifs at hresize
        · exact Mem.sqlite3VdbeMemGrow_own hresize
        · obtain ⟨rfl, hp⟩ := Prod.mk.inj (Except.ok.inj hresize)
          obtain ⟨rfl, -⟩ := Prod.mk.inj hp
          exact Or.inl ⟨rfl, rfl⟩
      rw [hresize] at h
      simp only [bind, Except.bind] at h
      rcases hown with ⟨rfl, hown⟩ | ⟨rfl, hnull⟩
      · rw [if_neg (not_not.mpr rfl)] at h
        cases hwrite : p₁.writeOwn 0 z with
        | error e => rw [hwrite] at h; cases h
        | ok p₂ =>
          rw [hwrite] at h
          obtain ⟨rfl, hp⟩ := Prod.mk.inj (Except.ok.inj h)
          obtain ⟨rfl, -⟩ := Prod.mk.inj hp
          dsimp only
          rw [if_pos rfl, Option.getD_some]
          unfold Mem.writeOwn at hwrite
          split_ifs at hwrite with hfits
          obtain rfl := Except.ok.inj hwrite
          simp [Mem.value, Mem.fullBytes, Mem.bytes, Mem.buffer, hown]
      · rw [if_pos (by decide)] at h
        obtain ⟨rfl, hp⟩ := Prod.mk.inj (Except.ok.inj h)
        obtain ⟨rfl, -⟩ := Prod.mk.inj hp
        dsimp only
        rw [if_neg (by decide), if_pos rfl, Option.getD_some]
        exact Mem.value_of_null (by rw [hnull]; rfl)

/-- Nothing but cell `i` changes, and the cache knows nothing false of the flags. -/
structure Machine.OnlyCell (i : ℕ) (m m' : Machine ρ) : Prop where
  /-- The number of registers. -/
  nMem : m'.nMem = m.nMem
  /-- The number of cells. -/
  length : m'.mems.length = m.mems.length
  /-- The cache knows nothing false. -/
  related : ∃ s, Related m' s
  /-- The other cells. -/
  mems : ∀ j, j ≠ i → m'.mems[j]? = m.mems[j]?

/-- To touch nothing is to touch one cell only. -/
theorem Machine.Elsewhere.onlyCell (h : m.Elsewhere i m') : m.OnlyCell i m' :=
  ⟨h.nMem, h.length, h.related, h.mems⟩

/-- What follows from a run on the cells alone that replaces cell `i`. -/
theorem onlyCell_of_strict {s : Strict ρ} {q : MemM ρ α} {a b : α} {c' : Mem} {w : Member}
    (hR : Related m s) (hi : m.mems[i]? = some c)
    (hrun : run (strictMachine ρ) q s = .ok (a, { s.setMem i c' w with rest := r }))
    (h : run (machine ρ) q m = .ok (b, m')) :
    b = a ∧ m.OnlyCell i m' ∧ m'.mems[i]? = some c' := by
  obtain ⟨m₁, hrun₁, hR₁⟩ := run_machine_of_strict hR hrun
  obtain ⟨rfl, rfl⟩ := Prod.mk.inj (Except.ok.inj (h.symm.trans hrun₁))
  have hmems : m'.mems = m.mems.set i c' := by
    rw [hR₁.mems, hR.mems]
    rfl
  refine ⟨rfl, ⟨?_, ?_, ⟨_, hR₁⟩, fun j hj => ?_⟩, ?_⟩
  · rw [hR₁.nMem, hR.nMem]
    rfl
  · rw [hmems, List.length_set]
  · rw [hmems, List.getElem?_set_ne hj.symm]
  · rw [hmems, List.getElem?_set_self (List.getElem?_eq_some_iff.mp hi).1]

/-- `sqlite3VdbeMemSetNull` makes any cell NULL. -/
theorem run_sqlite3VdbeMemSetNull (L : CLib ρ) {s : Strict ρ} {w : Member} (hat : s.At i c w) :
    ∃ c' w' r, run (strictMachine ρ) (sqlite3VdbeMemSetNull L i) s =
      .ok ((), { s.setMem i c' w' with rest := r }) ∧ c'.flags.has MEM_Null = true := by
  cases hc : c.flags.has MEM_Frame || c.flags.has MEM_RowSet with
  | true =>
    refine ⟨(c.sqlite3VdbeMemSetNull L s.rest).1, .foreign, (c.sqlite3VdbeMemSetNull L s.rest).2,
      ?_, ?_⟩
    · unfold sqlite3VdbeMemSetNull
      rw [run_bind_ok hat.run_get_flags, run_bind_ok hat.run_get_flags, hc, if_pos rfl]
      exact hat.run_c_mem rfl
    · rw [Mem.sqlite3VdbeMemSetNull_flags]
      rfl
  | false =>
    rw [Bool.or_eq_false_iff] at hc
    refine ⟨_, _, s.rest, hat.run_sqlite3VdbeMemSetNull L hc.1 hc.2, ?_⟩
    show (withTypeFlag c.flags MEM_Null).has MEM_Null = true
    unfold withTypeFlag
    rw [Flags.has_or_left]
    exact Bool.or_eq_true_iff.mpr (Or.inr rfl)

/-- Setting a result replaces the value of the output register, and changes no other one. -/
theorem setResult_spec {x : Result} {rc : ℕ} (hR : ∃ s, Related m s) (hi : m.mems[i]? = some c)
    (h : run (machine ρ) (setResult L limit i x) m = .ok (rc, m')) :
    m.OnlyCell i m' ∧ ∃ c', m'.mems[i]? = some c' ∧ c'.value = (x.stored rc).getD c.value := by
  have hR' := hR
  obtain ⟨s, hR⟩ := hR
  -- The cell's value is followed in the strict machine, where no cache can hide it.
  have hat : s.At i c (s.written i) := ⟨hR.mems ▸ hi, rfl⟩
  obtain ⟨c₀, w₀, r₀, hnull, hc₀⟩ := run_sqlite3VdbeMemSetNull L hat
  cases x with
  | int64 val =>
    have hrun : run (strictMachine ρ) (setResult L limit i (.int64 val)) s = .ok (SQLITE_OK, _) :=
      run_bind_ok (hat.run_sqlite3VdbeMemSetInt64 L val.toInt false) _
    obtain ⟨-, honly, hmem⟩ := onlyCell_of_strict hR hi hrun h
    refine ⟨honly, _, hmem, (Mem.value_of_int rfl).trans ?_⟩
    unfold Mem.u_i
    rw [BitVec.ofInt_toInt]
    rfl
  | double val =>
    -- A NaN is stored as NULL.
    cases hnan : val.isNaN with
    | false =>
      have hrun : run (strictMachine ρ) (setResult L limit i (.double val)) s = .ok (SQLITE_OK, _) :=
        run_bind_ok (hat.run_sqlite3VdbeMemSetDouble L hnan) _
      obtain ⟨-, honly, hmem⟩ := onlyCell_of_strict hR hi hrun h
      refine ⟨honly, _, hmem, (Mem.value_of_real rfl).trans ?_⟩
      unfold Result.stored
      dsimp only
      rw [hnan, Option.getD_some, if_neg Bool.false_ne_true]
      rfl
    | true =>
      have hset : run (strictMachine ρ) (sqlite3VdbeMemSetDouble L i val) s =
          .ok ((), { s.setMem i c₀ w₀ with rest := r₀ }) := by
        unfold sqlite3VdbeMemSetDouble
        rw [if_pos hnan]
        exact hnull
      have hrun : run (strictMachine ρ) (setResult L limit i (.double val)) s = .ok (SQLITE_OK,
          { s.setMem i c₀ w₀ with rest := r₀ }) := run_bind_ok hset _
      obtain ⟨-, honly, hmem⟩ := onlyCell_of_strict hR hi hrun h
      refine ⟨honly, _, hmem, ?_⟩
      unfold Result.stored
      dsimp only
      rw [hnan, Option.getD_some, if_pos rfl]
      exact Mem.value_of_null hc₀
  | null =>
    have hrun : run (strictMachine ρ) (setResult L limit i .null) s = .ok (SQLITE_OK,
        { s.setMem i c₀ w₀ with rest := r₀ }) := run_bind_ok hnull _
    obtain ⟨-, honly, hmem⟩ := onlyCell_of_strict hR hi hrun h
    exact ⟨honly, _, hmem, Mem.value_of_null hc₀⟩
  | text z hz =>
    -- The text is stored by the C routine alone, which keeps to the cell.
    have hcell : (setResult L limit i (.text z hz)).All (MemCmd.OnCell i) := Prog.All.perform rfl
    have helsewhere := Machine.run_elsewhere hcell hR' h
    refine ⟨helsewhere.onlyCell, ?_⟩
    unfold setResult c_mem at h
    rw [run_perform, machine] at h
    unfold Machine.atMem at h
    rw [hi] at h
    dsimp only at h
    cases hset : c.sqlite3VdbeMemSetStr L limit z z.length m.rest with
    | error e => rw [hset] at h; cases h
    | ok x =>
      obtain ⟨rc', c', r'⟩ := x
      rw [hset] at h
      obtain ⟨rfl, rfl⟩ := Prod.mk.inj (Except.ok.inj h)
      exact ⟨c', List.getElem?_set_self (List.getElem?_eq_some_iff.mp hi).1,
        Mem.sqlite3VdbeMemSetStr_value hz hset⟩

end result

/-! ## A call -/

section call

variable {L : CLib ρ} {limit : ℤ} {m m' : Machine ρ} {args : List ℕ} {memout : ℕ} {v : Value}

/-- After a call, or a part of one: the output register holds the value that was set last, or still
the value `v`, and only the arguments have changed besides. -/
structure Called (args : List ℕ) (memout : ℕ) (v : Value) (m m' : Machine ρ) (last : Option Value) :
    Prop where
  /-- The cache knows nothing false. -/
  related : ∃ s, Related m' s
  /-- The number of registers. -/
  nMem : m'.nMem = m.nMem
  /-- The number of cells. -/
  length : m'.mems.length = m.mems.length
  /-- The output holds the last result, if there was one. -/
  value : ∃ c, m'.mems[memout]? = some c ∧ c.value = last.getD v
  /-- The other cells. -/
  mems : ∀ j, j ≠ memout → j ∉ args → m'.mems[j]? = m.mems[j]?

/-- One call after the other. -/
theorem Called.trans {m'' : Machine ρ} {last last' : Option Value}
    (h : Called args memout v m m' last) (h' : Called args memout v m' m'' last') :
    Called args memout v m m'' last' where
  related := h'.related
  nMem := h'.nMem.trans h.nMem
  length := h'.length.trans h.length
  value := h'.value
  mems j hj hargs := (h'.mems j hj hargs).trans (h.mems j hj hargs)

/-- A step that leaves the output register alone. -/
theorem Called.beside {last : Option Value} {i : ℕ} (h : m.OnlyCell i m') (hi : i ∈ args)
    (hmemout : memout ∉ args) (hv : ∃ c, m.mems[memout]? = some c ∧ c.value = last.getD v) :
    Called args memout v m m' last where
  related := h.related
  nMem := h.nMem
  length := h.length
  value := by
    obtain ⟨c, hc, hv⟩ := hv
    refine ⟨c, (h.mems memout ?_).trans hc, hv⟩
    rintro rfl
    exact hmemout hi
  mems j _ hj := h.mems j (by rintro rfl; exact hj hi)

/-- The induction is over the program of the callable. -/
theorem recordCall_spec (hmemout : memout ∉ args) (p : Prog (FuncCmd ρ) α) {last last' : Option Value}
    {a : α} (hR : ∃ s, Related m s) (hv : ∃ c, m.mems[memout]? = some c ∧ c.value = last.getD v)
    (h : run (machine ρ) (recordCall L limit args memout p last) m = .ok ((a, last'), m')) :
    Called args memout v m m' last' := by
  -- The induction is on the callable's program, with the result it last set general.
  induction p generalizing m last with
  | ret b =>
    unfold recordCall at h
    rw [run_pure] at h
    simp only [Except.ok.injEq, Prod.mk.injEq] at h
    obtain ⟨⟨-, rfl⟩, rfl⟩ := h
    exact ⟨hR, rfl, rfl, hv, fun _ _ _ => rfl⟩
  | cmd c rest ih =>
    cases c with
    | method k method =>
      unfold recordCall at h
      obtain ⟨b, m₁, h₁, h₂⟩ := run_bind_eq_ok.mp h
      have hcalled : Called args memout v m m₁ last := by
        unfold callMethod at h₁
        -- A method reads its argument and may convert it, but not the result's cell.
        cases harg : args[k]? with
        | none => rw [harg] at h₁; cases h₁
        | some arg =>
          rw [harg] at h₁
          exact Called.beside (Machine.run_elsewhere (method.onCell arg) hR h₁).onlyCell
            (List.mem_of_getElem? harg) hmemout hv
      exact hcalled.trans (ih b hcalled.related hcalled.value h₂)
    | result r =>
      unfold recordCall at h
      obtain ⟨rc, m₁, h₁, h₂⟩ := run_bind_eq_ok.mp h
      have hcalled : Called args memout v m m₁ ((r.stored rc).or last) := by
        obtain ⟨c, hc, hv⟩ := hv
        -- A result that is stored is the last one now.
        obtain ⟨honly, c', hc', hv'⟩ := setResult_spec hR hc h₁
        refine ⟨honly.related, honly.nMem, honly.length, ⟨c', hc', ?_⟩, fun j hj _ => honly.mems j hj⟩
        rw [hv', hv]
        cases r.stored rc <;> rfl
      exact hcalled.trans (ih () hcalled.related hcalled.value h₂)
    | python step =>
      unfold recordCall at h
      obtain ⟨b, m₁, h₁, h₂⟩ := run_bind_eq_ok.mp h
      have hcalled : Called args memout v m m₁ last := by
        -- The callable's own Python code touches no cell. A cell that does not exist says so for
        -- all of them.
        have hcell : (other step : MemM ρ _).All (MemCmd.OnCell m.mems.length) :=
          Prog.All.perform trivial
        have helsewhere : m.Elsewhere m.mems.length m₁ := Machine.run_elsewhere hcell hR h₁
        have hmems : ∀ j : ℕ, m₁.mems[j]? = m.mems[j]? := by
          intro j
          by_cases hj : j = m.mems.length
          · rw [hj, List.getElem?_eq_none le_rfl,
              List.getElem?_eq_none (le_of_eq helsewhere.length)]
          · exact helsewhere.mems j hj
        obtain ⟨c, hc, hv⟩ := hv
        exact ⟨helsewhere.related, helsewhere.nMem, helsewhere.length,
          ⟨c, (hmems memout).trans hc, hv⟩, fun j _ _ => hmems j⟩
      exact hcalled.trans (ih b hcalled.related hcalled.value h₂)

/-- The arguments are the cells of their registers. -/
theorem run_argMems {index : ℤ} {numargs : ℕ}
    (h : run (machine ρ) (argMems index numargs) m = .ok (args, m')) :
    m' = m ∧ ∀ j ∈ args, ∃ k < numargs, Machine.memIndex m.mems.length m.nMem (index + k) = .ok j := by
  have hlist : ∀ (l : List ℕ) (args : List ℕ) (m' : Machine ρ),
      run (machine ρ) (l.mapM fun i : ℕ => mem_with_index (index + i)) m = .ok (args, m') →
      m' = m ∧ ∀ j ∈ args, ∃ k ∈ l, Machine.memIndex m.mems.length m.nMem (index + k) = .ok j := by
    intro l
    induction l with
    | nil =>
      intro args m' h
      rw [List.mapM_nil, run_pure] at h
      simp only [Except.ok.injEq, Prod.mk.injEq] at h
      obtain ⟨rfl, rfl⟩ := h
      exact ⟨rfl, fun j hj => absurd hj List.not_mem_nil⟩
    | cons k l ih =>
      intro args m' h
      rw [List.mapM_cons] at h
      obtain ⟨i, m₁, h₁, hrest⟩ := run_bind_eq_ok.mp h
      obtain ⟨is, m₂, h₂, h₃⟩ := run_bind_eq_ok.mp hrest
      rw [run_pure] at h₃
      simp only [Except.ok.injEq, Prod.mk.injEq] at h₃
      obtain ⟨rfl, rfl⟩ := h₃
      unfold mem_with_index at h₁
      rw [run_perform, machine] at h₁
      cases hindex : Machine.memIndex m.mems.length m.nMem (index + k) with
      | error e => rw [hindex] at h₁; cases h₁
      | ok i' =>
        rw [hindex] at h₁
        obtain ⟨rfl, rfl⟩ := Prod.mk.inj (Except.ok.inj h₁)
        obtain ⟨rfl, hmem⟩ := ih is m₂ h₂
        refine ⟨rfl, fun j hj => ?_⟩
        rcases List.mem_cons.mp hj with rfl | hj
        · exact ⟨k, List.mem_cons_self, hindex⟩
        · obtain ⟨k', hk', hj⟩ := hmem j hj
          exact ⟨k', List.mem_cons_of_mem k hk', hj⟩
  unfold argMems at h
  obtain ⟨rfl, hmem⟩ := hlist _ _ _ h
  refine ⟨rfl, fun j hj => ?_⟩
  obtain ⟨k, hk, hj⟩ := hmem j hj
  exact ⟨k, List.mem_range.mp hk, hj⟩

end call

/-! ## The opcode -/

section opcode

variable {L : CLib ρ} {limit : ℤ} {m m' : Machine ρ} {op : Op}

/-- What `impl_OP_Function` asserts of the registers: the output is none of the arguments. -/
structure FunctionRegisters (m : Machine ρ) (op : Op) : Prop where
  /-- The cache knows nothing false of the flags. -/
  related : ∃ s, Related m s
  /-- The output is a register. -/
  output : IsRegister m.mems.length m.nMem op.p3
  /-- So is the first argument, if there is one. -/
  arguments : 0 ≤ op.p2
  /-- The output is not an argument. -/
  disjoint : op.p3 < op.p2 ∨ op.p2 + op.p5.toNat ≤ op.p3

/-- The value of register `p`. -/
def valueAt (m : Machine ρ) (p : ℤ) : Option Value := m.mems[p.toNat]?.map Mem.value

/-- What a call of a function in Python leaves. -/
theorem OP_Function_called {callables : κ → Callable ρ} {impl : Op → MemM ρ (ℕ × Option Value)}
    {name : List Byte} {nArg : ℤ} {rpyfunc : κ} {rc : ℕ} {last : Option Value}
    (hregs : FunctionRegisters m op)
    (hrun : run (machine ρ) (RPyFunc.OP_Function (γ := γ) L limit callables impl
      (.RPyFunc name nArg rpyfunc) op) m = .ok ((rc, last), m')) :
    ∃ args v, valueAt m op.p3 = some v ∧ Called args op.p3.toNat v m m' last ∧
      ∀ j ∈ args, ∃ k < op.p5.toNat, (j : ℤ) = op.p2 + k := by
  unfold RPyFunc.OP_Function at hrun
  obtain ⟨memout, m₁, h₁, h₂⟩ := run_bind_eq_ok.mp hrun
  unfold Op.mem_of_p3 at h₁
  rw [Machine.run_mem_with_index hregs.output.memIndex_eq] at h₁
  obtain ⟨rfl, rfl⟩ := Prod.mk.inj (Except.ok.inj h₁)
  unfold RPyFunc.call_in_python at h₂
  obtain ⟨args, m₂, hargMems, hcall⟩ := run_bind_eq_ok.mp h₂
  obtain ⟨rfl, hargs⟩ := run_argMems hargMems
  obtain ⟨x, m₃, h₃, h₄⟩ := run_bind_eq_ok.mp hcall
  rw [run_pure] at h₄
  simp only [Except.ok.injEq, Prod.mk.injEq] at h₄
  obtain ⟨⟨-, rfl⟩, rfl⟩ := h₄
  have hargs' : ∀ j ∈ args, ∃ k < op.p5.toNat, (j : ℤ) = op.p2 + k := by
    intro j hj
    obtain ⟨k, hk, hindex⟩ := hargs j hj
    have h0 := hregs.arguments
    refine ⟨k, hk, ?_⟩
    unfold Machine.memIndex pyIndex at hindex
    split_ifs at hindex
    · obtain rfl := Except.ok.inj hindex
      omega
    · omega
  obtain ⟨c, hc⟩ : ∃ c, m₂.mems[op.p3.toNat]? = some c :=
    ⟨_, List.getElem?_eq_getElem hregs.output.lt⟩
  refine ⟨args, c.value, ?_, ?_, hargs'⟩
  · unfold valueAt
    rw [hc, Option.map_some]
  · refine recordCall_spec (fun hmem => ?_) _ hregs.related ⟨c, hc, rfl⟩ h₃
    obtain ⟨k, hk, hj⟩ := hargs' _ hmem
    have h0 := hregs.output.1
    have hdisjoint := hregs.disjoint
    omega

/-- After `OP_Function` with a callable, the output register holds what the call determines exactly if
the callable set a value, or the register was NULL before. So it is with two calls that set the same.
In any case no other register but the arguments changes, and the cached flags are right. -/
theorem pythonResult_iff {callables : κ → Callable ρ} {impl : Op → MemM ρ (ℕ × Option Value)}
    {name : List Byte} {nArg : ℤ} {rpyfunc : κ} {rc : ℕ} {last : Option Value}
    (hregs : FunctionRegisters m op)
    (hrun : run (machine ρ) (RPyFunc.OP_Function (γ := γ) L limit callables impl
      (.RPyFunc name nArg rpyfunc) op) m = .ok ((rc, last), m')) :
    (valueAt m' op.p3 = some (last.getD .null) ↔
      last.isSome = true ∨ valueAt m op.p3 = some .null) ∧
    (∀ m₂ m₂' rc₂, FunctionRegisters m₂ op →
      run (machine ρ) (RPyFunc.OP_Function (γ := γ) L limit callables impl
        (.RPyFunc name nArg rpyfunc) op) m₂ = .ok ((rc₂, last), m₂') →
      (valueAt m₂' op.p3 = valueAt m' op.p3 ↔
        last.isSome = true ∨ valueAt m₂ op.p3 = valueAt m op.p3)) ∧
    (∀ j : ℕ, (j : ℤ) ≠ op.p3 → (∀ k < op.p5.toNat, (j : ℤ) ≠ op.p2 + k) →
      m'.mems[j]? = m.mems[j]?) ∧
    ∀ c, m'.mems[op.p3.toNat]? = some c →
      m'.cache.cache_state.is_flag_known op.p3.toNat = true →
      m'.cache.cache_state.flagsAt op.p3.toNat = c.flags := by
  obtain ⟨args, v, hv, hcalled, hargs⟩ := OP_Function_called hregs hrun
  have hafter : ∀ {m m' : Machine ρ} {args v}, valueAt m op.p3 = some v →
      Called args op.p3.toNat v m m' last → valueAt m' op.p3 = some (last.getD v) := by
    intro m m' args v _ h
    obtain ⟨c, hc, hvalue⟩ := h.value
    unfold valueAt
    rw [hc, Option.map_some, hvalue]
  refine ⟨?_, fun m₂ m₂' rc₂ hregs₂ hrun₂ => ?_, fun j hj hjargs => ?_, fun c hc hknown => ?_⟩
  · rw [hafter hv hcalled, hv]
    cases last with
    | some x => exact ⟨fun _ => Or.inl rfl, fun _ => rfl⟩
    | none => exact ⟨Or.inr, fun h => h.resolve_left Bool.false_ne_true⟩
  · obtain ⟨args₂, v₂, hv₂, hcalled₂, -⟩ := OP_Function_called hregs₂ hrun₂
    rw [hafter hv hcalled, hafter hv₂ hcalled₂, hv, hv₂]
    cases last with
    | some x => exact ⟨fun _ => Or.inl rfl, fun _ => rfl⟩
    | none => exact ⟨Or.inr, fun h => h.resolve_left Bool.false_ne_true⟩
  · have h0 := hregs.output.1
    refine hcalled.mems j (by omega) fun hmem => ?_
    obtain ⟨k, hk, hjk⟩ := hargs j hmem
    exact hjargs k hk hjk
  · obtain ⟨s, hR⟩ := hcalled.related
    have hslot := hR.slots op.p3.toNat c (hR.mems ▸ hc)
    exact hslot.flags ((Cache.is_flag_known_iff _ _).mp hknown)

/-- The type of an argument. -/
def valueTypeMethod : CellMethod ρ ℕ where
  call := sqlite3_value_type
  onCell _ := (Prog.All.perform rfl).bind fun _ => Prog.All.pure _

/-- A callable that sets 5 unless its argument is NULL. -/
def fiveUnlessNull : Callable Unit := fun _ => do
  let eType ← Prog.perform (.method 0 valueTypeMethod)
  if eType ≠ SQLITE_NULL then Prog.perform (.result (.int64 5#64))

/-- A call of `fiveUnlessNull` on the register 1, with its result in the register 2. -/
def callFive (m : Machine Unit) : Except Exc ((ℕ × Option Value) × Machine Unit) :=
  run (machine Unit) (RPyFunc.OP_Function (κ := Unit) (γ := Unit) CLib.decimal SQLITE_MAX_LENGTH
    (fun _ => fiveUnlessNull) (fun _ => throwExc .attribute) (.RPyFunc [] 1 ())
    ⟨.Function, 0, 1, 2, .NOTUSED, 1#8⟩) m

/-- A row with the argument `arg`, and `out` in the output register. -/
def functionRow (arg out : Mem) : Machine Unit := Machine.fresh [Mem.ofNull, arg, out, Mem.ofNull] 2 ()

/-- The registers of a call. -/
theorem functionRow_registers (arg out : Mem) :
    FunctionRegisters (functionRow arg out) ⟨.Function, 0, 1, 2, .NOTUSED, 1#8⟩ := by
  obtain ⟨written, hR, -⟩ := Machine.Sound.fresh [Mem.ofNull, arg, out, Mem.ofNull] 2 ()
  have hout : IsRegister 4 2 2 := by decide
  exact ⟨⟨_, hR⟩, hout, by decide, Or.inr (by decide)⟩

/-- On the integer 1 it sets 5. -/
theorem pythonResult_five : ∃ m', callFive (functionRow (Mem.ofInt 1) Mem.ofNull) =
    .ok ((0, some (.int 5)), m') ∧ valueAt m' 2 = some (.int 5) := by
  obtain ⟨m', hrun⟩ : ∃ m', callFive (functionRow (Mem.ofInt 1) Mem.ofNull) =
      .ok ((0, some (.int 5)), m') := ⟨_, rfl⟩
  exact ⟨m', hrun, (pythonResult_iff (functionRow_registers _ _) hrun).1.mpr (Or.inl rfl)⟩

/-- On NULL it sets nothing, and the 5 of the row before stays. -/
theorem not_pythonResult_null : ∃ m', callFive (functionRow Mem.ofNull (Mem.ofInt 5)) =
    .ok ((0, none), m') ∧ valueAt m' 2 ≠ some .null := ⟨_, rfl, by decide⟩

end opcode

end SQPyte
