import SQPyte.Mem.Results
import SQPyte.Vdbe.Calls

/-!
# Binding parameters

A parameter is to hold the value of the last bind with its index that succeeded, and a bind that
fails is to change no parameter. `Ledger` runs a query along a sequence of binds and notes these
values.

`vdbeUnbind` of the Python code makes a parameter NULL before it finds out that the bind fails. It
takes an index of at most 0 for one that counts from the last parameter, and it raises an exception
for a parameter in the mask `expmask`. Beyond the 32nd parameter it does not look at the mask at
all. `BindSafe` is the condition on a bind under which this does no harm. As long as all binds meet
it, the parameters hold what was bound, and `OP_Variable` delivers it (`parametersRight_of_each`).
-/

namespace SQPyte

open Commands

/-- A value for a parameter. -/
inductive Bound where
  | null
  | int (val : BitVec 64)
  | real (val : Binary64)
  | text (s : List Byte)

/-- A call of a method that binds. -/
structure Binding where
  /-- The index of the parameter. -/
  i : ℤ
  /-- The value. -/
  value : Bound

variable {κ : Type} (B : Backend κ)

/-- The call. -/
def Query.bind (q : Query κ) (b : Binding) : Except Exc ℕ × Query κ :=
  match b.value with
  | .null => q.call (bind_null B b.i)
  | .int val => q.call (bind_int64 B b.i val)
  | .real val => q.call (bind_double B b.i val)
  | .text s => q.bind_str B b.i s

/-- The method that is called. -/
def Binding.method (b : Binding) : Method :=
  match b.value with
  | .null => .bind_null b.i
  | .int val => .bind_int64 b.i val
  | .real val => .bind_double b.i val
  | .text s => .bind_str b.i s

/-- A bind is a call of its method. -/
theorem bind_eq_invoke (q : Query κ) (b : Binding) :
    (q.bind B b).2 = (q.invoke B b.method).2 := by
  unfold Query.bind Binding.method
  cases b.value <;> rfl

/-- The bind returned `SQLITE_OK`. -/
def Succeeds : Except Exc ℕ → Bool
  | .ok rc => rc == SQLITE_OK
  | .error _ => false

/-- `nVar`, the number of parameters. -/
def Query.nVar (q : Query κ) : ℕ := q.machine.mems.length - (q.machine.nMem + 1)

/-- The cell of the parameter with the index `i`, from 1 on. -/
def Query.param (q : Query κ) (i : ℕ) : Option Mem := q.machine.mems[q.machine.nMem + i]?

/-- A bind of the parameter with the index `i`, from 1 on, invalidates the plan. -/
def Vdbe.covers (p : Vdbe) (i : ℕ) : Bool :=
  (i ≤ 32 && p.expmask.getLsbD (i - 1)) || p.expmask == 0xffffffff#32

/-! ## What a parameter holds -/

/-- The flags without those that say how a text is stored. -/
def Flags.stored (f : Flags) : Flags := f &&& ~~~(MEM_Term ||| MEM_Static)

/-- The text `s` as it is copied from the caller. -/
structure Mem.IsCopy (s : List Byte) (c : Mem) : Prop where
  /-- It is a text. -/
  flags : c.flags = MEM_Str
  /-- All of it. -/
  n : c.n = s.length
  /-- Its bytes. -/
  bytes : c.bytes = s
  /-- Its encoding. -/
  enc : c.enc = SQLITE_UTF8

/-- What the translation of a text leaves: a text, terminated or not. -/
def TranslatesText (L : CLib κ) : Prop :=
  ∀ enc p r, p.flags = MEM_Str → (L.translate enc p r).1.enc = enc →
    (L.translate enc p r).1.flags.stored = MEM_Str

/-- The cell holds the value. A NaN is NULL, and a text has the encoding of the database. -/
def Bound.Held (c : Mem) : Bound → Prop
  | .null => c.flags.stored = MEM_Null
  | .int val => c.flags.stored = MEM_Int ∧ c.u = val
  | .real val =>
    if val.isNaN then c.flags.stored = MEM_Null else c.flags.stored = MEM_Real ∧ c.u = val
  | .text s => c.flags.stored = MEM_Str ∧ c.enc = B.enc ∧ ∃ (d : Mem) (w : κ), d.IsCopy s ∧
      c.n = (d.sqlite3VdbeChangeEncoding B.lib B.enc w).1.n ∧
      c.bytes = (d.sqlite3VdbeChangeEncoding B.lib B.enc w).1.bytes

/-- `OP_Variable` gives the value in the parameter `c` with the index `i` to every register, unless
the encoding of the database makes it too big. -/
def Delivered (c : Mem) (i : ℕ) (v : Bound) : Prop :=
  ∀ (m : Machine (Env κ)) (op : Op) (pc rc k : ℕ), m.toWorld.Sound → 1 ≤ i →
    m.mems[m.nMem + i]? = some c → op.p1 = i →
    Machine.memIndex m.mems.length m.nMem op.p2 = .ok k → c.n ≤ B.limit →
    ∃ m' c', run (machine (Env κ)) (OP_Variable B m.nMem pc rc op) m = .ok ((pc + 1, rc), m') ∧
      m'.mems[k]? = some c' ∧ v.Held B c'

/-! ## The ledger -/

/-- A query, with the value of the last successful bind of each parameter. -/
structure Ledger (κ : Type) where
  /-- The query. -/
  query : Query κ
  /-- The values. -/
  last : ℕ → Bound

/-- A bind. -/
def Ledger.step (l : Ledger κ) (b : Binding) : Option (Ledger κ) :=
  let r := l.query.bind B b
  some ⟨r.2, if Succeeds r.1 then Function.update l.last b.i.toNat b.value else l.last⟩

/-- Every parameter holds the value that the ledger has for it. -/
def ParametersHeld (l : Ledger κ) : Prop :=
  ∀ i, 1 ≤ i → i ≤ l.query.nVar → ∃ c, l.query.param i = some c ∧ (l.last i).Held B c

/-- Every parameter holds the value that the ledger has for it, and `OP_Variable` delivers it. -/
def ParametersRight (l : Ledger κ) : Prop :=
  ∀ i, 1 ≤ i → i ≤ l.query.nVar → ∃ c, l.query.param i = some c ∧ (l.last i).Held B c ∧
    Delivered B c i (l.last i)

/-- The parameter is as it was. A NULL may lose a buffer that an earlier value left. -/
def SameParameter (c c' : Mem) : Prop := c' = c ∨ c.flags = MEM_Null ∧ c'.flags = MEM_Null

/-- The parameter with the index `i` is as it was. -/
def Query.KeepsParam (q q' : Query κ) (i : ℕ) : Prop :=
  ∀ c, q.param i = some c → ∃ c', q'.param i = some c' ∧ SameParameter c c'

/-- What is to hold of one bind. -/
structure BindRight (q : Query κ) (b : Binding) : Prop where
  /-- An index out of range fails. -/
  range : b.i ≤ 0 ∨ q.nVar < b.i → Succeeds (q.bind B b).1 = false
  /-- A bind on a busy statement fails. -/
  busy : q.machine.rest.p.busy = true → Succeeds (q.bind B b).1 = false
  /-- A bind that fails changes no parameter and does not let the plan expire. -/
  failed : Succeeds (q.bind B b).1 = false → (∀ i, 1 ≤ i → q.KeepsParam (q.bind B b).2 i) ∧
    (q.bind B b).2.machine.rest.p.expired = q.machine.rest.p.expired
  /-- A bind changes no other parameter. -/
  others : ∀ i : ℕ, 1 ≤ i → (i : ℤ) ≠ b.i → q.KeepsParam (q.bind B b).2 i
  /-- A bind that invalidates the plan fails or lets the plan expire. -/
  reported : q.machine.rest.p.busy = false → 1 ≤ b.i → b.i ≤ q.nVar →
    q.machine.rest.p.covers b.i.toNat = true →
    Succeeds (q.bind B b).1 = false ∨ (q.bind B b).2.machine.rest.p.expired = true

/-! ## The condition -/

/-- The cell with the text `s` in the allocation `block`. -/
def Mem.withText (s block : List Byte) (c : Mem) : Mem :=
  { c with flags := MEM_Str, n := s.length, z := .own, enc := SQLITE_UTF8
           zMalloc := s ++ block.drop s.length, szMalloc := block.length }

/-- The text is within the limit, and memory lasts to store it in the parameter `c` and to give it
the encoding of the database. -/
def TextFits (s : List Byte) (c : Mem) (w : κ) : Prop :=
  s.length ≤ B.limit ∧ ∃ block w', max s.length 32 ≤ block.length ∧
    B.lib.malloc (max s.length 32) (c.sqlite3VdbeMemRelease B.lib w).2 = (some block, w') ∧
    let x := ((c.sqlite3VdbeMemRelease B.lib w).1.withText s block).sqlite3VdbeChangeEncoding
      B.lib B.enc w'
    x.1.enc = B.enc ∧ B.mallocFailed x.2 = false

/-- The text is beyond the limit, or there is no memory for it. -/
def TextRefused (s : List Byte) (c : Mem) (w : κ) : Prop :=
  B.limit < s.length ∨
    (B.lib.malloc (max s.length 32) (c.sqlite3VdbeMemRelease B.lib w).2).1 = none

/-- The condition on a text for the parameter `c` with the index `i`. -/
def SafeText (q : Query κ) (i : ℕ) (c : Mem) (s : List Byte) : Prop :=
  s.length < 2^31 ∧ (TextFits B s c q.machine.rest.world ∨
    (TextRefused B s c q.machine.rest.world ∧ c.flags = MEM_Null ∧
      (q.machine.rest.p.covers i = true → q.machine.rest.p.expired = true)))

/-- The condition on another value for it. -/
def SafeValue (q : Query κ) (i : ℕ) (c : Mem) : Prop :=
  q.machine.rest.p.covers i = true →
    if i ≤ 32 then c.flags = MEM_Null else q.machine.rest.p.expired = true

/-- The bind does no harm. For a text the index is an `int`. For another value, an index `i` of at
most 0 stands for the parameter `nVar + i`, if there is one. -/
def BindSafe (q : Query κ) (b : Binding) : Prop :=
  q.machine.rest.p.busy = true ∨
    match b.value with
    | .text s => cInt b.i < 1 ∨ q.nVar < cInt b.i ∨
        (cInt b.i = b.i ∧ ∀ c, q.param b.i.toNat = some c → SafeText B q b.i.toNat c s)
    | _ => if 1 ≤ b.i then b.i ≤ q.nVar → ∀ c, q.param b.i.toNat = some c → SafeValue q b.i.toNat c
        else 1 ≤ q.nVar + b.i → ∀ c, q.param (q.nVar + b.i).toNat = some c → c.flags = MEM_Null

/-- No call of `mainloop` is on the way, and the cache of a statement that is not busy knows nothing
false. -/
structure Query.Idle (q : Query κ) : Prop where
  /-- The statement is between two calls. -/
  control : ∃ last, q.control = .outside last
  /-- The cache is too. -/
  mode : q.machine.cache.InMode false
  /-- The registers are there. -/
  nMem : q.machine.nMem < q.machine.mems.length
  /-- The cache knows nothing false. -/
  sound : q.machine.rest.p.busy = false → q.machine.toWorld.Sound

variable {B}

/-! ## The methods of Python -/

/-- What `checkExpmask` makes of the mask. -/
def expmaskAnswer (i : ℤ) (expmask : BitVec 32) : Except Exc Unit :=
  if i < 32 then
    if i < 0 then .error .value
    else if expmask.getLsbD i.toNat || expmask == 0xffffffff#32 then .error .sqpyte
    else .ok ()
  else .ok ()

/-- What `checkExpmask` answers. -/
theorem runTo_checkExpmask (i : ℤ) (expmask : BitVec 32) (m : Machine (Env κ)) :
    runTo (machine (Env κ)) (checkExpmask i expmask) m = (expmaskAnswer i expmask, m) := by
  unfold checkExpmask expmaskAnswer
  split_ifs <;> rfl

/-- A program on the world that the strict machine does not refuse. -/
theorem runTo_onWorld_of_strict {α : Type} {p : MemM κ α} {m : Machine (Env κ)} {s s' : Strict κ}
    {a : α} (hR : Related m.toWorld s) (h : run (strictMachine κ) p s = .ok (a, s')) :
    ∃ m', runTo (machine (Env κ)) (onWorld p) m = (.ok a, m') ∧ Related m'.toWorld s' ∧
      m'.mems = s'.mems ∧ m'.rest.fields = m.rest.fields := by
  obtain ⟨m₁, hrun, hR'⟩ := run_machine_of_strict hR h
  refine ⟨m₁.inEnv m.rest, ?_, hR', hR'.mems, rfl⟩
  rw [runTo_onWorld, runTo_of_run hrun]

/-- Setting flags is a program on the cells. -/
theorem set_flags_onWorld (i : ℕ) (f : Flags) :
    (set_flags i f : MemM (Env κ) Unit) = onWorld (set_flags i f) := rfl

/-- On a statement that is not busy, `vdbeUnbind` makes its parameter NULL and looks at the mask
after that. -/
theorem runTo_vdbeUnbind {m : Machine (Env κ)} {s : Strict κ} {i : ℤ} {k : ℕ} {c : Mem} {w : Member}
    (hR : Related m.toWorld s) (hbusy : m.rest.p.busy = false)
    (hk : Machine.varIndex m.mems.length m.nMem (i - 1) = .ok k) (hc : s.At k c w) :
    ∃ m' c' w' r', runTo (machine (Env κ)) (vdbeUnbind B i) m =
        (expmaskAnswer (i - 1) m.rest.p.expmask, m') ∧
      Related m'.toWorld { s.setMem k c' w' with rest := r' } ∧ c'.flags = MEM_Null ∧
      m'.mems = m.mems.set k c' ∧ m'.nMem = m.nMem ∧ m'.rest.fields = m.rest.fields := by
  obtain ⟨w', hrelease⟩ := hc.run_sqlite3VdbeMemRelease B.lib
  obtain ⟨m₁, hrun₁, hR₁, -, hfields₁⟩ := runTo_onWorld_of_strict hR hrelease
  have hat : Strict.At { s.setMem k (c.released B.lib s.rest).1 w' with
    rest := (c.released B.lib s.rest).2 } k (c.released B.lib s.rest).1 w' := hc.setMem _ w'
  obtain ⟨m₂, hrun₂, hR₂, hmems₂, hfields₂⟩ :=
    runTo_onWorld_of_strict hR₁ (hat.run_set_flags MEM_Null)
  refine ⟨m₂, { (c.released B.lib s.rest).1 with flags := MEM_Null }, w',
    (c.released B.lib s.rest).2, ?_, ?_, rfl, ?_, hR₂.nMem.trans hR.nMem.symm,
    hfields₂.trans hfields₁⟩
  · unfold vdbeUnbind
    rw [runTo_bind]
    show runTo (machine (Env κ)) (if m.rest.p.busy then _ else _) m = _
    rw [hbusy, if_neg Bool.false_ne_true, runTo_bind]
    have hindex : runTo (machine (Env κ)) (var_with_index (i - 1)) m = (.ok k, m) := by
      simp only [var_with_index, Prog.perform, runTo, machine, hk]
      rfl
    rw [hindex]
    dsimp only
    rw [runTo_bind, hrun₁]
    dsimp only
    rw [runTo_bind, set_flags_onWorld, hrun₂]
    dsimp only
    rw [runTo_checkExpmask]
  · simpa [Strict.setMem] using hR₂
  · rw [hmems₂]
    simp [Strict.setMem, ← hR.mems, Machine.toWorld]

/-- A write to one cell leaves a sound machine if it leaves the cell announced. -/
theorem sound_of_setMem {m m' : Machine κ} {written : ℕ → Member} {k : ℕ} {c : Mem} {w : Member}
    {r : κ} (hann : ∀ i pMem, m.mems[i]? = some pMem → Announces pMem (written i))
    (hR : Related m' { (m.strict written).setMem k c w with rest := r }) (h : Announces c w) :
    m'.Sound := by
  refine .of_related hR fun i pMem hi => ?_
  have hi : (m.mems.set k c)[i]? = some pMem := hi
  show Announces pMem (Function.update written k w i)
  by_cases hik : i = k
  · subst hik
    rw [Function.update_self]
    rw [List.getElem?_set_self' ] at hi
    cases hm : m.mems[i]? with
    | none => rw [hm] at hi; cases hi
    | some c₀ =>
      rw [hm] at hi
      obtain rfl : c = pMem := by simpa using hi
      exact h
  · rw [Function.update_of_ne hik]
    rw [List.getElem?_set_ne (Ne.symm hik)] at hi
    exact hann i pMem hi

/-- A cell that is NULL announces no union. -/
theorem announces_of_null {c : Mem} (h : c.flags = MEM_Null) (w : Member) : Announces c w := by
  constructor <;> intro hf <;> rw [h] at hf <;> exact absurd hf (by decide)

/-- A cell with an integer announces it. -/
theorem announces_of_int {c : Mem} (h : c.flags = MEM_Int) : Announces c .i :=
  ⟨fun _ => Or.inl rfl, fun hf => absurd (h ▸ hf) (by decide)⟩

/-- A cell with a real announces it. -/
theorem announces_of_real {c : Mem} (h : c.flags = MEM_Real) : Announces c .r :=
  ⟨fun hf => absurd (h ▸ hf) (by decide), fun _ => Or.inl rfl⟩

/-- A parameter that holds a real. A NaN is held as NULL. -/
theorem held_real_iff {c : Mem} {val : Binary64} : (Bound.real val).Held B c ↔
    if val.isNaN then c.flags.stored = MEM_Null else c.flags.stored = MEM_Real ∧ c.u = val := Iff.rfl

/-- The call of a method on the cell that it gets from `var_with_index`. -/
theorem runTo_var_with_index {α : Type} {m : Machine (Env κ)} {i : ℤ} {k : ℕ}
    (hk : Machine.varIndex m.mems.length m.nMem i = .ok k) (f : ℕ → MemM (Env κ) α) :
    runTo (machine (Env κ)) (var_with_index i >>= f) m = runTo (machine (Env κ)) (f k) m := by
  have h : runTo (machine (Env κ)) (var_with_index i) m = (.ok k, m) := by
    simp only [var_with_index, Prog.perform, runTo, machine, hk]
    rfl
  rw [runTo_bind, h]

/-- On a busy statement `vdbeUnbind` raises an exception at once. -/
theorem runTo_vdbeUnbind_busy {m : Machine (Env κ)} {i : ℤ} (hbusy : m.rest.p.busy = true) :
    runTo (machine (Env κ)) (vdbeUnbind B i) m = (.error .sqpyte, m) := by
  unfold vdbeUnbind
  rw [runTo_bind]
  show runTo (machine (Env κ)) (if m.rest.p.busy then _ else _) m = _
  rw [if_pos hbusy]
  rfl

/-- What a method does after `vdbeUnbind`: it leaves the value in the parameter. -/
def Stores (k : ℕ) (v : Bound) (p : MemM (Env κ) ℕ) (index : ℤ) : Prop :=
  ∀ (m : Machine (Env κ)) (s : Strict κ) (c : Mem) (w : Member), Related m.toWorld s → s.At k c w →
    c.flags = MEM_Null → Machine.varIndex m.mems.length m.nMem index = .ok k →
    ∃ m' c' w' r', runTo (machine (Env κ)) p m = (.ok SQLITE_OK, m') ∧
      Related m'.toWorld { s.setMem k c' w' with rest := r' } ∧ v.Held B c' ∧ Announces c' w' ∧
      m'.rest.fields = m.rest.fields

/-- `bind_null` stores NULL. -/
theorem stores_null (k : ℕ) (index : ℤ) :
    Stores (B := B) k .null (pure SQLITE_OK) index := by
  intro m s c w hR hc hflags _
  refine ⟨m, c, w, s.rest, rfl, by rw [hc.setMem_self]; exact hR, ?_, announces_of_null hflags w, rfl⟩
  show c.flags.stored = MEM_Null
  rw [hflags]
  decide

/-- `bind_int64` stores the integer. -/
theorem stores_int (k : ℕ) (val : BitVec 64) (index : ℤ) :
    Stores (B := B) k (.int val) (do
      onWorld (sqlite3VdbeMemSetInt64 B.lib (← var_with_index index) val.toInt false)
      return SQLITE_OK) index := by
  intro m s c w hR hc hflags hk
  obtain ⟨m', hrun, hR', -, hfields⟩ := runTo_onWorld_of_strict hR
    (hc.run_sqlite3VdbeMemSetInt64 B.lib val.toInt false)
  refine ⟨m', _, _, _, ?_, hR', ⟨by show Flags.stored MEM_Int = MEM_Int; decide, ?_⟩,
    announces_of_int rfl, hfields⟩
  · rw [runTo_var_with_index hk, runTo_bind, hrun]
    rfl
  · exact BitVec.ofInt_toInt

/-- `bind_double` stores the real. -/
theorem stores_real (k : ℕ) (val : Binary64) (index : ℤ) :
    Stores (B := B) k (.real val) (do
      onWorld (sqlite3VdbeMemSetDouble B.lib (← var_with_index index) val)
      return SQLITE_OK) index := by
  intro m s c w hR hc hflags hk
  cases hval : val.isNaN with
  | true =>
    obtain ⟨m', hrun, hR', -, hfields⟩ := runTo_onWorld_of_strict hR
      (hc.run_sqlite3VdbeMemSetDouble_nan B.lib hval (by rw [hflags]; decide)
        (by rw [hflags]; decide))
    have hnull : withTypeFlag c.flags MEM_Null = MEM_Null := by rw [hflags]; decide
    refine ⟨m', { c with flags := withTypeFlag c.flags MEM_Null }, w, s.rest, ?_, hR', ?_,
      announces_of_null hnull w, hfields⟩
    · rw [runTo_var_with_index hk, runTo_bind, hrun]
      rfl
    · rw [held_real_iff, if_pos hval, hnull]
      show Flags.stored MEM_Null = MEM_Null
      decide
  | false =>
    obtain ⟨m', hrun, hR', -, hfields⟩ := runTo_onWorld_of_strict hR
      (hc.run_sqlite3VdbeMemSetDouble B.lib hval)
    refine ⟨m', _, _, _, ?_, hR', ?_, announces_of_real rfl, hfields⟩
    · rw [runTo_var_with_index hk, runTo_bind, hrun]
      rfl
    · rw [held_real_iff, if_neg (by simp [hval])]
      exact ⟨by show Flags.stored MEM_Real = MEM_Real; decide, rfl⟩

/-- What a bind of the parameter in the cell `k` leaves. -/
structure Leaves (q q' : Query κ) (k : ℕ) (c' : Mem) : Prop where
  /-- The cells. -/
  mems : q'.machine.mems = q.machine.mems.set k c'
  /-- The cache knows nothing false. -/
  sound : q'.machine.toWorld.Sound

/-- `vdbeUnbind` and what follows. -/
theorem call_unbind {q : Query κ} {i : ℤ} {k : ℕ} {c : Mem} {v : Bound} {p : MemM (Env κ) ℕ}
    (hsound : q.machine.toWorld.Sound) (hbusy : q.machine.rest.p.busy = false)
    (hk : Machine.varIndex q.machine.mems.length q.machine.nMem (i - 1) = .ok k)
    (hc : q.machine.mems[k]? = some c) (hp : Stores (B := B) k v p (i - 1)) :
    ∃ c', (q.call (vdbeUnbind B i >>= fun _ => p)).1 =
        (expmaskAnswer (i - 1) q.machine.rest.p.expmask).map (fun _ => SQLITE_OK) ∧
      Leaves q (q.call (vdbeUnbind B i >>= fun _ => p)).2 k c' ∧
      (q.call (vdbeUnbind B i >>= fun _ => p)).2.machine.rest.fields = q.machine.rest.fields ∧
      match expmaskAnswer (i - 1) q.machine.rest.p.expmask with
      | .ok _ => v.Held B c'
      | .error _ => c'.flags = MEM_Null := by
  obtain ⟨written, hR, hann⟩ := hsound
  have hat : Strict.At (q.machine.toWorld.strict written) k c (written k) := ⟨hc, rfl⟩
  obtain ⟨m₁, c₁, w₁, r₁, hrun₁, hR₁, hnull, hmems₁, hnMem₁, hfields₁⟩ :=
    runTo_vdbeUnbind (B := B) hR hbusy hk hat
  unfold Query.call
  rw [runTo_bind, hrun₁]
  cases hanswer : expmaskAnswer (i - 1) q.machine.rest.p.expmask with
  | error e =>
    exact ⟨c₁, rfl, ⟨hmems₁, sound_of_setMem hann hR₁ (announces_of_null hnull w₁)⟩, hfields₁, hnull⟩
  | ok _ =>
    have hk₁ : Machine.varIndex m₁.mems.length m₁.nMem (i - 1) = .ok k := by
      rw [hmems₁, hnMem₁, List.length_set]
      exact hk
    have hat₁ : Strict.At { (q.machine.toWorld.strict written).setMem k c₁ w₁ with rest := r₁ } k c₁
      w₁ := hat.setMem c₁ w₁
    obtain ⟨m₂, c₂, w₂, r₂, hrun₂, hR₂, hheld, hann₂, hfields₂⟩ := hp m₁ _ c₁ w₁ hR₁ hat₁ hnull hk₁
    have hR₂ : Related m₂.toWorld
        { (q.machine.toWorld.strict written).setMem k c₂ w₂ with rest := r₂ } := by
      simpa [Strict.setMem] using hR₂
    dsimp only
    rw [hrun₂]
    exact ⟨c₂, rfl, ⟨hR₂.mems, sound_of_setMem hann hR₂ hann₂⟩, hfields₂.trans hfields₁, hheld⟩

/-- The value is not a text. -/
def Bound.NoText : Bound → Prop
  | .text _ => False
  | _ => True

/-- A bind by `vdbeUnbind` of the parameter in the cell `k`. -/
theorem bind_python {q : Query κ} {b : Binding} {k : ℕ} {c : Mem} (hvalue : b.value.NoText)
    (hsound : q.machine.toWorld.Sound) (hbusy : q.machine.rest.p.busy = false)
    (hk : Machine.varIndex q.machine.mems.length q.machine.nMem (b.i - 1) = .ok k)
    (hc : q.machine.mems[k]? = some c) :
    ∃ c', (q.bind B b).1 =
        (expmaskAnswer (b.i - 1) q.machine.rest.p.expmask).map (fun _ => SQLITE_OK) ∧
      Leaves q (q.bind B b).2 k c' ∧
      (q.bind B b).2.machine.rest.fields = q.machine.rest.fields ∧
      match expmaskAnswer (b.i - 1) q.machine.rest.p.expmask with
      | .ok _ => b.value.Held B c'
      | .error _ => c'.flags = MEM_Null := by
  obtain ⟨i, value⟩ := b
  cases value with
  | null => exact call_unbind hsound hbusy hk hc (stores_null k (i - 1))
  | int val => exact call_unbind hsound hbusy hk hc (stores_int k val (i - 1))
  | real val => exact call_unbind hsound hbusy hk hc (stores_real k val (i - 1))
  | text s => exact absurd hvalue id

/-- An index that is no index of a list of the parameters. -/
theorem bind_python_range {q : Query κ} {b : Binding} (hvalue : b.value.NoText)
    (hbusy : q.machine.rest.p.busy = false) {e : Exc}
    (hk : Machine.varIndex q.machine.mems.length q.machine.nMem (b.i - 1) = .error e) :
    (q.bind B b) = (.error e, q) := by
  have hunbind : ∀ f : Unit → MemM (Env κ) ℕ,
      q.call (vdbeUnbind B b.i >>= f) = (.error e, q) := by
    intro f
    have : runTo (machine (Env κ)) (vdbeUnbind B b.i) q.machine = (.error e, q.machine) := by
      unfold vdbeUnbind
      rw [runTo_bind]
      show runTo (machine (Env κ)) (if q.machine.rest.p.busy then _ else _) q.machine = _
      rw [hbusy, if_neg Bool.false_ne_true, runTo_bind]
      have hindex : runTo (machine (Env κ)) (var_with_index (b.i - 1)) q.machine =
          (.error e, q.machine) := by
        simp only [var_with_index, Prog.perform, runTo, machine, hk]
        rfl
      rw [hindex]
    unfold Query.call
    rw [runTo_bind, this]
  obtain ⟨i, value⟩ := b
  cases value with
  | null => exact hunbind _
  | int val => exact hunbind _
  | real val => exact hunbind _
  | text s => exact absurd hvalue id

/-! ## The index -/

/-- An index from 1 on is that of a parameter if it is in range. -/
theorem varIndex_of_pos (q : Query κ) {i : ℤ} (h1 : 1 ≤ i) :
    Machine.varIndex q.machine.mems.length q.machine.nMem (i - 1) =
      if i ≤ q.nVar then .ok (q.machine.nMem + i.toNat) else .error .sqpyte := by
  unfold Machine.varIndex pyIndex Query.nVar
  by_cases h : i ≤ ((q.machine.mems.length - (q.machine.nMem + 1) : ℕ) : ℤ)
  · rw [if_pos (by omega), if_pos h]
    simp only [Except.ok.injEq]
    omega
  · rw [if_neg (by omega), if_neg (by omega), if_neg h]

/-- An index of at most 0 counts from the last parameter. -/
theorem varIndex_of_nonpos (q : Query κ) {i : ℤ} (h0 : i ≤ 0) :
    Machine.varIndex q.machine.mems.length q.machine.nMem (i - 1) =
      if 1 ≤ q.nVar + i then .ok (q.machine.nMem + (q.nVar + i).toNat) else .error .sqpyte := by
  unfold Machine.varIndex pyIndex Query.nVar
  rw [if_neg (by omega)]
  by_cases h : 1 ≤ ((q.machine.mems.length - (q.machine.nMem + 1) : ℕ) : ℤ) + i
  · rw [if_pos (by omega), if_pos h]
    simp only [Except.ok.injEq]
    omega
  · rw [if_neg (by omega), if_neg h]

/-! ## A text -/

/-- A released cell has no buffer. -/
theorem szMalloc_release (L : CLib κ) (c : Mem) (w : κ) :
    (c.sqlite3VdbeMemRelease L w).1.szMalloc = 0 := by
  unfold Mem.sqlite3VdbeMemRelease
  split_ifs with h
  · rfl
  · rfl
  · simp only [Bool.or_eq_true, decide_eq_true_eq, not_or, not_not] at h
    exact h.2

section setStr

variable {L : CLib κ} {limit : ℤ} {s : List Byte} {c : Mem} {w : κ}

/-- A text beyond the limit is refused. -/
theorem sqlite3VdbeMemSetStr_toobig (h : limit < s.length) :
    c.sqlite3VdbeMemSetStr L limit s s.length w = .ok (SQLITE_TOOBIG, c, w) := by
  unfold Mem.sqlite3VdbeMemSetStr
  have hn : ¬ ((s.length : ℤ) < 0) := by omega
  simp only [if_neg hn, if_pos h]

/-- A cell without an allocation of its own asks for one. -/
theorem sqlite3VdbeMemClearAndResize_eq {szNew : ℕ} (hsz : c.szMalloc = 0) (h : 32 ≤ szNew) :
    c.sqlite3VdbeMemClearAndResize L szNew w =
      match L.malloc szNew w with
      | (none, w) =>
        let x := c.sqlite3VdbeMemSetNull L w
        .ok (SQLITE_NOMEM, { x.1 with z := .null, zMalloc := [], szMalloc := 0 }, x.2)
      | (some block, w) =>
        (Mem.growFinish L false { c with zMalloc := block, szMalloc := block.length } w).map
          fun x => (SQLITE_OK, x.1, x.2) := by
  unfold Mem.sqlite3VdbeMemClearAndResize Mem.sqlite3VdbeMemGrow Mem.growAlloc
  rw [if_pos (by omega), if_pos (by omega)]
  have hmax : (max (szNew : ℤ) 32).toNat = szNew := by omega
  rw [hmax]
  simp only [Bool.false_and, Bool.false_eq_true, ↓reduceIte]
  cases L.malloc szNew w with
  | mk block w' =>
    cases block with
    | none => rfl
    | some block =>
      dsimp only
      cases Mem.growFinish L false { c with zMalloc := block, szMalloc := block.length } w' with
      | error e => rfl
      | ok x => rfl

/-- A text without memory for it is refused, and the cell is NULL. -/
theorem sqlite3VdbeMemSetStr_nomem (hlimit : s.length ≤ limit) (hsz : c.szMalloc = 0)
    (hmalloc : (L.malloc (max s.length 32) w).1 = none) :
    ∃ c' w', c.sqlite3VdbeMemSetStr L limit s s.length w = .ok (SQLITE_NOMEM, c', w') ∧
      c'.flags = MEM_Null := by
  have hn : ¬ ((s.length : ℤ) < 0) := by omega
  have hmax : (max (s.length : ℤ) 32).toNat = max s.length 32 := by omega
  unfold Mem.sqlite3VdbeMemSetStr
  simp only [if_neg hn, if_neg (not_lt.mpr hlimit), hmax]
  rw [sqlite3VdbeMemClearAndResize_eq hsz (le_max_right _ _)]
  generalize L.malloc (max s.length 32) w = x at hmalloc ⊢
  obtain ⟨block, w'⟩ := x
  obtain rfl : block = none := hmalloc
  refine ⟨_, _, rfl, ?_⟩
  show (c.sqlite3VdbeMemSetNull L w').1.flags = MEM_Null
  unfold Mem.sqlite3VdbeMemSetNull Mem.vdbeMemClearExternAndSetNull
  split_ifs <;> rfl

/-- A text is copied into a new buffer. -/
theorem sqlite3VdbeMemSetStr_ok {block : List Byte} {w' : κ} (hlimit : s.length ≤ limit)
    (hsz : c.szMalloc = 0) (hflags : c.flags = MEM_Null)
    (hmalloc : L.malloc (max s.length 32) w = (some block, w'))
    (hblock : max s.length 32 ≤ block.length) :
    c.sqlite3VdbeMemSetStr L limit s s.length w = .ok (SQLITE_OK, c.withText s block, w') := by
  have hn : ¬ ((s.length : ℤ) < 0) := by omega
  have hmax : (max (s.length : ℤ) 32).toNat = max s.length 32 := by omega
  have hdyn : c.flags.has MEM_Dyn = false := by rw [hflags]; decide
  have hgrow : ∀ p : Mem, p.flags = c.flags → Mem.growFinish L false p w' =
      .ok ({ p with
        z := .own, flags := c.flags &&& ~~~(MEM_Dyn ||| MEM_Ephem ||| MEM_Static) }, w') := by
    intro p hp
    unfold Mem.growFinish
    rw [hp, hdyn]
    simp only [Bool.false_eq_true, ↓reduceIte]
    split <;> rfl
  unfold Mem.sqlite3VdbeMemSetStr
  simp only [if_neg hn, if_neg (not_lt.mpr hlimit), hmax]
  rw [sqlite3VdbeMemClearAndResize_eq hsz (le_max_right _ _), hmalloc]
  dsimp only
  rw [hgrow { c with zMalloc := block, szMalloc := block.length } rfl]
  have hs : List.take s.length (s ++ [0]) = s := List.take_left
  show Except.bind (Mem.writeOwn 0 _ _) _ = _
  unfold Mem.writeOwn
  rw [Int.toNat_natCast, hs, if_pos (by dsimp only; omega)]
  simp [Except.bind, pure, Except.pure, Mem.withText]

end setStr

/-- Below 2^31 a number is itself as an `int`. -/
theorem cInt_natCast {n : ℕ} (h : n < 2^31) : cInt n = n := by
  unfold cInt
  rw [BitVec.toInt_ofInt]
  exact Int.bmod_eq_of_le (by omega) (by omega)

/-- The call of `sqlite3_bind_text`, before which the cache forgets all. -/
theorem bind_text_eq {q : Query κ} (hq : q.Idle) (i : ℤ) (s : List Byte) :
    ∃ cache, (∀ n, q.machine.cache.Good n →
        cache.Good n ∧ cache.cache_state = CacheState.all_unknown n) ∧
      q.bind_str B i s =
        match sqlite3_bind_text B q.machine.nMem (cInt i) s (cInt s.length) q.machine.mems
          q.machine.rest with
        | .error e => (.error e, { q with machine := { q.machine with cache := cache } })
        | .ok (rc, mems, e) => (.ok rc,
            { q with machine := { q.machine with cache := cache, mems := mems, rest := e } }) := by
  obtain ⟨hvirt, -⟩ := hq.mode
  have hnone : q.machine.cache._virt_cache_state = none := by
    cases h : q.machine.cache._virt_cache_state with
    | none => rfl
    | some x => rw [h] at hvirt; cases hvirt
  have hcache : q.machine.cache.invalidate_all_outside = .ok { q.machine.cache with
      _nonvirt_cache_state := some q.machine.cache._invalid_cache_state } := by
    unfold Cache.invalidate_all_outside
    rw [if_neg (by simp [hnone])]
  refine ⟨{ q.machine.cache with
    _nonvirt_cache_state := some q.machine.cache._invalid_cache_state }, fun n hg => ?_, ?_⟩
  · have hstate : CacheHolder.cache_state { q.machine.cache.toCacheHolder with
        _nonvirt_cache_state := some q.machine.cache._invalid_cache_state } =
        CacheState.all_unknown n := by
      unfold CacheHolder.cache_state
      simp only [hnone, Option.getD_some, hg.invalid]
    exact ⟨⟨hstate ▸ CacheState.all_unknown_good n, hg.invalid, hg.table, fun _ => hstate⟩, hstate⟩
  · unfold Query.bind_str
    rw [hcache]
    show Query.call _ _ = _
    unfold Query.call
    simp only [c_mems, Prog.perform, runTo, machine]
    cases sqlite3_bind_text B q.machine.nMem (cInt i) s (cInt s.length) q.machine.mems
        q.machine.rest with
    | error e => rfl
    | ok x => rfl

/-- What `sqlite3_bind_text` does to a parameter of a statement that is not busy. -/
theorem sqlite3_bind_text_eq {nMem : ℕ} {i : ℤ} {s : List Byte} {n : ℤ} {mems : List Mem} {e : Env κ}
    {c : Mem} (hbusy : e.p.busy = false) (hi : 1 ≤ i) (hc : mems[nMem + i.toNat]? = some c)
    {rc : ℕ} {c' : Mem} {w' : κ}
    (hset : Mem.sqlite3VdbeMemSetStr B.lib B.limit s n
      { (c.sqlite3VdbeMemRelease B.lib e.world).1 with flags := MEM_Null }
      (c.sqlite3VdbeMemRelease B.lib e.world).2 = .ok (rc, c', w')) :
    sqlite3_bind_text B nMem i s n mems e =
      let x := if rc = SQLITE_OK then changeEncoding B c' w' else (rc, c', w')
      .ok ((sqlite3ApiExit B x.1 x.2.2).1, mems.set (nMem + i.toNat) x.2.1,
        { e with p := e.p.expireFor (i.toNat - 1), world := (sqlite3ApiExit B x.1 x.2.2).2 }) := by
  unfold sqlite3_bind_text
  rw [hbusy, if_neg Bool.false_ne_true, if_neg (by omega), hc]
  dsimp only
  rw [hset]
  rfl

/-- A text in the encoding of the database is held. -/
theorem held_text (hL : TranslatesText B.lib) {s block : List Byte} (c : Mem) {w : κ}
    (henc : ((c.withText s block).sqlite3VdbeChangeEncoding B.lib B.enc w).1.enc = B.enc) :
    (Bound.text s).Held B ((c.withText s block).sqlite3VdbeChangeEncoding B.lib B.enc w).1 := by
  refine ⟨?_, henc, c.withText s block, w, ⟨rfl, rfl, ?_, rfl⟩, rfl, rfl⟩
  · revert henc
    unfold Mem.sqlite3VdbeChangeEncoding
    split_ifs with h
    · exact fun _ => by show Flags.stored MEM_Str = MEM_Str; decide
    · exact hL B.enc _ w rfl
  · show List.take (s.length : ℤ).toNat (s ++ _) = s
    rw [Int.toNat_natCast, List.take_left]

/-- A text that is bound is stored, or refused by a parameter that is NULL. -/
theorem bind_text {q : Query κ} {i : ℤ} {s : List Byte} {c : Mem} (hL : TranslatesText B.lib)
    (hq : q.Idle) (hbusy : q.machine.rest.p.busy = false) (hi : 1 ≤ i) (hint : cInt i = i)
    (hc : q.param i.toNat = some c) (hsafe : SafeText B q i.toNat c s) :
    ∃ c', Leaves q (q.bind_str B i s).2 (q.machine.nMem + i.toNat) c' ∧
      (q.bind_str B i s).2.machine.rest.p = q.machine.rest.p.expireFor (i.toNat - 1) ∧
      ((Succeeds (q.bind_str B i s).1 = true ∧ (Bound.text s).Held B c') ∨
        (Succeeds (q.bind_str B i s).1 = false ∧ c'.flags = MEM_Null ∧ c.flags = MEM_Null ∧
          (q.machine.rest.p.covers i.toNat = true → q.machine.rest.p.expired = true))) := by
  obtain ⟨cache, hcache, hcall⟩ := bind_text_eq (B := B) hq i s
  obtain ⟨written, hR, -⟩ := hq.sound hbusy
  obtain ⟨hgood, hstate⟩ := hcache q.machine.mems.length hR.good
  -- whatever is stored, the cache knows nothing
  have hleaves : ∀ c' (e : Env κ), Leaves q { q with machine := { q.machine with
      cache := cache, mems := q.machine.mems.set (q.machine.nMem + i.toNat) c', rest := e } }
      (q.machine.nMem + i.toNat) c' := fun c' e =>
    ⟨rfl, .of_unknown (by simpa [Machine.toWorld] using hgood)
      (by simpa [Machine.toWorld] using hstate)⟩
  obtain ⟨hlt, hfit⟩ := hsafe
  rw [hint, cInt_natCast hlt] at hcall
  have hsz : { (c.sqlite3VdbeMemRelease B.lib q.machine.rest.world).1 with
      flags := MEM_Null }.szMalloc = 0 := szMalloc_release B.lib c _
  -- Either the text is stored and translated, or C refuses it and the parameter, which was NULL,
  -- stays so.
  rcases hfit with ⟨hlimit, block, w', hblock, hmalloc, henc, hmem⟩ | ⟨href, hnull, hexp⟩
  · rw [sqlite3_bind_text_eq hbusy hi hc
      (sqlite3VdbeMemSetStr_ok hlimit hsz rfl hmalloc hblock)] at hcall
    have hencode : ∀ c₀ : Mem, ({ c₀ with flags := MEM_Null } : Mem).withText s block =
        c₀.withText s block := fun _ => rfl
    simp only [↓reduceIte, hencode, changeEncoding, sqlite3ApiExit, if_pos henc, hmem,
      Bool.false_eq_true] at hcall
    rw [hcall]
    exact ⟨_, hleaves _ _, rfl, Or.inl ⟨rfl, held_text hL _ henc⟩⟩
  · have hrefused : ∃ rc c' w', rc ≠ SQLITE_OK ∧ c'.flags = MEM_Null ∧
        Mem.sqlite3VdbeMemSetStr B.lib B.limit s s.length
          { (c.sqlite3VdbeMemRelease B.lib q.machine.rest.world).1 with flags := MEM_Null }
          (c.sqlite3VdbeMemRelease B.lib q.machine.rest.world).2 = .ok (rc, c', w') := by
      by_cases hlimit : B.limit < s.length
      · exact ⟨_, _, _, by decide, rfl, sqlite3VdbeMemSetStr_toobig hlimit⟩
      · obtain ⟨c', w', hset, hflags⟩ := sqlite3VdbeMemSetStr_nomem (not_lt.mp hlimit) hsz
          (href.resolve_left hlimit)
        exact ⟨_, c', w', by decide, hflags, hset⟩
    obtain ⟨rc, c', w', hrc, hflags, hset⟩ := hrefused
    rw [sqlite3_bind_text_eq hbusy hi hc hset] at hcall
    simp only [if_neg hrc] at hcall
    rw [hcall]
    refine ⟨c', hleaves _ _, rfl, Or.inr ⟨?_, hflags, hnull, hexp⟩⟩
    unfold sqlite3ApiExit Succeeds
    split_ifs
    · rfl
    · simpa using hrc

/-! ## What a safe bind does -/

/-- The bind fails and leaves the cells and the statement as they were. -/
structure Refuses (q : Query κ) (r : Except Exc ℕ × Query κ) : Prop where
  /-- It fails. -/
  fails : Succeeds r.1 = false
  /-- The cells. -/
  mems : r.2.machine.mems = q.machine.mems
  /-- The statement. -/
  p : r.2.machine.rest.p = q.machine.rest.p
  /-- The cache knows nothing false. -/
  sound : q.machine.rest.p.busy = false → r.2.machine.toWorld.Sound

/-- A bind of a text to a busy statement, or with an index out of range, is refused. -/
theorem bind_text_refuses {q : Query κ} {i : ℤ} {s : List Byte} (hq : q.Idle)
    (h : q.machine.rest.p.busy = true ∨ cInt i < 1 ∨ q.nVar < cInt i) :
    Refuses q (q.bind_str B i s) := by
  obtain ⟨cache, hcache, hcall⟩ := bind_text_eq (B := B) hq i s
  have hrefused : ∃ rc, rc ≠ SQLITE_OK ∧ sqlite3_bind_text B q.machine.nMem (cInt i) s
      (cInt s.length) q.machine.mems q.machine.rest = .ok (rc, q.machine.mems, q.machine.rest) := by
    unfold sqlite3_bind_text
    by_cases hbusy : q.machine.rest.p.busy = true
    · rw [if_pos hbusy]
      exact ⟨_, by decide, rfl⟩
    rw [if_neg hbusy]
    by_cases hi : cInt i < 1
    · rw [if_pos hi]
      exact ⟨_, by decide, rfl⟩
    have hrange := (h.resolve_left hbusy).resolve_left hi
    have hnone : q.machine.mems[q.machine.nMem + (cInt i).toNat]? = none := by
      have := hq.nMem
      unfold Query.nVar at hrange
      exact List.getElem?_eq_none (by omega)
    rw [if_neg hi, hnone]
    exact ⟨_, by decide, rfl⟩
  obtain ⟨rc, hrc, htext⟩ := hrefused
  rw [htext] at hcall
  rw [hcall]
  refine ⟨by simpa [Succeeds] using hrc, rfl, rfl, fun hbusy => ?_⟩
  obtain ⟨written, hR, -⟩ := hq.sound hbusy
  obtain ⟨hgood, hstate⟩ := hcache q.machine.mems.length hR.good
  exact .of_unknown hgood hstate

/-- So is a bind of another value, or with an index that Python refuses. -/
theorem bind_python_refuses {q : Query κ} {b : Binding} (hvalue : b.value.NoText) (hq : q.Idle)
    (h : q.machine.rest.p.busy = true ∨
      ∃ e, Machine.varIndex q.machine.mems.length q.machine.nMem (b.i - 1) = .error e) :
    Refuses q (q.bind B b) := by
  have hraises : ∃ e, q.bind B b = (.error e, q) := by
    by_cases hbusy : q.machine.rest.p.busy = true
    · refine ⟨.sqpyte, ?_⟩
      have hunbind : ∀ f : Unit → MemM (Env κ) ℕ,
          q.call (vdbeUnbind B b.i >>= f) = (.error .sqpyte, q) := fun f => by
        unfold Query.call
        rw [runTo_bind, runTo_vdbeUnbind_busy hbusy]
      obtain ⟨i, value⟩ := b
      cases value with
      | null => exact hunbind _
      | int val => exact hunbind _
      | real val => exact hunbind _
      | text s => exact absurd hvalue id
    · obtain ⟨e, he⟩ := h.resolve_left hbusy
      exact ⟨e, bind_python_range hvalue (by simpa using hbusy) he⟩
  obtain ⟨e, he⟩ := hraises
  rw [he]
  exact ⟨rfl, rfl, rfl, hq.sound⟩

/-- The outcomes of a safe bind. -/
inductive BindOutcome (q : Query κ) (b : Binding) : Prop where
  /-- It does nothing. -/
  | refused (h : Refuses q (q.bind B b))
  /-- It stores the value. -/
  | stored (hbusy : q.machine.rest.p.busy = false) (h1 : 1 ≤ b.i) (hn : b.i ≤ q.nVar) (c' : Mem)
      (hleaves : Leaves q (q.bind B b).2 (q.machine.nMem + b.i.toNat) c')
      (hsucceeds : Succeeds (q.bind B b).1 = true) (hheld : b.value.Held B c')
      (hreported : q.machine.rest.p.covers b.i.toNat = true →
        (q.bind B b).2.machine.rest.p.expired = true)
  /-- It fails, and a parameter that is NULL stays NULL. -/
  | wiped (hbusy : q.machine.rest.p.busy = false) (i : ℕ) (h1 : 1 ≤ i) (c c' : Mem)
      (hc : q.param i = some c) (hnull : c.flags = MEM_Null) (hnull' : c'.flags = MEM_Null)
      (hleaves : Leaves q (q.bind B b).2 (q.machine.nMem + i) c')
      (hfails : Succeeds (q.bind B b).1 = false)
      (hexpired : (q.bind B b).2.machine.rest.p.expired = q.machine.rest.p.expired)

/-- `vdbeUnbind` raises an exception for an index from 1 on exactly if it looks at the mask and the
mask covers the parameter. -/
theorem expmaskAnswer_of_pos {p : Vdbe} {i : ℤ} (h1 : 1 ≤ i) : expmaskAnswer (i - 1) p.expmask =
    if i ≤ 32 ∧ p.covers i.toNat = true then .error .sqpyte else .ok () := by
  have hpred : (i - 1).toNat = i.toNat - 1 := by omega
  unfold expmaskAnswer Vdbe.covers
  rw [hpred]
  by_cases h32 : i ≤ 32
  · rw [if_pos (by omega), if_neg (by omega)]
    have : i.toNat ≤ 32 := by omega
    simp only [h32, this, decide_true, Bool.true_and, true_and]
  · rw [if_neg (by omega), if_neg (by omega)]

/-- The parameter with an index in range is there. -/
theorem Query.Idle.param {q : Query κ} (hq : q.Idle) {i : ℕ} (h : i ≤ q.nVar) :
    ∃ c, q.param i = some c := by
  have := hq.nMem
  unfold Query.nVar at h
  exact ⟨_, List.getElem?_eq_getElem (by omega)⟩

/-- A statement expires if the mask covers the parameter. -/
theorem Vdbe.expireFor_expired (p : Vdbe) {i : ℕ} (h1 : 1 ≤ i) :
    (p.expireFor (i - 1)).expired = (p.covers i || p.expired) := by
  unfold Vdbe.expireFor Vdbe.covers
  have h : (i - 1 < 32) = (i ≤ 32) := by
    rw [eq_iff_iff]
    omega
  simp only [h]
  split_ifs with hc
  · simp [hc]
  · simp only [Bool.not_eq_true] at hc
    rw [hc, Bool.false_or]

/-- A safe bind of a text. -/
theorem bindOutcome_text {q : Query κ} {i : ℤ} {s : List Byte} (hL : TranslatesText B.lib)
    (hq : q.Idle) (hbusy : q.machine.rest.p.busy = false) (hsafe : BindSafe B q ⟨i, .text s⟩) :
    BindOutcome (B := B) q ⟨i, .text s⟩ := by
  have hsafe := hsafe.resolve_left (by simp [hbusy])
  dsimp only at hsafe
  by_cases hrange : cInt i < 1 ∨ q.nVar < cInt i
  · exact .refused (bind_text_refuses hq (Or.inr hrange))
  obtain ⟨hint, hsafe⟩ : cInt i = i ∧ ∀ c, q.param i.toNat = some c → SafeText B q i.toNat c s := by
    tauto
  rw [hint] at hrange
  have h1 : 1 ≤ i := by omega
  obtain ⟨c, hc⟩ := hq.param (i := i.toNat) (by omega)
  obtain ⟨c', hleaves, hp, hsucceeds | hfails⟩ := bind_text hL hq hbusy h1 hint hc (hsafe c hc)
  · refine .stored hbusy h1 (by dsimp only; omega) c' hleaves hsucceeds.1 hsucceeds.2 fun hcovers => ?_
    show (q.bind_str B i s).2.machine.rest.p.expired = true
    rw [hp, Vdbe.expireFor_expired _ (by omega)]
    exact Bool.or_eq_true_iff.mpr (Or.inl hcovers)
  · obtain ⟨hfails, hnull', hnull, hexp⟩ := hfails
    refine .wiped hbusy i.toNat (by omega) c c' hc hnull hnull' hleaves hfails ?_
    show (q.bind_str B i s).2.machine.rest.p.expired = _
    rw [hp, Vdbe.expireFor_expired _ (by omega)]
    cases hcovers : q.machine.rest.p.covers i.toNat with
    | false => rfl
    | true => exact (hexp hcovers).symm

/-- A safe bind of another value. -/
theorem bindOutcome_python {q : Query κ} {b : Binding} (hvalue : b.value.NoText) (hq : q.Idle)
    (hbusy : q.machine.rest.p.busy = false) (hsafe : BindSafe B q b) :
    BindOutcome (B := B) q b := by
  have hsafe : if 1 ≤ b.i then
      b.i ≤ q.nVar → ∀ c, q.param b.i.toNat = some c → SafeValue q b.i.toNat c
      else 1 ≤ q.nVar + b.i → ∀ c, q.param (q.nVar + b.i).toNat = some c → c.flags = MEM_Null := by
    have hsafe := hsafe.resolve_left (by simp [hbusy])
    obtain ⟨i, value⟩ := b
    cases value with
    | text s => exact absurd hvalue id
    | _ => exact hsafe
  -- A positive index is the parameter's own; any other one counts from the end of the list.
  by_cases h1 : 1 ≤ b.i
  · rw [if_pos h1] at hsafe
    have hindex := varIndex_of_pos q h1
    by_cases hn : b.i ≤ q.nVar
    · rw [if_pos hn] at hindex
      obtain ⟨c, hc⟩ := hq.param (i := b.i.toNat) (by omega)
      have hsafe := hsafe hn c hc
      obtain ⟨c', hanswer, hleaves, hfields, hholds⟩ :=
        bind_python (B := B) hvalue (hq.sound hbusy) hbusy hindex hc
      have hp : (q.bind B b).2.machine.rest.p = q.machine.rest.p :=
        congrArg (fun e : Env Unit => e.p) hfields
      rw [expmaskAnswer_of_pos h1] at hanswer hholds
      unfold SafeValue at hsafe
      -- For a parameter that the plan depends on `checkExpmask` raises, when the parameter is
      -- already cleared.
      by_cases hcovers : b.i ≤ 32 ∧ q.machine.rest.p.covers b.i.toNat = true
      · rw [if_pos hcovers] at hanswer hholds
        have hnull := hsafe hcovers.2
        rw [if_pos (by omega)] at hnull
        exact .wiped hbusy b.i.toNat (by omega) c c' hc hnull hholds hleaves (by rw [hanswer]; rfl)
          (by rw [hp])
      · rw [if_neg hcovers] at hanswer hholds
        refine .stored hbusy h1 hn c' hleaves (by rw [hanswer]; rfl) hholds fun hc => ?_
        have hexp := hsafe hc
        have h32 : ¬ b.i ≤ 32 := fun h => hcovers ⟨h, hc⟩
        rw [if_neg (by omega)] at hexp
        rw [hp, hexp]
    · rw [if_neg hn] at hindex
      -- There is no such parameter.
      exact .refused (bind_python_refuses hvalue hq (Or.inr ⟨_, hindex⟩))
  · rw [if_neg h1] at hsafe
    have hindex := varIndex_of_nonpos q (i := b.i) (by omega)
    by_cases hn : 1 ≤ q.nVar + b.i
    · rw [if_pos hn] at hindex
      obtain ⟨c, hc⟩ := hq.param (i := (q.nVar + b.i).toNat) (by omega)
      obtain ⟨c', hanswer, hleaves, hfields, hholds⟩ :=
        bind_python (B := B) hvalue (hq.sound hbusy) hbusy hindex hc
      -- The shift count is negative, which Python does not allow.
      have hvalue : expmaskAnswer (b.i - 1) q.machine.rest.p.expmask = .error .value := by
        unfold expmaskAnswer
        rw [if_pos (by omega), if_pos (by omega)]
      rw [hvalue] at hanswer hholds
      exact .wiped hbusy _ (by omega) c c' hc (hsafe hn c hc) hholds hleaves (by rw [hanswer]; rfl)
        (congrArg (fun e : Env Unit => e.p.expired) hfields)
    · rw [if_neg hn] at hindex
      exact .refused (bind_python_refuses hvalue hq (Or.inr ⟨_, hindex⟩))

end SQPyte
