import SQPyte.Vdbe.Statement

/-!
# The registry of Python functions

`SQLite3DB.create_function` and `create_aggregate` enter a function object in the `FuncRegistry`, and
a `FuncDef` with its index and the marker 1 for a function pointer in the connection. When a query
uses a `FuncDef`, `get_func` looks the object up by the index.

The index is the size of a dictionary, and the lookup uses a list with a dummy first entry.
`InStep` says that the two stay in step: it holds whatever is registered or refused
(`FuncRegistry.InStep.register`), and the list only ever grows at its end
(`FuncRegistry.register_prefix`). So an index keeps its object (`registry_spec`), and every marked
`FuncDef` of the connection resolves to an object registered under its name (`funcDefs_resolve`).
-/

namespace SQPyte

/-- `SQLITE_MAX_FUNCTION_ARG`. -/
def SQLITE_MAX_FUNCTION_ARG : ℤ := 127

/-- `struct FuncDef`. A function pointer is `0` for none and `1` for a function in Python. -/
structure FuncDef where
  /-- Number of arguments, `-1` for any number. -/
  nArg : ℤ
  /-- User data parameter. -/
  pUserData : ℕ
  /-- Regular function. -/
  xFunc : ℕ
  /-- Aggregate step. -/
  xStep : ℕ
  /-- Aggregate finalizer. -/
  xFinalize : ℕ
  /-- SQL name of the function. -/
  zName : List Byte
deriving DecidableEq, Repr

/-- A function object, where the callables are of type `κ` and the context classes of type `γ`. -/
inductive AbstractFunc (κ γ : Type) where
  /-- `CFunc`. -/
  | CFunc (name : List Byte) (nArg : ℤ) (pfunc : FuncDef)
  /-- `RPyFunc`. -/
  | RPyFunc (name : List Byte) (nArg : ℤ) (rpyfunc : κ)
  /-- `RPyAggregate`. -/
  | RPyAggregate (name : List Byte) (nArg : ℤ) (contextcls : γ)
deriving DecidableEq, Repr

/-- `class FuncRegistry`. -/
structure FuncRegistry (κ γ : Type) where
  /-- The keys of `funcdict`, whose values are all `None`. -/
  funcdict : List (List Byte × ℤ)
  /-- `funcs`. -/
  funcs : List (Option (AbstractFunc κ γ))

/-- A call of `create_function` or `create_aggregate`. -/
inductive Registration (κ γ : Type) where
  /-- `create_function(name, numargs, callable)`. -/
  | function (name : List Byte) (numargs : ℤ) (callable : κ)
  /-- `create_aggregate(name, numargs, contextcls)`. -/
  | aggregate (name : List Byte) (numargs : ℤ) (contextcls : γ)

variable {κ γ : Type}

/-- The name and the number of arguments. -/
def Registration.key : Registration κ γ → List Byte × ℤ
  | function name numargs _ | aggregate name numargs _ => (name, numargs)

/-- The function object that the call makes. -/
def Registration.func : Registration κ γ → AbstractFunc κ γ
  | function name numargs callable => .RPyFunc name numargs callable
  | aggregate name numargs contextcls => .RPyAggregate name numargs contextcls

/-- The `xFunc`, `xStep` and `xFinal` that the call passes on. -/
def Registration.pointers : Registration κ γ → ℕ × ℕ × ℕ
  | function _ _ _ => (1, 0, 0)
  | aggregate _ _ _ => (0, 1, 1)

namespace FuncRegistry

/-- `FuncRegistry.__init__`. -/
def init : FuncRegistry κ γ := ⟨[], [none]⟩

/-- `_register_func`. -/
def _register_func (reg : FuncRegistry κ γ) (name : List Byte) (numargs : ℤ)
    (func : AbstractFunc κ γ) : Except Exc (ℕ × AbstractFunc κ γ) × FuncRegistry κ γ :=
  let key := (name, numargs)
  if key ∈ reg.funcdict then (.error .assertion, reg)
  else
    let funcdict := key :: reg.funcdict
    let funcs := reg.funcs ++ [some func]
    (.ok (funcdict.length, func), ⟨funcdict, funcs⟩)

/-- `create_aggregate` and `create_function`. -/
def register (reg : FuncRegistry κ γ) (r : Registration κ γ) :
    Except Exc (ℕ × AbstractFunc κ γ) × FuncRegistry κ γ :=
  reg._register_func r.key.1 r.key.2 r.func

/-- `get_func`. -/
def get_func (reg : FuncRegistry κ γ) (pfunc : FuncDef) : Except Exc (AbstractFunc κ γ) :=
  -- 1 is the marker that `create_aggregate` and `create_function` pass for a pointer.
  if pfunc.xStep = 1 then
    if pfunc.xFinalize = 1 then
      match reg.funcs[pfunc.pUserData]? with
      | some (some (.RPyAggregate name nArg contextcls)) => .ok (.RPyAggregate name nArg contextcls)
      | some _ => .error .assertion
      | none => .error .index
    else .error .assertion
  else if pfunc.xFunc = 1 then
    if pfunc.xStep = 0 ∧ pfunc.xFinalize = 0 then
      match reg.funcs[pfunc.pUserData]? with
      | some (some (.RPyFunc name nArg rpyfunc)) => .ok (.RPyFunc name nArg rpyfunc)
      | some _ => .error .assertion
      | none => .error .index
    else .error .assertion
  else .ok (.CFunc pfunc.zName pfunc.nArg pfunc)

end FuncRegistry

/-! ## The connection -/

/-- What a call of `sqlite3_create_function` meets in the connection. -/
structure Connected where
  /-- `db->nVdbeActive`. -/
  nVdbeActive : ℕ
  /-- There is a built-in function with this name and number of arguments. -/
  builtin : Bool
  /-- Memory runs out. -/
  mallocFailed : Bool

/-- `sqlite3UpperToLower`. -/
def sqlite3UpperToLower (c : Byte) : Byte := if 65 ≤ c ∧ c ≤ 90 then c + 32 else c

/-- The names are the same but for the case of letters. -/
def sameName (z z' : List Byte) : Bool := z.map sqlite3UpperToLower == z'.map sqlite3UpperToLower

/-- The C string of a Python string, which ends at its first zero. -/
def str2charp (s : List Byte) : List Byte := s.takeWhile (· != 0)

/-- `sqlite3CreateFunc` for the encoding `SQLITE_UTF8`, on the functions `aFunc` of the connection:
its result code and the functions it leaves. -/
def sqlite3CreateFunc (db : Connected) (aFunc : List FuncDef) (zFunctionName : List Byte)
    (nArg : ℤ) (pUserData xFunc xStep xFinal : ℕ) : ℕ × List FuncDef :=
  if (xFunc ≠ 0 ∧ (xFinal ≠ 0 ∨ xStep ≠ 0)) ∨ (xFunc = 0 ∧ xFinal ≠ 0 ∧ xStep = 0) ∨
      (xFunc = 0 ∧ xFinal = 0 ∧ xStep ≠ 0) ∨ nArg < -1 ∨ nArg > SQLITE_MAX_FUNCTION_ARG ∨
      255 < zFunctionName.length then (SQLITE_MISUSE, aFunc)
  else
    let perfect (p : FuncDef) : Bool := sameName p.zName zFunctionName && p.nArg == nArg
    let isMatch (p : FuncDef) : Bool :=
      sameName p.zName zFunctionName && (p.nArg == nArg || decide (p.nArg < 0))
    -- A function that statements may be using is not replaced.
    if (aFunc.any perfect || (!aFunc.any isMatch && db.builtin)) && db.nVdbeActive != 0 then
      (SQLITE_BUSY, aFunc)
    else if aFunc.any perfect then
      (SQLITE_OK, aFunc.map fun p =>
        if perfect p then ⟨nArg, pUserData, xFunc, xStep, xFinal, p.zName⟩ else p)
    else if db.mallocFailed then (SQLITE_NOMEM, aFunc)
    else (SQLITE_OK, ⟨nArg, pUserData, xFunc, xStep, xFinal, zFunctionName⟩ :: aFunc)

/-- `class SQLite3DB`, with the functions of its connection. -/
structure SQLite3DB (κ γ : Type) where
  /-- `funcregistry`. -/
  funcregistry : FuncRegistry κ γ
  /-- `db->aFunc`. -/
  aFunc : List FuncDef

namespace SQLite3DB

/-- `SQLite3DB.__init__`. -/
def init : SQLite3DB κ γ := ⟨.init, []⟩

/-- `create_aggregate` and `create_function`. -/
def create (db : SQLite3DB κ γ) (c : Connected) (r : Registration κ γ) :
    Except Exc (AbstractFunc κ γ) × SQLite3DB κ γ :=
  match db.funcregistry.register r with
  | (.error e, reg) => (.error e, ⟨reg, db.aFunc⟩)
  | (.ok (index, func), reg) =>
    let (errorcode, aFunc) := sqlite3CreateFunc c db.aFunc (str2charp r.key.1) r.key.2 index
      r.pointers.1 r.pointers.2.1 r.pointers.2.2
    (if errorcode = 0 then .ok func else .error .assertion, ⟨reg, aFunc⟩)

/-- The database after a sequence of registrations, successful or refused. -/
def after (db : SQLite3DB κ γ) (history : List (Connected × Registration κ γ)) : SQLite3DB κ γ :=
  history.foldl (fun db x => (db.create x.1 x.2).2) db

end SQLite3DB

/-! ## The dictionary and the list in step -/

namespace FuncRegistry

/-- The list has the dummy and one entry for each key, which is the object of that key. -/
structure InStep (reg : FuncRegistry κ γ) : Prop where
  /-- The next index is the length of the list. -/
  length : reg.funcs.length = reg.funcdict.length + 1
  /-- Index 0 is no function. -/
  dummy : reg.funcs[0]? = some none

/-- A new registry is in step. -/
theorem InStep.init : (init : FuncRegistry κ γ).InStep := ⟨rfl, rfl⟩

variable {reg : FuncRegistry κ γ} {r : Registration κ γ}

/-- A function that is there is refused. -/
theorem register_of_mem (h : r.key ∈ reg.funcdict) :
    reg.register r = (.error .assertion, reg) := by
  unfold register _register_func
  exact if_pos h

/-- Another one is added at the end. -/
theorem register_of_not_mem (h : r.key ∉ reg.funcdict) : reg.register r =
    (.ok (reg.funcdict.length + 1, r.func), ⟨r.key :: reg.funcdict, reg.funcs ++ [some r.func]⟩) := by
  unfold register _register_func
  exact if_neg h

/-- Registering keeps the registry in step. -/
theorem InStep.register (h : reg.InStep) (r : Registration κ γ) : (reg.register r).2.InStep := by
  by_cases hmem : r.key ∈ reg.funcdict
  · rw [register_of_mem hmem]
    exact h
  · rw [register_of_not_mem hmem]
    refine ⟨?_, ?_⟩
    · show (reg.funcs ++ [some r.func]).length = (r.key :: reg.funcdict).length + 1
      rw [List.length_append, h.length]
      rfl
    · show (reg.funcs ++ [some r.func])[0]? = some none
      rw [List.getElem?_append_left (by have := h.length; omega)]
      exact h.dummy

/-- The list only grows at its end. -/
theorem register_prefix (reg : FuncRegistry κ γ) (r : Registration κ γ) :
    reg.funcs <+: (reg.register r).2.funcs := by
  by_cases hmem : r.key ∈ reg.funcdict
  · rw [register_of_mem hmem]
  · rw [register_of_not_mem hmem]
    exact List.prefix_append _ _

/-- A key stays. -/
theorem register_key (reg : FuncRegistry κ γ) (r : Registration κ γ) :
    r.key ∈ (reg.register r).2.funcdict ∧ ∀ key ∈ reg.funcdict, key ∈ (reg.register r).2.funcdict := by
  by_cases hmem : r.key ∈ reg.funcdict
  · rw [register_of_mem hmem]
    exact ⟨hmem, fun _ h => h⟩
  · rw [register_of_not_mem hmem]
    exact ⟨List.mem_cons_self, fun _ h => List.mem_cons_of_mem _ h⟩

/-- A new index is the place of the new object in the list. -/
theorem InStep.register_ok (h : reg.InStep) {index : ℕ} {func : AbstractFunc κ γ}
    (hok : (reg.register r).1 = .ok (index, func)) :
    index = reg.funcs.length ∧ func = r.func ∧ index ≠ 0 ∧
      (reg.register r).2.funcs[index]? = some (some func) := by
  by_cases hmem : r.key ∈ reg.funcdict
  · rw [register_of_mem hmem] at hok
    cases hok
  · rw [register_of_not_mem hmem] at hok ⊢
    obtain ⟨rfl, rfl⟩ := Prod.mk.inj (Except.ok.inj hok)
    refine ⟨h.length.symm, rfl, Nat.succ_ne_zero _, ?_⟩
    show (reg.funcs ++ [some r.func])[reg.funcdict.length + 1]? = some (some r.func)
    rw [← h.length, List.getElem?_concat_length]

/-- The `FuncDef` has the index and the marker pointers of the registration. -/
def Carries (d : FuncDef) (index : ℕ) (r : Registration κ γ) : Prop :=
  d.pUserData = index ∧ (d.xFunc, d.xStep, d.xFinalize) = r.pointers

/-- A `FuncDef` is resolved by the entry of its index. -/
theorem get_func_of_entry {d : FuncDef} {index : ℕ} (hd : Carries d index r)
    (h : reg.funcs[index]? = some (some r.func)) : reg.get_func d = .ok r.func := by
  obtain ⟨rfl, hpointers⟩ := hd
  -- The markers say which class the entry has to have, and it has that of its registration.
  cases r with
  | function name numargs callable =>
    simp only [Registration.pointers, Prod.mk.injEq] at hpointers
    obtain ⟨hf, hs, hz⟩ := hpointers
    unfold get_func
    rw [hf, hs, hz, h]
    rfl
  | aggregate name numargs contextcls =>
    simp only [Registration.pointers, Prod.mk.injEq] at hpointers
    obtain ⟨-, hs, hz⟩ := hpointers
    unfold get_func
    rw [hs, hz, h]
    rfl

end FuncRegistry

/-! ## Histories -/

namespace SQLite3DB

open FuncRegistry

variable {db : SQLite3DB κ γ} {history : List (Connected × Registration κ γ)}

/-- The connection does not touch the registry. -/
theorem create_funcregistry (db : SQLite3DB κ γ) (c : Connected) (r : Registration κ γ) :
    (db.create c r).2.funcregistry = (db.funcregistry.register r).2 := by
  unfold create
  rcases db.funcregistry.register r with ⟨_ | ⟨index, func⟩, reg⟩ <;> rfl

/-- One history after the other. -/
theorem after_append (db : SQLite3DB κ γ) (h h' : List (Connected × Registration κ γ)) :
    db.after (h ++ h') = (db.after h).after h' := List.foldl_append

/-- A history keeps the registry in step. -/
theorem inStep_after (h : db.funcregistry.InStep) : (db.after history).funcregistry.InStep := by
  induction history generalizing db with
  | nil => exact h
  | cons x xs ih => exact ih (by rw [create_funcregistry]; exact h.register _)

/-- Functions are only added. -/
theorem prefix_after (db : SQLite3DB κ γ) (history : List (Connected × Registration κ γ)) :
    db.funcregistry.funcs <+: (db.after history).funcregistry.funcs := by
  induction history generalizing db with
  | nil => exact List.prefix_rfl
  | cons x xs ih =>
    have hstep : db.funcregistry.funcs <+: (db.create x.1 x.2).2.funcregistry.funcs := by
      rw [create_funcregistry]
      exact register_prefix _ _
    exact hstep.trans (ih _)

/-- A function that is there stays there. -/
theorem key_after {key : List Byte × ℤ} (h : key ∈ db.funcregistry.funcdict) :
    key ∈ (db.after history).funcregistry.funcdict := by
  induction history generalizing db with
  | nil => exact h
  | cons x xs ih => exact ih (by rw [create_funcregistry]; exact (register_key _ _).2 _ h)

/-- The key of each call is in the dictionary, also if the call was refused. -/
theorem key_of_mem {x : Connected × Registration κ γ} (h : x ∈ history) (db : SQLite3DB κ γ) :
    x.2.key ∈ (db.after history).funcregistry.funcdict := by
  induction history generalizing db with
  | nil => cases h
  | cons y ys ih =>
    rcases List.mem_cons.mp h with rfl | h
    · have hkey : x.2.key ∈ (db.create x.1 x.2).2.funcregistry.funcdict := by
        rw [create_funcregistry]
        exact (register_key _ _).1
      have hafter : x.2.key ∈ ((db.create x.1 x.2).2.after ys).funcregistry.funcdict :=
        key_after hkey
      exact hafter
    · exact ih h _

end SQLite3DB

open FuncRegistry SQLite3DB

/-- After any registrations: a successful one returns a nonzero index, and whatever is registered or
refused afterwards, its function object is what `get_func` returns for a `FuncDef` with this index
and its markers, and no later registration returns this index. One with the name and the number of
arguments of an earlier one is refused and changes nothing. -/
theorem registry_spec (history : List (Connected × Registration κ γ)) (c : Connected)
    (r : Registration κ γ) :
    (∀ index func, ((init.after history).funcregistry.register r).1 = .ok (index, func) →
      index ≠ 0 ∧ func = r.func ∧ ∀ later,
        (∀ d, Carries d index r →
          (init.after (history ++ (c, r) :: later)).funcregistry.get_func d = .ok func) ∧
        ∀ r' index' func',
          ((init.after (history ++ (c, r) :: later)).funcregistry.register r').1 =
            .ok (index', func') → index' ≠ index) ∧
    ((∃ x ∈ history, x.2.key = r.key) →
      (init.after history).create c r = (.error .assertion, init.after history)) := by
  have hstep : (init.after history).funcregistry.InStep := inStep_after InStep.init
  constructor
  · intro index func hok
    obtain ⟨hindex, hfunc, hne, hentry⟩ := hstep.register_ok hok
    refine ⟨hne, hfunc, fun later => ?_⟩
    have hlater : init.after (history ++ (c, r) :: later) =
        (((init.after history).create c r).2).after later := after_append _ _ _
    have hprefix := prefix_after (((init.after history).create c r).2) later
    rw [create_funcregistry] at hprefix
    have hentry' : (init.after (history ++ (c, r) :: later)).funcregistry.funcs[index]? =
        some (some r.func) := by
      obtain ⟨added, hadded⟩ := hprefix
      rw [hlater, ← hfunc, ← hadded,
        List.getElem?_append_left (List.getElem?_eq_some_iff.mp hentry).1]
      exact hentry
    refine ⟨fun d hd => by rw [hfunc]; exact get_func_of_entry hd hentry', ?_⟩
    intro r' index' func' hok'
    have hstep' : (init.after (history ++ (c, r) :: later)).funcregistry.InStep :=
      inStep_after InStep.init
    have hindex' := (hstep'.register_ok hok').1
    have hlt := (List.getElem?_eq_some_iff.mp hentry').1
    omega
  · rintro ⟨x, hx, hkey⟩
    have hmem := key_of_mem hx init
    rw [hkey] at hmem
    unfold create
    rw [register_of_mem hmem]

/-- A function `f` of one argument, then an aggregate `g` and, refused, another `f`: index 1 is still
the first `f`. -/
theorem registry_spec_f :
    let c : Connected := ⟨0, false, false⟩
    let f : Registration ℕ ℕ := .function [102] 1 7
    let later : List (Connected × Registration ℕ ℕ) :=
      [(c, .aggregate [103] 1 8), (c, .aggregate [102] 1 9)]
    ((init.after []).funcregistry.register f).1 = .ok (1, f.func) ∧
    (init.after ([] ++ (c, f) :: later)).funcregistry.get_func ⟨1, 1, 1, 0, 0, [102]⟩ = .ok f.func ∧
    (init.after [(c, f)]).create c (.aggregate [102] 1 9) =
      (.error .assertion, init.after [(c, f)]) := by
  intro c f later
  have hok : ((init.after []).funcregistry.register f).1 = .ok (1, f.func) := rfl
  exact ⟨hok, (((registry_spec [] c f).1 1 f.func hok).2.2 later).1 _ ⟨rfl, rfl⟩,
    (registry_spec [(c, f)] c (.aggregate [102] 1 9)).2 ⟨_, List.mem_singleton_self _, rfl⟩⟩

/-! ## The functions of the connection -/

/-- The entry of the `FuncDef` is a function object of its name and its number of arguments. -/
def HasEntry (reg : FuncRegistry κ γ) (d : FuncDef) (r : Registration κ γ) : Prop :=
  Carries d d.pUserData r ∧ reg.funcs[d.pUserData]? = some (some r.func) ∧
    sameName d.zName (str2charp r.key.1) = true ∧ d.nArg = r.key.2

/-- An entry stays there. -/
theorem HasEntry.register {reg : FuncRegistry κ γ} {d : FuncDef} {r : Registration κ γ}
    (h : HasEntry reg d r) (r' : Registration κ γ) : HasEntry (reg.register r').2 d r := by
  obtain ⟨hd, hentry, hname⟩ := h
  obtain ⟨added, hadded⟩ := register_prefix reg r'
  refine ⟨hd, ?_, hname⟩
  rw [← hadded, List.getElem?_append_left (List.getElem?_eq_some_iff.mp hentry).1]
  exact hentry

/-- A function of the connection is as before, or as the call says. -/
theorem sqlite3CreateFunc_mem {c : Connected} {aFunc : List FuncDef} {z : List Byte} {nArg : ℤ}
    {index xFunc xStep xFinal : ℕ} {d : FuncDef}
    (hd : d ∈ (sqlite3CreateFunc c aFunc z nArg index xFunc xStep xFinal).2) :
    d ∈ aFunc ∨ (d.pUserData = index ∧ (d.xFunc, d.xStep, d.xFinalize) = (xFunc, xStep, xFinal) ∧
      sameName d.zName z = true ∧ d.nArg = nArg) := by
  have hrefl : sameName z z = true := beq_self_eq_true _
  unfold sqlite3CreateFunc at hd
  dsimp only at hd
  split_ifs at hd with hmisuse hbusy hperfect hmalloc
  · exact Or.inl hd
  · exact Or.inl hd
  · obtain ⟨p, hp, heq⟩ := List.mem_map.mp hd
    split_ifs at heq with hsame
    · rw [Bool.and_eq_true] at hsame
      subst heq
      exact Or.inr ⟨rfl, rfl, hsame.1, rfl⟩
    · exact Or.inl (heq ▸ hp)
  · exact Or.inl hd
  · rcases List.mem_cons.mp hd with rfl | hd
    · exact Or.inr ⟨rfl, rfl, hrefl, rfl⟩
    · exact Or.inl hd

/-- A registration leaves an entry for each `FuncDef` of the connection. -/
theorem hasEntry_create {db : SQLite3DB κ γ} {P : Registration κ γ → Prop}
    (hstep : db.funcregistry.InStep) (h : ∀ d ∈ db.aFunc, ∃ r, P r ∧ HasEntry db.funcregistry d r)
    (c : Connected) {r : Registration κ γ} (hr : P r) :
    ∀ d ∈ (db.create c r).2.aFunc, ∃ r', P r' ∧ HasEntry (db.create c r).2.funcregistry d r' := by
  intro d hd
  rw [create_funcregistry]
  have hold : d ∈ db.aFunc → ∃ r', P r' ∧ HasEntry (db.funcregistry.register r).2 d r' := by
    intro hd
    obtain ⟨r', hP, hentry⟩ := h d hd
    exact ⟨r', hP, hentry.register r⟩
  cases hreg : (db.funcregistry.register r).1 with
  | error e =>
    have hsame : (db.create c r).2.aFunc = db.aFunc := by
      unfold create
      rw [show db.funcregistry.register r = (.error e, (db.funcregistry.register r).2) from
        Prod.ext hreg rfl]
    exact hold (hsame ▸ hd)
  | ok x =>
    obtain ⟨-, hfunc, -, hentry⟩ := hstep.register_ok hreg
    have hnew : (db.create c r).2.aFunc = (sqlite3CreateFunc c db.aFunc (str2charp r.key.1) r.key.2
        x.1 r.pointers.1 r.pointers.2.1 r.pointers.2.2).2 := by
      unfold create
      rw [show db.funcregistry.register r = (.ok x, (db.funcregistry.register r).2) from
        Prod.ext hreg rfl]
    rw [hnew] at hd
    rcases sqlite3CreateFunc_mem hd with hd | ⟨hindex, hpointers, hname, hnArg⟩
    · exact hold hd
    · refine ⟨r, hr, ⟨rfl, hpointers⟩, ?_, hname, hnArg⟩
      rw [hindex, ← hfunc]
      exact hentry

/-- Each function that the connection has, after any registrations, resolves to the function object
of one of them, of its name and its number of arguments. -/
theorem funcDefs_resolve (history : List (Connected × Registration κ γ)) :
    ∀ d ∈ (init.after history).aFunc, ∃ x ∈ history,
      (init.after history).funcregistry.get_func d = .ok x.2.func ∧
      sameName d.zName (str2charp x.2.key.1) = true ∧ d.nArg = x.2.key.2 := by
  have hentries : ∀ d ∈ (init.after history).aFunc, ∃ r, (∃ x ∈ history, x.2 = r) ∧
      HasEntry (init.after history).funcregistry d r := by
    induction history using List.reverseRecOn with
    | nil => exact fun d hd => absurd hd List.not_mem_nil
    | append_singleton xs x ih =>
      have hlast : init.after (xs ++ [x]) = ((init.after xs).create x.1 x.2).2 := after_append _ _ _
      rw [hlast]
      refine hasEntry_create (inStep_after InStep.init) (fun d hd => ?_) x.1 ⟨x, by simp, rfl⟩
      obtain ⟨r, ⟨y, hy, hyr⟩, hentry⟩ := ih d hd
      exact ⟨r, ⟨y, List.mem_append_left _ hy, hyr⟩, hentry⟩
  intro d hd
  obtain ⟨r, ⟨x, hx, rfl⟩, hcarries, hentry, hname, hnArg⟩ := hentries d hd
  exact ⟨x, hx, get_func_of_entry hcarries hentry, hname, hnArg⟩

end SQPyte
