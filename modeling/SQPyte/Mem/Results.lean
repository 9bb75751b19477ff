import SQPyte.Mem.Methods

/-!
# Values and results

How the methods that read a cell as a value, and those that store a new one, run on the cells alone.
`sqlite3VdbeMemRelease` leaves `Mem.released`: the cell is NULL if it owned something outside its
buffer, and its own allocation is gone.
-/

namespace SQPyte

open Commands

variable {ρ : Type} (L : CLib ρ)

namespace Mem

/-- What `sqlite3_value_numeric_type` makes of a cell. -/
def numericForm (c : Mem) : Mem :=
  if valueTypeOf c.flags = SQLITE_TEXT then c.applyNumericAffinity L false else c

/-- What `sqlite3VdbeIntValue` returns. -/
def intValue (c : Mem) : ℤ :=
  if c.flags.has MEM_Int then c.u_i
  else if c.flags.has MEM_Real then c.u_r.toInt64
  else if c.flags.has (MEM_Str ||| MEM_Blob) then (L.Atoi64 c.buffer c.n c.enc).2
  else 0

/-- What `sqlite3VdbeRealValue` returns. -/
def realValue (c : Mem) : Binary64 :=
  if c.flags.has MEM_Real then c.u_r
  else if c.flags.has MEM_Int then Binary64.ofInt c.u_i
  else if c.flags.has (MEM_Str ||| MEM_Blob) then (L.AtoF c.buffer c.n c.enc).2
  else 0

/-- What `sqlite3VdbeMemRelease` leaves of a cell, and of the state outside it. -/
def released (c : Mem) (r : ρ) : Mem × ρ :=
  let x := if VdbeMemDynamic c.flags then c.vdbeMemClearExternAndSetNull L r else (c, r)
  if x.1.szMalloc ≠ 0 then ({ x.1 with zMalloc := [], z := .null }, x.2) else x

/-- What is left of a cell that is to hold a value of the type `flags`. -/
def cleared (flags : Flags) (c : Mem) (r : ρ) : Mem × ρ :=
  if c.flags = flags then (c, r) else c.released L r

end Mem

/-- A step on the state outside the cells. -/
theorem run_other_ok {ρ α : Type} {s : Strict ρ} {step : ρ → Except Exc (α × ρ)} {a : α} {r : ρ}
    (h : step s.rest = .ok (a, r)) :
    run (strictMachine ρ) (other step) s = .ok (a, { s with rest := r }) := by
  unfold other
  rw [run_perform, strictMachine]
  simp only [h]

variable {L} {s : Strict ρ} {i : ℕ} {c : Mem} {w : Member}

namespace Strict

/-! ## Reading a value -/

/-- The type of a value. -/
theorem At.run_sqlite3_value_type (h : s.At i c w) :
    run (strictMachine ρ) (sqlite3_value_type i) s = .ok (valueTypeOf c.flags, s) := by
  unfold sqlite3_value_type
  rw [run_bind_ok h.run_get_flags, run_pure]

/-- The numeric type, which turns a numeric text into a number. -/
theorem At.run_sqlite3_value_numeric_type (L : CLib ρ) (h : s.At i c w) :
    ∃ w', run (strictMachine ρ) (sqlite3_value_numeric_type L i) s =
        .ok (valueTypeOf (c.numericForm L).flags, s.setMem i (c.numericForm L) w') ∧
      (Announces c w → Announces (c.numericForm L) w') := by
  unfold sqlite3_value_numeric_type Mem.numericForm
  rw [run_bind_ok h.run_sqlite3_value_type]
  by_cases ht : valueTypeOf c.flags = SQLITE_TEXT
  · rw [if_pos ht, if_pos ht]
    refine ⟨.foreign, ?_, fun _ => ⟨fun _ => Or.inr rfl, fun _ => Or.inr rfl⟩⟩
    have hat := h.setMem (c.applyNumericAffinity L false) .foreign
    have hc : run (strictMachine ρ) (applyNumericAffinity L i false) s =
        .ok ((), s.setMem i (c.applyNumericAffinity L false) .foreign) := h.run_c_mem rfl
    rw [run_bind_ok hc, hat.run_sqlite3_value_type]
  · rw [if_neg ht, if_neg ht]
    exact ⟨w, by rw [h.setMem_self, run_pure], id⟩

/-- The integer of a cell. -/
theorem At.run_sqlite3VdbeIntValue (L : CLib ρ) (h : s.At i c w) (ha : Announces c w) :
    run (strictMachine ρ) (sqlite3VdbeIntValue L i) s = .ok (c.intValue L, s) := by
  unfold sqlite3VdbeIntValue Mem.intValue
  rw [run_bind_ok h.run_get_flags]
  by_cases hi : c.flags.has MEM_Int = true
  · rw [if_pos hi, if_pos hi]
    exact h.run_get_u_i hi (ha.1 hi)
  rw [if_neg hi, if_neg hi]
  by_cases hr : c.flags.has MEM_Real = true
  · rw [if_pos hr, if_pos hr, run_bind_ok (h.run_get_u_r hr (ha.2 hr)), run_pure]
  rw [if_neg hr, if_neg hr]
  by_cases hs : c.flags.has (MEM_Str ||| MEM_Blob) = true
  · rw [if_pos hs, if_pos hs]
    unfold _atoi
    rw [run_bind_ok (h.run_peek _), run_pure]
  · rw [if_neg hs, if_neg hs, run_pure]

/-- The real of a cell. -/
theorem At.run_sqlite3VdbeRealValue (L : CLib ρ) (h : s.At i c w) (ha : Announces c w) :
    run (strictMachine ρ) (sqlite3VdbeRealValue L i) s = .ok (c.realValue L, s) := by
  unfold sqlite3VdbeRealValue Mem.realValue
  rw [run_bind_ok h.run_get_flags]
  by_cases hr : c.flags.has MEM_Real = true
  · rw [if_pos hr, if_pos hr]
    exact h.run_get_u_r hr (ha.2 hr)
  rw [if_neg hr, if_neg hr]
  by_cases hi : c.flags.has MEM_Int = true
  · rw [if_pos hi, if_pos hi, run_bind_ok (h.run_get_u_i hi (ha.1 hi)), run_pure]
  rw [if_neg hi, if_neg hi]
  by_cases hs : c.flags.has (MEM_Str ||| MEM_Blob) = true
  · rw [if_pos hs, if_pos hs]
    exact h.run_peek _
  · rw [if_neg hs, if_neg hs, run_pure]

/-! ## Storing a value -/

/-- NULL is not dynamic. -/
theorem not_dynamic_null : VdbeMemDynamic MEM_Null = false := by decide

/-- A cell that owns nothing outside its buffer is not touched. -/
theorem At.run_VdbeMemRelease (L : CLib ρ) (h : s.At i c w) :
    ∃ w', run (strictMachine ρ) (VdbeMemRelease L i) s =
      .ok ((), { s.setMem i
          (if VdbeMemDynamic c.flags then c.vdbeMemClearExternAndSetNull L s.rest
            else (c, s.rest)).1 w' with
        rest := (if VdbeMemDynamic c.flags then c.vdbeMemClearExternAndSetNull L s.rest
          else (c, s.rest)).2 }) := by
  unfold VdbeMemRelease
  rw [run_bind_ok h.run_get_flags]
  by_cases hd : VdbeMemDynamic c.flags = true
  · rw [if_pos hd, if_pos hd]
    exact ⟨.foreign, h.run_c_mem rfl⟩
  · rw [if_neg hd, if_neg hd]
    refine ⟨w, ?_⟩
    rw [h.setMem_self, run_pure]

/-- A release. -/
theorem At.run_sqlite3VdbeMemRelease (L : CLib ρ) (h : s.At i c w) :
    ∃ w', run (strictMachine ρ) (sqlite3VdbeMemRelease L i) s =
      .ok ((), { s.setMem i (c.released L s.rest).1 w' with rest := (c.released L s.rest).2 }) := by
  obtain ⟨w', hrun⟩ := h.run_VdbeMemRelease L
  unfold sqlite3VdbeMemRelease Mem.released
  rw [run_bind_ok hrun]
  set x := if VdbeMemDynamic c.flags then c.vdbeMemClearExternAndSetNull L s.rest else (c, s.rest)
    with hx
  have hnd : VdbeMemDynamic x.1.flags = false := by
    rw [hx]
    split_ifs with hd
    · exact not_dynamic_null
    · simpa using hd
  have hat : Strict.At { s.setMem i x.1 w' with rest := x.2 } i x.1 w' := h.setMem x.1 w'
  rw [run_bind_ok hat.run_get_flags, run_bind_ok (hat.run_peek _), hnd]
  by_cases hsz : x.1.szMalloc ≠ 0
  · refine ⟨w', ?_⟩
    unfold vdbeMemClear
    rw [if_pos (by simpa using hsz), if_pos hsz, run_bind_ok hat.run_get_flags, hnd]
    simp only [Bool.false_eq_true, ↓reduceIte]
    rw [run_bind_ok (hat.run_peek _), hat.run_poke]
    simp [freeBuffer, hsz, Strict.setMem]
  · refine ⟨w', ?_⟩
    rw [if_neg (by simpa using hsz), if_neg hsz, run_pure]

/-- Setting a cell to an integer. -/
theorem At.run_sqlite3VdbeMemSetInt64 (L : CLib ρ) (h : s.At i c w) (val : ℤ) (constant : Bool) :
    run (strictMachine ρ) (sqlite3VdbeMemSetInt64 L i val constant) s =
      .ok ((), { s.setMem i { (c.cleared L MEM_Int s.rest).1 with
          flags := MEM_Int, u := BitVec.ofInt 64 val } .i with
        rest := (c.cleared L MEM_Int s.rest).2 }) := by
  unfold sqlite3VdbeMemSetInt64 Mem.cleared
  rw [run_bind_ok h.run_get_flags]
  by_cases hf : c.flags = MEM_Int
  · rw [if_neg (not_not.mpr hf), if_pos hf]
    refine (h.run_set_u_i val constant).trans ?_
    rw [← hf]
    rfl
  · obtain ⟨w', hrun⟩ := h.run_sqlite3VdbeMemRelease L
    have hat : Strict.At { s.setMem i (c.released L s.rest).1 w' with
      rest := (c.released L s.rest).2 } i (c.released L s.rest).1 w' := h.setMem _ w'
    rw [if_pos hf, if_neg hf]
    simp only
    rw [run_bind_ok hrun, run_bind_ok (hat.run_set_flags MEM_Int), (hat.setMem _ _).run_set_u_i]
    simp [Strict.setMem]

/-- Writing the real of a cell. -/
theorem At.run_set_u_r (h : s.At i c w) (val : Binary64) :
    run (strictMachine ρ) (set_u_r i val) s = .ok ((), s.setMem i { c with u := val } .r) := by
  unfold set_u_r
  rw [run_perform, strictMachine, h.atMem_ok (if_neg (by simp))]
  rfl

/-- Setting a cell to a real. -/
theorem At.run_sqlite3VdbeMemSetDouble (L : CLib ρ) (h : s.At i c w) {val : Binary64}
    (hval : val.isNaN = false) :
    run (strictMachine ρ) (sqlite3VdbeMemSetDouble L i val) s =
      .ok ((), { s.setMem i { (c.cleared L MEM_Real s.rest).1 with flags := MEM_Real, u := val } .r
        with rest := (c.cleared L MEM_Real s.rest).2 }) := by
  unfold sqlite3VdbeMemSetDouble Mem.cleared
  rw [if_neg (by simp [hval]), run_bind_ok h.run_get_flags]
  by_cases hf : c.flags = MEM_Real
  · rw [if_neg (not_not.mpr hf), if_pos hf]
    refine (h.run_set_u_r val).trans ?_
    rw [← hf]
    rfl
  · obtain ⟨w', hrun⟩ := h.run_sqlite3VdbeMemRelease L
    have hat : Strict.At { s.setMem i (c.released L s.rest).1 w' with
      rest := (c.released L s.rest).2 } i (c.released L s.rest).1 w' := h.setMem _ w'
    rw [if_pos hf, if_neg hf]
    simp only
    rw [run_bind_ok hrun, run_bind_ok (hat.run_set_flags MEM_Real), (hat.setMem _ _).run_set_u_r]
    simp [Strict.setMem]

/-- What `sqlite3VdbeMemSetNull` leaves in a cell that is neither a frame nor a row set. -/
theorem At.run_sqlite3VdbeMemSetNull (L : CLib ρ) (h : s.At i c w)
    (hframe : c.flags.has MEM_Frame = false) (hrow : c.flags.has MEM_RowSet = false) :
    run (strictMachine ρ) (sqlite3VdbeMemSetNull L i) s =
      .ok ((), s.setMem i { c with flags := withTypeFlag c.flags MEM_Null } w) := by
  unfold sqlite3VdbeMemSetNull MemSetTypeFlag
  rw [run_bind_ok h.run_get_flags, run_bind_ok h.run_get_flags, hframe, hrow]
  simp only [Bool.or_self, Bool.false_eq_true, ↓reduceIte]
  rw [run_bind_ok h.run_get_flags, h.run_set_flags]

/-- A NaN is stored as NULL. -/
theorem At.run_sqlite3VdbeMemSetDouble_nan (L : CLib ρ) (h : s.At i c w) {val : Binary64}
    (hval : val.isNaN = true) (hframe : c.flags.has MEM_Frame = false)
    (hrow : c.flags.has MEM_RowSet = false) :
    run (strictMachine ρ) (sqlite3VdbeMemSetDouble L i val) s =
      .ok ((), s.setMem i { c with flags := withTypeFlag c.flags MEM_Null } w) := by
  unfold sqlite3VdbeMemSetDouble
  rw [if_pos hval, h.run_sqlite3VdbeMemSetNull L hframe hrow]

end Strict

end SQPyte
