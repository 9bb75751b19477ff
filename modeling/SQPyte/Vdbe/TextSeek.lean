import SQPyte.Vdbe.RowidSeek

/-!
# Seeks for a text

A seek converts a text in `r[P3]` to a number if it looks like one. `OP_SeekLT_SeekLE_SeekGE_SeekGT`
goes on with the flags that it read before, so that a text never counts as a number and the opcode
jumps; `sqpyte.c` reads them again (`impl_seek_text`). The two agree on the texts that do not look
like numbers (`seeksAsNumber_iff`).
-/

namespace SQPyte

open Commands

/-- The cell holds a text, and no number next to it. -/
def Mem.IsText (c : Mem) : Prop :=
  c.flags.has MEM_Str = true ∧ c.flags.has MEM_Int = false ∧ c.flags.has MEM_Real = false

/-- The cell holds a number. -/
def Mem.hasNumber (c : Mem) : Bool := c.flags.has MEM_Int || c.flags.has MEM_Real

section text

variable {ρ : Type} (L : CLib ρ) (OP_SeekLT : ℕ)

/-- The text looks like a number. -/
def Mem.LooksNumeric (c : Mem) : Prop := (L.AtoF c.buffer c.n c.enc).1 = true

/-- What the conversion makes of a key. -/
def Mem.seekForm (c : Mem) : Mem :=
  if c.flags &&& (MEM_Int ||| MEM_Real ||| MEM_Str) = MEM_Str then c.applyNumericAffinity L false
  else c

/-- The opcode number and the integer that `sqpyte.c` searches for. -/
def Mem.c_seekTarget (opcode : Opcode) (c : Mem) : Option (ℕ × ℤ) :=
  let iKey := c.sqlite3VdbeIntValue L
  if !c.flags.has MEM_Int then
    if !c.flags.has MEM_Real then none
    else some (seekAdjust OP_SeekLT (opcode.seekNumber OP_SeekLT) iKey c.u_r, iKey)
  else some (opcode.seekNumber OP_SeekLT, iKey)

variable {L OP_SeekLT} {c : Mem} {op : Op}

/-- A text is sought in its numeric form. -/
theorem seekForm_of_text (h : c.IsText) : c.seekForm L = c.applyNumericAffinity L false :=
  if_pos ((strOnly_iff c.flags).mpr h)

/-- A number is not converted again. -/
theorem seekForm_of_number (h : c.hasNumber = true) : c.seekForm L = c := by
  refine if_neg fun hstr => ?_
  obtain ⟨-, hi, hr⟩ := (strOnly_iff c.flags).mp hstr
  unfold Mem.hasNumber at h
  rw [hi, hr] at h
  cases h

/-- A numeric text becomes a number. -/
theorem applyNumericAffinity_of_numeric (h : c.LooksNumeric L) :
    c.applyNumericAffinity L false =
      if (L.Atoi64 c.buffer c.n c.enc).1 = 0 then
        { c with u := BitVec.ofInt 64 (L.Atoi64 c.buffer c.n c.enc).2, flags := c.flags ||| MEM_Int }
      else { c with u := (L.AtoF c.buffer c.n c.enc).2, flags := c.flags ||| MEM_Real } := by
  have hno : ¬ (!(L.AtoF c.buffer c.n c.enc).1) = true := by
    rw [show (L.AtoF c.buffer c.n c.enc).1 = true from h]
    decide
  unfold Mem.applyNumericAffinity
  exact if_neg hno

/-- Another text stays what it is. -/
theorem applyNumericAffinity_of_not_numeric (h : ¬ c.LooksNumeric L) :
    c.applyNumericAffinity L false = c := by
  have hno : (!(L.AtoF c.buffer c.n c.enc).1) = true := by
    rw [Bool.not_eq_true', ← Bool.not_eq_true]
    exact h
  unfold Mem.applyNumericAffinity
  exact if_pos hno

/-- The conversion makes a number of the texts that look like one. -/
theorem hasNumber_applyNumericAffinity (h : c.IsText) :
    (c.applyNumericAffinity L false).hasNumber = true ↔ c.LooksNumeric L := by
  by_cases hnum : c.LooksNumeric L
  · rw [applyNumericAffinity_of_numeric hnum]
    unfold Mem.hasNumber
    split_ifs
    · have hint : Flags.has (c.flags ||| MEM_Int) MEM_Int = true := by
        rw [Flags.has_or_left]
        simp
      simp only [hint, Bool.true_or, hnum]
    · have hreal : Flags.has (c.flags ||| MEM_Real) MEM_Real = true := by
        rw [Flags.has_or_left]
        simp
      simp only [hreal, Bool.or_true, hnum]
  · rw [applyNumericAffinity_of_not_numeric hnum]
    unfold Mem.hasNumber
    rw [h.2.1, h.2.2]
    simp [hnum]

/-- The key of the version in C. -/
theorem c_seekKey_eq {mems : List Mem} (hcell : mems[op.p3.toNat]? = some c) (r : ρ) :
    c_seekKey OP_SeekLT L op mems r =
      .ok ((c.seekForm L).c_seekTarget L OP_SeekLT op.opcode, mems.set op.p3.toNat (c.seekForm L), r)
    := by
  have hlt : op.p3.toNat < mems.length := (List.getElem?_eq_some_iff.mp hcell).1
  unfold c_seekKey
  rw [onMem_eq hcell]
  simp only [Except.map, bind, Except.bind]
  have hform : (if c.flags &&& (MEM_Int ||| MEM_Real ||| MEM_Str) = MEM_Str then
      c.applyNumericAffinity L false else c) = c.seekForm L := rfl
  have hget : aMem (mems.set op.p3.toNat (c.seekForm L)) op.p3 = .ok (c.seekForm L) := by
    unfold aMem
    rw [List.getElem?_set_self hlt]
  rw [hform, hget]
  unfold Mem.c_seekTarget
  dsimp only
  split_ifs <;> rfl

variable {s : Strict ρ} {w : Member}

variable (OP_SeekLT) in
/-- A text key is converted, and then counts as no number all the same. -/
theorem run_seekKey_of_text (htext : c.IsText) (h : s.At op.p3.toNat c w)
    (hp3 : IsRegister s.mems.length s.nMem op.p3) :
    run (strictMachine ρ) (seekKey OP_SeekLT L op) s =
      .ok (none, s.setMem op.p3.toNat (c.applyNumericAffinity L false) .foreign) := by
  have hat := h.setMem (c.applyNumericAffinity L false) .foreign
  have hc : run (strictMachine ρ) (applyNumericAffinity L op.p3.toNat false) s =
      .ok ((), s.setMem op.p3.toNat (c.applyNumericAffinity L false) .foreign) := h.run_c_mem rfl
  unfold seekKey Op.mem_of_p3
  dsimp only
  rw [run_bind_ok (run_mem_of_p hp3), run_bind_ok h.run_get_flags,
    if_pos ((strOnly_iff c.flags).mpr htext), run_bind_ok hc,
    run_bind_ok (hat.run_sqlite3VdbeIntValue L ⟨fun _ => Or.inr rfl, fun _ => Or.inr rfl⟩),
    htext.2.1, htext.2.2]
  rfl

end text

/-! ## The opcode -/

variable {β κ : Type} {L : CLib (Cursors β κ)} {B : Btree β κ} {OP_SeekLT : ℕ} {op : Op} {pc : ℕ}
  {m : Machine (Cursors β κ)} {c : Mem} {pC : VdbeCursor β} {b : β} {rc : ResultCode}

/-- The C version on a table. -/
theorem impl_seek_eq (hcursor : seekCursor op m.rest = .ok (pC, b)) (htable : pC.isTable = true)
    {mems : List Mem} (hcell : mems[op.p3.toNat]? = some c) :
    impl_OP_SeekLT_SeekLE_SeekGE_SeekGT L B OP_SeekLT pc rc op mems m.rest =
      match (c.seekForm L).c_seekTarget L OP_SeekLT op.opcode with
      | none => .ok (.next op.p2.toNat rc, mems.set op.p3.toNat (c.seekForm L), m.rest.started op pC)
      | some (oc, iKey) => (seekMove B OP_SeekLT oc none iKey pc op (m.rest.started op pC)).map
          fun x => (x.1, mems.set op.p3.toNat (c.seekForm L), x.2) := by
  unfold impl_OP_SeekLT_SeekLE_SeekGE_SeekGT
  simp only [hcursor, bind, Except.bind]
  rw [if_pos htable, c_seekKey_eq hcell]
  dsimp only
  cases (c.seekForm L).c_seekTarget L OP_SeekLT op.opcode with
  | none => rfl
  | some x =>
    dsimp only
    have hstart : m.rest.set op.p1 { pC with nullRow := false } = m.rest.started op pC := rfl
    rw [hstart]
    cases seekMove B OP_SeekLT x.1 none x.2 pc op (m.rest.started op pC) with
    | error e => rfl
    | ok y => rfl

/-- In C a text that looks like a number is sought as the number. -/
theorem impl_seek_text (h : TableSeek m op c pC b) (htext : c.IsText) (hnum : c.LooksNumeric L) :
    impl_OP_SeekLT_SeekLE_SeekGE_SeekGT L B OP_SeekLT pc rc op m.mems m.rest =
      impl_OP_SeekLT_SeekLE_SeekGE_SeekGT L B OP_SeekLT pc rc op
        (m.mems.set op.p3.toNat (c.applyNumericAffinity L false)) m.rest := by
  have hlt : op.p3.toNat < m.mems.length := (List.getElem?_eq_some_iff.mp h.cell).1
  have hnumber := (hasNumber_applyNumericAffinity htext).mpr hnum
  rw [impl_seek_eq h.cursor h.table h.cell,
    impl_seek_eq h.cursor h.table (List.getElem?_set_self hlt), seekForm_of_text htext,
    seekForm_of_number hnumber, List.set_set]

variable (L B OP_SeekLT pc rc op m c) in
/-- What a seek has to do with the text `c`. -/
structure SeeksAsNumber : Prop where
  /-- It leaves what it leaves with the number that the text looks like in place of the text. -/
  number : c.LooksNumeric L → ∀ m' : Machine (Cursors β κ), m'.Sound →
    m'.mems = m.mems.set op.p3.toNat (c.applyNumericAffinity L false) → m'.nMem = m.nMem →
    m'.rest = m.rest →
    execute (OP_SeekLT_SeekLE_SeekGE_SeekGT L B OP_SeekLT pc rc op) m =
      execute (OP_SeekLT_SeekLE_SeekGE_SeekGT L B OP_SeekLT pc rc op) m'
  /-- It gives up only if the conversion makes no number of the text. -/
  giveUp : ∀ mems r, execute (seekKey OP_SeekLT L op) m = .ok (none, mems, r) →
    (c.applyNumericAffinity L false).hasNumber = false
  /-- The C version does the same. -/
  reference : execute (OP_SeekLT_SeekLE_SeekGE_SeekGT L B OP_SeekLT pc rc op) m =
    impl_OP_SeekLT_SeekLE_SeekGE_SeekGT L B OP_SeekLT pc rc op m.mems m.rest

/-- Whatever the text, the opcode jumps. -/
theorem seek_text (h : TableSeek m op c pC b) (htext : c.IsText) :
    execute (OP_SeekLT_SeekLE_SeekGE_SeekGT L B OP_SeekLT pc rc op) m =
      .ok (.next op.p2.toNat rc, m.mems.set op.p3.toNat (c.applyNumericAffinity L false),
        m.rest.started op pC) := by
  obtain ⟨written, hR, -⟩ := h.sound
  have hat : Strict.At { m.strict written with rest := m.rest.started op pC } op.p3.toNat c
      (written op.p3.toNat) := ⟨h.cell, rfl⟩
  have hkey := run_seekKey_of_text (L := L) OP_SeekLT htext hat h.p3
  have hrun := run_seek B OP_SeekLT pc (s := m.strict written) h.cursor h.table rc hkey
  exact execute_of_strict hR hrun

/-- The opcode treats a text as it should exactly if it does not look like a number. -/
theorem seeksAsNumber_iff (h : TableSeek m op c pC b) (htext : c.IsText) :
    SeeksAsNumber L B OP_SeekLT op pc m c rc ↔ ¬ c.LooksNumeric L := by
  rw [← hasNumber_applyNumericAffinity htext]
  constructor
  · intro hseek hnum
    obtain ⟨written, hR, -⟩ := h.sound
    have hkey := run_seekKey_of_text (L := L) OP_SeekLT htext
      (s := m.strict written) ⟨h.cell, rfl⟩ h.p3
    have hno := hseek.giveUp _ _ (execute_of_strict hR hkey)
    rw [hnum] at hno
    cases hno
  · intro hno
    have hform : ((c.applyNumericAffinity L false).c_seekTarget L OP_SeekLT op.opcode) = none := by
      rw [Bool.not_eq_true, Mem.hasNumber, Bool.or_eq_false_iff] at hno
      unfold Mem.c_seekTarget
      dsimp only
      rw [hno.1, hno.2]
      rfl
    refine ⟨fun hlooks => ?_, fun _ _ _ => Bool.eq_false_iff.mpr hno, ?_⟩
    · exact absurd ((hasNumber_applyNumericAffinity htext).mpr hlooks) hno
    · rw [seek_text h htext, impl_seek_eq h.cursor h.table h.cell, seekForm_of_text htext, hform]

/-! ## Concrete texts -/

/-- The address that an opcode goes on at. -/
def exitAddress {α : Type} (r : Except Exc (Exit × α)) : Option ℕ :=
  match r with
  | .ok (.next target _, _) => some target
  | _ => none

/-- The text `4`. -/
def textFour : Mem := Mem.ofText [52]

/-- It is a text. -/
theorem isText_textFour : textFour.IsText := by
  simp [textFour, Mem.ofText, Mem.IsText]

/-- The text `x` is sought as it should be. -/
theorem seeksAsNumber_x : SeeksAsNumber (CLib.decimalOver _) oneRow 60 seekGTOp 3
    (oneRowSeek (Mem.ofText [120])) (Mem.ofText [120]) .ok :=
  (seeksAsNumber_iff (tableSeek_oneRow _) (by simp [Mem.ofText, Mem.IsText])).mpr (by
    unfold Mem.LooksNumeric
    decide)

/-- With the rowid 5 and `SeekGT`, the integer 4 finds the row, in C the text `4` finds it too, but the
opcode jumps to address 7. -/
theorem not_seeksAsNumber_four :
    TableSeek (oneRowSeek textFour) seekGTOp textFour oneRowCursor none ∧ textFour.IsText ∧
    exitAddress (execute (OP_SeekLT_SeekLE_SeekGE_SeekGT (CLib.decimalOver _) oneRow 60 3 .ok seekGTOp)
      (oneRowSeek textFour)) = some 7 ∧
    exitAddress (execute (OP_SeekLT_SeekLE_SeekGE_SeekGT (CLib.decimalOver _) oneRow 60 3 .ok seekGTOp)
      (oneRowSeek (Mem.ofInt 4))) = some 4 ∧
    exitAddress (impl_OP_SeekLT_SeekLE_SeekGE_SeekGT (CLib.decimalOver _) oneRow 60 3 .ok seekGTOp
      (oneRowSeek textFour).mems (oneRowSeek textFour).rest) = some 4 ∧
    ¬ SeeksAsNumber (CLib.decimalOver _) oneRow 60 seekGTOp 3 (oneRowSeek textFour) textFour .ok := by
  have hpy : exitAddress (execute (OP_SeekLT_SeekLE_SeekGE_SeekGT (CLib.decimalOver _) oneRow 60 3 .ok
      seekGTOp) (oneRowSeek textFour)) = some 7 := by decide +kernel
  have hc : exitAddress (impl_OP_SeekLT_SeekLE_SeekGE_SeekGT (CLib.decimalOver _) oneRow 60 3 .ok
      seekGTOp (oneRowSeek textFour).mems (oneRowSeek textFour).rest) = some 4 := by decide +kernel
  refine ⟨tableSeek_oneRow _, isText_textFour, hpy, by decide +kernel, hc, fun h => ?_⟩
  rw [h.reference, hc] at hpy
  revert hpy
  decide

end SQPyte
