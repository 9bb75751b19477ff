import SQPyte.Library.Runs
import SQPyte.Vdbe.MemoryTable

/-!
# Runs of cursors of tables

A statement moves and reads its cursors, and in between others write to the tables. The invariant
`WellFormed` says when the state of a statement represents the sights of its cursors, and
`follows_of_each` that along a run each step is that of `Does`. A column that can be read is then
read wherever a run has led (`column_proceeds`).

One thing is promised of the writes (`Notices.past`): when a cursor has looked for its row again and
found it deleted, nothing is written to its table until it moves on. It may be that `btree.c` then
has the cursor between two rows, on a page that it has let go of.
-/

namespace SQPyte

open Neighbours

variable {β κ : Type}

/-! ## Runs -/

/-- The state represents the sights of its cursors. -/
structure CursorState.WellFormed (B : RowBtree β κ) (stand : β → κ → Stand) (s : CursorState β κ) :
    Prop where
  /-- Each cursor is one of a table, and what it keeps is right. -/
  cursors : ∀ pC ∈ s.apCsr, pC.isTable = true ∧
    pC.Keeps B (fun b w => (stand b w).row) pC.row.aType.length s.world
  /-- Each register knows its allocation. -/
  registers : ∀ c ∈ s.aMem, c.szMalloc = c.zMalloc.length
  /-- No description is current by chance. -/
  cacheCtr : s.cacheCtr.toNat ≠ CACHE_STALE

/-- What the opcodes assert, and what is promised of the rest. -/
def CursorEvent.Allowed (stand : β → κ → Stand) (enc : ℕ) (s : CursorState β κ) :
    CursorEvent β κ → Prop
  -- The hint is for indexes only.
  | .Next op _ => op.p3 = 0
  | .Column op p4 _ => op.p5_has (OPFLAG_LENGTHARG ||| OPFLAG_TYPEOFARG) = false ∧
      DefaultOk enc p4 ∧ ∀ pC, s.apCsr[op.p1.toNat]? = some pC → op.p2.toNat < pC.row.aType.length
  | .write op _ w => ∀ (i : ℕ) (pC : ColumnCursor β), i ≠ op.p1.toNat →
      s.apCsr[i]? = some pC →
      ∀ b, pC.pCursor = some b → Notices stand s.world w b
  | .registers aMem => ∀ c ∈ aMem, c.szMalloc = c.zMalloc.length
  | .elsewhere w => ∀ (i : ℕ) (pC : ColumnCursor β), s.apCsr[i]? = some pC →
      ∀ b, pC.pCursor = some b → Notices stand s.world w b
  | _ => True

/-- The event is a write. -/
def CursorEvent.writes : CursorEvent β κ → Bool
  | .write _ _ _ => true
  | .elsewhere _ => true
  | _ => false

/-- A step is what it says of the sights. -/
structure Follows (L : CLib κ) (enc : ℕ) (stand : β → κ → Stand) (s : CursorState β κ)
    (e : CursorEvent β κ) (s' : CursorState β κ) : Prop where
  /-- The cursor of the event. -/
  does : ∀ i, e.cursor = some i →
    ∃ x x', s.sight stand i = some x ∧ s'.sight stand i = some x' ∧ e.Does L enc s s' x x'
  /-- Only a write changes a table. -/
  others : e.writes = false → ∀ i, e.cursor ≠ some i → s'.sight stand i = s.sight stand i
  /-- Other cursors keep their places. -/
  places : ∀ i, e.cursor ≠ some i →
    (s'.sight stand i).map Sight.place = (s.sight stand i).map Sight.place

section runs

variable {L : CLib κ} {B : RowBtree β κ} {stand : β → κ → Stand} {nField : ℕ} {pC pC' : ColumnCursor β}
  {w w' : κ} {p : Place} {s s' : CursorState β κ} {e : CursorEvent β κ} {i : ℕ} {enc : ℕ} {limit : ℤ}

/-- A cursor of the b-tree that does not move keeps what its cursor keeps. -/
theorem ColumnCursor.Keeps.of_stand (hB : B.IsTable L stand)
    (hk : pC.Keeps B (fun b w => (stand b w).row) nField w) (h : ∀ b, stand b w' = stand b w) :
    pC.Keeps B (fun b w => (stand b w).row) nField w' := by
  refine ⟨hk.cursor, hk.length_aOffset, hk.length_aType, fun hs => ?_⟩
  obtain ⟨hnull, hdesc⟩ := hk.current hs
  refine ⟨hnull, fun b hb hmoved => ?_⟩
  rw [hB.moved_eq, h, ← hB.moved_eq] at hmoved
  rw [h]
  exact hdesc b hb hmoved

/-- So does one that notices what is written. -/
theorem ColumnCursor.Keeps.of_notices (hB : B.IsTable L stand)
    (hk : pC.Keeps B (fun b w => (stand b w).row) nField w)
    (h : ∀ b, pC.pCursor = some b → Notices stand w w' b) :
    pC.Keeps B (fun b w => (stand b w).row) nField w' := by
  refine ⟨hk.cursor, hk.length_aOffset, hk.length_aType, fun hs => ?_⟩
  obtain ⟨hnull, hdesc⟩ := hk.current hs
  refine ⟨hnull, fun b hb hmoved => ?_⟩
  rw [hB.moved_eq] at hmoved
  obtain ⟨hmoved', hrow⟩ := (h b hb).row_eq hmoved
  rw [hrow]
  exact hdesc b hb ((hB.moved_eq b w).trans hmoved')

/-- What a cursor stands for. -/
theorem CursorState.sight_eq (hpC : s.apCsr[i]? = some pC) :
    s.sight stand i = pC.sight stand s.world := by
  unfold CursorState.sight
  rw [hpC]
  rfl

/-- A cursor that notices what is written keeps its place. -/
theorem ColumnCursor.place_of_notices (h : ∀ b, pC.pCursor = some b → Notices stand w w' b) :
    (pC.sight stand w').map Sight.place = (pC.sight stand w).map Sight.place := by
  unfold ColumnCursor.sight
  cases hb : pC.pCursor with
  | none => rfl
  | some b =>
    simp only [Option.map_some, Option.some.injEq]
    unfold ColumnCursor.sightOf ColumnCursor.place
    rw [(h b hb).spot_eq]

/-- A cursor of a state, with its cursor of the b-tree. -/
theorem CursorState.WellFormed.cursor (hs : s.WellFormed B stand) (hpC : s.apCsr[i]? = some pC) :
    pC.isTable = true ∧ pC.Keeps B (fun b w => (stand b w).row) pC.row.aType.length s.world ∧
      ∃ b, pC.pCursor = some b := by
  obtain ⟨htable, hk⟩ := hs.cursors pC (List.mem_of_getElem? hpC)
  exact ⟨htable, hk, hk.cursor⟩

/-- A cursor goes to a place: the state is still right, and no other cursor moves. -/
theorem CursorState.WellFormed.goesTo (hB : B.IsTable L stand) (hs : s.WellFormed B stand)
    (hpC : s.apCsr[i]? = some pC)
    (hgo : pC.GoesTo B stand pC.row.aType.length s.world pC' s'.world p)
    (hapCsr : s'.apCsr = s.apCsr.set i pC') (hctr : s'.cacheCtr = s.cacheCtr)
    (haMem : ∀ c ∈ s'.aMem, c.szMalloc = c.zMalloc.length) :
    s'.WellFormed B stand ∧ (∃ b, pC.pCursor = some b ∧
      s.sight stand i = some (pC.sightOf (stand b s.world)) ∧
      s'.sight stand i = some ((pC.sightOf (stand b s.world)).at p)) ∧
      ∀ j, j ≠ i → s'.sight stand j = s.sight stand j := by
  obtain ⟨b, b', hb, hb', hmoves, hplace⟩ := hgo.moves
  have hi : i < s.apCsr.length := by
    obtain ⟨h, -⟩ := List.getElem?_eq_some_iff.mp hpC
    exact h
  have hself : s'.apCsr[i]? = some pC' := by
    rw [hapCsr, List.getElem?_set_self hi]
  have hother : ∀ j, j ≠ i → s'.apCsr[j]? = s.apCsr[j]? := by
    intro j hj
    rw [hapCsr, List.getElem?_set_ne (Ne.symm hj)]
  refine ⟨⟨fun q hq => ?_, haMem, hctr ▸ hs.cacheCtr⟩, ⟨b, hb, ?_, ?_⟩, fun j hj => ?_⟩
  · obtain ⟨j, hj⟩ := List.mem_iff_getElem?.mp hq
    by_cases heq : j = i
    · subst heq
      obtain rfl : pC' = q := Option.some.inj (hself.symm.trans hj)
      refine ⟨hgo.isTable, ?_⟩
      rw [hgo.keeps.length_aType]
      exact hgo.keeps
    · rw [hother j heq] at hj
      obtain ⟨htable, hk⟩ := hs.cursors q (List.mem_iff_getElem?.mpr ⟨j, hj⟩)
      exact ⟨htable, hk.of_stand hB hmoves.others⟩
  · rw [CursorState.sight_eq hpC]
    unfold ColumnCursor.sight
    rw [hb]
    rfl
  · rw [CursorState.sight_eq hself]
    unfold ColumnCursor.sight
    rw [hb']
    simp only [Option.map_some, ColumnCursor.sightOf, Sight.at, hmoves.rows_eq, hmoves.entry_eq,
      hplace]
  · unfold CursorState.sight ColumnCursor.sight
    rw [hother j hj]
    simp only [hmoves.others]

/-- A step in which the cursor of the event goes to a place. -/
theorem CursorState.WellFormed.follows (hB : B.IsTable L stand) (hs : s.WellFormed B stand)
    (hpC : s.apCsr[i]? = some pC) {b : β} (hb : pC.pCursor = some b)
    (hgo : pC.GoesTo B stand pC.row.aType.length s.world pC' s'.world p)
    (hapCsr : s'.apCsr = s.apCsr.set i pC') (hctr : s'.cacheCtr = s.cacheCtr)
    (haMem : ∀ c ∈ s'.aMem, c.szMalloc = c.zMalloc.length) (hcursor : e.cursor = some i)
    (hdoes : e.Does L enc s s' (pC.sightOf (stand b s.world))
      ((pC.sightOf (stand b s.world)).at p)) :
    s'.WellFormed B stand ∧ Follows L enc stand s e s' := by
  obtain ⟨hs', ⟨b', hb', hx, hx'⟩, hothers⟩ := hs.goesTo hB hpC hgo hapCsr hctr haMem
  obtain rfl : b = b' := Option.some.inj (hb.symm.trans hb')
  refine ⟨hs', fun j hj => ?_, fun _ j hj => ?_, fun j hj => ?_⟩
  · obtain rfl : i = j := Option.some.inj (hcursor.symm.trans hj)
    exact ⟨_, _, hx, hx', hdoes⟩
  · exact hothers j fun h => hj (h ▸ hcursor)
  · rw [hothers j fun h => hj (h ▸ hcursor)]

/-- An opcode that has not failed. -/
theorem CursorState.finish_eq {op : Op} {exit : CursorExit}
    (h : (s.finish op exit pC w).running = true) : ∃ target, exit = .done SQLITE_OK target ∧
      s.finish op exit pC w = { s with
        pc := target, apCsr := s.apCsr.set op.p1.toNat pC, world := w, running := true } := by
  cases exit with
  | done rc target =>
    obtain rfl : rc = SQLITE_OK := of_decide_eq_true h
    exact ⟨target, rfl, rfl⟩
  | abort_due_to_error _ => cases h
  | abort_due_to_interrupt => cases h

/-- A result that is there is one. -/
theorem eq_ok_of_toOption {α : Type} {x : Except Exc α} {a : α} (h : x.toOption = some a) :
    x = .ok a := by
  cases x with
  | error _ => cases h
  | ok _ => exact congrArg Except.ok (Option.some.inj h)

/-- A generation of the row caches is never `CACHE_STALE`. -/
theorem cacheCtr_ne (c : BitVec 32) : ((c + 2) ||| 1).toNat ≠ CACHE_STALE := by
  intro h
  have hzero : (c + 2) ||| 1 = 0#32 := BitVec.eq_of_toNat_eq h
  have hbit : ((c + 2) ||| 1).getLsbD 0 = true := by simp
  rw [hzero] at hbit
  exact absurd hbit (by decide)

/-- The state stays right where the cursors are as they were, and notice what is written. -/
theorem CursorState.WellFormed.notices (hB : B.IsTable L stand) (hs : s.WellFormed B stand)
    (hapCsr : s'.apCsr = s.apCsr)
    (hnotices : ∀ (i : ℕ) (pC : ColumnCursor β), s.apCsr[i]? = some pC → ∀ b, pC.pCursor = some b →
      Notices stand s.world s'.world b)
    (hctr : s'.cacheCtr.toNat ≠ CACHE_STALE) (haMem : ∀ c ∈ s'.aMem, c.szMalloc = c.zMalloc.length) :
    s'.WellFormed B stand := by
  refine ⟨fun pC hpC => ?_, haMem, hctr⟩
  rw [hapCsr] at hpC
  obtain ⟨htable, hk⟩ := hs.cursors pC hpC
  obtain ⟨i, hi⟩ := List.mem_iff_getElem?.mp hpC
  exact ⟨htable, hk.of_notices hB (hnotices i pC hi)⟩

/-- Nothing was written. -/
theorem Notices.refl (stand : β → κ → Stand) (w : κ) (b : β) : Notices stand w w b :=
  ⟨rfl, fun h => ⟨h, rfl⟩, fun _ _ => rfl⟩

/-- A step that writes to the table of its cursor. -/
theorem CursorState.WellFormed.write (hB : B.IsTable L stand) (hs : s.WellFormed B stand) {op : Op}
    {b' : β} (hpC : s.apCsr[op.p1.toNat]? = some pC)
    (ha : (CursorEvent.write op b' s'.world).Allowed stand enc s)
    (hapCsr : s'.apCsr = s.apCsr.set op.p1.toNat (pC.written b')) (hctr : s'.cacheCtr = s.cacheCtr)
    (haMem : s'.aMem = s.aMem) :
    s'.WellFormed B stand ∧ Follows L enc stand s (.write op b' s'.world) s' := by
  have hi : op.p1.toNat < s.apCsr.length := by
    obtain ⟨h, -⟩ := List.getElem?_eq_some_iff.mp hpC
    exact h
  have hself : s'.apCsr[op.p1.toNat]? = some (pC.written b') := by
    rw [hapCsr, List.getElem?_set_self hi]
  have hother : ∀ j, op.p1.toNat ≠ j → s'.apCsr[j]? = s.apCsr[j]? := by
    intro j hj
    rw [hapCsr, List.getElem?_set_ne hj]
  obtain ⟨htable, hk, b, hb⟩ := hs.cursor hpC
  refine ⟨⟨fun q hq => ?_, haMem ▸ hs.registers, hctr ▸ hs.cacheCtr⟩, fun i hcursor => ?_,
    fun h => (nomatch h), fun i hne => ?_⟩
  · obtain ⟨j, hj⟩ := List.mem_iff_getElem?.mp hq
    by_cases heq : op.p1.toNat = j
    · subst heq
      obtain rfl := Option.some.inj (hself.symm.trans hj)
      exact ⟨htable, hk.of_stale ⟨b', rfl⟩ rfl rfl⟩
    · rw [hother j heq] at hj
      obtain ⟨htable', hk'⟩ := hs.cursors q (List.mem_of_getElem? hj)
      exact ⟨htable', hk'.of_notices hB (ha j q (Ne.symm heq) hj)⟩
  · obtain rfl : op.p1.toNat = i := Option.some.inj hcursor
    refine ⟨pC.sightOf (stand b s.world), (pC.written b').sightOf (stand b' s'.world), ?_,
      CursorState.sight_eq hself, _, rfl, haMem⟩
    rw [CursorState.sight_eq hpC]
    unfold ColumnCursor.sight
    rw [hb]
    rfl
  · have hne' : op.p1.toNat ≠ i := fun h => hne (congrArg some h)
    unfold CursorState.sight
    rw [hother i hne']
    cases hq : s.apCsr[i]? with
    | none => rfl
    | some q => exact ColumnCursor.place_of_notices (ha i q (Ne.symm hne') hq)

/-- A step keeps the state right and is what it says of the sights, if the opcode does not fail. -/
theorem CursorState.WellFormed.step (hB : B.IsTable L stand) (hL : L.Sized)
    (hs : s.WellFormed B stand) (ha : e.Allowed stand enc s)
    (h : s.step L B enc limit e = some s') (hrun : s'.running = true) :
    s'.WellFormed B stand ∧ Follows L enc stand s e s' := by
  unfold CursorState.step at h
  split_ifs at h
  -- Each opcode brings its cursor to a place; what else it does is its own lemma.
  cases e with
  | Rewind op =>
    obtain ⟨pC, hpC, h⟩ := Option.bind_eq_some_iff.mp h
    obtain ⟨⟨exit, pC', w⟩, hop, h⟩ := Option.bind_eq_some_iff.mp h
    obtain rfl := Option.some.inj h
    obtain ⟨target, rfl, heq⟩ := CursorState.finish_eq hrun
    rw [heq]
    obtain ⟨htable, hk, b, hb⟩ := hs.cursor hpC
    obtain ⟨pos, hgo, hleast, htarget⟩ :=
      impl_OP_Rewind_spec hB hk htable hb (eq_ok_of_toOption hop)
    refine hs.follows hB hpC hb hgo rfl rfl hs.registers rfl ?_
    exact ⟨pos, rfl, hleast, rfl, htarget⟩
  | Next op isInterrupted =>
    obtain ⟨pC, hpC, h⟩ := Option.bind_eq_some_iff.mp h
    obtain ⟨⟨exit, pC', w⟩, hop, h⟩ := Option.bind_eq_some_iff.mp h
    obtain rfl := Option.some.inj h
    obtain ⟨target, rfl, heq⟩ := CursorState.finish_eq hrun
    rw [heq]
    obtain ⟨htable, hk, b, hb⟩ := hs.cursor hpC
    obtain ⟨pos, hgo, hup, htarget⟩ := OP_Next_spec hB hk htable hb ha (eq_ok_of_toOption hop)
    refine hs.follows hB hpC hb hgo rfl rfl hs.registers rfl ?_
    exact ⟨pos, rfl, hup, rfl, htarget⟩
  | NotExists op =>
    obtain ⟨pC, hpC, h⟩ := Option.bind_eq_some_iff.mp h
    obtain ⟨pIn3, hIn3, h⟩ := Option.bind_eq_some_iff.mp h
    obtain ⟨⟨exit, pC', w⟩, hop, h⟩ := Option.bind_eq_some_iff.mp h
    obtain rfl := Option.some.inj h
    obtain ⟨target, rfl, heq⟩ := CursorState.finish_eq hrun
    rw [heq]
    obtain ⟨htable, hk, b, hb⟩ := hs.cursor hpC
    obtain ⟨spot, hgo, hspot, htarget⟩ :=
      OP_NotExists_spec hB hk htable hb (eq_ok_of_toOption hop)
    refine hs.follows hB hpC hb hgo rfl rfl hs.registers rfl ?_
    exact ⟨pIn3, spot, hIn3, rfl, hspot, rfl, htarget⟩
  | Seek op =>
    obtain ⟨pC, hpC, h⟩ := Option.bind_eq_some_iff.mp h
    obtain ⟨pIn2, hIn2, h⟩ := Option.bind_eq_some_iff.mp h
    obtain ⟨pC', hop, h⟩ := Option.bind_eq_some_iff.mp h
    obtain rfl := Option.some.inj h
    obtain ⟨htable, hk, b, hb⟩ := hs.cursor hpC
    have hgo := impl_OP_Seek_spec hk htable hb (eq_ok_of_toOption hop)
    refine hs.follows hB hpC hb hgo rfl rfl hs.registers rfl ?_
    exact ⟨pIn2, hIn2, rfl, rfl, rfl⟩
  | NullRow op =>
    obtain ⟨pC, hpC, h⟩ := Option.bind_eq_some_iff.mp h
    obtain ⟨htable, hk, b, hb⟩ := hs.cursor hpC
    rcases hop : impl_OP_NullRow B pC s.world with ⟨pC', w⟩
    rw [hop] at h
    obtain rfl := Option.some.inj h
    have hgo := impl_OP_NullRow_spec hB hk htable hb hop
    refine hs.follows hB hpC hb hgo rfl rfl hs.registers rfl ?_
    exact ⟨rfl, rfl, rfl⟩
  | Rowid op =>
    obtain ⟨pC, hpC, h⟩ := Option.bind_eq_some_iff.mp h
    obtain ⟨pOut, hOut, h⟩ := Option.bind_eq_some_iff.mp h
    obtain ⟨htable, hk, b, hb⟩ := hs.cursor hpC
    unfold CursorState.rowid at h
    rcases hop : impl_OP_Rowid B s.pc pC pOut s.world with _ | ⟨exit, pC', c, w⟩ <;> rw [hop] at h
    · cases h
    obtain rfl := Option.some.inj h
    have hfinish : (s.finish op exit pC' w).running = true := hrun
    obtain ⟨target, rfl, heq⟩ := CursorState.finish_eq hfinish
    rw [heq]
    obtain ⟨hgo, htarget, hsz, hmalloc, hc⟩ := impl_OP_Rowid_spec hB hk htable hb hop
    -- The register written keeps its buffer, whose size is known.
    have hregisters : ∀ q ∈ s.aMem.set op.p2.toNat c, q.szMalloc = q.zMalloc.length := by
      intro q hq
      rcases List.mem_or_eq_of_mem_set hq with hq | rfl
      · exact hs.registers q hq
      · rw [hsz, hmalloc]
        exact hs.registers pOut (List.mem_of_getElem? hOut)
    refine hs.follows hB hpC hb hgo rfl rfl hregisters rfl ?_
    exact ⟨c, rfl, rfl, htarget, hc⟩
  | Column op p4 payloadSize64 =>
    -- What is allowed of `OP_Column`: no P5 flag that leaves the content out, a default that is a
    -- value, and a column of the table.
    obtain ⟨hp5, hp4, hp2⟩ := ha
    obtain ⟨pC, hpC, h⟩ := Option.bind_eq_some_iff.mp h
    obtain ⟨pDest, hDest, h⟩ := Option.bind_eq_some_iff.mp h
    obtain ⟨htable, hk, b, hb⟩ := hs.cursor hpC
    unfold CursorState.column at h
    rcases hop : impl_OP_Column L B enc limit s.cacheCtr.toNat payloadSize64 op p4 none pC pDest
      s.world with _ | ⟨exit, pC', c, w⟩ <;> rw [hop] at h
    · cases h
    obtain rfl := Option.some.inj h
    obtain rfl : exit = .result SQLITE_OK := of_decide_eq_true hrun
    obtain ⟨p, harrive, hgo, hsz, hc⟩ := impl_OP_Column_place hB hL hk htable hb hs.cacheCtr
      (hp2 pC hpC) hp5 hp4 (hs.registers pDest (List.mem_of_getElem? hDest)) hop
    have hregisters : ∀ q ∈ s.aMem.set op.p3.toNat c, q.szMalloc = q.zMalloc.length := by
      intro q hq
      rcases List.mem_or_eq_of_mem_set hq with hq | rfl
      · exact hs.registers q hq
      · exact hsz
    refine hs.follows hB hpC hb hgo rfl rfl hregisters rfl ?_
    exact ⟨p, c, harrive, rfl, rfl, rfl, hc⟩
  -- The row goes to the caller, and every cursor stays where it is.
  | ResultRow =>
    obtain rfl := Option.some.inj h
    exact ⟨hs.notices hB rfl (fun _ _ _ b _ => .refl stand _ b) (cacheCtr_ne _) hs.registers,
      fun _ h => (nomatch h), fun _ _ _ => rfl, fun _ _ => rfl⟩
  | write op b' w =>
    obtain ⟨pC, hpC, h⟩ := Option.bind_eq_some_iff.mp h
    obtain rfl := Option.some.inj h
    exact hs.write hB hpC ha rfl rfl rfl
  | registers aMem =>
    obtain rfl := Option.some.inj h
    exact ⟨hs.notices hB rfl (fun _ _ _ b _ => .refl stand _ b) hs.cacheCtr ha,
      fun _ h => (nomatch h), fun _ _ _ => rfl, fun _ _ => rfl⟩
  -- Other code may change the tables, as long as the cursors notice.
  | elsewhere w =>
    obtain rfl := Option.some.inj h
    refine ⟨hs.notices hB rfl ha hs.cacheCtr hs.registers, fun _ h => (nomatch h),
      fun h => (nomatch h), fun i _ => ?_⟩
    unfold CursorState.sight
    cases hq : s.apCsr[i]? with
    | none => rfl
    | some q => exact ColumnCursor.place_of_notices (ha i q hq)

/-- Only a statement that has not failed goes on. -/
theorem CursorState.running_of_step (h : s.step L B enc limit e = some s') : s.running = true := by
  cases hr : s.running
  · unfold CursorState.step at h
    rw [hr, if_pos rfl] at h
    cases h
  · rfl

/-- The state stays right along every run. -/
theorem wellFormed_of_each (hB : B.IsTable L stand) (hL : L.Sized) (hs : s.WellFormed B stand)
    {es : List (CursorEvent β κ)}
    (hes : Runs.Each (CursorState.step L B enc limit) (fun s e => e.Allowed stand enc s) es s) :
    Runs.Always (CursorState.step L B enc limit)
      (fun s => s.running = true → s.WellFormed B stand) es s := by
  refine Runs.Always.of_each (fun s e s' hs ha h hrun => ?_) (fun _ => hs) hes
  exact ((hs (CursorState.running_of_step h)).step hB hL ha h hrun).1

/-- No routine of the b-tree fails, and there is memory. -/
structure RowBtree.Reliable (B : RowBtree β κ) (L : CLib κ) : Prop where
  /-- A search succeeds. -/
  MovetoUnpacked : ∀ iKey b w, (B.MovetoUnpacked none iKey b w).1.1 = SQLITE_OK
  /-- So does looking for a row again. -/
  CursorRestore : ∀ b w, (B.CursorRestore b w).1.1 = SQLITE_OK
  /-- So does reading a part of an entry. -/
  Read : ∀ key offset amt b w, (B.Read key offset amt b w).1.1 = SQLITE_OK
  /-- There is memory. -/
  malloc : ¬ L.RunsOut

/-- Column `p2` can be read: the row of a deferred movement is there, and the record at the place is
neither too long nor corrupt. -/
def Sight.Readable (x : Sight) (limit : ℤ) (p2 : ℕ) : Prop :=
  ∃ p, x.place.arrive x.rows = some p ∧ ∀ k, p.null = false → p.spot = .on k →
    ((x.entry k).payload.length : ℤ) ≤ limit ∧ (x.entry k).column p2 ≠ none

/-- A cursor gets to the place it is to read from. -/
theorem sqlite3VdbeCursorMoveto_reliable {b : β} (hB : B.IsTable L stand) (hr : B.Reliable L)
    (hb : pC.pCursor = some b) (harrive : (pC.place (stand b w)).arrive (stand b w).rows = some p)
    {rc : ℕ} (h : sqlite3VdbeCursorMoveto B pC w = .ok (rc, pC', w')) : rc = SQLITE_OK := by
  unfold sqlite3VdbeCursorMoveto at h
  rw [hb] at h
  dsimp only at h
  cases hdef : pC.deferredMoveto
  · rw [hdef, if_neg (by decide)] at h
    split_ifs at h
    · unfold handleMovedCursor at h
      simp only [Except.ok.injEq, Prod.mk.injEq] at h
      exact h.1 ▸ hr.CursorRestore b w
    · simp only [Except.ok.injEq, Prod.mk.injEq] at h
      exact h.1.symm
  · rw [hdef, if_pos rfl] at h
    have hmem : pC.movetoTarget ∈ (stand b w).rows := by
      by_contra hnot
      simp [Place.arrive, ColumnCursor.place, hdef, hnot] at harrive
    rcases hsearch : B.MovetoUnpacked none pC.movetoTarget b w with ⟨⟨rc', res⟩, b', w₁⟩
    have hrc' := hr.MovetoUnpacked pC.movetoTarget b w
    rw [hsearch] at hrc'
    obtain rfl : rc' = SQLITE_OK := hrc'
    obtain ⟨-, pos, -, hrests⟩ := hB.search _ b w res b' w₁ hsearch
    obtain rfl : res = 0 := by
      cases hrests with
      | empty _ hrows _ => simp [hrows] at hmem
      | here _ => rfl
      | below _ _ hnot _ _ => exact absurd hmem hnot
      | above _ _ hnot _ _ => exact absurd hmem hnot
    unfold handleDeferredMoveto at h
    simp only [hsearch, ne_eq, not_true_eq_false, if_false, Except.ok.injEq, Prod.mk.injEq] at h
    exact h.1.symm

/-- A column that can be read is read. -/
theorem impl_OP_Column_proceeds (hB : B.IsTable L stand) (hL : L.Sized) (hr : B.Reliable L)
    (hk : pC.Keeps B (fun b w => (stand b w).row) nField w) (htable : pC.isTable = true) {b : β}
    (hb : pC.pCursor = some b) {cacheCtr : ℕ} (hctr : cacheCtr ≠ CACHE_STALE) {op : Op}
    (hp2 : op.p2.toNat < nField)
    (hp5 : op.p5_has (OPFLAG_LENGTHARG ||| OPFLAG_TYPEOFARG) = false) {p4 : Option Mem}
    (hp4 : DefaultOk enc p4) {pDest : Mem} (ha : pDest.szMalloc = pDest.zMalloc.length)
    (payloadSize64 : List Byte)
    (hread : (pC.sightOf (stand b w)).Readable limit op.p2.toNat) :
    ∃ pC' c w', impl_OP_Column L B enc limit cacheCtr payloadSize64 op p4 none pC pDest w =
      .ok (.result SQLITE_OK, pC', c, w') := by
  obtain ⟨exit, pC', c, w', hrun, hbrought, hreads⟩ := impl_OP_Column_spec hB.holds hL
    (by rw [htable]; rfl) hk hctr hp2 hp5 hp4 ha limit payloadSize64 none
  obtain ⟨rc, pC₁, w₁, hmove, hrc, halike, b₁, b', hb₁, hb', hsame⟩ := hbrought.moved
  obtain ⟨p, harrive, hrow⟩ := hread
  obtain rfl := sqlite3VdbeCursorMoveto_reliable hB hr hb harrive hmove
  obtain ⟨-, hexit⟩ := hrc.resolve_left fun h => h.2 rfl
  obtain ⟨b₁', hb₁', hmoves, -, harrive'⟩ := sqlite3VdbeCursorMoveto_place hB hb hmove
  obtain rfl : b₁ = b₁' := Option.some.inj (hb₁.symm.trans hb₁')
  have hplace : pC'.place (stand b' w') = p := by
    unfold ColumnCursor.place
    rw [hsame.view_eq, halike.nullRow_eq, halike.deferredMoveto_eq, halike.movetoTarget_eq]
    exact Option.some.inj (harrive'.symm.trans harrive)
  -- The row that the cursor is on is the one that can be read.
  have hon : ∀ r, pC'.On B (fun b w => (stand b w).row) w' r →
      (r.payload.length : ℤ) ≤ limit ∧ r.column op.p2.toNat ≠ none := by
    rintro r ⟨hnull, b'', hb'', hmoved, hrow'⟩
    obtain rfl : b' = b'' := Option.some.inj (hb'.symm.trans hb'')
    rw [hB.moved_eq] at hmoved
    obtain ⟨k, -, hspot⟩ := hB.valid b' w' hmoved
    have hr' : (stand b w).entry k = r := by
      rw [← (hmoves.trans (.of_same hsame)).entry_eq]
      exact Option.some.inj ((Stand.row_of_on hmoved hspot).symm.trans hrow')
    subst hplace
    exact hr' ▸ hrow k hnull hspot
  cases exit with
  | result rc =>
    by_cases hok : rc = SQLITE_OK
    · subst hok
      exact ⟨pC', c, w', hrun⟩
    · exfalso
      rcases hreads.error rc rfl hok with ⟨-, r, hr', hcolumn⟩ | ⟨-, ⟨-, hout⟩ | ⟨o, a, b, w, hfail⟩⟩
      · exact (hon r hr').2 hcolumn
      · exact hr.malloc hout
      · exact hok (hfail.symm.trans (hr.Read _ _ _ _ _))
  | abort_due_to_error rc => exact absurd rfl (hexit rc)
  | too_big =>
    obtain ⟨r, hr', hbig⟩ := hreads.too_big rfl
    exact absurd (hon r hr').1 (not_le.mpr hbig)
  | no_mem => exact absurd (hreads.no_mem rfl) hr.malloc

/-- In a state that is right, the opcode goes on from a column that can be read. -/
theorem CursorState.WellFormed.column_step (hs : s.WellFormed B stand) (hB : B.IsTable L stand)
    (hL : L.Sized) (hr : B.Reliable L) (hrun : s.running = true) {op : Op} {p4 : Option Mem}
    {payloadSize64 : List Byte} (ha : (CursorEvent.Column op p4 payloadSize64).Allowed stand enc s)
    (hp3 : op.p3.toNat < s.aMem.length) {x : Sight} (hx : s.sight stand op.p1.toNat = some x)
    (hread : x.Readable limit op.p2.toNat) :
    ∃ s', CursorState.step L B enc limit s (.Column op p4 payloadSize64) = some s' ∧
      s'.running = true := by
  obtain ⟨hp5, hp4, hp2⟩ := ha
  obtain ⟨pC, hpC, hsight⟩ := Option.bind_eq_some_iff.mp hx
  obtain ⟨b, hb, rfl⟩ := Option.map_eq_some_iff.mp hsight
  have hDest : s.aMem[op.p3.toNat]? = some s.aMem[op.p3.toNat] := List.getElem?_eq_getElem hp3
  obtain ⟨htable, hk⟩ := hs.cursors pC (List.mem_of_getElem? hpC)
  obtain ⟨pC', c, w', hop⟩ := impl_OP_Column_proceeds hB hL hr hk htable hb hs.cacheCtr
    (hp2 pC hpC) hp5 hp4 (hs.registers _ (List.mem_of_getElem? hDest)) payloadSize64 hread
  refine ⟨{ s with
    pc := s.pc + 1, apCsr := s.apCsr.set op.p1.toNat pC', aMem := s.aMem.set op.p3.toNat c
    world := w', running := true }, ?_, rfl⟩
  unfold CursorState.step CursorState.column
  rw [if_neg (by rw [hrun]; decide)]
  simp only [hpC, hDest, bind, Option.bind, hop]
  rfl

/-- `OP_Column` does not fail on a column that can be read, whatever happened before in the run. -/
theorem column_proceeds (hB : B.IsTable L stand) (hL : L.Sized) (hr : B.Reliable L)
    (hs : s.WellFormed B stand) {es : List (CursorEvent β κ)}
    (hes : Runs.Each (CursorState.step L B enc limit) (fun s e => e.Allowed stand enc s) es s)
    {t : CursorState β κ} (ht : Runs.after (CursorState.step L B enc limit) es s = some t)
    (hrun : t.running = true) {op : Op} {p4 : Option Mem} {payloadSize64 : List Byte}
    (ha : (CursorEvent.Column op p4 payloadSize64).Allowed stand enc t)
    (hp3 : op.p3.toNat < t.aMem.length) {x : Sight} (hx : t.sight stand op.p1.toNat = some x)
    (hread : x.Readable limit op.p2.toNat) :
    ∃ t', CursorState.step L B enc limit t (.Column op p4 payloadSize64) = some t' ∧
      t'.running = true ∧ Follows L enc stand t (.Column op p4 payloadSize64) t' := by
  have hwf := (wellFormed_of_each hB hL hs hes).after ht hrun
  obtain ⟨t', hstep, hrun'⟩ := hwf.column_step hB hL hr hrun ha hp3 hx hread
  exact ⟨t', hstep, hrun', (hwf.step hB hL ha hstep hrun').2⟩

end runs

/-! ## Runs on tables in memory -/

section memory

open MemoryTable

variable {enc : ℕ} {s : CursorState TableCursor MemoryTable}
  {e : CursorEvent TableCursor MemoryTable}

/-- The cursor has not seen the last write to the table, and has not lost its row. -/
def ColumnCursor.Unaware (w : MemoryTable) (pC : ColumnCursor TableCursor) : Prop :=
  ∀ b ∈ pC.pCursor, b.seen ≠ w.writes ∧ (b.spot.isOn = true ∨ b.spot = .nowhere)

instance (w : MemoryTable) (pC : ColumnCursor TableCursor) : Decidable (pC.Unaware w) :=
  inferInstanceAs (Decidable (∀ b ∈ pC.pCursor, _))

/-- What is allowed, as far as it can be evaluated. -/
def CursorEvent.Heeds (s : CursorState TableCursor MemoryTable) :
    CursorEvent TableCursor MemoryTable → Prop
  | .Next op _ => op.p3 = 0
  | .Column op p4 _ => op.p5_has (OPFLAG_LENGTHARG ||| OPFLAG_TYPEOFARG) = false ∧ p4 = none ∧
      ∀ pC ∈ s.apCsr[op.p1.toNat]?, op.p2.toNat < pC.row.aType.length
  | .write op _ w => ∀ i < s.apCsr.length, i ≠ op.p1.toNat → ∀ pC ∈ s.apCsr[i]?, pC.Unaware w
  | .registers aMem => ∀ c ∈ aMem, c.szMalloc = c.zMalloc.length
  | .elsewhere w => ∀ pC ∈ s.apCsr, pC.Unaware w
  | _ => True

instance (s : CursorState TableCursor MemoryTable) (e : CursorEvent TableCursor MemoryTable) :
    Decidable (e.Heeds s) :=
  match e with
  | .Rewind _ => inferInstanceAs (Decidable True)
  | .Next op _ => inferInstanceAs (Decidable (op.p3 = 0))
  | .NotExists _ => inferInstanceAs (Decidable True)
  | .Seek _ => inferInstanceAs (Decidable True)
  | .NullRow _ => inferInstanceAs (Decidable True)
  | .Rowid _ => inferInstanceAs (Decidable True)
  | .Column op p4 _ => inferInstanceAs (Decidable (_ ∧ p4 = none ∧
      ∀ pC ∈ s.apCsr[op.p1.toNat]?, op.p2.toNat < pC.row.aType.length))
  | .ResultRow => inferInstanceAs (Decidable True)
  | .write op _ w => inferInstanceAs (Decidable (∀ i < s.apCsr.length, i ≠ op.p1.toNat →
      ∀ pC ∈ s.apCsr[i]?, pC.Unaware w))
  | .registers aMem => inferInstanceAs (Decidable (∀ c ∈ aMem, c.szMalloc = c.zMalloc.length))
  | .elsewhere w => inferInstanceAs (Decidable (∀ pC ∈ s.apCsr, pC.Unaware w))

/-- A cursor that is unaware of a write notices it. -/
theorem ColumnCursor.Unaware.notices {w w' : MemoryTable} {pC : ColumnCursor TableCursor}
    (h : pC.Unaware w') {b : TableCursor} (hb : pC.pCursor = some b) : Notices stand w w' b :=
  notices_of_seen_ne (h b hb).1 (h b hb).2

/-- What is seen to be allowed is allowed. -/
theorem CursorEvent.Heeds.allowed (h : e.Heeds s) : e.Allowed stand enc s := by
  cases e with
  | Next op isInterrupted => exact h
  | Column op p4 payloadSize64 =>
    obtain ⟨hp5, rfl, hp2⟩ := h
    exact ⟨hp5, fun d hd => (nomatch hd), hp2⟩
  | write op pCursor w =>
    intro i pC hi hpC b hb
    obtain ⟨hlt, -⟩ := List.getElem?_eq_some_iff.mp hpC
    exact (h i hlt hi pC hpC).notices hb
  | registers aMem => exact h
  | elsewhere w =>
    intro i pC hpC b hb
    exact (h pC (List.mem_of_getElem? hpC)).notices hb
  | _ => trivial

/-- A run that is seen to keep to the conditions. -/
theorem each_allowed_of_heeds {limit : ℤ} {es : List (CursorEvent TableCursor MemoryTable)}
    (h : Runs.Each (CursorState.step (CLib.decimalOver MemoryTable) btree enc limit)
      (fun s e => e.Heeds s) es s) :
    Runs.Each (CursorState.step (CLib.decimalOver MemoryTable) btree enc limit)
      (fun s e => e.Allowed stand enc s) es s :=
  h.mono fun _ _ => CursorEvent.Heeds.allowed

/-- The record of an integer, NULL and the text `ab`. -/
def threeColumns (n : Byte) : Row :=
  ⟨[4, 1, 0, 17, n, 97, 98], 7, List.replicate 9 0, by simp, by simp, Or.inl rfl, by simp⟩

/-- A cursor that is on no row yet. There is a place for one column more than the records have. -/
def unmoved : ColumnCursor TableCursor :=
  ⟨⟨some ⟨.nowhere, 0⟩, [], 0, false, false, true, true, 0, CACHE_STALE⟩,
    ⟨0, 0, 0, 0, none, List.replicate 5 0, List.replicate 4 0⟩⟩

/-- Two cursors of a table of the rows 1 and 2, and registers with rowids. -/
def twoCursors : CursorState TableCursor MemoryTable :=
  ⟨0, [unmoved, unmoved], [Mem.ofNull, Mem.ofInt 3, Mem.ofInt 1], 1,
    ⟨{1, 2}, fun _ => threeColumns 7, 0⟩, true⟩

/-- An opcode on a cursor. -/
def cursorOp (opcode : Opcode) (p1 p2 p3 : ℤ) : Op := ⟨opcode, p1, p2, p3, .NOTUSED, 0#8⟩

/-- The first cursor is brought to the first row, and the second one inserts the row 3. -/
def inserting : List (CursorEvent TableCursor MemoryTable) :=
  [.Rewind (cursorOp .Rewind 0 0 0),
    .write (cursorOp .Insert 1 0 0) ⟨.on 3, 1⟩ (twoCursors.world.insertRow 3 (threeColumns 8))]

/-- The first cursor reads its row, which the second one then deletes. -/
def deleting : List (CursorEvent TableCursor MemoryTable) :=
  inserting ++ [.Column (cursorOp .Column 0 2 0) none [],
    .NotExists (cursorOp .NotExists 1 0 2),
    .write (cursorOp .Delete 1 0 0) ⟨.past 1, 2⟩
      ((twoCursors.world.insertRow 3 (threeColumns 8)).deleteRow 1)]

/-- The first cursor goes on from there, and then to the row that was inserted. -/
def seeking : List (CursorEvent TableCursor MemoryTable) :=
  deleting ++ [.Next (cursorOp .Next 0 0 0) false, .Rowid (cursorOp .Rowid 0 0 0),
    .Seek (cursorOp .Seek 0 1 0), .Column (cursorOp .Column 0 0 0) none []]

/-- The state represents what its cursors stand for. -/
theorem twoCursors_wellFormed : twoCursors.WellFormed btree stand where
  cursors pC hpC := by
    obtain rfl : pC = unmoved := by simpa [twoCursors] using hpC
    exact ⟨rfl, ⟨_, rfl⟩, rfl, rfl, fun h => absurd rfl h⟩
  registers c hc := by
    have hcases : c = Mem.ofNull ∨ c = Mem.ofInt 3 ∨ c = Mem.ofInt 1 := by
      simpa [twoCursors] using hc
    rcases hcases with rfl | rfl | rfl <;> rfl
  cacheCtr := by decide

/-- The allocator gives what is asked for. -/
theorem decimalOver_sized (ρ : Type) : (CLib.decimalOver ρ).Sized where
  malloc n r block r' h := by
    obtain rfl := Option.some.inj (Prod.mk.inj h).1
    rw [List.length_replicate]
  printInt := CLib.lawful_decimal.printInt
  printReal := CLib.lawful_decimal.printReal

/-- Nothing fails in memory. -/
theorem btree_reliable : btree.Reliable (CLib.decimalOver MemoryTable) where
  MovetoUnpacked _ _ _ := rfl
  CursorRestore _ _ := rfl
  Read _ _ _ _ _ := rfl
  malloc h := by
    obtain ⟨n, r, h⟩ := h
    cases h

/-- The state after the insertion, in which the position of the first cursor is given up. -/
def inserted : CursorState TableCursor MemoryTable :=
  { twoCursors with
    pc := 2
    apCsr := [{ unmoved with pCursor := some ⟨.on 1, 0⟩, nullRow := false },
      unmoved.written ⟨.on 3, 1⟩]
    world := twoCursors.world.insertRow 3 (threeColumns 8) }

/-- The row is read from the position that was given up. -/
theorem column_proceeds_inserted : ∃ t',
    CursorState.step (CLib.decimalOver MemoryTable) btree 1 1000 inserted
      (.Column (cursorOp .Column 0 2 0) none []) = some t' ∧ t'.running = true ∧
    Follows (CLib.decimalOver MemoryTable) 1 stand inserted
      (.Column (cursorOp .Column 0 2 0) none []) t' := by
  have hafter : Runs.after (CursorState.step (CLib.decimalOver MemoryTable) btree 1 1000) inserting
      twoCursors = some inserted := rfl
  have hheeds : (CursorEvent.Column (cursorOp .Column 0 2 0) none []).Heeds inserted := by
    decide +kernel
  refine column_proceeds btree_isTable (decimalOver_sized MemoryTable) btree_reliable
    twoCursors_wellFormed (each_allowed_of_heeds (by decide +kernel)) hafter rfl hheeds.allowed
    (by decide) rfl ⟨⟨.on 1, false, none⟩, by decide +kernel, fun k _ hk => ?_⟩
  obtain rfl := Spot.on.inj hk
  decide +kernel

end memory

end SQPyte
