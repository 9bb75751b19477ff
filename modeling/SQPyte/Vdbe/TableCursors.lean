import SQPyte.Vdbe.Column

/-!
# Cursors of tables

The opcodes that move the cursors of tables, and the two that read the row a cursor is on. Between
them a cursor may have a movement still to do (`deferredMoveto`), the b-tree may have given up its
position because something else was written (`HasMoved`), and the description of its row may be of a
row it has left (`cacheStatus`).

None of this shows. The `Sight` of a cursor is the table as it is now and the `Place` the cursor
stands for; `Does` says what each opcode makes of it, with neither descriptions nor saved positions
in it. Each opcode has a lemma that brings its cursor to a place; the runs are in `Vdbe/TableRuns`.

The b-tree is a parameter. `RowBtree.IsTable` says what is relied on.
-/

namespace SQPyte

open Neighbours

variable {β κ : Type}

/-! ## The code -/

section code

variable (L : CLib κ) (B : RowBtree β κ)

/-- How an opcode on a cursor ends. -/
inductive CursorExit where
  /-- With a result code, and the opcode to go on with. -/
  | done (rc target : ℕ)
  | abort_due_to_error (rc : ℕ)
  | abort_due_to_interrupt
deriving DecidableEq, Repr

/-- `impl_OP_Rewind` on a cursor that is no sorter. -/
def impl_OP_Rewind (pc : ℕ) (op : Op) (pC : ColumnCursor β) (w : κ) :
    Except Exc (CursorExit × ColumnCursor β × κ) :=
  match pC.pCursor with
  | none => .error .assertion
  | some pCrsr =>
    let ((rc, res), pCrsr, w) := B.First pCrsr w
    .ok (.done rc (if res ≠ 0 then op.p2.toNat else pc + 1), { pC with
      pCursor := some pCrsr, deferredMoveto := false, cacheStatus := CACHE_STALE
      nullRow := res ≠ 0 }, w)

/-- `impl_OP_Next` and `OP_Next`. -/
def OP_Next (isInterrupted : Bool) (pc : ℕ) (op : Op) (pC : ColumnCursor β) (w : κ) :
    Except Exc (CursorExit × ColumnCursor β × κ) :=
  match pC.pCursor, pC.deferredMoveto with
  | some pCursor, false =>
    let ((rc, res), pCursor, w) := B.Next op.p3 pCursor w
    .ok (if isInterrupted then .abort_due_to_interrupt
      else .done rc (if res = 0 then op.p2.toNat else pc + 1), { pC with
        pCursor := some pCursor, cacheStatus := CACHE_STALE, nullRow := res ≠ 0 }, w)
  | _, _ => .error .assertion

/-- `impl_OP_NotExists` and `OP_NotExists`. -/
def OP_NotExists (pc : ℕ) (op : Op) (pIn3 : Mem) (pC : ColumnCursor β) (w : κ) :
    Except Exc (CursorExit × ColumnCursor β × κ) :=
  match pC.pCursor with
  | none => .error .assertion
  | some pCrsr =>
    if pC.pseudoTableReg = 0 then
      let iKey := pIn3.u_i
      let ((rc, res), pCrsr, w) := B.MovetoUnpacked none iKey pCrsr w
      .ok (.done rc (if res ≠ 0 then op.p2.toNat else pc + 1), { pC with
        pCursor := some pCrsr, movetoTarget := iKey, nullRow := false, cacheStatus := CACHE_STALE
        deferredMoveto := false }, w)
    else .error .assertion

/-- `impl_OP_Seek`, which `OP_Seek` repeats. -/
def impl_OP_Seek (pIn2 : Mem) (pC : ColumnCursor β) : Except Exc (ColumnCursor β) :=
  match pC.pCursor with
  | none => .error .assertion
  | some _ => .ok { pC with
      nullRow := false, movetoTarget := pIn2.sqlite3VdbeIntValue L, deferredMoveto := true }

/-- `impl_OP_NullRow`. -/
def impl_OP_NullRow (pC : ColumnCursor β) (w : κ) : ColumnCursor β × κ :=
  let pC := { pC with nullRow := true, cacheStatus := CACHE_STALE }
  match pC.pCursor with
  | none => (pC, w)
  | some pCursor =>
    let (pCursor, w) := B.ClearCursor pCursor w
    ({ pC with pCursor := some pCursor }, w)

/-- `sqlite3VdbeCursorRestore`. -/
def sqlite3VdbeCursorRestore (pC : ColumnCursor β) (pCursor : β) (w : κ) : ℕ × ColumnCursor β × κ :=
  if B.HasMoved pCursor w then handleMovedCursor B pC pCursor w else (SQLITE_OK, pC, w)

/-- The register of `OP_Rowid` with a rowid in it. -/
def Mem.withRowid (pOut : Mem) (v : ℤ) : Mem :=
  { pOut with flags := MEM_Int, u := BitVec.ofInt 64 v }

/-- `impl_OP_Rowid`, on a cursor of no virtual table. -/
def impl_OP_Rowid (pc : ℕ) (pC : ColumnCursor β) (pOut : Mem) (w : κ) :
    Except Exc (CursorExit × ColumnCursor β × Mem × κ) :=
  if pC.nullRow then .ok (.done SQLITE_OK (pc + 1), pC, { pOut with flags := MEM_Null }, w)
  else if pC.deferredMoveto then
    .ok (.done SQLITE_OK (pc + 1), pC, pOut.withRowid pC.movetoTarget, w)
  else
    match pC.pCursor with
    | none => .error .assertion
    | some pCursor =>
      let (rc, pC, w) := sqlite3VdbeCursorRestore B pC pCursor w
      if rc ≠ SQLITE_OK then .ok (.abort_due_to_error rc, pC, { pOut with flags := MEM_Int }, w)
      else if pC.nullRow then .ok (.done rc (pc + 1), pC, { pOut with flags := MEM_Null }, w)
      else match pC.pCursor with
        | none => .error .assertion
        | some pCursor => .ok (.done rc (pc + 1), pC, pOut.withRowid (B.Size true pCursor w), w)

/-- The cursor after `OP_Insert` or `OP_Delete` on it. -/
def ColumnCursor.written (pC : ColumnCursor β) (pCursor : β) : ColumnCursor β :=
  { pC with pCursor := some pCursor, deferredMoveto := false, cacheStatus := CACHE_STALE }

end code

/-! ## Statements with cursors -/

/-- What the opcodes on cursors read and write. -/
structure CursorState (β κ : Type) where
  /-- The program counter. -/
  pc : ℕ
  /-- `p->apCsr`, as far as the cursors are open. -/
  apCsr : List (ColumnCursor β)
  /-- `p->aMem`. -/
  aMem : List Mem
  /-- `p->cacheCtr`. -/
  cacheCtr : BitVec 32
  /-- The b-trees and everything else. -/
  world : κ
  /-- No opcode has failed. -/
  running : Bool

/-- What happens while a statement runs. -/
inductive CursorEvent (β κ : Type) where
  | Rewind (op : Op)
  | Next (op : Op) (isInterrupted : Bool)
  | NotExists (op : Op)
  | Seek (op : Op)
  | NullRow (op : Op)
  | Rowid (op : Op)
  /-- With the default, and the bytes of a variable without a value. -/
  | Column (op : Op) (p4 : Option Mem) (payloadSize64 : List Byte)
  /-- `OP_ResultRow`, as far as it concerns the cursors. -/
  | ResultRow
  /-- `OP_Insert` or `OP_Delete`, with what the b-tree makes of it. -/
  | write (op : Op) (pCursor : β) (world : κ)
  /-- An opcode on registers and no cursor. -/
  | registers (aMem : List Mem)
  /-- Something else writes to the b-trees. -/
  | elsewhere (world : κ)

/-- The cursor that an event is about. -/
def CursorEvent.cursor : CursorEvent β κ → Option ℕ
  | .Rewind op => some op.p1.toNat
  | .Next op _ => some op.p1.toNat
  | .NotExists op => some op.p1.toNat
  | .Seek op => some op.p1.toNat
  | .NullRow op => some op.p1.toNat
  | .Rowid op => some op.p1.toNat
  | .Column op _ _ => some op.p1.toNat
  | .write op _ _ => some op.p1.toNat
  | _ => none

namespace CursorState

/-- The state after an opcode on the cursor `p1`. -/
def finish (s : CursorState β κ) (op : Op) (exit : CursorExit) (pC : ColumnCursor β) (w : κ) :
    CursorState β κ :=
  let s := { s with apCsr := s.apCsr.set op.p1.toNat pC, world := w }
  match exit with
  | .done rc target => { s with pc := target, running := rc = SQLITE_OK }
  | _ => { s with running := false }

variable (L : CLib κ) (B : RowBtree β κ) (enc : ℕ) (limit : ℤ)

/-- `OP_Column` on the cursor `p1` and the register `p3`. -/
def column (op : Op) (p4 : Option Mem) (payloadSize64 : List Byte) (s : CursorState β κ)
    (pC : ColumnCursor β) (pDest : Mem) : Option (CursorState β κ) :=
  match impl_OP_Column L B enc limit s.cacheCtr.toNat payloadSize64 op p4 none pC pDest s.world with
  | .ok (exit, pC, pDest, w) => some { s with
      pc := s.pc + 1, apCsr := s.apCsr.set op.p1.toNat pC, aMem := s.aMem.set op.p3.toNat pDest
      world := w, running := exit = .result SQLITE_OK }
  | .error _ => none

/-- `OP_Rowid` on the cursor `p1` and the register `p2`. -/
def rowid (op : Op) (s : CursorState β κ) (pC : ColumnCursor β) (pOut : Mem) :
    Option (CursorState β κ) :=
  match impl_OP_Rowid B s.pc pC pOut s.world with
  | .ok (exit, pC, pOut, w) =>
    some { s.finish op exit pC w with aMem := s.aMem.set op.p2.toNat pOut }
  | .error _ => none

/-- One event, if it can happen. -/
def step (s : CursorState β κ) (e : CursorEvent β κ) : Option (CursorState β κ) :=
  if s.running = false then none
  else match e with
    | .Rewind op => do
      let pC ← s.apCsr[op.p1.toNat]?
      let (exit, pC, w) ← (impl_OP_Rewind B s.pc op pC s.world).toOption
      return s.finish op exit pC w
    | .Next op isInterrupted => do
      let pC ← s.apCsr[op.p1.toNat]?
      let (exit, pC, w) ← (OP_Next B isInterrupted s.pc op pC s.world).toOption
      return s.finish op exit pC w
    | .NotExists op => do
      let pC ← s.apCsr[op.p1.toNat]?
      let pIn3 ← s.aMem[op.p3.toNat]?
      let (exit, pC, w) ← (OP_NotExists B s.pc op pIn3 pC s.world).toOption
      return s.finish op exit pC w
    | .Seek op => do
      let pC ← s.apCsr[op.p1.toNat]?
      let pIn2 ← s.aMem[op.p2.toNat]?
      let pC ← (impl_OP_Seek L pIn2 pC).toOption
      return s.finish op (.done SQLITE_OK (s.pc + 1)) pC s.world
    | .NullRow op => do
      let pC ← s.apCsr[op.p1.toNat]?
      let (pC, w) := impl_OP_NullRow B pC s.world
      return s.finish op (.done SQLITE_OK (s.pc + 1)) pC w
    | .Rowid op => do
      s.rowid B op (← s.apCsr[op.p1.toNat]?) (← s.aMem[op.p2.toNat]?)
    | .Column op p4 payloadSize64 => do
      s.column L B enc limit op p4 payloadSize64 (← s.apCsr[op.p1.toNat]?) (← s.aMem[op.p3.toNat]?)
    | .ResultRow => some { s with pc := s.pc + 1, cacheCtr := (s.cacheCtr + 2) ||| 1 }
    | .write op pCursor world => do
      let pC ← s.apCsr[op.p1.toNat]?
      return s.finish op (.done SQLITE_OK (s.pc + 1)) (pC.written pCursor) world
    | .registers aMem => some { s with pc := s.pc + 1, aMem := aMem }
    | .elsewhere world => some { s with world := world }

end CursorState

/-! ## What a cursor stands for -/

/-- Where a cursor of the b-tree is. -/
inductive Spot where
  | nowhere
  | on (k : ℤ)
  /-- Where the row `k` was. -/
  | past (k : ℤ)
deriving DecidableEq, Repr

namespace Spot

/-- The rowid that a step starts from. -/
def key : Spot → Option ℤ
  | .nowhere => none
  | .on k => some k
  | .past k => some k

/-- The cursor is on a row. -/
def isOn : Spot → Bool
  | .on _ => true
  | _ => false

/-- On a row, or beyond the last one. -/
def ofKey : Option ℤ → Spot
  | none => .nowhere
  | some k => .on k

/-- The spot once its row has been looked for again. -/
def restored (rows : Finset ℤ) : Spot → Spot
  | .on k => if k ∈ rows then .on k else .past k
  | spot => spot

end Spot

/-- The table of a cursor of the b-tree, and the cursor's position in it. -/
structure Stand where
  /-- The rowids. -/
  rows : Finset ℤ
  /-- The row of each rowid. -/
  entry : ℤ → Row
  /-- Where the cursor is. -/
  spot : Spot
  /-- The b-tree has given the position up, and has to look for it again. -/
  moved : Bool

/-- The row that the cursor is on. -/
def Stand.row (x : Stand) : Option Row :=
  if x.moved then none
  else match x.spot with
    | .on k => some (x.entry k)
    | _ => none

/-- The row of a cursor that is on one. -/
theorem Stand.row_of_on {x : Stand} {k : ℤ} (hm : x.moved = false) (hs : x.spot = .on k) :
    x.row = some (x.entry k) := by
  unfold Stand.row
  rw [hm, if_neg (by decide), hs]

/-- The position that a cursor of a statement stands for. -/
structure Place where
  /-- Where its cursor of the b-tree is. -/
  spot : Spot
  /-- The cursor is on a row of NULLs. -/
  null : Bool
  /-- The rowid it has yet to move to. -/
  target : Option ℤ
deriving DecidableEq, Repr

namespace Place

/-- The place of a cursor that a movement has brought to a row, or beyond the last one. -/
def ofKey (pos : Option ℤ) : Place := ⟨.ofKey pos, pos.isNone, none⟩

/-- The place from which `OP_Column` reads. A deferred movement to a rowid that is not there
fails. -/
def arrive (rows : Finset ℤ) (p : Place) : Option Place :=
  match p.target with
  | some k => if k ∈ rows then some ⟨.on k, p.null, none⟩ else none
  | none => some ⟨p.spot.restored rows, p.null || !(p.spot.restored rows).isOn, none⟩

/-- The place after `OP_Rowid`, and the rowid if it is not NULL. -/
def rowid (rows : Finset ℤ) (p : Place) : Place × Option ℤ :=
  if p.null then (p, none)
  else match p.target with
    | some k => (p, some k)
    | none =>
      let spot := p.spot.restored rows
      (⟨spot, !spot.isOn, none⟩, if spot.isOn then spot.key else none)

end Place

/-- A table and a place in it. -/
structure Sight where
  /-- The rowids. -/
  rows : Finset ℤ
  /-- The row of each rowid. -/
  entry : ℤ → Row
  /-- The place. -/
  place : Place

/-- The cursor at another place of the table. -/
def Sight.at (x : Sight) (p : Place) : Sight := { x with place := p }

/-- The place of a cursor whose cursor of the b-tree stands at `x`. -/
def ColumnCursor.place (pC : ColumnCursor β) (x : Stand) : Place :=
  ⟨x.spot, pC.nullRow, if pC.deferredMoveto then some pC.movetoTarget else none⟩

/-- What a cursor stands for whose cursor of the b-tree stands at `x`. -/
def ColumnCursor.sightOf (pC : ColumnCursor β) (x : Stand) : Sight := ⟨x.rows, x.entry, pC.place x⟩

/-- What a cursor stands for. -/
def ColumnCursor.sight (stand : β → κ → Stand) (pC : ColumnCursor β) (w : κ) : Option Sight :=
  pC.pCursor.map fun b => pC.sightOf (stand b w)

/-- What the `i`-th cursor stands for. -/
def CursorState.sight (stand : β → κ → Stand) (s : CursorState β κ) (i : ℕ) : Option Sight :=
  s.apCsr[i]?.bind fun pC => pC.sight stand s.world

/-- What an event makes of the place of its cursor, of the program counter and of the registers. -/
def CursorEvent.Does (L : CLib κ) (enc : ℕ) (s s' : CursorState β κ) (x x' : Sight) :
    CursorEvent β κ → Prop
  | .Rewind op => ∃ pos, x' = x.at (.ofKey pos) ∧
      (∀ k, pos = some k ↔ IsLeast {z | z ∈ x.rows} k) ∧ s'.aMem = s.aMem ∧
      s'.pc = if pos = none then op.p2.toNat else s.pc + 1
  | .Next op _ => ∃ pos, x' = x.at (.ofKey pos) ∧ StepsUp x.rows x.place.spot.key pos ∧
      s'.aMem = s.aMem ∧ s'.pc = if pos = none then s.pc + 1 else op.p2.toNat
  | .NotExists op => ∃ c spot, s.aMem[op.p3.toNat]? = some c ∧ x' = x.at ⟨spot, false, none⟩ ∧
      (spot = .on c.u_i ↔ c.u_i ∈ x.rows) ∧ s'.aMem = s.aMem ∧
      s'.pc = if c.u_i ∈ x.rows then s.pc + 1 else op.p2.toNat
  | .Seek op => ∃ c, s.aMem[op.p2.toNat]? = some c ∧
      x' = x.at ⟨x.place.spot, false, some (c.sqlite3VdbeIntValue L)⟩ ∧ s'.aMem = s.aMem ∧
      s'.pc = s.pc + 1
  | .NullRow _ => x' = x.at ⟨.nowhere, true, x.place.target⟩ ∧ s'.aMem = s.aMem ∧ s'.pc = s.pc + 1
  | .Rowid op => ∃ c, s'.aMem = s.aMem.set op.p2.toNat c ∧ x' = x.at (x.place.rowid x.rows).1 ∧
      s'.pc = s.pc + 1 ∧ match (x.place.rowid x.rows).2 with
        | none => c.flags = MEM_Null
        | some k => c.flags = MEM_Int ∧ c.u = BitVec.ofInt 64 k
  | .Column op p4 _ => ∃ p c, x.place.arrive x.rows = some p ∧ x' = x.at p ∧
      s'.aMem = s.aMem.set op.p3.toNat c ∧ s'.pc = s.pc + 1 ∧
      ((p.null = true ∧ c.Settled enc .null) ∨ ∃ k v, p.null = false ∧ p.spot = .on k ∧ k ∈ x.rows ∧
        (x.entry k).column op.p2.toNat = some v ∧ ColumnIs enc p4 v c)
  | .write _ _ _ => ∃ spot, x'.place = ⟨spot, x.place.null, none⟩ ∧ s'.aMem = s.aMem
  | _ => True

/-! ## The b-tree -/

/-- A cursor of the b-tree moves in its table, and no other one does. -/
structure Moves (stand : β → κ → Stand) (b : β) (w : κ) (b' : β) (w' : κ) : Prop where
  /-- The rowids are the same. -/
  rows_eq : (stand b' w').rows = (stand b w).rows
  /-- The rows are the same. -/
  entry_eq : (stand b' w').entry = (stand b w).entry
  /-- Other cursors stand where they were. -/
  others : ∀ c, stand c w' = stand c w

/-- What is written elsewhere leaves the cursor on its row with the row as it was, unless the b-tree
gives the position up. Nothing is written to the table of a cursor that has lost its row, until the
cursor moves on. -/
structure Notices (stand : β → κ → Stand) (w w' : κ) (c : β) : Prop where
  /-- The position is not lost. -/
  spot_eq : (stand c w').spot = (stand c w).spot
  /-- A cursor that has not moved is still right. -/
  row_eq : (stand c w').moved = false →
    (stand c w).moved = false ∧ (stand c w').row = (stand c w).row
  /-- A row that was lost. -/
  past : ∀ k, (stand c w).spot = .past k → stand c w' = stand c w

/-- What the opcodes on the cursors of tables rely on in `btree.c`. -/
structure RowBtree.IsTable (B : RowBtree β κ) (L : CLib κ) (stand : β → κ → Stand) : Prop where
  /-- `sqlite3BtreeCursorHasMoved`. -/
  moved_eq : ∀ b w, B.HasMoved b w = (stand b w).moved
  /-- Rows can be read. -/
  holds : B.Holds L false (fun b w => (stand b w).row) stand
  /-- A valid cursor is on a row of the table. -/
  valid : ∀ b w, (stand b w).moved = false → ∃ k ∈ (stand b w).rows, (stand b w).spot = .on k
  /-- The key of a row is its rowid. -/
  rowid : ∀ b w k, (stand b w).moved = false → (stand b w).spot = .on k → B.Size true b w = k
  /-- A search comes to rest on a neighbour of its key. -/
  search : ∀ iKey b w res b' w', B.MovetoUnpacked none iKey b w = ((SQLITE_OK, res), b', w') →
    Moves stand b w b' w' ∧ ∃ pos, (stand b' w').spot = .ofKey pos ∧
      Rests (stand b w).rows iKey pos res
  /-- The first row, if there is one. -/
  first : ∀ b w res b' w', B.First b w = ((SQLITE_OK, res), b', w') →
    Moves stand b w b' w' ∧ ∃ pos, (stand b' w').spot = .ofKey pos ∧ (res ≠ 0 ↔ pos = none) ∧
      ∀ k, pos = some k ↔ IsLeast {z | z ∈ (stand b w).rows} k
  /-- The next row, if there is one. -/
  next : ∀ b w res b' w', B.Next 0 b w = ((SQLITE_OK, res), b', w') →
    Moves stand b w b' w' ∧ ∃ pos, (stand b' w').spot = .ofKey pos ∧ (res ≠ 0 ↔ pos = none) ∧
      StepsUp (stand b w).rows (stand b w).spot.key pos
  /-- The row that the cursor was on, if it is still there. -/
  restore : ∀ b w isDifferentRow b' w', B.CursorRestore b w = ((SQLITE_OK, isDifferentRow), b', w') →
    Moves stand b w b' w' ∧ (stand b' w').spot = (stand b w).spot.restored (stand b w).rows ∧
      isDifferentRow = !(stand b' w').spot.isOn
  /-- No row. -/
  clear : ∀ b w b' w', B.ClearCursor b w = (b', w') →
    Moves stand b w b' w' ∧ (stand b' w').spot = .nowhere

section spec

variable {L : CLib κ} {B : RowBtree β κ} {stand : β → κ → Stand} {nField : ℕ} {pC pC' : ColumnCursor β}
  {b b' b'' : β} {w w' w'' : κ} {x : Sight} {p : Place}

/-- A cursor that has not moved. -/
theorem Moves.of_same (h : B.Same (fun b w => (stand b w).row) stand b w b' w') :
    Moves stand b w b' w' :=
  ⟨congrArg Stand.rows h.view_eq, congrArg Stand.entry h.view_eq, h.others⟩

/-- Nothing has happened. -/
theorem Moves.refl (b : β) (w : κ) : Moves stand b w b w := ⟨rfl, rfl, fun _ => rfl⟩

/-- One movement after the other. -/
theorem Moves.trans (h : Moves stand b w b' w') (h' : Moves stand b' w' b'' w'') :
    Moves stand b w b'' w'' :=
  ⟨h'.rows_eq.trans h.rows_eq, h'.entry_eq.trans h.entry_eq,
    fun c => (h'.others c).trans (h.others c)⟩

/-- A cursor gets from where it is to the place `p` of its table, with what it keeps right. -/
structure ColumnCursor.GoesTo (B : RowBtree β κ) (stand : β → κ → Stand) (nField : ℕ)
    (pC : ColumnCursor β) (w : κ) (pC' : ColumnCursor β) (w' : κ) (p : Place) : Prop where
  /-- Its cursor of the b-tree moves there. -/
  moves : ∃ b b', pC.pCursor = some b ∧ pC'.pCursor = some b' ∧ Moves stand b w b' w' ∧
    pC'.place (stand b' w') = p
  /-- What it keeps is right. -/
  keeps : pC'.Keeps B (fun b w => (stand b w).row) nField w'
  /-- It is a cursor of a table. -/
  isTable : pC'.isTable = true

/-- Without a current description, there is nothing to be wrong. -/
theorem ColumnCursor.Keeps.of_stale {row : β → κ → Option Row} (hk : pC.Keeps B row nField w)
    (hb : ∃ b, pC'.pCursor = some b) (hrow : pC'.row = pC.row) (h : pC'.cacheStatus = CACHE_STALE) :
    pC'.Keeps B row nField w' := by
  refine ⟨hb, ?_, ?_, fun hs => absurd h hs⟩
  · rw [hrow]
    exact hk.length_aOffset
  · rw [hrow]
    exact hk.length_aType

/-! ## The opcodes -/

variable {pc target : ℕ} {op : Op} {exit : CursorExit}

/-- The first row. -/
theorem impl_OP_Rewind_spec (hB : B.IsTable L stand)
    (hk : pC.Keeps B (fun b w => (stand b w).row) nField w) (htable : pC.isTable = true)
    (hb : pC.pCursor = some b)
    (h : impl_OP_Rewind B pc op pC w = .ok (.done SQLITE_OK target, pC', w')) :
    ∃ pos, pC.GoesTo B stand nField w pC' w' (.ofKey pos) ∧
      (∀ k, pos = some k ↔ IsLeast {z | z ∈ (stand b w).rows} k) ∧
      target = if pos = none then op.p2.toNat else pc + 1 := by
  rcases hfirst : B.First b w with ⟨⟨rc, res⟩, b', w₁⟩
  unfold impl_OP_Rewind at h
  simp only [hb, hfirst, Except.ok.injEq, Prod.mk.injEq, CursorExit.done.injEq] at h
  obtain ⟨⟨rfl, rfl⟩, rfl, rfl⟩ := h
  obtain ⟨hmoves, pos, hspot, hres, hleast⟩ := hB.first b w res b' w₁ hfirst
  refine ⟨pos, ⟨⟨b, b', hb, rfl, hmoves, ?_⟩, hk.of_stale ⟨b', rfl⟩ rfl rfl, htable⟩, hleast, ?_⟩
  · unfold ColumnCursor.place Place.ofKey
    rw [hspot]
    cases pos with
    | none => simp [hres.mpr rfl]
    | some k =>
      have : res = 0 := by
        by_contra hne
        exact absurd (hres.mp hne) (Option.some_ne_none k)
      simp [this]
  · simp only [hres]

/-- The next row. -/
theorem OP_Next_spec (hB : B.IsTable L stand)
    (hk : pC.Keeps B (fun b w => (stand b w).row) nField w) (htable : pC.isTable = true)
    (hb : pC.pCursor = some b) (hp3 : op.p3 = 0) {isInterrupted : Bool}
    (h : OP_Next B isInterrupted pc op pC w = .ok (.done SQLITE_OK target, pC', w')) :
    ∃ pos, pC.GoesTo B stand nField w pC' w' (.ofKey pos) ∧
      StepsUp (stand b w).rows (stand b w).spot.key pos ∧
      target = if pos = none then pc + 1 else op.p2.toNat := by
  rcases hnext : B.Next 0 b w with ⟨⟨rc, res⟩, b', w₁⟩
  unfold OP_Next at h
  cases hdef : pC.deferredMoveto
  swap
  · simp [hb, hdef] at h
  cases isInterrupted
  swap
  · simp [hb, hdef, hp3, hnext] at h
  simp only [hb, hdef, hp3, hnext, Except.ok.injEq, Prod.mk.injEq, Bool.false_eq_true, if_false,
    CursorExit.done.injEq] at h
  obtain ⟨⟨rfl, rfl⟩, rfl, rfl⟩ := h
  obtain ⟨hmoves, pos, hspot, hres, hup⟩ := hB.next b w res b' w₁ hnext
  have hzero : res = 0 ↔ pos ≠ none := by rw [Ne, ← hres, not_not]
  refine ⟨pos, ⟨⟨b, b', hb, rfl, hmoves, ?_⟩, hk.of_stale ⟨b', rfl⟩ rfl rfl, htable⟩, hup, ?_⟩
  · unfold ColumnCursor.place Place.ofKey
    rw [hspot]
    cases pos with
    | none => simp [hres.mpr rfl]
    | some k => simp [hzero.mpr]
  · simp only [hzero, ite_not]

/-- The row of a rowid, or else some row or none. -/
theorem OP_NotExists_spec (hB : B.IsTable L stand)
    (hk : pC.Keeps B (fun b w => (stand b w).row) nField w) (htable : pC.isTable = true)
    (hb : pC.pCursor = some b) {pIn3 : Mem}
    (h : OP_NotExists B pc op pIn3 pC w = .ok (.done SQLITE_OK target, pC', w')) :
    ∃ spot, pC.GoesTo B stand nField w pC' w' ⟨spot, false, none⟩ ∧
      (spot = .on pIn3.u_i ↔ pIn3.u_i ∈ (stand b w).rows) ∧
      target = if pIn3.u_i ∈ (stand b w).rows then pc + 1 else op.p2.toNat := by
  rcases hsearch : B.MovetoUnpacked none pIn3.u_i b w with ⟨⟨rc, res⟩, b', w₁⟩
  unfold OP_NotExists at h
  by_cases hpseudo : pC.pseudoTableReg = 0
  swap
  · simp [hb, hpseudo] at h
  simp only [hb, hsearch, hpseudo, if_true, Except.ok.injEq, Prod.mk.injEq, CursorExit.done.injEq] at h
  obtain ⟨⟨rfl, rfl⟩, rfl, rfl⟩ := h
  obtain ⟨hmoves, pos, hspot, hrests⟩ := hB.search _ b w res b' w₁ hsearch
  -- The sign tells whether the rowid is there.
  have hres : res = 0 ↔ pIn3.u_i ∈ (stand b w).rows := by
    cases hrests with
    | empty _ hrows hneg => simp [hrows, hneg.ne]
    | here hmem => simp [hmem]
    | below y _ hnot _ hneg => simp [hnot, hneg.ne]
    | above y _ hnot _ hpos => simp [hnot, hpos.ne']
  have hpos : Spot.ofKey pos = .on pIn3.u_i ↔ pIn3.u_i ∈ (stand b w).rows := by
    cases hrests with
    | empty _ hrows hneg => simp [hrows, Spot.ofKey]
    | here hmem => simp [hmem, Spot.ofKey]
    | below y _ hnot hy _ => simp [hnot, Spot.ofKey, hy.1.2.ne]
    | above y _ hnot hy _ => simp [hnot, Spot.ofKey, hy.1.2.ne']
  refine ⟨_, ⟨⟨b, b', hb, rfl, hmoves, ?_⟩, hk.of_stale ⟨b', rfl⟩ rfl rfl, htable⟩, hpos, ?_⟩
  · unfold ColumnCursor.place
    rw [hspot]
    rfl
  · simp only [ne_eq, hres, ite_not]

/-- A deferred movement. -/
theorem impl_OP_Seek_spec (hk : pC.Keeps B (fun b w => (stand b w).row) nField w)
    (htable : pC.isTable = true) (hb : pC.pCursor = some b) {pIn2 : Mem}
    (h : impl_OP_Seek L pIn2 pC = .ok pC') :
    pC.GoesTo B stand nField w pC' w
      ⟨(stand b w).spot, false, some (pIn2.sqlite3VdbeIntValue L)⟩ := by
  unfold impl_OP_Seek at h
  simp only [hb, Except.ok.injEq] at h
  subst h
  refine ⟨⟨b, b, hb, rfl, .refl b w, rfl⟩, ⟨⟨b, rfl⟩, hk.length_aOffset, hk.length_aType, fun hs => ?_⟩,
    htable⟩
  -- The description is still one of the row that the b-tree is on.
  exact ⟨rfl, fun b' hb' => (hk.current hs).2 b' (hb.trans hb')⟩

/-- A row of NULLs. -/
theorem impl_OP_NullRow_spec (hB : B.IsTable L stand)
    (hk : pC.Keeps B (fun b w => (stand b w).row) nField w) (htable : pC.isTable = true)
    (hb : pC.pCursor = some b) (h : impl_OP_NullRow B pC w = (pC', w')) :
    pC.GoesTo B stand nField w pC' w'
      ⟨.nowhere, true, (pC.place (stand b w)).target⟩ := by
  rcases hclear : B.ClearCursor b w with ⟨b', w₁⟩
  unfold impl_OP_NullRow at h
  simp only [hb, hclear, Prod.mk.injEq] at h
  obtain ⟨rfl, rfl⟩ := h
  obtain ⟨hmoves, hspot⟩ := hB.clear b w b' w₁ hclear
  refine ⟨⟨b, b', hb, rfl, hmoves, ?_⟩, hk.of_stale ⟨b', rfl⟩ rfl rfl, htable⟩
  unfold ColumnCursor.place
  rw [hspot]

/-! ## Reading -/

/-- A cursor that has not moved is on its row. -/
theorem restored_of_valid (hB : B.IsTable L stand) (h : B.HasMoved b w = false) :
    (stand b w).spot.restored (stand b w).rows = (stand b w).spot ∧
      (stand b w).spot.isOn = true := by
  rw [hB.moved_eq] at h
  obtain ⟨k, hk, hspot⟩ := hB.valid b w h
  rw [hspot]
  exact ⟨if_pos hk, rfl⟩

/-- A cursor is brought to its row, or to no row if that has gone. -/
theorem handleMovedCursor_place (hB : B.IsTable L stand)
    (h : handleMovedCursor B pC b w = (SQLITE_OK, pC', w')) :
    ∃ b', pC'.pCursor = some b' ∧ Moves stand b w b' w' ∧ pC'.row = pC.row ∧
      pC'.cacheStatus = CACHE_STALE ∧ pC'.isTable = pC.isTable ∧
      ((stand b' w').spot.isOn = true → B.HasMoved b' w' = false) ∧
      pC'.place (stand b' w') = ⟨(stand b w).spot.restored (stand b w).rows,
        pC.nullRow || !((stand b w).spot.restored (stand b w).rows).isOn,
        (pC.place (stand b w)).target⟩ := by
  rcases hrestore : B.CursorRestore b w with ⟨⟨rc, isDifferentRow⟩, b', w₁⟩
  unfold handleMovedCursor at h
  simp only [hrestore, Prod.mk.injEq] at h
  obtain ⟨rfl, rfl, rfl⟩ := h
  obtain ⟨hmoves, hspot, hdiff⟩ := hB.restore b w isDifferentRow b' w₁ hrestore
  refine ⟨b', rfl, hmoves, rfl, rfl, rfl, fun hon => ?_, ?_⟩
  · rw [hon] at hdiff
    subst hdiff
    exact hB.holds.restore b w b' w₁ hrestore
  · unfold ColumnCursor.place
    rw [hdiff, hspot]

/-- The same where the cursor may have moved or not. -/
theorem sqlite3VdbeCursorRestore_place (hB : B.IsTable L stand)
    (hk : pC.Keeps B (fun b w => (stand b w).row) nField w) (hb : pC.pCursor = some b)
    (h : sqlite3VdbeCursorRestore B pC b w = (SQLITE_OK, pC', w')) :
    ∃ b', pC'.pCursor = some b' ∧ Moves stand b w b' w' ∧ pC'.isTable = pC.isTable ∧
      pC'.Keeps B (fun b w => (stand b w).row) nField w' ∧
      ((stand b' w').spot.isOn = true → B.HasMoved b' w' = false) ∧
      pC'.place (stand b' w') = ⟨(stand b w).spot.restored (stand b w).rows,
        pC.nullRow || !((stand b w).spot.restored (stand b w).rows).isOn,
        (pC.place (stand b w)).target⟩ := by
  unfold sqlite3VdbeCursorRestore at h
  cases hmoved : B.HasMoved b w
  · rw [hmoved, if_neg (by decide)] at h
    simp only [Prod.mk.injEq, true_and] at h
    obtain ⟨rfl, rfl⟩ := h
    obtain ⟨hsame, hon⟩ := restored_of_valid hB hmoved
    refine ⟨b, hb, .refl b w, rfl, hk, fun _ => hmoved, ?_⟩
    rw [hsame, hon]
    simp [ColumnCursor.place]
  · rw [hmoved, if_pos rfl] at h
    obtain ⟨b', hb', hmoves, hrow, hstale, htable, hvalid, hplace⟩ := handleMovedCursor_place hB h
    exact ⟨b', hb', hmoves, htable, hk.of_stale ⟨b', hb'⟩ hrow hstale, hvalid, hplace⟩

/-- The place that a cursor is brought to before its row is read. -/
theorem sqlite3VdbeCursorMoveto_place (hB : B.IsTable L stand) (hb : pC.pCursor = some b)
    (h : sqlite3VdbeCursorMoveto B pC w = .ok (SQLITE_OK, pC', w')) :
    ∃ b', pC'.pCursor = some b' ∧ Moves stand b w b' w' ∧ pC'.isTable = pC.isTable ∧
      (pC.place (stand b w)).arrive (stand b w).rows = some (pC'.place (stand b' w')) := by
  unfold sqlite3VdbeCursorMoveto at h
  rw [hb] at h
  dsimp only at h
  cases hdef : pC.deferredMoveto
  · rw [hdef, if_neg (by decide)] at h
    have hplace : (pC.place (stand b w)).target = none := by simp [ColumnCursor.place, hdef]
    cases hmoved : B.HasMoved b w
    · -- The cursor is where it was.
      rw [hmoved, if_neg (by decide)] at h
      simp only [Except.ok.injEq, Prod.mk.injEq, true_and] at h
      obtain ⟨rfl, rfl⟩ := h
      obtain ⟨hsame, hon⟩ := restored_of_valid hB hmoved
      refine ⟨b, hb, .refl b w, rfl, ?_⟩
      unfold Place.arrive
      rw [hplace]
      simp [ColumnCursor.place, hsame, hon, hdef]
    · -- The table was written to, and the cursor is restored.
      rw [hmoved, if_pos rfl] at h
      obtain ⟨b', hb', hmoves, -, -, htable, -, hp⟩ := handleMovedCursor_place hB (Except.ok.inj h)
      refine ⟨b', hb', hmoves, htable, ?_⟩
      unfold Place.arrive
      rw [hp, hplace]
      rfl
  · -- The movement that was deferred is done now, and has to find its row.
    rw [hdef, if_pos rfl] at h
    rcases hsearch : B.MovetoUnpacked none pC.movetoTarget b w with ⟨⟨rc, res⟩, b', w₁⟩
    unfold handleDeferredMoveto at h
    simp only [hsearch] at h
    by_cases hrc : rc = SQLITE_OK
    swap
    · simp [hrc] at h
    by_cases hres : res = 0
    swap
    · simp [hrc, hres, SQLITE_CORRUPT, SQLITE_OK] at h
    subst hrc hres
    simp only [ne_eq, not_true_eq_false, if_false, Except.ok.injEq, Prod.mk.injEq, true_and] at h
    obtain ⟨rfl, rfl⟩ := h
    obtain ⟨hmoves, pos, hspot, hrests⟩ := hB.search _ b w 0 b' w₁ hsearch
    obtain ⟨hmem, rfl⟩ := hrests.of_zero
    refine ⟨b', rfl, hmoves, rfl, ?_⟩
    simp [Place.arrive, ColumnCursor.place, hdef, hmem, hspot, Spot.ofKey]

/-- The rowid of the place. -/
theorem impl_OP_Rowid_spec (hB : B.IsTable L stand)
    (hk : pC.Keeps B (fun b w => (stand b w).row) nField w) (htable : pC.isTable = true)
    (hb : pC.pCursor = some b) {pOut c : Mem}
    (h : impl_OP_Rowid B pc pC pOut w = .ok (.done SQLITE_OK target, pC', c, w')) :
    pC.GoesTo B stand nField w pC' w' ((pC.place (stand b w)).rowid (stand b w).rows).1 ∧
      target = pc + 1 ∧ c.szMalloc = pOut.szMalloc ∧ c.zMalloc = pOut.zMalloc ∧
      match ((pC.place (stand b w)).rowid (stand b w).rows).2 with
        | none => c.flags = MEM_Null
        | some k => c.flags = MEM_Int ∧ c.u = BitVec.ofInt 64 k := by
  unfold impl_OP_Rowid at h
  cases hnull : pC.nullRow
  swap
  · -- The cursor is on a row of NULLs.
    have hp : (pC.place (stand b w)).rowid (stand b w).rows = (pC.place (stand b w), none) := by
      simp [Place.rowid, ColumnCursor.place, hnull]
    rw [hnull, if_pos rfl] at h
    simp only [Except.ok.injEq, Prod.mk.injEq, CursorExit.done.injEq, true_and] at h
    obtain ⟨rfl, rfl, rfl, rfl⟩ := h
    rw [hp]
    exact ⟨⟨⟨b, b, hb, hb, .refl b w, rfl⟩, hk, htable⟩, rfl, rfl, rfl, rfl⟩
  rw [hnull, if_neg (by decide)] at h
  cases hdef : pC.deferredMoveto
  swap
  · -- The movement is still to do.
    have hp : (pC.place (stand b w)).rowid (stand b w).rows =
        (pC.place (stand b w), some pC.movetoTarget) := by
      simp [Place.rowid, ColumnCursor.place, hnull, hdef]
    rw [hdef, if_pos rfl] at h
    simp only [Except.ok.injEq, Prod.mk.injEq, CursorExit.done.injEq, true_and] at h
    obtain ⟨rfl, rfl, rfl, rfl⟩ := h
    rw [hp]
    exact ⟨⟨⟨b, b, hb, hb, .refl b w, rfl⟩, hk, htable⟩, rfl, rfl, rfl, rfl, rfl⟩
  rw [hdef, if_neg (by decide)] at h
  rcases hrestore : sqlite3VdbeCursorRestore B pC b w with ⟨rc, pC₁, w₁⟩
  simp only [hb, hrestore] at h
  by_cases hrc : rc = SQLITE_OK
  swap
  · simp [hrc] at h
  subst hrc
  -- Restoring the cursor brings it back to its row, or off the table when the row is gone.
  obtain ⟨b₁, hb₁, hmoves, htable₁, hk₁, hvalid, hplace⟩ :=
    sqlite3VdbeCursorRestore_place hB hk hb hrestore
  have hspot : (stand b₁ w₁).spot = (stand b w).spot.restored (stand b w).rows :=
    congrArg Place.spot hplace
  have hn₁ : pC₁.nullRow = !((stand b₁ w₁).spot).isOn := by
    rw [hspot]
    simpa [ColumnCursor.place, hnull] using congrArg Place.null hplace
  have htarget : (pC.place (stand b w)).target = none := by simp [ColumnCursor.place, hdef]
  -- What the abstract cursor gives depends on the restored place only.
  have hp : (pC.place (stand b w)).rowid (stand b w).rows =
      (pC₁.place (stand b₁ w₁), if (stand b₁ w₁).spot.isOn then (stand b₁ w₁).spot.key else none) := by
    rw [hplace, ← hspot, htarget]
    simp [Place.rowid, ColumnCursor.place, hnull, hdef, hspot]
  rw [hp]
  simp only [ne_eq, not_true_eq_false, if_false] at h
  cases hon : (stand b₁ w₁).spot.isOn
  · -- The row is there no more.
    rw [hon] at hn₁
    simp only [hn₁, Bool.not_false, if_true, Except.ok.injEq, Prod.mk.injEq, CursorExit.done.injEq,
      true_and] at h
    obtain ⟨rfl, rfl, rfl, rfl⟩ := h
    exact ⟨⟨⟨b, b₁, hb, hb₁, hmoves, rfl⟩, hk₁, htable₁.trans htable⟩, rfl, rfl, rfl, rfl⟩
  · rw [hon] at hn₁
    simp only [hn₁, hb₁, Bool.not_true, Bool.false_eq_true, if_false, Except.ok.injEq, Prod.mk.injEq,
      CursorExit.done.injEq, true_and] at h
    obtain ⟨rfl, rfl, rfl, rfl⟩ := h
    have hmoved : (stand b₁ w₁).moved = false := (hB.moved_eq b₁ w₁).symm.trans (hvalid hon)
    obtain ⟨k, -, hk⟩ := hB.valid b₁ w₁ hmoved
    refine ⟨⟨⟨b, b₁, hb, hb₁, hmoves, rfl⟩, hk₁, htable₁.trans htable⟩, rfl, rfl, rfl, ?_⟩
    rw [if_pos rfl, hk]
    exact ⟨rfl, congrArg (BitVec.ofInt 64) (hB.rowid b₁ w₁ k hmoved hk)⟩

/-- The column of the row at the place. -/
theorem impl_OP_Column_place (hB : B.IsTable L stand) (hL : L.Sized)
    (hk : pC.Keeps B (fun b w => (stand b w).row) nField w) (htable : pC.isTable = true)
    (hb : pC.pCursor = some b) {cacheCtr : ℕ} (hctr : cacheCtr ≠ CACHE_STALE)
    (hp2 : op.p2.toNat < nField)
    (hp5 : op.p5_has (OPFLAG_LENGTHARG ||| OPFLAG_TYPEOFARG) = false) {enc : ℕ} {p4 : Option Mem}
    (hp4 : DefaultOk enc p4) {pDest c : Mem} (ha : pDest.szMalloc = pDest.zMalloc.length)
    {limit : ℤ} {payloadSize64 : List Byte}
    (h : impl_OP_Column L B enc limit cacheCtr payloadSize64 op p4 none pC pDest w =
      .ok (.result SQLITE_OK, pC', c, w')) :
    ∃ p, (pC.place (stand b w)).arrive (stand b w).rows = some p ∧
      pC.GoesTo B stand nField w pC' w' p ∧ c.szMalloc = c.zMalloc.length ∧
      ((p.null = true ∧ c.Settled enc .null) ∨
        ∃ k v, p.null = false ∧ p.spot = .on k ∧ k ∈ (stand b w).rows ∧
          ((stand b w).entry k).column op.p2.toNat = some v ∧ ColumnIs enc p4 v c) := by
  obtain ⟨exit, pC₂, c₂, w₂, hrun, hbrought, hreads⟩ := impl_OP_Column_spec hB.holds hL
    (by rw [htable]; rfl) hk hctr hp2 hp5 hp4 ha limit payloadSize64 none
  rw [h] at hrun
  simp only [Except.ok.injEq, Prod.mk.injEq] at hrun
  obtain ⟨rfl, rfl, rfl, rfl⟩ := hrun
  obtain ⟨rc, pC₁, w₁, hmove, hrc, halike, b₁, b', hb₁, hb', hsame⟩ := hbrought.moved
  obtain ⟨rfl, -⟩ := hrc.resolve_left (by simp)
  obtain ⟨b₁', hb₁', hmoves, htable₁, harrive⟩ := sqlite3VdbeCursorMoveto_place hB hb hmove
  obtain rfl : b₁ = b₁' := Option.some.inj (hb₁.symm.trans hb₁')
  -- The b-tree is as it was after the movement.
  have hplace : pC'.place (stand b' w') = pC₁.place (stand b₁ w₁) := by
    unfold ColumnCursor.place
    rw [hsame.view_eq, halike.nullRow_eq, halike.deferredMoveto_eq, halike.movetoTarget_eq]
  have hmoves' : Moves stand b w b' w' := hmoves.trans (.of_same hsame)
  obtain ⟨hk', hcase⟩ := hreads.ok rfl
  refine ⟨_, harrive, ⟨⟨b, b', hb, hb', hmoves', hplace⟩, hk',
    halike.isTable_eq.trans (htable₁.trans htable)⟩, ?_⟩
  rw [← hplace]
  rcases hcase with ⟨hnull, hc⟩ | ⟨r, v, ⟨hnull, b'', hb'', hmoved, hr⟩, hcolumn, hc⟩
  · exact ⟨hc.isValue.alloc, Or.inl ⟨hnull, hc⟩⟩
  · obtain rfl : b' = b'' := Option.some.inj (hb'.symm.trans hb'')
    rw [hB.moved_eq] at hmoved
    obtain ⟨k, hmem, hspot⟩ := hB.valid b' w' hmoved
    have hentry : (stand b w).entry k = r := by
      rw [← hmoves'.entry_eq]
      exact Option.some.inj ((Stand.row_of_on hmoved hspot).symm.trans hr)
    refine ⟨?_, Or.inr ⟨k, v, hnull, hspot, hmoves'.rows_eq ▸ hmem, ?_, hc⟩⟩
    · cases hc with
      | value h => exact h.isValue.alloc
      | default h _ _ => exact h.alloc
      | null h => exact h.isValue.alloc
    · rw [hentry]
      exact hcolumn

end spec

end SQPyte
