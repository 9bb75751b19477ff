import SQPyte.Vdbe.TableCursors

/-!
# Tables in memory

A b-tree that keeps the set of its rowids and a record for each. Every write is counted. A cursor is
valid on a row as long as it has seen all writes, and has to look for its row again otherwise.

What the opcodes on cursors rely on in `btree.c` (`RowBtree.IsTable`) holds of it whatever is in the
table, so programs can be run on it. A cursor that has not seen a write notices it, unless it has
lost its row (`notices_of_seen_ne`).
-/

namespace SQPyte

open Neighbours

/-- A cursor of a table in memory. -/
structure TableCursor where
  /-- Where it is. -/
  spot : Spot
  /-- The number of writes when it got there. -/
  seen : ℕ
deriving DecidableEq, Repr

/-- A table in memory. -/
structure MemoryTable where
  /-- The rowids. -/
  rows : Finset ℤ
  /-- The row of each rowid. -/
  entry : ℤ → Row
  /-- The number of writes so far. -/
  writes : ℕ

namespace MemoryTable

/-- The table with the record `r` in the row `k`. -/
def insertRow (w : MemoryTable) (k : ℤ) (r : Row) : MemoryTable :=
  ⟨insert k w.rows, Function.update w.entry k r, w.writes + 1⟩

/-- The table without the row `k`. -/
def deleteRow (w : MemoryTable) (k : ℤ) : MemoryTable := ⟨w.rows.erase k, w.entry, w.writes + 1⟩

/-- The cursor is on a row of the table, and has seen all writes. -/
def Valid (w : MemoryTable) (b : TableCursor) : Prop :=
  b.seen = w.writes ∧ b.spot.isOn = true ∧ b.spot.restored w.rows = b.spot

instance (w : MemoryTable) (b : TableCursor) : Decidable (w.Valid b) :=
  inferInstanceAs (Decidable (_ ∧ _ ∧ _))

/-- Where a cursor stands. -/
def stand (b : TableCursor) (w : MemoryTable) : Stand := ⟨w.rows, w.entry, b.spot, !w.Valid b⟩

/-- A cursor on a row, or beyond the last one. -/
def cursorAt (w : MemoryTable) (pos : Option ℤ) : TableCursor := ⟨.ofKey pos, w.writes⟩

/-- The record that a cursor is on. -/
def payload (w : MemoryTable) (b : TableCursor) : List Byte :=
  match b.spot with
  | .on k => (w.entry k).payload
  | _ => []

/-- The b-tree of a table in memory. -/
def btree : RowBtree TableCursor MemoryTable where
  MovetoUnpacked _ iKey _ w :=
    ((SQLITE_OK, (search w.rows iKey).2), w.cursorAt (search w.rows iKey).1, w)
  Next _ b w :=
    let pos := above w.rows b.spot.key
    ((SQLITE_OK, if pos = none then 1 else 0), w.cursorAt pos, w)
  Previous _ b w :=
    let pos := below w.rows b.spot.key
    ((SQLITE_OK, if pos = none then 1 else 0), w.cursorAt pos, w)
  valid b := b.spot.isOn
  HasMoved b w := !w.Valid b
  CursorRestore b w :=
    let spot := b.spot.restored w.rows
    ((SQLITE_OK, !spot.isOn), ⟨spot, w.writes⟩, w)
  First _ w :=
    let pos := least w.rows
    ((SQLITE_OK, if pos = none then 1 else 0), w.cursorAt pos, w)
  ClearCursor b w := (⟨.nowhere, b.seen⟩, w)
  Size key b w := if key then b.spot.key.getD 0 else (w.payload b).length
  Fetch _ b w :=
    match b.spot with
    | .on k => ((w.entry k).memory, (w.entry k).avail)
    | _ => ([], 0)
  Read _ offset amt b w := ((SQLITE_OK, ((w.payload b).drop offset).take amt), b, w)

variable {b b' : TableCursor} {w w' : MemoryTable} {k : ℤ} {r : Row} {rows : Finset ℤ}
  {pos : Option ℤ}

/-- A cursor has not moved exactly if it is valid. -/
theorem moved_eq_false : (stand b w).moved = false ↔ w.Valid b := by
  unfold stand
  rw [Bool.not_eq_false', decide_eq_true_iff]

/-- A spot that is found again is a row of the table. -/
theorem mem_of_restored {spot : Spot} (h : (spot.restored rows).isOn = true) :
    ∃ k ∈ rows, spot = .on k := by
  cases spot with
  | nowhere => cases h
  | past k => cases h
  | on k =>
    refine ⟨k, ?_, rfl⟩
    by_contra hk
    rw [Spot.restored, if_neg hk] at h
    cases h

/-- A valid cursor is on a row of the table. -/
theorem Valid.mem (h : w.Valid b) : ∃ k ∈ w.rows, b.spot = .on k := by
  obtain ⟨-, hon, hrestored⟩ := h
  exact mem_of_restored (hrestored.symm ▸ hon)

/-- A cursor that has just got to a row is valid. -/
theorem valid_of_mem (hk : k ∈ w.rows) : w.Valid ⟨.on k, w.writes⟩ := ⟨rfl, rfl, if_pos hk⟩

/-- The row that a cursor is on. -/
theorem row_eq_some (h : (stand b w).row = some r) : ∃ k, b.spot = .on k ∧ w.entry k = r := by
  unfold Stand.row at h
  split_ifs at h with hmoved
  obtain ⟨k, -, hspot⟩ := (moved_eq_false.mp (Bool.not_eq_true _ ▸ hmoved)).mem
  refine ⟨k, hspot, ?_⟩
  have hstand : (stand b w).spot = .on k := hspot
  rw [hstand] at h
  exact Option.some.inj h

/-- Moving a cursor changes neither the table nor another cursor. -/
theorem moves (b b' : TableCursor) (w : MemoryTable) : Moves stand b w b' w := ⟨rfl, rfl, fun _ => rfl⟩

/-- The rows can be read. -/
theorem btree_holds : btree.Holds (CLib.decimalOver MemoryTable) false
    (fun b w => (stand b w).row) stand where
  valid b w h := by
    have hvalid : w.Valid b := moved_eq_false.mp h
    obtain ⟨k, -, hspot⟩ := hvalid.mem
    exact ⟨w.entry k, Stand.row_of_on h hspot⟩
  size b w r h := by
    obtain ⟨k, hspot, rfl⟩ := row_eq_some h
    simp [btree, payload, hspot]
  fetch b w r h := by
    obtain ⟨k, hspot, rfl⟩ := row_eq_some h
    simp [btree, hspot]
  read offset amt b w r h _ := by
    obtain ⟨k, hspot, rfl⟩ := row_eq_some h
    refine ⟨_, _, b, w, rfl, .refl b w, fun _ => ?_⟩
    simp [payload, hspot]
  moveto iKey b w b' w' h := by
    simp only [btree, Prod.mk.injEq, true_and] at h
    obtain ⟨hres, rfl, rfl⟩ := h
    have hrests := rests_search w.rows iKey
    rw [hres] at hrests
    obtain ⟨hmem, hpos⟩ := hrests.of_zero
    rw [hpos]
    exact moved_eq_false.mpr (valid_of_mem hmem)
  restore b w b' w' h := by
    simp only [btree, Prod.mk.injEq, true_and, Bool.not_eq_false'] at h
    obtain ⟨hon, rfl, rfl⟩ := h
    obtain ⟨k, hk, hspot⟩ := mem_of_restored hon
    rw [hspot, Spot.restored, if_pos hk]
    exact moved_eq_false.mpr (valid_of_mem hk)
  malloc _ b w := .refl b w
  destroy _ b w := .refl b w

/-- A table in memory is what the opcodes on cursors rely on. -/
theorem btree_isTable : btree.IsTable (CLib.decimalOver MemoryTable) stand where
  moved_eq _ _ := rfl
  holds := btree_holds
  valid b w h := (moved_eq_false.mp h).mem
  rowid b w k _ hspot := by
    have hb : b.spot = .on k := hspot
    simp [btree, hb, Spot.key]
  search iKey b w res b' w' h := by
    simp only [btree, Prod.mk.injEq, true_and] at h
    obtain ⟨rfl, rfl, rfl⟩ := h
    exact ⟨moves b _ w, _, rfl, rests_search w.rows iKey⟩
  first b w res b' w' h := by
    simp only [btree, Prod.mk.injEq, true_and] at h
    obtain ⟨rfl, rfl, rfl⟩ := h
    exact ⟨moves b _ w, _, rfl, by simp, fun k => least_eq_some⟩
  next b w res b' w' h := by
    simp only [btree, Prod.mk.injEq, true_and] at h
    obtain ⟨rfl, rfl, rfl⟩ := h
    exact ⟨moves b _ w, _, rfl, by simp, stepsUp_above w.rows b.spot.key⟩
  restore b w isDifferentRow b' w' h := by
    simp only [btree, Prod.mk.injEq, true_and] at h
    obtain ⟨rfl, rfl, rfl⟩ := h
    exact ⟨moves b _ w, rfl, rfl⟩
  clear b w b' w' h := by
    simp only [btree, Prod.mk.injEq] at h
    obtain ⟨rfl, rfl⟩ := h
    exact ⟨moves b _ w, rfl⟩

/-- A cursor that has not seen a write notices it, unless it has lost its row. -/
theorem notices_of_seen_ne (hseen : b.seen ≠ w'.writes)
    (hspot : b.spot.isOn = true ∨ b.spot = .nowhere) : Notices stand w w' b where
  spot_eq := rfl
  row_eq h := absurd (moved_eq_false.mp h).1 hseen
  past k h := by
    have hpast : b.spot = .past k := h
    rcases hspot with hon | hnowhere
    · rw [hpast] at hon
      cases hon
    · rw [hpast] at hnowhere
      cases hnowhere

end MemoryTable

end SQPyte
