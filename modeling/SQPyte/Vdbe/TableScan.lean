import SQPyte.Vdbe.TableRuns

/-!
# Scans of tables

A loop from `OP_Rewind` by `OP_Next` goes through a table. In between, its cursor is read, other
cursors move, and the table itself is written to. The rows that the loop gets to increase, and those
that are in the table all the time it gets to (`scan_visits`).

A traversal is followed through the run by what it has visited (`Neighbours.Visits`).
-/

namespace SQPyte

open Neighbours

variable {β κ : Type} {L : CLib κ} {B : RowBtree β κ} {stand : β → κ → Stand} {enc : ℕ} {limit : ℤ}
  {s t : CursorState β κ} {i : ℕ} {lasting : Set ℤ}

/-- The event is part of a scan by the cursor `i`: other cursors may do anything. -/
inductive CursorEvent.Scans (i : ℕ) : CursorEvent β κ → Prop
  | Next (op : Op) (isInterrupted : Bool) : Scans i (.Next op isInterrupted)
  | Rowid (op : Op) : Scans i (.Rowid op)
  | Column (op : Op) (p4 : Option Mem) (payloadSize64 : List Byte) :
    Scans i (.Column op p4 payloadSize64)
  | other {e : CursorEvent β κ} (h : e.cursor ≠ some i) : Scans i e

/-- The event moves the cursor `i` to a row of the scan. -/
def CursorEvent.scans (i : ℕ) : CursorEvent β κ → Bool
  | .Rewind op => op.p1.toNat = i
  | .Next op _ => op.p1.toNat = i
  | _ => false

/-- The row that a cursor is on, or was on before it was deleted. -/
def CursorState.key (stand : β → κ → Stand) (s : CursorState β κ) (i : ℕ) : Option ℤ :=
  (s.sight stand i).bind fun x => x.place.spot.key

/-- The rows that the scan by the cursor `i` gets to in a run. -/
def visited (step : CursorState β κ → CursorEvent β κ → Option (CursorState β κ))
    (stand : β → κ → Stand) (i : ℕ) : List (CursorEvent β κ) → CursorState β κ → List ℤ
  | [], _ => []
  | e :: es, s =>
    match step s e with
    | none => []
    | some s' =>
      (if e.scans i && s'.running then (s'.key stand i).toList else []) ++ visited step stand i es s'

/-! ## Steps -/

/-- The rowid of a row. -/
theorem Spot.key_ofKey (pos : Option ℤ) : (Spot.ofKey pos).key = pos := by cases pos <;> rfl

/-- A row that was looked for again has its rowid. -/
theorem Spot.key_restored (rows : Finset ℤ) (spot : Spot) : (spot.restored rows).key = spot.key := by
  cases spot with
  | on k =>
    show (if k ∈ rows then Spot.on k else .past k).key = some k
    split_ifs <;> rfl
  | nowhere => rfl
  | past k => rfl

/-- To read a row is not to move on. -/
theorem Place.arrive_of_none {rows : Finset ℤ} {p p' : Place} (h : p.target = none)
    (ha : p.arrive rows = some p') : p'.target = none ∧ p'.spot.key = p.spot.key := by
  unfold Place.arrive at ha
  rw [h] at ha
  obtain rfl := Option.some.inj ha
  exact ⟨rfl, Spot.key_restored rows p.spot⟩

/-- Nor is it to get the rowid. -/
theorem Place.rowid_of_none (rows : Finset ℤ) {p : Place} (h : p.target = none) :
    (p.rowid rows).1.target = none ∧ (p.rowid rows).1.spot.key = p.spot.key := by
  unfold Place.rowid
  rw [h]
  split_ifs
  · exact ⟨h, rfl⟩
  · exact ⟨rfl, Spot.key_restored rows p.spot⟩

/-- The scan is under way: the cursor has nothing left to do, and has missed nothing. -/
structure Scanning (stand : β → κ → Stand) (i : ℕ) (lasting : Set ℤ) (rows : List ℤ)
    (s : CursorState β κ) : Prop where
  /-- The cursor is open, and there is no movement to do. -/
  sight : ∃ x, s.sight stand i = some x ∧ x.place.target = none
  /-- What has been visited. -/
  visits : Visits lasting rows (s.key stand i)

/-- The rowid that a cursor is at. -/
theorem CursorState.key_eq {x : Sight} (hx : s.sight stand i = some x) :
    s.key stand i = x.place.spot.key := by
  unfold CursorState.key
  rw [hx]
  rfl

/-- A step of a scan. -/
theorem Scanning.step {rows : List ℤ} {e : CursorEvent β κ} {s' : CursorState β κ}
    (h : Scanning stand i lasting rows s) (he : e.Scans i) (hrun : s'.running = true)
    (hfollows : Follows L enc stand s e s')
    (hlasting : ∀ x, s.sight stand i = some x → ∀ k ∈ lasting, k ∈ x.rows) :
    Scanning stand i lasting
      (rows ++ if e.scans i && s'.running then (s'.key stand i).toList else []) s' := by
  obtain ⟨⟨x, hx, htarget⟩, hvisits⟩ := h
  rw [CursorState.key_eq hx] at hvisits
  rw [hrun, Bool.and_true]
  -- The other cursors.
  have hother : e.cursor ≠ some i → Scanning stand i lasting rows s' := by
    intro hne
    have hplace := hfollows.places i hne
    rw [hx] at hplace
    obtain ⟨x', hx', heq⟩ := Option.map_eq_some_iff.mp hplace
    refine ⟨⟨x', hx', heq ▸ htarget⟩, ?_⟩
    rw [CursorState.key_eq hx', heq]
    exact hvisits
  have hscans : e.cursor ≠ some i → e.scans i = false := by
    intro hne
    cases e <;> first | rfl | exact decide_eq_false fun heq => hne (congrArg some heq)
  by_cases hcursor : e.cursor = some i
  swap
  · rw [hscans hcursor, if_neg (by decide), List.append_nil]
    exact hother hcursor
  obtain ⟨x₀, x', hx₀, hx', hdoes⟩ := hfollows.does i hcursor
  obtain rfl : x = x₀ := Option.some.inj (hx.symm.trans hx₀)
  cases he with
  | other hne => exact absurd hcursor hne
  -- `OP_Next` goes to the next row, which is visited now.
  | Next op isInterrupted =>
    obtain ⟨pos, rfl, hup, -, -⟩ := hdoes
    have hkey : s'.key stand i = pos := by
      rw [CursorState.key_eq hx']
      exact Spot.key_ofKey pos
    have hi : (CursorEvent.Next op isInterrupted : CursorEvent β κ).scans i = true :=
      decide_eq_true (Option.some.inj hcursor)
    rw [hi, if_pos rfl, hkey]
    refine ⟨⟨_, hx', rfl⟩, ?_⟩
    rw [hkey]
    exact hvisits.step hup (hlasting x hx)
  -- Reading the rowid may bring the cursor back to its row, which it has visited.
  | Rowid op =>
    obtain ⟨c, -, rfl, -, -⟩ := hdoes
    obtain ⟨htarget', hkey⟩ := Place.rowid_of_none x.rows htarget
    refine ⟨⟨_, hx', htarget'⟩, ?_⟩
    rw [CursorState.key_eq hx', show (x.at _).place.spot.key = _ from hkey]
    simpa [CursorEvent.scans] using hvisits
  -- So may reading a column.
  | Column op p4 payloadSize64 =>
    obtain ⟨p, c, harrive, rfl, -⟩ := hdoes
    obtain ⟨htarget', hkey⟩ := Place.arrive_of_none htarget harrive
    refine ⟨⟨_, hx', htarget'⟩, ?_⟩
    rw [CursorState.key_eq hx', show (x.at _).place.spot.key = _ from hkey]
    simpa [CursorEvent.scans] using hvisits

/-! ## Runs -/

/-- Nothing is visited once an opcode has failed. -/
theorem visited_of_not_running (h : s.running = false) (es : List (CursorEvent β κ)) :
    visited (CursorState.step L B enc limit) stand i es s = [] := by
  cases es with
  | nil => rfl
  | cons e es =>
    have hnone : CursorState.step L B enc limit s e = none := by
      unfold CursorState.step
      rw [h, if_pos rfl]
    unfold visited
    rw [hnone]

/-- Nothing comes after an opcode that has failed. -/
theorem running_of_after {es : List (CursorEvent β κ)}
    (ht : Runs.after (CursorState.step L B enc limit) es s = some t) (hrun : t.running = true) :
    s.running = true := by
  cases es with
  | nil =>
    obtain rfl := Option.some.inj ht
    exact hrun
  | cons e es =>
    obtain ⟨s', hs', -⟩ := Option.bind_eq_some_iff.mp ht
    exact CursorState.running_of_step hs'

/-- A scan that is under way stays so along a run, up to its end. -/
theorem Scanning.run (hB : B.IsTable L stand) (hL : L.Sized) {es : List (CursorEvent β κ)}
    {rows : List ℤ} (h : Scanning stand i lasting rows s) (hs : s.WellFormed B stand)
    (hes : Runs.Each (CursorState.step L B enc limit) (fun s e => e.Allowed stand enc s) es s)
    (hscan : ∀ e ∈ es, e.Scans i)
    (hlasting : Runs.Always (CursorState.step L B enc limit)
      (fun s => ∀ x, s.sight stand i = some x → ∀ k ∈ lasting, k ∈ x.rows) es s) :
    (rows ++ visited (CursorState.step L B enc limit) stand i es s).Pairwise (· < ·) ∧
      ∀ t, Runs.after (CursorState.step L B enc limit) es s = some t → t.running = true →
        Scanning stand i lasting
          (rows ++ visited (CursorState.step L B enc limit) stand i es s) t := by
  induction es generalizing s rows with
  | nil =>
    unfold visited
    rw [List.append_nil]
    refine ⟨h.visits.increasing, fun t ht _ => ?_⟩
    obtain rfl := Option.some.inj ht
    exact h
  | cons e es ih =>
    unfold visited
    cases hstep : CursorState.step L B enc limit s e with
    | none =>
      dsimp only
      rw [List.append_nil]
      refine ⟨h.visits.increasing, fun t ht _ => ?_⟩
      rw [Runs.after, hstep] at ht
      cases ht
    | some s' =>
      dsimp only
      cases hrun : s'.running
      · -- The opcode has failed, and the run is over.
        rw [visited_of_not_running hrun, Bool.and_false, if_neg (by decide), List.append_nil,
          List.append_nil]
        refine ⟨h.visits.increasing, fun t ht hrun' => ?_⟩
        rw [Runs.after, hstep] at ht
        exact absurd (running_of_after ht hrun') (by rw [hrun]; decide)
      · obtain ⟨hs', hfollows⟩ := hs.step hB hL hes.1 hstep hrun
        have hnext := h.step (hscan e List.mem_cons_self) hrun hfollows hlasting.1
        rw [hrun] at hnext
        obtain ⟨hinc, hend⟩ := ih hnext hs' (hes.2 s' hstep)
          (fun e' he' => hscan e' (List.mem_cons_of_mem e he')) (hlasting.2 s' hstep)
        rw [← List.append_assoc]
        refine ⟨hinc, fun t ht => hend t ?_⟩
        rw [Runs.after, hstep] at ht
        exact ht

/-- A scan gets to rows in increasing order, and to all that are in the table all the time. -/
theorem scan_visits (hB : B.IsTable L stand) (hL : L.Sized) (hs : s.WellFormed B stand) {op : Op}
    (hop : op.p1.toNat = i) {es : List (CursorEvent β κ)}
    (hes : Runs.Each (CursorState.step L B enc limit) (fun s e => e.Allowed stand enc s)
      (.Rewind op :: es) s)
    (hscan : ∀ e ∈ es, e.Scans i)
    (hlasting : Runs.Always (CursorState.step L B enc limit)
      (fun s => ∀ x, s.sight stand i = some x → ∀ k ∈ lasting, k ∈ x.rows) (.Rewind op :: es) s) :
    (visited (CursorState.step L B enc limit) stand i (.Rewind op :: es) s).Pairwise (· < ·) ∧
      ∀ t, Runs.after (CursorState.step L B enc limit) (.Rewind op :: es) s = some t →
        t.running = true → t.key stand i = none →
        ∀ k ∈ lasting, k ∈ visited (CursorState.step L B enc limit) stand i (.Rewind op :: es) s := by
  subst hop
  have hscans : (CursorEvent.Rewind op : CursorEvent β κ).scans op.p1.toNat = true :=
    decide_eq_true rfl
  unfold visited
  rw [hscans]
  cases hstep : CursorState.step L B enc limit s (.Rewind op) with
  | none =>
    refine ⟨List.Pairwise.nil, fun t ht => ?_⟩
    rw [Runs.after, hstep] at ht
    cases ht
  | some s' =>
    dsimp only
    rw [Bool.true_and]
    cases hrun : s'.running
    · -- The first opcode has failed.
      rw [visited_of_not_running hrun, if_neg (by decide), List.append_nil]
      refine ⟨List.Pairwise.nil, fun t ht hrun' => ?_⟩
      rw [Runs.after, hstep] at ht
      exact absurd (running_of_after ht hrun') (by rw [hrun]; decide)
    · obtain ⟨hs', hfollows⟩ := hs.step hB hL hes.1 hstep hrun
      obtain ⟨x, x', hx, hx', pos, rfl, hleast, -, -⟩ := hfollows.does op.p1.toNat rfl
      have hkey : s'.key stand op.p1.toNat = pos := by
        rw [CursorState.key_eq hx']
        exact Spot.key_ofKey pos
      rw [if_pos rfl, hkey]
      have hstart : Scanning stand op.p1.toNat lasting pos.toList s' := by
        refine ⟨⟨_, hx', rfl⟩, ?_⟩
        rw [hkey]
        exact .first hleast (hlasting.1 x hx)
      obtain ⟨hinc, hend⟩ := hstart.run hB hL hs' (hes.2 s' hstep) hscan (hlasting.2 s' hstep)
      -- At the end the cursor is on no row, so no row can still be to come.
      refine ⟨hinc, fun t ht hrun' hnone k hk => ?_⟩
      rw [Runs.after, hstep] at ht
      refine (hend t ht hrun').visits.covers k hk fun y hy => ?_
      rw [hnone] at hy
      cases hy

section memory

open MemoryTable

/-- What happens after the start of a scan: another cursor inserts the row 3 and deletes the row that
the scan is on, which then goes on to its end. -/
def underScan : List (CursorEvent TableCursor MemoryTable) :=
  deleting.tail ++ List.replicate 3 (.Next (cursorOp .Next 0 0 0) false)

/-- The row 2 is in the table all the time, and is visited. -/
theorem scan_visits_underScan :
    (visited (CursorState.step (CLib.decimalOver MemoryTable) btree 1 1000) MemoryTable.stand 0
      (.Rewind (cursorOp .Rewind 0 0 0) :: underScan) twoCursors).Pairwise (· < ·) ∧
    2 ∈ visited (CursorState.step (CLib.decimalOver MemoryTable) btree 1 1000) MemoryTable.stand 0
      (.Rewind (cursorOp .Rewind 0 0 0) :: underScan) twoCursors := by
  have hscan : ∀ e ∈ underScan, e.Scans 0 := by
    unfold underScan deleting inserting
    simp only [List.tail_cons, List.cons_append, List.nil_append, List.replicate,
      List.forall_mem_cons]
    exact ⟨.other (by decide), .Column _ _ _, .other (by decide), .other (by decide), .Next _ _,
      .Next _ _, .Next _ _, by simp⟩
  have hlasting : Runs.Always (CursorState.step (CLib.decimalOver MemoryTable) btree 1 1000)
      (fun s => ∀ x ∈ s.sight MemoryTable.stand 0, 2 ∈ x.rows)
      (.Rewind (cursorOp .Rewind 0 0 0) :: underScan) twoCursors := by
    decide +kernel
  obtain ⟨hincreasing, hall⟩ := scan_visits btree_isTable (decimalOver_sized MemoryTable)
    twoCursors_wellFormed rfl (each_allowed_of_heeds (by decide +kernel)) hscan
    (hlasting.mono (fun s h x hx k (hk : k ∈ ({2} : Set ℤ)) => hk ▸ h x hx))
  -- The scan comes to its end.
  have hend : ∃ t ∈ Runs.after (CursorState.step (CLib.decimalOver MemoryTable) btree 1 1000)
      (.Rewind (cursorOp .Rewind 0 0 0) :: underScan) twoCursors,
      t.running = true ∧ t.key MemoryTable.stand 0 = none := by
    decide +kernel
  obtain ⟨t, ht, hrun, hkey⟩ := hend
  exact ⟨hincreasing, hall t ht hrun hkey 2 rfl⟩

example : visited (CursorState.step (CLib.decimalOver MemoryTable) btree 1 1000) MemoryTable.stand 0
    (.Rewind (cursorOp .Rewind 0 0 0) :: underScan) twoCursors = [1, 2, 3] := by decide +kernel

end memory

end SQPyte
