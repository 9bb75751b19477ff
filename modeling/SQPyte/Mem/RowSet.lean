import Mathlib.Data.Finset.Basic
import Mathlib.Data.Finset.Lattice.Lemmas
import SQPyte.Library.SearchTree
import SQPyte.Mem.Allocation

/-!
# `rowset.c`

A `RowSet` is what a register holds with the flag `MEM_RowSet`: a set of rowids that values are
inserted into. It can be tested for the rowids of earlier batches, and its rowids can be taken out in
increasing order. New rowids are appended to a list. The list is sorted, by merges into 40 buckets,
when it is read from, or when a test has another batch number than the one before. Then it is made
into a search tree in a forest of such trees.

A `RowSet` stands for its `content`: the rowids that a test sees, those it does not see yet, and the
batch. `WellFormed` is what holds between the routines, and each of them does to the content what its
name says (`sqlite3RowSetInsert_spec`, `sqlite3RowSetTest_spec`, `sqlite3RowSetNext_spec`).
-/

namespace SQPyte

/-! ## The code -/

/-- `sizeof(struct RowSetEntry)`. -/
def sizeof_RowSetEntry : ℕ := 24
/-- `ROUND8(sizeof(RowSet))`. -/
def sizeof_RowSet : ℕ := 56
/-- `ROWSET_ALLOCATION_SIZE`. -/
def ROWSET_ALLOCATION_SIZE : ℕ := 1024
/-- `ROWSET_ENTRY_PER_CHUNK`. -/
def ROWSET_ENTRY_PER_CHUNK : ℕ := (ROWSET_ALLOCATION_SIZE - 8) / sizeof_RowSetEntry
/-- `sizeof(struct RowSetChunk)`. -/
def sizeof_RowSetChunk : ℕ := 8 + ROWSET_ENTRY_PER_CHUNK * sizeof_RowSetEntry

/-- `struct RowSet`. An entry is its rowid, a list of entries a list, and a tree a `SearchTree`. -/
structure RowSet where
  /-- How many chunks are allocated. -/
  pChunk : ℕ
  /-- List of entries. -/
  pEntry : List ℤ
  /-- Last entry on the list. -/
  pLast : Option ℤ
  /-- List of binary trees of entries. -/
  pForest : List (SearchTree ℤ)
  /-- Number of entries that are not used yet. -/
  nFresh : ℕ
  /-- `ROWSET_SORTED`: the list is sorted. -/
  sorted : Bool
  /-- `ROWSET_NEXT`: `sqlite3RowSetNext` has been called. -/
  next : Bool
  /-- Current insert batch. -/
  iBatch : ℤ
deriving DecidableEq, Repr

/-- `sqlite3RowSetInit`, in a block of `N` bytes. -/
def sqlite3RowSetInit (N : ℕ) : Option RowSet :=
  if N < sizeof_RowSet then none
  else some ⟨0, [], none, [], (N - sizeof_RowSet) / sizeof_RowSetEntry % 2^16, true, false, 0⟩

/-- `sqlite3RowSetClear`. -/
def sqlite3RowSetClear (p : RowSet) : RowSet :=
  { p with
    pChunk := 0, nFresh := 0, pEntry := [], pLast := none, pForest := [], sorted := true
    next := false }

section code

variable {κ : Type} (L : CLib κ)

/-- `rowSetEntryAlloc`: whether there is an entry. -/
def rowSetEntryAlloc (p : RowSet) (w : κ) : Bool × RowSet × κ :=
  if p.nFresh = 0 then
    match L.malloc sizeof_RowSetChunk w with
    | (none, w) => (false, p, w)
    | (some _, w) =>
      (true, { p with pChunk := p.pChunk + 1, nFresh := ROWSET_ENTRY_PER_CHUNK - 1 }, w)
  else (true, { p with nFresh := p.nFresh - 1 }, w)

/-- `sqlite3RowSetInsert`, or `none` where its assertion fails. -/
def sqlite3RowSetInsert (p : RowSet) (rowid : ℤ) (w : κ) : Option (RowSet × κ) :=
  if p.next then none
  else match rowSetEntryAlloc L p w with
    | (false, p, w) => some (p, w)
    | (true, p, w) =>
      match p.pLast with
      | some v => some ({ p with
          sorted := p.sorted && !decide (rowid ≤ v), pEntry := p.pEntry ++ [rowid]
          pLast := some rowid }, w)
      | none => some ({ p with pEntry := [rowid], pLast := some rowid }, w)

/-- `rowSetEntrySort`, or `none` where the buckets are not enough. `SortedMerge.merge` is
`rowSetEntryMerge`. -/
def rowSetEntrySort (pIn : List ℤ) : Option (List ℤ) := SortedMerge.sort 40 pIn

/-- `rowSetTreeToList`. -/
def rowSetTreeToList (pIn : SearchTree ℤ) : List ℤ := pIn.toList

/-- `rowSetListToTree`. `SearchTree.ofDepth k` is `rowSetNDeepTree` with the depth `k + 1`. -/
def rowSetListToTree (pList : List ℤ) : SearchTree ℤ := SearchTree.ofList pList

/-- The list of entries in order. -/
def RowSet.sortedEntries (p : RowSet) : Option (List ℤ) :=
  if p.sorted then some p.pEntry else rowSetEntrySort p.pEntry

/-- `rowSetToList`, or `none` where an assertion fails. -/
def rowSetToList (p : RowSet) : Option RowSet :=
  if p.next ∨ p.pForest ≠ [] then none
  else p.sortedEntries.map fun pEntry => { p with pEntry := pEntry, next := true }

/-- The part of `sqlite3RowSetNext` that takes an entry from the list. -/
def rowSetTake (p : RowSet) : Option ℤ × RowSet :=
  match p.pEntry with
  | [] => (none, p)
  | [v] => (some v, sqlite3RowSetClear { p with pEntry := [] })
  | v :: pEntry => (some v, { p with pEntry := pEntry })

/-- `sqlite3RowSetNext`: the rowid, if there is one. -/
def sqlite3RowSetNext (p : RowSet) : Option (Option ℤ × RowSet) :=
  (if p.next then some p else rowSetToList p).map rowSetTake

/-- The part of `sqlite3RowSetTest` that puts the list into the forest. -/
def rowSetPlant (p : RowSet) (w : κ) : Option (RowSet × κ) :=
  p.sortedEntries.map fun pEntry =>
    let (p, w) := match SearchTree.plant p.pForest pEntry with
      | (pForest, []) => ({ p with pForest := pForest }, w)
      | (pForest, pEntry) =>
        match rowSetEntryAlloc L { p with pForest := pForest } w with
        | (false, p, w) => (p, w)
        | (true, p, w) => ({ p with pForest := p.pForest ++ [rowSetListToTree pEntry] }, w)
    ({ p with pEntry := [], pLast := none, sorted := true }, w)

/-- The part of `sqlite3RowSetTest` that comes with a new batch number. -/
def rowSetSwitch (p : RowSet) (iBatch : ℤ) (w : κ) : Option (RowSet × κ) :=
  (if p.pEntry = [] then some (p, w) else rowSetPlant L p w).map fun (p, w) =>
    ({ p with iBatch := iBatch }, w)

/-- `sqlite3RowSetTest`, or `none` where its assertion fails. -/
def sqlite3RowSetTest (pRowSet : RowSet) (iBatch iRowid : ℤ) (w : κ) :
    Option (Bool × RowSet × κ) :=
  if pRowSet.next then none
  else (if iBatch = pRowSet.iBatch then some (pRowSet, w) else rowSetSwitch L pRowSet iBatch w).map
    fun (p, w) => (p.pForest.any (SearchTree.find iRowid), p, w)

end code

/-! ## What a `RowSet` stands for -/

/-- A set of rowids in batches. -/
@[ext]
structure RowIds where
  /-- The rowids that a test sees. -/
  tested : Finset ℤ
  /-- The rowids that came since the batch changed. -/
  fresh : Finset ℤ
  /-- The current batch. -/
  iBatch : ℤ

namespace RowIds

/-- No rowids. -/
def empty : RowIds := ⟨∅, ∅, 0⟩

/-- A rowid is inserted. -/
def insert (ids : RowIds) (x : ℤ) : RowIds := { ids with fresh := Insert.insert x ids.fresh }

/-- A test has the batch number `b`. -/
def switch (ids : RowIds) (b : ℤ) : RowIds :=
  if b = ids.iBatch then ids else ⟨ids.tested ∪ ids.fresh, ∅, b⟩

end RowIds

namespace RowSet

/-- What the routines take out of a `RowSet`, or find in it. -/
def content (p : RowSet) : RowIds :=
  ⟨(p.pForest.flatMap rowSetTreeToList).toFinset, p.pEntry.toFinset, p.iBatch⟩

/-- What holds of a `RowSet` between calls. -/
structure WellFormed (p : RowSet) : Prop where
  /-- The trees are search trees. -/
  grown : SearchTree.Grown p.pForest
  /-- The last entry is known while entries are inserted. -/
  last : p.next = false → p.pLast = p.pEntry.getLast?
  /-- The list is sorted if it says so. -/
  pairwise : p.sorted = true ∨ p.next = true → p.pEntry.Pairwise (· < ·)
  /-- There are no trees once entries are taken out. -/
  forest : p.next = true → p.pForest = []
  /-- A tree was made of some entries. -/
  planted : p.content.tested = ∅ → p.pForest = []

end RowSet

section spec

variable {κ : Type} {L : CLib κ} {mallocFailed : κ → Bool} {p p' : RowSet} {w w' : κ}

/-- The rowids that were tested against are in the forest. -/
theorem mem_tested (p : RowSet) (x : ℤ) :
    x ∈ p.content.tested ↔ ∃ tree ∈ p.pForest, x ∈ tree.toList := by
  unfold RowSet.content rowSetTreeToList
  rw [List.mem_toFinset, List.mem_flatMap]

/-- The others are in the list. -/
theorem mem_fresh (p : RowSet) (x : ℤ) : x ∈ p.content.fresh ↔ x ∈ p.pEntry := List.mem_toFinset

/-- A `RowSet` that nothing was inserted into. -/
theorem sqlite3RowSetInit_spec {N : ℕ} (h : sizeof_RowSet ≤ N) :
    ∃ p, sqlite3RowSetInit N = some p ∧ p.WellFormed ∧ p.content = .empty ∧ p.next = false ∧
      p.pEntry = [] := by
  exact ⟨_, if_neg (by omega), ⟨.nil, fun _ => rfl, fun _ => .nil, fun _ => rfl, fun _ => rfl⟩, rfl,
    rfl, rfl⟩

/-- There is always an entry, and nothing else changes. -/
theorem rowSetEntryAlloc_spec (hL : L.Lawful mallocFailed) (p : RowSet) (w : κ) :
    ∃ pChunk nFresh w', rowSetEntryAlloc L p w =
        (true, { p with pChunk := pChunk, nFresh := nFresh }, w') ∧
      mallocFailed w' = mallocFailed w := by
  unfold rowSetEntryAlloc
  split_ifs
  · obtain ⟨block, w', hmalloc, -, hfailed⟩ := hL.malloc sizeof_RowSetChunk w
    rw [hmalloc]
    exact ⟨_, _, w', rfl, hfailed⟩
  · exact ⟨_, _, w, rfl, rfl⟩

/-- `sqlite3RowSetInsert` inserts. -/
theorem sqlite3RowSetInsert_spec (hL : L.Lawful mallocFailed) (h : p.WellFormed)
    (hnext : p.next = false) (rowid : ℤ) (w : κ) :
    ∃ p' w', sqlite3RowSetInsert L p rowid w = some (p', w') ∧ p'.WellFormed ∧
      p'.content = p.content.insert rowid ∧ p'.next = false ∧
      p'.pEntry.length = p.pEntry.length + 1 ∧ mallocFailed w' = mallocFailed w := by
  obtain ⟨pChunk, nFresh, w', halloc, hfailed⟩ := rowSetEntryAlloc_spec hL p w
  have hlast := h.last hnext
  unfold sqlite3RowSetInsert
  rw [if_neg (by rw [hnext]; decide), halloc]
  dsimp only
  cases hcase : p.pLast with
  | none =>
    have hnil : p.pEntry = [] := List.getLast?_eq_none_iff.mp (hlast.symm.trans hcase)
    refine ⟨_, w', rfl, ⟨h.grown, fun _ => rfl, fun _ => List.pairwise_singleton _ _, h.forest,
      h.planted⟩, ?_, hnext, by rw [hnil]; rfl, hfailed⟩
    unfold RowSet.content RowIds.insert
    rw [hnil]
    rfl
  | some v =>
    refine ⟨_, w', rfl, ⟨h.grown, fun _ => List.getLast?_concat.symm, ?_, h.forest,
      h.planted⟩, ?_, hnext, List.length_append, hfailed⟩
    · rintro (hs | hs)
      · -- The list was sorted, and the new rowid is greater than the last one.
        obtain ⟨hsorted, hlt⟩ := Bool.and_eq_true_iff.mp hs
        have hlt : v < rowid := by simpa using hlt
        have hpair := h.pairwise (Or.inl hsorted)
        obtain ⟨ys, hys⟩ := List.getLast?_eq_some_iff.mp (hlast.symm.trans hcase)
        apply List.pairwise_append.mpr
        refine ⟨hpair, List.pairwise_singleton _ _, fun y hy z hz => ?_⟩
        obtain rfl := List.mem_singleton.mp hz
        rw [hys] at hpair hy
        rcases List.mem_append.mp hy with hy | hy
        · exact ((List.pairwise_append.mp hpair).2.2 y hy v (List.mem_singleton_self v)).trans hlt
        · obtain rfl := List.mem_singleton.mp hy
          exact hlt
      · rw [hnext] at hs
        cases hs
    · unfold RowSet.content RowIds.insert
      ext x
      · rfl
      · simp only [List.toFinset_append, Finset.mem_union, List.mem_toFinset, List.mem_singleton,
          Finset.mem_insert]
        exact or_comm
      · rfl

/-- The entries in order. -/
theorem sortedEntries_spec (h : p.WellFormed) (hlen : p.pEntry.length < 2^40) :
    ∃ ys, p.sortedEntries = some ys ∧ ys.Pairwise (· < ·) ∧ ∀ x, x ∈ ys ↔ x ∈ p.pEntry := by
  unfold RowSet.sortedEntries
  cases hs : p.sorted
  · exact SortedMerge.sort_spec hlen
  · exact ⟨p.pEntry, rfl, h.pairwise (Or.inl hs), fun _ => Iff.rfl⟩

/-- `rowSetPlant` makes all entries visible to tests. -/
theorem rowSetPlant_spec (hL : L.Lawful mallocFailed) (h : p.WellFormed) (hnext : p.next = false)
    (hne : p.pEntry ≠ []) (hlen : p.pEntry.length < 2^40) (w : κ) :
    ∃ p' w', rowSetPlant L p w = some (p', w') ∧ p'.WellFormed ∧ p'.next = false ∧
      p'.content = ⟨p.content.tested ∪ p.content.fresh, ∅, p.iBatch⟩ ∧ p'.pEntry = [] ∧
      mallocFailed w' = mallocFailed w := by
  obtain ⟨ys, hys, hpair, hmem⟩ := sortedEntries_spec h hlen
  obtain ⟨hgrown, hleft, hplanted⟩ := SearchTree.plant_spec h.grown hpair
  unfold rowSetPlant
  rw [hys, Option.map_some]
  rcases hplant : SearchTree.plant p.pForest ys with ⟨pForest, left⟩
  rw [hplant] at hgrown hleft hplanted
  dsimp only at hgrown hleft hplanted ⊢
  -- What counts is the rowids of the trees, whether a tree was added or not.
  have hnew : ∀ pForest' pChunk nFresh, SearchTree.Grown pForest' →
      (∀ x, (∃ tree ∈ pForest', x ∈ tree.toList) ↔ x ∈ ys ∨ ∃ tree ∈ p.pForest, x ∈ tree.toList) →
      ∃ q : RowSet, q = { p with
          pChunk := pChunk, nFresh := nFresh, pForest := pForest', pEntry := [], pLast := none
          sorted := true } ∧ q.WellFormed ∧
        q.content = ⟨p.content.tested ∪ p.content.fresh, ∅, p.iBatch⟩ := by
    intro pForest' pChunk nFresh hgrown' hforest
    refine ⟨_, rfl, ⟨hgrown', fun _ => rfl, fun _ => .nil, fun hn => ?_, fun hn => ?_⟩,
      RowIds.ext ?_ rfl rfl⟩
    · rw [hnext] at hn
      cases hn
    · obtain ⟨x, hx⟩ := List.exists_mem_of_ne_nil _ hne
      have htree := (hforest x).mpr (Or.inl ((hmem x).mpr hx))
      exact absurd ((Finset.ext_iff.mp hn x).mp ((mem_tested _ x).mpr htree)) (Finset.notMem_empty x)
    · ext x
      rw [mem_tested, hforest, hmem, Finset.mem_union, mem_tested, mem_fresh, or_comm]
  cases left with
  | nil =>
    obtain ⟨q, hq, hwf, hcontent⟩ := hnew pForest p.pChunk p.nFresh hgrown fun x => by
      rw [← hplanted]
      simp
    exact ⟨q, w, by rw [hq], hwf, by rw [hq]; exact hnext, hcontent, by rw [hq], rfl⟩
  | cons y left =>
    obtain ⟨pChunk, nFresh, w', halloc, hfailed⟩ :=
      rowSetEntryAlloc_spec hL { p with pForest := pForest } w
    obtain ⟨q, hq, hwf, hcontent⟩ := hnew (pForest ++ [rowSetListToTree (y :: left)]) pChunk nFresh
      (hgrown.append (.singleton hleft)) fun x => by
        rw [← hplanted]
        unfold rowSetListToTree
        simp only [List.mem_append, List.mem_singleton, or_and_right, exists_or, exists_eq_left,
          SearchTree.toList_ofList]
    dsimp only
    rw [halloc]
    exact ⟨q, w', by rw [hq], hwf, by rw [hq]; exact hnext, hcontent, by rw [hq], hfailed⟩

/-- With a new batch number, all rowids are visible to tests. -/
theorem rowSetSwitch_spec (hL : L.Lawful mallocFailed) (h : p.WellFormed) (hnext : p.next = false)
    (hlen : p.pEntry.length < 2^40) (iBatch : ℤ) (w : κ) :
    ∃ p' w', rowSetSwitch L p iBatch w = some (p', w') ∧ p'.WellFormed ∧ p'.next = false ∧
      p'.content = ⟨p.content.tested ∪ p.content.fresh, ∅, iBatch⟩ ∧ p'.pEntry = [] ∧
      mallocFailed w' = mallocFailed w := by
  unfold rowSetSwitch
  by_cases hnil : p.pEntry = []
  · rw [if_pos hnil]
    refine ⟨_, w, rfl, ⟨h.grown, h.last, h.pairwise, h.forest, h.planted⟩, hnext, ?_, hnil, rfl⟩
    have hfresh : p.content.fresh = ∅ := by
      unfold RowSet.content
      rw [hnil]
      rfl
    rw [hfresh, Finset.union_empty]
    unfold RowSet.content
    rw [hnil]
    rfl
  · rw [if_neg hnil]
    obtain ⟨q, w', hplant, hq, hqn, hcontent, hqe, hfailed⟩ :=
      rowSetPlant_spec hL h hnext hnil hlen w
    rw [hplant]
    refine ⟨_, w', rfl, ⟨hq.grown, hq.last, hq.pairwise, hq.forest, hq.planted⟩, hqn, ?_, hqe, hfailed⟩
    have htested : q.content.tested = p.content.tested ∪ p.content.fresh := by rw [hcontent]
    have hfresh : q.content.fresh = ∅ := by rw [hcontent]
    exact RowIds.ext htested hfresh rfl

/-- `sqlite3RowSetTest` finds the rowids of the batches before. -/
theorem sqlite3RowSetTest_spec (hL : L.Lawful mallocFailed) (h : p.WellFormed)
    (hnext : p.next = false) (hlen : p.pEntry.length < 2^40) (iBatch iRowid : ℤ) (w : κ) :
    ∃ p' w', sqlite3RowSetTest L p iBatch iRowid w =
        some (decide (iRowid ∈ (p.content.switch iBatch).tested), p', w') ∧ p'.WellFormed ∧
      p'.content = p.content.switch iBatch ∧ p'.next = false ∧
      p'.pEntry.length ≤ p.pEntry.length ∧ mallocFailed w' = mallocFailed w := by
  obtain ⟨q, w', hswitch, hq, hqn, hcontent, hle, hfailed⟩ : ∃ q w',
      (if iBatch = p.iBatch then some (p, w) else rowSetSwitch L p iBatch w) = some (q, w') ∧
        q.WellFormed ∧ q.next = false ∧ q.content = p.content.switch iBatch ∧
        q.pEntry.length ≤ p.pEntry.length ∧ mallocFailed w' = mallocFailed w := by
    unfold RowIds.switch
    by_cases hb : iBatch = p.iBatch
    · have hb' : iBatch = p.content.iBatch := hb
      rw [if_pos hb, if_pos hb']
      exact ⟨p, w, rfl, h, hnext, rfl, le_refl _, rfl⟩
    · have hb' : ¬ iBatch = p.content.iBatch := hb
      rw [if_neg hb, if_neg hb']
      obtain ⟨q, w', hswitch, hq, hqn, hcontent, hqe, hfailed⟩ :=
        rowSetSwitch_spec hL h hnext hlen iBatch w
      exact ⟨q, w', hswitch, hq, hqn, hcontent, by rw [hqe]; exact Nat.zero_le _, hfailed⟩
  have hfind : q.pForest.any (SearchTree.find iRowid) =
      decide (iRowid ∈ (p.content.switch iBatch).tested) := by
    rw [← hcontent, Bool.eq_iff_iff, hq.grown.any_find_iff, decide_eq_true_iff, mem_tested]
  unfold sqlite3RowSetTest
  rw [if_neg (by rw [hnext]; decide), hswitch, Option.map_some]
  dsimp only
  rw [hfind]
  exact ⟨q, w', rfl, hq, hcontent, hqn, hle, hfailed⟩

/-- The first entry of a sorted list is taken. -/
theorem rowSetTake_spec (h : p.WellFormed) (hnext : p.next = true) :
    (rowSetTake p).2.WellFormed ∧ (rowSetTake p).2.pForest = [] ∧
      (rowSetTake p).2.pEntry.length ≤ p.pEntry.length ∧
      match (rowSetTake p).1 with
      | none => p.content.fresh = ∅
      | some v => IsLeast {x | x ∈ p.content.fresh} v ∧
          (rowSetTake p).2.content = { p.content with fresh := p.content.fresh.erase v } := by
  have hpair := h.pairwise (Or.inr hnext)
  have hforest := h.forest hnext
  unfold rowSetTake
  rcases hcase : p.pEntry with _ | ⟨v, pEntry⟩
  · refine ⟨h, hforest, by rw [hcase], ?_⟩
    unfold RowSet.content
    rw [hcase]
    rfl
  rw [hcase] at hpair
  obtain ⟨hlt, htail⟩ := List.pairwise_cons.mp hpair
  have hleast : IsLeast {x | x ∈ p.content.fresh} v := by
    refine ⟨(mem_fresh p v).mpr (hcase ▸ List.mem_cons_self), fun x hx => ?_⟩
    rcases List.mem_cons.mp (hcase ▸ (mem_fresh p x).mp hx) with rfl | hx
    · exact le_refl x
    · exact (hlt x hx).le
  have herase : p.content.fresh.erase v = pEntry.toFinset := by
    ext x
    rw [Finset.mem_erase, mem_fresh, hcase, List.mem_cons, List.mem_toFinset]
    constructor
    · rintro ⟨hne, rfl | hx⟩
      · exact absurd rfl hne
      · exact hx
    · exact fun hx => ⟨(hlt x hx).ne', Or.inr hx⟩
  have htested : p.content.tested = ∅ := by
    unfold RowSet.content
    rw [hforest]
    rfl
  cases pEntry with
  | nil =>
    -- After the last entry the `RowSet` is cleared.
    refine ⟨⟨.nil, fun _ => rfl, fun _ => .nil, fun _ => rfl, fun _ => rfl⟩, rfl, Nat.zero_le _,
      hleast, ?_⟩
    rw [herase]
    exact RowIds.ext htested.symm rfl rfl
  | cons u pEntry =>
    refine ⟨⟨h.grown, fun hn => ?_, fun _ => htail, h.forest, h.planted⟩, hforest, Nat.le_succ _,
      hleast, ?_⟩
    · rw [hnext] at hn
      cases hn
    · rw [herase]
      rfl

/-- `sqlite3RowSetNext` takes out the least rowid. -/
theorem sqlite3RowSetNext_spec (h : p.WellFormed) (hlen : p.pEntry.length < 2^40)
    (hforest : p.pForest = []) :
    ∃ v p', sqlite3RowSetNext p = some (v, p') ∧ p'.WellFormed ∧ p'.pForest = [] ∧
      p'.pEntry.length ≤ p.pEntry.length ∧
      match v with
      | none => p.content.fresh = ∅
      | some v => IsLeast {x | x ∈ p.content.fresh} v ∧
          p'.content = { p.content with fresh := p.content.fresh.erase v } := by
  obtain ⟨q, hq, hwf, hqn, hcontent, hle⟩ : ∃ q,
      (if p.next then some p else rowSetToList p) = some q ∧ q.WellFormed ∧ q.next = true ∧
        q.content = p.content ∧ q.pEntry.length ≤ p.pEntry.length := by
    cases hnext : p.next
    · obtain ⟨ys, hys, hpair, hmem⟩ := sortedEntries_spec h hlen
      refine ⟨{ p with pEntry := ys, next := true }, ?_, ?_, rfl, ?_, ?_⟩
      · unfold rowSetToList
        rw [hnext, hforest, hys]
        rfl
      · exact ⟨h.grown, nofun, fun _ => hpair, fun _ => hforest, fun _ => hforest⟩
      · refine RowIds.ext rfl ?_ rfl
        ext x
        rw [mem_fresh, mem_fresh, hmem]
      · -- Sorting only drops duplicates.
        apply (List.subperm_of_subset _ fun x hx => (hmem x).mp hx).length_le
        exact hpair.imp fun hlt => hlt.ne
    · exact ⟨p, rfl, h, hnext, rfl, le_refl _⟩
  obtain ⟨hwf', hforest', hle', hv⟩ := rowSetTake_spec hwf hqn
  unfold sqlite3RowSetNext
  rw [hq]
  refine ⟨_, _, rfl, hwf', hforest', hle'.trans hle, ?_⟩
  rw [← hcontent]
  exact hv

end spec

end SQPyte
