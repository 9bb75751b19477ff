import Mathlib.Data.Finset.Max
import Mathlib.Order.Bounds.Basic

/-!
# Searching a finite ordered set by its neighbours

A search for `k` in a finite set comes to rest on `k` itself, or else on one of the two elements
next to it, and tells by a sign which one (`Rests`). At most one step then leads to the least element
above `k`, or to the greatest one below. A position is `none` beyond the ends of the set. `search`,
`above` and `below` compute all of this (`rests_search`).

A set that changes is traversed by steps upwards from its least element, each in the set as it is
then. The elements visited increase, and those that are there all the time are all visited
(`Visits`).
-/

namespace Neighbours

variable {α : Type*} [LinearOrder α] {rows : Finset α} {k x y : α} {pos pos' : Option α} {res : ℤ}

/-- Where a search for `k` comes to rest, and the sign of that element relative to `k`. -/
inductive Rests (rows : Finset α) (k : α) : Option α → ℤ → Prop
  /-- There is no element, which counts as one below. -/
  | empty (res : ℤ) (h : rows = ∅) (hres : res < 0) : Rests rows k none res
  /-- On `k` itself. -/
  | here (h : k ∈ rows) : Rests rows k (some k) 0
  /-- On the greatest element below. -/
  | below (x : α) (res : ℤ) (h : k ∉ rows) (hx : IsGreatest {z | z ∈ rows ∧ z < k} x)
      (hres : res < 0) : Rests rows k (some x) res
  /-- On the least element above. -/
  | above (x : α) (res : ℤ) (h : k ∉ rows) (hx : IsLeast {z | z ∈ rows ∧ k < z} x)
      (hres : 0 < res) : Rests rows k (some x) res

/-- One step upwards. -/
def StepsUp (rows : Finset α) : Option α → Option α → Prop
  | none, pos' => pos' = none
  | some x, pos' => ∀ y, pos' = some y ↔ IsLeast {z | z ∈ rows ∧ x < z} y

/-- One step downwards. -/
def StepsDown (rows : Finset α) : Option α → Option α → Prop
  | none, pos' => pos' = none
  | some x, pos' => ∀ y, pos' = some y ↔ IsGreatest {z | z ∈ rows ∧ z < x} y

/-- An empty set has no least element. -/
theorem not_isLeast_of_empty {P : α → Prop} (h : rows = ∅) :
    none = some y ↔ IsLeast {z | z ∈ rows ∧ P z} y := by
  subst h
  refine ⟨fun h => (nomatch h), fun h => ?_⟩
  exact absurd h.1.1 (Finset.notMem_empty y)

/-- Nor has it a greatest one. -/
theorem not_isGreatest_of_empty {P : α → Prop} (h : rows = ∅) :
    none = some y ↔ IsGreatest {z | z ∈ rows ∧ P z} y := by
  subst h
  refine ⟨fun h => (nomatch h), fun h => ?_⟩
  exact absurd h.1.1 (Finset.notMem_empty y)

/-- There is one least element. -/
theorem some_iff_isLeast {s : Set α} (hx : IsLeast s x) : some x = some y ↔ IsLeast s y := by
  rw [Option.some.injEq]
  exact ⟨fun h => h ▸ hx, hx.unique⟩

/-- There is one greatest element. -/
theorem some_iff_isGreatest {s : Set α} (hx : IsGreatest s x) :
    some x = some y ↔ IsGreatest s y := by
  rw [Option.some.injEq]
  exact ⟨fun h => h ▸ hx, hx.unique⟩

omit [LinearOrder α] in
/-- Conditions that agree on the elements. -/
theorem setOf_congr {P Q : α → Prop} (h : ∀ z ∈ rows, P z ↔ Q z) :
    {z | z ∈ rows ∧ P z} = {z | z ∈ rows ∧ Q z} := by
  ext z
  exact and_congr_right fun hz => h z hz

/-- Unless the sign says below, the search rests on an element. -/
theorem Rests.ne_none (h : Rests rows k pos res) (hres : 0 ≤ res) : pos ≠ none := by
  cases h with
  | empty _ _ hneg => omega
  | _ => exact Option.some_ne_none _

/-- A search that says it has found `k` rests on it. -/
theorem Rests.of_zero (h : Rests rows k pos 0) : k ∈ rows ∧ pos = some k := by
  cases h with
  | empty _ _ hneg => omega
  | here hk => exact ⟨hk, rfl⟩
  | below _ _ _ _ hneg => omega
  | above _ _ _ _ hpos => omega

/-! ## The four searches -/

/-- The least element from `k` on. -/
theorem Rests.ge (h : Rests rows k pos res) (hup : StepsUp rows pos pos') :
    (if res < 0 then pos' else pos) = some y ↔ IsLeast {z | z ∈ rows ∧ k ≤ z} y := by
  cases h with
  | empty _ hrows _ =>
    rw [show pos' = none from hup, ite_self]
    exact not_isLeast_of_empty hrows
  | here hk =>
    rw [if_neg (by decide)]
    exact some_iff_isLeast ⟨⟨hk, le_rfl⟩, fun z hz => hz.2⟩
  | below x _ hk hx hres =>
    have hset : {z | z ∈ rows ∧ k ≤ z} = {z | z ∈ rows ∧ x < z} :=
      setOf_congr fun z hz =>
        ⟨hx.1.2.trans_le, fun hlt => not_lt.mp fun hzk => hlt.not_ge (hx.2 ⟨hz, hzk⟩)⟩
    rw [if_pos hres, hset]
    exact hup y
  | above x _ hk hx hres =>
    have hset : {z | z ∈ rows ∧ k ≤ z} = {z | z ∈ rows ∧ k < z} :=
      setOf_congr fun z hz => ⟨fun hle => hle.lt_of_ne fun heq => hk (heq ▸ hz), le_of_lt⟩
    rw [if_neg (by omega), hset]
    exact some_iff_isLeast hx

/-- The least element above `k`. -/
theorem Rests.gt (h : Rests rows k pos res) (hup : StepsUp rows pos pos') :
    (if res < 0 ∨ res = 0 then pos' else pos) = some y ↔ IsLeast {z | z ∈ rows ∧ k < z} y := by
  cases h with
  | empty _ hrows _ =>
    rw [show pos' = none from hup, ite_self]
    exact not_isLeast_of_empty hrows
  | here hk =>
    rw [if_pos (Or.inr rfl)]
    exact hup y
  | below x _ hk hx hres =>
    have hset : {z | z ∈ rows ∧ k < z} = {z | z ∈ rows ∧ x < z} :=
      setOf_congr fun z hz => ⟨hx.1.2.trans, fun hlt => lt_of_not_ge fun hzk =>
        hlt.not_ge (hx.2 ⟨hz, hzk.lt_of_ne fun heq => hk (heq ▸ hz)⟩)⟩
    rw [if_pos (Or.inl hres), hset]
    exact hup y
  | above x _ hk hx hres =>
    rw [if_neg (by omega)]
    exact some_iff_isLeast hx

/-- The greatest element up to `k`. -/
theorem Rests.le (h : Rests rows k pos res) (hdown : StepsDown rows pos pos') :
    (if 0 < res then pos' else pos) = some y ↔ IsGreatest {z | z ∈ rows ∧ z ≤ k} y := by
  cases h with
  | empty _ hrows _ =>
    rw [show pos' = none from hdown, ite_self]
    exact not_isGreatest_of_empty hrows
  | here hk =>
    rw [if_neg (by decide)]
    exact some_iff_isGreatest ⟨⟨hk, le_rfl⟩, fun z hz => hz.2⟩
  | below x _ hk hx hres =>
    have hset : {z | z ∈ rows ∧ z ≤ k} = {z | z ∈ rows ∧ z < k} :=
      setOf_congr fun z hz => ⟨fun hle => hle.lt_of_ne fun heq => hk (heq ▸ hz), le_of_lt⟩
    rw [if_neg (by omega), hset]
    exact some_iff_isGreatest hx
  | above x _ hk hx hres =>
    have hset : {z | z ∈ rows ∧ z ≤ k} = {z | z ∈ rows ∧ z < x} :=
      setOf_congr fun z hz =>
        ⟨fun hle => hle.trans_lt hx.1.2, fun hlt => not_lt.mp fun hkz => hlt.not_ge (hx.2 ⟨hz, hkz⟩)⟩
    rw [if_pos hres, hset]
    exact hdown y

/-- The greatest element below `k`. -/
theorem Rests.lt (h : Rests rows k pos res) (hdown : StepsDown rows pos pos') :
    (if 0 < res ∨ res = 0 then pos' else pos) = some y ↔ IsGreatest {z | z ∈ rows ∧ z < k} y := by
  cases h with
  | empty _ hrows _ =>
    rw [show pos' = none from hdown, ite_self]
    exact not_isGreatest_of_empty hrows
  | here hk =>
    rw [if_pos (Or.inr rfl)]
    exact hdown y
  | below x _ hk hx hres =>
    rw [if_neg (by omega)]
    exact some_iff_isGreatest hx
  | above x _ hk hx hres =>
    have hset : {z | z ∈ rows ∧ z < k} = {z | z ∈ rows ∧ z < x} :=
      setOf_congr fun z hz => ⟨fun hlt => hlt.trans hx.1.2, fun hlt => lt_of_not_ge fun hkz =>
        hlt.not_ge (hx.2 ⟨hz, hkz.lt_of_ne fun heq => hk (heq ▸ hz)⟩)⟩
    rw [if_pos (Or.inl hres), hset]
    exact hdown y

/-! ## Neighbours computed -/

/-- The least element, if there is one. -/
def least (rows : Finset α) : Option α := if h : rows.Nonempty then some (rows.min' h) else none

/-- The greatest element, if there is one. -/
def greatest (rows : Finset α) : Option α := if h : rows.Nonempty then some (rows.max' h) else none

/-- The step upwards from a position. -/
def above (rows : Finset α) (pos : Option α) : Option α :=
  pos.bind fun x => least (rows.filter (x < ·))

/-- The step downwards from a position. -/
def below (rows : Finset α) (pos : Option α) : Option α :=
  pos.bind fun x => greatest (rows.filter (· < x))

/-- Where a search for `k` comes to rest, above `k` if it can, and the sign. -/
def search (rows : Finset α) (k : α) : Option α × ℤ :=
  if k ∈ rows then (some k, 0)
  else match above rows (some k) with
    | some x => (some x, 1)
    | none => (below rows (some k), -1)

/-- The least element, where there is one. -/
theorem least_eq_some : least rows = some y ↔ IsLeast {z | z ∈ rows} y := by
  unfold least
  split_ifs with h
  · exact some_iff_isLeast (rows.isLeast_min' h)
  · exact ⟨fun hy => (nomatch hy), fun hy => absurd ⟨y, hy.1⟩ h⟩

/-- The greatest element, where there is one. -/
theorem greatest_eq_some : greatest rows = some y ↔ IsGreatest {z | z ∈ rows} y := by
  unfold greatest
  split_ifs with h
  · exact some_iff_isGreatest (rows.isGreatest_max' h)
  · exact ⟨fun hy => (nomatch hy), fun hy => absurd ⟨y, hy.1⟩ h⟩

/-- A step upwards is one to the least element above. -/
theorem stepsUp_above (rows : Finset α) (pos : Option α) : StepsUp rows pos (above rows pos) := by
  cases pos with
  | none => rfl
  | some x =>
    intro y
    unfold above
    rw [Option.bind_some, least_eq_some]
    simp only [Finset.mem_filter]

/-- A step downwards is one to the greatest element below. -/
theorem stepsDown_below (rows : Finset α) (pos : Option α) :
    StepsDown rows pos (below rows pos) := by
  cases pos with
  | none => rfl
  | some x =>
    intro y
    unfold below
    rw [Option.bind_some, greatest_eq_some]
    simp only [Finset.mem_filter]

/-- A step downwards that finds nothing has nothing below it. -/
theorem StepsDown.not_lt (h : StepsDown rows (some k) none) {z : α} (hz : z ∈ rows) : ¬ z < k := by
  intro hlt
  have hne : (rows.filter (· < k)).Nonempty := ⟨z, Finset.mem_filter.mpr ⟨hz, hlt⟩⟩
  have hgreatest := Finset.isGreatest_max' _ hne
  rw [Finset.coe_filter] at hgreatest
  exact nomatch (h _).mpr hgreatest

/-- A set that has no least element is empty. -/
theorem eq_empty_of_none {P : α → Prop} (h : ∀ y, none = some y ↔ IsLeast {z | z ∈ rows ∧ P z} y) :
    ∀ z ∈ rows, ¬ P z := by
  classical
  intro z hz hP
  have hne : (rows.filter P).Nonempty := ⟨z, Finset.mem_filter.mpr ⟨hz, hP⟩⟩
  have hleast := Finset.isLeast_min' _ hne
  have hset : (↑(rows.filter P) : Set α) = {z | z ∈ rows ∧ P z} := by
    ext y
    simp
  rw [hset] at hleast
  exact nomatch (h _).mpr hleast

/-- A step upwards that finds nothing has nothing above it. -/
theorem StepsUp.not_lt (h : StepsUp rows (some k) none) {z : α} (hz : z ∈ rows) : ¬ k < z :=
  eq_empty_of_none h z hz

/-- A search comes to rest on a neighbour. -/
theorem rests_search (rows : Finset α) (k : α) :
    Rests rows k (search rows k).1 (search rows k).2 := by
  unfold search
  split_ifs with hk
  · exact .here hk
  have hup := stepsUp_above rows (some k)
  cases habove : above rows (some k) with
  | some x =>
    rw [habove] at hup
    exact .above x 1 hk ((hup x).mp rfl) one_pos
  | none =>
    rw [habove] at hup
    have hdown := stepsDown_below rows (some k)
    dsimp only
    cases hbelow : below rows (some k) with
    | some x =>
      rw [hbelow] at hdown
      exact .below x (-1) hk ((hdown x).mp rfl) (by decide)
    | none =>
      -- No element is above, none below, and `k` is not there.
      rw [hbelow] at hdown
      refine .empty (-1) (Finset.eq_empty_of_forall_notMem fun z hz => ?_) (by decide)
      rcases lt_trichotomy z k with hlt | rfl | hlt
      · exact hdown.not_lt hz hlt
      · exact hk hz
      · exact hup.not_lt hz hlt

/-! ## Traversals -/

/-- A traversal that has visited `visited` and is at `pos`, or where that was, has missed nothing of
`lasting`: what is not visited is ahead. -/
structure Visits (lasting : Set α) (visited : List α) (pos : Option α) : Prop where
  /-- Elements are visited in increasing order. -/
  increasing : visited.Pairwise (· < ·)
  /-- No element ahead is visited. -/
  le : ∀ x, pos = some x → ∀ y ∈ visited, y ≤ x
  /-- All elements behind are visited. -/
  covers : ∀ k ∈ lasting, (∀ x, pos = some x → k ≤ x) → k ∈ visited

/-- The traversal starts at the least element. -/
theorem Visits.first {lasting : Set α} (hfirst : ∀ y, pos = some y ↔ IsLeast {z | z ∈ rows} y)
    (hlasting : ∀ k ∈ lasting, k ∈ rows) : Visits lasting pos.toList pos := by
  cases pos with
  | none =>
    refine ⟨List.Pairwise.nil, fun _ h => (nomatch h), fun k hk _ => ?_⟩
    have hleast : ∀ y, none = some y ↔ IsLeast {z | z ∈ rows ∧ True} y := by simpa using hfirst
    exact absurd trivial (eq_empty_of_none hleast k (hlasting k hk))
  | some y =>
    refine ⟨List.pairwise_singleton _ y, fun x hx z hz => ?_, fun k hk hle => ?_⟩
    · rw [Option.some.inj hx] at hz
      exact (List.mem_singleton.mp hz).le
    · have hy := ((hfirst y).mp rfl).2 (hlasting k hk)
      exact List.mem_singleton.mpr (le_antisymm (hle y rfl) hy)

/-- A step of the traversal. -/
theorem Visits.step {lasting : Set α} {visited : List α} (h : Visits lasting visited pos)
    (hup : StepsUp rows pos pos') (hlasting : ∀ k ∈ lasting, k ∈ rows) :
    Visits lasting (visited ++ pos'.toList) pos' := by
  cases pos with
  | none =>
    obtain rfl : pos' = none := hup
    simpa using h
  | some x =>
    have hup : ∀ y, pos' = some y ↔ IsLeast {z | z ∈ rows ∧ x < z} y := hup
    cases pos' with
    | none =>
      rw [Option.toList_none, List.append_nil]
      refine ⟨h.increasing, fun _ h => (nomatch h), fun k hk _ => h.covers k hk fun z hz => ?_⟩
      obtain rfl := Option.some.inj hz
      exact not_lt.mp (StepsUp.not_lt hup (hlasting k hk))
    | some y =>
      have hy := (hup y).mp rfl
      refine ⟨?_, fun z hz v hv => ?_, fun k hk hle => ?_⟩
      · refine List.pairwise_append.mpr ⟨h.increasing, List.pairwise_singleton _ y, ?_⟩
        intro v hv z hz
        rw [List.mem_singleton.mp hz]
        exact (h.le x rfl v hv).trans_lt hy.1.2
      · obtain rfl := Option.some.inj hz
        rcases List.mem_append.mp hv with hv | hv
        · exact (h.le x rfl v hv).trans hy.1.2.le
        · exact (List.mem_singleton.mp hv).le
      · rcases le_or_gt k x with hkx | hxk
        · refine List.mem_append_left _ (h.covers k hk fun z hz => ?_)
          rw [← Option.some.inj hz]
          exact hkx
        · have hyk := hy.2 ⟨hlasting k hk, hxk⟩
          exact List.mem_append_right _ (List.mem_singleton.mpr (le_antisymm (hle y rfl) hyk))

end Neighbours
