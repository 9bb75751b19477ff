import Mathlib.Algebra.Ring.Nat
import Mathlib.Data.List.Basic
import Mathlib.Data.Nat.Log
import Mathlib.Order.Lattice
import Mathlib.Tactic.SplitIfs

/-!
# Sorting by merges into buckets

Increasing lists are merged so that elements that both have are kept once (`merge`). To sort a list,
its elements are added one by one to a row of buckets. A bucket is empty or holds an increasing list,
and adding to a bucket that holds one merges the two and carries the result into the next, as one
counts in binary (`carry`). So `n` buckets are enough for fewer than `2 ^ n` elements (`weight`), and
what is merged of all buckets at last is the set of the elements in increasing order (`sort_spec`).
-/

namespace SortedMerge

variable {α : Type*} [LinearOrder α]

/-- Merges two increasing lists. Of an element that both have, the one of the second list stays. -/
def merge : List α → List α → List α
  | [], bs => bs
  | a :: as, [] => a :: as
  | a :: as, b :: bs =>
    if a < b then a :: merge as (b :: bs)
    else if b < a then b :: merge (a :: as) bs
    else merge as (b :: bs)
termination_by as bs => as.length + bs.length

/-- The merge has the elements of both lists. -/
theorem mem_merge (x : α) (as bs : List α) : x ∈ merge as bs ↔ x ∈ as ∨ x ∈ bs := by
  induction as, bs using merge.induct with
  | case1 bs => simp [merge]
  | case2 a as => simp [merge]
  | case3 a as b bs h ih =>
    rw [merge, if_pos h, List.mem_cons, ih, List.mem_cons (l := as), or_assoc]
  | case4 a as b bs h h' ih =>
    rw [merge, if_neg h, if_pos h', List.mem_cons, ih, List.mem_cons (l := bs), or_left_comm]
  | case5 a as b bs h h' ih =>
    have heq : a = b := le_antisymm (not_lt.mp h') (not_lt.mp h)
    rw [merge, if_neg h, if_neg h', ih, heq, List.mem_cons (l := as), or_assoc, List.mem_cons]
    tauto

/-- The merge of increasing lists is increasing. -/
theorem pairwise_merge {as bs : List α} (ha : as.Pairwise (· < ·)) (hb : bs.Pairwise (· < ·)) :
    (merge as bs).Pairwise (· < ·) := by
  induction as, bs using merge.induct with
  | case1 bs => simpa only [merge] using hb
  | case2 a as => simpa only [merge] using ha
  | case3 a as b bs h ih =>
    obtain ⟨hhead, htail⟩ := List.pairwise_cons.mp ha
    rw [merge, if_pos h]
    refine List.pairwise_cons.mpr ⟨fun x hx => ?_, ih htail hb⟩
    rcases (mem_merge x _ _).mp hx with hx | hx
    · exact hhead x hx
    · rcases List.mem_cons.mp hx with rfl | hx
      · exact h
      · exact h.trans (List.rel_of_pairwise_cons hb hx)
  | case4 a as b bs h h' ih =>
    obtain ⟨hhead, htail⟩ := List.pairwise_cons.mp hb
    rw [merge, if_neg h, if_pos h']
    refine List.pairwise_cons.mpr ⟨fun x hx => ?_, ih ha htail⟩
    rcases (mem_merge x _ _).mp hx with hx | hx
    · rcases List.mem_cons.mp hx with rfl | hx
      · exact h'
      · exact h'.trans (List.rel_of_pairwise_cons ha hx)
    · exact hhead x hx
  | case5 a as b bs h h' ih =>
    rw [merge, if_neg h, if_neg h']
    exact ih (List.pairwise_cons.mp ha).2 hb

/-- A merge is empty only if there is nothing to merge. -/
theorem merge_ne_nil {as bs : List α} (h : bs ≠ []) : merge as bs ≠ [] := by
  obtain ⟨x, hx⟩ := List.exists_mem_of_ne_nil bs h
  exact List.ne_nil_of_mem ((mem_merge x as bs).mpr (Or.inr hx))

/-! ## Buckets -/

/-- Adds a list to the first bucket. A bucket that is full is emptied into the next. -/
def carry : List (List α) → List α → Option (List (List α))
  | [], _ => none
  | [] :: buckets, xs => some (xs :: buckets)
  | (y :: ys) :: buckets, xs => (carry buckets (merge (y :: ys) xs)).map ([] :: ·)

/-- The number that the full buckets stand for as the digits of a binary numeral. -/
def weight : List (List α) → ℕ
  | [] => 0
  | bucket :: buckets => (if bucket = [] then 0 else 1) + 2 * weight buckets

/-- Empty buckets weigh nothing. -/
theorem weight_replicate {β : Type*} (n : ℕ) : weight (List.replicate n ([] : List β)) = 0 := by
  induction n with
  | zero => rfl
  | succ n ih => rw [List.replicate_succ, weight, ih, if_pos rfl]

/-- The buckets hold increasing lists. -/
def Increasing (buckets : List (List α)) : Prop := ∀ bucket ∈ buckets, bucket.Pairwise (· < ·)

/-- The buckets after an increasing list is added. -/
structure Carried (buckets : List (List α)) (xs : List α) (buckets' : List (List α)) : Prop where
  /-- There are as many. -/
  length_eq : buckets'.length = buckets.length
  /-- They count one more. -/
  weight_eq : weight buckets' = weight buckets + 1
  /-- They hold increasing lists. -/
  increasing : Increasing buckets'
  /-- The elements are those that were there and those of the list. -/
  mem_iff : ∀ x, (∃ bucket ∈ buckets', x ∈ bucket) ↔ x ∈ xs ∨ ∃ bucket ∈ buckets, x ∈ bucket

/-- Buckets that do not count as far as they can have room. -/
theorem carry_spec {buckets : List (List α)} {xs : List α} (hb : Increasing buckets)
    (hx : xs.Pairwise (· < ·)) (hne : xs ≠ []) (hroom : weight buckets + 1 < 2 ^ buckets.length) :
    ∃ buckets', carry buckets xs = some buckets' ∧ Carried buckets xs buckets' := by
  induction buckets generalizing xs with
  | nil => simp [weight] at hroom
  | cons bucket buckets ih =>
    have hrest : Increasing buckets := fun b hb' => hb b (List.mem_cons_of_mem bucket hb')
    cases bucket with
    | nil =>
      refine ⟨_, rfl, rfl, ?_, ?_, fun x => ?_⟩
      · rw [weight, weight, if_neg hne, if_pos rfl]
        omega
      · intro b hb'
        rcases List.mem_cons.mp hb' with rfl | hb'
        · exact hx
        · exact hrest b hb'
      · simp
    | cons y ys =>
      -- A full bucket is merged into what is carried on.
      have hmerged := pairwise_merge (hb (y :: ys) List.mem_cons_self) hx
      rw [weight, if_neg (List.cons_ne_nil y ys), List.length_cons, Nat.pow_succ] at hroom
      obtain ⟨buckets', hcarry, hcarried⟩ := ih hrest hmerged (merge_ne_nil hne) (by omega)
      refine ⟨[] :: buckets', by rw [carry, hcarry]; rfl, ?_, ?_, ?_, fun x => ?_⟩
      · rw [List.length_cons, List.length_cons, hcarried.length_eq]
      · rw [weight, weight, hcarried.weight_eq, if_pos rfl, if_neg (List.cons_ne_nil y ys)]
        omega
      · intro b hb'
        rcases List.mem_cons.mp hb' with rfl | hb'
        · exact List.Pairwise.nil
        · exact hcarried.increasing b hb'
      · have hiff := hcarried.mem_iff x
        rw [mem_merge] at hiff
        simp only [List.exists_mem_cons_iff, List.not_mem_nil, false_or, hiff]
        tauto

/-- Merges all buckets. -/
def collect (buckets : List (List α)) : List α := buckets.foldl merge []

/-- The merge of all buckets. -/
theorem foldl_merge_spec {buckets : List (List α)} {xs : List α} (hb : Increasing buckets)
    (hx : xs.Pairwise (· < ·)) : (buckets.foldl merge xs).Pairwise (· < ·) ∧
      ∀ x, x ∈ buckets.foldl merge xs ↔ x ∈ xs ∨ ∃ bucket ∈ buckets, x ∈ bucket := by
  induction buckets generalizing xs with
  | nil => simpa using hx
  | cons bucket buckets ih =>
    obtain ⟨hpair, hmem⟩ := ih (fun b hb' => hb b (List.mem_cons_of_mem bucket hb'))
      (pairwise_merge hx (hb bucket List.mem_cons_self))
    refine ⟨hpair, fun x => ?_⟩
    rw [List.foldl_cons, hmem, mem_merge, List.exists_mem_cons_iff, or_assoc]

/-! ## Sorting -/

/-- Adds elements one by one. -/
def carryAll (buckets : List (List α)) (xs : List α) : Option (List (List α)) :=
  xs.foldlM (fun buckets x => carry buckets [x]) buckets

/-- The elements in increasing order, sorted with `n` buckets. -/
def sort (n : ℕ) (xs : List α) : Option (List α) :=
  (carryAll (List.replicate n []) xs).map collect

/-- Elements are put into the buckets one by one, as long as there is room. -/
theorem carryAll_spec {buckets : List (List α)} (xs : List α) (hb : Increasing buckets)
    (hroom : weight buckets + xs.length < 2 ^ buckets.length) :
    ∃ buckets', carryAll buckets xs = some buckets' ∧ Increasing buckets' ∧
      ∀ x, (∃ bucket ∈ buckets', x ∈ bucket) ↔ x ∈ xs ∨ ∃ bucket ∈ buckets, x ∈ bucket := by
  induction xs generalizing buckets with
  | nil => exact ⟨buckets, rfl, hb, by simp⟩
  | cons x xs ih =>
    rw [List.length_cons] at hroom
    obtain ⟨buckets₁, hcarry, hcarried⟩ :=
      carry_spec hb (List.pairwise_singleton _ x) (List.cons_ne_nil x []) (by omega)
    obtain ⟨buckets', hall, hinc, hmem⟩ := ih hcarried.increasing (by
      rw [hcarried.weight_eq, hcarried.length_eq]
      omega)
    refine ⟨buckets', ?_, hinc, fun y => ?_⟩
    · unfold carryAll at hall ⊢
      rw [List.foldlM_cons, hcarry]
      exact hall
    · rw [hmem, hcarried.mem_iff, List.mem_singleton, List.mem_cons]
      tauto

/-- With enough buckets, the elements are sorted. -/
theorem sort_spec {n : ℕ} {xs : List α} (h : xs.length < 2 ^ n) :
    ∃ ys, sort n xs = some ys ∧ ys.Pairwise (· < ·) ∧ ∀ x, x ∈ ys ↔ x ∈ xs := by
  have hempty : Increasing (List.replicate n ([] : List α)) := by
    intro bucket hb
    rw [List.eq_of_mem_replicate hb]
    exact List.Pairwise.nil
  obtain ⟨buckets, hall, hinc, hmem⟩ := carryAll_spec xs hempty (by
    rw [weight_replicate, List.length_replicate]
    omega)
  obtain ⟨hpair, hfold⟩ := foldl_merge_spec hinc (List.Pairwise.nil (R := (· < ·)))
  refine ⟨collect buckets, by rw [sort, hall, Option.map_some], hpair, fun x => ?_⟩
  unfold collect
  rw [hfold, hmem]
  simp only [List.not_mem_nil, false_or, List.mem_replicate]
  constructor
  · rintro (hx | ⟨bucket, ⟨-, rfl⟩, hx⟩)
    · exact hx
    · exact absurd hx List.not_mem_nil
  · exact Or.inl

end SortedMerge
