import SQPyte.Library.SortedMerge

/-!
# Search trees of sorted lists

An increasing list is made into a search tree: full subtrees of a given depth are split off it
(`ofDepth`), and each of them goes to the right of all before, which is one deeper (`grow`). The tree
has the elements of the list in order and is no deeper than it has to be (`two_pow_height_le`).

A forest is a row of such trees, some of them empty. A list that is to be added is merged with all
trees up to the first empty one, and takes its place (`plant`).
-/

/-- A binary tree. -/
inductive SearchTree (α : Type*) where
  /-- The empty tree. -/
  | leaf
  /-- A tree with the element `v` between the subtrees `left` and `right`. -/
  | node (left : SearchTree α) (v : α) (right : SearchTree α)
deriving DecidableEq, Repr

namespace SearchTree

variable {α : Type*}

/-- The elements from left to right. -/
def toList : SearchTree α → List α
  | leaf => []
  | node left v right => left.toList ++ v :: right.toList

/-- The number of elements on the longest path downwards. -/
def height : SearchTree α → ℕ
  | leaf => 0
  | node left _ right => max left.height right.height + 1

/-! ## Building -/

/-- Makes a tree with `k + 1` levels, or a smaller one if there are too few elements, and leaves the
others. -/
def ofDepth : ℕ → List α → SearchTree α × List α
  | _, [] => (leaf, [])
  | 0, x :: xs => (node leaf x leaf, xs)
  | k + 1, xs =>
    match ofDepth k xs with
    | (left, []) => (left, [])
    | (left, x :: xs) => (node left x (ofDepth k xs).1, (ofDepth k xs).2)

/-- The tree takes the first elements. -/
theorem toList_ofDepth (k : ℕ) (xs : List α) : (ofDepth k xs).1.toList ++ (ofDepth k xs).2 = xs := by
  induction k generalizing xs with
  | zero => cases xs <;> rfl
  | succ k ih =>
    cases xs with
    | nil => rfl
    | cons x xs =>
      have hleft := ih (x :: xs)
      rw [ofDepth]
      · rcases hsplit : ofDepth k (x :: xs) with ⟨left, _ | ⟨y, ys⟩⟩
        · rw [hsplit] at hleft
          exact hleft
        · rw [hsplit] at hleft
          dsimp only [toList] at hleft ⊢
          rw [List.append_assoc, List.cons_append, ih ys]
          exact hleft
      · exact nofun

/-- No elements are added. -/
theorem length_ofDepth_le (k : ℕ) (xs : List α) : (ofDepth k xs).2.length ≤ xs.length := by
  have h := congrArg List.length (toList_ofDepth k xs)
  rw [List.length_append] at h
  omega

/-- The tree is not higher than it may be. -/
theorem height_ofDepth_le (k : ℕ) (xs : List α) : (ofDepth k xs).1.height ≤ k + 1 := by
  induction k generalizing xs with
  | zero => cases xs <;> simp [ofDepth, height]
  | succ k ih =>
    cases xs with
    | nil => exact Nat.zero_le _
    | cons x xs =>
      have hleft := ih (x :: xs)
      rw [ofDepth]
      · rcases hsplit : ofDepth k (x :: xs) with ⟨left, _ | ⟨y, ys⟩⟩
        · rw [hsplit] at hleft
          exact hleft.trans (Nat.le_succ _)
        · rw [hsplit] at hleft
          exact Nat.succ_le_succ (max_le hleft (ih ys))
      · exact nofun

/-- A tree that leaves elements has all its levels full. -/
theorem length_of_ofDepth_ne_nil {k : ℕ} {xs : List α} (h : (ofDepth k xs).2 ≠ []) :
    (ofDepth k xs).1.toList.length + 1 = 2 ^ (k + 1) := by
  induction k generalizing xs with
  | zero => cases xs <;> simp_all [ofDepth, toList]
  | succ k ih =>
    cases xs with
    | nil => simp [ofDepth] at h
    | cons x xs =>
      have hleft : (ofDepth k (x :: xs)).2 ≠ [] →
          (ofDepth k (x :: xs)).1.toList.length + 1 = 2 ^ (k + 1) := ih
      rw [ofDepth] at h ⊢
      · -- The right side gets elements only when the left side has left some.
        rcases hsplit : ofDepth k (x :: xs) with ⟨left, _ | ⟨y, ys⟩⟩
        · rw [hsplit] at h
          exact absurd rfl h
        · rw [hsplit] at h hleft
          have hl : left.toList.length + 1 = 2 ^ (k + 1) := hleft (List.cons_ne_nil y ys)
          have hr := ih h
          dsimp only [toList] at hr ⊢
          rw [List.length_append, List.length_cons, Nat.pow_succ]
          omega
      · exact nofun
      · exact nofun

/-- Adds elements to the right of a tree with `k + 1` levels. -/
def grow (k : ℕ) (tree : SearchTree α) : List α → SearchTree α
  | [] => tree
  | x :: xs => grow (k + 1) (node tree x (ofDepth k xs).1) (ofDepth k xs).2
termination_by xs => xs.length
decreasing_by exact Nat.lt_succ_of_le (length_ofDepth_le k xs)

/-- Makes a tree of all elements. -/
def ofList : List α → SearchTree α
  | [] => leaf
  | x :: xs => grow 0 (node leaf x leaf) xs

/-- A tree that grows takes all elements. -/
theorem toList_grow (k : ℕ) (tree : SearchTree α) (xs : List α) :
    (grow k tree xs).toList = tree.toList ++ xs := by
  induction k, tree, xs using grow.induct with
  | case1 k tree => rw [grow, List.append_nil]
  | case2 k tree x xs ih =>
    rw [grow, ih, toList, List.append_assoc, List.cons_append, toList_ofDepth]

/-- So does the tree of a list. -/
@[simp] theorem toList_ofList (xs : List α) : (ofList xs).toList = xs := by
  cases xs with
  | nil => rfl
  | cons x xs => rw [ofList, toList_grow]; rfl

/-- A tree of full levels that grows is never twice as deep as it has to be. -/
theorem two_pow_height_grow_le (k : ℕ) (tree : SearchTree α) (xs : List α)
    (hheight : tree.height = k + 1) (hfull : xs ≠ [] → tree.toList.length + 1 = 2 ^ (k + 1))
    (hsize : 2 ^ (k + 1) ≤ 2 * tree.toList.length) :
    2 ^ (grow k tree xs).height ≤ 2 * (tree.toList.length + xs.length) := by
  induction k, tree, xs using grow.induct with
  | case1 k tree =>
    rw [grow, hheight]
    exact hsize
  | case2 k tree x xs ih =>
    -- The tree has all its levels full as long as elements are left, so a new root adds one level
    -- and doubles the size.
    have hfull := hfull (List.cons_ne_nil x xs)
    have hsplit := congrArg List.length (toList_ofDepth k xs)
    rw [List.length_append] at hsplit
    have hlength : (node tree x (ofDepth k xs).1).toList.length =
        tree.toList.length + (1 + (ofDepth k xs).1.toList.length) := by
      rw [toList, List.length_append, List.length_cons]
      omega
    have hheight' : (node tree x (ofDepth k xs).1).height = k + 1 + 1 := by
      rw [height, hheight, Nat.max_eq_left (height_ofDepth_le k xs)]
    rw [grow]
    -- The new right side is full too when it leaves elements.
    calc 2 ^ (grow (k + 1) (node tree x (ofDepth k xs).1) (ofDepth k xs).2).height
        ≤ 2 * ((node tree x (ofDepth k xs).1).toList.length + (ofDepth k xs).2.length) := by
          apply ih hheight'
          · intro hne
            have hright := length_of_ofDepth_ne_nil hne
            rw [hlength, Nat.pow_succ]
            omega
          · rw [hlength, Nat.pow_succ]
            omega
      _ = 2 * (tree.toList.length + (x :: xs).length) := by
          rw [hlength, List.length_cons]
          omega

/-- The tree of a list is no deeper than it has to be. -/
theorem two_pow_height_le {xs : List α} (h : xs ≠ []) : 2 ^ (ofList xs).height ≤ 2 * xs.length := by
  cases xs with
  | nil => exact absurd rfl h
  | cons x xs =>
    have hgrow := two_pow_height_grow_le 0 (node leaf x leaf) xs rfl (fun _ => rfl) (le_refl _)
    rw [ofList, List.length_cons, Nat.add_comm xs.length 1]
    exact hgrow

/-! ## Search -/

section search

variable [LinearOrder α]

/-- Elements increase from left to right. -/
def Ordered (tree : SearchTree α) : Prop := tree.toList.Pairwise (· < ·)

/-- Looks for an element. -/
def find (x : α) : SearchTree α → Bool
  | leaf => false
  | node left v right => if v < x then right.find x else if x < v then left.find x else true

/-- The elements of an ordered tree are found. -/
theorem Ordered.find_iff {tree : SearchTree α} (h : tree.Ordered) (x : α) :
    tree.find x = true ↔ x ∈ tree.toList := by
  induction tree with
  | leaf => simp [find, toList]
  | node left v right ihl ihr =>
    unfold Ordered at h
    rw [toList] at h
    obtain ⟨hleft, hnode, hlt⟩ := List.pairwise_append.mp h
    obtain ⟨hgt, hright⟩ := List.pairwise_cons.mp hnode
    have hvleft : ∀ y ∈ left.toList, y < v := fun y hy => hlt y hy v List.mem_cons_self
    rw [find, toList, List.mem_append, List.mem_cons]
    -- Elements on the other side of the root cannot be `x`.
    split_ifs with hvx hxv
    · rw [ihr hright]
      refine ⟨fun hx => Or.inr (Or.inr hx), ?_⟩
      rintro (hx | rfl | hx)
      · exact absurd ((hvleft x hx).trans hvx) (lt_irrefl x)
      · exact absurd hvx (lt_irrefl x)
      · exact hx
    · rw [ihl hleft]
      refine ⟨Or.inl, ?_⟩
      rintro (hx | rfl | hx)
      · exact hx
      · exact absurd hxv (lt_irrefl x)
      · exact absurd (hxv.trans (hgt x hx)) (lt_irrefl x)
    · have heq : x = v := le_antisymm (not_lt.mp hvx) (not_lt.mp hxv)
      exact ⟨fun _ => Or.inr (Or.inl heq), fun _ => rfl⟩

/-! ## Forests -/

/-- Adds a list to a forest. What is not placed, because no tree is empty, is left. -/
def plant : List (SearchTree α) → List α → List (SearchTree α) × List α
  | [], xs => ([], xs)
  | leaf :: trees, xs => (ofList xs :: trees, [])
  | tree :: trees, xs =>
    (leaf :: (plant trees (SortedMerge.merge tree.toList xs)).1,
      (plant trees (SortedMerge.merge tree.toList xs)).2)

/-- A forest of ordered trees that are not deeper than they have to be. -/
structure Grown (trees : List (SearchTree α)) : Prop where
  /-- Elements increase in each tree. -/
  ordered : ∀ tree ∈ trees, tree.Ordered
  /-- A tree has about as few levels as it can. -/
  height_le : ∀ tree ∈ trees, tree ≠ leaf → 2 ^ tree.height ≤ 2 * tree.toList.length

/-- No tree. -/
theorem Grown.nil : Grown ([] : List (SearchTree α)) := ⟨nofun, nofun⟩

/-- One tree more. -/
theorem Grown.cons {tree : SearchTree α} {trees : List (SearchTree α)} (ho : tree.Ordered)
    (hh : tree ≠ leaf → 2 ^ tree.height ≤ 2 * tree.toList.length) (h : Grown trees) :
    Grown (tree :: trees) := by
  constructor
  · intro t ht
    rcases List.mem_cons.mp ht with rfl | ht
    · exact ho
    · exact h.ordered t ht
  · intro t ht
    rcases List.mem_cons.mp ht with rfl | ht
    · exact hh
    · exact h.height_le t ht

/-- Two lists of trees. -/
theorem Grown.append {trees trees' : List (SearchTree α)} (h : Grown trees) (h' : Grown trees') :
    Grown (trees ++ trees') := by
  constructor
  · intro t ht
    exact (List.mem_append.mp ht).elim (h.ordered t) (h'.ordered t)
  · intro t ht
    exact (List.mem_append.mp ht).elim (h.height_le t) (h'.height_le t)

/-- The tree of an increasing list. -/
theorem Grown.singleton {xs : List α} (h : xs.Pairwise (· < ·)) : Grown [ofList xs] := by
  refine Grown.cons ?_ (fun hne => ?_) Grown.nil
  · unfold Ordered
    rwa [toList_ofList]
  · rw [toList_ofList]
    apply two_pow_height_le
    rintro rfl
    exact hne rfl

/-- An increasing list that is added stays in order, and no element is lost. -/
theorem plant_spec {trees : List (SearchTree α)} {xs : List α} (h : Grown trees)
    (hx : xs.Pairwise (· < ·)) : Grown (plant trees xs).1 ∧
      (plant trees xs).2.Pairwise (· < ·) ∧
      ∀ x, ((∃ tree ∈ (plant trees xs).1, x ∈ tree.toList) ∨ x ∈ (plant trees xs).2) ↔
        x ∈ xs ∨ ∃ tree ∈ trees, x ∈ tree.toList := by
  induction trees generalizing xs with
  | nil => exact ⟨Grown.nil, hx, fun x => by simp [plant]⟩
  | cons tree trees ih =>
    have hrest : Grown trees :=
      ⟨fun t ht => h.ordered t (List.mem_cons_of_mem _ ht),
        fun t ht => h.height_le t (List.mem_cons_of_mem _ ht)⟩
    cases tree with
    | leaf =>
      refine ⟨(Grown.singleton hx).append hrest, List.Pairwise.nil, fun x => ?_⟩
      simp [plant, toList]
    | node left v right =>
      have hmerged := SortedMerge.pairwise_merge (h.ordered _ List.mem_cons_self) hx
      obtain ⟨hgrown, hleft, hmem⟩ := ih hrest hmerged
      refine ⟨Grown.cons List.Pairwise.nil (fun hne => absurd rfl hne) hgrown, hleft, fun x => ?_⟩
      have hiff := hmem x
      rw [SortedMerge.mem_merge] at hiff
      dsimp only [plant]
      rw [List.exists_mem_cons_iff, List.exists_mem_cons_iff, or_assoc, hiff, toList]
      simp only [List.not_mem_nil, false_or]
      tauto

/-- An element is in a forest if it is found in one of its trees. -/
theorem Grown.any_find_iff {trees : List (SearchTree α)} (h : Grown trees) (x : α) :
    trees.any (find x) = true ↔ ∃ tree ∈ trees, x ∈ tree.toList := by
  rw [List.any_eq_true]
  exact exists_congr fun tree => and_congr_right fun ht => (h.ordered tree ht).find_iff x

end search

end SearchTree
