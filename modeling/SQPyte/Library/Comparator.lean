import Mathlib.Data.Nat.Notation
import Mathlib.Tactic.Common
import Mathlib.Data.Int.Basic
import Mathlib.Data.List.Forall2
import Mathlib.Data.Set.Basic
import Mathlib.Order.Basic

/-!
# Comparison functions with an integer result

A comparator tells by the sign of an integer which of two values comes first, in the manner of
`qsort`. `IsComparator S cmp` says that on the set `S` it is the comparison of a total preorder: it
changes its sign with the order of the arguments, and "not after" is transitive.

`IsComparator.of_rank` is the rule for values of several classes: if the classes are told apart
first, a comparator within each class is one on all values. `isComparator_key` and
`isComparator_lex` supply the comparators within a class: by a key in a linear order, and
lexicographic on lists with the shorter of two lists first when it is a prefix.

Rows are compared column by column, each column by a comparator of its own (`isComparator_lexBy`). A
row with the first columns only is a key that the rows can be searched for: among rows in order, what
a key compares to does not decrease (`lexBy_le_of_le`).
-/

namespace Comparator

variable {α β : Type*}

/-- On `S`, the sign of `cmp` changes with the order of the arguments. -/
def Antisymmetric (S : Set α) (cmp : α → α → ℤ) : Prop :=
  ∀ a ∈ S, ∀ b ∈ S, (cmp a b).sign = -(cmp b a).sign

/-- On `S`, `cmp` compares by a total preorder. -/
structure IsComparator (S : Set α) (cmp : α → α → ℤ) : Prop where
  /-- The sign changes with the order of the arguments. -/
  anti : Antisymmetric S cmp
  /-- "Not after" is transitive. -/
  trans : ∀ a ∈ S, ∀ b ∈ S, ∀ c ∈ S, cmp a b ≤ 0 → cmp b c ≤ 0 → cmp a c ≤ 0

/-- Signs that are opposite. -/
theorem sign_eq_neg_iff {x y : ℤ} : x.sign = -y.sign ↔ (x < 0 ↔ 0 < y) ∧ (0 < x ↔ y < 0) := by
  rcases lt_trichotomy x 0 with hx | rfl | hx <;> rcases lt_trichotomy y 0 with hy | rfl | hy <;>
    simp_all [Int.sign_eq_neg_one_of_neg, Int.sign_eq_one_of_pos] <;> omega

/-- A comparator on fewer elements. -/
theorem IsComparator.mono {S T : Set α} {cmp : α → α → ℤ} (h : IsComparator T cmp) (hST : S ⊆ T) :
    IsComparator S cmp :=
  ⟨fun a ha b hb => h.anti a (hST ha) b (hST hb),
    fun a ha b hb c hc => h.trans a (hST ha) b (hST hb) c (hST hc)⟩

/-- Only the values of the function on `S` matter. -/
theorem IsComparator.congr {S : Set α} {cmp cmp' : α → α → ℤ} (h : IsComparator S cmp)
    (heq : ∀ a ∈ S, ∀ b ∈ S, cmp' a b = cmp a b) : IsComparator S cmp' := by
  constructor
  · intro a ha b hb
    rw [heq a ha b hb, heq b hb a ha]; exact h.anti a ha b hb
  · intro a ha b hb c hc
    rw [heq a ha b hb, heq b hb c hc, heq a ha c hc]; exact h.trans a ha b hb c hc

/-- Comparing images. -/
theorem IsComparator.comap {T : Set β} {cmp : β → β → ℤ} (h : IsComparator T cmp) (f : α → β)
    {S : Set α} (hf : ∀ a ∈ S, f a ∈ T) : IsComparator S fun a b => cmp (f a) (f b) :=
  ⟨fun a ha b hb => h.anti _ (hf a ha) _ (hf b hb),
    fun a ha b hb c hc => h.trans _ (hf a ha) _ (hf b hb) _ (hf c hc)⟩

section rank

variable {S : Set α} {cmp : α → α → ℤ} (rank : α → ℕ)
  (hlt : ∀ a ∈ S, ∀ b ∈ S, rank a < rank b → cmp a b < 0 ∧ 0 < cmp b a)

include hlt

/-- Classes told apart first, by their rank, and a sign that changes within each class. -/
theorem antisymmetric_of_rank (hrank : ∀ r, Antisymmetric {a ∈ S | rank a = r} cmp) :
    Antisymmetric S cmp := by
  intro a ha b hb
  rcases Nat.lt_trichotomy (rank a) (rank b) with h | h | h
  · have := hlt a ha b hb h; rw [sign_eq_neg_iff]; omega
  · exact hrank (rank b) a ⟨ha, h⟩ b ⟨hb, rfl⟩
  · have := hlt b hb a ha h; rw [sign_eq_neg_iff]; omega

/-- Classes told apart first, by their rank, and a comparator within each class. -/
theorem IsComparator.of_rank (hrank : ∀ r, IsComparator {a ∈ S | rank a = r} cmp) :
    IsComparator S cmp := by
  have hle : ∀ a ∈ S, ∀ b ∈ S, cmp a b ≤ 0 → rank a ≤ rank b := by
    intro a ha b hb hab
    by_contra h
    have := (hlt b hb a ha (by omega)).2
    omega
  refine ⟨antisymmetric_of_rank rank hlt fun r => (hrank r).anti, ?_⟩
  intro a ha b hb c hc hab hbc
  have h1 := hle a ha b hb hab
  have h2 := hle b hb c hc hbc
  rcases Nat.lt_or_ge (rank a) (rank c) with h | h
  · exact (hlt a ha c hc h).1.le
  · exact (hrank (rank c)).trans a ⟨ha, by omega⟩ b ⟨hb, by omega⟩ c ⟨hc, rfl⟩ hab hbc

end rank

/-- The three results of a comparison by `<`. -/
def threeWay (lt gt : Bool) : ℤ := if lt then -1 else if gt then 1 else 0

/-- Comparison by a key in a linear order. -/
theorem isComparator_key [LinearOrder β] (S : Set α) (key : α → β) :
    IsComparator S fun a b => threeWay (decide (key a < key b)) (decide (key b < key a)) := by
  have hle : ∀ a b, threeWay (decide (key a < key b)) (decide (key b < key a)) ≤ 0 ↔
      key a ≤ key b := by
    intro a b
    rcases lt_trichotomy (key a) (key b) with h | h | h
    · simp [threeWay, h, h.le]
    · simp [threeWay, h]
    · simp [threeWay, h, h.not_gt, h.not_ge]
  constructor
  · intro a _ b _
    rcases lt_trichotomy (key a) (key b) with h | h | h
    · simp [threeWay, h, h.not_gt]
    · simp [threeWay, h]
    · simp [threeWay, h, h.not_gt]
  · intro a _ b _ c _ hab hbc
    rw [hle] at hab hbc ⊢
    exact hab.trans hbc

/-! ## Lexicographic comparison of lists -/

/-- Lexicographic comparison by the difference of the first two entries that differ, and by length
where one list is a prefix of the other. -/
def lexCompare (key : α → ℤ) : List α → List α → ℤ
  | a :: as, b :: bs => if key a = key b then lexCompare key as bs else key a - key b
  | as, bs => as.length - bs.length

/-- The lexicographic comparison the other way round. -/
theorem lexCompare_anti (key : α → ℤ) (as bs : List α) :
    lexCompare key as bs = -lexCompare key bs as := by
  induction as generalizing bs with
  | nil => cases bs <;> simp [lexCompare]
  | cons a as ih =>
    cases bs with
    | nil => simp [lexCompare]
    | cons b bs =>
      unfold lexCompare
      by_cases h : key a = key b
      · rw [if_pos h, if_pos h.symm, ih]
      · rw [if_neg h, if_neg (Ne.symm h)]; omega

/-- It is transitive. -/
theorem lexCompare_trans (key : α → ℤ) (as bs cs : List α) (hab : lexCompare key as bs ≤ 0)
    (hbc : lexCompare key bs cs ≤ 0) : lexCompare key as cs ≤ 0 := by
  induction as generalizing bs cs with
  | nil =>
    cases cs with
    | nil => simp [lexCompare]
    | cons c cs =>
      simp only [lexCompare, List.length_nil, List.length_cons]
      omega
  | cons a as ih =>
    cases bs with
    | nil => simp [lexCompare] at hab; omega
    | cons b bs =>
      cases cs with
      | nil => simp [lexCompare] at hbc; omega
      | cons c cs =>
        unfold lexCompare at hab hbc ⊢
        split_ifs at hab hbc ⊢ with h1 h2 h3 h3 h2 h3 h3
        · exact ih bs cs hab hbc
        all_goals omega

/-- It is a comparator. -/
theorem isComparator_lex (key : α → ℤ) : IsComparator Set.univ (lexCompare key) := by
  constructor
  · intro a _ b _
    rw [lexCompare_anti key a b, Int.sign_neg]
  · intro a _ b _ c _
    exact lexCompare_trans key a b c

/-! ## Comparison by columns -/

/-- The comparison of two rows by the first column in which they differ. A column that one of them
lacks is no difference. -/
def lexBy : List (α → α → ℤ) → List α → List α → ℤ
  | cmp :: cmps, a :: as, b :: bs => if cmp a b ≠ 0 then cmp a b else lexBy cmps as bs
  | _, _, _ => 0

/-- The comparison in the opposite order. -/
theorem IsComparator.neg {S : Set α} {cmp : α → α → ℤ} (h : IsComparator S cmp) :
    IsComparator S fun a b => -cmp a b := by
  have hanti : ∀ a ∈ S, ∀ b ∈ S, (-cmp a b ≤ 0 ↔ cmp b a ≤ 0) := by
    intro a ha b hb
    have := sign_eq_neg_iff.mp (h.anti a ha b hb)
    omega
  constructor
  · intro a ha b hb
    rw [Int.sign_neg, Int.sign_neg, h.anti a ha b hb]
  · intro a ha b hb c hc hab hbc
    rw [hanti a ha b hb] at hab
    rw [hanti b hb c hc] at hbc
    rw [hanti a ha c hc]
    exact h.trans c hc b hb a ha hbc hab

/-- Nothing is compared with anything. -/
theorem lexBy_nil_left (cmps : List (α → α → ℤ)) (bs : List α) : lexBy cmps [] bs = 0 := by
  cases cmps <;> rfl

/-- Anything is compared with nothing. -/
theorem lexBy_nil_right (cmps : List (α → α → ℤ)) (as : List α) : lexBy cmps as [] = 0 := by
  cases cmps <;> cases as <;> rfl

/-- The first column decides, or else the others do. -/
theorem lexBy_cons_le {cmp : α → α → ℤ} {cmps : List (α → α → ℤ)} {a b : α} {as bs : List α} :
    lexBy (cmp :: cmps) (a :: as) (b :: bs) ≤ 0 ↔
      cmp a b ≤ 0 ∧ (cmp a b = 0 → lexBy cmps as bs ≤ 0) := by
  rw [lexBy]
  split_ifs with h
  · simp [h]
  · rw [not_not] at h
    simp [h]

/-- Rows are compared by a total preorder if each of their columns is. -/
theorem isComparator_lexBy {Ss : List (Set α)} {cmps : List (α → α → ℤ)}
    (h : List.Forall₂ IsComparator Ss cmps) :
    IsComparator {as | List.Forall₂ (fun a S => a ∈ S) as Ss} (lexBy cmps) := by
  induction h with
  | nil =>
    constructor
    · intro as _ bs _
      rfl
    · intro as _ bs _ cs _ _ _
      exact le_rfl
  | @cons S cmp Ss cmps hcmp _ ih =>
    have hsign : ∀ a ∈ S, ∀ b ∈ S, (cmp a b < 0 ↔ 0 < cmp b a) ∧ (0 < cmp a b ↔ cmp b a < 0) :=
      fun a ha b hb => sign_eq_neg_iff.mp (hcmp.anti a ha b hb)
    constructor
    · rintro _ (_ | ⟨ha, has⟩) _ (_ | ⟨hb, hbs⟩)
      rename_i a as b bs
      have htail : (lexBy cmps as bs).sign = -(lexBy cmps bs as).sign := ih.anti as has bs hbs
      have hzero : cmp a b = 0 ↔ cmp b a = 0 := by
        have := hsign a ha b hb
        omega
      unfold lexBy
      by_cases h0 : cmp a b = 0
      · rw [if_neg (not_not.mpr h0), if_neg (not_not.mpr (hzero.mp h0)), htail]
      · rw [if_pos h0, if_pos (fun h => h0 (hzero.mpr h)), hcmp.anti a ha b hb]
    · rintro _ (_ | ⟨ha, has⟩) _ (_ | ⟨hb, hbs⟩) _ (_ | ⟨hc, hcs⟩) hab hbc
      rename_i a as b bs c cs
      rw [lexBy_cons_le] at hab hbc ⊢
      have hac : cmp a c ≤ 0 := hcmp.trans a ha b hb c hc hab.1 hbc.1
      refine ⟨hac, fun h0 => ?_⟩
      -- Where the ends are equal, so is what is between them.
      have hca : cmp c a ≤ 0 := by
        have := hsign a ha c hc
        omega
      have hcb : cmp c b ≤ 0 := hcmp.trans c hc a ha b hb hca hab.1
      have hba : cmp b a ≤ 0 := hcmp.trans b hb c hc a ha hbc.1 hca
      have hab0 : cmp a b = 0 := by
        have := hsign a ha b hb
        omega
      have hbc0 : cmp b c = 0 := by
        have := hsign b hb c hc
        omega
      exact ih.trans as has bs hbs cs hcs (hab.2 hab0) (hbc.2 hbc0)

/-- A key is compared with the columns that it has. -/
theorem lexBy_take (cmps : List (α → α → ℤ)) (as ks : List α) :
    lexBy cmps as ks = lexBy (cmps.take ks.length) (as.take ks.length) ks := by
  induction ks generalizing cmps as with
  | nil => rw [lexBy_nil_right, lexBy_nil_right]
  | cons k ks ih =>
    cases cmps with
    | nil => cases as <;> rfl
    | cons cmp cmps =>
      cases as with
      | nil => rfl
      | cons a as =>
        rw [List.length_cons, List.take_succ_cons, List.take_succ_cons, lexBy, lexBy, ih]

/-- Rows in order are in order by their first columns. -/
theorem lexBy_take_le {cmps : List (α → α → ℤ)} {as bs : List α} (n : ℕ)
    (h : lexBy cmps as bs ≤ 0) : lexBy (cmps.take n) (as.take n) (bs.take n) ≤ 0 := by
  induction cmps generalizing as bs n with
  | nil => simp [lexBy]
  | cons cmp cmps ih =>
    rcases n with _ | n
    · simp [lexBy]
    · cases as with
      | nil => simp [lexBy]
      | cons a as =>
        cases bs with
        | nil => simp [lexBy]
        | cons b bs =>
          rw [lexBy_cons_le] at h
          rw [List.take_succ_cons, List.take_succ_cons, List.take_succ_cons, lexBy_cons_le]
          exact ⟨h.1, fun h0 => ih n (h.2 h0)⟩

/-- What a row that is not before another one compares to a key as, it compares to the other one as
well: if the later row is not after the key, the earlier one is not, and the same for "before". -/
theorem lexBy_le_of_le {Ss : List (Set α)} {cmps : List (α → α → ℤ)} {as bs ks : List α}
    (h : List.Forall₂ IsComparator Ss cmps) (ha : List.Forall₂ (fun a S => a ∈ S) as Ss)
    (hb : List.Forall₂ (fun a S => a ∈ S) bs Ss)
    (hk : List.Forall₂ (fun a S => a ∈ S) ks (Ss.take ks.length)) (hab : lexBy cmps as bs ≤ 0) :
    (lexBy cmps bs ks ≤ 0 → lexBy cmps as ks ≤ 0) ∧
      (lexBy cmps bs ks < 0 → lexBy cmps as ks < 0) := by
  have hord := isComparator_lexBy (List.forall₂_take ks.length h)
  have ha' : as.take ks.length ∈ {as | List.Forall₂ (fun a S => a ∈ S) as (Ss.take ks.length)} :=
    List.forall₂_take ks.length ha
  have hb' : bs.take ks.length ∈ {as | List.Forall₂ (fun a S => a ∈ S) as (Ss.take ks.length)} :=
    List.forall₂_take ks.length hb
  have hle : lexBy (cmps.take ks.length) (as.take ks.length) (bs.take ks.length) ≤ 0 :=
    lexBy_take_le ks.length hab
  rw [lexBy_take cmps as ks, lexBy_take cmps bs ks]
  refine ⟨fun hbk => hord.trans _ ha' _ hb' ks hk hle hbk, fun hbk => ?_⟩
  -- Otherwise the key is not after the earlier row, and so not after the later one.
  have hka := sign_eq_neg_iff.mp (hord.anti _ ha' ks hk)
  have hkb := sign_eq_neg_iff.mp (hord.anti _ hb' ks hk)
  by_contra hnot
  have := hord.trans ks hk _ ha' _ hb' (by omega) hle
  omega

end Comparator
