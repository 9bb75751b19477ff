import Mathlib.Data.List.Find
import Mathlib.Data.List.GetD
import Mathlib.Data.List.Pairwise
import Mathlib.Tactic.Common

/-!
# Interning by a partial equality

A store holds objects, and a table of references to the objects that are interned. To intern a value
is to allocate an object for it and to look for an object of the table that matches the value: the
match is the result if there is one, and else the new object is, which is then stored in the table.

The relation that decides a match is Boolean, symmetric and transitive, as `==` on floats is. It may
relate values that are different, and a value that holds no number is not related to itself.
Interning is exact if the result holds the value and is the only object of the table that does.
`intern_exact_iff` says when: every value of the table that matches is the value itself, and the
value matches itself if the table holds it.
-/

namespace InternTable

/-- A symmetric and transitive test. -/
structure PartialEq {α : Type*} (eq : α → α → Bool) : Prop where
  /-- The test is symmetric. -/
  symm : ∀ {a b}, eq a b = true → eq b a = true
  /-- The test is transitive. -/
  trans : ∀ {a b c}, eq a b = true → eq b c = true → eq a c = true

/-- Objects and the table of the interned ones. A reference is an index into the objects. -/
structure Store (α : Type*) where
  /-- The objects that were ever made. -/
  objects : List α
  /-- The interned objects, the last one first. -/
  cache : List ℕ

namespace Store

variable {α : Type*}

/-- A new object. -/
def alloc (w : Store α) (s : α) : Store α := { w with objects := w.objects ++ [s] }

/-- A new object is the last one. -/
@[simp] theorem objects_alloc (w : Store α) (s : α) : (w.alloc s).objects = w.objects ++ [s] := rfl
@[simp] theorem cache_alloc (w : Store α) (s : α) : (w.alloc s).cache = w.cache := rfl

variable [Inhabited α] (eq : α → α → Bool)

/-- What an object holds. -/
def deref (w : Store α) (r : ℕ) : α := w.objects.getD r default

/-- What the objects of the table hold. -/
def table (w : Store α) : List α := w.cache.map w.deref

/-- The object of the table that matches the value. -/
def found (w : Store α) (s : α) : Option ℕ := w.cache.find? fun r => eq (w.deref r) s

/-- The interned object for the value. -/
def intern (w : Store α) (s : α) : ℕ × Store α :=
  match w.found eq s with
  | some r => (r, w.alloc s)
  | none => (w.objects.length, { w.alloc s with cache := w.objects.length :: w.cache })

/-- The references of the table point to objects, and no object of the table matches one that was
stored after it. -/
structure Wf (w : Store α) : Prop where
  /-- References point to objects. -/
  lt : ∀ r ∈ w.cache, r < w.objects.length
  /-- Older objects do not match newer ones. -/
  apart : w.cache.Pairwise fun a b => eq (w.deref b) (w.deref a) = false

variable {eq} {w : Store α} {s : α}

/-- What an object holds does not change as others are made. -/
theorem deref_of_prefix {w w' : Store α} (h : w.objects <+: w'.objects) {r : ℕ}
    (hr : r < w.objects.length) : w'.deref r = w.deref r := by
  obtain ⟨rest, hrest⟩ := h
  unfold deref
  rw [← hrest, List.getD_append _ _ _ _ hr]

/-- The other objects are as before. -/
theorem deref_alloc {r : ℕ} (hr : r < w.objects.length) : (w.alloc s).deref r = w.deref r :=
  deref_of_prefix (List.prefix_append _ _) hr

/-- The new object has the new contents. -/
@[simp] theorem deref_alloc_length : (w.alloc s).deref w.objects.length = s := by
  unfold deref
  rw [objects_alloc, List.getD_append_right _ _ _ _ (Nat.le_refl _), Nat.sub_self, List.getD_cons_zero]

/-- The contents of the table are those of its objects. -/
@[simp] theorem mem_table {t : α} : t ∈ w.table ↔ ∃ r ∈ w.cache, w.deref r = t := List.mem_map

/-! ## What interning does -/

/-- What is found is in the table and equal. -/
theorem found_some {r : ℕ} (h : w.found eq s = some r) : r ∈ w.cache ∧ eq (w.deref r) s = true :=
  ⟨List.mem_of_find?_eq_some h, List.find?_some (p := fun r => eq (w.deref r) s) h⟩

/-- If nothing is found, nothing in the table is equal. -/
theorem found_none (h : w.found eq s = none) {r : ℕ} (hr : r ∈ w.cache) :
    eq (w.deref r) s = false := by
  have := List.find?_eq_none.mp h r hr
  simpa using this

/-- A new object is not found before it is stored. -/
theorem found_alloc (hlt : ∀ r ∈ w.cache, r < w.objects.length) (a : α) :
    (w.alloc a).found eq s = w.found eq s := by
  unfold found
  exact List.find?_congr fun r hr => by rw [deref_alloc (hlt r hr)]

/-- An object that is found is the result. -/
theorem intern_of_some {r : ℕ} (h : w.found eq s = some r) : w.intern eq s = (r, w.alloc s) := by
  unfold intern
  rw [h]

/-- Otherwise the new object is, and goes into the table. -/
theorem intern_of_none (h : w.found eq s = none) :
    w.intern eq s =
      (w.objects.length, { w.alloc s with cache := w.objects.length :: w.cache }) := by
  unfold intern
  rw [h]

/-- There is one object more in either case. -/
@[simp] theorem objects_intern : (w.intern eq s).2.objects = w.objects ++ [s] := by
  cases h : w.found eq s with
  | some r => rw [intern_of_some h]; rfl
  | none => rw [intern_of_none h]; rfl

/-- Interning modifies no object. -/
theorem deref_intern {r : ℕ} (hr : r < w.objects.length) :
    (w.intern eq s).2.deref r = w.deref r :=
  deref_of_prefix (by rw [objects_intern]; exact List.prefix_append _ _) hr

/-- The table afterwards has the result and what it had before. -/
theorem mem_cache_intern {r : ℕ} :
    r ∈ (w.intern eq s).2.cache ↔ r = (w.intern eq s).1 ∨ r ∈ w.cache := by
  cases h : w.found eq s with
  | some r' =>
    rw [intern_of_some h, cache_alloc]
    refine ⟨Or.inr, fun hr => hr.elim (fun hr => ?_) id⟩
    rw [hr]
    exact (found_some h).1
  | none => rw [intern_of_none h]; exact List.mem_cons

/-- The result is an object of the table or the new one. -/
theorem intern_result : (w.intern eq s).1 ∈ w.cache ∨ (w.intern eq s).1 = w.objects.length := by
  cases h : w.found eq s with
  | some r =>
    rw [intern_of_some h]
    exact Or.inl (found_some h).1
  | none =>
    rw [intern_of_none h]
    exact Or.inr rfl

/-- The result is in the table. -/
theorem intern_mem_cache : (w.intern eq s).1 ∈ (w.intern eq s).2.cache :=
  mem_cache_intern.mpr (Or.inl rfl)

/-- The result holds the value or matches it. -/
theorem deref_intern_result (hw : w.Wf eq) :
    (w.intern eq s).2.deref (w.intern eq s).1 = s ∨
      (w.intern eq s).1 ∈ w.cache ∧
        eq ((w.intern eq s).2.deref (w.intern eq s).1) s = true := by
  cases h : w.found eq s with
  | some r =>
    obtain ⟨hmem, heq⟩ := found_some h
    rw [intern_of_some h, deref_alloc (hw.lt r hmem)]
    exact Or.inr ⟨hmem, heq⟩
  | none =>
    rw [intern_of_none h]
    exact Or.inl deref_alloc_length

/-- Interning keeps the table well formed. -/
theorem Wf.intern (hw : w.Wf eq) : (w.intern eq s).2.Wf eq := by
  refine ⟨fun r hr => ?_, ?_⟩
  · rw [objects_intern, List.length_append]
    cases h : w.found eq s with
    | some r' =>
      rw [intern_of_some h] at hr
      have := hw.lt r hr
      omega
    | none =>
      rw [intern_of_none h] at hr
      rcases List.mem_cons.mp hr with rfl | hr
      · simp
      · have := hw.lt r hr
        omega
  · have hold : w.cache.Pairwise fun a b =>
        eq ((w.intern eq s).2.deref b) ((w.intern eq s).2.deref a) = false :=
      hw.apart.imp_of_mem fun ha hb hab => by
        rw [deref_intern (hw.lt _ ha), deref_intern (hw.lt _ hb)]
        exact hab
    cases h : w.found eq s with
    | some r' =>
      rw [intern_of_some h] at hold ⊢
      exact hold
    | none =>
      rw [intern_of_none h] at hold ⊢
      refine List.pairwise_cons.mpr ⟨fun r hr => ?_, hold⟩
      -- the new object was stored because no older one matches it
      have hr' : ({ w.alloc s with cache := w.objects.length :: w.cache } : Store α).deref r =
          w.deref r := deref_alloc (hw.lt r hr)
      have hnew : ({ w.alloc s with cache := w.objects.length :: w.cache } : Store α).deref
          w.objects.length = s := deref_alloc_length
      rw [hr', hnew]
      exact found_none h hr

/-- Two objects of the table that match are the same. -/
theorem Wf.eq_of_match (hw : w.Wf eq) (he : PartialEq eq) {a b : ℕ} (ha : a ∈ w.cache)
    (hb : b ∈ w.cache) (hab : eq (w.deref a) (w.deref b) = true) : a = b := by
  have hapart : w.cache.Pairwise fun a b =>
      eq (w.deref a) (w.deref b) = false ∧ eq (w.deref b) (w.deref a) = false := by
    refine hw.apart.imp fun {a b} h => ⟨?_, h⟩
    by_contra h'
    rw [he.symm (by simpa using h')] at h
    cases h
  have : Std.Symm fun a b : ℕ =>
      eq (w.deref a) (w.deref b) = false ∧ eq (w.deref b) (w.deref a) = false :=
    ⟨fun _ _ h => ⟨h.2, h.1⟩⟩
  by_contra hne
  have := (hapart.forall ha hb hne).1
  rw [hab] at this
  cases this

/-! ## When it is exact -/

/-- Every value of the table that matches is the value, and the value matches itself if the table
holds it. -/
def Fits (eq : α → α → Bool) (table : List α) (s : α) : Prop :=
  (∀ t ∈ table, eq t s = true → t = s) ∧ (s ∈ table → eq s s = true)

/-- The result of interning holds the value, as the only object of the table, exactly if the value
fits the table. -/
theorem intern_exact_iff (hw : w.Wf eq) (he : PartialEq eq) :
    ((w.intern eq s).2.deref (w.intern eq s).1 = s ∧
      ∀ r ∈ (w.intern eq s).2.cache, (w.intern eq s).2.deref r = s → r = (w.intern eq s).1) ↔
    Fits eq w.table s := by
  constructor
  · rintro ⟨hs, honly⟩
    refine ⟨fun t ht hts => ?_, fun ht => ?_⟩
    · obtain ⟨r, hr, rfl⟩ := mem_table.mp ht
      -- an object that matches the value matches the result, so it is the result
      cases h : w.found eq s with
      | some r' =>
        obtain ⟨hr', hr's⟩ := found_some h
        obtain rfl := hw.eq_of_match he hr hr' (he.trans hts (he.symm hr's))
        rwa [intern_of_some h, deref_alloc (hw.lt r hr)] at hs
      | none =>
        rw [found_none h hr] at hts
        cases hts
    · obtain ⟨r, hr, hrs⟩ := mem_table.mp ht
      have hresult := honly r (mem_cache_intern.mpr (Or.inr hr))
        (by rw [deref_intern (hw.lt r hr), hrs])
      -- the result was in the table before, so it was found by a match
      cases h : w.found eq s with
      | some r' =>
        obtain ⟨-, hr's⟩ := found_some h
        exact he.trans (he.symm hr's) hr's
      | none =>
        rw [intern_of_none h] at hresult
        exact absurd (hw.lt r hr) (by rw [hresult]; exact Nat.lt_irrefl _)
  · rintro ⟨hmatch, hself⟩
    have hs : (w.intern eq s).2.deref (w.intern eq s).1 = s := by
      rcases deref_intern_result hw (s := s) with hs | ⟨hmem, heq⟩
      · exact hs
      · rw [deref_intern (hw.lt _ hmem)] at heq ⊢
        exact hmatch _ (mem_table.mpr ⟨_, hmem, rfl⟩) heq
    refine ⟨hs, fun r hr hrs => ?_⟩
    rcases mem_cache_intern.mp hr with hr | hr
    · exact hr
    · rw [deref_intern (hw.lt r hr)] at hrs
      have hss := hself (mem_table.mpr ⟨r, hr, hrs⟩)
      exact hw.intern.eq_of_match he (mem_cache_intern.mpr (Or.inr hr)) intern_mem_cache
        (by rw [hs, deref_intern (hw.lt r hr), hrs, hss])

end Store

end InternTable
