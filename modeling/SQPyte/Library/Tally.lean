import Mathlib.Algebra.BigOperators.Ring.Finset
import Mathlib.Algebra.BigOperators.Group.Finset.Piecewise
import Mathlib.Algebra.BigOperators.Pi

/-!
# Tallies

Each party of a finite family contributes a share to a total. The total is balanced if it is the sum
of the shares. When one party changes, a balanced total stays so exactly if what is left of it
without the share of that party stays what it was (`balanced_update_iff`): no sum over the others is
to be looked at.
-/

namespace Tally

variable {ι σ A : Type*} [Fintype ι] [AddCommGroup A]

/-- The total is the sum of the shares. -/
def Balanced (share : σ → A) (party : ι → σ) (total : A) : Prop := total = ∑ i, share (party i)

variable {share : σ → A} {party : ι → σ} {total total' : A}

/-- The sum of the shares after one party has changed. -/
theorem sum_update [DecidableEq ι] (share : σ → A) (party : ι → σ) (k : ι) (x : σ) :
    ∑ i, share (Function.update party k x i) =
      ∑ i, share (party i) - share (party k) + share x := by
  have hcomp : ∀ i, share (Function.update party k x i) =
      Function.update (fun i => share (party i)) k (share x) i :=
    fun i => Function.apply_update (fun _ => share) party k x i
  simp only [hcomp]
  rw [Finset.sum_update_of_mem (Finset.mem_univ k), Finset.sdiff_singleton_eq_erase,
    ← Finset.add_sum_erase _ _ (Finset.mem_univ k), add_sub_cancel_left]
  exact add_comm _ _

/-- After one party has changed, the total is balanced exactly if it is the same without the share of
that party. -/
theorem balanced_update_iff [DecidableEq ι] (h : Balanced share party total) (k : ι) (x : σ) :
    Balanced share (Function.update party k x) total' ↔
      total' - share x = total - share (party k) := by
  unfold Balanced at h ⊢
  rw [sum_update, ← h]
  exact sub_eq_iff_eq_add.symm

/-- A total that is balanced for two kinds of shares is so for the pairs, and the other way. -/
theorem balanced_prod_iff {A' : Type*} [AddCommGroup A'] {share' : σ → A'} {y : A'} :
    Balanced (fun p => (share p, share' p)) party (total, y) ↔
      Balanced share party total ∧ Balanced share' party y := by
  unfold Balanced
  rw [Prod.ext_iff, Prod.fst_sum, Prod.snd_sum]

/-- Where the parties with a property share one each, the total is their number. -/
theorem balanced_count_iff (P : σ → Prop) [DecidablePred P] {n : ℤ} :
    Balanced (fun p => if P p then (1 : ℤ) else 0) party n ↔
      n = (Finset.univ.filter fun i => P (party i)).card := by
  unfold Balanced
  rw [Finset.sum_boole]

/-- A party that is the only one with a property is counted once. -/
theorem card_eq_one {P : σ → Prop} [DecidablePred P] {k : ι} (hk : P (party k))
    (hothers : ∀ i, i ≠ k → ¬ P (party i)) :
    (Finset.univ.filter fun i => P (party i)).card = 1 := by
  refine Finset.card_eq_one.mpr ⟨k, Finset.ext fun i => ?_⟩
  rw [Finset.mem_filter, Finset.mem_singleton]
  refine ⟨fun h => ?_, fun h => ⟨Finset.mem_univ i, h ▸ hk⟩⟩
  by_contra hik
  exact hothers i hik h.2

end Tally
