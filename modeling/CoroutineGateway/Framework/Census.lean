import Mathlib.Algebra.BigOperators.Group.Finset.Basic
import Mathlib.Algebra.BigOperators.Group.List.Basic

/-!
# Census lemmas

A quantity that is summed over the members of a family, when one member is replaced: the sum
moves by the difference of the two contributions.  The difference is stated as a sum on both
sides, so that the lemmas hold in every commutative monoid: numbers, and multisets.
-/

namespace CoroutineGateway

open Finset

/-- Replacing one member of a family, summed over a finite set. -/
lemma sum_update_add_of_mem {W P M : Type*} [DecidableEq W] [AddCommMonoid M] (f : W → P)
    (g : P → M) {w : W} (p : P) {s : Finset W} (hw : w ∈ s) :
    ∑ v ∈ s, g (Function.update f w p v) + g (f w) = ∑ v ∈ s, g (f v) + g p := by
  have hothers : ∑ v ∈ s.erase w, g (Function.update f w p v) = ∑ v ∈ s.erase w, g (f v) := by
    refine sum_congr rfl fun v hv => ?_
    rw [Function.update_of_ne (ne_of_mem_erase hv)]
  rw [← add_sum_erase s (fun v => g (Function.update f w p v)) hw,
    ← add_sum_erase s (fun v => g (f v)) hw, hothers, Function.update_self]
  ac_rfl

/-- Replacing one member of a family over a finite type. -/
lemma sum_update_add {W P M : Type*} [Fintype W] [DecidableEq W] [AddCommMonoid M]
    (f : W → P) (g : P → M) (w : W) (p : P) :
    ∑ v, g (Function.update f w p v) + g (f w) = ∑ v, g (f v) + g p :=
  sum_update_add_of_mem f g p (mem_univ w)

/-- Replacing one entry of a list. -/
lemma sum_map_set_add {P M : Type*} [AddCommMonoid M] (g : P → M) (p : P) {l : List P} {i : ℕ}
    (hi : i < l.length) : ((l.set i p).map g).sum + g l[i] = (l.map g).sum + g p := by
  induction l generalizing i with
  | nil => exact absurd hi (Nat.not_lt_zero i)
  | cons x xs ih =>
    cases i with
    | zero =>
      simp only [List.set_cons_zero, List.map_cons, List.sum_cons, List.getElem_cons_zero]
      ac_rfl
    | succ i =>
      have hrest := ih (Nat.lt_of_succ_lt_succ hi)
      simp only [List.set_cons_succ, List.map_cons, List.sum_cons, List.getElem_cons_succ,
        add_assoc, hrest]

end CoroutineGateway
