import Mathlib.Algebra.Order.BigOperators.Group.List
import Mathlib.Algebra.Order.Ring.Int

/-!
# Truncating a sum and the sum of what is truncated

Division of integers that are not negative, with the fraction cut off.  Cutting each summand of a
sum gives at most what cutting the sum gives, and less than one for each further summand is lost.
-/

namespace Truncation

variable {k : Int}

/-- Two summands. -/
theorem tdiv_add_tdiv_le {a b : Int} (pos : 0 < k) (ha : 0 ≤ a) (hb : 0 ≤ b) :
    a.tdiv k + b.tdiv k ≤ (a + b).tdiv k ∧ (a + b).tdiv k ≤ a.tdiv k + b.tdiv k + 1 := by
  rw [Int.tdiv_eq_ediv_of_nonneg ha, Int.tdiv_eq_ediv_of_nonneg hb,
    Int.tdiv_eq_ediv_of_nonneg (Int.add_nonneg ha hb), Int.add_ediv_of_pos pos]
  split
  · omega
  · omega

theorem sum_tdiv_le (pos : 0 < k) {l : List Int} (nonneg : ∀ x ∈ l, 0 ≤ x) :
    (l.map fun x => x.tdiv k).sum ≤ l.sum.tdiv k := by
  induction l with
  | nil => simp
  | cons x l ih =>
      have later : ∀ y ∈ l, 0 ≤ y := fun y member => nonneg y (List.mem_cons_of_mem x member)
      have rest := ih later
      have two := tdiv_add_tdiv_le pos (nonneg x List.mem_cons_self) (List.sum_nonneg later)
      rw [List.map_cons, List.sum_cons, List.sum_cons]
      omega

theorem tdiv_sum_le (pos : 0 < k) {l : List Int} (nonneg : ∀ x ∈ l, 0 ≤ x) (some : l ≠ []) :
    l.sum.tdiv k ≤ (l.map fun x => x.tdiv k).sum + (l.length - 1) := by
  induction l with
  | nil => exact absurd rfl some
  | cons x l ih =>
      have later : ∀ y ∈ l, 0 ≤ y := fun y member => nonneg y (List.mem_cons_of_mem x member)
      have two := tdiv_add_tdiv_le pos (nonneg x List.mem_cons_self) (List.sum_nonneg later)
      rw [List.map_cons, List.sum_cons, List.sum_cons, List.length_cons]
      by_cases single : l = []
      · subst single
        simp
      · have rest := ih later single
        push_cast
        omega

end Truncation
