import Mathlib.Algebra.Order.Field.Basic
import Mathlib.Algebra.Order.Group.Abs
import Mathlib.Algebra.Order.Ring.Abs
import Mathlib.Algebra.BigOperators.Group.List.Basic

/-!
# `Lib.WeightedMean` — weighted means of lists

`weightedMean value weight l` is the mean of the values of a list's members, each counted by its weight.
Where the weights are not negative, a bound on the values is one on the mean (`abs_weightedMean_le`); a
list without weight has the mean zero.
-/

namespace Lib.WeightedMean

variable {α K : Type*} [Field K]

/-- The sum of the weights. -/
def totalWeight (weight : α → K) (l : List α) : K := (l.map weight).sum

/-- The sum of the values by their weights. -/
def weightedSum (value weight : α → K) (l : List α) : K := (l.map fun a => value a * weight a).sum

/-- The mean of the values by their weights. -/
def weightedMean (value weight : α → K) (l : List α) : K :=
  weightedSum value weight l / totalWeight weight l

section
variable {value weight : α → K}

@[simp] theorem totalWeight_nil : totalWeight weight [] = 0 := rfl

@[simp] theorem weightedSum_nil : weightedSum value weight [] = 0 := rfl

theorem totalWeight_concat (l : List α) (a : α) :
    totalWeight weight (l ++ [a]) = totalWeight weight l + weight a := by
  simp [totalWeight]

theorem weightedSum_concat (l : List α) (a : α) :
    weightedSum value weight (l ++ [a]) = weightedSum value weight l + value a * weight a := by
  simp [weightedSum]

end

section
variable [LinearOrder K] [IsStrictOrderedRing K] {value weight : α → K} {l : List α}

theorem totalWeight_nonneg (hweight : ∀ a ∈ l, 0 ≤ weight a) : 0 ≤ totalWeight weight l := by
  induction l with
  | nil => exact le_refl 0
  | cons a l ih =>
      obtain ⟨ha, hl⟩ := List.forall_mem_cons.mp hweight
      exact add_nonneg ha (ih hl)

theorem abs_weightedSum_le {b : K} (hweight : ∀ a ∈ l, 0 ≤ weight a) (hvalue : ∀ a ∈ l, |value a| ≤ b) :
    |weightedSum value weight l| ≤ b * totalWeight weight l := by
  induction l with
  | nil => simp
  | cons a l ih =>
      obtain ⟨hweight, hweights⟩ := List.forall_mem_cons.mp hweight
      obtain ⟨hvalue, hvalues⟩ := List.forall_mem_cons.mp hvalue
      have hfirst : |value a * weight a| ≤ b * weight a := by
        rw [abs_mul, abs_of_nonneg hweight]
        exact mul_le_mul_of_nonneg_right hvalue hweight
      have hrest := ih hweights hvalues
      show |value a * weight a + weightedSum value weight l| ≤ b * (weight a + totalWeight weight l)
      rw [mul_add]
      exact (abs_add_le _ _).trans (add_le_add hfirst hrest)

/-- The mean is within the bounds of the values. -/
theorem abs_weightedMean_le {b : K} (hb : 0 ≤ b) (hweight : ∀ a ∈ l, 0 ≤ weight a)
    (hvalue : ∀ a ∈ l, |value a| ≤ b) : |weightedMean value weight l| ≤ b := by
  have hnonneg := totalWeight_nonneg hweight
  unfold weightedMean
  rw [abs_div, abs_of_nonneg hnonneg]
  exact div_le_of_le_mul₀ hnonneg hb (abs_weightedSum_le hweight hvalue)

end

end Lib.WeightedMean
