import PredictATrade.Lib.Decimal

/-!
# `Lib.Grid` — multiples of a step

The multiples of a positive step are a grid. `lt_mul_iff` and its like say which of them lie on one side of
a value, and `nearest` rounds a number of steps to the nearest whole one, ties away from zero. `le_nearest_iff`
and `nearest_le_iff` put a bound on the rounded number as one on the number itself, so that a bound on a
value that has been rounded to the grid can be read off the value before.
-/

namespace Lib.Grid

open Lib.Decimal

variable {t a x : ℚ} {m n : ℤ}

/-! ## Multiples on one side of a value -/

/-- A whole number of steps. -/
def OnGrid (step v : ℚ) : Prop := ∃ n : ℤ, v = n * step

theorem onGrid_mul (step : ℚ) (n : ℤ) : OnGrid step (n * step) := ⟨n, rfl⟩

/-- The multiples above a value start after the last one at or below it. -/
theorem lt_mul_iff (ht : 0 < t) : a < n * t ↔ ⌊a / t⌋ + 1 ≤ n := by
  rw [Int.add_one_le_iff, Int.floor_lt, div_lt_iff₀ ht]

/-- The last point of the grid below a value. -/
theorem mul_lt_iff (ht : 0 < t) : n * t < a ↔ n ≤ ⌈a / t⌉ - 1 := by
  rw [Int.le_sub_one_iff, Int.lt_ceil, lt_div_iff₀ ht]

/-- The last point of the grid that is not above a value. -/
theorem mul_le_iff (ht : 0 < t) : n * t ≤ a ↔ n ≤ ⌊a / t⌋ := by
  rw [Int.le_floor, le_div_iff₀ ht]

/-- The first point of the grid that is not below a value. -/
theorem le_mul_iff (ht : 0 < t) : a ≤ n * t ↔ ⌈a / t⌉ ≤ n := by
  rw [Int.ceil_le, div_le_iff₀ ht]

/-! ## Rounding down -/

/-- The whole steps of `q` come to less than `a`, for a step of either sign. -/
def WorthLess (t q a : ℚ) : Prop := if 0 < t then q < ⌈a / t⌉ else ⌊a / t⌋ + 1 ≤ q

/-- They come to more. -/
def WorthMore (t q a : ℚ) : Prop := if 0 < t then ⌊a / t⌋ + 1 ≤ q else q < ⌈a / t⌉

theorem floor_add_one_le_iff {q b : ℚ} : b < ⌊q⌋ ↔ ⌊b⌋ + 1 ≤ q := by
  rw [← Int.floor_lt, ← Int.add_one_le_iff, Int.le_floor]
  push_cast
  rfl

theorem floor_lt_ceil_iff {q b : ℚ} : ⌊q⌋ < b ↔ q < ⌈b⌉ := by
  rw [← Int.lt_ceil, Int.floor_lt]

/-- When a quotient that is rounded down is worth less. -/
theorem floor_mul_lt_iff {q : ℚ} (ht : t ≠ 0) : ⌊q⌋ * t < a ↔ WorthLess t q a := by
  unfold WorthLess
  rcases lt_or_gt_of_ne ht with hneg | hpos
  · rw [if_neg (not_lt.mpr hneg.le), ← floor_add_one_le_iff, div_lt_iff_of_neg hneg]
  · rw [if_pos hpos, ← floor_lt_ceil_iff, lt_div_iff₀ hpos]

/-- When a quotient that is rounded down is worth more. -/
theorem lt_floor_mul_iff {q : ℚ} (ht : t ≠ 0) : a < ⌊q⌋ * t ↔ WorthMore t q a := by
  unfold WorthMore
  rcases lt_or_gt_of_ne ht with hneg | hpos
  · rw [if_neg (not_lt.mpr hneg.le), ← floor_lt_ceil_iff, lt_div_iff_of_neg hneg]
  · rw [if_pos hpos, ← floor_add_one_le_iff, div_lt_iff₀ hpos]

/-! ## Rounding to the nearest multiple -/

/-- The nearest integer, ties away from zero. -/
def nearest (x : ℚ) : ℤ := if 0 ≤ x then ⌊x + 1 / 2⌋ else -⌊-x + 1 / 2⌋

theorem roundPlaces_zero (x : ℚ) : roundPlaces 0 x = nearest x := by
  unfold roundPlaces nearest
  by_cases hx : 0 ≤ x
  · rw [if_pos hx, if_pos hx, abs_of_nonneg hx, zpow_zero, mul_one, div_one]
  · rw [if_neg hx, if_neg hx, abs_of_neg (not_le.mp hx), zpow_zero, mul_one, div_one, Int.cast_neg]

theorem nearest_neg (x : ℚ) : nearest (-x) = -nearest x := by
  unfold nearest
  rcases lt_trichotomy x 0 with hx | rfl | hx
  · rw [if_pos (neg_nonneg.mpr hx.le), if_neg (not_le.mpr hx), neg_neg]
  · norm_num
  · rw [if_neg (not_le.mpr (neg_neg_of_pos hx)), if_pos hx.le, neg_neg]

/-- `x` rounds to `m` or more: it is at most half a step short of it, and where the tie goes down, less. -/
def ReachesUp (m : ℤ) (x : ℚ) : Prop := if 0 < m then (m : ℚ) - 1 / 2 ≤ x else (m : ℚ) - 1 / 2 < x

/-- `x` rounds to `m` or less. -/
def ReachesDown (m : ℤ) (x : ℚ) : Prop := if 0 ≤ m then x < m + 1 / 2 else x ≤ m + 1 / 2

instance decidableReachesUp (m : ℤ) (x : ℚ) : Decidable (ReachesUp m x) :=
  inferInstanceAs (Decidable (if 0 < m then (m : ℚ) - 1 / 2 ≤ x else (m : ℚ) - 1 / 2 < x))

instance decidableReachesDown (m : ℤ) (x : ℚ) : Decidable (ReachesDown m x) :=
  inferInstanceAs (Decidable (if 0 ≤ m then x < m + 1 / 2 else x ≤ m + 1 / 2))

/-- When the nearest whole number reaches a whole number from below. -/
theorem le_nearest_iff : m ≤ nearest x ↔ ReachesUp m x := by
  unfold nearest ReachesUp
  by_cases hx : 0 ≤ x
  · rw [if_pos hx, Int.le_floor, ← sub_le_iff_le_add]
    by_cases hm : 0 < m
    · rw [if_pos hm]
    · -- below the tie there is nothing that is not negative
      have hm' : (m : ℚ) ≤ 0 := by exact_mod_cast not_lt.mp hm
      rw [if_neg hm]
      exact iff_of_true (by linarith) (by linarith)
  · have hx' : x < 0 := not_le.mp hx
    rw [if_neg hx, le_neg, ← Int.lt_add_one_iff, Int.floor_lt]
    push_cast
    by_cases hm : 0 < m
    · have hm' : (1 : ℚ) ≤ m := by exact_mod_cast hm
      rw [if_pos hm]
      exact iff_of_false (by linarith) (by linarith)
    · rw [if_neg hm]
      constructor <;> intro h <;> linarith

/-- When the nearest whole number reaches a whole number from above. -/
theorem nearest_le_iff : nearest x ≤ m ↔ ReachesDown m x := by
  rw [← not_lt, ← Int.add_one_le_iff, le_nearest_iff]
  unfold ReachesUp ReachesDown
  push_cast
  by_cases hm : 0 ≤ m
  · rw [if_pos (Int.lt_add_one_iff.mpr hm), if_pos hm, not_le]
    constructor <;> intro h <;> linarith
  · rw [if_neg (fun h => hm (Int.lt_add_one_iff.mp h)), if_neg hm, not_lt]
    constructor <;> intro h <;> linarith

end Lib.Grid
