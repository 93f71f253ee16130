import Mathlib.Algebra.Order.Field.Basic
import Mathlib.Algebra.BigOperators.Ring.List
import Mathlib.Algebra.Order.BigOperators.Group.List
import Mathlib.Tactic.Linarith
import Mathlib.Tactic.LinearCombination
import Mathlib.Tactic.Ring

/-!
# `Lib.Capping` — weights that are scaled down family by family

Every item belongs to a family and has a weight. A family may have a cap, and when its weights add up to
more, they are all scaled by the one factor that brings them down to it.

* `mul_factor_le`: the capped total of a family is its cap at most.
* `le_share_cons`: one item more raises the capped share of those it counts among, although it also lowers the factor
  of its family.
* `scaled_le_mul`: factors that are close make sums that are close.
-/

namespace Lib.Capping

section
variable {K : Type*} [Field K] [LinearOrder K] {cap : Option K} {c total part w : K}

/-- The factor that brings a total down to its cap. -/
def factor (cap : Option K) (total : K) : K :=
  match cap with
  | none => 1
  | some c => if c < total then c / total else 1

theorem factor_of_lt (h : c < total) : factor (some c) total = c / total := if_pos h

theorem factor_of_le (h : total ≤ c) : factor (some c) total = 1 := if_neg (not_lt.mpr h)

/-- The capped total is at most the cap. -/
theorem mul_factor_le (hc : 0 < c) : total * factor (some c) total ≤ c := by
  rcases lt_or_ge c total with h | h
  · rw [factor_of_lt h, mul_div_cancel₀ c (hc.trans h).ne']
  · rw [factor_of_le h, mul_one]
    exact h

variable [IsStrictOrderedRing K]

/-- **A part of a capped total grows with it**: what it gains outweighs the smaller factor. -/
theorem mul_factor_mono (hcap : ∀ c, cap = some c → 0 < c) (hpart : 0 ≤ part) (hle : part ≤ total)
    (hw : 0 ≤ w) : part * factor cap total ≤ (part + w) * factor cap (total + w) := by
  cases cap with
  | none =>
    show part * 1 ≤ (part + w) * 1
    linarith
  | some c =>
    have hc := hcap c rfl
    rcases lt_or_ge c (total + w) with h' | h'
    swap
    · -- not capped afterwards, nor before
      rw [factor_of_le h', factor_of_le (by linarith), mul_one, mul_one]
      linarith
    · have hpos' : 0 < total + w := hc.trans h'
      rw [factor_of_lt h', mul_div_assoc', le_div_iff₀ hpos']
      rcases lt_or_ge c total with h | h
      · -- capped before and after: the part's share of the total grows
        have hpos : 0 < total := hc.trans h
        have hcross : part * (total + w) ≤ (part + w) * total := by
          have hgain := mul_le_mul_of_nonneg_left hle hw
          linarith
        rw [factor_of_lt h, mul_div_assoc', div_mul_eq_mul_div, div_le_iff₀ hpos, mul_right_comm,
          mul_right_comm (part + w)]
        exact mul_le_mul_of_nonneg_right hcross hc.le
      · -- capped from now on: the cap is at least the old total
        rw [factor_of_le h, mul_one]
        have hgain := mul_le_mul_of_nonneg_right (hle.trans h) hw
        have hkeep := mul_le_mul_of_nonneg_left h hpart
        linarith

end

/-! ## Sums over families -/

section
variable {K α κ : Type*} [Field K] [DecidableEq κ] (key : α → κ) (weight : α → K)

/-- The weights of a family. -/
def total (k : κ) (xs : List α) : K := ((xs.filter (key · = k)).map weight).sum

/-- The weights of a family's items that `p` picks. -/
def part (p : α → Bool) (k : κ) (xs : List α) : K := total key weight k (xs.filter p)

omit [DecidableEq κ] in
/-- The weights that `p` picks, each under the factor of its family. -/
def scaled (f : κ → K) (p : α → Bool) (xs : List α) : K :=
  ((xs.filter p).map fun x => weight x * f (key x)).sum

variable {key weight} {f f' : κ → K} {p : α → Bool} {k : κ} {x : α} {xs ys : List α}

theorem total_cons :
    total key weight k (x :: xs) =
      (if key x = k then weight x else 0) + total key weight k xs := by
  by_cases h : key x = k <;> simp [total, h]

theorem part_cons :
    part key weight p k (x :: xs) =
      (if p x ∧ key x = k then weight x else 0) + part key weight p k xs := by
  by_cases h : p x
  · simp only [part, List.filter_cons_of_pos h, total_cons, h, true_and]
  · simp [part, List.filter_cons_of_neg h, h]

omit [DecidableEq κ] in
theorem scaled_cons :
    scaled key weight f p (x :: xs) =
      (if p x then weight x * f (key x) else 0) + scaled key weight f p xs := by
  by_cases h : p x <;> simp [scaled, h]

theorem total_perm (h : xs.Perm ys) : total key weight k xs = total key weight k ys :=
  ((h.filter _).map _).sum_eq

/-- Where only the factor of one family differs, the sums differ by what that family has in them. -/
theorem scaled_sub (h : ∀ j, j ≠ k → f' j = f j) :
    scaled key weight f' p xs - scaled key weight f p xs =
      part key weight p k xs * (f' k - f k) := by
  induction xs with
  | nil => simp [scaled, part, total]
  | cons x xs ih =>
    rw [scaled_cons, scaled_cons, part_cons]
    by_cases hp : p x
    · by_cases hk : key x = k
      · rw [if_pos hp, if_pos hp, if_pos ⟨hp, hk⟩, hk]
        linear_combination ih
      · rw [if_pos hp, if_pos hp, if_neg fun h => hk h.2, h _ hk]
        linear_combination ih
    · rw [if_neg hp, if_neg hp, if_neg fun h => hp h.1]
      linear_combination ih

end

/-! ## Capped families -/

section
variable {K α κ : Type*} [Field K] [LinearOrder K] [DecidableEq κ] (key : α → κ) (weight : α → K)

/-- The weights that `p` picks, under the factors that bring the families of `xs` down to their
caps. -/
def share (cap : κ → Option K) (p : α → Bool) (xs : List α) : K :=
  scaled key weight (fun k => factor (cap k) (total key weight k xs)) p xs

variable {key weight} {cap : κ → Option K} {p : α → Bool} {k : κ} {x : α} {xs ys : List α}

/-- The order of the items does not matter. -/
theorem share_perm (h : xs.Perm ys) : share key weight cap p xs = share key weight cap p ys := by
  unfold share scaled
  rw [((h.filter p).map _).sum_eq]
  simp only [total_perm h]

/-- One item more changes the factor of its own family, and no other. -/
theorem factor_cons {j : κ} (hj : j ≠ key x) :
    factor (cap j) (total key weight j (x :: xs)) = factor (cap j) (total key weight j xs) := by
  rw [total_cons, if_neg hj.symm, zero_add]

/-- What one item more does to the share of the items that were there. -/
theorem share_cons (key : α → κ) (weight : α → K) (cap : κ → Option K) (p : α → Bool) (x : α)
    (xs : List α) :
    share key weight cap p (x :: xs) - share key weight cap p xs =
      (if p x then weight x * factor (cap (key x)) (total key weight (key x) xs + weight x) else 0) +
        part key weight p (key x) xs *
          (factor (cap (key x)) (total key weight (key x) xs + weight x) -
            factor (cap (key x)) (total key weight (key x) xs)) := by
  have htotal : total key weight (key x) (x :: xs) = total key weight (key x) xs + weight x := by
    rw [total_cons, if_pos rfl, add_comm]
  rw [← htotal, ← scaled_sub (f := fun j => factor (cap j) (total key weight j xs)) fun j hj =>
    factor_cons hj, share, share, scaled_cons, add_sub_assoc]

variable [IsStrictOrderedRing K]

theorem part_nonneg (key : α → κ) (p : α → Bool) (k : κ) (hw : ∀ y ∈ xs, 0 ≤ weight y) : 0 ≤ part key weight p k xs := by
  apply List.sum_nonneg
  intro v hv
  obtain ⟨y, hy, rfl⟩ := List.mem_map.mp hv
  exact hw y (List.mem_of_mem_filter (List.mem_of_mem_filter hy))

theorem part_le_total (key : α → κ) (p : α → Bool) (k : κ) (hw : ∀ y ∈ xs, 0 ≤ weight y) :
    part key weight p k xs ≤ total key weight k xs := by
  unfold part total
  apply List.Sublist.sum_le_sum
  · exact (List.filter_sublist.filter _).map _
  · intro v hv
    obtain ⟨y, hy, rfl⟩ := List.mem_map.mp hv
    exact hw y (List.mem_of_mem_filter hy)

omit [DecidableEq κ] in
/-- Where each factor is bounded by another, up to `a`, so is the sum. -/
theorem scaled_le_mul (key : α → κ) (p : α → Bool) {f f' : κ → K} {a : K} (hw : ∀ y ∈ xs, 0 ≤ weight y)
    (hf : ∀ j, f j ≤ f' j * a) : scaled key weight f p xs ≤ scaled key weight f' p xs * a := by
  unfold scaled
  rw [← List.sum_map_mul_right]
  apply List.sum_le_sum
  intro y hy
  rw [mul_assoc]
  exact mul_le_mul_of_nonneg_left (hf _) (hw y (List.mem_of_mem_filter hy))

/-- **One item more raises the share it counts in.** -/
theorem le_share_cons (hcap : ∀ k c, cap k = some c → 0 < c) (hw : ∀ y ∈ x :: xs, 0 ≤ weight y)
    (hp : p x = true) : share key weight cap p xs ≤ share key weight cap p (x :: xs) := by
  have hrest : ∀ y ∈ xs, 0 ≤ weight y := fun y hy => hw y (List.mem_cons_of_mem x hy)
  have hdiff := share_cons key weight cap p x xs
  have hgrow := mul_factor_mono (hcap (key x)) (part_nonneg key p (key x) hrest)
    (part_le_total key p (key x) hrest) (hw x List.mem_cons_self)
  rw [if_pos hp] at hdiff
  linarith

end

end Lib.Capping
