import Mathlib.Algebra.Order.Field.Basic
import Mathlib.Order.Monotone.Basic
import Mathlib.Tactic.Linarith

/-!
# `Lib.Interpolation` — piecewise linear functions over knots

A function is given by knots `(x, p)`: constant before the first and behind the last one, linear between
neighbours. Between them the first knot that is not before `x` is the one that counts, so a knot that lies
before an earlier one counts for nothing.

`interpolate_mono`: where the values of the knots never decrease, the function never does, in whatever
order the knots lie. `interpolate_knot`: where the knots lie in order, the function goes through them.
-/

namespace Lib.Interpolation

variable {K : Type*} [LinearOrder K] {k k' : K × K} {ks : List (K × K)} {x y : K}

/-- The values never decrease. -/
def Rising (k : K × K) (ks : List (K × K)) : Prop := (k :: ks).IsChain (·.2 ≤ ·.2)

theorem Rising.tail (h : Rising k (k' :: ks)) : Rising k' ks := (List.isChain_cons_cons.mp h).2

theorem Rising.le_last (h : Rising k ks) : k.2 ≤ (ks.getLastD k).2 := by
  induction ks generalizing k with
  | nil => exact le_rfl
  | cons k' ks ih =>
      rw [List.getLastD_cons]
      exact (List.isChain_cons_cons.mp h).1.trans (ih h.tail)

variable [Field K]

/-- The line through two knots. -/
def line (k k' : K × K) (x : K) : K := k.2 + (x - k.1) / (k'.1 - k.1) * (k'.2 - k.2)

/-- From a knot on: the line to the first of the knots behind it that is not before `x`. -/
def walk : K × K → List (K × K) → K → K
  | k, [], _ => k.2
  | k, k' :: ks, x => if x ≤ k'.1 then if k'.1 = k.1 then k.2 else line k k' x else walk k' ks x

/-- The function with these knots. -/
def interpolate (k : K × K) (ks : List (K × K)) (x : K) : K :=
  if x ≤ k.1 then k.2
  else if (ks.getLastD k).1 ≤ x then (ks.getLastD k).2
  else walk k ks x

section
variable [IsStrictOrderedRing K]

theorem line_le (hp : k.2 ≤ k'.2) (hx : k.1 < x) (hx' : x ≤ k'.1) :
    k.2 ≤ line k k' x ∧ line k k' x ≤ k'.2 := by
  have hpos : 0 < k'.1 - k.1 := by linarith
  have hrise : 0 ≤ k'.2 - k.2 := by linarith
  have ht : 0 ≤ (x - k.1) / (k'.1 - k.1) := div_nonneg (by linarith) hpos.le
  have ht' : (x - k.1) / (k'.1 - k.1) ≤ 1 := by
    rw [div_le_one hpos]
    linarith
  have hlow := mul_nonneg ht hrise
  have hhigh := mul_le_mul_of_nonneg_right ht' hrise
  unfold line
  constructor <;> linarith

theorem line_mono (hp : k.2 ≤ k'.2) (hk : k.1 < k'.1) (hxy : x ≤ y) :
    line k k' x ≤ line k k' y := by
  have hpos : 0 < k'.1 - k.1 := by linarith
  have ht : (x - k.1) / (k'.1 - k.1) ≤ (y - k.1) / (k'.1 - k.1) := by
    apply div_le_div_of_nonneg_right _ hpos.le
    linarith
  have hmul := mul_le_mul_of_nonneg_right ht (sub_nonneg.mpr hp)
  unfold line
  linarith

/-- The function lies between the value of the knot and the last one. -/
theorem walk_le (h : Rising k ks) (hx : k.1 < x) :
    k.2 ≤ walk k ks x ∧ walk k ks x ≤ (ks.getLastD k).2 := by
  induction ks generalizing k with
  | nil => exact ⟨le_rfl, le_rfl⟩
  | cons k' ks ih =>
      have hp : k.2 ≤ k'.2 := (List.isChain_cons_cons.mp h).1
      have hlast := h.tail.le_last
      rw [List.getLastD_cons]
      unfold walk
      split
      · next hle =>
          rw [if_neg (by linarith : ¬k'.1 = k.1)]
          obtain ⟨hlow, hhigh⟩ := line_le hp hx hle
          exact ⟨hlow, hhigh.trans hlast⟩
      · next hgt =>
          obtain ⟨hlow, hhigh⟩ := ih h.tail (not_le.mp hgt)
          exact ⟨hp.trans hlow, hhigh⟩

theorem walk_mono (h : Rising k ks) (hx : k.1 < x) (hxy : x ≤ y) : walk k ks x ≤ walk k ks y := by
  induction ks generalizing k with
  | nil => exact le_rfl
  | cons k' ks ih =>
      have hp : k.2 ≤ k'.2 := (List.isChain_cons_cons.mp h).1
      by_cases hx' : x ≤ k'.1
      · have hne : k'.1 ≠ k.1 := by linarith
        by_cases hy' : y ≤ k'.1
        · simp only [walk, if_pos hx', if_pos hy', if_neg hne]
          exact line_mono hp (hx.trans_le hx') hxy
        · -- between them lies the knot
          simp only [walk, if_pos hx', if_neg hy', if_neg hne]
          exact (line_le hp hx hx').2.trans (walk_le h.tail (not_le.mp hy')).1
      · have hy' : ¬y ≤ k'.1 := fun hy => hx' (hxy.trans hy)
        simp only [walk, if_neg hx', if_neg hy']
        exact ih h.tail (not_le.mp hx')

theorem interpolate_mono (h : Rising k ks) : Monotone (interpolate k ks) := by
  intro x y hxy
  unfold interpolate
  by_cases hx : x ≤ k.1
  · rw [if_pos hx]
    by_cases hy : y ≤ k.1
    · rw [if_pos hy]
    · rw [if_neg hy]
      split
      · exact h.le_last
      · exact (walk_le h (not_le.mp hy)).1
  · have hy : ¬y ≤ k.1 := fun hy => hx (hxy.trans hy)
    rw [if_neg hx, if_neg hy]
    by_cases hlast : (ks.getLastD k).1 ≤ x
    · rw [if_pos hlast, if_pos (hlast.trans hxy)]
    · rw [if_neg hlast]
      split
      · exact (walk_le h (not_le.mp hx)).2
      · exact walk_mono h (not_le.mp hx) hxy

/-! ## Through the knots -/

/-- The knots lie in order, no two at one place. -/
def Ascending (k : K × K) (ks : List (K × K)) : Prop := (k :: ks).Pairwise (·.1 < ·.1)

omit [Field K] [IsStrictOrderedRing K] in
theorem Ascending.tail (h : Ascending k (k' :: ks)) : Ascending k' ks := (List.pairwise_cons.mp h).2

omit [Field K] [IsStrictOrderedRing K] in
theorem Ascending.lt (h : Ascending k ks) {q : K × K} (hq : q ∈ ks) : k.1 < q.1 :=
  (List.pairwise_cons.mp h).1 q hq

omit [Field K] [IsStrictOrderedRing K] in
/-- Nothing lies behind the last knot. -/
theorem Ascending.eq_last (h : Ascending k ks) {q : K × K} (hq : q ∈ k :: ks)
    (hle : (ks.getLastD k).1 ≤ q.1) : ks.getLastD k = q := by
  induction ks generalizing k with
  | nil => exact (List.mem_singleton.mp hq).symm
  | cons k' ks ih =>
      rw [List.getLastD_cons] at hle ⊢
      rcases List.mem_cons.mp hq with rfl | hq
      · have hlast : ks.getLastD k' ∈ k' :: ks := by
          cases ks with
          | nil => exact List.mem_singleton.mpr rfl
          | cons k'' ks =>
              have hmem := List.getLast_mem (List.cons_ne_nil k'' ks)
              rw [List.getLast_eq_getLastD] at hmem
              rw [List.getLastD_cons]
              exact List.mem_cons_of_mem k' hmem
        exact absurd (h.lt hlast) (not_lt.mpr hle)
      · exact ih h.tail hq hle

theorem walk_knot (h : Ascending k ks) {q : K × K} (hq : q ∈ ks) : walk k ks q.1 = q.2 := by
  induction ks generalizing k with
  | nil => cases hq
  | cons k' ks ih =>
      have hk : k.1 < k'.1 := h.lt List.mem_cons_self
      unfold walk
      rcases List.mem_cons.mp hq with rfl | hq
      · have hne : q.1 - k.1 ≠ 0 := (sub_pos.mpr hk).ne'
        rw [if_pos le_rfl, if_neg hk.ne']
        unfold line
        rw [div_self hne, one_mul, add_sub_cancel]
      · rw [if_neg (not_le.mpr (h.tail.lt hq))]
        exact ih h.tail hq

theorem interpolate_knot (h : Ascending k ks) {q : K × K} (hq : q ∈ k :: ks) :
    interpolate k ks q.1 = q.2 := by
  unfold interpolate
  rcases List.mem_cons.mp hq with rfl | hks
  · rw [if_pos le_rfl]
  · rw [if_neg (not_le.mpr (h.lt hks))]
    by_cases hlast : (ks.getLastD k).1 ≤ q.1
    · rw [if_pos hlast, h.eq_last hq hlast]
    · rw [if_neg hlast]
      exact walk_knot h hks

end

end Lib.Interpolation
