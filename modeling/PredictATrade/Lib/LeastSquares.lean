import Mathlib.Algebra.BigOperators.Field
import Mathlib.Algebra.Order.BigOperators.Ring.Finset
import Mathlib.Tactic.FieldSimp
import Mathlib.Tactic.Linarith
import Mathlib.Tactic.Ring

/-!
# `Lib.LeastSquares` — the line through points with the least squared distances

Points `(x i, y i)` are given for the `i` of a finite set. `IsLine`: no line leaves a smaller sum of squares
than `a + b * x`. Where the `x` are not all the same there is one such line, through the means and with the
slope `spread x y / spread x x` (`isLine_iff`); what it leaves is `spread y y` less
`spread x y ^ 2 / spread x x` (`IsLine.residual`).
-/

namespace Lib.LeastSquares
open Finset

variable {ι K : Type*} [Field K] (s : Finset ι) (x y : ι → K)

/-- The mean of the values. -/
def mean (y : ι → K) : K := (∑ i ∈ s, y i) / s.card

/-- The sum of the products of the distances to the means. -/
def spread : K := ∑ i ∈ s, (x i - mean s x) * (y i - mean s y)

/-- What the line leaves. -/
def residual (a b : K) : K := ∑ i ∈ s, (y i - (a + b * x i)) ^ 2

/-- The part of the spread of `y` that a line accounts for, zero where there is none. -/
def determination [DecidableEq K] (a b : K) : K :=
  if spread s y y = 0 then 0 else 1 - residual s x y a b / spread s y y

section
variable {s x y} (hcard : (s.card : K) ≠ 0)
include hcard

theorem sum_sub_mean (y : ι → K) : ∑ i ∈ s, (y i - mean s y) = 0 := by
  unfold mean
  rw [Finset.sum_sub_distrib, Finset.sum_const, nsmul_eq_mul, mul_div_cancel₀ _ hcard, sub_self]

theorem spread_eq :
    spread s x y = ∑ i ∈ s, x i * y i - (∑ i ∈ s, x i) * (∑ i ∈ s, y i) / s.card := by
  have hexpand : spread s x y =
      ∑ i ∈ s, x i * y i - mean s y * ∑ i ∈ s, x i - mean s x * ∑ i ∈ s, (y i - mean s y) := by
    unfold spread
    rw [Finset.mul_sum, Finset.mul_sum, ← Finset.sum_sub_distrib, ← Finset.sum_sub_distrib]
    apply Finset.sum_congr rfl
    intro i _
    ring
  rw [hexpand, sum_sub_mean hcard]
  unfold mean
  ring

/-- Only the distances on one side are needed. -/
theorem spread_eq_sum : spread s x y = ∑ i ∈ s, (x i - mean s x) * y i := by
  have hzero : ∑ i ∈ s, (x i - mean s x) * mean s y = 0 := by
    rw [← Finset.sum_mul, sum_sub_mean hcard, zero_mul]
  rw [← sub_zero (∑ i ∈ s, (x i - mean s x) * y i), ← hzero, ← Finset.sum_sub_distrib]
  apply Finset.sum_congr rfl
  intro i _
  exact mul_sub _ _ _

/-- The sum of squares by what the slope and the level of the line contribute. -/
theorem residual_eq (hx : spread s x x ≠ 0) (a b : K) :
    residual s x y a b = spread s y y - spread s x y ^ 2 / spread s x x +
      spread s x x * (b - spread s x y / spread s x x) ^ 2 +
        s.card * (mean s y - (a + b * mean s x)) ^ 2 := by
  set c := mean s y - (a + b * mean s x) with hc
  have hsum : residual s x y a b = spread s y y + b ^ 2 * spread s x x - 2 * b * spread s x y +
      2 * c * ∑ i ∈ s, (y i - mean s y) - 2 * b * c * ∑ i ∈ s, (x i - mean s x) + ∑ i ∈ s, c ^ 2 := by
    unfold residual spread
    simp only [Finset.mul_sum]
    rw [← Finset.sum_add_distrib, ← Finset.sum_sub_distrib, ← Finset.sum_add_distrib,
      ← Finset.sum_sub_distrib, ← Finset.sum_add_distrib]
    apply Finset.sum_congr rfl
    intro i _
    rw [hc]
    ring
  rw [hsum, sum_sub_mean hcard, sum_sub_mean hcard, Finset.sum_const, nsmul_eq_mul]
  field_simp
  ring

end

section
variable [LinearOrder K] [IsStrictOrderedRing K] {a b : K}

theorem spread_self_nonneg : 0 ≤ spread s y y := Finset.sum_nonneg fun _ _ => mul_self_nonneg _

/-- There is no spread when all values are the mean. -/
theorem spread_self_eq_zero_iff : spread s y y = 0 ↔ ∀ i ∈ s, y i = mean s y := by
  unfold spread
  rw [Finset.sum_eq_zero_iff_of_nonneg fun _ _ => mul_self_nonneg _]
  exact forall₂_congr fun i _ => by rw [mul_self_eq_zero, sub_eq_zero]

/-- Against values that are all the same nothing spreads. -/
theorem spread_eq_zero (h : spread s y y = 0) : spread s x y = 0 := by
  apply Finset.sum_eq_zero
  intro i hi
  rw [(spread_self_eq_zero_iff s y).mp h i hi, sub_self, mul_zero]

/-- No line leaves less. -/
def IsLine (a b : K) : Prop := ∀ a' b', residual s x y a b ≤ residual s x y a' b'

variable {s x y} (hcard : (s.card : K) ≠ 0) (hx : spread s x x ≠ 0)
include hcard hx

/-- **The line of least squares.** -/
theorem isLine_iff : IsLine s x y a b ↔
    b = spread s x y / spread s x x ∧ a = mean s y - b * mean s x := by
  have hxpos : 0 < spread s x x := lt_of_le_of_ne (spread_self_nonneg s x) hx.symm
  have hcpos : (0 : K) < s.card := lt_of_le_of_ne (Nat.cast_nonneg _) hcard.symm
  constructor
  · intro h
    have hle := h (mean s y - spread s x y / spread s x x * mean s x) (spread s x y / spread s x x)
    rw [residual_eq hcard hx, residual_eq hcard hx] at hle
    have hslope := mul_nonneg hxpos.le (sq_nonneg (b - spread s x y / spread s x x))
    have hlevel := mul_nonneg hcpos.le (sq_nonneg (mean s y - (a + b * mean s x)))
    simp only [sub_self, sub_add_cancel, ne_eq, OfNat.ofNat_ne_zero, not_false_eq_true, zero_pow,
      mul_zero, add_zero] at hle
    have hb : spread s x x * (b - spread s x y / spread s x x) ^ 2 = 0 := by linarith
    have ha : (s.card : K) * (mean s y - (a + b * mean s x)) ^ 2 = 0 := by linarith
    have hb := pow_eq_zero_iff two_ne_zero |>.mp ((mul_eq_zero.mp hb).resolve_left hx)
    have ha := pow_eq_zero_iff two_ne_zero |>.mp ((mul_eq_zero.mp ha).resolve_left hcard)
    exact ⟨sub_eq_zero.mp hb, by linarith⟩
  · rintro ⟨hb, rfl⟩ a' b'
    rw [residual_eq hcard hx, residual_eq hcard hx, hb]
    have hslope := mul_nonneg hxpos.le (sq_nonneg (b' - spread s x y / spread s x x))
    have hlevel := mul_nonneg hcpos.le (sq_nonneg (mean s y - (a' + b' * mean s x)))
    simp only [sub_self, sub_add_cancel, ne_eq, OfNat.ofNat_ne_zero, not_false_eq_true, zero_pow,
      mul_zero, add_zero]
    linarith

/-- What the line leaves. -/
theorem IsLine.residual (h : IsLine s x y a b) :
    LeastSquares.residual s x y a b = spread s y y - spread s x y ^ 2 / spread s x x := by
  obtain ⟨hb, rfl⟩ := (isLine_iff hcard hx).mp h
  rw [residual_eq hcard hx, hb]
  ring

/-- The determination of the line, without it. -/
theorem IsLine.determination (h : IsLine s x y a b) : LeastSquares.determination s x y a b =
    if spread s y y = 0 then 0 else spread s x y ^ 2 / (spread s x x * spread s y y) := by
  unfold LeastSquares.determination
  rw [h.residual hcard hx]
  split
  · rfl
  · next hy =>
    field_simp
    ring

/-- What a line leaves is not negative, so it accounts for no more than all. -/
theorem spread_sq_le : spread s x y ^ 2 ≤ spread s x x * spread s y y := by
  have hxpos : 0 < spread s x x := lt_of_le_of_ne (spread_self_nonneg s x) hx.symm
  have hline := ((isLine_iff (y := y) hcard hx).mpr ⟨rfl, rfl⟩).residual hcard hx
  have hnonneg : 0 ≤ LeastSquares.residual s x y
      (mean s y - spread s x y / spread s x x * mean s x) (spread s x y / spread s x x) :=
    Finset.sum_nonneg fun _ _ => sq_nonneg _
  rw [hline, sub_nonneg, div_le_iff₀ hxpos] at hnonneg
  linarith

end

end Lib.LeastSquares
