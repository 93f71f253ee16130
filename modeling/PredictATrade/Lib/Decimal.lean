import Mathlib.Data.Rat.Floor
import Mathlib.Data.Int.Log
import Mathlib.Tactic.Linarith
import Mathlib.Tactic.Ring

/-!
# `Lib.Decimal` — decimal arithmetic with rounding

Exact decimals are rationals. What a program adds to them is rounding: to a number of decimal
places (`roundPlaces`, ties away from zero, which is both the SQL `numeric` rule and the
"half up" mode of the usual decimal libraries), to a number of significant digits (`roundSig`),
and the range check of a `numeric(precision, scale)` column (`numericColumn`).
-/

namespace Lib.Decimal

/-- Round to `k` decimal places, ties away from zero. A negative `k` rounds to a power of ten. -/
def roundPlaces (k : ℤ) (x : ℚ) : ℚ :=
  let m : ℚ := ⌊|x| * 10 ^ k + 1 / 2⌋ / 10 ^ k
  if 0 ≤ x then m else -m

/-- Round to `p` significant digits, ties away from zero. -/
def roundSig (p : ℕ) (x : ℚ) : ℚ :=
  if x = 0 then 0 else roundPlaces ((p : ℤ) - 1 - Int.log 10 |x|) x

/-- The value a `numeric(precision, scale)` column stores, or `none` on overflow. -/
def numericColumn (precision scale : ℕ) (x : ℚ) : Option ℚ :=
  let r := roundPlaces scale x
  if |r| < 10 ^ (precision - scale) then some r else none

/-- The number of decimal places of a terminating decimal. -/
def places (x : ℚ) : ℕ :=
  ((List.range (Nat.log2 x.den + 1)).find? fun k => 10 ^ k % x.den == 0).getD 0

/-- The text of a terminating decimal, without trailing zeros. -/
def text (x : ℚ) : String :=
  let k := places x
  let digits := x.num.natAbs * 10 ^ k / x.den
  let whole := (if x < 0 then "-" else "") ++ toString (digits / 10 ^ k)
  let fraction := toString (digits % 10 ^ k)
  if k = 0 then whole
  else whole ++ "." ++ String.ofList (List.replicate (k - fraction.length) '0') ++ fraction

/-- Round to the nearest integer, ties to the even one. -/
def roundHalfEven (x : ℚ) : ℤ :=
  let m := ⌊x⌋
  if x - m < 1 / 2 then m else if 1 / 2 < x - m then m + 1 else if 2 ∣ m then m else m + 1

/-- The text of `x` with exactly `k` decimals: what a `%.kf` format prints of an exact value. -/
def fixedText (k : ℕ) (x : ℚ) : String :=
  let digits := (roundHalfEven (|x| * 10 ^ k)).toNat
  let fraction := toString (digits % 10 ^ k)
  (if x < 0 then "-" else "") ++ toString (digits / 10 ^ k) ++
    (if k = 0 then "" else "." ++ String.ofList (List.replicate (k - fraction.length) '0') ++ fraction)

/-- `x` has at most `k` decimal places. -/
def HasPlaces (k : ℤ) (x : ℚ) : Prop := ∃ n : ℤ, x * 10 ^ k = n

/-! ## Rounding to decimal places -/

theorem pow_ten_pos (k : ℤ) : (0 : ℚ) < 10 ^ k := zpow_pos (by norm_num) k

theorem roundPlaces_neg {k : ℤ} {x : ℚ} (h : x ≠ 0) : roundPlaces k (-x) = -roundPlaces k x := by
  rcases lt_or_gt_of_ne h with h | h
  · have h1 : ¬ (0 ≤ x) := not_le.mpr h
    have h2 : 0 ≤ -x := by linarith
    simp only [roundPlaces, abs_neg, h1, h2, if_true, if_false, neg_neg]
  · have h1 : 0 ≤ x := h.le
    have h2 : ¬ (0 ≤ -x) := by linarith
    simp only [roundPlaces, abs_neg, h1, h2, if_true, if_false]

/-- Rounding never makes a nonnegative number negative. -/
theorem roundPlaces_nonneg {k : ℤ} {x : ℚ} (h : 0 ≤ x) : 0 ≤ roundPlaces k x := by
  have hk := pow_ten_pos k
  have hf : (0 : ℤ) ≤ ⌊|x| * 10 ^ k + 1 / 2⌋ := by
    rw [Int.floor_nonneg]
    have := mul_nonneg (abs_nonneg x) hk.le
    linarith
  have hf' : (0 : ℚ) ≤ (⌊|x| * 10 ^ k + 1 / 2⌋ : ℤ) := by exact_mod_cast hf
  simp only [roundPlaces, h, if_true]
  exact div_nonneg hf' hk.le

/-- Rounding keeps the order of nonnegative numbers. -/
theorem roundPlaces_mono_of_nonneg {k : ℤ} {x y : ℚ} (hx : 0 ≤ x) (hxy : x ≤ y) :
    roundPlaces k x ≤ roundPlaces k y := by
  have hk := pow_ten_pos k
  have hmul : x * 10 ^ k ≤ y * 10 ^ k := mul_le_mul_of_nonneg_right hxy hk.le
  have hfloor : ⌊x * 10 ^ k + 1 / 2⌋ ≤ ⌊y * 10 ^ k + 1 / 2⌋ := Int.floor_le_floor (by linarith)
  simp only [roundPlaces, hx, hx.trans hxy, if_true, abs_of_nonneg]
  exact div_le_div_of_nonneg_right (by exact_mod_cast hfloor) hk.le

/-- A nonnegative number with `k` decimal places is its own rounding. -/
theorem roundPlaces_of_nonneg {k : ℤ} {x : ℚ} (hx : 0 ≤ x) (h : HasPlaces k x) :
    roundPlaces k x = x := by
  obtain ⟨n, hn⟩ := h
  have hfl : ⌊(n : ℚ) + 1 / 2⌋ = n := by
    rw [Int.floor_eq_iff]; constructor <;> linarith
  simp only [roundPlaces, hx, if_true, abs_of_nonneg hx, hn, hfl]
  rw [← hn, mul_div_cancel_right₀ x (pow_ten_pos k).ne']

/-- A number that already has `k` decimal places is its own rounding. -/
theorem roundPlaces_of_hasPlaces {k : ℤ} {x : ℚ} (h : HasPlaces k x) : roundPlaces k x = x := by
  rcases lt_or_ge x 0 with hx | hx
  · have hneg : HasPlaces k (-x) := by
      obtain ⟨n, hn⟩ := h
      exact ⟨-n, by push_cast; rw [← hn]; ring⟩
    -- rounding is odd, so the negative case is the nonnegative one
    have := roundPlaces_of_nonneg (by linarith) hneg
    rw [roundPlaces_neg hx.ne] at this
    linarith
  · exact roundPlaces_of_nonneg hx h

/-- The result of a rounding has the places it was rounded to. -/
theorem hasPlaces_roundPlaces (k : ℤ) (x : ℚ) : HasPlaces k (roundPlaces k x) := by
  have hk := (pow_ten_pos k).ne'
  by_cases hx : 0 ≤ x
  · refine ⟨⌊|x| * 10 ^ k + 1 / 2⌋, ?_⟩
    simp only [roundPlaces, hx, if_true]
    rw [div_mul_cancel₀ _ hk]
  · refine ⟨-⌊|x| * 10 ^ k + 1 / 2⌋, ?_⟩
    simp only [roundPlaces, hx, if_false]
    push_cast
    rw [neg_mul, div_mul_cancel₀ _ hk]

/-- More decimal places are always enough. -/
theorem HasPlaces.mono {k : ℤ} {x : ℚ} (h : HasPlaces k x) (n : ℕ) : HasPlaces (k + n) x := by
  obtain ⟨m, hm⟩ := h
  refine ⟨m * 10 ^ n, ?_⟩
  rw [zpow_add₀ (by norm_num), ← mul_assoc, hm]
  push_cast
  rw [zpow_natCast]

theorem HasPlaces.add {k : ℤ} {x y : ℚ} (hx : HasPlaces k x) (hy : HasPlaces k y) :
    HasPlaces k (x + y) := by
  obtain ⟨m, hm⟩ := hx
  obtain ⟨n, hn⟩ := hy
  exact ⟨m + n, by rw [add_mul, hm, hn]; push_cast; rfl⟩

theorem HasPlaces.neg {k : ℤ} {x : ℚ} (hx : HasPlaces k x) : HasPlaces k (-x) := by
  obtain ⟨m, hm⟩ := hx
  exact ⟨-m, by rw [neg_mul, hm]; push_cast; rfl⟩

theorem HasPlaces.zero (k : ℤ) : HasPlaces k 0 := ⟨0, by simp⟩

/-- Sums of decimals need no more places than their terms. -/
theorem HasPlaces.sum {k : ℤ} {l : List ℚ} (h : ∀ x ∈ l, HasPlaces k x) : HasPlaces k l.sum := by
  induction l with
  | nil => exact HasPlaces.zero k
  | cons x l ih =>
      rw [List.sum_cons]
      have hrest : HasPlaces k l.sum := ih fun y hy => h y (List.mem_cons_of_mem x hy)
      exact (h x List.mem_cons_self).add hrest

/-! ## Rounding to significant digits -/

/-- Rounding to `p` digits does not take a number below a power of ten that it reaches. -/
theorem zpow_le_roundSig {p : ℕ} (hp : 1 ≤ p) {k : ℤ} {x : ℚ} (h : 10 ^ k ≤ x) :
    10 ^ k ≤ roundSig p x := by
  have hx : 0 < x := lt_of_lt_of_le (pow_ten_pos k) h
  have hlog : (10 : ℚ) ^ Int.log 10 x ≤ x := Int.zpow_log_le_self (by norm_num) hx
  have hk : k ≤ Int.log 10 x := (Int.zpow_le_iff_le_log (by norm_num) hx).mp h
  set m : ℤ := (p : ℤ) - 1 - Int.log 10 x with hm
  have hpos := pow_ten_pos m
  have heq : (10 : ℚ) ^ Int.log 10 x * 10 ^ m = ((10 ^ (p - 1) : ℕ) : ℚ) := by
    rw [← zpow_add₀ (by norm_num), hm]
    push_cast
    rw [← zpow_natCast]
    congr 1
    omega
  -- scaled by `10 ^ m`, the number has its `p` digits before the point
  have hscaled : ((10 ^ (p - 1) : ℕ) : ℚ) ≤ x * 10 ^ m := by
    rw [← heq]
    exact mul_le_mul_of_nonneg_right hlog hpos.le
  have hfloor : ((10 ^ (p - 1) : ℕ) : ℤ) ≤ ⌊x * 10 ^ m + 1 / 2⌋ := by
    apply Int.le_floor.mpr
    push_cast
    push_cast at hscaled
    linarith
  have hfloor' : ((10 ^ (p - 1) : ℕ) : ℚ) ≤ (⌊x * 10 ^ m + 1 / 2⌋ : ℤ) := by exact_mod_cast hfloor
  have hle : (10 : ℚ) ^ k ≤ 10 ^ Int.log 10 x := zpow_le_zpow_right₀ (by norm_num) hk
  simp only [roundSig, hx.ne', if_false, roundPlaces, abs_of_pos hx, hx.le, if_true]
  rw [← hm, le_div_iff₀ hpos]
  calc (10 : ℚ) ^ k * 10 ^ m ≤ 10 ^ Int.log 10 x * 10 ^ m := mul_le_mul_of_nonneg_right hle hpos.le
    _ = ((10 ^ (p - 1) : ℕ) : ℚ) := heq
    _ ≤ _ := hfloor'

/-- Rounding to significant digits does not take a positive number beyond a power of ten above
it. -/
theorem roundSig_le_zpow {p : ℕ} (hp : 1 ≤ p) {k : ℤ} {x : ℚ} (hx : 0 < x) (h : x < 10 ^ k) :
    roundSig p x ≤ 10 ^ k := by
  have hlog : Int.log 10 x < k := (Int.lt_zpow_iff_log_lt (by norm_num) hx).mp h
  -- the power has the places that the number is rounded to
  have hplaces : HasPlaces ((p : ℤ) - 1 - Int.log 10 x) (10 ^ k) := by
    obtain ⟨n, hn⟩ := Int.eq_ofNat_of_zero_le (a := k + ((p : ℤ) - 1 - Int.log 10 x)) (by omega)
    refine ⟨10 ^ n, ?_⟩
    rw [← zpow_add₀ (by norm_num), hn]
    norm_cast
  simp only [roundSig, hx.ne', if_false, abs_of_pos hx]
  rw [← roundPlaces_of_hasPlaces hplaces]
  exact roundPlaces_mono_of_nonneg hx.le h.le

/-- Rounding to significant digits keeps the order of positive numbers. -/
theorem roundSig_mono_of_pos {p : ℕ} (hp : 1 ≤ p) {x y : ℚ} (hx : 0 < x) (hxy : x ≤ y) :
    roundSig p x ≤ roundSig p y := by
  have hy : 0 < y := hx.trans_le hxy
  rcases (Int.log_mono_right (b := 10) hx hxy).lt_or_eq with hlt | heq
  · -- a power of ten lies between the two
    have hbelow : x < 10 ^ (Int.log 10 x + 1) := Int.lt_zpow_succ_log_self (by norm_num) x
    have habove : (10 : ℚ) ^ (Int.log 10 x + 1) ≤ y :=
      (Int.zpow_le_iff_le_log (by norm_num) hy).mpr hlt
    exact (roundSig_le_zpow hp hx hbelow).trans (zpow_le_roundSig hp habove)
  · simp only [roundSig, hx.ne', hy.ne', if_false, abs_of_pos hx, abs_of_pos hy, heq]
    exact roundPlaces_mono_of_nonneg hx.le hxy

end Lib.Decimal
