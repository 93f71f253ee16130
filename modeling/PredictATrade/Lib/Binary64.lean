import Mathlib.Data.List.Induction
import PredictATrade.Lib.Grid

/-!
# `Lib.Binary64` — rounding to double precision

`fl x` is the double nearest to a rational, the even one of two: the number with 53 binary digits, fewer once
the last one would stand below `2 ^ (-1074)`. An operation of a program that computes in double precision is the
exact operation followed by `fl`. The exponent is not bounded above: beyond `2 ^ 1024` the format has an infinity
where `fl` has a number.

What a proof needs of it is little.

* `fl_le`, `le_fl`: rounding does not pass a number of the grid on which the result lies. Everything below follows.
* `fl_mono`: it keeps the order.
* `fl_fl`: a double is its own rounding.
* `fl_neg`, `fl_nonneg`, `fl_pos_iff`: it keeps signs, save for what it takes to zero.
* `abs_fl_sub_le`: above `2 ^ (-1022)` it is off by at most one part in `2 ^ 53`.
* `sum_le_flSum`, `flSum_le_sum`: a sum that is rounded at each term is off by at most a factor `spread` for each.
* `fl_shortest`: the shortest decimal for a double, as it is printed, rounds to it.

Nothing below names a particular program.
-/

namespace Lib.Binary64

open Lib.Decimal (roundHalfEven)

/-! ## Rounding to an integer -/

theorem roundHalfEven_intCast (n : ℤ) : roundHalfEven n = n := by
  unfold roundHalfEven
  simp

theorem roundHalfEven_bounds (x : ℚ) :
    x - 1 / 2 ≤ roundHalfEven x ∧ (roundHalfEven x : ℚ) ≤ x + 1 / 2 := by
  have hle := Int.floor_le x
  have hlt := Int.lt_floor_add_one x
  unfold roundHalfEven
  dsimp only
  split_ifs <;> push_cast <;> constructor <;> linarith

theorem roundHalfEven_mono {x y : ℚ} (h : x ≤ y) : roundHalfEven x ≤ roundHalfEven y := by
  by_contra hlt
  obtain ⟨hx, -⟩ := roundHalfEven_bounds x
  obtain ⟨-, hx'⟩ := roundHalfEven_bounds x
  obtain ⟨hy, -⟩ := roundHalfEven_bounds y
  have hstep : (roundHalfEven y : ℚ) + 1 ≤ roundHalfEven x := by exact_mod_cast not_le.mp hlt
  -- only a tie leaves room for this, and then the two numbers are one
  obtain rfl : x = y := by linarith
  exact hlt le_rfl

theorem roundHalfEven_neg (x : ℚ) : roundHalfEven (-x) = -roundHalfEven x := by
  have hle := Int.floor_le x
  have hlt := Int.lt_floor_add_one x
  by_cases hint : x = ⌊x⌋
  · rw [hint, ← Int.cast_neg, roundHalfEven_intCast, roundHalfEven_intCast]
  · have hpos : (⌊x⌋ : ℚ) < x := lt_of_le_of_ne hle (Ne.symm hint)
    have hfloor : ⌊-x⌋ = -⌊x⌋ - 1 := by
      rw [Int.floor_eq_iff]
      push_cast
      constructor <;> linarith
    unfold roundHalfEven
    dsimp only
    rw [hfloor]
    push_cast
    split_ifs <;> first | omega | (exfalso; linarith)

/-! ## The grid -/

/-- The exponent of the last binary place of the doubles around `x`. -/
def lastPlace (x : ℚ) : ℤ := max (Int.log 2 |x| - 52) (-1074)

/-- The nearest double. -/
def fl (x : ℚ) : ℚ := roundHalfEven (x / 2 ^ lastPlace x) * 2 ^ lastPlace x

/-- A multiple of the place `e`. -/
abbrev OnGrid (e : ℤ) (v : ℚ) : Prop := Grid.OnGrid (2 ^ e) v

/-- A number that is a double. -/
def Double (v : ℚ) : Prop := fl v = v

instance (v : ℚ) : Decidable (Double v) := inferInstanceAs (Decidable (_ = _))

variable {x y v : ℚ} {e e' : ℤ}

theorem two_zpow_pos (e : ℤ) : (0 : ℚ) < 2 ^ e := zpow_pos (by norm_num) e

theorem OnGrid.mono (h : OnGrid e' v) (he : e ≤ e') : OnGrid e v := by
  obtain ⟨n, rfl⟩ := h
  obtain ⟨k, rfl⟩ := Int.le.dest he
  refine ⟨n * 2 ^ k, ?_⟩
  rw [zpow_add₀ (by norm_num), zpow_natCast]
  push_cast
  ring

theorem onGrid_zero (e : ℤ) : OnGrid e 0 := ⟨0, by simp⟩

theorem onGrid_zpow (h : e ≤ e') : OnGrid e (2 ^ e') := OnGrid.mono ⟨1, by simp⟩ h

theorem OnGrid.sub (hx : OnGrid e x) (hy : OnGrid e y) : OnGrid e (x - y) := by
  obtain ⟨m, rfl⟩ := hx
  obtain ⟨n, rfl⟩ := hy
  exact ⟨m - n, by push_cast; ring⟩

theorem onGrid_fl (x : ℚ) : OnGrid (lastPlace x) (fl x) := Grid.onGrid_mul _ _

/-- Rounding does not pass a number of the grid from below, -/
theorem fl_le (h : x ≤ v) (hv : OnGrid (lastPlace x) v) : fl x ≤ v := by
  obtain ⟨n, rfl⟩ := hv
  have hpos := two_zpow_pos (lastPlace x)
  refine mul_le_mul_of_nonneg_right ?_ hpos.le
  have hround := roundHalfEven_mono ((div_le_iff₀ hpos).mpr h)
  rw [roundHalfEven_intCast] at hround
  exact_mod_cast hround

/-- nor from above. -/
theorem le_fl (h : v ≤ x) (hv : OnGrid (lastPlace x) v) : v ≤ fl x := by
  obtain ⟨n, rfl⟩ := hv
  have hpos := two_zpow_pos (lastPlace x)
  refine mul_le_mul_of_nonneg_right ?_ hpos.le
  have hround := roundHalfEven_mono ((le_div_iff₀ hpos).mpr h)
  rw [roundHalfEven_intCast] at hround
  exact_mod_cast hround

/-! ## Signs -/

@[simp] theorem lastPlace_neg (x : ℚ) : lastPlace (-x) = lastPlace x := by
  unfold lastPlace
  rw [abs_neg]

@[simp] theorem fl_neg (x : ℚ) : fl (-x) = -fl x := by
  unfold fl
  rw [lastPlace_neg, neg_div, roundHalfEven_neg]
  push_cast
  ring

@[simp] theorem fl_zero : fl 0 = 0 := by
  unfold fl
  rw [zero_div, ← Int.cast_zero, roundHalfEven_intCast]
  simp

theorem fl_nonneg (h : 0 ≤ x) : 0 ≤ fl x := le_fl h (onGrid_zero _)

theorem fl_nonpos (h : x ≤ 0) : fl x ≤ 0 := fl_le h (onGrid_zero _)

theorem pos_of_fl_pos (h : 0 < fl x) : 0 < x := by
  by_contra hx
  exact absurd h (not_lt.mpr (fl_nonpos (not_lt.mp hx)))

/-! ## Order -/

theorem lastPlace_mono_of_pos (hx : 0 < x) (h : x ≤ y) : lastPlace x ≤ lastPlace y := by
  unfold lastPlace
  rw [abs_of_pos hx, abs_of_pos (hx.trans_le h)]
  have hlog := Int.log_mono_right (b := 2) hx h
  omega

theorem fl_mono_of_pos (hx : 0 < x) (h : x ≤ y) : fl x ≤ fl y := by
  have hy := hx.trans_le h
  rcases (lastPlace_mono_of_pos hx h).eq_or_lt with heq | hlt
  · -- on one grid
    have hpos := two_zpow_pos (lastPlace x)
    unfold fl
    rw [← heq]
    refine mul_le_mul_of_nonneg_right ?_ hpos.le
    exact_mod_cast roundHalfEven_mono (div_le_div_of_nonneg_right h hpos.le)
  · -- the power of two at which the coarser grid begins lies between the two
    have hpower : Int.log 2 x < Int.log 2 y ∧ lastPlace y = Int.log 2 y - 52 := by
      unfold lastPlace at hlt ⊢
      rw [abs_of_pos hx, abs_of_pos hy] at hlt
      rw [abs_of_pos hy]
      omega
    have hbelow : x < 2 ^ Int.log 2 y := by
      have hcast := (Int.lt_zpow_iff_log_lt (b := 2) (by norm_num) hx).mpr hpower.1
      exact_mod_cast hcast
    have habove : (2 : ℚ) ^ Int.log 2 y ≤ y := by
      have hcast := Int.zpow_log_le_self (b := 2) (by norm_num) hy
      exact_mod_cast hcast
    calc fl x ≤ 2 ^ Int.log 2 y := fl_le hbelow.le (onGrid_zpow (by omega))
      _ ≤ fl y := le_fl habove (onGrid_zpow (by omega))

/-- Rounding keeps the order. -/
theorem fl_mono (h : x ≤ y) : fl x ≤ fl y := by
  rcases lt_or_ge 0 x with hx | hx
  · exact fl_mono_of_pos hx h
  · rcases lt_or_ge y 0 with hy | hy
    · have hneg := fl_mono_of_pos (x := -y) (y := -x) (by linarith) (by linarith)
      rw [fl_neg, fl_neg] at hneg
      linarith
    · exact (fl_nonpos hx).trans (fl_nonneg hy)

theorem lt_of_fl_lt (h : fl x < fl y) : x < y := by
  by_contra hle
  exact absurd (fl_mono (not_lt.mp hle)) (not_le.mpr h)

/-! ## Doubles -/

/-- A number on its own grid is a double. -/
theorem double_of_onGrid (h : OnGrid (lastPlace v) v) : Double v :=
  le_antisymm (fl_le le_rfl h) (le_fl le_rfl h)

theorem log_le_of_le_zpow (hv : 0 < v) (h : v ≤ 2 ^ e) : Int.log 2 v ≤ e := by
  have hlog := Int.log_mono_right (b := 2) hv h
  have hpower : Int.log 2 ((2 : ℚ) ^ e) = e := by
    exact_mod_cast Int.log_zpow (R := ℚ) (b := 2) (by norm_num) e
  rwa [hpower] at hlog

theorem double_fl_of_pos (hx : 0 < x) : Double (fl x) := by
  rcases (fl_nonneg hx.le).eq_or_lt with h0 | hpos
  · rw [← h0]
    exact fl_zero
  · have hgrid := onGrid_fl x
    have hbelow : x < 2 ^ (Int.log 2 x + 1) := by
      have hcast := Int.lt_zpow_succ_log_self (b := 2) (by norm_num) x
      exact_mod_cast hcast
    rcases le_or_gt (lastPlace x) (Int.log 2 x + 1) with hplace | hplace
    · -- at most the next power of two, at which the coarser grid begins
      rcases (fl_le hbelow.le (onGrid_zpow hplace)).lt_or_eq with hlt | heq
      · refine double_of_onGrid (hgrid.mono ?_)
        have hlog : Int.log 2 (fl x) < Int.log 2 x + 1 := by
          refine (Int.lt_zpow_iff_log_lt (b := 2) (by norm_num) hpos).mp ?_
          exact_mod_cast hlt
        unfold lastPlace
        rw [abs_of_pos hpos, abs_of_pos hx]
        omega
      · have hlog := log_le_of_le_zpow hpos heq.le
        apply double_of_onGrid
        rw [heq]
        refine onGrid_zpow ?_
        rw [← heq]
        unfold lastPlace at hplace ⊢
        rw [abs_of_pos hx] at hplace
        rw [abs_of_pos hpos]
        omega
    · -- below the least double
      have hlast : lastPlace x = -1074 := by
        unfold lastPlace at hplace ⊢
        rw [abs_of_pos hx] at hplace ⊢
        omega
      have hle : fl x ≤ 2 ^ (-1074 : ℤ) := by
        refine fl_le (hbelow.le.trans ?_) (onGrid_zpow hlast.le)
        exact zpow_le_zpow_right₀ (by norm_num) (by omega)
      have hlog := log_le_of_le_zpow hpos hle
      refine double_of_onGrid (hgrid.mono ?_)
      rw [hlast]
      unfold lastPlace
      rw [abs_of_pos hpos]
      omega

/-- What has been rounded is a double. -/
theorem double_fl (x : ℚ) : Double (fl x) := by
  rcases lt_trichotomy x 0 with hx | rfl | hx
  · have hneg := double_fl_of_pos (x := -x) (by linarith)
    unfold Double at hneg ⊢
    rw [fl_neg, fl_neg] at hneg
    exact neg_injective hneg
  · unfold Double
    rw [fl_zero, fl_zero]
  · exact double_fl_of_pos hx

theorem double_zpow (h : -1074 ≤ e) : Double (2 ^ e) := by
  refine double_of_onGrid (onGrid_zpow ?_)
  have hlog := log_le_of_le_zpow (two_zpow_pos e) le_rfl
  unfold lastPlace
  rw [abs_of_pos (two_zpow_pos e)]
  omega

/-- Every double is a multiple of the least one. -/
theorem Double.onGrid (h : Double v) : OnGrid (-1074) v := by
  have hgrid := onGrid_fl v
  rw [h] at hgrid
  exact hgrid.mono (le_max_right _ _)

/-- Rounding does not pass a double. -/
theorem Double.fl_le (hv : Double v) (h : x ≤ v) : fl x ≤ v := by
  have hmono := fl_mono h
  rwa [hv] at hmono

theorem Double.le_fl (hv : Double v) (h : v ≤ x) : v ≤ fl x := by
  have hmono := fl_mono h
  rwa [hv] at hmono

/-! ## The error -/

/-- **The error.** Above the least normal number it is at most one part in `2 ^ 53`. -/
theorem abs_fl_sub_le (h : 2 ^ (-1022 : ℤ) ≤ |x|) : |fl x - x| ≤ |x| / 2 ^ 53 := by
  have hx : 0 < |x| := (two_zpow_pos _).trans_le h
  have hlog : (2 : ℚ) ^ Int.log 2 |x| ≤ |x| := by
    have hcast := Int.zpow_log_le_self (b := 2) (by norm_num) hx
    exact_mod_cast hcast
  have hlast : lastPlace x = Int.log 2 |x| - 52 := by
    have hle : -1022 ≤ Int.log 2 |x| := by
      refine (Int.zpow_le_iff_le_log (b := 2) (by norm_num) hx).mp ?_
      exact_mod_cast h
    unfold lastPlace
    omega
  have hpos := two_zpow_pos (lastPlace x)
  obtain ⟨hbelow, habove⟩ := roundHalfEven_bounds (x / 2 ^ lastPlace x)
  have hself : x / 2 ^ lastPlace x * 2 ^ lastPlace x = x := div_mul_cancel₀ x hpos.ne'
  have hplace : (2 : ℚ) ^ lastPlace x * 2 ^ 52 = 2 ^ Int.log 2 |x| := by
    rw [hlast, ← zpow_natCast, ← zpow_add₀ (by norm_num)]
    congr 1
    omega
  -- half a unit in the last place
  have hhalf : |fl x - x| ≤ 2 ^ lastPlace x / 2 := by
    unfold fl
    rw [abs_le]
    constructor <;> nlinarith
  calc |fl x - x| ≤ 2 ^ lastPlace x / 2 := hhalf
    _ = 2 ^ Int.log 2 |x| / 2 ^ 53 := by rw [← hplace]; ring
    _ ≤ |x| / 2 ^ 53 := div_le_div_of_nonneg_right hlog (by norm_num)

/-- The difference of two doubles has that error however small it is: below the normal numbers it is exact. -/
theorem abs_fl_sub_sub_le (hx : Double x) (hy : Double y) :
    |fl (x - y) - (x - y)| ≤ |x - y| / 2 ^ 53 := by
  rcases le_or_gt (2 ^ (-1022 : ℤ)) |x - y| with h | h
  · exact abs_fl_sub_le h
  · have hexact : fl (x - y) = x - y := by
      rcases eq_or_ne (x - y) 0 with h0 | h0
      · rw [h0, fl_zero]
      · refine double_of_onGrid ((hx.onGrid.sub hy.onGrid).mono ?_)
        have hlog : Int.log 2 |x - y| < -1022 := by
          refine (Int.lt_zpow_iff_log_lt (b := 2) (by norm_num) (abs_pos.mpr h0)).mp ?_
          exact_mod_cast h
        unfold lastPlace
        omega
    rw [hexact, sub_self, abs_zero]
    exact div_nonneg (abs_nonneg _) (by norm_num)

/-- Doubles that differ have a difference. -/
theorem fl_sub_ne_zero (hx : Double x) (hy : Double y) (h : x ≠ y) : fl (x - y) ≠ 0 := by
  intro h0
  have herror := abs_fl_sub_sub_le hx hy
  have hpos : 0 < |x - y| := abs_pos.mpr (sub_ne_zero.mpr h)
  rw [h0, zero_sub, abs_neg] at herror
  linarith

/-- **A ratio of differences.** One that is computed to be at least `m`, not less than one, is so up to its three
roundings. -/
theorem le_div_of_computed {a b c d m : ℚ} (ha : Double a) (hb : Double b) (hc : Double c) (hd : Double d)
    (hcd : c ≠ d) (hm : 1 ≤ m) (h : m ≤ fl (|fl (a - b)| / |fl (c - d)|)) :
    (1 - 3 / 2 ^ 53) * m ≤ |a - b| / |c - d| := by
  have hnum := abs_fl_sub_sub_le ha hb
  have hden := abs_fl_sub_sub_le hc hd
  have hpos : 0 < |c - d| := abs_pos.mpr (sub_ne_zero.mpr hcd)
  have hpos' : 0 < |fl (c - d)| := abs_pos.mpr (fl_sub_ne_zero hc hd hcd)
  set q := |fl (a - b)| / |fl (c - d)| with hq
  -- a quotient that rounds to one or more is a normal number
  have hhalf : 1 / 2 ≤ q := by
    by_contra hlt
    have hdouble : Double (1 / 2) := by
      have hz := double_zpow (e := -1) (by norm_num)
      norm_num at hz ⊢
      exact hz
    have hle := hdouble.fl_le (not_le.mp hlt).le
    linarith
  have hquot : fl q ≤ q * (1 + 1 / 2 ^ 53) := by
    have hnormal : (2 : ℚ) ^ (-1022 : ℤ) ≤ |q| := by
      rw [abs_of_pos (by linarith)]
      calc (2 : ℚ) ^ (-1022 : ℤ) ≤ 2 ^ (-1 : ℤ) := zpow_le_zpow_right₀ (by norm_num) (by norm_num)
        _ = 1 / 2 := by norm_num
        _ ≤ q := hhalf
    have herror := abs_fl_sub_le hnormal
    rw [abs_of_pos (show (0 : ℚ) < q by linarith)] at herror
    have hle := (abs_le.mp herror).2
    linarith
  have hup : |fl (a - b)| ≤ |a - b| * (1 + 1 / 2 ^ 53) := by
    have htri := abs_sub_abs_le_abs_sub (fl (a - b)) (a - b)
    linarith
  have hdown : |c - d| * (1 - 1 / 2 ^ 53) ≤ |fl (c - d)| := by
    have htri := abs_sub_abs_le_abs_sub (c - d) (fl (c - d))
    rw [abs_sub_comm (c - d) (fl (c - d))] at htri
    linarith
  have hmul : q * |fl (c - d)| = |fl (a - b)| := div_mul_cancel₀ _ hpos'.ne'
  rw [le_div_iff₀ hpos]
  have hqm : m ≤ q * (1 + 1 / 2 ^ 53) := h.trans hquot
  have hqd : q * (|c - d| * (1 - 1 / 2 ^ 53)) ≤ |a - b| * (1 + 1 / 2 ^ 53) := by
    calc q * (|c - d| * (1 - 1 / 2 ^ 53)) ≤ q * |fl (c - d)| :=
          mul_le_mul_of_nonneg_left hdown (by linarith)
      _ = |fl (a - b)| := hmul
      _ ≤ _ := hup
  have hmd : m * |c - d| ≤ q * (1 + 1 / 2 ^ 53) * |c - d| := mul_le_mul_of_nonneg_right hqm hpos.le
  have hD := abs_nonneg (a - b)
  have hM : 0 ≤ m * |c - d| := by positivity
  nlinarith

/-! ## Factors of rounding -/

/-- A factor that bounds what one rounding does, either way. -/
def spread : ℚ := 1 + 1 / 2 ^ 52

theorem one_le_spread : 1 ≤ spread := by norm_num [spread]

theorem spread_pos : 0 < spread := by norm_num [spread]

/-- A number that is zero or at least the least normal number. -/
def Normal (x : ℚ) : Prop := x = 0 ∨ 2 ^ (-1022 : ℤ) ≤ x

instance (x : ℚ) : Decidable (Normal x) := inferInstanceAs (Decidable (_ ∨ _))

theorem Normal.nonneg (h : Normal x) : 0 ≤ x := by
  rcases h with rfl | h
  · exact le_rfl
  · exact (two_zpow_pos _).le.trans h

theorem le_mul_spread_of_error (hx : 0 ≤ x) (h : |y - x| ≤ x / 2 ^ 53) :
    y ≤ x * spread ∧ x ≤ y * spread := by
  obtain ⟨hbelow, habove⟩ := abs_le.mp h
  unfold spread
  constructor
  · linarith
  · nlinarith

theorem fl_spread (h : Normal x) : fl x ≤ x * spread ∧ x ≤ fl x * spread := by
  apply le_mul_spread_of_error h.nonneg
  rcases h with rfl | h
  · rw [fl_zero]
    norm_num
  · have hx : 0 < x := (two_zpow_pos _).trans_le h
    have herror := abs_fl_sub_le (h.trans_eq (abs_of_pos hx).symm)
    rwa [abs_of_pos hx] at herror

theorem fl_add_spread (hx : Double x) (hy : Double y) (hnn : 0 ≤ x + y) :
    fl (x + y) ≤ (x + y) * spread ∧ x + y ≤ fl (x + y) * spread := by
  apply le_mul_spread_of_error hnn
  have hneg : Double (-y) := by
    unfold Double at hy ⊢
    rw [fl_neg, hy]
  have herror := abs_fl_sub_sub_le hx hneg
  rwa [sub_neg_eq_add, abs_of_nonneg hnn] at herror

/-! ## Sums -/

/-- A sum, rounded after each term. -/
def flSum (xs : List ℚ) : ℚ := xs.foldl (fun s x => fl (s + x)) 0

theorem flSum_append (xs ys : List ℚ) :
    flSum (xs ++ ys) = ys.foldl (fun s x => fl (s + x)) (flSum xs) := List.foldl_append

theorem flSum_snoc (xs : List ℚ) (x : ℚ) : flSum (xs ++ [x]) = fl (flSum xs + x) := by
  rw [flSum_append]
  rfl

theorem double_flSum (xs : List ℚ) : Double (flSum xs) := by
  induction xs using List.reverseRecOn with
  | nil => exact fl_zero
  | append_singleton xs x ih =>
      rw [flSum_snoc]
      exact double_fl _

/-- **The step lemma of sums.** A sum of doubles that are not negative is off by a factor `spread` for each term. -/
theorem flSum_spread {xs : List ℚ} (hd : ∀ x ∈ xs, Double x) (hnn : ∀ x ∈ xs, 0 ≤ x) :
    0 ≤ flSum xs ∧ flSum xs ≤ xs.sum * spread ^ xs.length ∧ xs.sum ≤ flSum xs * spread ^ xs.length := by
  induction xs using List.reverseRecOn with
  | nil => simp [flSum]
  | append_singleton xs x ih =>
      have hx : Double x := hd x (by simp)
      have hx0 : 0 ≤ x := hnn x (by simp)
      obtain ⟨h0, hle, hge⟩ := ih (fun y hy => hd y (by simp [hy])) fun y hy => hnn y (by simp [hy])
      have hsum : 0 ≤ flSum xs + x := by linarith
      obtain ⟨hup, hdown⟩ := fl_add_spread (double_flSum xs) hx hsum
      have hpow : 1 ≤ spread ^ xs.length := one_le_pow₀ one_le_spread
      have hgrow : x ≤ x * spread ^ xs.length := le_mul_of_one_le_right hx0 hpow
      rw [flSum_snoc, List.sum_append, List.sum_singleton, List.length_append, List.length_singleton, pow_succ]
      refine ⟨fl_nonneg hsum, ?_, ?_⟩
      · calc fl (flSum xs + x) ≤ (flSum xs + x) * spread := hup
          _ ≤ (xs.sum * spread ^ xs.length + x * spread ^ xs.length) * spread :=
              mul_le_mul_of_nonneg_right (add_le_add hle hgrow) spread_pos.le
          _ = _ := by ring
      · calc xs.sum + x ≤ flSum xs * spread ^ xs.length + x * spread ^ xs.length := add_le_add hge hgrow
          _ = (flSum xs + x) * spread ^ xs.length := by ring
          _ ≤ fl (flSum xs + x) * spread * spread ^ xs.length :=
              mul_le_mul_of_nonneg_right hdown (by positivity)
          _ = _ := by ring

theorem foldl_fl_mono (ys : List ℚ) {s t : ℚ} (h : s ≤ t) :
    ys.foldl (fun s x => fl (s + x)) s ≤ ys.foldl (fun s x => fl (s + x)) t := by
  induction ys generalizing s t with
  | nil => exact h
  | cons y ys ih =>
      apply ih
      exact fl_mono (by linarith)

/-- One more term that is not negative, at any place, makes the sum no smaller. -/
theorem flSum_insert_le (xs ys : List ℚ) (hx : 0 ≤ x) : flSum (xs ++ ys) ≤ flSum (xs ++ x :: ys) := by
  rw [flSum_append, flSum_append, List.foldl_cons]
  apply foldl_fl_mono
  exact (double_flSum xs).le_fl (by linarith)

/-! ## The shortest decimal -/

/-- The decimals with `p + 1` digits next to `x`, the nearest first. -/
def neighbours (x : ℚ) (p : ℕ) : List ℚ :=
  let m : ℚ := 10 ^ ((p : ℤ) - Int.log 10 |x|)
  let n := roundHalfEven (x * m)
  [n / m, (if n < x * m then n + 1 else n - 1) / m]

/-- The decimal with the fewest digits that rounds to the double `x`; of two of them the nearer one. -/
def shortest (x : ℚ) : ℚ := (((List.range 17).flatMap (neighbours x)).find? fun v => fl v = x).getD x

theorem fl_shortest (hx : Double x) : fl (shortest x) = x := by
  unfold shortest
  cases hfind : ((List.range 17).flatMap (neighbours x)).find? fun v => fl v = x with
  | none => exact hx
  | some v => simpa using List.find?_some hfind

theorem shortest_one : shortest 1 = 1 := by decide +kernel

/-- The shortest decimals of doubles are ordered as the doubles are. -/
theorem shortest_mono (hx : Double x) (hy : Double y) (h : x ≤ y) : shortest x ≤ shortest y := by
  rcases h.eq_or_lt with rfl | hlt
  · exact le_rfl
  · refine (lt_of_fl_lt ?_).le
    rwa [fl_shortest hx, fl_shortest hy]

end Lib.Binary64
