import Mathlib.Algebra.BigOperators.Intervals
import PredictATrade.Lib.LeastSquares
import PredictATrade.Realtime.IndicatorRanges

/-!
# `Realtime.SameBar` — the regression of the closes and the true range of one bar

`LinRegSlopeR2` computes the line of least squares through the last closes (`LinRegSlopeR2_spec`). The
section of `Process` that reports it asks for the true range of the bar, which is filled in later, so the
slope and the determination stay zero however long the history is. `same_bar_complete_iff`: that is right
where no true range is reported, or where the last twenty closes have no slope.
-/

namespace PredictATrade.Realtime.Indicators
open Lib.LeastSquares Lib.Smoothing Lib.Windows IndicatorState

/-! ## The regression of a list -/

theorem sum_zipIdx (f : ℕ → ℚ → ℚ) (w : List ℚ) (k : ℕ) :
    ((w.zipIdx k).map fun p => f p.2 p.1).sum = ∑ i ∈ Finset.range w.length, f (i + k) (w.getD i 0) := by
  induction w generalizing k with
  | nil => rfl
  | cons v w ih =>
    rw [List.zipIdx_cons, List.map_cons, List.sum_cons, ih, List.length_cons, Finset.sum_range_succ',
      add_comm]
    congr 1
    · apply Finset.sum_congr rfl
      intro i _
      rw [List.getD_cons_succ, Nat.add_right_comm, Nat.add_assoc]
    · rw [Nat.zero_add]
      rfl

section
variable (w : List ℚ)

/-- The places of the values. -/
def place (i : ℕ) : ℚ := i

/-- The values by their places. -/
def value (i : ℕ) : ℚ := w.getD i 0

/-- The slope of the line of least squares through the values, and what it determines of them. -/
def IsRegression (slope r2 : ℚ) : Prop :=
  ∃ a, IsLine (Finset.range w.length) place (value w) a slope ∧
    r2 = determination (Finset.range w.length) place (value w) a slope

/-- What the values after the middle have over those before it. -/
def drift : ℚ := ∑ i ∈ Finset.range w.length, (2 * i - (w.length - 1)) * value w i

end

section
variable {w : List ℚ} (hlen : 1 < w.length)
include hlen

theorem card_ne_zero : ((Finset.range w.length).card : ℚ) ≠ 0 := by
  rw [Finset.card_range]
  exact_mod_cast (Nat.zero_lt_of_lt hlen).ne'

theorem spread_place_ne_zero : spread (Finset.range w.length) place place ≠ 0 := by
  intro h
  have hall := (spread_self_eq_zero_iff _ _).mp h
  have hzero := hall 0 (Finset.mem_range.mpr (Nat.zero_lt_of_lt hlen))
  have hone := hall 1 (Finset.mem_range.mpr hlen)
  rw [← hone] at hzero
  exact absurd hzero (by decide)

theorem mean_place : mean (Finset.range w.length) place = (w.length - 1) / 2 := by
  have hgauss := Finset.sum_range_id_mul_two w.length
  have hcast : ((∑ i ∈ Finset.range w.length, i : ℕ) : ℚ) * 2 = w.length * (w.length - 1) := by
    have := congrArg (Nat.cast (R := ℚ)) hgauss
    rw [Nat.cast_mul, Nat.cast_mul, Nat.cast_sub hlen.le] at this
    exact_mod_cast this
  have hne : (w.length : ℚ) ≠ 0 := by exact_mod_cast (Nat.zero_lt_of_lt hlen).ne'
  unfold mean place
  rw [Finset.card_range, div_eq_div_iff hne two_ne_zero, ← Nat.cast_sum, hcast]
  ring

/-- The spread of the places and the values is half of the drift. -/
theorem spread_drift : spread (Finset.range w.length) place (value w) = drift w / 2 := by
  rw [spread_eq_sum (card_ne_zero hlen), mean_place hlen]
  unfold drift
  rw [Finset.sum_div]
  apply Finset.sum_congr rfl
  intro i _
  unfold place
  ring

end

/-- The sums of the loop, less what the means explain, are the spreads. -/
theorem sum_zipIdx_spread {w : List ℚ} (hlen : 1 < w.length) (f g : ℕ → ℚ → ℚ) :
    (w.zipIdx.map fun p => f p.2 p.1 * g p.2 p.1).sum -
        (w.zipIdx.map fun p => f p.2 p.1).sum * (w.zipIdx.map fun p => g p.2 p.1).sum / w.length =
      spread (Finset.range w.length) (fun i => f i (value w i)) (fun i => g i (value w i)) := by
  rw [spread_eq (card_ne_zero hlen), Finset.card_range, sum_zipIdx (fun i v => f i v * g i v), sum_zipIdx f,
    sum_zipIdx g]
  rfl

theorem regression_sums {w : List ℚ} (hlen : 1 < w.length) :
    (w.zipIdx.map fun p => (p.2 : ℚ) * p.1).sum -
          (w.zipIdx.map fun p => (p.2 : ℚ)).sum * (w.zipIdx.map fun p => p.1).sum / w.length =
        spread (Finset.range w.length) place (value w) ∧
      (w.zipIdx.map fun p => (p.2 : ℚ) * p.2).sum -
          (w.zipIdx.map fun p => (p.2 : ℚ)).sum * (w.zipIdx.map fun p => (p.2 : ℚ)).sum / w.length =
        spread (Finset.range w.length) place place ∧
      (w.zipIdx.map fun p => p.1 * p.1).sum -
          (w.zipIdx.map fun p => p.1).sum * (w.zipIdx.map fun p => p.1).sum / w.length =
        spread (Finset.range w.length) (value w) (value w) :=
  ⟨sum_zipIdx_spread hlen (fun i _ => (i : ℚ)) fun _ v => v,
    sum_zipIdx_spread hlen (fun i _ => (i : ℚ)) fun i _ => (i : ℚ),
    sum_zipIdx_spread hlen (fun _ v => v) fun _ v => v⟩

/-- The two results by the spreads; the cut to the unit interval changes nothing. -/
theorem LinRegSlopeR2_eq {closes w : List ℚ} {n : ℕ} (hn : 1 < n) (hlen : n ≤ closes.length)
    (hw : closes.rtake n = w) (hwn : w.length = n) :
    LinRegSlopeR2 closes n =
      (spread (Finset.range w.length) place (value w) / spread (Finset.range w.length) place place,
        if spread (Finset.range w.length) (value w) (value w) = 0 then 0
        else spread (Finset.range w.length) place (value w) ^ 2 /
          (spread (Finset.range w.length) place place * spread (Finset.range w.length) (value w) (value w))) := by
  have hlong : 1 < w.length := hwn.symm ▸ hn
  obtain ⟨hxy, hxx, hyy⟩ := regression_sums hlong
  have hx := spread_place_ne_zero hlong
  have hxpos := lt_of_le_of_ne (spread_self_nonneg (Finset.range w.length) place) hx.symm
  have hy := spread_self_nonneg (Finset.range w.length) (value w)
  have hsq := spread_sq_le (y := value w) (card_ne_zero hlong) hx
  rw [hwn] at hxy hxx hyy
  unfold LinRegSlopeR2
  rw [if_neg (by omega), hw]
  dsimp only
  rw [hxy, hxx, hyy]
  rw [hwn] at hx hxpos hy hsq ⊢
  generalize spread (Finset.range n) place (value w) = sxy at *
  generalize spread (Finset.range n) place place = sxx at *
  generalize spread (Finset.range n) (value w) (value w) = syy at *
  rw [if_neg hx]
  rcases hy.eq_or_lt with hzero | hpos
  · rw [← hzero]
    simp
  · have hden : 0 < sxx * syy := mul_pos hxpos hpos
    have hle : sxy * sxy / (sxx * syy) ≤ 1 := by
      rw [div_le_one hden, ← pow_two]
      exact hsq
    have hge : 0 ≤ sxy * sxy / (sxx * syy) := div_nonneg (mul_self_nonneg _) hden.le
    rw [if_pos hpos, if_neg (not_lt.mpr hge), if_neg (not_lt.mpr hle), if_neg hpos.ne', pow_two]

/-- **The regression.** Of closes that are enough, the two results are the slope of the line of least
squares through the last `n`, and what that line determines of them. -/
theorem LinRegSlopeR2_spec {closes : List ℚ} {n : ℕ} (hn : 1 < n) (hlen : n ≤ closes.length) :
    IsRegression (closes.rtake n) (LinRegSlopeR2 closes n).1 (LinRegSlopeR2 closes n).2 := by
  have hw : (closes.rtake n).length = n := by rw [length_rtake, min_eq_left hlen]
  have hlong : 1 < (closes.rtake n).length := hw.symm ▸ hn
  have hline := (isLine_iff (y := value (closes.rtake n)) (card_ne_zero hlong)
    (spread_place_ne_zero hlong)).mpr ⟨rfl, rfl⟩
  rw [LinRegSlopeR2_eq hn hlen rfl hw]
  refine ⟨_, hline, ?_⟩
  rw [hline.determination (card_ne_zero hlong) (spread_place_ne_zero hlong)]

/-- The line through three closes, after one that is left out. -/
theorem LinRegSlopeR2_three :
    LinRegSlopeR2 [7, 1, 2, 4] 3 = (3 / 2, 27 / 28) ∧ IsRegression [1, 2, 4] (3 / 2) (27 / 28) := by
  have hvalue : LinRegSlopeR2 [7, 1, 2, 4] 3 = (3 / 2, 27 / 28) := by decide +kernel
  have hspec := LinRegSlopeR2_spec (show 1 < 3 by decide)
    (show 3 ≤ ([7, 1, 2, 4] : List ℚ).length by decide)
  rw [hvalue] at hspec
  exact ⟨hvalue, hspec⟩

/-- The slope and the determination are zero together, where there is no drift. -/
theorem isRegression_zero_iff {w : List ℚ} (hlen : 1 < w.length) {slope : ℚ} :
    IsRegression w slope 0 ↔ slope = 0 ∧ drift w = 0 := by
  have hcard := card_ne_zero hlen
  have hx := spread_place_ne_zero hlen
  have hdrift := spread_drift hlen
  constructor
  · rintro ⟨a, hline, hr2⟩
    rw [hline.determination hcard hx] at hr2
    have hxy : spread (Finset.range w.length) place (value w) = 0 := by
      split at hr2
      · next hy => exact spread_eq_zero _ _ _ hy
      · next hy =>
        rcases div_eq_zero_iff.mp hr2.symm with hsq | hden
        · exact pow_eq_zero_iff two_ne_zero |>.mp hsq
        · exact absurd hden (mul_ne_zero hx hy)
    have hslope := ((isLine_iff hcard hx).mp hline).1
    rw [hxy, zero_div] at hslope
    exact ⟨hslope, by linarith⟩
  · rintro ⟨rfl, hzero⟩
    have hxy : spread (Finset.range w.length) place (value w) = 0 := by rw [hdrift, hzero, zero_div]
    have hline : IsLine (Finset.range w.length) place (value w)
        (mean (Finset.range w.length) (value w) - 0 * mean (Finset.range w.length) place) 0 :=
      (isLine_iff hcard hx).mpr ⟨by rw [hxy, zero_div], rfl⟩
    refine ⟨_, hline, ?_⟩
    rw [hline.determination hcard hx, hxy]
    simp

/-! ## When a true range is reported -/

/-- Enough bars have prices, and between some of them the price moves. -/
def Ranging (w : List Candle) : Prop :=
  14 ≤ (trueRanges (barsOf w)).length ∧ ∃ tr ∈ trueRanges (barsOf w), tr ≠ 0

theorem trueRanges_nonneg (bs : List Bar) : ∀ tr ∈ trueRanges bs, 0 ≤ tr := by
  rw [trueRanges_eq]
  exact List.forall_mem_map.mpr fun s _ => trueRange_nonneg _ _ _

/-- When an average true range is reported. -/
theorem fATRWilder_ne_zero_iff {w : List Candle} (hlen : 14 < w.length) :
    fATRWilder (w.map (·.high)) (w.map (·.low)) (w.map (·.close)) 14 ≠ 0 ↔ Ranging w := by
  have hbars : (barsOf w).length = w.length := List.length_map _
  unfold fATRWilder Ranging
  dsimp only
  rw [bars_of_window, if_neg (by omega)]
  split
  · next hfew =>
    refine iff_of_false (fun h => h rfl) fun h => ?_
    omega
  · next hmany =>
    rw [and_iff_right (by omega)]
    have hnonneg := trueRanges_nonneg (barsOf w)
    constructor
    · intro hne
      by_contra hnone
      push Not at hnone
      exact hne (wilder_zeros 14 hnone)
    · rintro ⟨tr, htr, hne⟩
      have hsum : 0 < (trueRanges (barsOf w)).sum := by
        have hpos := lt_of_le_of_ne (hnonneg tr htr) hne.symm
        exact hpos.trans_le (List.single_le_sum hnonneg tr htr)
      exact (wilder_pos (by norm_num) hnonneg hsum).ne'

/-! ## Same-bar completeness -/

/-- How ready a feature is. -/
structure FeatureReadiness where
  state : String
  reason : String
  source : String
  deriving DecidableEq, Repr

/-- `simpleReadiness`. -/
def simpleReadiness (state reason source : String) : FeatureReadiness := ⟨state, reason, source⟩

/-- What `buildFeatureReadiness` says of these indicators, whatever they are. -/
def volatilityReadiness : List (String × FeatureReadiness) :=
  [("Choppiness", simpleReadiness "READY" "computed" "local"),
    ("Squeeze", simpleReadiness "READY" "computed" "local"),
    ("LinRegSlope_R2", simpleReadiness "READY" "computed" "local"),
    ("ADXSlope", simpleReadiness "READY" "computed" "local"),
    ("CLV", simpleReadiness "READY" "computed" "local")]

/-- What is expected of a report over a window, where it is said to be ready: with a true range and twenty
closes come the determination of the line through these, and its slope by the true range. -/
def Complete (w : List Candle) (feat : IndicatorFeatures) : Prop :=
  (volatilityReadiness.lookup "LinRegSlope_R2").map (·.state) = some "READY" →
    feat.atr ≠ 0 → 20 ≤ w.length →
      ∃ slope, IsRegression ((w.map (·.close)).rtake 20) slope feat.linR2 ∧
        feat.linSlopeATR = LinSlopeATR slope feat.atr

section
variable (lib : MathLib) (lookback : ℕ) (candles : List VolumeCandle) (candle : VolumeCandle)

/-- **Same-bar completeness.** The report for a candle after any others is complete exactly where its last
twenty closes do not drift, or the window is too short or too still for a true range. -/
theorem same_bar_complete_iff :
    Complete (window lookback (candles ++ [candle])) (report lib lookback candles candle) ↔
      (candle.toCandle.Valid → 20 ≤ (window lookback (candles ++ [candle])).length →
        Ranging (window lookback (candles ++ [candle])) →
          drift (((window lookback (candles ++ [candle])).map (·.close)).rtake 20) = 0) := by
  have hready : (volatilityReadiness.lookup "LinRegSlope_R2").map (·.state) = some "READY" := by
    decide +kernel
  unfold Complete report
  rw [forall_prop_of_true hready]
  by_cases hvalid : candle.toCandle.Valid
  · have hpushed := push_candles lib lookback candles hvalid
    generalize window lookback (candles ++ [candle]) = w at hpushed ⊢
    obtain ⟨hr2, hslope⟩ := process_regression lib (after lib lookback candles) hvalid
    rw [hr2, hslope, forall_prop_of_true hvalid]
    by_cases hlen : 20 ≤ w.length
    · have hatr := report_atr_eq lib hvalid hpushed
      rw [if_pos (show w.length ≥ 14 by omega)] at hatr
      have hlong : 1 < ((w.map (·.close)).rtake 20).length := by
        rw [length_rtake, List.length_map]
        omega
      rw [forall_prop_of_true hlen, forall_prop_of_true hlen, hatr, fATRWilder_ne_zero_iff (by omega)]
      apply forall_congr'
      intro _
      constructor
      · rintro ⟨slope, hreg, -⟩
        exact ((isRegression_zero_iff hlong).mp hreg).2
      · intro hdrift
        exact ⟨0, (isRegression_zero_iff hlong).mpr ⟨rfl, hdrift⟩, (if_pos (Or.inr rfl)).symm⟩
    · exact iff_of_true (fun _ h => absurd h hlen) fun h => absurd h hlen
  · rw [process_rejected hvalid]
    exact iff_of_true (fun h => absurd rfl h) fun h => absurd h hvalid

end

/-! ## Closes on a line -/

/-- Twenty candles that rise by one each. -/
def rising (i : ℕ) : VolumeCandle where
  opening := 100 + i
  high := 101 + i
  low := 99 + i
  close := 100 + i
  volume := 1

/-- The closes are a line with slope one, and the report has no slope. -/
theorem rising_incomplete : ¬ ∃ lib : MathLib,
    Complete (window 200 ((List.range 19).map rising ++ [rising 19]))
      (report lib 200 ((List.range 19).map rising) (rising 19)) := by
  rintro ⟨lib, hcomplete⟩
  have hvalid : (rising 19).toCandle.Valid := by decide +kernel
  have hpushed := push_candles lib 200 ((List.range 19).map rising) hvalid
  have hatr := report_atr_eq lib hvalid hpushed
  have hne : (report lib 200 ((List.range 19).map rising) (rising 19)).atr ≠ 0 := by
    unfold report
    rw [hatr]
    decide +kernel
  obtain ⟨slope, hreg, -⟩ := hcomplete (by decide +kernel) hne (by decide +kernel)
  have hr2 : (report lib 200 ((List.range 19).map rising) (rising 19)).linR2 = 0 :=
    (process_regression lib _ hvalid).1
  rw [hr2] at hreg
  have hdrift := ((isRegression_zero_iff (by decide +kernel)).mp hreg).2
  revert hdrift
  decide +kernel

end PredictATrade.Realtime.Indicators
