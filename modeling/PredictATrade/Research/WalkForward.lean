import Mathlib.Data.Rat.Floor
import PredictATrade.Lib.Attempt
import PredictATrade.Research.FilterContribution

/-!
# `Research.WalkForward` — folds of training and test windows

`WalkForwardAnalyzer.run` keeps a holdout at the end of the candles, and goes over the rest with test windows
of one size, a step apart, each behind a training window that begins at the first candle. The folds do not
depend on what the backtests return: `windows_getElem?` gives the `i`-th of them, and `walk_forward_folds`
what that means for the bars.

The steps may be shorter than the test windows, and then the windows of neighbouring folds overlap. A
test window too short for twice the trades that a fold needs ends the loop, at its first round, since
all of them have one length.
-/

namespace PredictATrade.Research
open Lib.Attempt

/-! ## Configuration -/

/-- The objective is read by nothing. -/
structure WalkForwardConfig where
  trainSize : ℕ := 500
  testSize : ℕ := 100
  stepSize : ℕ := 100
  minTrades : ℤ := 10
  stepPos : 0 < stepSize := by decide

/-- The part of the data that is held out. -/
structure HoldoutPct where
  value : ℚ := 2 / 10
  nonneg : 0 ≤ value := by norm_num
  ltOne : value < 1 := by norm_num

/-- `int(len(candles) * (1 - final_holdout_pct))`. -/
def holdoutStart (len : ℕ) (pct : HoldoutPct) : ℕ := ⌊(len : ℚ) * (1 - pct.value)⌋.toNat

/-! ## The folds -/

/-- The boundaries of a fold: bars from the first on, up to the second and without it. -/
structure FoldWindow where
  foldId : ℕ
  trainStart : ℕ
  trainEnd : ℕ
  testStart : ℕ
  testEnd : ℕ
  deriving DecidableEq, Repr

/-- `range(start, stop, step)`. A stop below zero leaves as little as one at zero. -/
def pyRange (start stop step : ℕ) : List ℕ := List.range' start ((stop - start + step - 1) / step) step

section
variable (config : WalkForwardConfig)

/-- The loop over the ends of the training windows, which the first test window that is too short
ends. -/
def windowsFrom (n : ℕ) : ℕ → List ℕ → List FoldWindow
  | _, [] => []
  | foldId, trainEnd :: rest =>
    let testEnd := min (trainEnd + config.testSize) n
    if (testEnd : ℤ) - trainEnd < config.minTrades * 2 then []
    else
      { foldId, trainStart := 0, trainEnd, testStart := trainEnd, testEnd } ::
        windowsFrom n (foldId + 1) rest

/-- The folds over `n` candles. -/
def windows (n : ℕ) : List FoldWindow :=
  windowsFrom config n 0 (pyRange config.trainSize (n - config.testSize) config.stepSize)

end

/-! ## The analysis -/

/-- A fold with its two runs. -/
structure WalkForwardFold extends FoldWindow where
  inSampleResult : BacktestRunResult
  outOfSampleResult : BacktestRunResult

/-- What is computed from the out-of-sample trades of all folds, `metrics` being what
`calculate_metrics` makes of them. -/
structure AggregateOos (M : Type) where
  totalOosTrades : ℕ
  totalPnl : ℚ
  winRate : ℚ
  avgPnl : ℚ
  metrics : M

/-- What `run` returns. -/
structure WalkForwardResult (M : Type) where
  folds : List WalkForwardFold
  aggregateOosMetrics : Option (AggregateOos M)
  finalHoldoutResult : Option BacktestRunResult

section
variable {M : Type} (calculateMetrics : List TradeRecord → List EquityPoint → ℚ → M)
variable (config : WalkForwardConfig) (btConfig : BacktestConfig) (rng : Draws)
variable (strategy : Option Strategy) (higherTfData : HigherTfData)

/-- The two backtests of a fold, each by a fresh engine. -/
def evaluateFold (wfCandles : List HistoricalCandle) (w : FoldWindow) :
    Except RunError WalkForwardFold := do
  let inSample ← (backtest btConfig rng strategy (wfCandles.take w.trainEnd) higherTfData).result
  let outOfSample ← (backtest btConfig rng strategy
    ((wfCandles.take w.testEnd).drop w.testStart) higherTfData).result
  pure { w with inSampleResult := inSample, outOfSampleResult := outOfSample }

/-- The metrics over the trades out of sample. -/
def aggregateOos (trades : List TradeRecord) : Option (AggregateOos M) :=
  if trades = [] then none
  else
    some
      { totalOosTrades := trades.length
        totalPnl := (trades.map (·.pnl)).sum
        winRate := (trades.countP fun t => 0 < t.pnl) / trades.length * 100
        avgPnl := (trades.map (·.pnl)).sum / trades.length
        metrics := calculateMetrics trades [] btConfig.initialBalance }

/-- `WalkForwardAnalyzer.run`. -/
def walkForward (pct : HoldoutPct) (candles : List HistoricalCandle) :
    Except RunError (WalkForwardResult M) := do
  let start := holdoutStart candles.length pct
  let wfCandles := candles.take start
  let holdoutCandles := candles.drop start
  let folds ← (windows config wfCandles.length).mapM
    (evaluateFold btConfig rng strategy higherTfData wfCandles)
  let finalHoldoutResult ←
    if holdoutCandles.length > 50 then
      some <$> (backtest btConfig rng strategy holdoutCandles higherTfData).result
    else pure none
  pure
    { folds
      aggregateOosMetrics := aggregateOos calculateMetrics btConfig
        (folds.flatMap fun f => f.outOfSampleResult.trades)
      finalHoldoutResult }

end

/-! ## Which folds there are -/

theorem holdoutStart_le (len : ℕ) (pct : HoldoutPct) : holdoutStart len pct ≤ len := by
  unfold holdoutStart
  rw [Int.toNat_le]
  have hle : (len : ℚ) * (1 - pct.value) ≤ len := by
    have := mul_nonneg (Nat.cast_nonneg (α := ℚ) len) pct.nonneg
    linarith
  exact_mod_cast (Int.floor_le _).trans hle

/-- The numbers of a range, by their place. -/
theorem pyRange_getElem? {step : ℕ} (hstep : 0 < step) (start stop i : ℕ) :
    (pyRange start stop step)[i]? =
      if start + step * i < stop then some (start + step * i) else none := by
  have hlt : i < (stop - start + step - 1) / step ↔ start + step * i < stop := by
    rw [← Nat.succ_le_iff, Nat.le_div_iff_mul_le hstep, Nat.succ_mul, Nat.mul_comm i step]
    omega
  unfold pyRange
  by_cases h : start + step * i < stop
  · rw [if_pos h, List.getElem?_range' (hlt.mpr h)]
  · rw [if_neg h, List.getElem?_eq_none_iff, List.length_range']
    exact not_lt.mp fun h' => h (hlt.mp h')

section
variable (config : WalkForwardConfig) (n : ℕ)

/-- The fold behind a training window. -/
def foldWindow (foldId trainEnd : ℕ) : FoldWindow :=
  { foldId, trainStart := 0, trainEnd, testStart := trainEnd,
    testEnd := trainEnd + config.testSize }

/-- While the test windows fit the loop keeps all, or breaks at the first. -/
theorem windowsFrom_getElem? {foldId : ℕ} {ends : List ℕ}
    (hfit : ∀ e ∈ ends, e + config.testSize ≤ n) (i : ℕ) :
    (windowsFrom config n foldId ends)[i]? =
      if config.minTrades * 2 ≤ config.testSize then
        ends[i]?.map fun e => foldWindow config (foldId + i) e
      else none := by
  induction ends generalizing foldId i with
  | nil => simp [windowsFrom]
  | cons e ends ih =>
    have hend : min (e + config.testSize) n = e + config.testSize :=
      min_eq_left (hfit e List.mem_cons_self)
    have hsize : ((e + config.testSize : ℕ) : ℤ) - e = config.testSize := by omega
    unfold windowsFrom
    dsimp only
    rw [hend, hsize]
    by_cases hmin : config.minTrades * 2 ≤ config.testSize
    · rw [if_neg (not_lt.mpr hmin), if_pos hmin]
      cases i with
      | zero => rfl
      | succ i =>
        rw [List.getElem?_cons_succ, List.getElem?_cons_succ,
          ih (fun e' he' => hfit e' (List.mem_cons_of_mem e he')), if_pos hmin, Nat.add_right_comm,
          Nat.add_assoc]
    · rw [if_pos (not_le.mp hmin), if_neg hmin]
      rfl

/-- **The `i`-th fold.** -/
theorem windows_getElem? (i : ℕ) :
    (windows config n)[i]? =
      if config.minTrades * 2 ≤ config.testSize ∧
          config.trainSize + config.stepSize * i + config.testSize < n then
        some (foldWindow config i (config.trainSize + config.stepSize * i))
      else none := by
  have hfit : ∀ e ∈ pyRange config.trainSize (n - config.testSize) config.stepSize,
      e + config.testSize ≤ n := by
    intro e he
    obtain ⟨k, hk⟩ := List.mem_iff_getElem?.mp he
    rw [pyRange_getElem? config.stepPos] at hk
    split at hk
    · obtain rfl := Option.some.inj hk
      omega
    · cases hk
  unfold windows
  rw [windowsFrom_getElem? config n hfit, pyRange_getElem? config.stepPos]
  have hlt : config.trainSize + config.stepSize * i < n - config.testSize ↔
      config.trainSize + config.stepSize * i + config.testSize < n := by omega
  by_cases hmin : config.minTrades * 2 ≤ config.testSize
  · rw [if_pos hmin, if_congr hlt rfl rfl]
    by_cases h : config.trainSize + config.stepSize * i + config.testSize < n
    · rw [if_pos h, if_pos ⟨hmin, h⟩, Option.map_some, Nat.zero_add]
    · rw [if_neg h, if_neg fun h' => h h'.2, Option.map_none]
  · rw [if_neg hmin, if_neg fun h => hmin h.1]

end

/-! ## The bars of a fold -/

namespace FoldWindow

/-- The bar is in the training part. -/
def InTrain (w : FoldWindow) (bar : ℕ) : Prop := w.trainStart ≤ bar ∧ bar < w.trainEnd

/-- The bar is in the test part. -/
def InTest (w : FoldWindow) (bar : ℕ) : Prop := w.testStart ≤ bar ∧ bar < w.testEnd

/-- The two test windows have a bar in common. -/
def Overlap (w w' : FoldWindow) : Prop := ∃ bar, w.InTest bar ∧ w'.InTest bar

end FoldWindow

/-- Windows of one size have a bar in common when the later begins before the earlier ends. -/
theorem overlap_iff (config : WalkForwardConfig) {i j : ℕ} (hij : i < j) :
    (foldWindow config i (config.trainSize + config.stepSize * i)).Overlap
        (foldWindow config j (config.trainSize + config.stepSize * j)) ↔
      config.stepSize * (j - i) < config.testSize := by
  have hsplit : config.stepSize * j = config.stepSize * i + config.stepSize * (j - i) := by
    rw [← Nat.mul_add, Nat.add_sub_cancel' hij.le]
  constructor
  · rintro ⟨bar, ⟨-, hlt⟩, hge, -⟩
    dsimp only [foldWindow] at hlt hge
    omega
  · intro h
    refine ⟨config.trainSize + config.stepSize * j, ⟨?_, ?_⟩, le_rfl, ?_⟩
    all_goals
      dsimp only [foldWindow]
      omega

/-! ## What a run evaluates -/

section
variable {M : Type} (calculateMetrics : List TradeRecord → List EquityPoint → ℚ → M)
variable (config : WalkForwardConfig) (btConfig : BacktestConfig) (rng : Draws)
variable (strategy : Option Strategy) (higherTfData : HigherTfData)

theorem evaluateFold_ok {wfCandles : List HistoricalCandle} {w : FoldWindow} {fold : WalkForwardFold}
    (h : evaluateFold btConfig rng strategy higherTfData wfCandles w = .ok fold) :
    fold.toFoldWindow = w ∧
      (backtest btConfig rng strategy (wfCandles.take w.trainEnd) higherTfData).result =
        .ok fold.inSampleResult ∧
      (backtest btConfig rng strategy ((wfCandles.take w.testEnd).drop w.testStart)
        higherTfData).result = .ok fold.outOfSampleResult := by
  obtain ⟨inSample, hin, h⟩ := bind_ok h
  obtain ⟨outOfSample, hout, h⟩ := bind_ok h
  cases h
  exact ⟨rfl, hin, hout⟩

/-- The backtest of a run without the report returns, and so does each fold. -/
theorem exists_evaluateFold (hplain : btConfig.filterContributionEnabled = false)
    (wfCandles : List HistoricalCandle) (w : FoldWindow) :
    ∃ fold, evaluateFold btConfig rng strategy higherTfData wfCandles w = .ok fold := by
  have hrun (candles : List HistoricalCandle) :
      ∃ r, (backtest btConfig rng strategy candles higherTfData).result = .ok r := by
    have := backtest_plain btConfig rng strategy candles higherTfData
    rwa [← hplain] at this
  obtain ⟨inSample, hin⟩ := hrun (wfCandles.take w.trainEnd)
  obtain ⟨outOfSample, hout⟩ := hrun ((wfCandles.take w.testEnd).drop w.testStart)
  unfold evaluateFold
  rw [hin, ok_bind, hout, ok_bind]
  exact ⟨_, rfl⟩

variable (pct : HoldoutPct) (candles : List HistoricalCandle)

/-- Without the report the analysis returns. -/
theorem walkForward_plain (hplain : btConfig.filterContributionEnabled = false) :
    ∃ r, walkForward calculateMetrics config btConfig rng strategy higherTfData pct candles = .ok r := by
  unfold walkForward
  dsimp only
  obtain ⟨folds, hfolds⟩ := exists_mapM_ok
    (exists_evaluateFold btConfig rng strategy higherTfData hplain
      (candles.take (holdoutStart candles.length pct)))
    (windows config (candles.take (holdoutStart candles.length pct)).length)
  rw [hfolds, ok_bind]
  split
  · obtain ⟨holdout, hholdout⟩ :=
      backtest_plain btConfig rng strategy (candles.drop (holdoutStart candles.length pct)) higherTfData
    rw [← hplain] at hholdout
    rw [hholdout]
    exact ⟨_, rfl⟩
  · exact ⟨_, rfl⟩

variable {calculateMetrics config btConfig rng strategy higherTfData pct candles}
variable {r : WalkForwardResult M}

/-- The folds of a run are the windows of what the holdout leaves. -/
theorem walkForward_windows
    (hr : walkForward calculateMetrics config btConfig rng strategy higherTfData pct candles = .ok r) :
    r.folds.map (·.toFoldWindow) = windows config (holdoutStart candles.length pct) ∧
      ∀ fold ∈ r.folds,
        (backtest btConfig rng strategy
          (((candles.take (holdoutStart candles.length pct)).take fold.testEnd).drop fold.testStart)
          higherTfData).result = .ok fold.outOfSampleResult := by
  obtain ⟨folds, hfolds, hr⟩ := bind_ok hr
  obtain rfl : r.folds = folds := by
    dsimp only at hr
    split at hr
    · obtain ⟨holdout, -, hr⟩ := bind_ok hr
      cases hr
      rfl
    · cases hr
      rfl
  have hlen : (candles.take (holdoutStart candles.length pct)).length =
      holdoutStart candles.length pct := by
    rw [List.length_take, min_eq_left (holdoutStart_le _ _)]
  rw [hlen] at hfolds
  refine ⟨mapM_ok_map (fun w fold h => (evaluateFold_ok btConfig rng strategy higherTfData h).1) hfolds,
    ?_⟩
  intro fold hfold
  obtain ⟨w, -, hw⟩ := mapM_ok_mem hfolds hfold
  obtain ⟨rfl, -, hout⟩ := evaluateFold_ok btConfig rng strategy higherTfData hw
  exact hout

/-- The `i`-th fold stands where the `i`-th window does. -/
theorem window_of_fold
    (hr : walkForward calculateMetrics config btConfig rng strategy higherTfData pct candles = .ok r)
    {i : ℕ} {fold : WalkForwardFold} (hfold : r.folds[i]? = some fold) :
    config.minTrades * 2 ≤ config.testSize ∧
      config.trainSize + config.stepSize * i + config.testSize < holdoutStart candles.length pct ∧
      fold.toFoldWindow = foldWindow config i (config.trainSize + config.stepSize * i) := by
  have hwindow : (windows config (holdoutStart candles.length pct))[i]? = some fold.toFoldWindow := by
    rw [← (walkForward_windows hr).1, List.getElem?_map, hfold]
    rfl
  rw [windows_getElem?] at hwindow
  split at hwindow
  · rename_i h
    exact ⟨h.1, h.2, (Option.some.inj hwindow).symm⟩
  · cases hwindow

end

/-! ## Coverage -/

section
variable {M : Type} (config : WalkForwardConfig) (btConfig : BacktestConfig) (rng : Draws)
variable (strategy : Option Strategy) (higherTfData : HigherTfData)
variable (candles : List HistoricalCandle) (holdout : ℕ) (r : WalkForwardResult M)

/-- No bar of a test window is one to train on, or of the holdout. -/
def Isolated : Prop :=
  ∀ fold ∈ r.folds, ∀ bar, fold.InTest bar → ¬ fold.InTrain bar ∧ bar < holdout

/-- There is a fold with the test window `k` steps behind the first, and the candles of the window are
what it ran over. -/
def Evaluated (k : ℕ) : Prop :=
  ∃ fold ∈ r.folds, fold.testStart = config.trainSize + k * config.stepSize ∧
    fold.testEnd = config.trainSize + k * config.stepSize + config.testSize ∧
    (backtest btConfig rng strategy ((candles.take fold.testEnd).drop fold.testStart)
      higherTfData).result = .ok fold.outOfSampleResult

/-- Each bar is in the test window of one fold at most. -/
def CountedOnce : Prop :=
  ∀ (i j : ℕ) (fold fold' : WalkForwardFold), i < j → r.folds[i]? = some fold →
    r.folds[j]? = some fold' → ¬ fold.Overlap fold'.toFoldWindow

end

section
variable {M : Type} (calculateMetrics : List TradeRecord → List EquityPoint → ℚ → M)
variable (config : WalkForwardConfig) (btConfig : BacktestConfig) (rng : Draws)
variable (strategy : Option Strategy) (higherTfData : HigherTfData)
variable (pct : HoldoutPct) (candles : List HistoricalCandle)

/-- **The folds of an analysis.** Training and holdout are kept apart from the test windows. Where a test
window holds twice the trades of a fold, each that leaves a candle between itself and the holdout is
evaluated; where not, none is. Two test windows overlap when the steps between them are shorter than one. -/
theorem walk_forward_folds {r : WalkForwardResult M}
    (hr : walkForward calculateMetrics config btConfig rng strategy higherTfData pct candles = .ok r) :
    Isolated (holdoutStart candles.length pct) r ∧
      (config.minTrades * 2 ≤ config.testSize →
        ∀ k, config.trainSize + k * config.stepSize + config.testSize < holdoutStart candles.length pct →
          Evaluated config btConfig rng strategy higherTfData candles r k) ∧
      ((config.testSize : ℤ) < config.minTrades * 2 → r.folds = []) ∧
      ∀ (i j : ℕ) (fold fold' : WalkForwardFold), i < j → r.folds[i]? = some fold →
        r.folds[j]? = some fold' →
        (fold.Overlap fold'.toFoldWindow ↔ config.stepSize * (j - i) < config.testSize) := by
  refine ⟨?_, ?_, ?_, ?_⟩
  · intro fold hfold bar hbar
    obtain ⟨i, hi⟩ := List.mem_iff_getElem?.mp hfold
    obtain ⟨-, hfit, hwindow⟩ := window_of_fold hr hi
    rw [hwindow] at hbar ⊢
    dsimp only [FoldWindow.InTest, FoldWindow.InTrain, foldWindow] at hbar ⊢
    omega
  · intro hmin k hfit
    rw [Nat.mul_comm] at hfit
    have hwindow : (windows config (holdoutStart candles.length pct))[k]? =
        some (foldWindow config k (config.trainSize + config.stepSize * k)) := by
      rw [windows_getElem?, if_pos ⟨hmin, hfit⟩]
    rw [← (walkForward_windows hr).1] at hwindow
    obtain ⟨fold, hfold, hw⟩ := List.mem_map.mp (List.mem_of_getElem? hwindow)
    refine ⟨fold, hfold, ?_, ?_, ?_⟩
    · rw [hw, Nat.mul_comm k]
      rfl
    · rw [hw, Nat.mul_comm k]
      rfl
    · have hout := (walkForward_windows hr).2 fold hfold
      have hend : fold.testEnd ≤ holdoutStart candles.length pct := by
        rw [hw]
        exact hfit.le
      rwa [List.take_take, min_eq_left hend] at hout
  · intro hshort
    rw [List.eq_nil_iff_forall_not_mem]
    intro fold hfold
    obtain ⟨i, hi⟩ := List.mem_iff_getElem?.mp hfold
    have := (window_of_fold hr hi).1
    omega
  · intro i j fold fold' hij hi hj
    rw [(window_of_fold hr hi).2.2, (window_of_fold hr hj).2.2]
    exact overlap_iff config hij

end

/-! ## Short windows and short steps -/

/-- Four candles to train on and four to test, under the default holdout of a fifth. -/
def briefConfig (stepSize : ℕ) (minTrades : ℤ) (h : 0 < stepSize) : WalkForwardConfig :=
  { trainSize := 4, testSize := 4, stepSize, minTrades, stepPos := h }

/-- Twenty candles. -/
def twentyCandles : List HistoricalCandle :=
  List.replicate 20 { timestamp := 0, opening := 100, high := 101, low := 99, close := 100 }

/-- The analysis of the twenty candles by backtests with the default settings. -/
def briefRun (stepSize : ℕ) (minTrades : ℤ) (h : 0 < stepSize) :
    Except RunError (WalkForwardResult Unit) :=
  walkForward (fun _ _ _ => ()) (briefConfig stepSize minTrades h) {} (fun _ => 0) none [] {} twentyCandles

/-- The brief run returns. -/
theorem exists_briefRun (stepSize : ℕ) (minTrades : ℤ) (h : 0 < stepSize) :
    ∃ r, briefRun stepSize minTrades h = .ok r :=
  walkForward_plain _ _ _ _ _ _ _ _ rfl

theorem holdoutStart_twenty : holdoutStart twentyCandles.length {} = 16 := by decide +kernel

/-- With steps of two and no trades asked for, the analysis of the twenty candles has four folds. -/
theorem fold_of_rolling {r : WalkForwardResult Unit} (hr : briefRun 2 0 (by decide) = .ok r) (i : ℕ)
    (hi : 4 + 2 * i + 4 < 16) : ∃ fold, r.folds[i]? = some fold := by
  have hfolds := (walkForward_windows hr).1
  rw [holdoutStart_twenty] at hfolds
  have hwindow := windows_getElem? (briefConfig 2 0 (by decide)) 16 i
  rw [if_pos ⟨by decide, hi⟩, ← hfolds, List.getElem?_map, Option.map_eq_some_iff] at hwindow
  obtain ⟨fold, hfold, -⟩ := hwindow
  exact ⟨fold, hfold⟩

/-- The rolling analysis of the twenty candles: its windows are apart from what they are trained on and from
the holdout, the first and the last full window are evaluated, neighbours overlap, and windows two steps
apart do not. -/
theorem walk_forward_folds_rolling : ∃ r, briefRun 2 0 (by decide) = .ok r ∧ Isolated 16 r ∧
    Evaluated (briefConfig 2 0 (by decide)) {} (fun _ => 0) none [] twentyCandles r 0 ∧
    Evaluated (briefConfig 2 0 (by decide)) {} (fun _ => 0) none [] twentyCandles r 3 ∧
    ∃ first second third, r.folds[0]? = some first ∧ r.folds[1]? = some second ∧
      r.folds[2]? = some third ∧ first.Overlap second.toFoldWindow ∧
      ¬ first.Overlap third.toFoldWindow := by
  obtain ⟨r, hr⟩ := exists_briefRun 2 0 (by decide)
  obtain ⟨hisolated, hevaluated, -, hoverlap⟩ := walk_forward_folds _ _ _ _ _ _ _ _ hr
  rw [holdoutStart_twenty] at hisolated hevaluated
  obtain ⟨first, hfirst⟩ := fold_of_rolling hr 0 (by decide)
  obtain ⟨second, hsecond⟩ := fold_of_rolling hr 1 (by decide)
  obtain ⟨third, hthird⟩ := fold_of_rolling hr 2 (by decide)
  refine ⟨r, hr, hisolated, hevaluated (by decide) 0 (by decide), hevaluated (by decide) 3 (by decide),
    first, second, third, hfirst, hsecond, hthird, ?_, ?_⟩
  · exact (hoverlap 0 1 _ _ (by decide) hfirst hsecond).mpr (by decide)
  · rw [hoverlap 0 2 _ _ (by decide) hfirst hthird]
    decide

/-- The first test window fits and is not evaluated where ten trades are asked of a fold, and with steps of
two the first two test windows overlap. -/
theorem not_covered_once :
    (∃ r, briefRun 4 10 (by decide) = .ok r ∧
      4 + 0 * 4 + 4 ≤ holdoutStart twentyCandles.length {} ∧
      ¬ Evaluated (briefConfig 4 10 (by decide)) {} (fun _ => 0) none [] twentyCandles r 0) ∧
    ∃ r, briefRun 2 0 (by decide) = .ok r ∧ ¬ CountedOnce r := by
  constructor
  · obtain ⟨r, hr⟩ := exists_briefRun 4 10 (by decide)
    refine ⟨r, hr, by decide +kernel, ?_⟩
    rintro ⟨fold, hfold, -⟩
    obtain ⟨i, hi⟩ := List.mem_iff_getElem?.mp hfold
    exact absurd (window_of_fold hr hi).1 (by decide)
  · obtain ⟨r, hr⟩ := exists_briefRun 2 0 (by decide)
    refine ⟨r, hr, ?_⟩
    obtain ⟨first, hfirst⟩ := fold_of_rolling hr 0 (by decide)
    obtain ⟨second, hsecond⟩ := fold_of_rolling hr 1 (by decide)
    intro honce
    refine honce 0 1 first second Nat.zero_lt_one hfirst hsecond ?_
    rw [(window_of_fold hr hfirst).2.2, (window_of_fold hr hsecond).2.2]
    exact (overlap_iff _ Nat.zero_lt_one).mpr (by decide)

end PredictATrade.Research
