import Mathlib.Data.List.DropRight
import PredictATrade.Lib.Runs
import PredictATrade.Lib.Windows
import PredictATrade.Realtime.Features
import PredictATrade.Realtime.Indicators

/-!
# `Realtime.IndicatorProcess` — everything that the indicator engine reports for a candle

`IndicatorState.process` is all of `IndicatorEngine.Process`: a valid candle is put into the windows, and
the features are filled in one section after the other, each reading what those before it have left.
The decimals and floats are exact rationals, except that a division of decimals has its sixteen places.
The square root and the logarithm are those of a `MathLib`.

`run_candles`: after any candles the windows hold the last of the valid ones.
-/

namespace PredictATrade.Realtime.Indicators
open Lib.Runs Lib.Windows Features

/-- `math.Sqrt` and `math.Log10`. -/
structure MathLib where
  sqrt : ℚ → ℚ
  log10 : ℚ → ℚ
  sqrt_nonneg : ∀ v, 0 ≤ v → 0 ≤ sqrt v

/-! ## Averages and extremes of a window -/

/-- `fSMA`, the mean of the last values. -/
def fSMA (values : List ℚ) (period : ℕ) : ℚ :=
  if values.length < period ∨ period ≤ 0 then 0 else (values.rtake period).sum / period

/-- The average with a mean for its seed. -/
def fEMA (values : List ℚ) (period : ℕ) : ℚ :=
  if values.length < period ∨ period ≤ 0 then 0
  else
    let alpha := 2 / ((period + 1 : ℕ) : ℚ)
    (values.drop period).foldl (fun ema v => alpha * v + (1 - alpha) * ema)
      ((values.take period).sum / period)

/-- `fStdDev`. -/
def fStdDev (lib : MathLib) (values : List ℚ) (mean : ℚ) : ℚ :=
  if values.length = 0 then 0
  else lib.sqrt ((values.map fun v => (v - mean) * (v - mean)).sum / values.length)

/-- `fMax`, the greatest value. -/
def fMax (values : List ℚ) : ℚ := values.tail.foldl (fun m v => if v > m then v else m) (values.headD 0)

/-- `fMin`, the least value. -/
def fMin (values : List ℚ) : ℚ := values.tail.foldl (fun m v => if v < m then v else m) (values.headD 0)

/-- `fMeanDeviation`. -/
def fMeanDeviation (values : List ℚ) (mean : ℚ) : ℚ :=
  if values.length = 0 then 0 else (values.map fun v => |v - mean|).sum / values.length

/-! ## Volatility, geometry and candle shape -/

/-- `log10Decimal`, zero for what has no logarithm. -/
def log10Decimal (lib : MathLib) (d : ℚ) : ℚ := if d ≤ 0 then 0 else lib.log10 d

/-- A bar's range in the choppiness index. -/
def choppyRange (pb b : Bar) : ℚ :=
  let tr := b.high - b.low
  let tr := if |b.high - pb.close| > tr then |b.high - pb.close| else tr
  if |b.low - pb.close| > tr then |b.low - pb.close| else tr

/-- `ChoppinessIndex`. -/
def ChoppinessIndex (lib : MathLib) (highs lows closes : List ℚ) (n : ℕ) : ℚ :=
  if n ≤ 1 ∨ highs.length ≠ lows.length ∨ lows.length ≠ closes.length ∨ highs.length < n then 0
  else
    let rng := fMax (highs.rtake n) - fMin (lows.rtake n)
    if rng ≤ 0 then 0
    else
      let first := if highs.length - n > 0 then 0 else highs.headD 0 - lows.headD 0
      let ranges := (steps (bars (highs.rtake n) (lows.rtake n) (closes.rtake n))).map fun s =>
        choppyRange s.1 s.2
      let sumTR := first + ranges.sum
      if sumTR ≤ 0 then 0
      else
        let ratio := decimalDiv sumTR rng
        if ratio ≤ 1 then 0
        else
          let den := log10Decimal lib n
          if den = 0 then 0 else decimalDiv (log10Decimal lib ratio) den * 100

/-- `SqueezeState`: whether the bands are inside the channel, and whether they have just left it. -/
def SqueezeState (bbUpper bbLower kcUpper kcLower : ℚ) (prevOn : Bool) : Bool × Bool :=
  if bbUpper = 0 ∨ bbLower = 0 ∨ kcUpper = 0 ∨ kcLower = 0 then (false, false)
  else
    let on : Bool := bbUpper < kcUpper ∧ bbLower > kcLower
    (on, prevOn && !on)

/-- `ADXSlope`. -/
def ADXSlope (current previous : ℚ) : ℚ := if current = 0 ∨ previous = 0 then 0 else current - previous

/-- The slope and the coefficient of determination of the last `n` closes. -/
def LinRegSlopeR2 (closes : List ℚ) (n : ℕ) : ℚ × ℚ :=
  if n ≤ 1 ∨ closes.length < n then (0, 0)
  else
    let w := (closes.rtake n).zipIdx
    let sx := (w.map fun p => (p.2 : ℚ)).sum
    let sy := (w.map fun p => p.1).sum
    let sxx := (w.map fun p => (p.2 : ℚ) * p.2).sum
    let sxy := (w.map fun p => (p.2 : ℚ) * p.1).sum
    let syy := (w.map fun p => p.1 * p.1).sum
    let sxyBar := sxy - sx * sy / n
    let sxxBar := sxx - sx * sx / n
    if sxxBar = 0 then (0, 0)
    else
      let syyTot := syy - sy * sy / n
      let r2F := if syyTot > 0 then sxyBar * sxyBar / (sxxBar * syyTot) else 0
      (sxyBar / sxxBar, if r2F < 0 then 0 else if r2F > 1 then 1 else r2F)

/-- `LinSlopeATR`. -/
def LinSlopeATR (slope atr : ℚ) : ℚ := if atr = 0 ∨ slope = 0 then 0 else decimalDiv slope atr

/-- `CloseLocationValue`. -/
def CloseLocationValue (high low close : ℚ) : ℚ :=
  let rng := high - low
  if rng = 0 then 0 else decimalDiv (close - close + close * 2 - high - low) rng

/-! ## The features and the state -/

/-- What `Process` fills in. -/
structure IndicatorFeatures where
  ema9 : ℚ := 0
  ema21 : ℚ := 0
  ema50 : ℚ := 0
  ema100 : ℚ := 0
  ema200 : ℚ := 0
  emaCross921 : Bool := false
  sma50 : ℚ := 0
  sma100 : ℚ := 0
  sma200 : ℚ := 0
  macdMain : ℚ := 0
  macdSignal : ℚ := 0
  adx : ℚ := 0
  adxPlusDI : ℚ := 0
  adxMinusDI : ℚ := 0
  choppiness : ℚ := 0
  adxSlope : ℚ := 0
  linR2 : ℚ := 0
  linSlopeATR : ℚ := 0
  clv : ℚ := 0
  osMA : ℚ := 0
  rsi : ℚ := 0
  stochMain : ℚ := 0
  stochSignal : ℚ := 0
  cci : ℚ := 0
  atr : ℚ := 0
  bollUpper : ℚ := 0
  bollLower : ℚ := 0
  bollMiddle : ℚ := 0
  bollWidth : ℚ := 0
  squeezeOn : Bool := false
  squeezeRelease : Bool := false
  obv : ℚ := 0
  deriving DecidableEq, Repr

/-- A candle with its volume. -/
structure VolumeCandle extends Candle where
  volume : ℤ
  deriving DecidableEq, Repr

/-- What the engine keeps between candles and reads again. -/
structure IndicatorState extends IndicatorEngine where
  volumes : List ℤ := []
  prevEMA9 : ℚ := 0
  prevEMA21 : ℚ := 0
  prevADX : Option ℚ := none
  prevSqueezeOn : Bool := false
  macdHist : List ℚ := []
  stochHist : List ℚ := []

/-- `NewIndicatorEngine`. -/
def NewIndicatorEngine (lookback : ℕ) : IndicatorState where
  lookback
  candles := []
  valid := fun _ hc => absurd hc List.not_mem_nil

/-! ## The sections of `Process` -/

namespace IndicatorState
variable (lib : MathLib) (s : IndicatorState) (feat : IndicatorFeatures)

/-- The moving averages and their cross. -/
def movingAverages : IndicatorFeatures :=
  let nC := s.fCloses.length
  let ema9 := if nC ≥ 9 then fEMAWindow s.fCloses 9 else 0
  let ema21 := if nC ≥ 21 then fEMAWindow s.fCloses 21 else 0
  { feat with
    ema9
    ema21
    ema50 := if nC ≥ 50 then fEMAWindow s.fCloses 50 else 0
    ema100 := if nC ≥ 100 then fEMAWindow s.fCloses 100 else 0
    ema200 := if nC ≥ 200 then fEMAWindow s.fCloses 200 else 0
    emaCross921 := s.prevEMA9 ≠ 0 ∧ s.prevEMA21 ≠ 0 ∧ ema9 ≠ 0 ∧ ema21 ≠ 0 ∧
      s.prevEMA9 ≤ s.prevEMA21 ∧ ema9 > ema21
    sma50 := if nC ≥ 50 then fSMA s.fCloses 50 else 0
    sma100 := if nC ≥ 100 then fSMA s.fCloses 100 else 0
    sma200 := if nC ≥ 200 then fSMA s.fCloses 200 else 0 }

/-- The section of the convergence. -/
def macd : IndicatorState × IndicatorFeatures :=
  let known : Prop := s.fCloses.length ≥ 26
  let macdMain := fEMAWindow s.fCloses 12 - fEMAWindow s.fCloses 26
  let macdHist := if known then (s.macdHist ++ [macdMain]).rtake 20 else s.macdHist
  ({ s with macdHist },
    { feat with
      macdMain := if known then macdMain else feat.macdMain
      macdSignal := if known ∧ macdHist.length ≥ 9 then fEMA macdHist 9 else feat.macdSignal })

/-- The section of the directional index. -/
def adx : IndicatorFeatures :=
  let known : Prop := s.fHighs.length ≥ 28
  let result := fADXWilder s.fHighs s.fLows s.fCloses 14
  { feat with
    adx := if known then result.1 else feat.adx
    adxPlusDI := if known then result.2.1 else feat.adxPlusDI
    adxMinusDI := if known then result.2.2 else feat.adxMinusDI }

/-- Choppiness, the slope of the ADX, the regression of the closes and where the last one lies. -/
def geometry : IndicatorState × IndicatorFeatures :=
  let regressed : Prop := s.fCloses.length ≥ 20 ∧ feat.atr ≠ 0
  ({ s with prevADX := if feat.adx ≠ 0 then some feat.adx else s.prevADX },
    { feat with
      choppiness :=
        if s.fHighs.length ≥ 14 then ChoppinessIndex lib s.fHighs s.fLows s.fCloses 14 else feat.choppiness
      adxSlope :=
        match s.prevADX with
        | some prev => if feat.adx ≠ 0 then ADXSlope feat.adx prev else feat.adxSlope
        | none => feat.adxSlope
      linR2 := if regressed then (LinRegSlopeR2 s.fCloses 20).2 else feat.linR2
      linSlopeATR :=
        if regressed then LinSlopeATR (LinRegSlopeR2 s.fCloses 20).1 feat.atr else feat.linSlopeATR
      clv :=
        match s.candles.getLast? with
        | some c => CloseLocationValue c.high c.low c.close
        | none => feat.clv })

/-- The relative strength, the stochastic oscillator and the channel index, the last close being `cc`. -/
def momentum (cc : ℚ) : IndicatorState × IndicatorFeatures :=
  let nC := s.fCloses.length
  let lowestLow := fMin (s.fLows.rtake 14)
  let rangeVal := fMax (s.fHighs.rtake 14) - lowestLow
  let ranged : Prop := nC ≥ 14 ∧ rangeVal > 0
  let stochMain := 100 * (cc - lowestLow) / rangeVal
  let stochHist := if ranged then (s.stochHist ++ [stochMain]).rtake 10 else s.stochHist
  let tp := (bars (s.fHighs.rtake 20) (s.fLows.rtake 20) (s.fCloses.rtake 20)).map fun b =>
    (b.high + b.low + b.close) / 3
  let smaTP := fSMA tp 20
  let meanDev := fMeanDeviation tp smaTP
  ({ s with stochHist },
    { feat with
      osMA :=
        if feat.macdMain ≠ 0 ∧ feat.macdSignal ≠ 0 then feat.macdMain - feat.macdSignal else feat.osMA
      rsi := if nC ≥ 14 then fRSIWilder s.fCloses 14 else feat.rsi
      stochMain := if ranged then stochMain else feat.stochMain
      stochSignal :=
        if ranged then
          if stochHist.length ≥ 3 then fSMA stochHist 3 else fSMA stochHist stochHist.length
        else feat.stochSignal
      cci :=
        if nC ≥ 20 ∧ meanDev > 0 then (tp.getLastD 0 - smaTP) / (15 / 1000 * meanDev) else feat.cci })

/-- The true range and the Bollinger bands. -/
def bands : IndicatorFeatures :=
  let nC := s.fCloses.length
  let sma := fSMA s.fCloses 20
  let stdDev := fStdDev lib (s.fCloses.rtake 20) sma
  { feat with
    atr := if nC ≥ 14 then fATRWilder s.fHighs s.fLows s.fCloses 14 else feat.atr
    bollMiddle := if nC ≥ 20 then sma else feat.bollMiddle
    bollUpper := if nC ≥ 20 then sma + 2 * stdDev else feat.bollUpper
    bollLower := if nC ≥ 20 then sma - 2 * stdDev else feat.bollLower
    bollWidth := if nC ≥ 20 ∧ sma > 0 then 4 * stdDev / sma else feat.bollWidth }

/-- The bands within the Keltner channel. -/
def squeeze : IndicatorState × IndicatorFeatures :=
  let ema20 := fEMAWindow s.fCloses 20
  let state := SqueezeState feat.bollUpper feat.bollLower (ema20 + feat.atr * 2) (ema20 - feat.atr * 2)
    s.prevSqueezeOn
  let known : Prop := s.fCloses.length ≥ 20 ∧ feat.atr ≠ 0
  ({ s with prevSqueezeOn := if known then state.1 else s.prevSqueezeOn },
    { feat with
      squeezeOn := if known then state.1 else feat.squeezeOn
      squeezeRelease := if known then state.2 else feat.squeezeRelease })

/-- A bar's part of the on-balance volume. -/
def obvDelta (pc c : ℚ) (volume : ℤ) : ℚ := if c > pc then volume else if c < pc then -volume else 0

/-- The section of the volume on balance. -/
def onBalance : IndicatorFeatures :=
  let deltas := List.zipWith (fun p v => obvDelta p.1 p.2 v) (s.fCloses.zip s.fCloses.tail) s.volumes.tail
  { feat with obv := if s.fCloses.length ≥ 2 then deltas.sum else feat.obv }

/-- The windows with one more candle. -/
def push (candle : VolumeCandle) : IndicatorState :=
  { s with
    toIndicatorEngine := s.toIndicatorEngine.process candle.toCandle
    volumes := (s.volumes ++ [candle.volume]).rtake s.lookback }

/-- `Process`. -/
def process (candle : VolumeCandle) : IndicatorState × IndicatorFeatures :=
  if candle.toCandle.Valid then
    let s := s.push candle
    let feat := s.movingAverages {}
    let (s, feat) := s.macd feat
    let feat := s.adx feat
    let (s, feat) := s.geometry lib feat
    let (s, feat) := s.momentum feat candle.close
    let feat := s.bands lib feat
    let (s, feat) := s.squeeze feat
    let feat := s.onBalance feat
    ({ s with prevEMA9 := feat.ema9, prevEMA21 := feat.ema21 }, feat)
  else (s, {})

/-! ## What is reported for a valid candle -/

theorem fStdDev_nonneg (lib : MathLib) (values : List ℚ) (mean : ℚ) : 0 ≤ fStdDev lib values mean := by
  unfold fStdDev
  split
  · exact le_rfl
  · apply lib.sqrt_nonneg
    have hsum : 0 ≤ (values.map fun v => (v - mean) * (v - mean)).sum :=
      List.sum_nonneg (List.forall_mem_map.mpr fun v _ => mul_self_nonneg _)
    exact div_nonneg hsum (Nat.cast_nonneg _)

/-- The window of the engine with one more candle. -/
theorem process_eq {e : IndicatorEngine} {c : Candle} (h : c.Valid) :
    (e.process c).candles = (e.candles ++ [c]).rtake e.lookback ∧ (e.process c).lookback = e.lookback := by
  unfold IndicatorEngine.process List.rtake
  rw [dif_pos h, List.length_append, List.length_singleton]
  exact ⟨rfl, rfl⟩

section
variable {lib : MathLib} {s : IndicatorState} {candle : VolumeCandle}

theorem process_rejected (h : ¬ candle.toCandle.Valid) : s.process lib candle = (s, {}) := if_neg h

variable (h : candle.toCandle.Valid)
include h

variable (lib s) in
theorem process_window :
    (s.process lib candle).1.toIndicatorEngine = s.toIndicatorEngine.process candle.toCandle := by
  unfold process
  rw [if_pos h]
  rfl

variable (lib s) in
theorem process_adx : ∃ result,
    result = (if (s.push candle).fHighs.length ≥ 28 then
        fADXWilder (s.push candle).fHighs (s.push candle).fLows (s.push candle).fCloses 14
      else (0, 0, 0)) ∧
      (s.process lib candle).2.adx = result.1 ∧ (s.process lib candle).2.adxPlusDI = result.2.1 ∧
        (s.process lib candle).2.adxMinusDI = result.2.2 := by
  refine ⟨_, rfl, ?_⟩
  unfold process
  rw [if_pos h]
  by_cases hlen : (s.push candle).fHighs.length ≥ 28
  · rw [if_pos hlen]
    exact ⟨if_pos hlen, if_pos hlen, if_pos hlen⟩
  · rw [if_neg hlen]
    exact ⟨if_neg hlen, if_neg hlen, if_neg hlen⟩

theorem process_rsi : (s.process lib candle).2.rsi =
    if (s.push candle).fCloses.length ≥ 14 then fRSIWilder (s.push candle).fCloses 14 else 0 := by
  unfold process
  rw [if_pos h]
  rfl

theorem process_stochMain : (s.process lib candle).2.stochMain =
    if (s.push candle).fCloses.length ≥ 14 ∧
        fMax ((s.push candle).fHighs.rtake 14) - fMin ((s.push candle).fLows.rtake 14) > 0 then
      100 * (candle.close - fMin ((s.push candle).fLows.rtake 14)) /
        (fMax ((s.push candle).fHighs.rtake 14) - fMin ((s.push candle).fLows.rtake 14))
    else 0 := by
  unfold process
  rw [if_pos h]
  rfl

theorem process_atr : (s.process lib candle).2.atr =
    if (s.push candle).fCloses.length ≥ 14 then
      fATRWilder (s.push candle).fHighs (s.push candle).fLows (s.push candle).fCloses 14
    else 0 := by
  unfold process
  rw [if_pos h]
  rfl

variable (lib s) in
/-- The bands lie as far below the mean as above it. -/
theorem process_bands : ∃ mean dev, 0 ≤ dev ∧ (s.process lib candle).2.bollMiddle = mean ∧
    (s.process lib candle).2.bollUpper = mean + 2 * dev ∧
      (s.process lib candle).2.bollLower = mean - 2 * dev := by
  have hmiddle : (s.process lib candle).2.bollMiddle =
      if (s.push candle).fCloses.length ≥ 20 then fSMA (s.push candle).fCloses 20 else 0 := by
    unfold process
    rw [if_pos h]
    rfl
  have hupper : (s.process lib candle).2.bollUpper =
      if (s.push candle).fCloses.length ≥ 20 then
        fSMA (s.push candle).fCloses 20 +
          2 * fStdDev lib ((s.push candle).fCloses.rtake 20) (fSMA (s.push candle).fCloses 20)
      else 0 := by
    unfold process
    rw [if_pos h]
    rfl
  have hlower : (s.process lib candle).2.bollLower =
      if (s.push candle).fCloses.length ≥ 20 then
        fSMA (s.push candle).fCloses 20 -
          2 * fStdDev lib ((s.push candle).fCloses.rtake 20) (fSMA (s.push candle).fCloses 20)
      else 0 := by
    unfold process
    rw [if_pos h]
    rfl
  by_cases hlen : (s.push candle).fCloses.length ≥ 20
  · rw [if_pos hlen] at hmiddle hupper hlower
    exact ⟨_, _, fStdDev_nonneg lib _ _, hmiddle, hupper, hlower⟩
  · rw [if_neg hlen] at hmiddle hupper hlower
    refine ⟨0, 0, le_rfl, hmiddle, ?_, ?_⟩
    · rw [hupper, mul_zero, add_zero]
    · rw [hlower, mul_zero, sub_zero]

variable (lib s) in
/-- The section with the regression comes before the one with the true range. -/
theorem process_regression :
    (s.process lib candle).2.linR2 = 0 ∧ (s.process lib candle).2.linSlopeATR = 0 := by
  unfold process
  rw [if_pos h]
  exact ⟨if_neg fun hand => hand.2 rfl, if_neg fun hand => hand.2 rfl⟩

end

/-! ## Runs -/

section
variable (lib : MathLib) (lookback : ℕ) (candles : List VolumeCandle)

/-- The engine after these candles. -/
def after : IndicatorState :=
  run (fun s candle => (s.process lib candle).1) (NewIndicatorEngine lookback) candles

/-- What is reported for a candle that comes after these. -/
def report (candle : VolumeCandle) : IndicatorFeatures := ((after lib lookback candles).process lib candle).2

/-- The last of the valid candles. -/
def window : List Candle := ((candles.map (·.toCandle)).filter (·.Valid)).rtake lookback

/-- **The windows of a run.** -/
theorem run_candles : (after lib lookback candles).candles = window lookback candles ∧
    (after lib lookback candles).lookback = lookback := by
  induction candles using List.reverseRecOn with
  | nil => exact ⟨List.drop_nil.symm, rfl⟩
  | append_singleton candles candle ih =>
    obtain ⟨hcandles, hlookback⟩ := ih
    have hrun : after lib lookback (candles ++ [candle]) =
        ((after lib lookback candles).process lib candle).1 := run_snoc _ _ _
    rw [hrun]
    unfold window at hcandles ⊢
    rw [List.map_append, List.filter_append]
    by_cases h : candle.toCandle.Valid
    · have hstep := process_window lib (after lib lookback candles) h
      obtain ⟨hpushed, hkept⟩ := process_eq (e := (after lib lookback candles).toIndicatorEngine) h
      rw [hstep, hpushed, hkept, hcandles, hlookback, List.map_singleton,
        List.filter_cons_of_pos (p := fun c : Candle => decide c.Valid) (decide_eq_true h),
        List.filter_nil, rtake_rtake_append]
      exact ⟨rfl, rfl⟩
    · rw [process_rejected h, List.map_singleton,
        List.filter_cons_of_neg (p := fun c : Candle => decide c.Valid) (by rwa [decide_eq_true_eq]),
        List.filter_nil, List.append_nil]
      exact ⟨hcandles, hlookback⟩

/-- What the sections work on when a valid candle comes. -/
theorem push_candles {candle : VolumeCandle} (h : candle.toCandle.Valid) :
    ((after lib lookback candles).push candle).candles = window lookback (candles ++ [candle]) := by
  have hrun : after lib lookback (candles ++ [candle]) =
      ((after lib lookback candles).process lib candle).1 := run_snoc _ _ _
  rw [← (run_candles lib lookback (candles ++ [candle])).1, hrun, process_window lib _ h]
  rfl

end

end IndicatorState

end PredictATrade.Realtime.Indicators
