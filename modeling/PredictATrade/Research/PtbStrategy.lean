import PredictATrade.Research.PtbIndicators

/-!
# `Research.PtbStrategy` — the strategy adapter

`PTBStrategyAdapter.evaluate` scores a bar: each piece of evidence speaks for buying or selling, the families
of evidence are capped, and the side with the greater sum is taken if no gate turns it away. `MARNIE_FIB` has
a path of its own, with the retracement of the last swing in place of most gates.

A bar comes out in one of three ways (`evaluate_cases`): turned away, held back for the higher timeframe, or
with a direction and the levels that the configuration puts around the close.
-/

namespace PredictATrade.Research

/-! ## Configurations -/

/-- The regimes of the adapter. -/
inductive MarketRegime where
  | trendingBullish | trendingBearish | breakout | meanReversion | range | highVolatility
  deriving DecidableEq, Repr

/-- The text of a regime in a signal. -/
def MarketRegime.value : MarketRegime → String
  | trendingBullish => "TRENDING_BULLISH"
  | trendingBearish => "TRENDING_BEARISH"
  | breakout => "BREAKOUT"
  | meanReversion => "MEAN_REVERSION"
  | range => "RANGE"
  | highVolatility => "HIGH_VOLATILITY"

/-- What a strategy is configured with: the thresholds of its gates and the multiples of the average
range that its levels are away. -/
structure StrategyConfig where
  minConfluence : ℚ
  atrSl : ℚ
  atrTp1 : ℚ
  atrTp2 : ℚ
  atrTp3 : ℚ
  minAdx : ℚ
  minRr : ℚ
  requireSweepReclaim : Bool := false
  acceptedRegimes : List MarketRegime
  deriving DecidableEq, Repr

namespace StrategyConfig

/-- The configuration of `STANDARD_SCALPING`. -/
def standardScalping : StrategyConfig where
  minConfluence := 65
  atrSl := 15 / 10
  atrTp1 := 25 / 10
  atrTp2 := 35 / 10
  atrTp3 := 45 / 10
  minAdx := 20
  minRr := 15 / 10
  acceptedRegimes := [.trendingBullish, .trendingBearish, .breakout, .meanReversion]

/-- The configuration of `ULTRA_SCALPING`. -/
def ultraScalping : StrategyConfig where
  minConfluence := 75
  atrSl := 1
  atrTp1 := 15 / 10
  atrTp2 := 2
  atrTp3 := 25 / 10
  minAdx := 25
  minRr := 1
  acceptedRegimes := [.trendingBullish, .trendingBearish, .breakout]

/-- The configuration of `STANDARD_SWING`. -/
def standardSwing : StrategyConfig where
  minConfluence := 55
  atrSl := 2
  atrTp1 := 3
  atrTp2 := 4
  atrTp3 := 5
  minAdx := 18
  minRr := 15 / 10
  acceptedRegimes := [.trendingBullish, .trendingBearish, .breakout, .range]

/-- The configuration of `TREND_SWING`. -/
def trendSwing : StrategyConfig where
  minConfluence := 50
  atrSl := 25 / 10
  atrTp1 := 4
  atrTp2 := 55 / 10
  atrTp3 := 7
  minAdx := 15
  minRr := 15 / 10
  acceptedRegimes := [.trendingBullish, .trendingBearish, .breakout]

/-- The configuration of `MARNIE_FIB`. -/
def marnieFib : StrategyConfig where
  minConfluence := 40
  atrSl := 15 / 10
  atrTp1 := 2
  atrTp2 := 35 / 10
  atrTp3 := 55 / 10
  minAdx := 15
  minRr := 1
  acceptedRegimes :=
    [.trendingBullish, .trendingBearish, .breakout, .meanReversion, .range, .highVolatility]

end StrategyConfig

/-- The configurations by the identifiers of their strategies. -/
def strategyConfigs : List (String × StrategyConfig) :=
  [("STANDARD_SCALPING", .standardScalping),
    ("ULTRA_SCALPING", .ultraScalping),
    ("STANDARD_SWING", .standardSwing),
    ("TREND_SWING", .trendSwing),
    ("MARNIE_FIB", .marnieFib)]

/-- An unknown strategy gets the configuration of standard scalping. -/
def configOf (strategyId : String) : StrategyConfig :=
  (strategyConfigs.lookup strategyId).getD .standardScalping

/-- In no configuration is the first target as far from the entry as the stop. -/
theorem configOf_atrSl_ne_atrTp1 (strategyId : String) :
    (configOf strategyId).atrSl ≠ (configOf strategyId).atrTp1 := by
  have hall : ∀ c ∈ strategyConfigs, c.2.atrSl ≠ c.2.atrTp1 := by decide +kernel
  unfold configOf
  cases h : strategyConfigs.lookup strategyId with
  | none => exact hall ("STANDARD_SCALPING", .standardScalping) List.mem_cons_self
  | some c =>
      have hmem : (strategyId, c) ∈ strategyConfigs := by
        obtain ⟨l, r, heq, -⟩ := List.lookup_eq_some_iff.mp h
        simp [heq]
      exact hall _ hmem

/-! ## Evidence -/

/-- The families that evidence is capped by. -/
inductive Pillar where
  | trend | momentum | volatility | vwap | structural | liquidity | smc | mtf | candle | regime
  | fibonacci
  deriving DecidableEq, Repr

/-- `FAMILY_CAPS`; a family that is not listed has the cap 1. -/
def familyCap : Pillar → ℚ
  | .trend => 25 / 100
  | .momentum => 20 / 100
  | .volatility => 10 / 100
  | .vwap => 10 / 100
  | .structural => 20 / 100
  | .liquidity => 15 / 100
  | .smc => 15 / 100
  | .mtf => 15 / 100
  | .candle => 15 / 100
  | .regime => 10 / 100
  | .fibonacci => 1

/-- What a piece of evidence has seen. -/
inductive Feature where
  | ema9AboveEma21 | ema9BelowEma21 | macdBullish | macdBearish | rsiBullishMid | rsiBearishMid
  | adxBullish | adxBearish | bullishDisplacement | bearishDisplacement | priceAboveVwap
  | priceBelowVwap | higherHighHigherLow | lowerHighLowerLow | liquiditySweepReclaim
  | liquiditySweepReject | bullishRegime | bearishRegime | h1Bullish | h1Bearish | goldenZone
  | highConfluence | nearGoldenZone
  deriving DecidableEq, Repr

/-- A piece of evidence: what was seen, which way it points, and how much it contributes. -/
structure Evidence where
  pillar : Pillar
  feature : Feature
  direction : Direction
  weight : ℚ
  contribution : ℚ
  deriving DecidableEq, Repr

/-- The contributions of a family, both directions together. -/
def familySum (evidence : List Evidence) (pillar : Pillar) : ℚ :=
  ((evidence.filter (·.pillar = pillar)).map (·.contribution)).sum

/-- A family beyond its cap is scaled down to it. -/
def applyFamilyCaps (evidence : List Evidence) : List Evidence :=
  evidence.map fun e =>
    let cap := familyCap e.pillar
    let famSum := familySum evidence e.pillar
    if famSum > cap then { e with contribution := e.contribution * (cap / famSum) } else e

/-- The contributions of one direction, in percent. -/
def score (evidence : List Evidence) (direction : Direction) : ℚ :=
  ((evidence.filter (·.direction = direction)).map (·.contribution)).sum * 100

/-- The side with the greater score; selling where they are equal. -/
def sideOf (evidence : List Evidence) : Direction :=
  if score evidence .buy > score evidence .sell then .buy else .sell

/-- The score of the stronger direction. -/
def rawScore (evidence : List Evidence) : ℚ :=
  if score evidence .buy > score evidence .sell then score evidence .buy else score evidence .sell

theorem sideOf_cases (evidence : List Evidence) : sideOf evidence = .buy ∨ sideOf evidence = .sell := by
  unfold sideOf
  split_ifs
  · exact .inl rfl
  · exact .inr rfl

/-- The highest price of the candles, zero without candles. -/
def highest (candles : List HistoricalCandle) : ℚ := (candles.map (·.high)).max?.getD 0

/-- The lowest price of the candles, zero without candles. -/
def lowest (candles : List HistoricalCandle) : ℚ := (candles.map (·.low)).min?.getD 0

/-- The regime by the strength of the trend. -/
def classifyRegime (ind : Indicators) : MarketRegime :=
  if ind.adx > 25 then
    if ind.rsi > 50 then .trendingBullish else .trendingBearish
  else if ind.adx > 18 then .breakout
  else if ind.rsi > 60 then .trendingBullish
  else if ind.rsi < 40 then .trendingBearish
  else .range

/-- The grade of a setup. -/
def gradeScore (score : ℚ) : String :=
  if score ≥ 90 then "A+"
  else if score ≥ 80 then "A"
  else if score ≥ 70 then "B"
  else if score ≥ 60 then "C"
  else "D"

/-! ## Levels -/

/-- The stop and the targets of a signal. -/
structure Levels where
  stopLoss : ℚ
  tp1 : ℚ
  tp2 : ℚ
  tp3 : ℚ
  deriving DecidableEq, Repr

/-- Around the entry, in multiples of the average true range. -/
def StrategyConfig.levels (config : StrategyConfig) (direction : Direction) (entry atr : ℚ) : Levels :=
  if direction = .buy then
    { stopLoss := entry - atr * config.atrSl
      tp1 := entry + atr * config.atrTp1
      tp2 := entry + atr * config.atrTp2
      tp3 := entry + atr * config.atrTp3 }
  else
    { stopLoss := entry + atr * config.atrSl
      tp1 := entry - atr * config.atrTp1
      tp2 := entry - atr * config.atrTp2
      tp3 := entry - atr * config.atrTp3 }

/-- The first target is too near for the risk of the stop. -/
def StrategyConfig.PoorRr (config : StrategyConfig) (entry : ℚ) (l : Levels) : Prop :=
  |entry - l.stopLoss| > 0 ∧ |l.tp1 - entry| / |entry - l.stopLoss| < config.minRr

instance StrategyConfig.decidablePoorRr (config : StrategyConfig) (entry : ℚ) (l : Levels) :
    Decidable (config.PoorRr entry l) :=
  inferInstanceAs (Decidable (_ ∧ _))

/-- The signal is one to buy or to sell. -/
abbrev SignalEvent.Directional (signal : SignalEvent) : Prop :=
  signal.direction = .buy ∨ signal.direction = .sell

/-- The levels that a signal carries. -/
def SignalEvent.levels (signal : SignalEvent) : Levels where
  stopLoss := signal.stopLoss
  tp1 := signal.tp1
  tp2 := signal.tp2
  tp3 := signal.tp3

/-! ## Retracements -/

/-- What `compute_marnie_fib` gives. -/
structure MarnieFibResult where
  goldenZoneLow : ℚ
  goldenZoneHigh : ℚ
  confluenceScore : ℚ
  deriving DecidableEq, Repr

/-- `compute_marnie_fib` without earlier levels. `bull` retracements go down from the swing high. -/
def computeMarnieFib (swingHigh swingLow currentPrice : ℚ) (bull : Bool) : MarnieFibResult :=
  let swapped : Bool := swingHigh ≤ swingLow
  let top := if swapped then swingLow else swingHigh
  let bottom := if swapped then swingHigh else swingLow
  let bull := if swapped then !bull else bull
  let rangeVal := top - bottom
  let low := if bull then top - rangeVal * (618 / 1000) else bottom + rangeVal * (786 / 1000)
  let high := if bull then top - rangeVal * (786 / 1000) else bottom + rangeVal * (618 / 1000)
  let goldenZoneLow := if low > high then high else low
  let goldenZoneHigh := if low > high then low else high
  { goldenZoneLow
    goldenZoneHigh
    confluenceScore :=
      if goldenZoneLow ≤ currentPrice ∧ currentPrice ≤ goldenZoneHigh then 100
      else
        let distFromGolden := min |currentPrice - goldenZoneLow| |currentPrice - goldenZoneHigh|
        max 0 (100 - distFromGolden / rangeVal * 200) }

/-! ## The adapter -/

/-- The adapter after `initialize`: its strategy, the candles, and one record of indicators for
each. -/
structure PTBStrategyAdapter where
  strategyId : String := "STANDARD_SCALPING"
  candles : List HistoricalCandle := []
  indicators : List Indicators := []
  deriving DecidableEq, Repr

namespace PTBStrategyAdapter

/-- `initialize`. -/
def initialized (s : PTBStrategyAdapter) (candles : List HistoricalCandle) : PTBStrategyAdapter :=
  { s with candles, indicators := computeIndicators candles }

variable (s : PTBStrategyAdapter) (a : TimeframeAlignment) (ind : Indicators)

/-- The configuration of the adapter's strategy. -/
def config : StrategyConfig := configOf s.strategyId

/-- `self._candles[lo:hi]`. -/
def slice (lo hi : ℕ) : List HistoricalCandle := (s.candles.take hi).drop lo

/-! ### The evidence of a bar -/

/-- Which of the two averages is on top. -/
def trendEvidence : List Evidence :=
  if ind.ema9 > ind.ema21 then [⟨.trend, .ema9AboveEma21, .buy, 15, 12 / 100⟩]
  else [⟨.trend, .ema9BelowEma21, .sell, 15, 12 / 100⟩]

/-- Which side of its signal the convergence is on. -/
def macdEvidence : List Evidence :=
  if ind.macdMain > ind.macdSignal then [⟨.momentum, .macdBullish, .buy, 10, 6 / 100⟩]
  else [⟨.momentum, .macdBearish, .sell, 10, 6 / 100⟩]

/-- A relative strength that is off the middle, and not at an extreme. -/
def rsiEvidence : List Evidence :=
  if 50 < ind.rsi ∧ ind.rsi < 70 then [⟨.momentum, .rsiBullishMid, .buy, 8, 5 / 100⟩]
  else if 30 < ind.rsi ∧ ind.rsi < 50 then [⟨.momentum, .rsiBearishMid, .sell, 8, 5 / 100⟩]
  else []

/-- A trend that is strong enough, by the side of the average that the close is on. -/
def adxEvidence : List Evidence :=
  if ind.adx > s.config.minAdx then
    if a.primaryCandle.close > ind.ema9 then [⟨.trend, .adxBullish, .buy, 10, 7 / 100⟩]
    else [⟨.trend, .adxBearish, .sell, 10, 7 / 100⟩]
  else []

/-- A candle whose body makes up most of its range. -/
def candleEvidence : List Evidence :=
  let candle := a.primaryCandle
  let body := candle.close - candle.opening
  let barRange := candle.high - candle.low
  let bodyRatio := if barRange > 0 then |body| / barRange else 0
  (if body > 0 ∧ bodyRatio > 6 / 10 then [⟨.candle, .bullishDisplacement, .buy, 15, 10 / 100⟩] else []) ++
    (if body < 0 ∧ bodyRatio > 6 / 10 then [⟨.candle, .bearishDisplacement, .sell, 15, 10 / 100⟩] else [])

/-- Which side of the price by volume the close is on. -/
def vwapEvidence : List Evidence :=
  if a.primaryCandle.close > ind.vwap then [⟨.vwap, .priceAboveVwap, .buy, 10, 10 / 100⟩]
  else if a.primaryCandle.close < ind.vwap then [⟨.vwap, .priceBelowVwap, .sell, 10, 10 / 100⟩]
  else []

/-- Of the last forty candles before the bar, the first half against the second. -/
def structureEvidence : List Evidence :=
  let idx := a.primaryIndex
  let first := s.slice (idx - 40) (idx - 20)
  let second := s.slice (idx - 20) idx
  if idx ≥ 40 ∧ first ≠ [] ∧ second ≠ [] then
    if highest second > highest first ∧ lowest second > lowest first then
      [⟨.structural, .higherHighHigherLow, .buy, 20, 18 / 100⟩]
    else if highest second < highest first ∧ lowest second < lowest first then
      [⟨.structural, .lowerHighLowerLow, .sell, 20, 18 / 100⟩]
    else []
  else []

/-- A new low that is reclaimed, or a new high that is rejected. -/
def sweepEvidence : List Evidence :=
  let idx := a.primaryIndex
  let candle := a.primaryCandle
  let body := candle.close - candle.opening
  let prior := s.slice (idx - 20) idx
  if idx ≥ 20 then
    if candle.low < lowest prior ∧ candle.close > lowest prior ∧ body > 0 then
      [⟨.smc, .liquiditySweepReclaim, .buy, 15, 15 / 100⟩]
    else if candle.high > highest prior ∧ candle.close < highest prior ∧ body < 0 then
      [⟨.smc, .liquiditySweepReject, .sell, 15, 15 / 100⟩]
    else []
  else []

/-- What the regime says of the direction. -/
def regimeEvidence : List Evidence :=
  match classifyRegime ind with
  | .trendingBullish | .breakout => [⟨.regime, .bullishRegime, .buy, 10, 10 / 100⟩]
  | .trendingBearish => [⟨.regime, .bearishRegime, .sell, 10, 10 / 100⟩]
  | _ => []

/-- What the candle of the hour says of the direction. -/
def mtfEvidence : List Evidence :=
  match a.higherTfCandles.lookup "H1" with
  | none => []
  | some h1 =>
    if h1.close > h1.opening then [⟨.mtf, .h1Bullish, .buy, 15, 15 / 100⟩]
    else [⟨.mtf, .h1Bearish, .sell, 15, 15 / 100⟩]

/-- Its callers hand over the candle and the index of the alignment. -/
def generateEvidence : List Evidence :=
  trendEvidence ind ++ macdEvidence ind ++ rsiEvidence ind ++ s.adxEvidence a ind ++ candleEvidence a ++
    vwapEvidence a ind ++ s.structureEvidence a ++ s.sweepEvidence a ++ regimeEvidence ind ++ mtfEvidence a

/-- 25 against the candle of the hour, 0 with it or without one. -/
def checkMtfConflict (direction : Direction) : ℚ :=
  match a.higherTfCandles.lookup "H1" with
  | none => 0
  | some h1 =>
    let h1Bullish := h1.close > h1.opening
    if direction = .buy ∧ ¬ h1Bullish then 25
    else if direction = .sell ∧ h1Bullish then 25
    else 0

/-! ### Signals -/

/-- A signal without a trade. -/
def noTrade (reason : String) : SignalEvent where
  timestamp := a.primaryCandle.timestamp
  direction := .noTrade
  strategyId := s.strategyId
  reasonCodes := [reason]

/-- The signal of a bar that no gate turns away. -/
def entry (evidence : List Evidence) : SignalEvent :=
  let candle := a.primaryCandle
  let raw := rawScore evidence
  let l := s.config.levels (sideOf evidence) candle.close ind.atr
  { timestamp := candle.timestamp
    direction := sideOf evidence
    strategyId := s.strategyId
    rawScore := raw
    confluence := raw
    confidence := min 100 raw
    setupGrade := gradeScore raw
    regime := (classifyRegime ind).value
    session := (getSession candle.timestamp).session.value
    entryPrice := candle.close
    stopLoss := l.stopLoss
    tp1 := l.tp1
    tp2 := l.tp2
    tp3 := l.tp3 }

/-! ### The path of `MARNIE_FIB` -/

/-- The candle and the fifty before it. -/
def fibWindow : List HistoricalCandle := s.slice (a.primaryIndex - 50) (a.primaryIndex + 1)

/-- What the retracement adds for `MARNIE_FIB`. -/
def fibEvidence : List Evidence :=
  let currentPrice := a.primaryCandle.close
  let bull : Bool := ind.ema9 > ind.ema21
  let fib := computeMarnieFib (highest (s.fibWindow a)) (lowest (s.fibWindow a)) currentPrice bull
  let inGolden := fib.goldenZoneLow ≤ currentPrice ∧ currentPrice ≤ fib.goldenZoneHigh
  let d := if bull then Direction.buy else .sell
  if inGolden ∨ fib.confluenceScore ≥ 100 then
    [⟨.fibonacci, .goldenZone, d, 20, 15 / 100⟩, ⟨.fibonacci, .highConfluence, d, 15, 10 / 100⟩]
  else if fib.confluenceScore > 50 then [⟨.fibonacci, .nearGoldenZone, d, 12, 8 / 100⟩]
  else []

/-- The capped evidence of `MARNIE_FIB`. -/
def fibScored : List Evidence := applyFamilyCaps (s.generateEvidence a ind ++ s.fibEvidence a ind)

/-- `_evaluate_marnie_fib`. -/
def evaluateMarnieFib : SignalEvent :=
  let regime := (classifyRegime ind).value
  let session := (getSession a.primaryCandle.timestamp).session.value
  let evidence := s.fibScored a ind
  let close := a.primaryCandle.close
  if highest (s.fibWindow a) ≤ lowest (s.fibWindow a) then
    { s.noTrade a "FIB_NO_SWING_ANCHORS" with regime, session }
  else if rawScore evidence < s.config.minConfluence then
    { s.noTrade a "INSUFFICIENT_SCORE" with rawScore := rawScore evidence, regime, session }
  else if s.config.PoorRr close (s.config.levels (sideOf evidence) close ind.atr) then s.noTrade a "POOR_RR"
  else s.entry a ind evidence

/-! ### The other strategies -/

/-- The capped evidence of the other strategies. -/
def scored : List Evidence := applyFamilyCaps (s.generateEvidence a ind)

/-- The sweep that `require_sweep_reclaim` asks for. -/
def hasTrigger (evidence : List Evidence) : Bool :=
  evidence.any fun e =>
    (e.feature = .liquiditySweepReclaim ∨ e.feature = .liquiditySweepReject) ∧ e.direction = sideOf evidence

/-- The default spread against the average true range. -/
def HighSpread (atr : ℚ) : Prop := atr > 0 ∧ 3 / 10 / atr > 5 / 10

instance decidableHighSpread (atr : ℚ) : Decidable (HighSpread atr) := inferInstanceAs (Decidable (_ ∧ _))

/-- The gates of the other strategies, one after the other. -/
def evaluateGates : SignalEvent :=
  let regime := (classifyRegime ind).value
  let sessionInfo := getSession a.primaryCandle.timestamp
  let session := sessionInfo.session.value
  let evidence := s.scored a ind
  let direction := sideOf evidence
  let raw := rawScore evidence
  let close := a.primaryCandle.close
  if classifyRegime ind ∉ s.config.acceptedRegimes then { s.noTrade a "REGIME_NOT_ACCEPTED" with regime }
  else if !sessionInfo.sessionAllowed then { s.noTrade a "SESSION_NOT_ALLOWED" with session }
  else if raw < s.config.minConfluence then
    { s.noTrade a "INSUFFICIENT_SCORE" with rawScore := raw, regime, session }
  else if checkMtfConflict a direction > 20 then
    { s.noTrade a "CONFLICTING_TIMEFRAMES" with direction := .wait, rawScore := raw, regime, session }
  else if s.config.requireSweepReclaim ∧ !hasTrigger evidence then
    { s.noTrade a "NO_SWEEP_RECLAIM_TRIGGER" with rawScore := raw, regime, session }
  else if direction = .buy ∧ ind.rsi > 72 then
    { s.noTrade a "RSI_OVERBOUGHT" with rawScore := raw, regime, session }
  else if direction = .sell ∧ ind.rsi < 28 then
    { s.noTrade a "RSI_OVERSOLD" with rawScore := raw, regime, session }
  else if s.config.PoorRr close (s.config.levels direction close ind.atr) then s.noTrade a "POOR_RR"
  else if HighSpread ind.atr then s.noTrade a "HIGH_SPREAD"
  else s.entry a ind evidence

/-- The indicators of the bar, none without enough history. -/
def current? : Option Indicators :=
  if a.primaryIndex < 28 then none else s.indicators[a.primaryIndex]?

/-- `evaluate`. -/
def evaluate : SignalEvent :=
  match s.current? a with
  | none => s.noTrade a "INSUFFICIENT_HISTORY"
  | some ind =>
    if s.strategyId = "MARNIE_FIB" then s.evaluateMarnieFib a ind else s.evaluateGates a ind

/-! ## The ways out of a bar -/

/-- What stops `MARNIE_FIB`. -/
def FibTurnsAway : Prop :=
  let close := a.primaryCandle.close
  let evidence := s.fibScored a ind
  highest (s.fibWindow a) ≤ lowest (s.fibWindow a) ∨
    rawScore evidence < s.config.minConfluence ∨
    s.config.PoorRr close (s.config.levels (sideOf evidence) close ind.atr)

/-- The gates in front of the check for a conflict of timeframes. -/
def EarlyGate : Prop :=
  classifyRegime ind ∉ s.config.acceptedRegimes ∨
    (getSession a.primaryCandle.timestamp).sessionAllowed = false ∨
    rawScore (s.scored a ind) < s.config.minConfluence

/-- The gates behind it. -/
def LateGate : Prop :=
  let close := a.primaryCandle.close
  let evidence := s.scored a ind
  (s.config.requireSweepReclaim = true ∧ hasTrigger evidence = false) ∨
    (sideOf evidence = .buy ∧ ind.rsi > 72) ∨
    (sideOf evidence = .sell ∧ ind.rsi < 28) ∨
    s.config.PoorRr close (s.config.levels (sideOf evidence) close ind.atr) ∨
    HighSpread ind.atr

/-- What stops the other strategies. -/
def GatesTurnAway : Prop :=
  s.EarlyGate a ind ∨ (¬ checkMtfConflict a (sideOf (s.scored a ind)) > 20 ∧ s.LateGate a ind)

/-- The bar has too little history, or a check of the strategy's path turns it away. -/
def TurnedAway : Prop :=
  ∀ ind ∈ s.current? a,
    if s.strategyId = "MARNIE_FIB" then s.FibTurnsAway a ind else s.GatesTurnAway a ind

/-- The signal has a direction and the levels for it. -/
structure Enters (signal : SignalEvent) : Prop where
  directional : signal.Directional
  entryPrice : signal.entryPrice = a.primaryCandle.close
  levels : signal.levels = s.config.levels signal.direction a.primaryCandle.close ind.atr

theorem entry_enters (evidence : List Evidence) : s.Enters a ind (s.entry a ind evidence) :=
  ⟨sideOf_cases evidence, rfl, rfl⟩

theorem evaluateMarnieFib_cases :
    (s.FibTurnsAway a ind ∧ (s.evaluateMarnieFib a ind).direction = .noTrade) ∨
      (¬ s.FibTurnsAway a ind ∧ s.Enters a ind (s.evaluateMarnieFib a ind)) := by
  unfold evaluateMarnieFib
  dsimp only
  split_ifs with hanchors hscore hrr
  · exact .inl ⟨.inl hanchors, rfl⟩
  · exact .inl ⟨.inr (.inl hscore), rfl⟩
  · exact .inl ⟨.inr (.inr hrr), rfl⟩
  · refine .inr ⟨?_, s.entry_enters a ind _⟩
    rintro (h | h | h)
    · exact hanchors h
    · exact hscore h
    · exact hrr h

theorem evaluateGates_cases :
    (s.GatesTurnAway a ind ∧ (s.evaluateGates a ind).direction = .noTrade) ∨
      (¬ s.GatesTurnAway a ind ∧
        ((s.evaluateGates a ind).direction = .wait ∨ s.Enters a ind (s.evaluateGates a ind))) := by
  generalize hsignal : s.evaluateGates a ind = signal
  unfold evaluateGates at hsignal
  -- the values stay folded while the conditions are taken one by one
  extract_lets regime sessionInfo session evidence direction raw close at hsignal
  by_cases hregime : classifyRegime ind ∉ s.config.acceptedRegimes
  · rw [if_pos hregime] at hsignal
    subst hsignal
    exact .inl ⟨.inl (.inl hregime), rfl⟩
  rw [if_neg hregime] at hsignal
  by_cases hsession : (!sessionInfo.sessionAllowed) = true
  · rw [if_pos hsession] at hsignal
    subst hsignal
    rw [Bool.not_eq_true'] at hsession
    exact .inl ⟨.inl (.inr (.inl hsession)), rfl⟩
  rw [if_neg hsession] at hsignal
  rw [Bool.not_eq_true'] at hsession
  by_cases hscore : raw < s.config.minConfluence
  · rw [if_pos hscore] at hsignal
    subst hsignal
    exact .inl ⟨.inl (.inr (.inr hscore)), rfl⟩
  rw [if_neg hscore] at hsignal
  have hearly : ¬ s.EarlyGate a ind := by
    rintro (h | h | h)
    · exact hregime h
    · exact hsession h
    · exact hscore h
  by_cases hconflict : checkMtfConflict a direction > 20
  · rw [if_pos hconflict] at hsignal
    subst hsignal
    refine .inr ⟨?_, .inl rfl⟩
    rintro (h | ⟨h, -⟩)
    · exact hearly h
    · exact h hconflict
  rw [if_neg hconflict] at hsignal
  by_cases htrigger : s.config.requireSweepReclaim ∧ !hasTrigger evidence
  · rw [if_pos htrigger] at hsignal
    subst hsignal
    rw [Bool.not_eq_true'] at htrigger
    exact .inl ⟨.inr ⟨hconflict, .inl htrigger⟩, rfl⟩
  rw [if_neg htrigger] at hsignal
  rw [Bool.not_eq_true'] at htrigger
  by_cases hbought : direction = .buy ∧ ind.rsi > 72
  · rw [if_pos hbought] at hsignal
    subst hsignal
    exact .inl ⟨.inr ⟨hconflict, .inr (.inl hbought)⟩, rfl⟩
  rw [if_neg hbought] at hsignal
  by_cases hsold : direction = .sell ∧ ind.rsi < 28
  · rw [if_pos hsold] at hsignal
    subst hsignal
    exact .inl ⟨.inr ⟨hconflict, .inr (.inr (.inl hsold))⟩, rfl⟩
  rw [if_neg hsold] at hsignal
  by_cases hrr : s.config.PoorRr close (s.config.levels direction close ind.atr)
  · rw [if_pos hrr] at hsignal
    subst hsignal
    exact .inl ⟨.inr ⟨hconflict, .inr (.inr (.inr (.inl hrr)))⟩, rfl⟩
  rw [if_neg hrr] at hsignal
  by_cases hspread : HighSpread ind.atr
  · rw [if_pos hspread] at hsignal
    subst hsignal
    exact .inl ⟨.inr ⟨hconflict, .inr (.inr (.inr (.inr hspread)))⟩, rfl⟩
  rw [if_neg hspread] at hsignal
  subst hsignal
  refine .inr ⟨?_, .inr (s.entry_enters a ind _)⟩
  rintro (h | ⟨-, h | h | h | h | h⟩)
  · exact hearly h
  · exact htrigger h
  · exact hbought h
  · exact hsold h
  · exact hrr h
  · exact hspread h

/-- A bar is turned away, or held back, or entered. -/
theorem evaluate_cases :
    (s.TurnedAway a ∧ (s.evaluate a).direction = .noTrade) ∨
      (¬ s.TurnedAway a ∧
        ((s.evaluate a).direction = .wait ∨ ∃ ind, s.Enters a ind (s.evaluate a))) := by
  unfold evaluate TurnedAway
  cases hcurrent : s.current? a with
  | none => exact .inl ⟨by simp, rfl⟩
  | some ind =>
      -- `MARNIE_FIB` has its own path
      simp only [Option.mem_some_iff, forall_eq']
      split_ifs with hid
      · rcases s.evaluateMarnieFib_cases a ind with h | ⟨hnot, henters⟩
        · exact .inl h
        · exact .inr ⟨hnot, .inr ⟨ind, henters⟩⟩
      · rcases s.evaluateGates_cases a ind with h | ⟨hnot, hwait | henters⟩
        · exact .inl h
        · exact .inr ⟨hnot, .inl hwait⟩
        · exact .inr ⟨hnot, .inr ⟨ind, henters⟩⟩

end PTBStrategyAdapter

end PredictATrade.Research
