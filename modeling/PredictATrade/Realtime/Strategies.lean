import PredictATrade.Realtime.EntryGate

/-!
# `Realtime.Strategies` — the four canonical strategies

Each strategy has checks that stop an evaluation early, a list of evidence of its own, and a body
that scores the evidence, puts the direction under the higher-timeframe veto, detects conflicts,
fills in the trade levels and refines the result. The bodies are written out one by one: they do not
take these steps in the same order.
-/

namespace PredictATrade.Realtime.Strategy
open Features

/-! ## Steps of an evaluation -/

/-- The result that every evaluation starts from. -/
def StrategyConfig.start (cfg : StrategyConfig) : StrategyResult :=
  { strategyID := cfg.strategyID
    expiryMinutes := cfg.expiryMinutes
    cooldownMinutes := cfg.cooldownMinutes }

/-- The result without a market state, or before there is an average true range. -/
def StrategyConfig.notReady (cfg : StrategyConfig) : StrategyResult :=
  { cfg.start with
    direction := .error
    reasonCodes := [ntATRNotReady] }

/-- The direction and the reasons after the veto of the higher timeframe. -/
def hardVeto (st : MarketState) (dir : Direction) (reasons : List NoTradeReason) :
    Direction × List NoTradeReason :=
  if dir = .buy ∧ htfTrendFilter (some st) .buy = false then
    (.noTrade, reasons ++ [ntHTFBearishVeto])
  else if dir = .sell ∧ htfTrendFilter (some st) .sell = false then
    (.noTrade, reasons ++ [ntHTFBullishVeto])
  else (dir, reasons)

/-- Where there is a direction: the conflict penalty, and WAIT above a limit. -/
def detectConflict (st : MarketState) (dir : Direction) (limit : Decimal) (r : StrategyResult) :
    StrategyResult :=
  if dir = .noTrade then r
  else
    let penalty := checkConflict st dir
    if limit < penalty then
      { r with
        conflictPenalty := penalty
        direction := .wait
        reasonCodes := r.reasonCodes ++ [ntConflictingTimeframes] }
    else { r with conflictPenalty := penalty }

/-- The levels of a geometry, where it is valid. -/
def StrategyResult.withGeometry (r : StrategyResult) (geo : TradeGeometry) : StrategyResult :=
  if geo.valid then
    { r with
      entryPrice := geo.entry
      stopLoss := geo.stopLoss
      tp1 := geo.tp1
      tp2 := geo.tp2
      tp3 := geo.tp3 }
  else r

/-- The trade levels of a result that is directional; the reason of a geometry that has an entry but
is not valid. -/
def fillGeometry (env : Env) (st : MarketState) (cfg : StrategyConfig) (r : StrategyResult) :
    StrategyResult :=
  if r.direction = .noTrade ∨ r.direction = .wait then r
  else
    let geo := buildTradeGeometry env (some st) r.direction cfg
    if geo.valid = false ∧ geo.entry ≠ 0 then
      { r with reasonCodes := r.reasonCodes ++ [geo.reasonCode] }
    else r.withGeometry geo

/-- The end of an evaluation, from the detection of conflicts on. The local direction is not always
the one that the result has by then. -/
def finish (env : Env) (st : MarketState) (cfg : StrategyConfig) (dir : Direction)
    (limit : Decimal) (r : StrategyResult) : StrategyResult :=
  let r := fillGeometry env st cfg (detectConflict st dir limit r)
  applyRefinement env st r.direction cfg r.rawScore r

/-- The score of a strategy's evidence at the thresholds of the regime. -/
def scoreEvidence (env : Env) (cfg : StrategyConfig) (st : MarketState)
    (evidence : List EvidenceContribution) : Scored :=
  let thresholds := getRegimeThresholds env cfg.strategyID st.regime.current cfg.minConfluence
  scoreDirectionWithThresholds evidence thresholds.1 thresholds.2 0

/-! ## Standard scalping -/

namespace StandardScalping

/-- The configuration. -/
def cfg : StrategyConfig := newStandardScalping

/-- The reasons to stop before the evidence is looked at. -/
def stops (st : MarketState) : List NoTradeReason := checkRegimeSession st cfg

/-- The evidence of the standard scalping strategy. -/
def evidence (st : MarketState) : List EvidenceContribution :=
  let ind := st.indicators
  let q := st.quality
  let rsi := toFloat ind.rsi
  { pillar := "TREND", buyFeature := "EMA9_ABOVE_EMA21", sellFeature := "EMA9_BELOW_EMA21",
    weight := 15, contrib := 12 / 100, raw := ind.ema9 : Reading }.on q
      (ind.ema21 < ind.ema9) (ind.ema9 < ind.ema21) ++
  (if st.vwap.sessionVWAP ≠ 0 then
    { pillar := "VWAP", buyFeature := "ABOVE_VWAP", sellFeature := "BELOW_VWAP", weight := 12,
      contrib := 8 / 100, raw := st.vwap.sessionVWAP : Reading }.on q
        (st.vwap.sessionVWAP < st.currentPrice) (st.currentPrice < st.vwap.sessionVWAP)
  else []) ++
  eventEvidence st.structure_.lastBOS "BOS" 18 (14 / 100) q ++
  { pillar := "CANDLE", buyFeature := "BULLISH_DISPLACEMENT",
    sellFeature := "BEARISH_DISPLACEMENT", weight := 15, contrib := 10 / 100 : Reading }.onEach q
      (st.candle.isDisplacement && st.candle.isBullish)
      (st.candle.isDisplacement && st.candle.isBearish) ++
  { pillar := "CANDLE", buyFeature := "BULLISH_REJECTION", sellFeature := "BEARISH_REJECTION",
    weight := 12, contrib := 8 / 100 : Reading }.onEach q
      (st.candle.isRejection && st.candle.isBullish)
      (st.candle.isRejection && st.candle.isBearish) ++
  { pillar := "MOMENTUM", buyFeature := "MACD_BULLISH", sellFeature := "MACD_BEARISH",
    weight := 10, contrib := 6 / 100, raw := ind.macdHistogram : Reading }.on q
      (ind.macdSignal < ind.macdMain) (ind.macdMain < ind.macdSignal) ++
  { pillar := "MOMENTUM", buyFeature := "OSMA_POSITIVE", sellFeature := "OSMA_NEGATIVE",
    weight := 8, contrib := 5 / 100, raw := ind.osma : Reading }.on q
      (0 < ind.osma) (ind.osma < 0) ++
  { pillar := "MOMENTUM", buyFeature := "RSI_BULLISH_MID", sellFeature := "RSI_BEARISH_MID",
    weight := 8, contrib := 5 / 100, raw := ind.rsi : Reading }.on q
      (50 < rsi ∧ rsi < 70) (rsi < 50 ∧ 30 < rsi) ++
  (if cfg.minADX < toFloat ind.adx then
    { pillar := "TREND", buyFeature := "ADX_BULLISH", sellFeature := "ADX_BEARISH", weight := 10,
      contrib := 7 / 100, raw := ind.adx : Reading }.on q (ind.adxMinusDI < ind.adxPlusDI) True
  else []) ++
  standardScalpingSweep st.toMarketState ++
  alignmentEvidence 10 (5 / 100) st ++
  (if st.pivots.ready ∧ st.pivots.daily.ready ∧ st.pivots.daily.p ≠ 0 then
    { pillar := "STRUCTURE", buyFeature := "ABOVE_DAILY_PIVOT",
      sellFeature := "BELOW_DAILY_PIVOT", weight := 8, contrib := 4 / 100,
      raw := st.pivots.daily.p : Reading }.on q
        (st.pivots.daily.p < st.currentPrice) (st.currentPrice < st.pivots.daily.p)
  else []) ++
  (if isRegimeInRange st.regime.current then computeRangeEvidence st else []) ++
  sharedEvidence st

/-- `Evaluate` of the standard scalping strategy. -/
def evaluate (env : Env) (state : Option MarketState) : StrategyResult :=
  match state with
  | none => cfg.notReady
  | some st =>
    if st.indicators.atr = 0 then cfg.notReady
    else if stops st ≠ [] then { cfg.start with reasonCodes := stops st }
    else
      let evidence := applyFamilyCaps (evidence st)
      let scored := scoreEvidence env cfg st evidence
      let vetoed := hardVeto st scored.direction scored.reasons
      -- the direction of the result is the one after the veto
      let r : StrategyResult :=
        { cfg.start with
          evidence := evidence
          direction := vetoed.1
          rawScore := scored.rawScore
          longScore := scored.longScore
          shortScore := scored.shortScore
          reasonCodes := vetoed.2 }
      finish env st cfg vetoed.1 40 r

end StandardScalping

/-! ## Ultra scalping -/

namespace UltraScalping

/-- The configuration of the ultra scalping strategy. -/
def cfg : StrategyConfig := newUltraScalping

/-- The averages must be in order; in a ranging market it is enough that the two fast ones
differ. -/
def emaHierarchyOK (st : MarketState) : Bool :=
  let ind := st.indicators
  if isRegimeInRange st.regime.current then decide (ind.ema9 ≠ ind.ema21)
  else decide (ind.ema21 < ind.ema9 ∧ ind.ema50 < ind.ema21 ∨
    ind.ema9 < ind.ema21 ∧ ind.ema21 < ind.ema50)

/-- What stops the ultra scalping strategy before it looks at the evidence. -/
def stops (st : MarketState) : List NoTradeReason :=
  let atr := toFloat st.indicators.atr
  if checkRegimeSession st cfg ≠ [] then checkRegimeSession st cfg
  else if 0 < atr ∧ 4 / 10 < toFloat st.spread / atr then [ntHighSpread]
  else reasonIf (emaHierarchyOK st = false) ntUnclearStructure

/-- The evidence of the ultra scalping strategy. -/
def evidence (st : MarketState) : List EvidenceContribution :=
  let ind := st.indicators
  let q := st.quality
  { pillar := "TREND", buyFeature := "EMA9_ABOVE_EMA21", sellFeature := "EMA9_BELOW_EMA21",
    weight := 20, contrib := 15 / 100, raw := ind.ema9 : Reading }.on q
      (ind.ema21 < ind.ema9) (ind.ema9 < ind.ema21) ++
  { pillar := "CANDLE", buyFeature := "M1_BULLISH_DISPLACEMENT",
    sellFeature := "M1_BEARISH_DISPLACEMENT", weight := 20, contrib := 15 / 100,
    raw := st.candle.range : Reading }.onEach q
      (st.candle.isDisplacement && st.candle.isBullish)
      (st.candle.isDisplacement && st.candle.isBearish) ++
  (if st.vwap.sessionVWAP ≠ 0 then
    { pillar := "VWAP", buyFeature := "ABOVE_VWAP", sellFeature := "BELOW_VWAP", weight := 15,
      contrib := 10 / 100, raw := st.vwap.sessionVWAP : Reading }.on q
        (st.vwap.sessionVWAP < st.currentPrice) (st.currentPrice < st.vwap.sessionVWAP)
  else []) ++
  ultraScalpingSweep st.toMarketState ++
  { pillar := "MOMENTUM", buyFeature := "OSMA_POSITIVE", sellFeature := "OSMA_NEGATIVE",
    weight := 12, contrib := 8 / 100, raw := ind.osma : Reading }.on q
      (0 < ind.osma) (ind.osma < 0) ++
  { pillar := "MOMENTUM", buyFeature := "STOCH_BULLISH_CROSS",
    sellFeature := "STOCH_BEARISH_CROSS", weight := 10, contrib := 6 / 100,
    raw := ind.stochMain : Reading }.on q (ind.stochSignal < ind.stochMain) True ++
  alignmentEvidence 15 (8 / 100) st ++
  (if cfg.minADX < toFloat ind.adx then
    { pillar := "TREND", buyFeature := "ADX_STRONG_BULLISH",
      sellFeature := "ADX_STRONG_BEARISH", weight := 12, contrib := 8 / 100,
      raw := ind.adx : Reading }.on q (ind.adxMinusDI < ind.adxPlusDI) True
  else []) ++
  (if ind.bollUpper = 0 then []
  else if st.currentPrice ≤ ind.bollLower then
    [addEvidenceRaw "VOLATILITY" "BOLL_LOWER_TOUCH" .buy 8 (5 / 100) q "" ind.bollLower]
  else if ind.bollUpper ≤ st.currentPrice then
    [addEvidenceRaw "VOLATILITY" "BOLL_UPPER_TOUCH" .sell 8 (5 / 100) q "" ind.bollUpper]
  else []) ++
  (if isRegimeInRange st.regime.current then computeUltraRangeEvidence st else []) ++
  sharedEvidence st

/-- `Evaluate` of the ultra scalping strategy. -/
def evaluate (env : Env) (state : Option MarketState) : StrategyResult :=
  match state with
  | none => cfg.notReady
  | some st =>
    if st.indicators.atr = 0 then cfg.notReady
    else if stops st ≠ [] then { cfg.start with reasonCodes := stops st }
    else
      let evidence := applyFamilyCaps (evidence st)
      let scored := scoreEvidence env cfg st evidence
      -- the result takes its direction here, before the veto changes the local one
      let r : StrategyResult :=
        { cfg.start with
          evidence := evidence
          direction := scored.direction }
      let vetoed := hardVeto st scored.direction scored.reasons
      let r : StrategyResult :=
        { r with
          rawScore := scored.rawScore
          longScore := scored.longScore
          shortScore := scored.shortScore
          reasonCodes := vetoed.2 }
      finish env st cfg vetoed.1 15 r

end UltraScalping

/-! ## Standard swing -/

namespace StandardSwing

/-- The configuration of the standard swing strategy. -/
def cfg : StrategyConfig := newStandardSwing

/-- What stops the standard swing strategy before it looks at the evidence. -/
def stops (st : MarketState) : List NoTradeReason := checkRegimeSession st cfg

/-- The bounce from the golden zone around the 0.618 retracement. -/
def fibonacciEvidence (st : MarketState) : List EvidenceContribution :=
  match st.fibonacci.levels "0.618" with
  | none => []
  | some level =>
    let zone := st.indicators.atr * (3 / 10)
    let inZone := level - zone ≤ st.currentPrice ∧ st.currentPrice ≤ level + zone
    if st.fibonacci.ready ∧ level ≠ 0 then
      { pillar := "STRUCTURE", buyFeature := "FIB_618_BOUNCE",
        sellFeature := "FIB_618_REJECTION", weight := 10, contrib := 5 / 100,
        raw := level : Reading }.on st.quality
          (st.fibonacci.direction = "bullish" ∧ inZone)
          (st.fibonacci.direction = "bearish" ∧ inZone)
    else []

/-- The evidence of the standard swing strategy. -/
def evidence (st : MarketState) : List EvidenceContribution :=
  let ind := st.indicators
  let q := st.quality
  { pillar := "TREND", buyFeature := "EMA21_ABOVE_EMA50", sellFeature := "EMA21_BELOW_EMA50",
    weight := 18, contrib := 14 / 100, raw := ind.ema21 : Reading }.on q
      (ind.ema50 < ind.ema21) True ++
  (if ind.sma200 ≠ 0 then
    { pillar := "TREND", buyFeature := "ABOVE_SMA200", sellFeature := "BELOW_SMA200",
      weight := 15, contrib := 10 / 100, raw := ind.sma200 : Reading }.on q
        (ind.sma200 < st.currentPrice) True
  else []) ++
  eventEvidence st.structure_.lastBOS "HTF_BOS" 20 (15 / 100) q ++
  eventEvidence st.structure_.lastCHoCH "HTF_CHoCH" 15 (10 / 100) q ++
  { pillar := "SMC", buyFeature := "BULLISH_OB", sellFeature := "BEARISH_OB", weight := 12,
    contrib := 8 / 100 : Reading }.on q
      (openOrderBlock st = some "BULLISH") (openOrderBlock st = some "BEARISH") ++
  { pillar := "SMC", buyFeature := "BULLISH_FVG", sellFeature := "BEARISH_FVG", weight := 10,
    contrib := 6 / 100 : Reading }.on q
      (openFVG st = some "BULLISH") (openFVG st = some "BEARISH") ++
  (if cfg.minADX < toFloat ind.adx then
    { pillar := "TREND", buyFeature := "ADX_BULLISH", sellFeature := "ADX_BEARISH", weight := 12,
      contrib := 8 / 100, raw := ind.adx : Reading }.on q (ind.adxMinusDI < ind.adxPlusDI) True
  else []) ++
  { pillar := "MOMENTUM", buyFeature := "MACD_BULLISH", sellFeature := "MACD_BEARISH",
    weight := 10, contrib := 6 / 100, raw := ind.macdHistogram : Reading }.on q
      (ind.macdSignal < ind.macdMain) (ind.macdMain < ind.macdSignal) ++
  { pillar := "MOMENTUM", buyFeature := "RSI_ABOVE_50", sellFeature := "RSI_BELOW_50",
    weight := 8, contrib := 5 / 100, raw := ind.rsi : Reading }.on q
      (50 < toFloat ind.rsi) (toFloat ind.rsi < 50) ++
  { pillar := "CANDLE", buyFeature := "BULLISH_BREAKOUT_CLOSE",
    sellFeature := "BEARISH_BREAKOUT_CLOSE", weight := 12, contrib := 8 / 100,
    raw := st.candle.range : Reading }.onEach q
      (st.candle.isBreakout && st.candle.isBullish)
      (st.candle.isBreakout && st.candle.isBearish) ++
  alignmentEvidence 12 (6 / 100) st ++
  standardSwingSweep st.toMarketState ++
  { pillar := "REGIME", buyFeature := "TRENDING_BULLISH", sellFeature := "TRENDING_BEARISH",
    weight := 10, contrib := 7 / 100 : Reading }.on q
      (st.regime.current = .trendingBullish) (st.regime.current = .trendingBearish) ++
  (if ind.ichimokuTenkan ≠ 0 ∧ ind.ichimokuKijun ≠ 0 then
    { pillar := "TREND", buyFeature := "ICHIMOKU_BULLISH_CROSS",
      sellFeature := "ICHIMOKU_BEARISH_CROSS", weight := 12, contrib := 6 / 100,
      raw := ind.ichimokuTenkan : Reading }.on q (ind.ichimokuKijun < ind.ichimokuTenkan) True
  else []) ++
  { pillar := "TREND", buyFeature := "ABOVE_ICHIMOKU_CLOUD",
    sellFeature := "BELOW_ICHIMOKU_CLOUD", weight := 10, contrib := 5 / 100,
    raw := ind.ichimokuKijun : Reading }.on q ind.ichimokuAboveCloud ind.ichimokuBelowCloud ++
  fibonacciEvidence st ++
  (if isRegimeInRange st.regime.current then computeRangeEvidence st else []) ++
  sharedEvidence st

/-- `Evaluate` of the standard swing strategy. -/
def evaluate (env : Env) (state : Option MarketState) : StrategyResult :=
  match state with
  | none => cfg.notReady
  | some st =>
    if st.indicators.atr = 0 then cfg.notReady
    else if stops st ≠ [] then { cfg.start with reasonCodes := stops st }
    else
      let evidence := applyFamilyCaps (evidence st)
      let scored := scoreEvidence env cfg st evidence
      -- as in ultra scalping, the veto comes after the result has its direction
      let r : StrategyResult :=
        { cfg.start with
          evidence := evidence
          direction := scored.direction }
      let vetoed := hardVeto st scored.direction scored.reasons
      let r : StrategyResult :=
        { r with
          rawScore := scored.rawScore
          longScore := scored.longScore
          shortScore := scored.shortScore
          reasonCodes := vetoed.2 }
      finish env st cfg vetoed.1 25 r

end StandardSwing

/-! ## Trend swing -/

namespace TrendSwing

/-- The configuration of the trend swing strategy. -/
def cfg : StrategyConfig := newTrendSwing

/-- The reasons to stop outside a ranging market. The check of the trend strength comes in the
middle of the evidence, of which nothing is kept when it fails. -/
def stops (st : MarketState) : List NoTradeReason :=
  let ind := st.indicators
  if checkRegimeSession st cfg ≠ [] then checkRegimeSession st cfg
  else if st.regime.current ≠ .trendingBullish ∧ st.regime.current ≠ .trendingBearish ∧
      st.regime.current ≠ .breakout then
    [ntRegimeMismatch]
  else if ind.ema100 ≠ 0 ∧ ind.ema200 ≠ 0 ∧ ¬ ind.ema200 < ind.ema100 ∧
      ¬ ind.ema100 < ind.ema200 then
    [ntUnclearStructure]
  else reasonIf (¬ cfg.minADX < toFloat ind.adx) ntInsufficientScore

/-- The evidence of a market that `stops` has let through, hence with a trend strength above the
minimum. -/
def evidence (st : MarketState) : List EvidenceContribution :=
  let ind := st.indicators
  let q := st.quality
  (if ind.sma200 ≠ 0 then
    { pillar := "TREND", buyFeature := "ABOVE_SMA200", sellFeature := "BELOW_SMA200",
      weight := 25, contrib := 18 / 100, raw := ind.sma200 : Reading }.on q
        (ind.sma200 < st.currentPrice) True
  else []) ++
  (if ind.ema50 ≠ 0 then
    { pillar := "TREND", buyFeature := "ABOVE_EMA50", sellFeature := "BELOW_EMA50", weight := 15,
      contrib := 10 / 100, raw := ind.ema50 : Reading }.on q (ind.ema50 < st.currentPrice) True
  else []) ++
  { pillar := "TREND", buyFeature := "EMA21_ABOVE_EMA50", sellFeature := "EMA21_BELOW_EMA50",
    weight := 12, contrib := 8 / 100, raw := ind.ema21 : Reading }.on q
      (ind.ema50 < ind.ema21) True ++
  { pillar := "TREND", buyFeature := "ADX_STRONG_BULLISH", sellFeature := "ADX_STRONG_BEARISH",
    weight := 18, contrib := 12 / 100, raw := ind.adx : Reading }.on q
      (ind.adxMinusDI < ind.adxPlusDI) True ++
  { pillar := "STRUCTURE", buyFeature := "HH_HL_SEQUENCE", sellFeature := "LH_LL_SEQUENCE",
    weight := 18, contrib := 12 / 100 : Reading }.on q
      (st.structure_.currentTrend = .bullish) (st.structure_.currentTrend = .bearish) ++
  eventEvidence st.structure_.lastBOS "BOS_CONFIRMED" 15 (10 / 100) q ++
  { pillar := "SMC", buyFeature := "CONTINUATION_BULLISH_OB",
    sellFeature := "CONTINUATION_BEARISH_OB", weight := 10, contrib := 6 / 100 : Reading }.on q
      (openOrderBlock st = some "BULLISH") (openOrderBlock st = some "BEARISH") ++
  { pillar := "SMC", buyFeature := "CONTINUATION_BULLISH_FVG",
    sellFeature := "CONTINUATION_BEARISH_FVG", weight := 8, contrib := 5 / 100 : Reading }.on q
      (openFVG st = some "BULLISH") (openFVG st = some "BEARISH") ++
  { pillar := "MOMENTUM", buyFeature := "MACD_BULLISH_CONTINUATION",
    sellFeature := "MACD_BEARISH_CONTINUATION", weight := 10, contrib := 6 / 100,
    raw := ind.macdHistogram : Reading }.on q
      (ind.macdSignal < ind.macdMain) (ind.macdMain < ind.macdSignal) ++
  { pillar := "MOMENTUM", buyFeature := "CCI_BULLISH", sellFeature := "CCI_BEARISH", weight := 8,
    contrib := 5 / 100, raw := ind.cci : Reading }.on q (0 < ind.cci) (ind.cci < 0) ++
  { pillar := "CANDLE", buyFeature := "PULLBACK_BULLISH_CONTINUATION",
    sellFeature := "PULLBACK_BEARISH_CONTINUATION", weight := 10,
    contrib := 6 / 100 : Reading }.onEach q
      (st.candle.isBullish ∧ 2 ≤ st.candle.consecutiveBull)
      (st.candle.isBearish ∧ 2 ≤ st.candle.consecutiveBear) ++
  alignmentEvidence 15 (7 / 100) st ++
  (if st.vwap.sessionVWAP ≠ 0 then
    { pillar := "VWAP", buyFeature := "ABOVE_VWAP", sellFeature := "BELOW_VWAP", weight := 8,
      contrib := 5 / 100, raw := st.vwap.sessionVWAP : Reading }.on q
        (st.vwap.sessionVWAP < st.currentPrice) True
  else []) ++
  (if ind.parabolicSAR ≠ 0 then
    { pillar := "TREND", buyFeature := "SAR_BULLISH", sellFeature := "SAR_BEARISH", weight := 10,
      contrib := 5 / 100, raw := ind.parabolicSAR : Reading }.on q ind.parabolicSARLong True
  else []) ++
  sharedEvidence st

/-- The evidence of a transition, under its family caps. -/
def transitionEvidence (st : MarketState) : List EvidenceContribution :=
  applyFamilyCaps (computeTrendTransitionEvidence st)

/-- The thresholds of a transition. -/
def transitionCandidateThreshold : Float64 := 20

/-- The score that a transition needs for a trade. -/
def transitionTradeThreshold : Float64 := 35

/-- The evaluation in a ranging market, where only the transition into a trend is looked for. Regime
and session are not checked, and no veto is applied to the direction of the transition. -/
def evaluateTransition (env : Env) (st : MarketState) : StrategyResult :=
  let scored := scoreDirectionWithThresholds (transitionEvidence st) transitionCandidateThreshold
    transitionTradeThreshold 0
  let r : StrategyResult :=
    { cfg.start with
      evidence := transitionEvidence st
      transitionLongScore := scored.longScore
      transitionShortScore := scored.shortScore
      transitionConflict := |scored.longScore - scored.shortScore|
      transitionFinalScore := scored.rawScore
      transitionCandidateThreshold := transitionCandidateThreshold
      isTransitionCandidate := true
      dominance := |toFloat scored.longScore - toFloat scored.shortScore|
      direction := scored.direction
      rawScore := scored.rawScore
      longScore := scored.longScore
      shortScore := scored.shortScore }
  let r : StrategyResult :=
    if scored.direction = .noTrade then { r with reasonCodes := [ntNoTrendTransition] }
    else
      { r with reasonCodes := scored.reasons }.withGeometry
        (buildTradeGeometry env (some st) scored.direction cfg)
  applyRefinement env st r.direction cfg r.rawScore r

/-- `Evaluate` of the trend swing strategy. -/
def evaluate (env : Env) (state : Option MarketState) : StrategyResult :=
  match state with
  | none => cfg.notReady
  | some st =>
    if st.indicators.atr = 0 then cfg.notReady
    else if isRegimeInRange st.regime.current then evaluateTransition env st
    else if stops st ≠ [] then { cfg.start with reasonCodes := stops st }
    else
      let evidence := applyFamilyCaps (evidence st)
      let scored := scoreEvidence env cfg st evidence
      -- as in ultra scalping, the veto comes after the result has its direction
      let r : StrategyResult :=
        { cfg.start with
          evidence := evidence
          direction := scored.direction }
      let vetoed := hardVeto st scored.direction scored.reasons
      let r : StrategyResult :=
        { r with
          rawScore := scored.rawScore
          longScore := scored.longScore
          shortScore := scored.shortScore
          reasonCodes := vetoed.2 }
      finish env st cfg vetoed.1 30 r

end TrendSwing

/-! ## The canonical strategies -/

/-- The four canonical strategies. -/
inductive Canonical where
  | standardScalping | ultraScalping | standardSwing | trendSwing
  deriving DecidableEq, Repr

/-- `Evaluate` of the four strategies. -/
def Canonical.evaluate : Canonical → Env → Option MarketState → StrategyResult
  | .standardScalping => StandardScalping.evaluate
  | .ultraScalping => UltraScalping.evaluate
  | .standardSwing => StandardSwing.evaluate
  | .trendSwing => TrendSwing.evaluate

end PredictATrade.Realtime.Strategy
