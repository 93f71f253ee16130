import PredictATrade.Realtime.MarketState

/-!
# `Realtime.Evidence` — what a strategy reads out of a market state

Evidence is a list of contributions, each to one side of the market. Most readings are two-sided:
one observation speaks for a BUY, the opposite one for a SELL (`eitherSide`). This module has the
readings that several strategies share and those that are added in a ranging market; the four
strategies list their own in `Realtime.Strategies`.
-/

namespace PredictATrade.Realtime.Strategy
open Lib.Decimal Features

/-! ## Contributions -/

/-- `addEvidenceRaw`: a contribution with the indicator value it was read from. -/
def addEvidenceRaw (pillar feature : String) (dir : Direction) (weight contrib : Float64)
    (quality : QualityState) (reason : String) (raw : Decimal) : EvidenceContribution :=
  { pillar := pillar, feature := feature, direction := dir, weight := weight,
    contribution := contrib, normalizedValue := contrib, rawValue := raw, quality := quality,
    reasonCode := reason }

/-- `addEvidence`. -/
def addEvidence (pillar feature : String) (dir : Direction) (weight contrib : Float64)
    (quality : QualityState) (reason : String) : EvidenceContribution :=
  { pillar := pillar, feature := feature, direction := dir, weight := weight,
    contribution := contrib, normalizedValue := contrib, quality := quality, reasonCode := reason }

/-- The two contributions that a reading can make. -/
structure Reading where
  pillar : String
  buyFeature : String
  sellFeature : String
  weight : Float64
  contrib : Float64
  raw : Decimal := 0
  buyReason : String := ""
  sellReason : String := ""

/-- A reading speaks for a BUY on the first observation, and otherwise for a SELL on the second. -/
def Reading.on (r : Reading) (q : QualityState) (bull bear : Prop) [Decidable bull]
    [Decidable bear] : List EvidenceContribution :=
  if bull then
    [addEvidenceRaw r.pillar r.buyFeature .buy r.weight r.contrib q r.buyReason r.raw]
  else if bear then
    [addEvidenceRaw r.pillar r.sellFeature .sell r.weight r.contrib q r.sellReason r.raw]
  else []

/-- Two observations that are made independently of each other. -/
def Reading.onEach (r : Reading) (q : QualityState) (bull bear : Prop) [Decidable bull]
    [Decidable bear] : List EvidenceContribution :=
  r.on q bull False ++ r.on q False bear

/-! ## Shared readings -/

/-- `strings.EqualFold`. -/
def equalFold (a b : String) : Bool := a.toList.map Char.toLower == b.toList.map Char.toLower

/-- `sweepIsSellSide`. -/
def sweepIsSellSide (dir : String) : Bool :=
  equalFold dir "sell_side" || equalFold dir "SELL_SIDE_SWEEP"

/-- `sweepIsBuySide`. -/
def sweepIsBuySide (dir : String) : Bool :=
  equalFold dir "buy_side" || equalFold dir "BUY_SIDE_SWEEP"

/-- The evidence a strategy takes from the latest sweep. The strategies differ in the feature names,
the weights and the reasons. -/
def sweepEvidence (sellFeature buyFeature : String) (weight contrib : Float64)
    (sellReason buyReason : String) (st : Features.MarketState) : List EvidenceContribution :=
  match st.liquidity.recentSweeps.getLast? with
  | none => []
  | some sweep =>
    if sweepIsSellSide sweep.direction then
      [addEvidence "LIQUIDITY" sellFeature .buy weight contrib st.quality sellReason]
    else if sweepIsBuySide sweep.direction then
      [addEvidence "LIQUIDITY" buyFeature .sell weight contrib st.quality buyReason]
    else []

/-- The sweeps of the standard scalping strategy. -/
def standardScalpingSweep : Features.MarketState → List EvidenceContribution :=
  sweepEvidence "SELL_SIDE_SWEEP" "BUY_SIDE_SWEEP" 12 (8 / 100) "" ""

/-- The sweeps of the ultra scalping strategy. -/
def ultraScalpingSweep : Features.MarketState → List EvidenceContribution :=
  sweepEvidence "SELL_SIDE_SWEEP_RECLAIM" "BUY_SIDE_SWEEP_RECLAIM" 18 (12 / 100) "" ""

/-- The sweeps of the standard swing strategy. -/
def standardSwingSweep : Features.MarketState → List EvidenceContribution :=
  sweepEvidence "HTF_SELL_SIDE_SWEEP" "HTF_BUY_SIDE_SWEEP" 10 (6 / 100) "" ""

/-- The sweeps of the scalping strategy in a range. -/
def computeRangeSweep : Features.MarketState → List EvidenceContribution :=
  sweepEvidence "SELL_SIDE_SWEEP_RANGE" "BUY_SIDE_SWEEP_RANGE" 15 (10 / 100)
    "sell-side liquidity sweep in range" "buy-side liquidity sweep in range"

/-- The sweeps of the ultra scalping strategy in a range. -/
def computeUltraRangeSweep : Features.MarketState → List EvidenceContribution :=
  sweepEvidence "ULTRA_SELL_SIDE_SWEEP" "ULTRA_BUY_SIDE_SWEEP" 18 (12 / 100)
    "micro sell-side sweep" "micro buy-side sweep"

/-- `addPullbackEvidence`. -/
def addPullbackEvidence (st : Features.MarketState) : List EvidenceContribution :=
  let p := st.pullback
  if p.pullbackActive = false then []
  else
    let quality := toFloat p.pullbackQuality
    if quality < 3 / 10 then []
    else
      let contribution :=
        if p.pullbackContConfirm then quality * (10 / 100) else quality * (6 / 100)
      if p.pullbackDepthPct = 0 then []
      else if st.currentPrice < p.pullbackAnchor then
        [addEvidence "STRUCTURE" "PULLBACK_BUY" .buy 8 contribution st.quality ""]
      else
        [addEvidence "STRUCTURE" "PULLBACK_SELL" .sell 8 contribution st.quality ""]

/-- A break of structure speaks for the side it opens, a BUY unless it is bearish. -/
def eventEvidence (event : Option StructureEvent) (feature : String) (weight contrib : Float64)
    (q : QualityState) : List EvidenceContribution :=
  match event with
  | none => []
  | some e =>
    { pillar := "STRUCTURE", buyFeature := feature, sellFeature := feature, weight := weight,
      contrib := contrib : Reading }.on q (e.direction ≠ .bearish) True

/-- The type of the latest order block that is not mitigated. -/
def openOrderBlock (st : MarketState) : Option String :=
  (st.fvg.orderBlocks.getLast?.filter fun ob => !ob.mitigated).map (·.type)

/-- The type of the latest fair value gap that is not filled. -/
def openFVG (st : MarketState) : Option String :=
  (st.fvg.fvgs.getLast?.filter fun fvg => !fvg.filled).map (·.type)

/-- A `float64` cut to an integer. -/
def truncate (x : Float64) : Decimal := if 0 ≤ x then ⌊x⌋ else ⌈x⌉

/-- The alignment of the timeframes, in the share `scale` of the pillar. -/
def alignmentEvidence (weight scale : Float64) (st : MarketState) : List EvidenceContribution :=
  { pillar := "MTF", buyFeature := "ALIGNMENT_BULLISH", sellFeature := "ALIGNMENT_BEARISH",
    weight := weight, contrib := |st.mtf.score| / 100 * scale,
    raw := truncate st.mtf.score : Reading }.on st.quality (0 < st.mtf.score) (st.mtf.score < 0)

/-- `addORBEvidence`. -/
def addORBEvidence (st : MarketState) : List EvidenceContribution :=
  let orb := st.sessionORB
  { pillar := "SESSION_ORB", buyFeature := "BREAKOUT_BUY", sellFeature := "BREAKOUT_SELL",
    weight := 10, contrib := 8 / 100 : Reading }.on st.quality
      (orb.breakoutDir = "BUY") (orb.breakoutDir = "SELL") ++
    -- a tight range is a setup for neither side
    (if orb.compression ≠ 0 ∧ orb.compression < 1 / 2 ∧ orb.asianRange ≠ 0 then
      [addEvidence "SESSION_ORB" "ASIAN_COMPRESSION" .wait 5 (3 / 100) st.quality ""]
    else [])

/-- `addPinBarEvidence`. -/
def addPinBarEvidence (st : MarketState) : List EvidenceContribution :=
  let ci := st.candle
  if ci.pinBarQuality = 0 ∨ ci.pinBarQuality < 1 / 2 then []
  else
    { pillar := "CANDLE", buyFeature := "PINBAR_BULLISH", sellFeature := "PINBAR_BEARISH",
      weight := 10, contrib := toFloat ci.pinBarQuality * (10 / 100) : Reading }.on st.quality
        (ci.pinBarRejDirection = "BUY") (ci.pinBarRejDirection = "SELL")

/-- The evidence that every strategy adds last: pullback, opening range and pin bar. -/
def sharedEvidence (st : MarketState) : List EvidenceContribution :=
  addPullbackEvidence st.toMarketState ++ addORBEvidence st ++ addPinBarEvidence st

/-! ## Ranging markets -/

/-- `isRegimeInRange`. -/
def isRegimeInRange (regime : Regime) : Bool := regime == .range || regime == .meanReversion

/-- How many average true ranges the price is above the session VWAP. -/
def vwapDeviation (st : MarketState) : Decimal :=
  decimalDiv (st.currentPrice - st.vwap.sessionVWAP) st.indicators.atr

/-- The evidence of a ranging market, with the weights of `DefaultRangeEvidenceConfig`. -/
def computeRangeEvidence (st : MarketState) : List EvidenceContribution :=
  let ind := st.indicators
  let q := st.quality
  let rsi := toFloat ind.rsi
  let stochMain := toFloat ind.stochMain
  let stochSignal := toFloat ind.stochSignal
  (if ind.bollLower ≠ 0 ∧ ind.bollUpper ≠ 0 then
    { pillar := "VOLATILITY", buyFeature := "BB_LOWER_TOUCH_RANGE",
      sellFeature := "BB_UPPER_TOUCH_RANGE", weight := 12, contrib := 8 / 100,
      buyReason := "price at lower BB in range",
      sellReason := "price at upper BB in range" : Reading }.on q
        (st.currentPrice ≤ ind.bollLower) (ind.bollUpper ≤ st.currentPrice)
  else []) ++
  (if st.vwap.sessionVWAP ≠ 0 ∧ ind.atr ≠ 0 then
    { pillar := "VWAP", buyFeature := "VWAP_OVERSOLD_RANGE",
      sellFeature := "VWAP_OVERBOUGHT_RANGE", weight := 10, contrib := 6 / 100,
      buyReason := "price >1.5 ATR below VWAP in range",
      sellReason := "price >1.5 ATR above VWAP in range" : Reading }.on q
        (vwapDeviation st < -15 / 10) (15 / 10 < vwapDeviation st)
  else []) ++
  -- an RSI of zero is one that has not been computed
  (if 0 < rsi then
    { pillar := "MOMENTUM", buyFeature := "RSI_OVERSOLD_RANGE",
      sellFeature := "RSI_OVERBOUGHT_RANGE", weight := 10, contrib := 7 / 100,
      buyReason := "RSI exhausted in range",
      sellReason := "RSI exhausted in range" : Reading }.on q (rsi < 35) (65 < rsi)
  else []) ++
  (if 0 < stochMain ∧ 0 < stochSignal then
    { pillar := "MOMENTUM", buyFeature := "STOCH_OVERSOLD_CROSS_RANGE",
      sellFeature := "STOCH_OVERBOUGHT_CROSS_RANGE", weight := 8, contrib := 6 / 100,
      buyReason := "stochastic oversold cross in range",
      sellReason := "stochastic overbought cross in range" : Reading }.on q
        (stochMain < 20 ∧ stochSignal < stochMain) (80 < stochMain ∧ stochMain < stochSignal)
  else []) ++
  (if ind.cci ≠ 0 then
    { pillar := "MOMENTUM", buyFeature := "CCI_OVERSOLD_RANGE",
      sellFeature := "CCI_OVERBOUGHT_RANGE", weight := 8, contrib := 5 / 100,
      buyReason := "CCI extreme oversold in range",
      sellReason := "CCI extreme overbought in range" : Reading }.on q
        (ind.cci < -100) (100 < ind.cci)
  else []) ++
  (if st.candle.isRejection then
    { pillar := "CANDLE", buyFeature := "BULLISH_REJECTION_RANGE",
      sellFeature := "BEARISH_REJECTION_RANGE", weight := 12, contrib := 8 / 100,
      buyReason := "bullish rejection in range",
      sellReason := "bearish rejection in range" : Reading }.on q
        st.candle.isBullish st.candle.isBearish
  else []) ++
  computeRangeSweep st.toMarketState ++
  { pillar := "SMC", buyFeature := "BULLISH_FVG_RANGE", sellFeature := "BEARISH_FVG_RANGE",
    weight := 8, contrib := 6 / 100, buyReason := "bullish FVG reaction in range",
    sellReason := "bearish FVG reaction in range" : Reading }.on q
      (openFVG st = some "BULLISH") (openFVG st = some "BEARISH")

/-- The evidence of a ranging market for ultra scalping, with the weights of
`DefaultUltraRangeConfig`. -/
def computeUltraRangeEvidence (st : MarketState) : List EvidenceContribution :=
  let ind := st.indicators
  let q := st.quality
  let rsi := toFloat ind.rsi
  computeUltraRangeSweep st.toMarketState ++
  (if st.vwap.sessionVWAP ≠ 0 ∧ ind.atr ≠ 0 then
    { pillar := "VWAP", buyFeature := "ULTRA_VWAP_OVERSOLD",
      sellFeature := "ULTRA_VWAP_OVERBOUGHT", weight := 12, contrib := 8 / 100,
      buyReason := "price >1 ATR below VWAP",
      sellReason := "price >1 ATR above VWAP" : Reading }.on q
        (vwapDeviation st < -1) (1 < vwapDeviation st)
  else []) ++
  (if ind.bollLower ≠ 0 ∧ ind.bollUpper ≠ 0 then
    { pillar := "VOLATILITY", buyFeature := "ULTRA_BB_LOWER", sellFeature := "ULTRA_BB_UPPER",
      weight := 12, contrib := 8 / 100, buyReason := "price at lower BB",
      sellReason := "price at upper BB" : Reading }.on q
        (st.currentPrice ≤ ind.bollLower) (ind.bollUpper ≤ st.currentPrice)
  else []) ++
  (if ind.stochRSI ≠ 0 then
    { pillar := "MOMENTUM", buyFeature := "ULTRA_STOCHRSI_OVERSOLD",
      sellFeature := "ULTRA_STOCHRSI_OVERBOUGHT", weight := 10, contrib := 7 / 100,
      buyReason := "StochRSI oversold", sellReason := "StochRSI overbought" : Reading }.on q
        (toFloat ind.stochRSI < 2 / 10) (8 / 10 < toFloat ind.stochRSI)
  else []) ++
  { pillar := "MOMENTUM", buyFeature := "ULTRA_RSI_OVERSOLD",
    sellFeature := "ULTRA_RSI_OVERBOUGHT", weight := 10, contrib := 6 / 100,
    buyReason := "RSI oversold", sellReason := "RSI overbought" : Reading }.on q
      (0 < rsi ∧ rsi < 30) (70 < rsi) ++
  (if st.candle.isRejection then
    { pillar := "CANDLE", buyFeature := "ULTRA_BULLISH_REJECTION",
      sellFeature := "ULTRA_BEARISH_REJECTION", weight := 15, contrib := 10 / 100,
      buyReason := "bullish rejection candle",
      sellReason := "bearish rejection candle" : Reading }.on q
        st.candle.isBullish st.candle.isBearish
  else []) ++
  (if ind.cci ≠ 0 then
    { pillar := "MOMENTUM", buyFeature := "ULTRA_CCI_OVERSOLD",
      sellFeature := "ULTRA_CCI_OVERBOUGHT", weight := 8, contrib := 5 / 100,
      buyReason := "CCI oversold", sellReason := "CCI overbought" : Reading }.on q
        (ind.cci < -100) (100 < ind.cci)
  else []) ++
  { pillar := "MOMENTUM", buyFeature := "ULTRA_OSMA_BULLISH",
    sellFeature := "ULTRA_OSMA_BEARISH", weight := 8, contrib := 5 / 100,
    buyReason := "OsMA positive", sellReason := "OsMA negative" : Reading }.on q
      (0 < ind.osma) (ind.osma < 0) ++
  -- a narrow spread is good for either side
  (if st.spread ≠ 0 ∧ ind.atr ≠ 0 ∧ decimalDiv st.spread ind.atr < 3 / 10 then
    { pillar := "VOLATILITY", buyFeature := "ULTRA_GOOD_SPREAD",
      sellFeature := "ULTRA_GOOD_SPREAD_S", weight := 6, contrib := 4 / 100,
      buyReason := "good spread for ultra",
      sellReason := "good spread for ultra" : Reading }.onEach q True True
  else [])

/-- The evidence that a trend is about to leave a range. -/
def computeTrendTransitionEvidence (st : MarketState) : List EvidenceContribution :=
  let ind := st.indicators
  let q := st.quality
  let adx := toFloat ind.adx
  (if 18 < adx ∧ adx < 30 then
    { pillar := "TREND", buyFeature := "ADX_EXPANSION_BULLISH",
      sellFeature := "ADX_EXPANSION_BEARISH", weight := 15, contrib := 10 / 100, raw := ind.adx,
      buyReason := "ADX expanding with bullish +DI",
      sellReason := "ADX expanding with bearish -DI" : Reading }.on q
        (ind.adxMinusDI < ind.adxPlusDI) (ind.adxPlusDI < ind.adxMinusDI)
  else []) ++
  { pillar := "TREND", buyFeature := "EMA_SLOPE_BULLISH", sellFeature := "EMA_SLOPE_BEARISH",
    weight := 12, contrib := 8 / 100, raw := ind.ema9,
    buyReason := "EMA9 above EMA21 — momentum building",
    sellReason := "EMA9 below EMA21 — momentum building" : Reading }.on q
      (ind.ema21 < ind.ema9) (ind.ema9 < ind.ema21) ++
  (if ind.bollWidth ≠ 0 ∧ 1 / 100 < toFloat ind.bollWidth then
    { pillar := "VOLATILITY", buyFeature := "BB_EXPANSION_UPPER",
      sellFeature := "BB_EXPANSION_LOWER", weight := 10, contrib := 6 / 100, raw := ind.bollWidth,
      buyReason := "BB expanding, price in upper half",
      sellReason := "BB expanding, price in lower half" : Reading }.on q
        (ind.bollMiddle < st.currentPrice) True
  else []) ++
  (if ind.atr ≠ 0 ∧ st.currentPrice ≠ 0 ∧
      15 / 10000 < decimalDiv ind.atr st.currentPrice then
    { pillar := "VOLATILITY", buyFeature := "ATR_EXPANSION", sellFeature := "ATR_EXPANSION_S",
      weight := 8, contrib := 4 / 100, raw := ind.atr,
      buyReason := "ATR elevated — breakout preparation",
      sellReason := "ATR elevated — breakout preparation" : Reading }.onEach q True True
  else []) ++
  { pillar := "STRUCTURE", buyFeature := "RANGE_BOS_BULLISH", sellFeature := "RANGE_BOS_BEARISH",
    weight := 15, contrib := 10 / 100, buyReason := "BOS in range — bullish pressure",
    sellReason := "BOS in range — bearish pressure" : Reading }.on q
      (st.structure_.lastBOS.map (·.direction) = some .bullish)
      (st.structure_.lastBOS.map (·.direction) = some .bearish) ++
  { pillar := "MOMENTUM", buyFeature := "MACD_EXPANSION_BULLISH",
    sellFeature := "MACD_EXPANSION_BEARISH", weight := 10, contrib := 6 / 100,
    buyReason := "MACD above signal — bullish momentum",
    sellReason := "MACD below signal — bearish momentum" : Reading }.on q
      (ind.macdSignal < ind.macdMain) (ind.macdMain < ind.macdSignal) ++
  { pillar := "MTF", buyFeature := "MTF_BULLISH_ALIGNMENT",
    sellFeature := "MTF_BEARISH_ALIGNMENT", weight := 12, contrib := 7 / 100,
    buyReason := "MTF aligning bullish", sellReason := "MTF aligning bearish" : Reading }.on q
      (30 < st.mtf.score) (st.mtf.score < -30) ++
  { pillar := "STRUCTURE", buyFeature := "HH_HL_DEVELOPING", sellFeature := "LH_LL_DEVELOPING",
    weight := 10, contrib := 6 / 100, buyReason := "higher highs/lows developing",
    sellReason := "lower highs/lows developing" : Reading }.on q
      (st.structure_.currentTrend = .bullish) (st.structure_.currentTrend = .bearish)

end PredictATrade.Realtime.Strategy
