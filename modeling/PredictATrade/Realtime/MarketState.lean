import PredictATrade.Realtime.Features

/-!
# `Realtime.MarketState` — what the strategies read

The market state of `internal/features` with the reports of the feature engines that the four
canonical strategies read, and the configuration each strategy is built with. An indicator that is
not available is zero, as in the source.
-/

namespace PredictATrade.Realtime.Strategy
open Features

/-! ## The market state -/

/-- A gap in the prices. -/
structure FVGZone where
  type : String
  filled : Bool
  deriving DecidableEq, Repr

/-- A block of orders. -/
structure OrderBlock where
  type : String
  mitigated : Bool
  deriving DecidableEq, Repr

/-- The gaps and the blocks. -/
structure FVGFeatures where
  fvgs : List FVGZone := []
  orderBlocks : List OrderBlock := []
  deriving DecidableEq, Repr

/-- The average prices by volume. -/
structure VWAPFeatures where
  sessionVWAP : Decimal := 0
  deriving DecidableEq, Repr

/-- The indicators, as far as the strategies read them. -/
structure IndicatorFeatures where
  ema9 : Decimal := 0
  ema21 : Decimal := 0
  ema50 : Decimal := 0
  ema100 : Decimal := 0
  ema200 : Decimal := 0
  sma200 : Decimal := 0
  macdMain : Decimal := 0
  macdSignal : Decimal := 0
  macdHistogram : Decimal := 0
  adx : Decimal := 0
  adxPlusDI : Decimal := 0
  adxMinusDI : Decimal := 0
  parabolicSAR : Decimal := 0
  parabolicSARLong : Bool := false
  ichimokuTenkan : Decimal := 0
  ichimokuKijun : Decimal := 0
  ichimokuAboveCloud : Bool := false
  ichimokuBelowCloud : Bool := false
  rsi : Decimal := 0
  stochMain : Decimal := 0
  stochSignal : Decimal := 0
  stochRSI : Decimal := 0
  cci : Decimal := 0
  atr : Decimal := 0
  bollUpper : Decimal := 0
  bollLower : Decimal := 0
  bollMiddle : Decimal := 0
  bollWidth : Decimal := 0
  osma : Decimal := 0
  deriving DecidableEq, Repr

/-- The regime. -/
structure RegimeFeatures where
  current : Regime
  deriving DecidableEq, Repr

/-- The score of the alignment of the timeframes, and the trend of each that has one. -/
structure MTFFeatures where
  score : Float64 := 0
  states : Timeframe → Option ℤ := fun _ => none

/-- The session. -/
structure SessionFeatures where
  currentSession : String := ""
  isOverlap : Bool := false
  newsRisk : String := ""
  deriving DecidableEq, Repr

/-- What is told of the last candle. -/
structure CandleIntelligence where
  range : Decimal := 0
  isBullish : Bool := false
  isBearish : Bool := false
  isDisplacement : Bool := false
  isRejection : Bool := false
  isBreakout : Bool := false
  consecutiveBull : ℕ := 0
  consecutiveBear : ℕ := 0
  pinBarRejDirection : String := ""
  pinBarQuality : Decimal := 0
  deriving DecidableEq, Repr

/-- Retracement levels by their names, and the direction text of the move. -/
structure FibonacciFeatures where
  levels : String → Option Decimal := fun _ => none
  direction : String := ""
  ready : Bool := false

/-- The pivots of a period. -/
structure PivotSet where
  p : Decimal := 0
  ready : Bool := false
  deriving DecidableEq, Repr

/-- The pivots. -/
structure PivotFeatures where
  daily : PivotSet := {}
  ready : Bool := false
  deriving DecidableEq, Repr

/-- The ranges of the sessions. -/
structure SessionORBFeatures where
  asianRange : Decimal := 0
  compression : Decimal := 0
  breakoutDir : String := ""
  deriving DecidableEq, Repr

/-- The market state at the close of a candle. `candles` holds the last candle of each timeframe
that has one. -/
structure MarketState extends Features.MarketState where
  timestamp : Time := 0
  bid : Decimal := 0
  ask : Decimal := 0
  spread : Decimal := 0
  candles : Timeframe → Option Candle := fun _ => none
  fvg : FVGFeatures := {}
  vwap : VWAPFeatures := {}
  indicators : IndicatorFeatures := {}
  regime : RegimeFeatures
  mtf : MTFFeatures := {}
  session : SessionFeatures := {}
  candle : CandleIntelligence := {}
  fibonacci : FibonacciFeatures := {}
  pivots : PivotFeatures := {}
  sessionORB : SessionORBFeatures := {}

/-- `Timestamp.UTC().Hour()`. -/
def MarketState.hour (st : MarketState) : ℤ := st.timestamp / 3600000 % 24

/-! ## The configuration of a strategy -/

/-- What a strategy is configured with. -/
structure StrategyConfig where
  strategyID : StrategyID
  minConfluence : Float64
  minMTFAlignment : Float64
  atrMultiplierSL : Float64
  atrMultiplierTP1 : Float64
  atrMultiplierTP2 : Float64
  atrMultiplierTP3 : Float64
  minSLATRFloor : Float64 := 0
  minADX : Float64
  expiryMinutes : ℕ
  cooldownMinutes : ℕ
  acceptedRegimes : List Regime
  acceptedSessions : List String
  deriving DecidableEq, Repr

/-- The sessions that all four strategies trade in. -/
def tradedSessions : List String := ["LONDON", "NEW_YORK", "OVERLAP", "TOKYO", "SYDNEY"]

/-- The regimes of the strategies that trade in ranges. -/
def allTradedRegimes : List Regime :=
  [.trendingBullish, .trendingBearish, .breakout, .meanReversion, .range, .highVolatility]

/-- The configuration of the standard scalping strategy. -/
def newStandardScalping : StrategyConfig :=
  { strategyID := .standardScalping
    minConfluence := 65
    minMTFAlignment := 40
    atrMultiplierSL := 8 / 10
    atrMultiplierTP1 := 12 / 10
    atrMultiplierTP2 := 2
    atrMultiplierTP3 := 35 / 10
    minADX := 20
    expiryMinutes := 10
    cooldownMinutes := 15
    acceptedRegimes := allTradedRegimes
    acceptedSessions := tradedSessions }

/-- The configuration of the ultra scalping strategy. -/
def newUltraScalping : StrategyConfig :=
  { strategyID := .ultraScalping
    minConfluence := 65
    minMTFAlignment := 50
    atrMultiplierSL := 1
    atrMultiplierTP1 := 15 / 10
    atrMultiplierTP2 := 25 / 10
    atrMultiplierTP3 := 4
    minADX := 25
    expiryMinutes := 3
    cooldownMinutes := 5
    acceptedRegimes := allTradedRegimes
    acceptedSessions := tradedSessions }

/-- The configuration of the standard swing strategy. -/
def newStandardSwing : StrategyConfig :=
  { strategyID := .standardSwing
    minConfluence := 55
    minMTFAlignment := 30
    atrMultiplierSL := 2
    atrMultiplierTP1 := 3
    atrMultiplierTP2 := 5
    atrMultiplierTP3 := 8
    minADX := 20
    expiryMinutes := 60
    cooldownMinutes := 120
    acceptedRegimes := allTradedRegimes
    acceptedSessions := tradedSessions }

/-- The configuration of the trend swing strategy. -/
def newTrendSwing : StrategyConfig :=
  { strategyID := .trendSwing
    minConfluence := 50
    minMTFAlignment := 25
    atrMultiplierSL := 25 / 10
    atrMultiplierTP1 := 4
    atrMultiplierTP2 := 65 / 10
    atrMultiplierTP3 := 10
    minADX := 20
    expiryMinutes := 240
    cooldownMinutes := 360
    acceptedRegimes := [.trendingBullish, .trendingBearish, .breakout, .highVolatility]
    acceptedSessions := tradedSessions }

/-! ## The surroundings of an evaluation -/

/-- A row of `trading.exit_profiles`. -/
structure ExitProfileConfig where
  calculationMode : String
  stopPct : Float64
  tp1Pct : Float64
  tp2Pct : Float64
  tp3Pct : Float64
  minStopATRMult : Float64
  maxStopATRMult : Float64
  minTP1ATRMult : Float64
  maxTP1ATRMult : Float64
  deriving DecidableEq, Repr

/-- The soft-alpha thresholds of a strategy. -/
structure StrategyProfile where
  assumedHitRate : Float64
  minNetRR : Float64
  costToTP1MaxPct : Float64
  minScore : Float64
  minEvidenceTrades : ℕ := 0
  deriving DecidableEq, Repr

/-- The active gate profile: the thresholds of each strategy, the default entry included. -/
structure GateProfile where
  strategy : StrategyID → StrategyProfile
  maxSoftFailForShadow : ℕ

/-- What an evaluation reads besides the market state: the exit profile that is loaded for a
strategy (`LoadExitProfile`), the two threshold overrides of the environment (zero when unset), the
fixed cost of a round trip, and the gate profile. -/
structure Env where
  loadExitProfile : StrategyID → Option ExitProfileConfig
  candidateThresholdOverride : Float64 := 0
  tradeThresholdOverride : Float64 := 0
  roundTripFixedCost : Decimal := 0
  currentGateProfile : GateProfile

end PredictATrade.Realtime.Strategy
