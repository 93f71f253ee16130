import Mathlib.Data.Rat.Defs
import Mathlib.Algebra.Order.Ring.Unbundled.Rat
import PredictATrade.Lib.Binary64

/-!
# `Realtime.Types` — the canonical types of the engine

The types of `internal/types` that the modelled parts of the real-time engine share. Prices and
scores are exact decimals, hence rationals; a `float64` is the rational it denotes. A zero value
that the source tests for (`IsZero`, an empty identifier) is `none`.

Arithmetic on `float64` values is exact, and so is their conversion from decimals, unless a module says
otherwise: what the last binary place of a result decides is then not modelled. The hard gates get their prices as
doubles (`Decimal.float64`), and the ratio of reward to risk, the margin-aware lot cap and the family caps of the
evidence round each operation, because there the last place decides.
-/

namespace PredictATrade.Realtime

/-- A `decimal.Decimal`. -/
abbrev Decimal := ℚ

/-- A `float64`, by the number it denotes. -/
abbrev Float64 := ℚ

/-- A point in time, in milliseconds. -/
abbrev Time := ℤ

/-- `Decimal.Float64`: the nearest double. -/
def Decimal.float64 (d : Decimal) : Float64 := Lib.Binary64.fl d

/-- `Decimal.Float64` without its rounding. -/
def toFloat (d : Decimal) : Float64 := d

/-! ## Identifiers -/

/-- A trade direction. A candidate is an advisory BUY or SELL. -/
inductive Direction where
  | buy | sell | buyCandidate | sellCandidate | wait | noTrade | blocked | error
  deriving DecidableEq, Repr

/-- A strategy. The source has a string here; only the ids of its constants are modelled. -/
inductive StrategyID where
  | standardScalping | ultraScalping | standardSwing | trendSwing | marnieFib | aten | arcanist
  deriving DecidableEq, Repr

/-- A timeframe. The source has a string here; only its constants are modelled. -/
inductive Timeframe where
  | m1 | m5 | m15 | m30 | h1 | h4 | d1 | w1 | mn1
  deriving DecidableEq, Repr

/-- The regimes. -/
inductive Regime where
  | trendingBullish | trendingBearish | range | breakout | meanReversion | highVolatility
  | lowVolatility | liquidityEvent | newsEvent | unstable | noTrade
  deriving DecidableEq, Repr

/-- The qualities of data. -/
inductive QualityState where
  | authoritative | derived | estimated | degraded | stale | unavailable | invalid
  deriving DecidableEq, Repr

/-- The grades of a signal. -/
inductive SignalGrade where
  | aPlus | a | b | c | noTrade | wait | blocked | error | research | unrated | shadow
  deriving DecidableEq, Repr

/-- The lifecycle states a decision can leave a new signal in. -/
inductive SignalStatus where
  | detected | candidate | confirmed
  deriving DecidableEq, Repr

/-- The outcome of a hard gate. -/
inductive GateResult where
  | pass | veto | degraded | unknown
  deriving DecidableEq, Repr

/-- `GateID` is a string. The constants of the source, and by number any id that no constant names. -/
inductive GateID where
  | other (n : ℕ)
  | dataQuality | session | news | spread | slippage | totalCost | exposure | margin
  | rrNetExpectancy | entitlement | license | executionPermit | stopHuntFilter | minATR
  | regimeDirection | wrongSideSL | riskOversize | positionCaps | dailyLoss | profitTarget
  | martingaleBan | edgeValidation | brokerSymbolValidation | profitability
  deriving DecidableEq, Repr

/-! ## Reason codes -/

/-- A standardized NO-TRADE reason; the engine also turns a gate's own codes into reasons. -/
abbrev NoTradeReason := String

/-- The score is too low. -/
def ntInsufficientScore : NoTradeReason := "INSUFFICIENT_SCORE"

/-- A gate is degraded. -/
def ntGateDegraded : NoTradeReason := "GATE_DEGRADED"

/-- The market is closed. -/
def ntMarketClosed : NoTradeReason := "MARKET_CLOSED"

/-! ## Market data and evidence -/

/-- A tick. -/
structure Tick where
  bid : Decimal
  ask : Decimal
  mid : Decimal
  spread : Decimal
  quality : QualityState
  deriving DecidableEq, Repr

/-- One pillar's contribution to a signal score. -/
structure EvidenceContribution where
  pillar : String
  feature : String
  direction : Direction
  weight : Decimal
  contribution : Decimal
  normalizedValue : Decimal
  rawValue : Decimal := 0
  quality : QualityState
  reasonCode : String
  deriving DecidableEq, Repr

/-- The record of a single gate check. -/
structure GateEvaluation where
  gateID : GateID
  result : GateResult
  reasonCodes : List String := []
  evaluatedAt : Option Time := none
  freshnessMs : ℤ := 0
  stateVersion : String := ""
  safeLot : Float64 := 0
  classification : String := ""
  softScore : Float64 := 0
  qualityTier : String := ""
  shadowExecutable : Bool := false
  deriving DecidableEq, Repr

/-- A trading signal, with the fields that a decision sets. -/
structure Signal where
  symbol : String := ""
  strategyID : StrategyID
  direction : Direction
  grade : SignalGrade
  status : SignalStatus
  executable : Bool := false
  rawScore : Decimal
  longScore : Decimal
  shortScore : Decimal
  entryPrice : Decimal := 0
  stopLoss : Decimal := 0
  tp1 : Decimal := 0
  tp2 : Decimal := 0
  tp3 : Decimal := 0
  grossRRTP1 : Decimal := 0
  expectedCost : Decimal := 0
  suggestedLot : Decimal := 0
  regime : Option Regime := none
  session : String := ""
  newsRisk : String := ""
  reasonCodes : List NoTradeReason := []
  humanReason : String := ""
  nextMarketOpen : Option Time := none
  evidence : List EvidenceContribution := []
  gateResults : List GateEvaluation := []
  aiVerification : String := ""
  riskDecision : String := ""
  gatePolicyVersion : String := ""
  shadowOnly : Bool := false
  microTP : Decimal := 0
  partialClosePct : Float64 := 0
  edgeScore : Float64 := 0
  expectedValue : Float64 := 0
  isLossCandidate : Bool := false
  qualityTier : String := ""
  shadowExecutable : Bool := false
  deriving DecidableEq, Repr

/-- `SymbolXAUUSD`. -/
def symbolXAUUSD : String := "XAUUSD"

end PredictATrade.Realtime
