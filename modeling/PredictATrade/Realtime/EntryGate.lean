import PredictATrade.Realtime.Geometry

/-!
# `Realtime.EntryGate` — the refinement of a result

What is added to a result that has a direction: a micro profit-taking level, the entry gate of the
strategy with the reasons it gives, and the expected value with the tier it puts the candidate in.
`applyRefinement` leaves the direction and the levels of the geometry alone.
-/

namespace PredictATrade.Realtime.Strategy
open Lib.Decimal Features

/-! ## Results -/

/-- The output of a strategy evaluation. -/
structure StrategyResult where
  strategyID : StrategyID
  direction : Direction := .noTrade
  rawScore : Decimal := 0
  longScore : Decimal := 0
  shortScore : Decimal := 0
  evidence : List EvidenceContribution := []
  entryPrice : Decimal := 0
  stopLoss : Decimal := 0
  tp1 : Decimal := 0
  tp2 : Decimal := 0
  tp3 : Decimal := 0
  reasonCodes : List NoTradeReason := []
  conflictPenalty : Decimal := 0
  expiryMinutes : ℕ
  cooldownMinutes : ℕ
  transitionLongScore : Decimal := 0
  transitionShortScore : Decimal := 0
  transitionConflict : Decimal := 0
  transitionFinalScore : Decimal := 0
  transitionCandidateThreshold : Float64 := 0
  isTransitionCandidate : Bool := false
  dominance : Float64 := 0
  microTP : Decimal := 0
  partialClosePct : Float64 := 0
  edgeScore : Float64 := 0
  expectedValue : Float64 := 0
  isLossCandidate : Bool := false
  shadowExecutable : Bool := false
  qualityTier : String := ""
  entryGatePassed : Bool := false
  entryGateMetrics : List (String × Float64) := []
  deriving DecidableEq, Repr

/-! ## Exit geometry -/

/-- How a strategy leaves a trade. -/
structure ExitSpec where
  microTPATRMult : Float64
  partialClosePct : Float64
  maxSpreadPips : Float64
  deriving DecidableEq, Repr

/-- `StrategyExitSpec`. -/
def strategyExitSpec : StrategyID → ExitSpec
  | .ultraScalping => ⟨5 / 10, 50 / 100, 15 / 10⟩
  | .standardScalping => ⟨5 / 10, 40 / 100, 25 / 10⟩
  | .standardSwing => ⟨12 / 10, 35 / 100, 4⟩
  | .trendSwing => ⟨18 / 10, 30 / 100, 5⟩
  | .marnieFib => ⟨7 / 10, 40 / 100, 4⟩
  | .aten => ⟨1, 35 / 100, 4⟩
  | .arcanist => ⟨8 / 10, 40 / 100, 25 / 10⟩

/-! ## Filters -/

/-- Where the price is inside the Bollinger band, 0 at the lower one and 1 at the upper one. -/
def bollingerPercentB (st : MarketState) : Option Float64 :=
  let u := st.indicators.bollUpper
  let l := st.indicators.bollLower
  if u = 0 ∨ l = 0 ∨ u - l = 0 then none
  else some (toFloat (decimalDiv (st.currentPrice - l) (u - l)))

/-- How far the volatility is from its usual. -/
def volatilityRegimeZ (st : MarketState) : Float64 :=
  if st.indicators.atr = 0 ∨ st.currentPrice = 0 then 0
  else (toFloat (decimalDiv st.indicators.atr st.currentPrice) - 25 / 10000) / (15 / 10000)

/-- How far the price is from the average price by volume, if there is one. -/
def entryEfficiencyZ (st : MarketState) : Option Float64 :=
  if st.vwap.sessionVWAP = 0 ∨ st.indicators.atr = 0 then none
  else some (toFloat (vwapDeviation st))

/-- A signed score: negative for a SELL with the momentum. -/
def momentumQuality (st : MarketState) (dir : Direction) : Float64 :=
  let ind := st.indicators
  match dir with
  | .buy => (if 0 < ind.osma then 1 else 0) + (if ind.macdSignal < ind.macdMain then 1 else 0)
  | .sell =>
    -(if ind.osma < 0 then 1 else 0) - (if ind.macdMain < ind.macdSignal then 1 else 0)
  | _ => 0

/-! ## The entry gate -/

/-- The bounds on the place in the Bollinger band: a BUY above the first and a SELL below the second
chases the move. -/
def bollingerBounds : StrategyID → Option (Float64 × Float64)
  | .standardScalping | .standardSwing => some (85 / 100, 15 / 100)
  | .ultraScalping => some (92 / 100, 8 / 100)
  | _ => none

/-- The reasons that only the gate of one strategy gives. -/
def strategyGate (id : StrategyID) (st : MarketState) (dir : Direction) : List NoTradeReason :=
  let ind := st.indicators
  let price := st.currentPrice
  let vz := volatilityRegimeZ st
  let adx := toFloat ind.adx
  match id with
  | .ultraScalping =>
    reasonIf (dir = .buy ∧ ¬ (ind.ema21 < ind.ema9 ∧ ind.ema50 < ind.ema21))
      ntUnclearStructure ++
    reasonIf (dir = .sell ∧ ¬ (ind.ema9 < ind.ema21 ∧ ind.ema21 < ind.ema50))
      ntUnclearStructure ++
    reasonIf (momentumQuality st dir ≤ 0) ntInsufficientScore ++
    reasonIf (3 < vz) ntExtremeVolatility
  | .standardScalping =>
    reasonIf (st.hour = 2 ∨ st.hour = 19 ∨ st.hour = 21 ∨ st.hour = 23) ntLowLiquidity ++
    reasonIf (dir = .buy ∧ ¬ ind.ema21 < ind.ema9) ntUnclearStructure ++
    reasonIf (dir = .sell ∧ ¬ ind.ema9 < ind.ema21) ntUnclearStructure ++
    reasonIf (dir = .buy ∧ st.vwap.sessionVWAP ≠ 0 ∧ ¬ st.vwap.sessionVWAP < price)
      ntConflictingTimeframes ++
    reasonIf (dir = .sell ∧ st.vwap.sessionVWAP ≠ 0 ∧ ¬ price < st.vwap.sessionVWAP)
      ntConflictingTimeframes ++
    reasonIf (momentumQuality st dir < 1) ntUnclearStructure ++
    reasonIf (adx < 20) ntUnclearStructure ++
    reasonIf (35 / 10 < vz) ntExtremeVolatility
  | .standardSwing =>
    reasonIf (dir = .buy ∧ ¬ ind.ema50 < ind.ema21) ntUnclearStructure ++
    reasonIf (dir = .sell ∧ ¬ ind.ema21 < ind.ema50) ntUnclearStructure ++
    reasonIf (ind.sma200 ≠ 0 ∧ dir = .buy ∧ ¬ ind.sma200 < price) ntConflictingTimeframes ++
    reasonIf (ind.sma200 ≠ 0 ∧ dir = .sell ∧ ¬ price < ind.sma200) ntConflictingTimeframes ++
    reasonIf (adx < 20) ntInsufficientScore
  | .trendSwing =>
    reasonIf (ind.ema100 ≠ 0 ∧ ind.ema200 ≠ 0 ∧ dir = .buy ∧ ¬ ind.ema200 < ind.ema100)
      ntUnclearStructure ++
    reasonIf (ind.ema100 ≠ 0 ∧ ind.ema200 ≠ 0 ∧ dir = .sell ∧ ¬ ind.ema100 < ind.ema200)
      ntUnclearStructure ++
    reasonIf (adx < 20) ntInsufficientScore ++
    reasonIf (st.structure_.currentTrend = .bullish ∧ dir = .sell) ntUnclearStructure ++
    reasonIf (st.structure_.currentTrend = .bearish ∧ dir = .buy) ntUnclearStructure ++
    reasonIf (ind.parabolicSAR ≠ 0 ∧ ind.parabolicSARLong ∧ dir = .sell)
      ntConflictingTimeframes ++
    reasonIf (ind.parabolicSAR ≠ 0 ∧ ¬ ind.parabolicSARLong ∧ dir = .buy) ntConflictingTimeframes
  | .marnieFib =>
    reasonIf (dir = .buy ∧ ¬ ind.ema50 < ind.ema21) ntUnclearStructure ++
    reasonIf (dir = .sell ∧ ¬ ind.ema21 < ind.ema50) ntUnclearStructure
  | .aten | .arcanist => []

/-- The bounds of `bollingerBounds` applied to a direction. -/
def bollingerReasons (id : StrategyID) (st : MarketState) (dir : Direction) : List NoTradeReason :=
  match bollingerPercentB st, bollingerBounds id with
  | some b, some (upper, lower) =>
    reasonIf (dir = .buy ∧ upper < b) ntExtremeVolatility ++
      reasonIf (dir = .sell ∧ b < lower) ntExtremeVolatility
  | _, _ => []

/-- What speaks against an entry so far from the average price. -/
def efficiencyReasons (st : MarketState) (dir : Direction) : List NoTradeReason :=
  match entryEfficiencyZ st with
  | none => []
  | some z => reasonIf (dir = .buy ∧ 3 < z ∨ dir = .sell ∧ z < -3) ntUnclearStructure

/-- The observability metrics of the gate. -/
def gateMetrics (id : StrategyID) (st : MarketState) : List (String × Float64) :=
  [("spread_pips", toFloat st.spread), ("atr", toFloat st.indicators.atr),
    ("vol_z", volatilityRegimeZ st)] ++
    ((bollingerPercentB st).map fun b => ("boll_pctb", b)).toList ++
    (if id = .standardScalping then [("entry_hour_utc", (st.hour : Float64))] else []) ++
    ((entryEfficiencyZ st).map fun z => ("eff_z", z)).toList

/-- The reasons against an entry, and the metrics; the gate passes where there are no reasons. -/
def uniqueEntryGate (id : StrategyID) (st : MarketState) (dir : Direction) :
    List NoTradeReason × List (String × Float64) :=
  if dir ≠ .buy ∧ dir ≠ .sell then ([], [])
  else
    let spread := toFloat st.spread
    let atr := toFloat st.indicators.atr
    (reasonIf (0 < atr ∧ (strategyExitSpec id).maxSpreadPips < spread) ntHighSpread ++
      reasonIf (0 < atr ∧ 6 / 10 < spread / atr) ntHighSpread ++
      bollingerReasons id st dir ++ strategyGate id st dir ++ efficiencyReasons st dir,
      gateMetrics id st)

/-! ## Expected value -/

/-- What the entry is worth. -/
structure Profitability where
  netRR1 : Float64 := 0
  expectedValue : Float64 := 0
  edgeScore : Float64 := 0
  lossCandidate : Bool := false
  microTPDist : Float64 := 0
  microTPProfitable : Bool := false
  shadowExecutable : Bool := false
  qualityTier : String := "C"
  evidenceQuality : String := "UNKNOWN"
  softFailures : ℕ := 0
  deriving DecidableEq, Repr

/-- The assumed rate of wins, adjusted to the score. -/
def costAwareWinRate (score : Float64) (sp : StrategyProfile) : Float64 :=
  min (max (sp.assumedHitRate + (score - 55) / 100 * (12 / 100)) (40 / 100)) (90 / 100)

/-- How much evidence there is. -/
def evidenceQuality (sampleSize : ℕ) (sp : StrategyProfile) : String :=
  if sp.minEvidenceTrades ≤ sampleSize ∧ 0 < sp.minEvidenceTrades then "SUFFICIENT"
  else if 0 < sampleSize then "LIMITED"
  else "UNKNOWN"

/-- The tier of a candidate that qualifies. -/
def qualifiedTier (ev score : Float64) : String :=
  if 30 / 100 ≤ ev ∧ 65 ≤ score then "A_PLUS"
  else if 10 / 100 ≤ ev ∧ 55 ≤ score then "A"
  else if -(25 / 100) ≤ ev then "B"
  else "C"

/-- Reject, shadow or qualify: loss candidate, shadow, tier. -/
def classify (ev score : Float64) (softFailures maxSoftFail : ℕ) (evidenceQuality : String) :
    Bool × Bool × String :=
  let sufficient := evidenceQuality = "SUFFICIENT"
  if ev ≤ -(25 / 100) ∨ maxSoftFail < softFailures then
    if sufficient then (true, false, "REJECT") else (false, true, "WATCH")
  else (false, false, qualifiedTier ev score)

/-- `EvaluateProfitability`. -/
def evaluateProfitability (env : Env) (st : MarketState) (entry sl tp1 : Decimal)
    (spec : ExitSpec) (score : Float64) (id : StrategyID) (outcomeSample : ℕ) : Profitability :=
  let sp := env.currentGateProfile.strategy id
  if entry = 0 ∨ sl = 0 ∨ tp1 = 0 then { shadowExecutable := true, qualityTier := "WATCH" }
  else
    let cost := (if st.spread = 0 then 4 / 10 else st.spread) + env.roundTripFixedCost
    let atr := if st.indicators.atr = 0 then 15 else st.indicators.atr
    let netWin := |tp1 - entry| - cost
    let netLoss := |entry - sl| + cost
    if netLoss = 0 then { shadowExecutable := true, qualityTier := "WATCH" }
    else
      let netRR1 := toFloat (decimalDiv netWin netLoss)
      let wr := costAwareWinRate score sp
      let ev := toFloat (decimalDiv (wr * netWin - (1 - wr) * netLoss) netLoss)
      -- the partial close recovers its share of the cost
      let microDist := atr * spec.microTPATRMult
      let profitable := decide (cost * (1 - spec.partialClosePct) < microDist)
      let softFailures : ℕ :=
        (if netRR1 < sp.minNetRR then 1 else 0) +
        (if profitable = false ∧ 0 < sp.costToTP1MaxPct ∧ microDist ≠ 0 ∧
            sp.costToTP1MaxPct < decimalDiv cost microDist then 1 else 0) +
        (if score < sp.minScore then 1 else 0)
      let quality := evidenceQuality outcomeSample sp
      let verdict := classify ev score softFailures env.currentGateProfile.maxSoftFailForShadow
        quality
      { netRR1 := netRR1
        expectedValue := ev
        edgeScore := wr
        lossCandidate := verdict.1
        microTPDist := toFloat microDist
        microTPProfitable := profitable
        shadowExecutable := verdict.2.1
        qualityTier := verdict.2.2
        evidenceQuality := quality
        softFailures := softFailures }

/-! ## Refinement -/

/-- The micro profit-taking level of a result. -/
def microLevel (st : MarketState) (dir : Direction) (id : StrategyID) (r : StrategyResult) :
    Decimal :=
  let atr := if st.indicators.atr = 0 then getStrategyATR st id else st.indicators.atr
  let microDist := atr * (strategyExitSpec id).microTPATRMult
  if atr = 0 then r.microTP
  else if dir = .buy then r.entryPrice + microDist
  else r.entryPrice - microDist

/-- The entry gate with the cap on the score of standard scalping. -/
def refinedGate (st : MarketState) (dir : Direction) (id : StrategyID) (rawScore : Decimal) :
    List NoTradeReason × List (String × Float64) :=
  let gate := uniqueEntryGate id st dir
  if id = .standardScalping then
    (gate.1 ++ reasonIf (62 ≤ toFloat rawScore) ntOverextended,
      gate.2 ++ [("raw_score", toFloat rawScore)])
  else gate

/-- `applyRefinement`. -/
def applyRefinement (env : Env) (st : MarketState) (dir : Direction) (cfg : StrategyConfig)
    (rawScore : Decimal) (r : StrategyResult) : StrategyResult :=
  if dir ≠ .buy ∧ dir ≠ .sell then r
  else
    let spec := strategyExitSpec cfg.strategyID
    let gate := refinedGate st dir cfg.strategyID rawScore
    let prof := evaluateProfitability env st r.entryPrice r.stopLoss r.tp1 spec (toFloat rawScore)
      cfg.strategyID 0
    { r with
      microTP := microLevel st dir cfg.strategyID r
      partialClosePct := spec.partialClosePct
      entryGatePassed := gate.1 == []
      entryGateMetrics := gate.2
      reasonCodes := r.reasonCodes ++ gate.1
      edgeScore := prof.edgeScore
      expectedValue := prof.expectedValue
      isLossCandidate := prof.lossCandidate
      shadowExecutable := prof.shadowExecutable
      qualityTier := if r.qualityTier = "" then prof.qualityTier else r.qualityTier }

/-- The entry, stop and target prices of a result. -/
def StrategyResult.levels (r : StrategyResult) : List Decimal :=
  [r.entryPrice, r.stopLoss, r.tp1, r.tp2, r.tp3, r.microTP]

section
variable {env : Env} {st : MarketState} {dir : Direction} {cfg : StrategyConfig} {raw : Decimal}
  {r : StrategyResult}

@[simp] theorem applyRefinement_direction :
    (applyRefinement env st dir cfg raw r).direction = r.direction := by
  unfold applyRefinement
  split <;> rfl

/-- Without a direction nothing is refined. -/
theorem applyRefinement_of_not_directional (h : dir ≠ .buy ∧ dir ≠ .sell) :
    applyRefinement env st dir cfg raw r = r := by
  unfold applyRefinement
  rw [if_pos h]

end

end PredictATrade.Realtime.Strategy
