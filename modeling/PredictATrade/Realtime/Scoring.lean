import PredictATrade.Realtime.Evidence

/-!
# `Realtime.Scoring` — from evidence to a direction

The steps that the four strategies share between the evidence and the trade levels: the caps on the
families of evidence, the thresholds of a regime, the score of the two sides with the direction that
wins, the filter against the trend of the higher timeframe, and the penalty for contradictions.
`Favours` says which side wins in terms of the scores alone.
-/

namespace PredictATrade.Realtime.Strategy
open Features Lib.Binary64

/-! ## Reasons -/

/-- The timeframes point in different directions. -/
def ntConflictingTimeframes : NoTradeReason := "CONFLICTING_TIMEFRAMES"

/-- The news is risky. -/
def ntHighNewsRisk : NoTradeReason := "HIGH_NEWS_RISK"

/-- The volatility is extreme. -/
def ntExtremeVolatility : NoTradeReason := "EXTREME_VOLATILITY"

/-- The liquidity is low. -/
def ntLowLiquidity : NoTradeReason := "LOW_LIQUIDITY"

/-- The spread is high. -/
def ntHighSpread : NoTradeReason := "HIGH_SPREAD"

/-- The structure is unclear. -/
def ntUnclearStructure : NoTradeReason := "UNCLEAR_STRUCTURE"

/-- The price has run too far. -/
def ntOverextended : NoTradeReason := "OVEREXTENDED"

/-- The session is not one of the strategy's. -/
def ntSessionUnsuitable : NoTradeReason := "SESSION_UNSUITABLE"

/-- The regime is not one of the strategy's. -/
def ntRegimeMismatch : NoTradeReason := "NT_REGIME_MISMATCH"

/-- There is no average true range yet. -/
def ntATRNotReady : NoTradeReason := "NT_ATR_NOT_READY"

/-- The higher timeframe is bearish. -/
def ntHTFBearishVeto : NoTradeReason := "HTF_BEARISH_VETO"

/-- The higher timeframe is bullish. -/
def ntHTFBullishVeto : NoTradeReason := "HTF_BULLISH_VETO"

/-- The trend has not turned. -/
def ntNoTrendTransition : NoTradeReason := "NT_NO_TREND_TRANSITION"

/-- The evidence points both ways. -/
def ntConflictingDirection : NoTradeReason := "NT_CONFLICTING_DIRECTION"

/-- A reason that is given under a condition. -/
def reasonIf (p : Prop) [Decidable p] (reason : NoTradeReason) : List NoTradeReason :=
  if p then [reason] else []

/-! ## Evidence families -/

/-- `familyMax`, with its constants as they are written. -/
def familyMax : String → Option ℚ
  | "TREND" => some (35 / 100)
  | "MOMENTUM" => some (30 / 100)
  | "VOLATILITY" => some (15 / 100)
  | "VWAP" => some (15 / 100)
  | "STRUCTURE" => some (25 / 100)
  | "LIQUIDITY" => some (20 / 100)
  | "SMC" => some (20 / 100)
  | "MTF" => some (20 / 100)
  | "CANDLE" => some (20 / 100)
  | "REGIME" => some (15 / 100)
  | "ML" => some (25 / 100)
  | "SENTIMENT" => some (25 / 100)
  | "SESSION_ORB" => some (15 / 100)
  | _ => none

/-- The `float64` sum of a family, in the order of the evidence. -/
def familySum (pillar : String) (evidence : List EvidenceContribution) : Float64 :=
  flSum ((evidence.filter (·.pillar == pillar)).map (·.contribution.float64))

/-- `decimal.NewFromFloat`: the shortest decimal that is read back as the double. -/
def newFromFloat (value : Float64) : Decimal := shortest value

/-- A family whose contributions, of either side, exceed its maximum is scaled down to it. The factor is a `float64`
quotient. -/
def applyFamilyCaps (evidence : List EvidenceContribution) : List EvidenceContribution :=
  evidence.map fun e =>
    match familyMax e.pillar with
    | none => e
    | some max =>
      let sum := familySum e.pillar evidence
      if fl max < sum then
        let scale := fl (fl max / sum)
        { e with
          contribution := e.contribution * newFromFloat scale
          normalizedValue := e.contribution * newFromFloat scale }
      else e

/-! ## Thresholds -/

/-- The candidate and the trade threshold of each regime that a strategy has thresholds for. -/
def defaultRegimeThresholds : StrategyID → Option (Regime → Option (Float64 × Float64))
  | .standardScalping => some fun
    | .trendingBullish | .trendingBearish | .breakout | .highVolatility => some (10, 25)
    | .range | .meanReversion => some (15, 45)
    | _ => none
  | .ultraScalping => some fun
    | .trendingBullish | .trendingBearish | .breakout | .meanReversion | .range
    | .highVolatility => some (10, 25)
    | _ => none
  | .standardSwing => some fun
    | .trendingBullish | .trendingBearish | .breakout | .highVolatility => some (10, 25)
    | .range | .meanReversion => some (15, 40)
    | _ => none
  | .trendSwing => some fun
    | .trendingBullish | .trendingBearish | .breakout => some (10, 25)
    | _ => none
  | .marnieFib => some fun
    | .range | .meanReversion => some (15, 35)
    | .trendingBullish | .trendingBearish | .breakout => some (15, 40)
    | .highVolatility => some (15, 25)
    | _ => none
  | .aten | .arcanist => none

/-- The thresholds for a candidate and for a trade, where no regime has its own. -/
def defaultCandidateThresholds : StrategyID → Option (Float64 × Float64)
  | .standardScalping | .ultraScalping | .standardSwing | .trendSwing | .marnieFib => some (10, 25)
  | .aten | .arcanist => none

/-- The overrides of the environment on a pair of thresholds; the trade threshold stays above. -/
def Env.override (env : Env) (thresholds : Float64 × Float64) : Float64 × Float64 :=
  let candidate :=
    if 0 < env.candidateThresholdOverride then env.candidateThresholdOverride else thresholds.1
  let trade := if 0 < env.tradeThresholdOverride then env.tradeThresholdOverride else thresholds.2
  (candidate, if trade ≤ candidate then candidate + 1 else trade)

/-- `GetThresholds`. -/
def getThresholds (env : Env) (id : StrategyID) (regime : Regime) : Option (Float64 × Float64) :=
  match defaultRegimeThresholds id with
  | none =>
    some (env.candidateThresholdOverride,
      if env.tradeThresholdOverride ≤ 0 then 25 else env.tradeThresholdOverride)
  | some regimeMap =>
    ((regimeMap regime).or (defaultCandidateThresholds id)).map env.override

/-- `getRegimeThresholds`. -/
def getRegimeThresholds (env : Env) (id : StrategyID) (regime : Regime) (fallbackTrade : Float64) :
    Float64 × Float64 :=
  (getThresholds env id regime).getD (fallbackTrade * (6 / 10), fallbackTrade)

/-! ## The score of the two sides -/

/-- How far the stronger side has to be ahead. -/
def minDominanceMargin : Decimal := 5

/-- What the scoring reports. -/
structure Scored where
  direction : Direction
  rawScore : Decimal
  longScore : Decimal
  shortScore : Decimal
  reasons : List NoTradeReason
  deriving DecidableEq, Repr

/-- The contributions to one side, on a scale of 0 to 100. -/
def sideScore (dir : Direction) (evidence : List EvidenceContribution) : Decimal :=
  ((evidence.filter (·.direction == dir)).map (·.contribution)).sum * 100

/-- The direction of the leading side, if its score is above the threshold and far enough from the
other one. -/
def leadingSide (dir : Direction) (score candidateThreshold dominance : Decimal) :
    Direction × List NoTradeReason :=
  if candidateThreshold < score then
    if dominance < minDominanceMargin then (.noTrade, [ntConflictingDirection]) else (dir, [])
  else (.noTrade, [ntInsufficientScore])

/-- The trade threshold is not compared here: what lies between the two thresholds still gets a
direction, and the caller classifies it. -/
def scoreDirectionWithThresholds (evidence : List EvidenceContribution)
    (candidateThreshold _tradeThreshold : Float64) (conflictPenalty : Decimal) : Scored :=
  let long := sideScore .buy evidence
  let short := sideScore .sell evidence
  -- the penalty is taken from the dominant side
  let longScore := if short < long then long - conflictPenalty else long
  let shortScore := if long < short then short - conflictPenalty else short
  let dominance := |longScore - shortScore|
  if shortScore < longScore then
    let leader := leadingSide .buy longScore candidateThreshold dominance
    ⟨leader.1, longScore, longScore, shortScore, leader.2⟩
  else
    let leader := leadingSide .sell shortScore candidateThreshold dominance
    ⟨leader.1, shortScore, longScore, shortScore, leader.2⟩

/-! ## Filters -/

/-- The close of the higher timeframe: H4, or else H1. -/
def refClose (st : MarketState) : Option Decimal :=
  ((st.candles .h4).or (st.candles .h1)).map (·.close)

/-- The filter against the trend of the higher timeframe: no BUY below its close, no SELL above it,
up to a buffer. -/
def htfTrendFilter (state : Option MarketState) (direction : Direction) : Bool :=
  match state.bind fun st => (refClose st).map fun ref => (st.currentPrice, ref) with
  | none => true
  | some (price, ref) =>
    let buffer := ref * (5 / 10000)
    match direction with
    | .buy => !decide (price < ref - buffer)
    | .sell => !decide (ref + buffer < price)
    | _ => true

/-- The penalty for evidence that contradicts a direction. -/
def checkConflict (st : MarketState) (dir : Direction) : Decimal :=
  let against (tf : Timeframe) : Bool :=
    match dir, st.mtf.states tf with
    | .buy, some trend => decide (trend < 0)
    | .sell, some trend => decide (0 < trend)
    | _, _ => false
  let trend := st.structure_.currentTrend
  (if against .h1 then 3 else 0) + (if against .h4 then 3 else 0) +
    (if st.regime.current = .range then 10 else 0) +
    -- a trade against the trend needs a change of character or a shift of structure
    (if st.structure_.lastCHoCH = none ∧ st.structure_.lastMSS = none ∧
        (dir = .buy ∧ trend = .bearish ∨ dir = .sell ∧ trend = .bullish) then 20 else 0) +
    (if 0 < toFloat st.indicators.atr ∧
        5 / 10 < toFloat st.spread / toFloat st.indicators.atr then 10 else 0)

/-- What speaks against the regime and the session. -/
def checkRegimeSession (st : MarketState) (cfg : StrategyConfig) : List NoTradeReason :=
  reasonIf (cfg.acceptedRegimes ≠ [] ∧ st.regime.current ∉ cfg.acceptedRegimes) ntRegimeMismatch ++
  reasonIf (cfg.acceptedSessions ≠ [] ∧
    ∀ s ∈ cfg.acceptedSessions, ¬ (st.session.currentSession = s ∨ st.session.isOverlap))
    ntSessionUnsuitable ++
  reasonIf (st.session.newsRisk = "HIGH" ∨ st.session.newsRisk = "BLOCKED") ntHighNewsRisk

/-! ## Which side wins -/

/-- The evidence favours a side: its score is above the threshold and leads by the margin. -/
def Favours (dir : Direction) (evidence : List EvidenceContribution)
    (candidateThreshold : Float64) : Prop :=
  match dir with
  | .buy => candidateThreshold < sideScore .buy evidence ∧
      sideScore .sell evidence + minDominanceMargin ≤ sideScore .buy evidence
  | .sell => candidateThreshold < sideScore .sell evidence ∧
      sideScore .buy evidence + minDominanceMargin ≤ sideScore .sell evidence
  | _ => False

section
variable {evidence : List EvidenceContribution} {candidate trade : Float64}

/-- When a side leads. -/
theorem leadingSide_eq_iff {dir : Direction} (hdir : dir ≠ .noTrade) {score dominance : Decimal} :
    (leadingSide dir score candidate dominance).1 = dir ↔
      candidate < score ∧ minDominanceMargin ≤ dominance := by
  unfold leadingSide
  by_cases hscore : candidate < score
  · by_cases hdom : dominance < minDominanceMargin
    · simp only [if_pos hscore, if_pos hdom]
      exact iff_of_false (fun h => hdir h.symm) fun h => absurd hdom (not_lt.mpr h.2)
    · simp only [if_pos hscore, if_neg hdom, true_iff]
      exact ⟨hscore, not_lt.mp hdom⟩
  · simp only [if_neg hscore]
    exact iff_of_false (fun h => hdir h.symm) fun h => hscore h.1

theorem leadingSide_cases (dir : Direction) (score candidate dominance : Decimal) :
    (leadingSide dir score candidate dominance).1 = dir ∨
      (leadingSide dir score candidate dominance).1 = .noTrade := by
  unfold leadingSide
  split
  · split
    · exact .inr rfl
    · exact .inl rfl
  · exact .inr rfl

/-- The scoring gives a direction or none. -/
theorem scoreDirection_cases (evidence : List EvidenceContribution)
    (candidate trade : Float64) :
    let dir := (scoreDirectionWithThresholds evidence candidate trade 0).direction
    dir = .buy ∨ dir = .sell ∨ dir = .noTrade := by
  simp only [scoreDirectionWithThresholds, sub_zero, ite_self]
  split
  · rcases leadingSide_cases .buy (sideScore .buy evidence) candidate
      |sideScore .buy evidence - sideScore .sell evidence| with h | h
    · exact .inl h
    · exact .inr (.inr h)
  · rcases leadingSide_cases .sell (sideScore .sell evidence) candidate
      |sideScore .buy evidence - sideScore .sell evidence| with h | h
    · exact .inr (.inl h)
    · exact .inr (.inr h)

theorem margin_pos : 0 < minDominanceMargin := by
  unfold minDominanceMargin
  norm_num

/-- **A BUY is scored** exactly when the evidence favours it. -/
theorem scoreDirection_buy_iff :
    (scoreDirectionWithThresholds evidence candidate trade 0).direction = .buy ↔
      Favours .buy evidence candidate := by
  have hm := margin_pos
  simp only [scoreDirectionWithThresholds, sub_zero, ite_self, Favours]
  by_cases hlt : sideScore .sell evidence < sideScore .buy evidence
  · rw [if_pos hlt]
    have habs : |sideScore .buy evidence - sideScore .sell evidence| =
        sideScore .buy evidence - sideScore .sell evidence := abs_of_pos (sub_pos.mpr hlt)
    refine (leadingSide_eq_iff (by decide)).trans (and_congr_right fun _ => ?_)
    rw [habs, le_sub_iff_add_le, add_comm]
  · rw [if_neg hlt]
    refine iff_of_false (fun h => ?_) fun h => hlt (by linarith [h.2])
    rcases leadingSide_cases .sell (sideScore .sell evidence) candidate
      |sideScore .buy evidence - sideScore .sell evidence| with h' | h' <;>
    · rw [h'] at h
      cases h

/-- **A SELL is scored** exactly when the evidence favours it. -/
theorem scoreDirection_sell_iff :
    (scoreDirectionWithThresholds evidence candidate trade 0).direction = .sell ↔
      Favours .sell evidence candidate := by
  have hm := margin_pos
  simp only [scoreDirectionWithThresholds, sub_zero, ite_self, Favours]
  by_cases hlt : sideScore .sell evidence < sideScore .buy evidence
  · rw [if_pos hlt]
    refine iff_of_false (fun h => ?_) fun h => absurd hlt (not_lt.mpr (by linarith [h.2]))
    rcases leadingSide_cases .buy (sideScore .buy evidence) candidate
      |sideScore .buy evidence - sideScore .sell evidence| with h' | h' <;>
    · rw [h'] at h
      cases h
  · rw [if_neg hlt]
    have habs : |sideScore .buy evidence - sideScore .sell evidence| =
        sideScore .sell evidence - sideScore .buy evidence := by
      rw [abs_sub_comm, abs_of_nonneg (sub_nonneg.mpr (not_lt.mp hlt))]
    refine (leadingSide_eq_iff (by decide)).trans (and_congr_right fun _ => ?_)
    rw [habs, le_sub_iff_add_le, add_comm]

end

end PredictATrade.Realtime.Strategy
