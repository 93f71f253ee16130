import Mathlib.Algebra.Order.BigOperators.Group.List
import Mathlib.Algebra.BigOperators.Group.List.Basic
import PredictATrade.Realtime.CapitalGates

/-!
# `Realtime.EdgeValidation` — the edge a strategy has to prove

`EdgeValidationGate` reads the statistics of a strategy's closed trades out of the gate's cached value,
which may hold anything. A value that is no map of statistics makes the gate DEGRADED, by design: it is
what every scope is seeded with until there are trades. `unproven_never_passes` says what an unarmed
strategy gets for any value, and what a losing one gets.
-/

namespace PredictATrade.Realtime

/-! ## Statistics -/

/-- A closed trade, as the statistics read it. -/
structure TradeRecord where
  direction : String
  pnl : Float64
  entryPrice : Float64
  stopLoss : Float64
  lotSize : Float64
  deriving DecidableEq, Repr

/-- The statistics of a strategy. -/
structure EdgeStats where
  sampleSize : ℤ := 0
  wins : ℤ := 0
  losses : ℤ := 0
  profitFactor : Float64 := 0
  expectancyR : Float64 := 0
  rComputableCount : ℤ := 0
  shortExpectancyR : Float64 := 0
  shortSampleSize : ℤ := 0
  deriving DecidableEq, Repr

/-- `tradeR`: the profit in multiples of the risk, at 100 ounces a lot. -/
def tradeR (t : TradeRecord) : Float64 :=
  let risk := |t.entryPrice - t.stopLoss| * t.lotSize * 100
  if risk ≤ 0 then 0 else t.pnl / risk

/-- The multiple of the risk can be computed. -/
def TradeRecord.computable (t : TradeRecord) : Bool :=
  decide (0 < t.entryPrice ∧ 0 < t.stopLoss ∧ 0 < t.lotSize)

/-- What the winning trades have won. -/
def grossWin (trades : List TradeRecord) : Float64 := (trades.map fun t => max t.pnl 0).sum

/-- What the losing trades have lost. -/
def grossLoss (trades : List TradeRecord) : Float64 := (trades.map fun t => max (-t.pnl) 0).sum

/-- The mean of the multiples, zero of none. -/
def meanR (trades : List TradeRecord) : Float64 := (trades.map tradeR).sum / trades.length

/-- `ComputeEdgeStats`. -/
def computeEdgeStats (trades : List TradeRecord) : EdgeStats :=
  let wins := trades.countP fun t => decide (0 < t.pnl)
  let computable := trades.filter (·.computable)
  let short := computable.filter (·.direction == "SELL")
  { sampleSize := trades.length
    wins := wins
    losses := trades.countP fun t => decide (t.pnl < 0)
    profitFactor :=
      if 0 < grossLoss trades then grossWin trades / grossLoss trades
      else if 0 < grossWin trades then wins else 0
    expectancyR := meanR computable
    rComputableCount := computable.length
    shortExpectancyR := meanR short
    shortSampleSize := short.length }

/-- `IsProven`. -/
def EdgeStats.isProven (s : EdgeStats) (minProfitFactor minExpectancyR : Float64)
    (minSampleSize : ℤ) : Bool :=
  if s.sampleSize < minSampleSize then false
  else if s.rComputableCount < minSampleSize then false
  else decide (minProfitFactor ≤ s.profitFactor ∧ minExpectancyR ≤ s.expectancyR)

/-- Wins less losses are the total. -/
theorem grossWin_sub_grossLoss (trades : List TradeRecord) :
    grossWin trades - grossLoss trades = (trades.map (·.pnl)).sum := by
  induction trades with
  | nil => exact sub_self 0
  | cons t trades ih =>
    have hsplit : max t.pnl 0 - max (-t.pnl) 0 = t.pnl := by
      rcases le_total 0 t.pnl with h | h
      · rw [max_eq_left h, max_eq_right (neg_nonpos.mpr h), sub_zero]
      · rw [max_eq_right h, max_eq_left (neg_nonneg.mpr h), zero_sub, neg_neg]
    simp only [grossWin, grossLoss, List.map_cons, List.sum_cons] at ih ⊢
    linarith

/-- Trades that have lost money in total have a profit factor below one. -/
theorem profitFactor_lt_one {trades : List TradeRecord} (h : (trades.map (·.pnl)).sum < 0) :
    (computeEdgeStats trades).profitFactor < 1 := by
  have hwin : 0 ≤ grossWin trades := List.sum_nonneg fun x hx => by
    obtain ⟨t, -, rfl⟩ := List.mem_map.mp hx
    exact le_max_right _ _
  have htotal := grossWin_sub_grossLoss trades
  have hloss : 0 < grossLoss trades := by linarith
  show (if 0 < grossLoss trades then _ else _) < _
  rw [if_pos hloss, div_lt_one hloss]
  linarith

/-! ## The gate -/

/-- The reason of a strategy that has proved nothing. -/
def reasonEdgeUnproven : String := "edge_unproven"

/-- The reason of a strategy that is armed. -/
def reasonEdgeArmed : String := "edge_armed"

/-- The reason of a strategy that loses. -/
def reasonEdgeNegativeLive : String := "edge_negative_live"

/-- The thresholds, and the strategies that the operator has armed. -/
structure EdgeValidationGate where
  minProfitFactor : Float64
  minExpectancyR : Float64
  minSampleSize : ℤ
  minNegativeSampleSize : ℤ
  armed : StrategyID → Bool := fun _ => false

namespace EdgeValidationGate

/-- A losing edge over a sample that is large enough. -/
def provenNegative (g : EdgeValidationGate) (s : EdgeStats) : Bool :=
  decide (0 < g.minNegativeSampleSize ∧ g.minNegativeSampleSize ≤ s.sampleSize ∧ s.profitFactor < 1)

/-- The statistics prove an edge at the thresholds of the gate. -/
def proven (g : EdgeValidationGate) (s : EdgeStats) : Bool :=
  s.isProven g.minProfitFactor g.minExpectancyR g.minSampleSize

/-- The answer of the gate. -/
def verdict (result : GateResult) (reasons : List String) : GateEvaluation :=
  { gateID := .edgeValidation, result := result, reasonCodes := reasons }

/-- `Evaluate`. The cached value may be anything; `asStats` is the assertion of its type. -/
def gate {V : Type} (asStats : V → Option (StrategyID → Option EdgeStats))
    (overrideNegativeLiveEdge : Bool) (g : EdgeValidationGate) : Gate V where
  evaluate input state :=
    let stats := (asStats state.value).bind (· input.strategyID)
    if !overrideNegativeLiveEdge && stats.any g.provenNegative then
      verdict .veto [reasonEdgeNegativeLive]
    else if g.armed input.strategyID then verdict .pass [reasonEdgeArmed]
    else if (asStats state.value).isNone then verdict .degraded [reasonEdgeUnproven]
    else if !stats.any g.proven then
      if !g.armed input.strategyID then verdict .veto [reasonEdgeUnproven]
      else verdict .degraded [reasonEdgeUnproven]
    else verdict .pass []

end EdgeValidationGate

/-! ## What it lets by -/

section
variable {V : Type} (asStats : V → Option (StrategyID → Option EdgeStats)) (override : Bool)
  (g : EdgeValidationGate) (gi : GateInput) (state : GateState V)

/-- The statistics that the cached value has of the strategy. -/
def storedStats : Option EdgeStats := (asStats state.value).bind (· gi.strategyID)

/-- A losing edge is vetoed, whatever is armed. -/
theorem veto_of_negative (hover : override = false)
    (hneg : (storedStats asStats gi state).any g.provenNegative = true) :
    (g.gate asStats override).evaluate gi state =
      EdgeValidationGate.verdict .veto [reasonEdgeNegativeLive] := by
  have hcond : (!override && ((asStats state.value).bind (· gi.strategyID)).any g.provenNegative) =
      true := by
    rw [hover]
    exact hneg
  simp only [EdgeValidationGate.gate]
  rw [if_pos hcond]

/-- Without arming or proof: a veto where there are statistics at all, and DEGRADED otherwise. -/
theorem unarmed_unproven (harmed : g.armed gi.strategyID = false)
    (hproof : (storedStats asStats gi state).any g.proven = false) :
    ((g.gate asStats override).evaluate gi state).result =
        (if (asStats state.value).isSome then .veto else .degraded) ∧
      (asStats state.value = none →
        ((g.gate asStats override).evaluate gi state).reasonCodes = [reasonEdgeUnproven]) := by
  unfold storedStats at hproof
  simp only [EdgeValidationGate.gate, harmed, hproof, Bool.false_eq_true, if_false, Bool.not_false,
    if_true]
  cases hstats : asStats state.value with
  | none =>
    -- no map, hence no statistics that could prove a loss
    simp [EdgeValidationGate.verdict]
  | some m =>
    refine ⟨?_, fun h => by cases h⟩
    simp only [Option.isNone_some, Option.isSome_some, Bool.false_eq_true, if_false, if_true]
    split <;> rfl

/-- **What the gate does with a strategy that has proved nothing, or a loss.** For every cached value:
an unarmed strategy without proven statistics gets VETO where the value is a map of statistics and
DEGRADED with `edge_unproven` where it is anything else, so it never passes. A proven losing edge
gets VETO unless the override is set; so do trades that have lost money in total, when there are
enough of them. -/
theorem unproven_never_passes :
    (g.armed gi.strategyID = false → (storedStats asStats gi state).any g.proven = false →
      ((g.gate asStats override).evaluate gi state).result =
          (if (asStats state.value).isSome then .veto else .degraded) ∧
        (asStats state.value = none →
          ((g.gate asStats override).evaluate gi state).reasonCodes = [reasonEdgeUnproven])) ∧
    (override = false → (storedStats asStats gi state).any g.provenNegative = true →
      (g.gate asStats override).evaluate gi state =
        EdgeValidationGate.verdict .veto [reasonEdgeNegativeLive]) ∧
    (override = false → ∀ trades, storedStats asStats gi state = some (computeEdgeStats trades) →
      0 < g.minNegativeSampleSize → g.minNegativeSampleSize ≤ trades.length →
      (trades.map (·.pnl)).sum < 0 →
      (g.gate asStats override).evaluate gi state =
        EdgeValidationGate.verdict .veto [reasonEdgeNegativeLive]) := by
  refine ⟨unarmed_unproven asStats override g gi state, veto_of_negative asStats override g gi state,
    ?_⟩
  intro hover trades hstats hmin hcount htotal
  apply veto_of_negative asStats override g gi state hover
  rw [hstats, Option.any_some]
  exact decide_eq_true ⟨hmin, hcount, profitFactor_lt_one htotal⟩

end

/-- The thresholds of the configuration, nothing armed. -/
def unarmedEdge : EdgeValidationGate :=
  { minProfitFactor := 12 / 10, minExpectancyR := 2 / 10, minSampleSize := 50
    minNegativeSampleSize := 10 }

/-- What a scope is seeded with until its strategy has closed trades. -/
def seededScope : GateState (Option (StrategyID → Option EdgeStats)) :=
  { value := none, state := .degraded, reasonCode := reasonEdgeUnproven }

/-- **A scope that no trade has reached yet is not vetoed.** Nothing is armed and nothing is proven, and
the gate is DEGRADED. -/
theorem seeded_scope_degraded :
    unarmedEdge.armed (swingInput .buyCandidate).gateInput.strategyID = false ∧
      (storedStats id (swingInput .buyCandidate).gateInput seededScope).any unarmedEdge.proven =
        false ∧
      ((unarmedEdge.gate id false).evaluate (swingInput .buyCandidate).gateInput seededScope).result =
        .degraded := by
  refine ⟨rfl, rfl, ?_⟩
  decide +kernel

end PredictATrade.Realtime
