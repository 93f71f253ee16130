import Mathlib.Tactic.Ring
import Mathlib.Tactic.LinearCombination
import PredictATrade.Research.Engine
import PredictATrade.Research.Trades

/-!
# `Research.Costs` — what a trade pays for its entry

`execute` moves the fill price by half the spread and the slippage against the trader, and reports the
spread, the slippage and the commission beside it; `_close_position` takes the move from the fill price and
subtracts what was reported. So the spread and the slippage are paid twice (`netPnl_execute`): once in
the price, by the contract, and once as a cost, by the lot.
-/

namespace PredictATrade.Research
open Lib.Runs

namespace ExecutionConfig
variable (config : ExecutionConfig) (candle : HistoricalCandle) (rng : Draws) (drawn : ℕ)
variable (order : OrderEvent) (atr : ℚ)

/-- The same configuration with spread, slippage and commission all zero. -/
def costless : ExecutionConfig :=
  { config with
    fixedSpread := 0
    fixedSlippage := 0
    slippagePercentage := 0
    slippageAtrMultiplier := 0
    commissionPerLot := 0 }

theorem getSpread_costless : config.costless.getSpread candle = 0 := by
  obtain ⟨spreadModel, _, _, _, _, _, _, _, _⟩ := config
  cases spreadModel
  · rfl
  · show (if candle.high - candle.low > 0 then 0 * min 2 (1 + (candle.high - candle.low) / 10)
      else 0) = 0
    rw [zero_mul, ite_self]
  · rfl

theorem getSlippage_costless : config.costless.getSlippage candle atr = 0 := by
  obtain ⟨_, _, slippageModel, _, _, _, _, _, _⟩ := config
  cases slippageModel
  · rfl
  · exact mul_zero _
  · show (if atr > 0 then atr * 0 else 0) = 0
    rw [mul_zero, ite_self]
  · rfl

/-- By how much the fill is worse than the close, for a long and for a short. -/
def friction : ℚ := config.getSpread candle / 2 + config.getSlippage candle atr

/-- A fill without rejections and partial fills. -/
theorem execute_filled (hreject : config.rejectionProbability ≤ 0)
    (hpart : config.partialFillProbability ≤ 0) :
    (config.execute candle rng drawn order atr).1 =
      { timestamp := order.timestamp
        direction := order.direction
        fillPrice :=
          if order.direction = .buy then
            candle.close + config.getSpread candle / 2 + config.getSlippage candle atr
          else candle.close - config.getSpread candle / 2 - config.getSlippage candle atr
        requestedPrice :=
          if order.direction = .buy then candle.close + config.getSpread candle / 2
          else candle.close - config.getSpread candle / 2
        size := order.size * 1
        slippage := config.getSlippage candle atr
        commission := config.commissionPerLot * order.size * 1
        spreadCost := config.getSpread candle * order.size * 1
        fillStatus := .filled
        fillRatio := 1
        signalId := order.signalId } := by
  have hreject' : ¬ config.rejectionProbability > 0 := not_lt.mpr hreject
  have hpart' : ¬ config.partialFillProbability > 0 := not_lt.mpr hpart
  simp only [execute, hreject', hpart', false_and, if_false, decide_false, Bool.false_eq_true]
  split <;> rfl

/-- The position that the order leads to. -/
def opened (posId : Uuid) (terms : Terms) : Position :=
  (config.execute candle rng drawn order atr).1.position posId terms

/-- **Net and gross.** Against the same order without costs and the same exit price, a trade loses the
costs that it records, and its friction on the whole contract besides. -/
theorem netPnl_execute (p : Portfolio) (posId : Uuid) (terms : Terms) (exitPrice : ℚ)
    (hreject : config.rejectionProbability ≤ 0) (hpart : config.partialFillProbability ≤ 0) :
    let pos := config.opened candle rng drawn order atr posId terms
    p.netPnl pos exitPrice =
      p.netPnl (config.costless.opened candle rng drawn order atr posId terms) exitPrice -
        (pos.spreadCost + pos.slippageCost + pos.commission) -
        config.friction candle atr * (order.size * p.contractSize) := by
  simp only [opened, execute_filled config candle rng drawn order atr hreject hpart,
    execute_filled config.costless candle rng drawn order atr hreject hpart,
    getSpread_costless, getSlippage_costless, friction]
  by_cases hbuy : order.direction = .buy
  · simp only [Portfolio.netPnl, Portfolio.grossPnl, Position.isLong, FillEvent.position, hbuy,
      decide_true, if_true, costless]
    ring
  · simp only [Portfolio.netPnl, Portfolio.grossPnl, Position.isLong, FillEvent.position, hbuy,
      decide_false, Bool.false_eq_true, if_false, costless]
    ring

end ExecutionConfig

/-! ## Trades -/

/-- What a trade costs beside the move of the price, as it records it. -/
def TradeRecord.costs (t : TradeRecord) : ℚ := t.spreadCost + t.slippageCost + t.commission

/-- The result of a position depends on what it was entered with. -/
theorem netPnl_sameEntry {pos pos' : Position} (h : pos.SameEntry pos') (p : Portfolio)
    (exitPrice : ℚ) : p.netPnl pos' exitPrice = p.netPnl pos exitPrice := by
  simp only [Portfolio.netPnl, Portfolio.grossPnl, h.isLong, h.size, h.entryPrice, h.commission,
    h.slippageCost, h.spreadCost]

section
variable (initialBalance : ℚ) (exitConfig : ExitConfig) (events : List DeskEvent)
variable (config : ExecutionConfig) (candle : HistoricalCandle) (rng : Draws) (drawn : ℕ)
variable (order : OrderEvent) (atr : ℚ) (terms : Terms) (t : TradeRecord)

/-- **Costs are charged once** exactly where the fill has no friction: in every run, a trade of an order
that was filled as a whole makes what the order would make without costs, less the costs that it
records, if and only if half the spread and the slippage come to nothing on the contract. -/
theorem charged_once_iff
    (hreject : config.rejectionProbability ≤ 0) (hpart : config.partialFillProbability ≤ 0)
    (ht : t ∈ (run Desk.step (.new initialBalance exitConfig) events).portfolio.closedTrades)
    (hopen : (run Desk.step (.new initialBalance exitConfig) events).openings[t.tradeId]? =
      some ((config.execute candle rng drawn order atr).1, terms)) :
    t.pnl =
        (run Desk.step (.new initialBalance exitConfig) events).portfolio.netPnl
          (config.costless.opened candle rng drawn order atr t.tradeId terms) t.exitPrice -
            t.costs ↔
      (config.getSpread candle / 2 + config.getSlippage candle atr) *
        (order.size * exitConfig.contractSize) = 0 := by
  have hsound := Desk.run_sound initialBalance exitConfig events
  have hconfig := Desk.run_config initialBalance exitConfig events
  generalize run Desk.step (.new initialBalance exitConfig) events = d at ht hopen hsound hconfig ⊢
  obtain ⟨first, pos, last, reason, price, hfirst, hsame, rfl⟩ := hsound.trades t ht
  -- the trade is of the position that the order opened
  have hentry : first = config.opened candle rng drawn order atr pos.positionId terms := by
    unfold Desk.entry at hfirst
    rw [hopen] at hfirst
    exact (Option.some.inj hfirst).symm
  have hcosts : (d.portfolio.tradeOf last pos reason price).costs =
      first.spreadCost + first.slippageCost + first.commission := by
    rw [← hsame.spreadCost, ← hsame.slippageCost, ← hsame.commission]
    rfl
  have hnet := config.netPnl_execute candle rng drawn order atr d.portfolio pos.positionId terms
    price hreject hpart
  rw [← hentry] at hnet
  have hsize : d.portfolio.contractSize = exitConfig.contractSize :=
    congrArg ExitConfig.contractSize hconfig
  rw [hcosts]
  show d.portfolio.netPnl pos price =
    d.portfolio.netPnl (config.costless.opened candle rng drawn order atr pos.positionId terms) price -
      _ ↔ _
  rw [netPnl_sameEntry hsame, hnet, ← hsize]
  unfold ExecutionConfig.friction
  constructor
  · intro h
    linear_combination -h
  · intro h
    linear_combination -h

end

/-! ## One lot at the target -/

/-- A market order for one lot at a close of 100. -/
def oneLot : OrderEvent := { timestamp := 0, direction := .buy, size := 1 }

/-- A candle that does not move. -/
def quietCandle : HistoricalCandle :=
  { timestamp := 0, opening := 100, high := 100, low := 100, close := 100 }

/-- It is bought, and the next bar reaches the target at 110. -/
def targetReached (config : ExecutionConfig) : List DeskEvent :=
  [.opening (config.execute quietCandle (fun _ => 0) 0 oneLot 0).1
      { signalId := "", strategyId := "", stopLoss := 90, takeProfit := 110 },
    .bar { timestamp := 300000000, opening := 100, high := 111, low := 99, close := 110 } 0]

/-- No costs. -/
def free : ExecutionConfig := ExecutionConfig.costless {}

theorem targetReached_closed {config : ExecutionConfig} (h : config = {} ∨ config = free) :
    (run Desk.step (.new 10000 {}) (targetReached config)).portfolio.closedTrades ≠ [] := by
  rcases h with rfl | rfl <;> decide +kernel

/-- Without costs the condition holds, and the trade makes the ten dollars on a hundred ounces. -/
theorem charged_once_costless :
    ∃ t ∈ (run Desk.step (.new 10000 {}) (targetReached free)).portfolio.closedTrades,
      t.pnl = 1000 - t.costs := by
  refine ⟨_, List.head_mem (targetReached_closed (Or.inr rfl)), ?_⟩
  have h := (charged_once_iff 10000 {} (targetReached free) free quietCandle (fun _ => 0) 0 oneLot 0
    { signalId := "", strategyId := "", stopLoss := 90, takeProfit := 110 } _
    (by decide +kernel) (by decide +kernel) (List.head_mem (targetReached_closed (Or.inr rfl)))
    (by decide +kernel)).mpr (by decide +kernel)
  rw [h]
  decide +kernel

/-- At the default costs the trade is short by the twenty dollars that the fill price took already. -/
theorem not_charged_once :
    ¬∀ (initialBalance : ℚ) (exitConfig : ExitConfig) (events : List DeskEvent)
        (config : ExecutionConfig) (candle : HistoricalCandle) (rng : Draws) (drawn : ℕ)
        (order : OrderEvent) (atr : ℚ) (terms : Terms) (t : TradeRecord),
      config.rejectionProbability ≤ 0 → config.partialFillProbability ≤ 0 →
      t ∈ (run Desk.step (.new initialBalance exitConfig) events).portfolio.closedTrades →
      (run Desk.step (.new initialBalance exitConfig) events).openings[t.tradeId]? =
        some ((config.execute candle rng drawn order atr).1, terms) →
      t.pnl =
        (run Desk.step (.new initialBalance exitConfig) events).portfolio.netPnl
          (config.costless.opened candle rng drawn order atr t.tradeId terms) t.exitPrice -
            t.costs := by
  intro h
  have hlaw := h 10000 {} (targetReached {}) {} quietCandle (fun _ => 0) 0 oneLot 0
    { signalId := "", strategyId := "", stopLoss := 90, takeProfit := 110 } _
    (by decide +kernel) (by decide +kernel) (List.head_mem (targetReached_closed (Or.inl rfl)))
    (by decide +kernel)
  revert hlaw
  decide +kernel

end PredictATrade.Research
