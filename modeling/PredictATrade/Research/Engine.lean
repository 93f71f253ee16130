import PredictATrade.Lib.Runs
import PredictATrade.Research.Alignment

/-!
# `Research.Engine` — the event loop of the research backtester

`BacktestEngine.run` goes over the candles bar by bar: the open positions first, then the strategy, the
risk gates, the order and its fill. A strategy is a function of what it may see at a bar: the alignments up
to there, and the portfolio. The random generator is the stream of its draws; position identifiers are
counted.

What a run shows of a bar is its `Report`. The metrics, the manifest and the audit lists of signals are
left out, no decision reads them.
-/

namespace PredictATrade.Research
open Lib.Runs

/-! ## Signals and orders -/

/-- A signal of a strategy. -/
structure SignalEvent where
  timestamp : Datetime
  direction : Direction
  strategyId : String
  rawScore : ℚ := 0
  confluence : ℚ := 0
  confidence : ℚ := 0
  setupGrade : String := ""
  regime : String := ""
  session : String := ""
  entryPrice : ℚ := 0
  stopLoss : ℚ := 0
  tp1 : ℚ := 0
  tp2 : ℚ := 0
  tp3 : ℚ := 0
  reasonCodes : List String := []
  deriving DecidableEq, Repr

/-- An order made from a signal. -/
structure OrderEvent where
  timestamp : Datetime
  direction : Direction
  size : ℚ
  stopLoss : ℚ := 0
  takeProfit : ℚ := 0
  signalId : String := ""
  deriving DecidableEq, Repr

/-! ## Execution -/

/-- `other` stands for every other name, `historical` among them. -/
inductive SpreadModel where
  | fixed | dynamic | other
  deriving DecidableEq, Repr

/-- The models of slippage; `other` is any text that is none of them. -/
inductive SlippageModel where
  | fixed | percentage | atrBased | other
  deriving DecidableEq, Repr

/-- The costs of an execution. -/
structure ExecutionConfig where
  spreadModel : SpreadModel := .fixed
  fixedSpread : ℚ := 30 / 100
  slippageModel : SlippageModel := .fixed
  fixedSlippage : ℚ := 5 / 100
  slippagePercentage : ℚ := 1 / 10000
  slippageAtrMultiplier : ℚ := 1 / 10
  commissionPerLot : ℚ := 7
  partialFillProbability : ℚ := 0
  rejectionProbability : ℚ := 0
  deriving DecidableEq, Repr

/-- What `rng.random()` returns, draw after draw. -/
abbrev Draws := ℕ → ℚ

namespace ExecutionConfig
variable (config : ExecutionConfig) (candle : HistoricalCandle)

/-- `_get_spread`. -/
def getSpread : ℚ :=
  match config.spreadModel with
  | .dynamic =>
    let candleRange := candle.high - candle.low
    if candleRange > 0 then config.fixedSpread * min 2 (1 + candleRange / 10) else config.fixedSpread
  | .fixed | .other => config.fixedSpread

/-- `_get_slippage`. -/
def getSlippage (atr : ℚ) : ℚ :=
  match config.slippageModel with
  | .percentage => candle.close * config.slippagePercentage
  | .atrBased => if atr > 0 then atr * config.slippageAtrMultiplier else config.fixedSlippage
  | .fixed | .other => config.fixedSlippage

/-- The fill, and how many draws were taken by then. -/
def execute (rng : Draws) (drawn : ℕ) (order : OrderEvent) (atr : ℚ) : FillEvent × ℕ :=
  let spread := config.getSpread candle
  let basePrice :=
    if order.direction = .buy then candle.close + spread / 2 else candle.close - spread / 2
  let slippage := config.getSlippage candle atr
  let fillPrice := if order.direction = .buy then basePrice + slippage else basePrice - slippage
  let drawn' := if config.rejectionProbability > 0 then drawn + 1 else drawn
  if config.rejectionProbability > 0 ∧ rng drawn < config.rejectionProbability then
    ({ timestamp := order.timestamp
       direction := order.direction
       fillPrice
       requestedPrice := basePrice
       size := order.size
       fillStatus := .rejected
       fillRatio := 0
       signalId := order.signalId }, drawn')
  else
    let isPartial : Bool :=
      config.partialFillProbability > 0 ∧ rng drawn' < config.partialFillProbability
    -- `uniform(0.3, 0.7)`
    let fillRatio := if isPartial then 3 / 10 + 4 / 10 * rng (drawn' + 1) else 1
    ({ timestamp := order.timestamp
       direction := order.direction
       fillPrice
       requestedPrice := basePrice
       size := order.size * fillRatio
       slippage
       commission := config.commissionPerLot * order.size * fillRatio
       spreadCost := spread * order.size * fillRatio
       fillStatus := if isPartial then .part else .filled
       fillRatio
       signalId := order.signalId },
      if isPartial then drawn' + 2
      else if config.partialFillProbability > 0 then drawn' + 1 else drawn')

end ExecutionConfig

/-! ## The engine -/

/-- What a run is configured with. -/
structure BacktestConfig where
  primaryTimeframe : Timeframe := "M5"
  higherTimeframes : List Timeframe := ["M15", "H1", "H4", "D1"]
  initialBalance : ℚ := 10000
  executionConfig : ExecutionConfig := {}
  maxRiskPerTrade : ℚ := 2 / 100
  maxDailyLossPercent : ℚ := 2
  maxConsecutiveLosses : ℤ := 2
  maxExposure : ℚ := 5
  maxPositions : ℤ := 3
  minRr : ℚ := 1
  maxSpreadToAtr : ℚ := 1 / 2
  trailingStopEnabled : Bool := true
  trailingAtrMultiplier : ℚ := 2
  breakEvenEnabled : Bool := true
  breakEvenTriggerR : ℚ := 1
  maxHoldingBars : ℤ := 0
  conservativeSlTp : Bool := true
  minQualityScore : ℚ := 8 / 10
  filterContributionEnabled : Bool := false
  deriving DecidableEq, Repr

/-- The gate that has blocked a signal. -/
inductive BlockReason where
  | recoveryLowConfluence | recoveryLowQuality | recoveryLowConfidence | dailyLossLimit | maxPositions
  | maxExposure | poorRr | highSpreadToAtr | sessionNotAllowed
  deriving DecidableEq, Repr

/-- `drawn` counts what the random generator has given, `opened` the positions so far. -/
structure Engine where
  portfolio : Portfolio
  drawn : ℕ := 0
  opened : ℕ := 0
  consecutiveLosses : ℤ := 0
  dailyLossCount : ℤ := 0
  dailyPnl : ℚ := 0
  dailyPnlPercent : ℚ := 0
  currentTradingDay : Option ℤ := none
  recoveryMode : Bool := false
  recoverySizeMultiplier : ℚ := 1
  atrHistory : List ℚ := []
  prevClose : Option ℚ := none
  noTradeCount : ℕ := 0
  blockedCount : ℕ := 0
  errorCount : ℕ := 0
  deriving DecidableEq, Repr

/-- The bars that the average true range starts from. -/
def atrPeriod : ℕ := 14

/-- The true range of a candle after a close. -/
def trueRange (c : HistoricalCandle) (prevClose : ℚ) : ℚ :=
  max (max (c.high - c.low) |c.high - prevClose|) |c.low - prevClose|

/-- `_init_atr`: the true ranges of the first candles but the very first. -/
def initAtr (candles : List HistoricalCandle) : List ℚ :=
  (steps (candles.take (atrPeriod + 1))).map fun (prev, c) => trueRange c prev.close

/-- The part of the configuration that the portfolio closes by. -/
def BacktestConfig.exitConfig (config : BacktestConfig) : ExitConfig where
  maxHoldingBars := config.maxHoldingBars
  trailingStopEnabled := config.trailingStopEnabled
  trailingAtrMultiplier := config.trailingAtrMultiplier
  breakEvenEnabled := config.breakEvenEnabled
  breakEvenTriggerR := config.breakEvenTriggerR
  conservativeSlTp := config.conservativeSlTp

/-- The engine as the event loop finds it. -/
def Engine.start (config : BacktestConfig) (candles : List HistoricalCandle) : Engine where
  portfolio := .new config.initialBalance config.exitConfig
  atrHistory := initAtr candles

namespace Engine
variable (e : Engine)

/-- `_get_current_atr`. -/
def getCurrentAtr : ℚ :=
  if e.atrHistory = [] then 0 else e.atrHistory.sum / e.atrHistory.length

/-- `_update_atr`. -/
def updateAtr (candle : HistoricalCandle) : Engine :=
  let tr := match e.prevClose with
    | none => candle.high - candle.low
    | some prevClose =>
      if e.atrHistory = [] then candle.high - candle.low else trueRange candle prevClose
  let history := e.atrHistory ++ [tr]
  { e with prevClose := some candle.close, atrHistory := history.drop (history.length - atrPeriod) }

/-- `_check_trading_day`. -/
def checkTradingDay (ts : Datetime) : Engine :=
  match e.currentTradingDay with
  | none => { e with currentTradingDay := some (date ts) }
  | some day =>
    if date ts ≠ day then
      { e with
        currentTradingDay := some (date ts)
        dailyLossCount := 0
        dailyPnl := 0
        dailyPnlPercent := 0 }
    else e

/-- What a closed position does to the counters of the day and of the losses. -/
def processExit (exitEvent : ExitEvent) : Engine :=
  let pnl := exitEvent.realizedPnl
  let dailyPnl := e.dailyPnl + pnl
  { e with
    dailyPnl
    dailyPnlPercent :=
      if e.portfolio.initialBalance > 0 then dailyPnl / e.portfolio.initialBalance * 100
      else e.dailyPnlPercent
    consecutiveLosses :=
      if pnl < 0 then e.consecutiveLosses + 1 else if pnl > 0 then 0 else e.consecutiveLosses
    dailyLossCount := if pnl < 0 then e.dailyLossCount + 1 else e.dailyLossCount }

/-! ## Risk gates -/

/-- The thresholds of recovery mode. -/
def recoveryCheck (signal : SignalEvent) : Option BlockReason :=
  if signal.confluence < 80 then some .recoveryLowConfluence
  else if signal.setupGrade ∉ ["A", "A+"] then some .recoveryLowQuality
  else if signal.confidence < 75 then some .recoveryLowConfidence
  else none

/-- What `_check_risk_gates` does to the engine, where it gets that far. -/
def enterRecovery (config : BacktestConfig) : Engine :=
  let enters : Bool := e.consecutiveLosses ≥ config.maxConsecutiveLosses ∧ !e.recoveryMode
  { e with
    recoveryMode := e.recoveryMode || enters
    recoverySizeMultiplier := if enters then 1 / 2 else e.recoverySizeMultiplier }

/-- The gates behind recovery mode. -/
def furtherGates (config : BacktestConfig) (signal : SignalEvent) (candle : HistoricalCandle) :
    Option BlockReason :=
  let risk := |signal.entryPrice - signal.stopLoss|
  let reward := |signal.tp1 - signal.entryPrice|
  let atr := e.getCurrentAtr
  if e.portfolio.openPositionCount ≥ config.maxPositions then some .maxPositions
  else if e.portfolio.totalExposure ≥ config.maxExposure then some .maxExposure
  else if (signal.stopLoss ≠ 0 ∧ signal.tp1 ≠ 0) ∧ risk > 0 ∧ reward / risk < config.minRr then
    some .poorRr
  else if atr > 0 ∧ config.executionConfig.fixedSpread / atr > config.maxSpreadToAtr then
    some .highSpreadToAtr
  else if !(getSession candle.timestamp).sessionAllowed then some .sessionNotAllowed
  else none

/-- The engine, and the gate that stops the signal. -/
def checkRiskGates (config : BacktestConfig) (signal : SignalEvent) (candle : HistoricalCandle) :
    Engine × Option BlockReason :=
  match if e.recoveryMode then recoveryCheck signal else none with
  | some reason => (e, some reason)
  | none =>
    if e.dailyPnlPercent ≤ -config.maxDailyLossPercent then (e, some .dailyLossLimit)
    else
      let e := e.enterRecovery config
      (e, e.furtherGates config signal candle)

/-! ## Orders -/

/-- The size that risks the configured part of the equity. -/
def riskSize (config : BacktestConfig) (signal : SignalEvent) : ℚ :=
  let riskAmount := e.portfolio.equity * config.maxRiskPerTrade
  let riskPerUnit := |signal.entryPrice - signal.stopLoss| * e.portfolio.contractSize
  if riskPerUnit > 0 then riskAmount / riskPerUnit else 1 / 100

/-- `_create_order`. -/
def createOrder (config : BacktestConfig) (signal : SignalEvent) (candle : HistoricalCandle) :
    OrderEvent where
  timestamp := candle.timestamp
  direction := signal.direction
  size := max (1 / 100) (min (e.riskSize config signal * e.recoverySizeMultiplier) 10)
  stopLoss := signal.stopLoss
  takeProfit := signal.tp1
  signalId := signal.strategyId

end Engine

/-! ## One bar -/

/-- What `open_position` takes from the signal. -/
def SignalEvent.terms (signal : SignalEvent) : Terms where
  signalId := signal.strategyId
  strategyId := signal.strategyId
  stopLoss := signal.stopLoss
  takeProfit := signal.tp1
  tp1 := signal.tp1
  tp2 := signal.tp2
  tp3 := signal.tp3
  regime := signal.regime
  session := signal.session
  confluence := signal.confluence
  confidence := signal.confidence
  setupGrade := signal.setupGrade

/-- What became of a signal. -/
inductive Decision where
  | passed
  | gated (reason : BlockReason)
  | ordered (order : OrderEvent) (fill : FillEvent)
  deriving DecidableEq, Repr

/-- What a bar shows: the exits, the signal and what became of it, the stops behind it and the point of the
equity curve. -/
structure Report where
  exits : List ExitEvent
  signal : Option SignalEvent
  decision : Decision
  stops : List (Uuid × ℚ)
  equityPoint : Option EquityPoint
  deriving DecidableEq, Repr

/-- A candle, and what the strategy answers there. -/
structure Bar where
  candle : HistoricalCandle
  evaluate : Option (Portfolio → SignalEvent)

namespace Engine
variable (config : BacktestConfig) (rng : Draws) (e : Engine)

/-- The bar up to the strategy. -/
def updateExits (candle : HistoricalCandle) : Engine × List ExitEvent :=
  let e := e.checkTradingDay candle.timestamp
  let (portfolio, exits) := e.portfolio.updatePositions candle e.getCurrentAtr
  (exits.foldl processExit { e with portfolio }, exits)

/-- The order for a signal that no gate stops, and the position it opens unless it is rejected. -/
def placeOrder (candle : HistoricalCandle) (signal : SignalEvent) : Engine × Decision :=
  let order := e.createOrder config signal candle
  let (fill, drawn) := config.executionConfig.execute candle rng e.drawn order e.getCurrentAtr
  let opens := fill.fillStatus ≠ .rejected
  ({ e with
      drawn
      opened := if opens then e.opened + 1 else e.opened
      portfolio :=
        if opens then e.portfolio.openPosition e.opened fill signal.terms else e.portfolio },
    .ordered order fill)

/-- A signal with a direction. -/
def enter (candle : HistoricalCandle) (signal : SignalEvent) : Engine × Decision :=
  match e.checkRiskGates config signal candle with
  | (e, some reason) => ({ e with blockedCount := e.blockedCount + 1 }, .gated reason)
  | (e, none) => e.placeOrder config rng candle signal

/-- The bar from the strategy's answer on; none without a strategy. -/
def act (candle : HistoricalCandle) : Option SignalEvent → Engine × Decision
  | none => (e, .passed)
  | some signal =>
    match signal.direction with
    | .buy | .sell => e.enter config rng candle signal
    | .noTrade => ({ e with noTradeCount := e.noTradeCount + 1 }, .passed)
    | .blocked => ({ e with blockedCount := e.blockedCount + 1 }, .passed)
    | .wait => (e, .passed)

/-- One bar: the exits, the signal, and what comes of it. -/
def bar (b : Bar) : Engine × Report :=
  let (e, exits) := e.updateExits b.candle
  let signal := b.evaluate.map fun evaluate => evaluate e.portfolio
  let (e, decision) := e.act config rng b.candle signal
  (e.updateAtr b.candle,
    { exits
      signal
      decision
      stops := e.portfolio.positions.map fun pos => (pos.positionId, pos.stopLoss)
      equityPoint := e.portfolio.equityCurve.getLast? })

end Engine

/-! ## The run -/

/-- What a strategy answers, seeing the alignments up to its bar and the portfolio. -/
abbrev Strategy := List TimeframeAlignment → Portfolio → SignalEvent

/-- The bars of a run, `seen` being the alignments before them. -/
def barsFrom (strategy : Option Strategy) :
    List TimeframeAlignment → List TimeframeAlignment → List Bar
  | _, [] => []
  | seen, a :: alignments =>
    ⟨a.primaryCandle, strategy.map fun s => s (seen ++ [a])⟩ ::
      barsFrom strategy (seen ++ [a]) alignments

/-- How a run has ended. -/
inductive Status where
  | completed | failed | dataQualityFailed
  deriving DecidableEq, Repr

/-- `result.filter_contribution = …` in `run`, where there is no `result` yet. -/
inductive RunError where
  | nameError
  deriving DecidableEq, Repr

/-- What a run returns. -/
structure BacktestRunResult where
  status : Status := .completed
  trades : List TradeRecord := []
  equityCurve : List EquityPoint := []
  noTradeCount : ℕ := 0
  blockedCount : ℕ := 0
  errorCount : ℕ := 0
  barsProcessed : ℕ := 0
  deriving DecidableEq, Repr

/-- What the bars show, and what the call returns. -/
structure BacktestRun where
  reports : List Report := []
  result : Except RunError BacktestRunResult

/-- The higher timeframes as they are at each candle. -/
def alignments (config : BacktestConfig) (candles : List HistoricalCandle)
    (higherTfData : HigherTfData) : List TimeframeAlignment :=
  if higherTfData = [] then alignFrom [] [] 0 candles
  else align (higherTfs config.higherTimeframes) candles higherTfData

/-- The portfolio after the last candle has closed what is open. -/
def closeAtEnd (e : Engine) (candles : List HistoricalCandle) : Portfolio :=
  match candles.getLast? with
  | some last => if e.portfolio.positions = [] then e.portfolio else (e.portfolio.closeAllPositions last).1
  | none => e.portfolio

/-- `BacktestEngine.run`. -/
def backtest (config : BacktestConfig) (rng : Draws) (strategy : Option Strategy)
    (candles : List HistoricalCandle) (higherTfData : HigherTfData) : BacktestRun :=
  if !(validate config.minQualityScore candles config.primaryTimeframe).passed then
    { result := .ok { status := .dataQualityFailed } }
  else
    let alignments := alignments config candles higherTfData
    if higherTfData ≠ [] ∧ !verifyNoLookahead alignments then
      { result := .ok { status := .failed } }
    else
      let bars := barsFrom strategy [] alignments
      let start := Engine.start config candles
      let e := run (fun e b => (e.bar config rng b).1) start bars
      let portfolio := closeAtEnd e candles
      { reports := trace (fun e b => (e.bar config rng b).1)
          (fun e b => some (e.bar config rng b).2) start bars
        result :=
          if config.filterContributionEnabled then .error .nameError
          else .ok
            { trades := portfolio.closedTrades
              equityCurve := portfolio.equityCurve
              noTradeCount := e.noTradeCount
              blockedCount := e.blockedCount
              errorCount := e.errorCount
              barsProcessed := candles.length } }

end PredictATrade.Research
