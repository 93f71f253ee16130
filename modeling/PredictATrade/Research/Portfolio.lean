import Mathlib.Algebra.BigOperators.Group.List.Basic
import Mathlib.Algebra.Order.Ring.Rat
import Mathlib.Data.Rat.Defs

/-!
# `Research.Portfolio` — the portfolio of the research backtester

Positions are opened from fills, a candle closes those it takes out, and each candle adds a point to
the equity curve. Floats are exact rationals, times are microseconds since 1970 in UTC.

`update_positions` goes over the positions twice: the first loop ages them, moves their stops and
collects what to close, the second one closes it.
-/

namespace PredictATrade.Research

/-! ## Events -/

/-- A time, in microseconds since 1970 in UTC. -/
abbrev Datetime := ℤ

/-- What `uuid4` draws. -/
abbrev Uuid := ℕ

/-- A candle of the history. -/
structure HistoricalCandle where
  timestamp : Datetime
  opening : ℚ
  high : ℚ
  low : ℚ
  close : ℚ
  volume : ℤ := 0
  deriving DecidableEq, Repr

/-- The directions of a signal. -/
inductive Direction where
  | buy | sell | noTrade | wait | blocked
  deriving DecidableEq, Repr

/-- The statuses of a fill. -/
inductive FillStatus where
  | filled | part | rejected
  deriving DecidableEq, Repr

/-- A fill of an order. -/
structure FillEvent where
  timestamp : Datetime
  direction : Direction
  fillPrice : ℚ
  requestedPrice : ℚ
  size : ℚ
  slippage : ℚ := 0
  commission : ℚ := 0
  spreadCost : ℚ := 0
  fillStatus : FillStatus := .filled
  fillRatio : ℚ := 1
  signalId : String := ""
  deriving DecidableEq, Repr

/-- Why a position was closed. -/
inductive ExitReason where
  | stopLoss | takeProfit | timeExit | endOfBacktest
  deriving DecidableEq, Repr

/-- What closing a position reports. -/
structure ExitEvent where
  timestamp : Datetime
  positionId : Uuid
  exitPrice : ℚ
  exitReason : ExitReason
  realizedPnl : ℚ
  commission : ℚ := 0
  slippage : ℚ := 0
  deriving DecidableEq, Repr

/-! ## Records -/

/-- The record of a closed trade. -/
structure TradeRecord where
  tradeId : Uuid
  signalId : String
  strategyId : String
  direction : Direction
  entryTime : Datetime
  entryPrice : ℚ
  exitTime : Datetime
  exitPrice : ℚ
  exitReason : ExitReason
  size : ℚ
  stopLoss : ℚ
  takeProfit : ℚ
  pnl : ℚ
  pnlR : ℚ
  commission : ℚ
  slippageCost : ℚ
  spreadCost : ℚ
  mae : ℚ
  mfe : ℚ
  durationBars : ℤ
  durationSeconds : ℚ
  regime : String
  session : String
  confluence : ℚ
  confidence : ℚ
  setupGrade : String
  deriving DecidableEq, Repr

/-- An open position. -/
structure Position where
  positionId : Uuid
  signalId : String
  strategyId : String
  direction : Direction
  size : ℚ
  entryPrice : ℚ
  entryTime : Datetime
  stopLoss : ℚ
  takeProfit : ℚ
  tp1 : ℚ := 0
  tp2 : ℚ := 0
  tp3 : ℚ := 0
  trailingStop : ℚ := 0
  trailingActive : Bool := false
  breakEvenActive : Bool := false
  breakEvenPrice : ℚ := 0
  commission : ℚ := 0
  slippageCost : ℚ := 0
  spreadCost : ℚ := 0
  mae : ℚ := 0
  mfe : ℚ := 0
  barsHeld : ℤ := 0
  regime : String := ""
  session : String := ""
  confluence : ℚ := 0
  confidence : ℚ := 0
  setupGrade : String := ""
  deriving DecidableEq, Repr

/-- A point of the equity curve. -/
structure EquityPoint where
  timestamp : Datetime
  equity : ℚ
  balance : ℚ
  unrealizedPnl : ℚ
  drawdown : ℚ
  deriving DecidableEq, Repr

/-- What the constructor takes beside the initial balance. -/
structure ExitConfig where
  contractSize : ℚ := 100
  maxHoldingBars : ℤ := 0
  trailingStopEnabled : Bool := true
  trailingAtrMultiplier : ℚ := 2
  breakEvenEnabled : Bool := true
  breakEvenTriggerR : ℚ := 1
  conservativeSlTp : Bool := true
  deriving DecidableEq, Repr

/-- `positions` in the order in which they were opened, as the dictionary has them. -/
structure Portfolio extends ExitConfig where
  initialBalance : ℚ
  balance : ℚ
  equity : ℚ
  cash : ℚ
  realizedPnl : ℚ := 0
  unrealizedPnl : ℚ := 0
  positions : List Position := []
  closedTrades : List TradeRecord := []
  equityCurve : List EquityPoint := []
  maxEquity : ℚ
  maxDrawdown : ℚ := 0
  deriving DecidableEq, Repr

/-- `Portfolio(initial_balance, …)`. -/
def Portfolio.new (initialBalance : ℚ) (config : ExitConfig) : Portfolio :=
  { config with
    initialBalance, balance := initialBalance, equity := initialBalance, cash := initialBalance
    maxEquity := initialBalance }

/-! ## One position -/

namespace Position
variable (pos : Position) (candle : HistoricalCandle)

/-- The position was bought. -/
def isLong : Bool := pos.direction = .buy

/-- The result of the position at a price, without its costs. -/
def unrealizedPnl (currentPrice contractSize : ℚ) : ℚ :=
  if pos.isLong then (currentPrice - pos.entryPrice) * pos.size * contractSize
  else (pos.entryPrice - currentPrice) * pos.size * contractSize

/-- Where the candle takes the position out, if it does. -/
def checkSlTp (conservative : Bool) : Option (ExitReason × ℚ) :=
  let slHit := if pos.isLong then candle.low ≤ pos.stopLoss else candle.high ≥ pos.stopLoss
  let tpHit := if pos.isLong then candle.high ≥ pos.takeProfit else candle.low ≤ pos.takeProfit
  if slHit ∧ tpHit then
    if conservative then some (.stopLoss, pos.stopLoss) else some (.takeProfit, pos.takeProfit)
  else if slHit then some (.stopLoss, pos.stopLoss)
  else if tpHit then some (.takeProfit, pos.takeProfit)
  else none

/-- `update_mae_mfe`. -/
def updateMaeMfe : Position :=
  let adverse := if pos.isLong then pos.entryPrice - candle.low else candle.high - pos.entryPrice
  let favorable := if pos.isLong then candle.high - pos.entryPrice else pos.entryPrice - candle.low
  { pos with
    mae := if adverse > pos.mae then adverse else pos.mae
    mfe := if favorable > pos.mfe then favorable else pos.mfe }

/-- `update_trailing_stop`. -/
def updateTrailingStop (atr atrMultiplier : ℚ) : Position :=
  if atr ≤ 0 then pos
  else
    let trailDistance := atr * atrMultiplier
    if pos.isLong then
      let newStop := candle.close - trailDistance
      if newStop > pos.trailingStop then
        { pos with
          trailingStop := newStop
          trailingActive := true
          stopLoss := if newStop > pos.stopLoss then newStop else pos.stopLoss }
      else pos
    else
      let newStop := candle.close + trailDistance
      if pos.trailingStop = 0 ∨ newStop < pos.trailingStop then
        { pos with
          trailingStop := newStop
          trailingActive := true
          stopLoss := if newStop < pos.stopLoss then newStop else pos.stopLoss }
      else pos

/-- `check_break_even`. -/
def checkBreakEven (triggerR : ℚ) : Position :=
  let risk := |pos.entryPrice - pos.stopLoss|
  if risk ≤ 0 then pos
  else if pos.isLong then
    if candle.high ≥ pos.entryPrice + triggerR * risk ∧ !pos.breakEvenActive then
      { pos with
        breakEvenActive := true
        breakEvenPrice := pos.entryPrice
        stopLoss := max pos.stopLoss pos.entryPrice }
    else pos
  else
    if candle.low ≤ pos.entryPrice - triggerR * risk ∧ !pos.breakEvenActive then
      { pos with
        breakEvenActive := true
        breakEvenPrice := pos.entryPrice
        stopLoss := min pos.stopLoss pos.entryPrice }
    else pos

/-- One round of the first loop of `update_positions`: the position as it leaves it, and the entry of
`to_close` if it makes one. -/
def advance (config : ExitConfig) (atr : ℚ) : Position × Option (ExitReason × ℚ) :=
  let pos := { pos with barsHeld := pos.barsHeld + 1 }.updateMaeMfe candle
  match pos.checkSlTp candle config.conservativeSlTp with
  | some exit => (pos, some exit)
  | none =>
    let pos := if config.trailingStopEnabled ∧ atr > 0 then
      pos.updateTrailingStop candle atr config.trailingAtrMultiplier else pos
    let pos := if config.breakEvenEnabled then
      pos.checkBreakEven candle config.breakEvenTriggerR else pos
    if config.maxHoldingBars > 0 ∧ pos.barsHeld ≥ config.maxHoldingBars then
      (pos, some (.timeExit, candle.close))
    else (pos, none)

end Position

/-! ## The portfolio -/

/-- What `open_position` is told beside the fill. -/
structure Terms where
  signalId : String
  strategyId : String
  stopLoss : ℚ
  takeProfit : ℚ
  tp1 : ℚ := 0
  tp2 : ℚ := 0
  tp3 : ℚ := 0
  regime : String := ""
  session : String := ""
  confluence : ℚ := 0
  confidence : ℚ := 0
  setupGrade : String := ""
  deriving DecidableEq, Repr

/-- The position that a fill opens. -/
def FillEvent.position (fill : FillEvent) (posId : Uuid) (t : Terms) : Position where
  positionId := posId
  signalId := t.signalId
  strategyId := t.strategyId
  direction := fill.direction
  size := fill.size
  entryPrice := fill.fillPrice
  entryTime := fill.timestamp
  stopLoss := t.stopLoss
  takeProfit := t.takeProfit
  tp1 := t.tp1
  tp2 := t.tp2
  tp3 := t.tp3
  commission := fill.commission
  slippageCost := fill.slippage * fill.size
  spreadCost := fill.spreadCost
  regime := t.regime
  session := t.session
  confluence := t.confluence
  confidence := t.confidence
  setupGrade := t.setupGrade

namespace Portfolio
variable (p : Portfolio) (candle : HistoricalCandle)

/-- `self.positions[pos_id] = pos`. -/
def setPosition (pos : Position) : Portfolio :=
  if p.positions.any (·.positionId == pos.positionId) then
    { p with positions := p.positions.map fun q => if q.positionId = pos.positionId then pos else q }
  else { p with positions := p.positions ++ [pos] }

/-- `open_position`, under an identifier that was drawn. -/
def openPosition (posId : Uuid) (fill : FillEvent) (t : Terms) : Portfolio :=
  p.setPosition (fill.position posId t)

/-- The result of a position at its exit, without its costs. -/
def grossPnl (pos : Position) (exitPrice : ℚ) : ℚ :=
  if pos.isLong then (exitPrice - pos.entryPrice) * pos.size * p.contractSize
  else (pos.entryPrice - exitPrice) * pos.size * p.contractSize

/-- The result of a position less the costs of its entry. -/
def netPnl (pos : Position) (exitPrice : ℚ) : ℚ :=
  p.grossPnl pos exitPrice - (pos.commission + pos.slippageCost + pos.spreadCost)

/-- The record of a closed trade. Arithmetic is exact, and a quotient by zero is 0: for a position of
size zero, or a contract of size zero, the source raises instead of dividing. -/
def tradeOf (pos : Position) (exitReason : ExitReason) (exitPrice : ℚ) : TradeRecord where
  tradeId := pos.positionId
  signalId := pos.signalId
  strategyId := pos.strategyId
  direction := pos.direction
  entryTime := pos.entryTime
  entryPrice := pos.entryPrice
  exitTime := candle.timestamp
  exitPrice := exitPrice
  exitReason := exitReason
  size := pos.size
  stopLoss := pos.stopLoss
  takeProfit := pos.takeProfit
  pnl := p.netPnl pos exitPrice
  pnlR :=
    let risk := |pos.entryPrice - pos.stopLoss|
    if risk > 0 then p.netPnl pos exitPrice / (risk * pos.size * p.contractSize) else 0
  commission := pos.commission
  slippageCost := pos.slippageCost
  spreadCost := pos.spreadCost
  mae := pos.mae
  mfe := pos.mfe
  durationBars := pos.barsHeld
  durationSeconds := (candle.timestamp - pos.entryTime : ℤ) / 1000000
  regime := pos.regime
  session := pos.session
  confluence := pos.confluence
  confidence := pos.confidence
  setupGrade := pos.setupGrade

/-- `_close_position`. -/
def closePosition (pos : Position) (exitReason : ExitReason) (exitPrice : ℚ) :
    Portfolio × ExitEvent :=
  let netPnl := p.netPnl pos exitPrice
  ({ p with
      closedTrades := p.closedTrades ++ [p.tradeOf candle pos exitReason exitPrice]
      realizedPnl := p.realizedPnl + netPnl
      balance := p.balance + netPnl
      positions := p.positions.filter (·.positionId != pos.positionId) },
    { timestamp := candle.timestamp
      positionId := pos.positionId
      exitPrice
      exitReason
      realizedPnl := netPnl
      commission := pos.commission
      slippage := pos.slippageCost })

/-- The loop that closes what is on the list. -/
def closeEach (candle : HistoricalCandle) :
    Portfolio → List (Uuid × ExitReason × ℚ) → Portfolio × List ExitEvent
  | p, [] => (p, [])
  | p, (posId, exitReason, exitPrice) :: toClose =>
    match p.positions.find? (·.positionId == posId) with
    | none => closeEach candle p toClose
    | some pos =>
      let (q, exitEvent) := p.closePosition candle pos exitReason exitPrice
      let (r, exits) := closeEach candle q toClose
      (r, exitEvent :: exits)

/-- `_update_equity`. -/
def updateEquity : Portfolio :=
  let unrealized := (p.positions.map (·.unrealizedPnl candle.close p.contractSize)).sum
  let equity := p.balance + unrealized
  let maxEquity := if equity > p.maxEquity then equity else p.maxEquity
  let drawdown := maxEquity - equity
  { p with
    unrealizedPnl := unrealized
    equity
    maxEquity
    maxDrawdown := if drawdown > p.maxDrawdown then drawdown else p.maxDrawdown
    equityCurve := p.equityCurve ++
      [⟨candle.timestamp, equity, p.balance, unrealized, drawdown⟩] }

/-- The positions as the first loop of `update_positions` leaves them. -/
def advanced (atr : ℚ) : List Position :=
  p.positions.map fun pos => (pos.advance candle p.toExitConfig atr).1

/-- What the first loop of `update_positions` puts on the list. -/
def toClose (atr : ℚ) : List (Uuid × ExitReason × ℚ) :=
  p.positions.filterMap fun pos =>
    (pos.advance candle p.toExitConfig atr).2.map fun exit => (pos.positionId, exit)

/-- `update_positions`. -/
def updatePositions (atr : ℚ) : Portfolio × List ExitEvent :=
  let toClose := p.toClose candle atr
  let (q, exits) := closeEach candle { p with positions := p.advanced candle atr } toClose
  (q.updateEquity candle, exits)

/-- `close_all_positions`. -/
def closeAllPositions : Portfolio × List ExitEvent :=
  let (q, exits) := closeEach candle p
    (p.positions.map fun pos => (pos.positionId, .endOfBacktest, candle.close))
  (q.updateEquity candle, exits)

/-- How many positions are open. -/
def openPositionCount : ℤ := p.positions.length

/-- In lots. -/
def totalExposure : ℚ := (p.positions.map (·.size)).sum

end Portfolio

end PredictATrade.Research
