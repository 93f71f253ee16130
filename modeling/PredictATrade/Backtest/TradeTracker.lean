import Mathlib.Algebra.BigOperators.Group.List.Basic
import PredictATrade.Lib.Runs
import PredictATrade.Lib.Decimal
import PredictATrade.Realtime.Types

/-!
# `Backtest.TradeTracker` — the account of a backtest

A position leaves the account on one of two paths: `UpdatePositions` closes it at its stop or target,
and `CloseAllPositions` at the close of a candle. Both compute the result and book it by hand. The
second forgets two things that the first does: it takes the swap off the result and does not record it
on the trade, and it does not add the result to the day's.

`conserved_throughout_iff` says what this amounts to. Nothing is wrong until positions are closed by
`CloseAllPositions`, and then nothing is exactly if none of them owes swap and their results cancel out.
-/

namespace PredictATrade.Backtest

open Lib.Runs Lib.Decimal Realtime

/-! ## Data -/

/-- Nanoseconds since the zero time. -/
abbrev Time := ℤ

/-- A day, in nanoseconds. -/
def day : ℤ := 86400000000000

/-- What the tracker reads of `BacktestConfig`. -/
structure BacktestConfig where
  initialBalance : ℚ
  spread : ℚ := 0
  commission : ℚ := 0
  contractSize : ℚ := 100
  slippage : ℚ := 0
  trailingStopEnabled : Bool := false
  trailingATRMult : ℚ := 0
  breakEvenEnabled : Bool := false
  breakEvenTriggerR : ℚ := 0
  conservativeSLTP : Bool := true
  swapPerLotPerDay : ℚ := 0
  deriving DecidableEq, Repr

/-- A candle. -/
structure Candle where
  time : Time
  high : ℚ
  low : ℚ
  close : ℚ
  deriving DecidableEq, Repr

/-- An open position. -/
structure OpenPosition where
  tradeID : String
  strategyID : StrategyID
  direction : Direction
  entryPrice : ℚ
  stopLoss : ℚ
  originalSL : ℚ
  tp1 : ℚ := 0
  tp2 : ℚ := 0
  tp3 : ℚ := 0
  entryTime : Time
  entryBarIdx : ℤ := 0
  size : ℚ
  regime : Regime := .range
  session : String := ""
  rawScore : ℚ := 0
  tp1Hit : Bool := false
  tp2Hit : Bool := false
  tp3Hit : Bool := false
  breakEvenSet : Bool := false
  deriving DecidableEq, Repr

/-- A closed trade. -/
structure Trade where
  tradeID : String
  strategyID : StrategyID
  direction : Direction
  entryPrice : ℚ
  exitPrice : ℚ
  stopLoss : ℚ
  tp1 : ℚ
  tp2 : ℚ
  tp3 : ℚ
  entryTime : Time
  exitTime : Time
  exitReason : String
  size : ℚ
  realizedPnL : ℚ
  realizedR : ℚ
  spreadCost : ℚ
  commissionCost : ℚ
  slippageCost : ℚ
  swapCost : ℚ
  regime : Regime
  session : String
  rawScore : ℚ
  entryBarIdx : ℤ
  exitBarIdx : ℤ
  holdingBars : ℤ
  deriving DecidableEq, Repr

/-- The tracker of a backtest. -/
structure TradeTracker where
  config : BacktestConfig
  openPositions : List OpenPosition := []
  closedTrades : List Trade := []
  balance : ℚ
  initialBalance : ℚ
  consecutiveLosses : ℕ := 0
  dailyPnL : ℚ := 0
  currentDay : Time := 0
  recoveryMode : Bool := false
  recoverySizeMult : ℚ := 1
  deriving DecidableEq, Repr

/-- `NewTradeTracker`. -/
def newTradeTracker (config : BacktestConfig) : TradeTracker :=
  { config, balance := config.initialBalance, initialBalance := config.initialBalance }

/-! ## One position -/

section
variable (cfg : BacktestConfig) (pos : OpenPosition)

/-- Where the candle takes the position out, if it does. The flags it sets then are those of a position
that is gone. -/
def OpenPosition.exit (c : Candle) : Option (ℚ × String) :=
  if pos.direction = .buy then
    if cfg.conservativeSLTP then
      if pos.stopLoss ≠ 0 ∧ c.low ≤ pos.stopLoss then some (pos.stopLoss, "SL")
      else if pos.tp1 ≠ 0 ∧ pos.tp1 ≤ c.high ∧ !pos.tp1Hit then some (pos.tp1, "TP1")
      else if pos.tp2 ≠ 0 ∧ pos.tp2 ≤ c.high ∧ pos.tp1Hit ∧ !pos.tp2Hit then some (pos.tp2, "TP2")
      else if pos.tp3 ≠ 0 ∧ pos.tp3 ≤ c.high ∧ pos.tp2Hit ∧ !pos.tp3Hit then some (pos.tp3, "TP3")
      else none
    else
      if pos.tp1 ≠ 0 ∧ pos.tp1 ≤ c.high ∧ !pos.tp1Hit then some (pos.tp1, "TP1")
      else if c.low ≤ pos.stopLoss then some (pos.stopLoss, "SL")
      else none
  else
    if cfg.conservativeSLTP then
      if pos.stopLoss ≠ 0 ∧ pos.stopLoss ≤ c.high then some (pos.stopLoss, "SL")
      else if pos.tp1 ≠ 0 ∧ c.low ≤ pos.tp1 ∧ !pos.tp1Hit then some (pos.tp1, "TP1")
      else if pos.tp2 ≠ 0 ∧ c.low ≤ pos.tp2 ∧ pos.tp1Hit ∧ !pos.tp2Hit then some (pos.tp2, "TP2")
      else if pos.tp3 ≠ 0 ∧ c.low ≤ pos.tp3 ∧ pos.tp2Hit ∧ !pos.tp3Hit then some (pos.tp3, "TP3")
      else none
    else
      if pos.tp1 ≠ 0 ∧ c.low ≤ pos.tp1 ∧ !pos.tp1Hit then some (pos.tp1, "TP1")
      else if pos.stopLoss ≤ c.high then some (pos.stopLoss, "SL")
      else none

/-- The price movement in favour of the position. -/
def OpenPosition.move (price : ℚ) : ℚ :=
  if pos.direction = .buy then price - pos.entryPrice else pos.entryPrice - price

/-- The result of the position at a price, without its costs. -/
def OpenPosition.gross (price : ℚ) : ℚ := pos.move price * pos.size * cfg.contractSize

/-- How far the stop was from the entry when the position was opened. -/
def OpenPosition.risk : ℚ :=
  if pos.direction = .buy then pos.entryPrice - pos.originalSL else pos.originalSL - pos.entryPrice

/-- The full days between two times. The difference is cut off at the largest durations. -/
def overnightDays (exit entry : Time) : ℤ := (max (-2 ^ 63) (min (2 ^ 63 - 1) (exit - entry))).tdiv day

/-- What the nights have cost. -/
def OpenPosition.swap (now : Time) : ℚ :=
  if cfg.swapPerLotPerDay = 0 then 0
  else if 0 < overnightDays now pos.entryTime then
    cfg.swapPerLotPerDay * pos.size * overnightDays now pos.entryTime
  else 0

/-- The trade of a position that is closed; `recorded` is the swap cost that is written on it. -/
def OpenPosition.close (price : ℚ) (reason : String) (c : Candle) (barIdx : ℤ) (recorded : ℚ) :
    Trade :=
  let spreadCost := cfg.spread * pos.size
  let commissionCost := cfg.commission * pos.size
  let slippageCost := cfg.slippage * pos.size * cfg.contractSize
  let totalCost := spreadCost + commissionCost + slippageCost + pos.swap cfg c.time
  { tradeID := pos.tradeID, strategyID := pos.strategyID, direction := pos.direction
    entryPrice := pos.entryPrice, exitPrice := price, stopLoss := pos.stopLoss
    tp1 := pos.tp1, tp2 := pos.tp2, tp3 := pos.tp3
    entryTime := pos.entryTime, exitTime := c.time, exitReason := reason, size := pos.size
    realizedPnL := pos.gross cfg price - totalCost
    realizedR := if pos.risk = 0 then 0 else roundPlaces 16 (pos.move price / pos.risk)
    spreadCost, commissionCost, slippageCost, swapCost := recorded
    regime := pos.regime, session := pos.session, rawScore := pos.rawScore
    entryBarIdx := pos.entryBarIdx, exitBarIdx := barIdx, holdingBars := barIdx - pos.entryBarIdx }

/-- `checkPosition`. -/
def OpenPosition.check (c : Candle) (barIdx : ℤ) : Option Trade :=
  (pos.exit cfg c).map fun (price, reason) =>
    pos.close cfg price reason c barIdx (pos.swap cfg c.time)

/-- The stop at the entry, once the price has moved far enough. -/
def OpenPosition.breakEven (c : Candle) : OpenPosition :=
  if cfg.breakEvenEnabled ∧ !pos.breakEvenSet ∧ 0 < pos.risk ∧
      pos.risk * cfg.breakEvenTriggerR ≤ pos.move c.close then
    { pos with stopLoss := pos.entryPrice, breakEvenSet := true }
  else pos

/-- The stop behind the close, if that is nearer. -/
def OpenPosition.trail (c : Candle) : OpenPosition :=
  let distance := (c.high - c.low) * cfg.trailingATRMult
  if !cfg.trailingStopEnabled then pos
  else if pos.direction = .buy then
    if pos.stopLoss < c.close - distance then { pos with stopLoss := c.close - distance } else pos
  else
    if c.close + distance < pos.stopLoss then { pos with stopLoss := c.close + distance } else pos

/-- `applyTradeManagement`. -/
def OpenPosition.manage (c : Candle) : OpenPosition := (pos.breakEven cfg c).trail cfg c

end

/-! ## Methods -/

/-- `OpenPosition`. -/
def TradeTracker.openPosition (t : TradeTracker) (pos : OpenPosition) : TradeTracker :=
  { t with openPositions := t.openPositions ++ [pos] }

/-- `ts.UTC().Truncate(24 * time.Hour)`. -/
def truncate (ts : Time) : Time := ts / day * day

/-- `CheckDayRollover`. -/
def TradeTracker.checkDayRollover (t : TradeTracker) (ts : Time) : TradeTracker :=
  if t.currentDay = 0 then { t with currentDay := truncate ts }
  else if truncate ts ≠ t.currentDay then { t with currentDay := truncate ts, dailyPnL := 0 }
  else t

/-- A trade is booked: the balance, the day, the streak and the recovery mode. -/
def TradeTracker.book (t : TradeTracker) (trade : Trade) : TradeTracker :=
  let t :=
    { t with
      closedTrades := t.closedTrades ++ [trade]
      balance := t.balance + trade.realizedPnL
      dailyPnL := t.dailyPnL + trade.realizedPnL }
  if trade.realizedPnL < 0 then { t with consecutiveLosses := t.consecutiveLosses + 1 }
  else if 0 < trade.realizedPnL then
    let t := { t with consecutiveLosses := 0 }
    if t.recoveryMode then { t with recoveryMode := false, recoverySizeMult := 1 } else t
  else t

/-- The loop of `UpdatePositions`: the tracker, the trades closed and the positions that stay. -/
structure Sweep where
  tracker : TradeTracker
  newlyClosed : List Trade := []
  stillOpen : List OpenPosition := []

/-- What a candle does to one position. -/
def Sweep.next (c : Candle) (barIdx : ℤ) (w : Sweep) (pos : OpenPosition) : Sweep :=
  match pos.check w.tracker.config c barIdx with
  | some trade =>
    { w with tracker := w.tracker.book trade, newlyClosed := w.newlyClosed ++ [trade] }
  | none => { w with stillOpen := w.stillOpen ++ [pos.manage w.tracker.config c] }

/-- `UpdatePositions`. -/
def TradeTracker.updatePositions (t : TradeTracker) (c : Candle) (barIdx : ℤ) :
    List Trade × TradeTracker :=
  let w := t.openPositions.foldl (Sweep.next c barIdx) { tracker := t }
  (w.newlyClosed, { w.tracker with openPositions := w.stillOpen })

/-- One position of `CloseAllPositions`. The swap is not recorded, and of the tracker only the trades and
the balance are written. -/
def Sweep.force (c : Candle) (barIdx : ℤ) (w : Sweep) (pos : OpenPosition) : Sweep :=
  let trade := pos.close w.tracker.config c.close "EOD" c barIdx 0
  { w with
    tracker :=
      { w.tracker with
        closedTrades := w.tracker.closedTrades ++ [trade]
        balance := w.tracker.balance + trade.realizedPnL }
    newlyClosed := w.newlyClosed ++ [trade] }

/-- `CloseAllPositions`. -/
def TradeTracker.closeAllPositions (t : TradeTracker) (c : Candle) (barIdx : ℤ) :
    List Trade × TradeTracker :=
  let w := t.openPositions.foldl (Sweep.force c barIdx) { tracker := t }
  (w.newlyClosed, { w.tracker with openPositions := [] })

/-! ## Runs -/

/-- The tracker, with the positions that were ever opened and the trades closed since the last day
rollover. -/
structure Account where
  tracker : TradeTracker
  opened : List OpenPosition := []
  today : List Trade := []

/-- The account of a new tracker. -/
def newAccount (cfg : BacktestConfig) : Account := { tracker := newTradeTracker cfg }

/-- Is it another day than before? -/
def TradeTracker.rollsOver (t : TradeTracker) (ts : Time) : Bool :=
  t.currentDay ≠ 0 ∧ truncate ts ≠ t.currentDay

/-- A call of the tracker. -/
inductive Call where
  | openPosition (pos : OpenPosition)
  | checkDayRollover (ts : Time)
  | updatePositions (c : Candle) (barIdx : ℤ)
  | closeAllPositions (c : Candle) (barIdx : ℤ)

/-- The account after a call. -/
def step (s : Account) : Call → Account
  | .openPosition pos =>
    { s with tracker := s.tracker.openPosition pos, opened := s.opened ++ [pos] }
  | .checkDayRollover ts =>
    { s with
      tracker := s.tracker.checkDayRollover ts
      today := if s.tracker.rollsOver ts then [] else s.today }
  | .updatePositions c barIdx =>
    let (closed, tracker) := s.tracker.updatePositions c barIdx
    { s with tracker, today := s.today ++ closed }
  | .closeAllPositions c barIdx =>
    let (closed, tracker) := s.tracker.closeAllPositions c barIdx
    { s with tracker, today := s.today ++ closed }

/-- What a position keeps from its opening to its trade. -/
structure Ticket where
  tradeID : String
  strategyID : StrategyID
  direction : Direction
  entryPrice : ℚ
  entryTime : Time
  entryBarIdx : ℤ
  size : ℚ
  regime : Regime
  session : String
  rawScore : ℚ

/-- What a position is opened with. -/
def OpenPosition.ticket (pos : OpenPosition) : Ticket :=
  ⟨pos.tradeID, pos.strategyID, pos.direction, pos.entryPrice, pos.entryTime, pos.entryBarIdx,
    pos.size, pos.regime, pos.session, pos.rawScore⟩

/-- What the trade's position was opened with. -/
def Trade.ticket (trade : Trade) : Ticket :=
  ⟨trade.tradeID, trade.strategyID, trade.direction, trade.entryPrice, trade.entryTime,
    trade.entryBarIdx, trade.size, trade.regime, trade.session, trade.rawScore⟩

/-- What trades have brought. -/
def total (trades : List Trade) : ℚ := (trades.map (·.realizedPnL)).sum

/-- The price movement of a trade. -/
def Trade.gross (cfg : BacktestConfig) (trade : Trade) : ℚ :=
  (if trade.direction = .buy then trade.exitPrice - trade.entryPrice
    else trade.entryPrice - trade.exitPrice) * trade.size * cfg.contractSize

/-- The result of a trade is the price movement less the costs that are recorded on it. -/
def Trade.Balanced (cfg : BacktestConfig) (trade : Trade) : Prop :=
  trade.realizedPnL = trade.gross cfg -
    (trade.spreadCost + trade.commissionCost + trade.slippageCost + trade.swapCost)

/-- The account is right. -/
structure Conserved (s : Account) : Prop where
  balance : s.tracker.balance = s.tracker.initialBalance + total s.tracker.closedTrades
  positions : (s.opened.map (·.ticket)).Perm
    (s.tracker.openPositions.map (·.ticket) ++ s.tracker.closedTrades.map (·.ticket))
  costs : ∀ trade ∈ s.tracker.closedTrades, trade.Balanced s.tracker.config
  daily : s.tracker.dailyPnL = total s.today

/-- No swap is due for the position. -/
def OpenPosition.SwapFree (cfg : BacktestConfig) (pos : OpenPosition) (now : Time) : Prop :=
  cfg.swapPerLotPerDay = 0 ∨ pos.size = 0 ∨ overnightDays now pos.entryTime ≤ 0

/-- The costs of a position other than swap. -/
def OpenPosition.fees (cfg : BacktestConfig) (pos : OpenPosition) : ℚ :=
  cfg.spread * pos.size + cfg.commission * pos.size + cfg.slippage * pos.size * cfg.contractSize

/-- When a call leaves the account right. -/
def Harmless (s : Account) : Call → Prop
  | .closeAllPositions c _ =>
    (∀ pos ∈ s.tracker.openPositions, pos.SwapFree s.tracker.config c.time) ∧
      (s.tracker.openPositions.map fun pos =>
        pos.gross s.tracker.config c.close - pos.fees s.tracker.config).sum = 0
  | _ => True

/-! ## Positions and trades -/

section
variable (cfg : BacktestConfig) (pos : OpenPosition)

/-- When the nights cost nothing. -/
theorem swap_eq_zero_iff (now : Time) : pos.swap cfg now = 0 ↔ pos.SwapFree cfg now := by
  unfold OpenPosition.swap OpenPosition.SwapFree
  by_cases hrate : cfg.swapPerLotPerDay = 0
  · rw [if_pos hrate]
    exact iff_of_true rfl (Or.inl hrate)
  · rw [if_neg hrate]
    by_cases hdays : 0 < overnightDays now pos.entryTime
    · -- nights have passed, so one of the other factors is zero
      have hne : (overnightDays now pos.entryTime : ℚ) ≠ 0 := by
        exact_mod_cast hdays.ne'
      rw [if_pos hdays, mul_eq_zero, mul_eq_zero]
      constructor
      · rintro ((h | h) | h)
        · exact Or.inl h
        · exact Or.inr (Or.inl h)
        · exact absurd h hne
      · rintro (h | h | h)
        · exact Or.inl (Or.inl h)
        · exact Or.inl (Or.inr h)
        · exact absurd hdays (not_lt.mpr h)
    · rw [if_neg hdays]
      exact iff_of_true rfl (Or.inr (Or.inr (not_lt.mp hdays)))

@[simp] theorem close_ticket (price : ℚ) (reason : String) (c : Candle) (barIdx : ℤ) (recorded : ℚ) :
    (pos.close cfg price reason c barIdx recorded).ticket = pos.ticket := rfl

@[simp] theorem breakEven_ticket (c : Candle) : (pos.breakEven cfg c).ticket = pos.ticket := by
  unfold OpenPosition.breakEven
  split <;> rfl

@[simp] theorem trail_ticket (c : Candle) : (pos.trail cfg c).ticket = pos.ticket := by
  unfold OpenPosition.trail
  dsimp only
  split
  · rfl
  · split <;> split <;> rfl

/-- Managing a position leaves it the one it was. -/
@[simp] theorem manage_ticket (c : Candle) : (pos.manage cfg c).ticket = pos.ticket := by
  unfold OpenPosition.manage
  rw [trail_ticket, breakEven_ticket]

/-- What a closed position brings. -/
theorem close_realizedPnL (price : ℚ) (reason : String) (c : Candle) (barIdx : ℤ) (recorded : ℚ) :
    (pos.close cfg price reason c barIdx recorded).realizedPnL =
      pos.gross cfg price - (pos.fees cfg + pos.swap cfg c.time) := rfl

/-- A trade is balanced exactly when the swap that is recorded on it is the one that was due. -/
theorem close_balanced_iff (price : ℚ) (reason : String) (c : Candle) (barIdx : ℤ) (recorded : ℚ) :
    (pos.close cfg price reason c barIdx recorded).Balanced cfg ↔ pos.swap cfg c.time = recorded := by
  have hgross : (pos.close cfg price reason c barIdx recorded).gross cfg = pos.gross cfg price := rfl
  unfold Trade.Balanced
  rw [close_realizedPnL, hgross]
  show _ = pos.gross cfg price - (pos.fees cfg + recorded) ↔ _
  rw [sub_right_inj, add_right_inj]

end

theorem total_append (ts us : List Trade) : total (ts ++ us) = total ts + total us := by
  unfold total
  rw [List.map_append, List.sum_append]

theorem total_singleton (trade : Trade) : total [trade] = trade.realizedPnL := by
  unfold total
  rw [List.map_singleton, List.sum_singleton]

/-! ## Closing positions -/

/-- Some positions have been gone through: the trades `new` were closed, and `rest` stay. -/
structure Closes (t : TradeTracker) (ps : List OpenPosition) (new : List Trade)
    (rest : List OpenPosition) (t' : TradeTracker) : Prop where
  config : t'.config = t.config
  initial : t'.initialBalance = t.initialBalance
  closed : t'.closedTrades = t.closedTrades ++ new
  balance : t'.balance = t.balance + total new
  tickets : (ps.map (·.ticket)).Perm (rest.map (·.ticket) ++ new.map (·.ticket))

theorem Closes.nil (t : TradeTracker) : Closes t [] [] [] t where
  config := rfl
  initial := rfl
  closed := (List.append_nil _).symm
  balance := (add_zero _).symm
  tickets := List.Perm.refl _

section
variable {t t' t'' : TradeTracker} {ps : List OpenPosition} {new : List Trade}
  {rest : List OpenPosition} {pos : OpenPosition}

/-- One more position is closed. -/
theorem Closes.close (h : Closes t ps new rest t') {trade : Trade} (hticket : trade.ticket = pos.ticket)
    (hconfig : t''.config = t'.config) (hinitial : t''.initialBalance = t'.initialBalance)
    (hclosed : t''.closedTrades = t'.closedTrades ++ [trade])
    (hbalance : t''.balance = t'.balance + trade.realizedPnL) :
    Closes t (ps ++ [pos]) (new ++ [trade]) rest t'' where
  config := hconfig.trans h.config
  initial := hinitial.trans h.initial
  closed := by
    rw [hclosed, h.closed, List.append_assoc]
  balance := by
    rw [hbalance, h.balance, total_append, total_singleton, add_assoc]
  tickets := by
    rw [List.map_append, List.map_append, List.map_singleton, List.map_singleton, hticket,
      ← List.append_assoc]
    exact h.tickets.append_right _

/-- One more position stays. -/
theorem Closes.stay (h : Closes t ps new rest t') {pos' : OpenPosition}
    (hticket : pos'.ticket = pos.ticket) : Closes t (ps ++ [pos]) new (rest ++ [pos']) t' where
  config := h.config
  initial := h.initial
  closed := h.closed
  balance := h.balance
  tickets := by
    rw [List.map_append, List.map_append, List.map_singleton, List.map_singleton, hticket]
    refine (h.tickets.append_right _).trans ?_
    rw [List.append_assoc, List.append_assoc]
    exact List.perm_append_comm.append_left _

end

section
variable {t : TradeTracker} {w : Sweep} {ps : List OpenPosition} (c : Candle) (barIdx : ℤ)

theorem book_fields (t : TradeTracker) (trade : Trade) :
    (t.book trade).config = t.config ∧ (t.book trade).initialBalance = t.initialBalance ∧
      (t.book trade).closedTrades = t.closedTrades ++ [trade] ∧
      (t.book trade).balance = t.balance + trade.realizedPnL ∧
      (t.book trade).dailyPnL = t.dailyPnL + trade.realizedPnL ∧
      (t.book trade).currentDay = t.currentDay := by
  unfold TradeTracker.book
  dsimp only
  split
  · exact ⟨rfl, rfl, rfl, rfl, rfl, rfl⟩
  · split
    · split <;> exact ⟨rfl, rfl, rfl, rfl, rfl, rfl⟩
    · exact ⟨rfl, rfl, rfl, rfl, rfl, rfl⟩

/-- The loop of `UpdatePositions`. -/
structure Swept (t : TradeTracker) (ps : List OpenPosition) (w : Sweep) : Prop where
  closes : Closes t ps w.newlyClosed w.stillOpen w.tracker
  daily : w.tracker.dailyPnL = t.dailyPnL + total w.newlyClosed
  costs : ∀ trade ∈ w.newlyClosed, trade.Balanced t.config

theorem Swept.next (h : Swept t ps w) (pos : OpenPosition) :
    Swept t (ps ++ [pos]) (w.next c barIdx pos) := by
  unfold Sweep.next
  cases hcheck : pos.check w.tracker.config c barIdx with
  | none => exact ⟨h.closes.stay (manage_ticket _ pos c), h.daily, h.costs⟩
  | some trade =>
      obtain ⟨⟨price, reason⟩, -, rfl⟩ := Option.map_eq_some_iff.mp hcheck
      obtain ⟨hconfig, hinitial, hclosed, hbalance, hdaily, -⟩ :=
        book_fields w.tracker (pos.close w.tracker.config price reason c barIdx
          (pos.swap w.tracker.config c.time))
      refine ⟨h.closes.close (close_ticket ..) hconfig hinitial hclosed hbalance, ?_, ?_⟩
      · dsimp only
        rw [hdaily, h.daily, total_append, total_singleton, add_assoc]
      · intro trade htrade
        rcases List.mem_append.mp htrade with htrade | htrade
        · exact h.costs trade htrade
        · obtain rfl := List.mem_singleton.mp htrade
          rw [← h.closes.config]
          exact (close_balanced_iff ..).mpr rfl

theorem swept (t : TradeTracker) (ps : List OpenPosition) :
    Swept t ps (ps.foldl (Sweep.next c barIdx) { tracker := t }) := by
  induction ps using List.reverseRecOn with
  | nil => exact ⟨Closes.nil t, (add_zero _).symm, fun _ h => nomatch h⟩
  | append_singleton ps pos ih =>
      rw [List.foldl_append]
      exact ih.next c barIdx pos

/-- The loop of `CloseAllPositions`. -/
structure Forced (t : TradeTracker) (ps : List OpenPosition) (w : Sweep) : Prop where
  closes : Closes t ps w.newlyClosed [] w.tracker
  daily : w.tracker.dailyPnL = t.dailyPnL
  trades : w.newlyClosed = ps.map fun pos => pos.close t.config c.close "EOD" c barIdx 0

theorem forced (t : TradeTracker) (ps : List OpenPosition) :
    Forced c barIdx t ps (ps.foldl (Sweep.force c barIdx) { tracker := t }) := by
  induction ps using List.reverseRecOn with
  | nil => exact ⟨Closes.nil t, rfl, rfl⟩
  | append_singleton ps pos ih =>
      rw [List.foldl_append]
      refine ⟨ih.closes.close (close_ticket ..) rfl rfl rfl rfl, ih.daily, ?_⟩
      show _ ++ [_] = _
      rw [ih.trades, List.map_append, ih.closes.config]
      rfl

end

/-! ## Calls -/

section
variable {s : Account}

/-- Whatever loop has gone through the positions, balance and positions are right after it. -/
theorem Closes.conserves {t' : TradeTracker} {new : List Trade} {rest : List OpenPosition}
    (h : Closes s.tracker s.tracker.openPositions new rest t') (hs : Conserved s) :
    t'.balance = t'.initialBalance + total t'.closedTrades ∧
      (s.opened.map (·.ticket)).Perm (rest.map (·.ticket) ++ t'.closedTrades.map (·.ticket)) := by
  constructor
  · rw [h.balance, h.initial, h.closed, hs.balance, total_append, add_assoc]
  · rw [h.closed, List.map_append]
    refine hs.positions.trans ((h.tickets.append_right _).trans ?_)
    rw [List.append_assoc]
    exact List.perm_append_comm.append_left _

theorem Conserved.openPosition (hs : Conserved s) (pos : OpenPosition) :
    Conserved (step s (.openPosition pos)) where
  balance := hs.balance
  positions := by
    show ((s.opened ++ [pos]).map _).Perm ((s.tracker.openPositions ++ [pos]).map _ ++ _)
    rw [List.map_append, List.map_append, List.append_assoc]
    refine (hs.positions.append_right _).trans ?_
    rw [List.append_assoc]
    exact List.perm_append_comm.append_left _
  costs := hs.costs
  daily := hs.daily

theorem Conserved.checkDayRollover (hs : Conserved s) (ts : Time) :
    Conserved (step s (.checkDayRollover ts)) := by
  show Conserved { s with
    tracker := s.tracker.checkDayRollover ts
    today := if s.tracker.rollsOver ts then [] else s.today }
  unfold TradeTracker.checkDayRollover TradeTracker.rollsOver
  by_cases hday : s.tracker.currentDay = 0
  · simp only [hday, if_true, ne_eq, not_true_eq_false, false_and, decide_false, Bool.false_eq_true,
      if_false]
    exact ⟨hs.balance, hs.positions, hs.costs, hs.daily⟩
  · by_cases hsame : truncate ts = s.tracker.currentDay
    · simp only [hday, hsame, if_false, ne_eq, not_true_eq_false, and_false, decide_false,
        Bool.false_eq_true]
      exact hs
    · simp only [hday, hsame, if_false, if_true, ne_eq, not_false_eq_true, true_and, decide_true]
      -- the trades of the day start again with its result
      exact ⟨hs.balance, hs.positions, hs.costs, rfl⟩

theorem Conserved.updatePositions (hs : Conserved s) (c : Candle) (barIdx : ℤ) :
    Conserved (step s (.updatePositions c barIdx)) := by
  have hw := swept c barIdx s.tracker s.tracker.openPositions
  obtain ⟨hbalance, hpositions⟩ := hw.closes.conserves hs
  refine ⟨hbalance, hpositions, ?_, ?_⟩
  · intro trade htrade
    have htrade : trade ∈ (List.foldl _ _ _ : Sweep).tracker.closedTrades := htrade
    show trade.Balanced (List.foldl _ _ _ : Sweep).tracker.config
    rw [hw.closes.config]
    rw [hw.closes.closed] at htrade
    rcases List.mem_append.mp htrade with htrade | htrade
    · exact hs.costs trade htrade
    · -- the loop has recorded the swap that was due
      exact hw.costs trade htrade
  · show (List.foldl _ _ _ : Sweep).tracker.dailyPnL = total (s.today ++ _)
    rw [hw.daily, hs.daily, total_append]

/-- **Closing all positions** leaves the account right exactly when no swap is due and the results cancel
out. -/
theorem conserved_closeAllPositions_iff (hs : Conserved s) (c : Candle) (barIdx : ℤ) :
    Conserved (step s (.closeAllPositions c barIdx)) ↔ Harmless s (.closeAllPositions c barIdx) := by
  have hw := forced c barIdx s.tracker s.tracker.openPositions
  have hconfig := hw.closes.config
  have hclosed := hw.closes.closed
  obtain ⟨hbalance, hpositions⟩ := hw.closes.conserves hs
  rw [hw.trades] at hclosed
  -- each trade is balanced when no swap is due
  have hcosts : (∀ trade ∈ s.tracker.openPositions.map
      (fun pos => pos.close s.tracker.config c.close "EOD" c barIdx 0),
        trade.Balanced s.tracker.config) ↔
      ∀ pos ∈ s.tracker.openPositions, pos.SwapFree s.tracker.config c.time := by
    simp only [List.forall_mem_map, close_balanced_iff, swap_eq_zero_iff]
  -- and then what they bring is the movement less the fees
  have htotal : (∀ pos ∈ s.tracker.openPositions, pos.SwapFree s.tracker.config c.time) →
      total (s.tracker.openPositions.map
        (fun pos => pos.close s.tracker.config c.close "EOD" c barIdx 0)) =
      (s.tracker.openPositions.map fun pos =>
        pos.gross s.tracker.config c.close - pos.fees s.tracker.config).sum := by
    intro hfree
    unfold total
    rw [List.map_map]
    refine congrArg List.sum (List.map_congr_left fun pos hpos => ?_)
    rw [Function.comp_apply, close_realizedPnL, (swap_eq_zero_iff ..).mpr (hfree pos hpos), add_zero]
  have hdaily : (step s (.closeAllPositions c barIdx)).tracker.dailyPnL =
      total (step s (.closeAllPositions c barIdx)).today ↔
      total (s.tracker.openPositions.map
        (fun pos => pos.close s.tracker.config c.close "EOD" c barIdx 0)) = 0 := by
    show (List.foldl _ _ _ : Sweep).tracker.dailyPnL =
      total (s.today ++ (List.foldl _ _ _ : Sweep).newlyClosed) ↔ _
    rw [hw.daily, hw.trades, hs.daily, total_append, left_eq_add]
  constructor
  · intro h
    have hfree := hcosts.mp fun trade htrade => by
      have hbal := h.costs trade (by
        show trade ∈ (List.foldl _ _ _ : Sweep).tracker.closedTrades
        rw [hclosed]
        exact List.mem_append_right _ htrade)
      have hcfg : (step s (.closeAllPositions c barIdx)).tracker.config = s.tracker.config := hconfig
      rwa [hcfg] at hbal
    refine ⟨hfree, ?_⟩
    rw [← htotal hfree]
    exact hdaily.mp h.daily
  · rintro ⟨hfree, hsum⟩
    refine ⟨hbalance, hpositions, ?_, ?_⟩
    · intro trade htrade
      have htrade : trade ∈ (List.foldl _ _ _ : Sweep).tracker.closedTrades := htrade
      show trade.Balanced (List.foldl _ _ _ : Sweep).tracker.config
      rw [hconfig]
      rw [hclosed] at htrade
      rcases List.mem_append.mp htrade with htrade | htrade
      · exact hs.costs trade htrade
      · exact hcosts.mpr hfree trade htrade
    · apply hdaily.mpr
      rw [htotal hfree]
      exact hsum

/-! ## Runs -/

/-- The step lemma. -/
theorem conserved_step_iff (hs : Conserved s) (c : Call) : Conserved (step s c) ↔ Harmless s c := by
  cases c with
  | openPosition pos => exact iff_of_true (hs.openPosition pos) trivial
  | checkDayRollover ts => exact iff_of_true (hs.checkDayRollover ts) trivial
  | updatePositions c barIdx => exact iff_of_true (hs.updatePositions c barIdx) trivial
  | closeAllPositions c barIdx => exact conserved_closeAllPositions_iff hs c barIdx

theorem conserved_newAccount (cfg : BacktestConfig) : Conserved (newAccount cfg) where
  balance := (add_zero _).symm
  positions := List.Perm.refl _
  costs _ h := nomatch h
  daily := rfl

/-- **Account conservation.** The account is right in every state of a run exactly when each forced close
of it is harmless. -/
theorem conserved_throughout_iff (cfg : BacktestConfig) (calls : List Call) :
    Throughout step Conserved (newAccount cfg) calls ↔ Along step Harmless (newAccount cfg) calls := by
  rw [throughout_iff_of_step fun s c hs => conserved_step_iff hs c]
  exact and_iff_right (conserved_newAccount cfg)

end

/-- A long position over a night, and one on the same day. -/
def position (entryTime : Time) : OpenPosition :=
  { tradeID := "7f3a91c2", strategyID := .standardSwing, direction := .buy, entryPrice := 2000
    stopLoss := 1990, originalSL := 1990, entryTime, size := 1 }

/-- The swap is missing on a trade, and the result in the day's. -/
theorem forced_close_unbalanced :
    ¬ Throughout step Conserved (newAccount { initialBalance := 10000, swapPerLotPerDay := 7 })
        [.openPosition (position day), .closeAllPositions ⟨3 * day, 2010, 1995, 2000⟩ 40] ∧
      ¬ Throughout step Conserved (newAccount { initialBalance := 10000 })
        [.openPosition (position day), .closeAllPositions ⟨day + 1, 2010, 1995, 2005⟩ 40] := by
  constructor
  · intro h
    have hcosts := (h _ List.prefix_rfl).costs _ List.mem_cons_self
    revert hcosts
    unfold Trade.Balanced
    decide +kernel
  · intro h
    exact absurd (h _ List.prefix_rfl).daily (by decide +kernel)

end PredictATrade.Backtest
