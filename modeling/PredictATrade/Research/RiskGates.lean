import Mathlib.Tactic.Ring
import Mathlib.Tactic.Linarith
import PredictATrade.Research.Accounting
import PredictATrade.Research.Lookahead

/-!
# `Research.RiskGates` — what the gates guarantee at an entry

The count of positions, the day's loss and the recovery size are what they should be at every entry. Two
gates come too early: the exposure is compared before the order has its size, and the thresholds of
recovery mode are checked before the mode is entered.

`gates_hold_iff` says exactly which entries respect all limits: those whose lots fit into what the exposure
leaves, and that do not enter recovery mode with a signal below its thresholds.
-/

namespace PredictATrade.Research
open Lib.Runs

/-! ## Entries -/

/-- An opened position: the engine when the strategy was asked, its signal, the order with its fill, and the
engine behind it. -/
structure Entry where
  before : Engine
  signal : SignalEvent
  order : OrderEvent
  fill : FillEvent
  after : Engine

/-- The position that a bar opens. -/
def Engine.entry (config : BacktestConfig) (rng : Draws) (e : Engine) (b : Bar) : Option Entry :=
  let before := (e.updateExits b.candle).1
  match b.evaluate.map fun evaluate => evaluate before.portfolio with
  | none => none
  | some signal =>
    match before.act config rng b.candle (some signal) with
    | (after, .ordered order fill) =>
      if fill.fillStatus ≠ .rejected then some ⟨before, signal, order, fill, after⟩ else none
    | _ => none

/-- The entries of a run. -/
def entries (config : BacktestConfig) (rng : Draws) (strategy : Option Strategy)
    (candles : List HistoricalCandle) (data : HigherTfData) : List Entry :=
  if !(validate config.minQualityScore candles config.primaryTimeframe).passed then []
  else trace (Engine.next config rng) (Engine.entry config rng) (.start config candles)
    (bars config strategy candles data)

/-! ## The limits -/

/-- The results of the trades that were closed on the day of the engine. -/
def Engine.dayPnl (e : Engine) : ℚ :=
  ((e.portfolio.closedTrades.filter fun t => some (date t.exitTime) = e.currentTradingDay).map
    (·.pnl)).sum

/-- The realized loss of the day, in percent of the initial balance. -/
def Engine.dayLossPercent (e : Engine) : ℚ :=
  if e.portfolio.initialBalance > 0 then -(e.dayPnl / e.portfolio.initialBalance * 100) else 0

/-- The thresholds of recovery mode. -/
structure SignalEvent.Recovers (signal : SignalEvent) : Prop where
  confluence : 80 ≤ signal.confluence
  setupGrade : signal.setupGrade ∈ ["A", "A+"]
  confidence : 75 ≤ signal.confidence

/-- The entry keeps the limits. -/
structure Entry.Respects (config : BacktestConfig) (x : Entry) : Prop where
  positions : x.after.portfolio.openPositionCount ≤ config.maxPositions
  exposure : x.after.portfolio.totalExposure ≤ config.maxExposure
  dailyLoss : x.before.dayLossPercent < config.maxDailyLossPercent
  recovers : config.maxConsecutiveLosses ≤ x.before.consecutiveLosses → x.signal.Recovers
  recoverySize : config.maxConsecutiveLosses ≤ x.before.consecutiveLosses →
    x.order.size = max (1 / 100) (min (x.before.riskSize config x.signal * (1 / 2)) 10)

/-- The share of an order that the draws fill. -/
def ExecutionConfig.ratioAt (config : ExecutionConfig) (rng : Draws) (drawn : ℕ) : ℚ :=
  let drawn' := if config.rejectionProbability > 0 then drawn + 1 else drawn
  if config.partialFillProbability > 0 ∧ rng drawn' < config.partialFillProbability then
    3 / 10 + 4 / 10 * rng (drawn' + 1)
  else 1

/-- The lots of a signal, by its risk, by recovery mode and by the draws. -/
def Engine.lots (config : BacktestConfig) (rng : Draws) (e : Engine) (signal : SignalEvent) : ℚ :=
  max (1 / 100) (min (e.riskSize config signal * (e.enterRecovery config).recoverySizeMultiplier) 10) *
    config.executionConfig.ratioAt rng e.drawn

/-- The lots fit into what is left, and a signal that enters recovery mode meets its thresholds. -/
structure Entry.Fits (config : BacktestConfig) (rng : Draws) (x : Entry) : Prop where
  exposure : x.before.portfolio.totalExposure + x.before.lots config rng x.signal ≤ config.maxExposure
  recovers : config.maxConsecutiveLosses ≤ x.before.consecutiveLosses →
    x.before.recoveryMode = false → x.signal.Recovers

/-! ## What the engine's counters stand for -/

/-- The counters in terms of the portfolio. -/
structure Engine.Sound (e : Engine) : Prop where
  ids : ∀ pos ∈ e.portfolio.positions, pos.positionId < e.opened
  percent : e.dailyPnlPercent =
    if e.portfolio.initialBalance > 0 then e.dailyPnl / e.portfolio.initialBalance * 100 else 0
  multiplier : e.recoveryMode = true → e.recoverySizeMultiplier = 1 / 2
  daily : e.dailyPnl = e.dayPnl
  past : ∀ t ∈ e.portfolio.closedTrades, ∃ day, e.currentTradingDay = some day ∧ date t.exitTime ≤ day

/-- When the check of the recovery passes. -/
theorem recoveryCheck_eq_none_iff (signal : SignalEvent) :
    Engine.recoveryCheck signal = none ↔ signal.Recovers := by
  unfold Engine.recoveryCheck
  constructor
  · intro h
    split_ifs at h with h₁ h₂ h₃
    exact ⟨not_lt.mp h₁, by simpa using h₂, not_lt.mp h₃⟩
  · intro h
    rw [if_neg (not_lt.mpr h.confluence), if_neg (not_not.mpr h.setupGrade),
      if_neg (not_lt.mpr h.confidence)]

/-! ## Closing -/

namespace Portfolio
variable {p : Portfolio} {candle : HistoricalCandle}

/-- What is closed is recorded with the result of its exit, at the time of the candle. -/
theorem closeEach_trades (toClose : List (Uuid × ExitReason × ℚ)) :
    ∃ ts : List TradeRecord,
      (closeEach candle p toClose).1.closedTrades = p.closedTrades ++ ts ∧
      ts.map (·.pnl) = (closeEach candle p toClose).2.map (·.realizedPnl) ∧
      ∀ t ∈ ts, t.exitTime = candle.timestamp := by
  induction toClose generalizing p with
  | nil => exact ⟨[], (List.append_nil _).symm, rfl, by simp⟩
  | cons entry toClose ih =>
      obtain ⟨posId, reason, price⟩ := entry
      unfold closeEach
      split
      · exact ih
      · next pos hfind =>
          obtain ⟨ts, htrades, hpnl, htime⟩ := ih (p := (p.closePosition candle pos reason price).1)
          refine ⟨p.tradeOf candle pos reason price :: ts, ?_, ?_, ?_⟩
          · refine htrades.trans ?_
            show p.closedTrades ++ [_] ++ ts = _
            rw [List.append_assoc]
            rfl
          · exact congrArg (List.cons _) hpnl
          · exact List.forall_mem_cons.mpr ⟨rfl, htime⟩

theorem closeEach_positions (toClose : List (Uuid × ExitReason × ℚ)) :
    ∀ pos ∈ (closeEach candle p toClose).1.positions, pos ∈ p.positions := by
  induction toClose generalizing p with
  | nil => exact fun pos h => h
  | cons entry toClose ih =>
      obtain ⟨posId, reason, price⟩ := entry
      unfold closeEach
      split
      · exact ih
      · intro pos hpos
        exact List.mem_of_mem_filter (ih pos hpos)

/-- What an update records. -/
theorem updatePositions_spec (candle : HistoricalCandle) (atr : ℚ) :
    ∃ ts : List TradeRecord,
      (p.updatePositions candle atr).1.closedTrades = p.closedTrades ++ ts ∧
      ts.map (·.pnl) = (p.updatePositions candle atr).2.map (·.realizedPnl) ∧
      ∀ t ∈ ts, t.exitTime = candle.timestamp :=
  closeEach_trades (p := { p with positions := p.advanced candle atr }) (p.toClose candle atr)

theorem updatePositions_ids (candle : HistoricalCandle) (atr : ℚ) :
    ∀ pos ∈ (p.updatePositions candle atr).1.positions,
      ∃ q ∈ p.positions, q.positionId = pos.positionId := by
  intro pos hpos
  have hmem := closeEach_positions (p := { p with positions := p.advanced candle atr })
    (p.toClose candle atr) pos hpos
  obtain ⟨q, hq, rfl⟩ := List.mem_map.mp hmem
  exact ⟨q, hq, (q.advance_positionId candle p.toExitConfig atr).symm⟩

/-- The initial balance stays. -/
theorem updatePositions_initialBalance (candle : HistoricalCandle) (atr : ℚ) :
    (p.updatePositions candle atr).1.initialBalance = p.initialBalance :=
  closeEach_initialBalance (p := { p with positions := p.advanced candle atr }) (p.toClose candle atr)

end Portfolio

/-! ## One bar -/

namespace Engine
variable {config : BacktestConfig} {rng : Draws} {e : Engine} {candle : HistoricalCandle}

/-- What the exits of a bar do to the counters. -/
theorem processExits_spec (exits : List ExitEvent) :
    (exits.foldl processExit e).portfolio = e.portfolio ∧
      (exits.foldl processExit e).opened = e.opened ∧
      (exits.foldl processExit e).recoveryMode = e.recoveryMode ∧
      (exits.foldl processExit e).recoverySizeMultiplier = e.recoverySizeMultiplier ∧
      (exits.foldl processExit e).currentTradingDay = e.currentTradingDay ∧
      (exits.foldl processExit e).dailyPnl = e.dailyPnl + (exits.map (·.realizedPnl)).sum := by
  induction exits generalizing e with
  | nil => exact ⟨rfl, rfl, rfl, rfl, rfl, (add_zero _).symm⟩
  | cons exit exits ih =>
      obtain ⟨hp, ho, hm, hs, hd, hpnl⟩ := ih (e := e.processExit exit)
      refine ⟨hp, ho, hm, hs, hd, hpnl.trans ?_⟩
      show e.dailyPnl + exit.realizedPnl + _ = _
      rw [List.map_cons, List.sum_cons, add_assoc]

/-- The percentage goes with the result of the day. -/
def PercentOk (e : Engine) : Prop :=
  e.dailyPnlPercent =
    if e.portfolio.initialBalance > 0 then e.dailyPnl / e.portfolio.initialBalance * 100 else 0

theorem PercentOk.processExits (h : e.PercentOk) (exits : List ExitEvent) :
    (exits.foldl processExit e).PercentOk := by
  induction exits generalizing e with
  | nil => exact h
  | cons exit exits ih =>
      apply ih
      unfold PercentOk at h ⊢
      show (if e.portfolio.initialBalance > 0 then _ else e.dailyPnlPercent) =
        if e.portfolio.initialBalance > 0 then _ else 0
      split
      · rfl
      · next hno => rw [h, if_neg hno]

/-- A new day has no trades yet. -/
theorem Sound.checkTradingDay (h : e.Sound) {ts : Datetime}
    (hlater : ∀ day, e.currentTradingDay = some day → day ≤ date ts) :
    (e.checkTradingDay ts).Sound ∧ (e.checkTradingDay ts).currentTradingDay = some (date ts) := by
  have hpast : ∀ t ∈ e.portfolio.closedTrades, date t.exitTime ≤ date ts := by
    intro t ht
    obtain ⟨day, hday, hle⟩ := h.past t ht
    exact hle.trans (hlater day hday)
  unfold Engine.checkTradingDay
  -- on the first day nothing has been closed, on a later one nothing of that day
  cases hday : e.currentTradingDay with
  | none =>
      have hempty : e.portfolio.closedTrades = [] := by
        refine List.eq_nil_iff_forall_not_mem.mpr ?_
        intro t ht
        obtain ⟨day, hsome, -⟩ := h.past t ht
        rw [hday] at hsome
        cases hsome
      refine ⟨⟨h.ids, h.percent, h.multiplier, ?_, ?_⟩, rfl⟩
      · rw [h.daily]
        simp [dayPnl, hempty]
      · simp [hempty]
  | some day =>
      dsimp only
      split
      · next hnew =>
          have hnone : e.portfolio.closedTrades.filter
              (fun t => some (date t.exitTime) = some (date ts)) = [] := by
            refine List.filter_eq_nil_iff.mpr ?_
            intro t ht heq
            obtain ⟨day', hsome, hle⟩ := h.past t ht
            rw [hday, Option.some.injEq] at hsome
            have hle' := hlater day hday
            simp at heq
            omega
          refine ⟨⟨h.ids, by simp, h.multiplier, ?_, ?_⟩, rfl⟩
          · show (0 : ℚ) = ((e.portfolio.closedTrades.filter
              (fun t => some (date t.exitTime) = some (date ts))).map (·.pnl)).sum
            rw [hnone]
            rfl
          · exact fun t ht => ⟨date ts, rfl, hpast t ht⟩
      · next hsame =>
          refine ⟨h, ?_⟩
          rw [hday, not_not.mp hsame]

theorem Sound.updateExits (h : e.Sound)
    (hlater : ∀ day, e.currentTradingDay = some day → day ≤ date candle.timestamp) :
    (e.updateExits candle).1.Sound ∧
      (e.updateExits candle).1.currentTradingDay = some (date candle.timestamp) := by
  obtain ⟨hday, htoday⟩ := h.checkTradingDay hlater
  unfold Engine.updateExits
  generalize e.checkTradingDay candle.timestamp = d at hday htoday
  obtain ⟨ts, htrades, hpnl, htime⟩ :=
    Portfolio.updatePositions_spec (p := d.portfolio) candle d.getCurrentAtr
  have hids := Portfolio.updatePositions_ids (p := d.portfolio) candle d.getCurrentAtr
  have hinitial := Portfolio.updatePositions_initialBalance (p := d.portfolio) candle
    d.getCurrentAtr
  dsimp only
  generalize d.portfolio.updatePositions candle d.getCurrentAtr = updated at *
  obtain ⟨p, exits⟩ := updated
  have hpercent : ({ d with portfolio := p } : Engine).PercentOk := by
    show d.dailyPnlPercent = if p.initialBalance > 0 then d.dailyPnl / p.initialBalance * 100 else 0
    rw [hinitial]
    exact hday.percent
  obtain ⟨hportfolio, hopened, hmode, hsize, hcurrent, hdaily⟩ :=
    processExits_spec (e := { d with portfolio := p }) exits
  refine ⟨⟨?_, hpercent.processExits exits, ?_, ?_, ?_⟩, hcurrent.trans htoday⟩
  · -- an update opens nothing
    rw [hportfolio, hopened]
    intro pos hpos
    obtain ⟨q, hq, heq⟩ := hids pos hpos
    exact heq ▸ hday.ids q hq
  · rw [hmode, hsize]
    exact hday.multiplier
  · -- the day's trades are those it had, and those of this candle
    have htoday' : ts.filter (fun t => some (date t.exitTime) = some (date candle.timestamp)) = ts := by
      refine List.filter_eq_self.mpr fun t ht => ?_
      rw [htime t ht]
      simp
    unfold dayPnl
    rw [hdaily, hportfolio, hcurrent]
    show d.dailyPnl + _ = ((p.closedTrades.filter
      fun t => some (date t.exitTime) = d.currentTradingDay).map (·.pnl)).sum
    rw [htrades, List.filter_append, List.map_append, List.sum_append, ← hpnl, hday.daily]
    unfold dayPnl
    rw [htoday, htoday']
  · rw [hportfolio, hcurrent]
    intro t ht
    refine ⟨date candle.timestamp, htoday, ?_⟩
    rcases List.mem_append.mp (htrades ▸ ht) with hold | hnew
    · obtain ⟨day, hsome, hle⟩ := hday.past t hold
      rw [htoday, Option.some.injEq] at hsome
      omega
    · rw [htime t hnew]

theorem Sound.enterRecovery (h : e.Sound) : (e.enterRecovery config).Sound := by
  refine ⟨h.ids, h.percent, ?_, h.daily, h.past⟩
  intro hmode
  unfold Engine.enterRecovery at hmode ⊢
  dsimp only at hmode ⊢
  generalize decide (e.consecutiveLosses ≥ config.maxConsecutiveLosses ∧ (!e.recoveryMode) = true) =
    enters at hmode ⊢
  cases enters with
  | true => rfl
  | false => exact h.multiplier (by simpa using hmode)

/-- The orders of an engine that is in recovery mode by now, or was before, have half the size. -/
theorem Sound.halves (h : e.Sound) (hlosses : config.maxConsecutiveLosses ≤ e.consecutiveLosses) :
    (e.enterRecovery config).recoverySizeMultiplier = 1 / 2 := by
  apply h.enterRecovery.multiplier
  show (e.recoveryMode || decide (_ ∧ _)) = true
  cases e.recoveryMode <;> simp [hlosses]

/-- An engine that may place orders: the position it opens comes last. -/
theorem Sound.placeOrder (h : e.Sound) (signal : SignalEvent) :
    (e.placeOrder config rng candle signal).1.Sound := by
  have hfresh : ∀ pos ∈ e.portfolio.positions, pos.positionId ≠ e.opened :=
    fun pos hpos => (h.ids pos hpos).ne
  unfold Engine.placeOrder
  dsimp only
  split
  · refine ⟨?_, ?_, h.multiplier, ?_, ?_⟩
    all_goals rw [Portfolio.openPosition_fresh hfresh]
    · intro pos hpos
      rcases List.mem_append.mp hpos with hold | hnew
      · exact (h.ids pos hold).trans (Nat.lt_succ_self _)
      · rw [List.mem_singleton.mp hnew]
        exact Nat.lt_succ_self _
    · exact h.percent
    · exact h.daily
    · exact h.past
  · exact ⟨h.ids, h.percent, h.multiplier, h.daily, h.past⟩

theorem checkRiskGates_engine (config : BacktestConfig) (candle : HistoricalCandle)
    (signal : SignalEvent) :
    (e.checkRiskGates config signal candle).1 = e ∨
      (e.checkRiskGates config signal candle).1 = e.enterRecovery config := by
  unfold Engine.checkRiskGates
  split
  · exact .inl rfl
  · split
    · exact .inl rfl
    · exact .inr rfl

theorem Sound.checkRiskGates (h : e.Sound) (config : BacktestConfig) (candle : HistoricalCandle)
    (signal : SignalEvent) :
    (e.checkRiskGates config signal candle).1.Sound := by
  rcases checkRiskGates_engine (e := e) config candle signal with heq | heq
  · rw [heq]
    exact h
  · rw [heq]
    exact h.enterRecovery

theorem Sound.enter (h : e.Sound) (signal : SignalEvent) :
    (e.enter config rng candle signal).1.Sound := by
  have hgates := h.checkRiskGates config candle signal
  unfold Engine.enter
  generalize e.checkRiskGates config signal candle = gates at hgates
  obtain ⟨e', reason⟩ := gates
  cases reason with
  | some reason => exact ⟨hgates.ids, hgates.percent, hgates.multiplier, hgates.daily, hgates.past⟩
  | none => exact hgates.placeOrder signal

theorem Sound.act (h : e.Sound) (config : BacktestConfig) (rng : Draws) (candle : HistoricalCandle)
    (signal : Option SignalEvent) :
    (e.act config rng candle signal).1.Sound := by
  cases signal with
  | none => exact h
  | some signal =>
      unfold Engine.act
      dsimp only
      split
      · exact h.enter signal
      · exact h.enter signal
      · exact ⟨h.ids, h.percent, h.multiplier, h.daily, h.past⟩
      · exact ⟨h.ids, h.percent, h.multiplier, h.daily, h.past⟩
      · exact h

theorem act_currentTradingDay (signal : Option SignalEvent) :
    (e.act config rng candle signal).1.currentTradingDay = e.currentTradingDay := by
  cases signal with
  | none => rfl
  | some signal =>
      have henter : (e.enter config rng candle signal).1.currentTradingDay = e.currentTradingDay := by
        have hgates : (e.checkRiskGates config signal candle).1.currentTradingDay =
            e.currentTradingDay := by
          rcases checkRiskGates_engine (e := e) config candle signal
            with heq | heq <;> rw [heq]
          rfl
        unfold Engine.enter
        generalize e.checkRiskGates config signal candle = gates at hgates
        obtain ⟨e', reason⟩ := gates
        cases reason <;> exact hgates
      unfold Engine.act
      dsimp only
      split <;> first | exact henter | rfl

/-- A bar leaves the engine on the bar's own day. -/
theorem Sound.next {b : Bar} (h : e.Sound) (config : BacktestConfig) (rng : Draws)
    (hlater : ∀ day, e.currentTradingDay = some day → day ≤ date b.candle.timestamp) :
    (e.next config rng b).Sound ∧
      (e.next config rng b).currentTradingDay = some (date b.candle.timestamp) := by
  obtain ⟨hexits, htoday⟩ := h.updateExits hlater
  have hact := hexits.act config rng b.candle
    (b.evaluate.map fun evaluate => evaluate (e.updateExits b.candle).1.portfolio)
  refine ⟨⟨hact.ids, hact.percent, hact.multiplier, hact.daily, hact.past⟩, ?_⟩
  show (Engine.act config rng (e.updateExits b.candle).1 b.candle _).1.currentTradingDay = _
  rw [act_currentTradingDay, htoday]

/-! ## One entry -/

/-- The gates that a signal with an order has passed. -/
theorem checkRiskGates_none {signal : SignalEvent} (h : (e.checkRiskGates config signal candle).2 = none) :
    (e.checkRiskGates config signal candle).1 = e.enterRecovery config ∧
      (e.recoveryMode = true → signal.Recovers) ∧
      -config.maxDailyLossPercent < e.dailyPnlPercent ∧
      e.portfolio.openPositionCount < config.maxPositions := by
  unfold Engine.checkRiskGates at h ⊢
  split at h
  · cases h
  · next hcheck =>
      split at h
      · cases h
      · next hloss =>
          refine ⟨by rw [if_neg hloss], ?_, not_le.mp hloss, ?_⟩
          · intro hmode
            rw [if_pos hmode] at hcheck
            exact (recoveryCheck_eq_none_iff signal).mp hcheck
          · dsimp only at h
            unfold Engine.furtherGates at h
            dsimp only at h
            split at h
            · cases h
            · next hcount => exact not_le.mp hcount

theorem execute_size (config : ExecutionConfig) (order : OrderEvent) (drawn : ℕ) (atr : ℚ)
    (hfill : (config.execute candle rng drawn order atr).1.fillStatus ≠ .rejected) :
    (config.execute candle rng drawn order atr).1.size = order.size * config.ratioAt rng drawn := by
  unfold ExecutionConfig.execute at hfill ⊢
  dsimp only at hfill ⊢
  split at hfill
  · exact absurd rfl hfill
  · next hno =>
      rw [if_neg hno]
      simp [ExecutionConfig.ratioAt]

/-- Only a signal that no gate stops gets an order. -/
theorem act_ordered {signal : SignalEvent} {after : Engine} {order : OrderEvent} {fill : FillEvent}
    (h : e.act config rng candle (some signal) = (after, .ordered order fill)) :
    (e.checkRiskGates config signal candle).2 = none ∧
      (e.checkRiskGates config signal candle).1.placeOrder config rng candle signal =
        (after, .ordered order fill) := by
  have henter (h : e.enter config rng candle signal = (after, .ordered order fill)) :
      (e.checkRiskGates config signal candle).2 = none ∧
        (e.checkRiskGates config signal candle).1.placeOrder config rng candle signal =
          (after, .ordered order fill) := by
    unfold Engine.enter at h
    generalize e.checkRiskGates config signal candle = gates at h ⊢
    obtain ⟨e', reason⟩ := gates
    cases reason with
    | some reason => cases h
    | none => exact ⟨rfl, h⟩
  unfold Engine.act at h
  dsimp only at h
  split at h
  · exact henter h
  · exact henter h
  · cases h
  · cases h
  · cases h

/-- What an entry is made of. -/
theorem entry_spec {b : Bar} {x : Entry} (h : e.entry config rng b = some x) :
    x.before = (e.updateExits b.candle).1 ∧
      (x.before.recoveryMode = true → x.signal.Recovers) ∧
      -config.maxDailyLossPercent < x.before.dailyPnlPercent ∧
      x.before.portfolio.openPositionCount < config.maxPositions ∧
      x.order = (x.before.enterRecovery config).createOrder config x.signal b.candle ∧
      x.fill.size = x.before.lots config rng x.signal ∧
      x.after.portfolio =
        x.before.portfolio.openPosition x.before.opened x.fill x.signal.terms := by
  unfold Engine.entry at h
  dsimp only at h
  generalize (e.updateExits b.candle).1 = before at h ⊢
  split at h
  · cases h
  · next signal hsignal =>
      split at h
      · next after order fill hact =>
          obtain ⟨hnone, hplace⟩ := act_ordered hact
          obtain ⟨hengine, hrecovers, hloss, hcount⟩ := checkRiskGates_none hnone
          rw [hengine] at hplace
          split at h
          · next hopens =>
              obtain rfl := Option.some.inj h
              unfold Engine.placeOrder at hplace
              simp only [Prod.mk.injEq, Decision.ordered.injEq] at hplace
              obtain ⟨rfl, rfl, rfl⟩ := hplace
              refine ⟨rfl, hrecovers, hloss, hcount, rfl, execute_size _ _ _ _ hopens, if_pos hopens⟩
          · cases h
      · cases h

end Engine

/-- Under sound counters, an entry respects the limits exactly if it fits. -/
theorem respects_iff_fits {config : BacktestConfig} {rng : Draws} {e : Engine} {b : Bar} {x : Entry}
    (h : (e.updateExits b.candle).1.Sound) (hentry : e.entry config rng b = some x) :
    x.Respects config ↔ x.Fits config rng := by
  obtain ⟨hbefore, hrecovers, hloss, hcount, horder, hsize, hafter⟩ := Engine.entry_spec hentry
  rw [← hbefore] at h
  rw [Portfolio.openPosition_fresh fun pos hpos => (h.ids pos hpos).ne] at hafter
  have hexposure : x.after.portfolio.totalExposure =
      x.before.portfolio.totalExposure + x.before.lots config rng x.signal := by
    rw [hafter, ← hsize]
    unfold Portfolio.totalExposure
    rw [List.map_append, List.sum_append]
    exact congrArg _ (List.sum_singleton)
  have hpositions : x.after.portfolio.openPositionCount = x.before.portfolio.openPositionCount + 1 := by
    rw [hafter]
    unfold Portfolio.openPositionCount
    rw [List.length_append]
    exact Int.natCast_succ _
  have hpercent : x.before.dailyPnlPercent = -x.before.dayLossPercent := by
    rw [h.percent, h.daily]
    unfold Engine.dayLossPercent
    split
    · exact (neg_neg _).symm
    · exact neg_zero.symm
  constructor
  · intro hrespects
    refine ⟨hexposure ▸ hrespects.exposure, ?_⟩
    intro hlosses _
    exact hrespects.recovers hlosses
  · intro hfits
    refine ⟨?_, hexposure ▸ hfits.exposure, ?_, ?_, ?_⟩
    · rw [hpositions]
      omega
    · rw [hpercent] at hloss
      exact neg_lt_neg_iff.mp hloss
    · intro hlosses
      cases hmode : x.before.recoveryMode with
      | true => exact hrecovers hmode
      | false => exact hfits.recovers hlosses hmode
    · intro hlosses
      rw [horder]
      show max _ (min (_ * (x.before.enterRecovery config).recoverySizeMultiplier) 10) = _
      rw [h.halves hlosses]
      rfl

/-! ## Whole runs -/

/-- The counters of a new engine. -/
theorem start_sound (config : BacktestConfig) (candles : List HistoricalCandle) :
    (Engine.start config candles).Sound where
  ids := by simp [Engine.start, Portfolio.new]
  percent := by simp [Engine.start]
  multiplier := by simp [Engine.start]
  daily := by simp [Engine.dayPnl, Engine.start, Portfolio.new]
  past := by simp [Engine.start, Portfolio.new]

/-- The day of the engine is never behind the next bar. -/
theorem along_days (config : BacktestConfig) (rng : Draws) {e : Engine} {bs : List Bar} (h : e.Sound)
    (hordered : ∀ st ∈ steps (bs.map (·.candle)), st.1.timestamp < st.2.timestamp)
    (hfirst : ∀ b ∈ bs.head?, ∀ day, e.currentTradingDay = some day → day ≤ date b.candle.timestamp) :
    Along (Engine.next config rng)
      (fun e b => ∀ day, e.currentTradingDay = some day → day ≤ date b.candle.timestamp) e bs := by
  induction bs generalizing e with
  | nil => trivial
  | cons b bs ih =>
      obtain ⟨hnext, htoday⟩ := h.next config rng (hfirst b rfl)
      refine ⟨hfirst b rfl, ?_⟩
      cases bs with
      | nil => trivial
      | cons b' bs =>
          apply ih hnext
          · intro st hst
            exact hordered st (List.mem_cons_of_mem _ hst)
          · intro c hc day hday
            obtain rfl := Option.some.inj hc
            obtain rfl := Option.some.inj (htoday.symm.trans hday)
            have hlt := hordered (b.candle, b'.candle) List.mem_cons_self
            exact Int.ediv_le_ediv (by decide) hlt.le

/-- **What the gates guarantee.** All entries of a run respect the limits exactly if each of them fits. -/
theorem gates_hold_iff (config : BacktestConfig) (rng : Draws) (strategy : Option Strategy)
    (candles : List HistoricalCandle) (data : HigherTfData) :
    (∀ x ∈ entries config rng strategy candles data, x.Respects config) ↔
      ∀ x ∈ entries config rng strategy candles data, x.Fits config rng := by
  refine forall₂_congr ?_
  intro x hx
  unfold entries at hx
  split at hx
  · cases hx
  · next hpass =>
      have hordered := validate_ordered (by simpa using hpass)
      rw [← bars_candles config strategy candles data] at hordered
      have hdays := along_days config rng (start_sound config candles) hordered
        (by simp [Engine.start])
      obtain ⟨pre, b, post, hbars, hentry⟩ := mem_trace hx
      rw [hbars] at hdays
      obtain ⟨hpre, hb, -⟩ := along_append.mp hdays
      have hkeeps : ∀ (e : Engine) (b : Bar), e.Sound →
          (∀ day, e.currentTradingDay = some day → day ≤ date b.candle.timestamp) →
          (Engine.next config rng e b).Sound :=
        fun e b h hlater => (h.next config rng hlater).1
      have hsound := along_keeps hkeeps (start_sound config candles) hpre
      exact respects_iff_fits (hsound.updateExits hb).1 hentry

/-- A signal whose stop is so near that its order takes ten lots, where five are allowed. -/
def bigSignal : SignalEvent where
  timestamp := 0
  direction := .buy
  strategyId := "s"
  entryPrice := 100
  stopLoss := 999 / 10
  tp1 := 102

/-- The exposure is compared before the order has its size. -/
theorem ten_lots : ¬∀ (config : BacktestConfig) (rng : Draws) (strategy : Option Strategy)
    (candles : List HistoricalCandle) (data : HigherTfData),
    ∀ x ∈ entries config rng strategy candles data, x.Respects config := by
  intro h
  have hall := h {} (fun _ => 0) (some fun _ _ => bigSignal) (secondRange 2) []
  have hlots : 10 ∈ (entries {} (fun _ => 0) (some fun _ _ => bigSignal) (secondRange 2) []).map
      (·.after.portfolio.totalExposure) := by
    decide +kernel
  obtain ⟨x, hx, hexposure⟩ := List.mem_map.mp hlots
  have hle := (hall x hx).exposure
  rw [hexposure] at hle
  exact absurd hle (by norm_num)

end PredictATrade.Research
