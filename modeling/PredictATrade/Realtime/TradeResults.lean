import Mathlib.Logic.Function.Basic
import PredictATrade.Lib.Decimal
import PredictATrade.Lib.Runs
import PredictATrade.Realtime.Recovery

/-!
# `Realtime.TradeResults` — the loss-recovery state machine

How the recovery manager moves: `RecordTradeResult` takes a closed trade into the record of its
key, `ResetDaily` starts a new trading day, and the remaining operations set, restore or clear
records. `RecordTradeResult` is `rollover`, then `accumulate`, then `transitionLocked`, each a
function of the record alone; the manager adds the deduplication of close events and the map.

The clock is an argument of every operation that reads it. Trading days are UTC, and a time that
is not set is the Go zero time: it lies on a calendar day of its own (`zeroDay`).

A run is a list of deliveries (`deliver`) or of deliveries and daily resets (`step`).
-/

namespace PredictATrade.Realtime

open Lib.Decimal Lib.Runs

/-! ## Calendar days -/

/-- A day in milliseconds. -/
def millisPerDay : ℤ := 86400000

/-- A minute in milliseconds. -/
def millisPerMinute : ℤ := 60000

/-- The day of the zero time, 1 January of year 1, counted from the epoch. -/
def zeroDay : ℤ := -719162

/-- The calendar day of a time. -/
def dayOf : Option Time → ℤ
  | none => zeroDay
  | some t => Int.ediv t millisPerDay

/-- `isSameDay`. -/
def isSameDay (a b : Option Time) : Prop := dayOf a = dayOf b

instance (a b : Option Time) : Decidable (isSameDay a b) := inferInstanceAs (Decidable (_ = _))

/-! ## One record -/

/-- `TradeResult`, without the signal it answers and its breakeven flag, which nothing reads. -/
structure TradeResult where
  accountID : String
  strategyID : StrategyID
  symbol : String
  closeEventID : String
  pnl : Decimal
  isWin : Bool
  isLoss : Bool
  closedAt : Option Time
  tradingDay : Option Time
  deriving DecidableEq, Repr

/-- The key a result is addressed to. -/
def TradeResult.key (result : TradeResult) : AccountStrategyKey :=
  ⟨result.accountID, result.strategyID, result.symbol⟩

/-- A new trading day: the daily counters start again, and a daily limit is over. -/
def StateRecord.newDay (rec : StateRecord) (tradingDay : Option Time) : StateRecord :=
  { rec with
    tradingDay := tradingDay
    dailyLossCount := 0
    dailyLossPercent := 0
    dailyPnL := 0
    recoveryTradesTaken := 0
    recoveryWins := 0
    state := if rec.state = .dailyLimit then .normal else rec.state }

/-- The result carries a trading day, and it is not the record's. -/
def StateRecord.OnNewDay (rec : StateRecord) (result : TradeResult) : Prop :=
  result.tradingDay ≠ none ∧ ¬ isSameDay rec.tradingDay result.tradingDay

instance (rec : StateRecord) (result : TradeResult) : Decidable (rec.OnNewDay result) :=
  inferInstanceAs (Decidable (_ ∧ _))

/-- The check for a trading day rollover. -/
def StateRecord.rollover (rec : StateRecord) (result : TradeResult) : StateRecord :=
  if rec.OnNewDay result then rec.newDay result.tradingDay else rec

/-- A day's profit in percent of the starting equity. `Div` keeps sixteen decimals. -/
def pnlPercent (pnl startingEquity : Decimal) : Float64 :=
  toFloat (roundPlaces 16 (pnl / startingEquity) * 100)

/-- The daily profit and its percentage after the result. -/
def StateRecord.addPnL (rec : StateRecord) (pnl : Decimal) : StateRecord :=
  { rec with
    dailyPnL := rec.dailyPnL + pnl
    dailyLossPercent :=
      if rec.startingEquity ≠ 0 then pnlPercent (rec.dailyPnL + pnl) rec.startingEquity
      else rec.dailyLossPercent }

/-- The loss and win counters after the result. A result that is neither moves none of them. -/
def StateRecord.count (rec : StateRecord) (result : TradeResult) : StateRecord :=
  if result.isLoss then
    { rec with
      consecutiveLosses := rec.consecutiveLosses + 1
      dailyLossCount := rec.dailyLossCount + 1
      lastLossAt := result.closedAt }
  else if result.isWin then
    { rec with
      consecutiveLosses := 0
      recoveryWins := if rec.state = .recovery then rec.recoveryWins + 1 else rec.recoveryWins }
  else rec

/-- Profit, counters and the marks of the last trade. -/
def StateRecord.accumulate (rec : StateRecord) (result : TradeResult) : StateRecord :=
  let counted := (rec.addPnL result.pnl).count result
  { counted with
    lastTradeAt := result.closedAt
    lastCloseEventID :=
      if result.closeEventID ≠ "" then result.closeEventID else counted.lastCloseEventID }

/-- The record with the result counted in, before any transition. -/
def StateRecord.counted (rec : StateRecord) (result : TradeResult) : StateRecord :=
  (rec.rollover result).accumulate result

/-! ## `transitionLocked` -/

/-- The halt has a deadline, and it is past. -/
def StateRecord.haltExpired (rec : StateRecord) (now : Time) : Bool :=
  match rec.haltUntil with
  | none => false
  | some t => decide (t < now)

/-- The text of a halt by the loss of the day. -/
def dailyLossPercentReason (cfg : RecoveryConfig) (rec : StateRecord) : String :=
  "Daily loss limit: " ++ fixedText 2 rec.dailyLossPercent ++ "% <= -" ++
    fixedText 2 cfg.maxDailyLossPercent ++ "%"

/-- The text of a halt by the losses of the day. -/
def dailyLossCountReason (cfg : RecoveryConfig) (rec : StateRecord) : String :=
  "Daily loss count: " ++ toString rec.dailyLossCount ++ " >= " ++ toString cfg.maxDailyLossCount

/-- The text of a halt by the trades of the recovery. -/
def maxRecoveryTradesReason (cfg : RecoveryConfig) (rec : StateRecord) : String :=
  "Max recovery trades: " ++ toString rec.recoveryTradesTaken ++ " >= " ++
    toString cfg.recoveryMaxTrades

/-- The deadline of a halt that starts now. -/
def RecoveryConfig.haltDeadline (cfg : RecoveryConfig) (now : Time) : Time :=
  now + cfg.haltCooldownMinutes * millisPerMinute

/-- In recovery: exit after enough wins, halt after too many trades. -/
def RecoveryConfig.inRecovery (cfg : RecoveryConfig) (now : Time) (rec : StateRecord) :
    StateRecord :=
  if cfg.recoveryExitAfterWins ≤ rec.recoveryWins then
    { rec with
      state := .normal
      recoveryTradesTaken := 0
      recoveryWins := 0
      consecutiveLosses := 0 }
  else if cfg.recoveryMaxTrades ≤ rec.recoveryTradesTaken then
    { rec with
      state := .halted
      haltUntil := some (cfg.haltDeadline now)
      haltReason := maxRecoveryTradesReason cfg rec }
  else rec

/-- The transitions of a record that is not held by a halt: the two daily limits first, then the
loss streak, then recovery. -/
def RecoveryConfig.unhalted (cfg : RecoveryConfig) (now : Time) (rec : StateRecord) :
    StateRecord :=
  if rec.dailyLossPercent ≤ -cfg.maxDailyLossPercent then
    { rec with
      state := .dailyLimit
      haltReason := dailyLossPercentReason cfg rec }
  else if cfg.maxDailyLossCount ≤ rec.dailyLossCount then
    { rec with
      state := .dailyLimit
      haltReason := dailyLossCountReason cfg rec }
  else if cfg.maxConsecutiveLosses ≤ rec.consecutiveLosses ∧ rec.state = .normal then
    { rec with
      state := .recovery
      recoveryTradesTaken := 0
      recoveryWins := 0 }
  else if rec.state = .recovery then cfg.inRecovery now rec
  else rec

/-- A halt that has expired leads into recovery. -/
def StateRecord.liftHalt (rec : StateRecord) : StateRecord :=
  { rec with
    state := .recovery
    haltUntil := none
    haltReason := "" }

/-- `transitionLocked`. -/
def RecoveryConfig.transitionLocked (cfg : RecoveryConfig) (now : Time) (rec : StateRecord) :
    StateRecord :=
  if rec.state = .halted then
    if rec.haltExpired now then cfg.unhalted now rec.liftHalt else rec
  else cfg.unhalted now rec

/-- What `RecordTradeResult` makes of the record of the result's key. -/
def RecoveryConfig.record (cfg : RecoveryConfig) (now : Time) (rec : StateRecord)
    (result : TradeResult) : StateRecord :=
  cfg.transitionLocked now (rec.counted result)

/-! ## The manager -/

namespace RecoveryManager

/-- `NewManager`. -/
def new (cfg : RecoveryConfig) : RecoveryManager := ⟨cfg, fun _ => none, []⟩

/-- `SetStateRecord`. -/
def setStateRecord (m : RecoveryManager) (key : AccountStrategyKey) (rec : StateRecord) :
    RecoveryManager :=
  { m with
    states := Function.update m.states key (some rec) }

/-- The record `getOrCreateStateLocked` works on. -/
def getOrCreate (m : RecoveryManager) (key : AccountStrategyKey) (tradingDay : Option Time)
    (now : Time) : StateRecord :=
  match m.states key with
  | some rec => rec
  | none => { tradingDay := if tradingDay = none then some now else tradingDay }

/-- The close event has an id, and a result with that id has been processed. -/
def Duplicate (m : RecoveryManager) (result : TradeResult) : Prop :=
  result.closeEventID ≠ "" ∧ result.closeEventID ∈ m.processedCloseEvents

instance (m : RecoveryManager) (result : TradeResult) : Decidable (m.Duplicate result) :=
  inferInstanceAs (Decidable (_ ∧ _))

/-- `RecordTradeResult`: the manager after it, and the state it returns. -/
def recordTradeResult (m : RecoveryManager) (now : Time) (result : TradeResult) :
    RecoveryManager × RecoveryState :=
  if m.Duplicate result then (m, m.getState result.key)
  else
    let recorded := m.config.record now (m.getOrCreate result.key result.tradingDay now) result
    ({ m with
        states := Function.update m.states result.key (some recorded)
        processedCloseEvents :=
          if result.closeEventID ≠ "" then result.closeEventID :: m.processedCloseEvents
          else m.processedCloseEvents }, recorded.state)

/-- What `ResetDaily` does to one record. -/
def resetRecord (tradingDay : Option Time) (rec : StateRecord) : StateRecord :=
  if isSameDay rec.tradingDay tradingDay then rec
  else
    { rec.newDay tradingDay with
      haltReason := if rec.state = .dailyLimit then "" else rec.haltReason }

/-- `ResetDaily`. -/
def resetDaily (m : RecoveryManager) (tradingDay : Option Time) : RecoveryManager :=
  { m with
    states := fun key => (m.states key).map (resetRecord tradingDay) }

/-- Change the record of one key, if there is one. -/
def modify (m : RecoveryManager) (key : AccountStrategyKey) (f : StateRecord → StateRecord) :
    RecoveryManager :=
  { m with
    states := Function.update m.states key ((m.states key).map f) }

/-- `IncrementRecoveryTrade`. -/
def incrementRecoveryTrade (m : RecoveryManager) (key : AccountStrategyKey) : RecoveryManager :=
  m.modify key fun rec => { rec with recoveryTradesTaken := rec.recoveryTradesTaken + 1 }

/-- `AllStates`, with the records in the order in which the map is iterated. -/
def allStates (m : RecoveryManager) (keys : List AccountStrategyKey) :
    List (AccountStrategyKey × StateRecord) :=
  keys.filterMap fun key => (m.states key).map fun rec => (key, rec)

/-- `RestoreStates`. -/
def restoreStates (m : RecoveryManager) (records : List (AccountStrategyKey × StateRecord)) :
    RecoveryManager :=
  records.foldl (fun m r => m.setStateRecord r.1 r.2) m

end RecoveryManager

/-! ## Runs -/

/-- A result as it reaches the manager, with the clock at that moment. -/
structure Delivery where
  now : Time
  result : TradeResult
  deriving DecidableEq, Repr

/-- What moves the manager from day to day: a trade result, or `ResetDaily`. -/
inductive TradeInput where
  | result (d : Delivery)
  | reset (tradingDay : Option Time)
  deriving DecidableEq, Repr

namespace RecoveryManager

/-- The manager after a delivery. -/
def deliver (m : RecoveryManager) (d : Delivery) : RecoveryManager :=
  (m.recordTradeResult d.now d.result).1

/-- The manager after a result or a reset. -/
def step (m : RecoveryManager) : TradeInput → RecoveryManager
  | .result d => m.deliver d
  | .reset day => m.resetDaily day

/-! ## What a delivery changes -/

variable {m : RecoveryManager} {d : Delivery} {key : AccountStrategyKey}

theorem deliver_of_duplicate (h : m.Duplicate d.result) : m.deliver d = m := by
  simp only [deliver, recordTradeResult, h, if_true]

@[simp] theorem deliver_config : (m.deliver d).config = m.config := by
  unfold deliver recordTradeResult
  split <;> rfl

/-- The record a delivery leaves under its own key. -/
theorem deliver_states_self (h : ¬ m.Duplicate d.result) :
    (m.deliver d).states d.result.key =
      some (m.config.record d.now (m.getOrCreate d.result.key d.result.tradingDay d.now)
        d.result) := by
  simp only [deliver, recordTradeResult, h, if_false, Function.update_self]

/-- A delivery leaves the records of all other keys alone. -/
theorem deliver_states_of_ne (h : d.result.key ≠ key) : (m.deliver d).states key = m.states key := by
  unfold deliver recordTradeResult
  split
  · rfl
  · exact Function.update_of_ne (Ne.symm h) _ _

/-- A close event is processed when its id was processed before or is the delivered one. -/
theorem mem_processed_deliver {id : String} :
    id ∈ (m.deliver d).processedCloseEvents ↔
      id ∈ m.processedCloseEvents ∨ (id ≠ "" ∧ d.result.closeEventID = id) := by
  by_cases hd : m.Duplicate d.result
  · rw [deliver_of_duplicate hd]
    constructor
    · exact Or.inl
    · rintro (h | ⟨-, rfl⟩)
      · exact h
      · exact hd.2
  · simp only [deliver, recordTradeResult, hd, if_false]
    by_cases he : d.result.closeEventID = ""
    · simp only [he, ne_eq, not_true_eq_false, if_false]
      constructor
      · exact Or.inl
      · rintro (h | ⟨hne, rfl⟩)
        · exact h
        · exact absurd rfl hne
    · simp only [he, ne_eq, not_false_eq_true, if_true, List.mem_cons]
      constructor
      · rintro (rfl | h)
        · exact Or.inr ⟨he, rfl⟩
        · exact Or.inl h
      · rintro (h | ⟨-, rfl⟩)
        · exact Or.inr h
        · exact Or.inl rfl

/-! ## What a run of deliveries changes -/

@[simp] theorem run_deliver_config {es : List Delivery} :
    (run deliver m es).config = m.config := by
  induction es generalizing m with
  | nil => rfl
  | cons d es ih => rw [run_cons, ih, deliver_config]

/-- The ids that were processed in a run. -/
theorem mem_processed_run {es : List Delivery} {id : String} :
    id ∈ (run deliver m es).processedCloseEvents ↔
      id ∈ m.processedCloseEvents ∨ (id ≠ "" ∧ ∃ a ∈ es, a.result.closeEventID = id) := by
  induction es generalizing m with
  | nil => simp only [run_nil, List.not_mem_nil, false_and, exists_false, and_false, or_false]
  | cons d es ih =>
      rw [run_cons, ih, mem_processed_deliver, or_assoc, ← and_or_left]
      simp only [List.mem_cons, exists_eq_or_imp]

end RecoveryManager

/-! ## What the transition changes -/

/-- The transition writes the state, the halt, the streak and the two recovery counters; the rest of
the record it leaves as it was counted. -/
theorem RecoveryConfig.transitionLocked_frame (cfg : RecoveryConfig) (now : Time)
    (r : StateRecord) : ∃ state consecutiveLosses trades wins haltUntil haltReason,
    cfg.transitionLocked now r =
      { r with
        state := state
        consecutiveLosses := consecutiveLosses
        recoveryTradesTaken := trades
        recoveryWins := wins
        haltUntil := haltUntil
        haltReason := haltReason } := by
  have hrec : ∀ r : StateRecord, ∃ state consecutiveLosses trades wins haltUntil haltReason,
      cfg.unhalted now r =
        { r with
          state := state
          consecutiveLosses := consecutiveLosses
          recoveryTradesTaken := trades
          recoveryWins := wins
          haltUntil := haltUntil
          haltReason := haltReason } := by
    intro r
    unfold unhalted inRecovery
    split_ifs <;> exact ⟨_, _, _, _, _, _, rfl⟩
  unfold transitionLocked
  split_ifs
  · obtain ⟨s, c, t, w, u, hr, h⟩ := hrec r.liftHalt
    exact ⟨s, c, t, w, u, hr, h⟩
  · exact ⟨_, _, _, _, _, _, rfl⟩
  · exact hrec r

section Kept

variable {cfg : RecoveryConfig} {now : Time} {r : StateRecord}

@[simp] theorem transitionLocked_dailyLossCount :
    (cfg.transitionLocked now r).dailyLossCount = r.dailyLossCount := by
  obtain ⟨_, _, _, _, _, _, h⟩ := cfg.transitionLocked_frame now r; rw [h]

@[simp] theorem transitionLocked_dailyLossPercent :
    (cfg.transitionLocked now r).dailyLossPercent = r.dailyLossPercent := by
  obtain ⟨_, _, _, _, _, _, h⟩ := cfg.transitionLocked_frame now r; rw [h]

@[simp] theorem transitionLocked_dailyPnL :
    (cfg.transitionLocked now r).dailyPnL = r.dailyPnL := by
  obtain ⟨_, _, _, _, _, _, h⟩ := cfg.transitionLocked_frame now r; rw [h]

@[simp] theorem transitionLocked_lastTradeAt :
    (cfg.transitionLocked now r).lastTradeAt = r.lastTradeAt := by
  obtain ⟨_, _, _, _, _, _, h⟩ := cfg.transitionLocked_frame now r; rw [h]

@[simp] theorem transitionLocked_lastCloseEventID :
    (cfg.transitionLocked now r).lastCloseEventID = r.lastCloseEventID := by
  obtain ⟨_, _, _, _, _, _, h⟩ := cfg.transitionLocked_frame now r; rw [h]

@[simp] theorem transitionLocked_tradingDay :
    (cfg.transitionLocked now r).tradingDay = r.tradingDay := by
  obtain ⟨_, _, _, _, _, _, h⟩ := cfg.transitionLocked_frame now r; rw [h]

end Kept

/-! ## The transition, state by state -/

/-- Neither daily limit is reached. -/
def RecoveryConfig.WithinLimits (cfg : RecoveryConfig) (r : StateRecord) : Prop :=
  ¬ r.dailyLossPercent ≤ -cfg.maxDailyLossPercent ∧ ¬ cfg.maxDailyLossCount ≤ r.dailyLossCount

namespace RecoveryConfig

variable {cfg : RecoveryConfig} {now : Time} {r : StateRecord}

theorem unhalted_of_limit (h : ¬ cfg.WithinLimits r) :
    (cfg.unhalted now r).state = .dailyLimit := by
  unfold unhalted
  by_cases hp : r.dailyLossPercent ≤ -cfg.maxDailyLossPercent
  · rw [if_pos hp]
  · have hc : cfg.maxDailyLossCount ≤ r.dailyLossCount := by
      by_contra hc
      exact h ⟨hp, hc⟩
    rw [if_neg hp, if_pos hc]

theorem unhalted_of_normal (hs : r.state = .normal) (h : cfg.WithinLimits r) :
    cfg.unhalted now r =
      if cfg.maxConsecutiveLosses ≤ r.consecutiveLosses then
        { r with
          state := .recovery
          recoveryTradesTaken := 0
          recoveryWins := 0 }
      else r := by
  unfold unhalted
  rw [if_neg h.1, if_neg h.2]
  by_cases hc : cfg.maxConsecutiveLosses ≤ r.consecutiveLosses
  · rw [if_pos ⟨hc, hs⟩, if_pos hc]
  · rw [if_neg fun hh => hc hh.1, if_neg hc, if_neg (by rw [hs]; decide)]

theorem unhalted_of_recovery (hs : r.state = .recovery) (h : cfg.WithinLimits r) :
    cfg.unhalted now r = cfg.inRecovery now r := by
  unfold unhalted
  have hn : ¬ (cfg.maxConsecutiveLosses ≤ r.consecutiveLosses ∧ r.state = .normal) := by
    rintro ⟨-, hn⟩
    rw [hs] at hn
    cases hn
  rw [if_neg h.1, if_neg h.2, if_neg hn, if_pos hs]

/-- A transition that stays in recovery has nothing to do there. -/
theorem inRecovery_of_state_eq (h : (cfg.inRecovery now r).state = .recovery) :
    cfg.inRecovery now r = r ∧ r.recoveryWins < cfg.recoveryExitAfterWins ∧
      r.recoveryTradesTaken < cfg.recoveryMaxTrades := by
  unfold inRecovery at h ⊢
  by_cases hw : cfg.recoveryExitAfterWins ≤ r.recoveryWins
  · rw [if_pos hw] at h
    cases h
  · by_cases ht : cfg.recoveryMaxTrades ≤ r.recoveryTradesTaken
    · rw [if_neg hw, if_pos ht] at h
      cases h
    · rw [if_neg hw, if_neg ht]
      exact ⟨rfl, not_le.mp hw, not_le.mp ht⟩

theorem inRecovery_of_lt (hw : r.recoveryWins < cfg.recoveryExitAfterWins)
    (ht : r.recoveryTradesTaken < cfg.recoveryMaxTrades) : cfg.inRecovery now r = r := by
  unfold inRecovery
  rw [if_neg (not_le.mpr hw), if_neg (not_le.mpr ht)]

end RecoveryConfig

/-! ## What counting a result changes -/

namespace StateRecord

variable {r : StateRecord} {result : TradeResult}

@[simp] theorem rollover_haltUntil : (r.rollover result).haltUntil = r.haltUntil := by
  unfold rollover; split <;> rfl

@[simp] theorem rollover_lastCloseEventID :
    (r.rollover result).lastCloseEventID = r.lastCloseEventID := by
  unfold rollover; split <;> rfl

@[simp] theorem count_state : (r.count result).state = r.state := by
  unfold count; split_ifs <;> rfl

@[simp] theorem count_lastCloseEventID : (r.count result).lastCloseEventID = r.lastCloseEventID := by
  unfold count; split_ifs <;> rfl

@[simp] theorem count_dailyPnL : (r.count result).dailyPnL = r.dailyPnL := by
  unfold count; split_ifs <;> rfl

@[simp] theorem count_dailyLossPercent :
    (r.count result).dailyLossPercent = r.dailyLossPercent := by
  unfold count; split_ifs <;> rfl

@[simp] theorem count_tradingDay : (r.count result).tradingDay = r.tradingDay := by
  unfold count; split_ifs <;> rfl

@[simp] theorem count_haltUntil : (r.count result).haltUntil = r.haltUntil := by
  unfold count; split_ifs <;> rfl

/-- The id of a recorded result is the record's last one; a result without an id leaves it. -/
theorem lastCloseEventID_record (cfg : RecoveryConfig) (now : Time) (r : StateRecord)
    (result : TradeResult) : (cfg.record now r result).lastCloseEventID =
      if result.closeEventID ≠ "" then result.closeEventID else r.lastCloseEventID := by
  simp only [RecoveryConfig.record, counted, accumulate, addPnL, transitionLocked_lastCloseEventID,
    count_lastCloseEventID, rollover_lastCloseEventID]

end StateRecord

end PredictATrade.Realtime
