import PredictATrade.Realtime.DailyLimit

/-!
# `Realtime.HaltExpiry` — what a halt that is over leads to

A halt that has expired is lifted by the next result of its key, which then goes through the rest of
`transitionLocked` as one of a key in recovery. The counter of recovery trades is still that of the
episode that the halt has ended: unlike the way into recovery from a loss streak, the way out of a halt
does not reset it. So the counter is at its maximum, and the key is halted again by the result that has
lifted its halt.

What can reset the counter is a new day, and what can come before it is the exit after enough wins.
`halt_expiry_along_iff` says that nothing else lets a key out.
-/

namespace PredictATrade.Realtime

open Lib.Runs

/-! ## Calls -/

/-- The calls that change a manager. -/
inductive RecoveryCall where
  | recordTradeResult (d : Delivery)
  | resetDaily (tradingDay : Option Time)
  | incrementRecoveryTrade (key : AccountStrategyKey)
  | setStateRecord (key : AccountStrategyKey) (rec : StateRecord)
  | restoreStates (records : List (AccountStrategyKey × StateRecord))

namespace RecoveryManager

/-- The manager after a call. -/
def call (m : RecoveryManager) : RecoveryCall → RecoveryManager
  | .recordTradeResult d => m.deliver d
  | .resetDaily day => m.resetDaily day
  | .incrementRecoveryTrade key => m.incrementRecoveryTrade key
  | .setStateRecord key rec => m.setStateRecord key rec
  | .restoreStates records => m.restoreStates records

/-- The result is recorded for a key whose halt is over, and reaches no daily limit. -/
structure LiftsHalt (m : RecoveryManager) (d : Delivery) (rec : StateRecord) : Prop where
  recorded : ¬ m.Duplicate d.result
  held : m.states d.result.key = some rec
  halted : rec.state = .halted
  expired : rec.haltExpired d.now = true
  within : ¬ m.config.Breaches rec d.result

end RecoveryManager

/-- The wins of the episode, which a new day has reset. -/
def StateRecord.winsLeft (rec : StateRecord) (result : TradeResult) : ℤ :=
  if rec.OnNewDay result then 0 else rec.recoveryWins

/-- The recovery trades of the episode. -/
def StateRecord.tradesLeft (rec : StateRecord) (result : TradeResult) : ℤ :=
  if rec.OnNewDay result then 0 else rec.recoveryTradesTaken

/-- A result that lifts a halt takes its key to recovery, or back to normal after enough wins. -/
def LeavesHalt (m : RecoveryManager) : RecoveryCall → Prop
  | .recordTradeResult d => ∀ rec, m.LiftsHalt d rec →
      (m.deliver d).getState d.result.key =
        if m.config.recoveryExitAfterWins ≤ rec.winsLeft d.result then .normal else .recovery
  | _ => True

/-- It finds enough wins, or a counter that is below its maximum. -/
def CounterBelow (m : RecoveryManager) : RecoveryCall → Prop
  | .recordTradeResult d => ∀ rec, m.LiftsHalt d rec →
      m.config.recoveryExitAfterWins ≤ rec.winsLeft d.result ∨
        rec.tradesLeft d.result < m.config.recoveryMaxTrades
  | _ => True

/-! ## One record -/

section
variable {cfg : RecoveryConfig} {now : Time} {r : StateRecord} {result : TradeResult}

theorem counted_recoveryTradesTaken :
    (r.counted result).recoveryTradesTaken = r.tradesLeft result := by
  have hcount : ∀ r : StateRecord,
      (r.count result).recoveryTradesTaken = r.recoveryTradesTaken := by
    intro r
    unfold StateRecord.count
    split_ifs <;> rfl
  show (((r.rollover result).addPnL result.pnl).count result).recoveryTradesTaken = _
  rw [hcount]
  unfold StateRecord.tradesLeft
  by_cases h : r.OnNewDay result
  · rw [StateRecord.rollover_of_newDay h, if_pos h]
    rfl
  · rw [StateRecord.rollover_of_sameDay h, if_neg h]
    rfl

/-- A win is not counted while the key is halted. -/
theorem winsWith_of_halted (hs : r.state = .halted) : r.winsWith result = r.winsLeft result := by
  unfold StateRecord.winsWith StateRecord.winsLeft
  rw [if_neg (c := _ ∧ _ ∧ _), add_zero]
  rintro ⟨-, -, hrecovery⟩
  rw [hs] at hrecovery
  cases hrecovery

/-- What a result makes of a key whose halt is over. -/
theorem record_expired_state (hs : r.state = .halted) (hexp : r.haltExpired now = true)
    (hlimit : ¬ cfg.Breaches r result) :
    (cfg.record now r result).state =
      if cfg.recoveryExitAfterWins ≤ r.winsLeft result then .normal
      else if cfg.recoveryMaxTrades ≤ r.tradesLeft result then .halted
      else .recovery := by
  have hstate : (r.counted result).state = .halted := by
    rw [StateRecord.counted_state, if_neg, hs]
    rintro ⟨-, hlimited⟩
    rw [hs] at hlimited
    cases hlimited
  have hexpired : (r.counted result).haltExpired now = true := by
    rw [StateRecord.counted_haltExpired, hexp]
  -- lifting the halt leaves the counters, so the limits are those of the record
  have hwithin : cfg.WithinLimits (r.counted result).liftHalt :=
    RecoveryConfig.withinLimits_counted.mpr hlimit
  have hwins : (r.counted result).liftHalt.recoveryWins = r.winsLeft result := by
    rw [← winsWith_of_halted hs, ← StateRecord.counted_recoveryWins]
    rfl
  have htaken : (r.counted result).liftHalt.recoveryTradesTaken = r.tradesLeft result :=
    counted_recoveryTradesTaken
  unfold RecoveryConfig.record RecoveryConfig.transitionLocked
  rw [if_pos hstate, if_pos hexpired, RecoveryConfig.unhalted_of_recovery rfl hwithin]
  unfold RecoveryConfig.inRecovery
  rw [hwins, htaken]
  split
  · rfl
  · split <;> rfl

/-- The key leaves the halt exactly when the exit comes first or the counter is below its maximum. -/
theorem expired_leaves_iff (hs : r.state = .halted) (hexp : r.haltExpired now = true)
    (hlimit : ¬ cfg.Breaches r result) :
    (cfg.record now r result).state =
        (if cfg.recoveryExitAfterWins ≤ r.winsLeft result then .normal else .recovery) ↔
      cfg.recoveryExitAfterWins ≤ r.winsLeft result ∨
        r.tradesLeft result < cfg.recoveryMaxTrades := by
  rw [record_expired_state hs hexp hlimit]
  by_cases hwins : cfg.recoveryExitAfterWins ≤ r.winsLeft result
  · rw [if_pos hwins, if_pos hwins]
    exact iff_of_true rfl (Or.inl hwins)
  · rw [if_neg hwins, if_neg hwins, or_iff_right hwins]
    by_cases htaken : cfg.recoveryMaxTrades ≤ r.tradesLeft result
    · rw [if_pos htaken]
      exact iff_of_false (by decide) (not_lt.mpr htaken)
    · rw [if_neg htaken]
      exact iff_of_true rfl (not_le.mp htaken)

end

/-! ## Runs -/

theorem deliver_getState {m : RecoveryManager} {d : Delivery} {rec : StateRecord}
    (h : ¬ m.Duplicate d.result) (hrec : m.states d.result.key = some rec) :
    (m.deliver d).getState d.result.key = (m.config.record d.now rec d.result).state := by
  have hfound : m.getOrCreate d.result.key d.result.tradingDay d.now = rec := by
    unfold RecoveryManager.getOrCreate
    rw [hrec]
  unfold RecoveryManager.getState
  rw [RecoveryManager.deliver_states_self h, hfound]

/-- The step lemma. -/
theorem leavesHalt_iff (m : RecoveryManager) (c : RecoveryCall) : LeavesHalt m c ↔ CounterBelow m c := by
  cases c with
  | recordTradeResult d =>
      refine forall_congr' fun rec => imp_congr_right fun h => ?_
      rw [deliver_getState h.recorded h.held]
      exact expired_leaves_iff h.halted h.expired h.within
  | resetDaily day => exact Iff.rfl
  | incrementRecoveryTrade key => exact Iff.rfl
  | setStateRecord key rec => exact Iff.rfl
  | restoreStates records => exact Iff.rfl

/-- **Halt expiry.** In a run of calls, every result that lifts a halt takes its key out of it exactly when
every such result finds enough wins or a counter below its maximum. -/
theorem halt_expiry_along_iff (m : RecoveryManager) (cs : List RecoveryCall) :
    Along RecoveryManager.call LeavesHalt m cs ↔ Along RecoveryManager.call CounterBelow m cs := by
  refine along_congr (I := fun _ => True) (fun _ _ h => h) ?_ trivial
  intro m c _
  exact leavesHalt_iff m c

open RecoveryManager

instance RecoveryConfig.decidableBreaches (cfg : RecoveryConfig) (rec : StateRecord)
    (result : TradeResult) : Decidable (cfg.Breaches rec result) :=
  inferInstanceAs (Decidable (rec.lossPercentWith result ≤ -cfg.maxDailyLossPercent ∨
    cfg.maxDailyLossCount ≤ rec.lossCountWith result))

/-- A breakeven of the same Monday, recorded the given number of milliseconds after noon. -/
def breakevenAfter (millis : ℤ) (closeEventID : String) : Delivery :=
  { now := 1788782400000 + millis
    result :=
      { (lossOfTen "acc1" closeEventID).result with
        isLoss := false
        pnl := 0 } }

/-- Two losses bring recovery, and the breakeven after three recovery trades brings the halt, for an hour. -/
def halting : List RecoveryCall :=
  [.recordTradeResult (lossOfTen "acc1" "c1"), .recordTradeResult (lossOfTen "acc1" "c2"),
    .incrementRecoveryTrade (lossOfTen "acc1" "c1").result.key,
    .incrementRecoveryTrade (lossOfTen "acc1" "c1").result.key,
    .incrementRecoveryTrade (lossOfTen "acc1" "c1").result.key,
    .recordTradeResult (breakevenAfter 0 "c3")]

/-- The next breakeven comes two hours later, lifts the halt and is halted again, with no limit reached. -/
theorem expired_halt_renewed :
    ((run RecoveryManager.call (new {}) halting).states (lossOfTen "acc1" "c1").result.key).map
        (fun rec => (rec.state, rec.haltExpired (breakevenAfter 7200000 "c4").now)) =
          some (.halted, true) ∧
      (run RecoveryManager.call (new {})
        (halting ++ [.recordTradeResult (breakevenAfter 7200000 "c4")])).getState
          (lossOfTen "acc1" "c1").result.key = .halted ∧
      ¬ Along RecoveryManager.call LeavesHalt (new {})
        (halting ++ [.recordTradeResult (breakevenAfter 7200000 "c4")]) := by
  have hheld : ((run RecoveryManager.call (new {}) halting).states
      (lossOfTen "acc1" "c1").result.key).map
        (fun rec => (rec.state, rec.haltExpired (breakevenAfter 7200000 "c4").now)) =
          some (.halted, true) := by decide +kernel
  have hafter : (run RecoveryManager.call (new {})
      (halting ++ [.recordTradeResult (breakevenAfter 7200000 "c4")])).getState
        (lossOfTen "acc1" "c1").result.key = .halted := by decide +kernel
  have hfresh : ¬ (run RecoveryManager.call (new {}) halting).Duplicate
      (breakevenAfter 7200000 "c4").result := by decide +kernel
  have hwithin : ((run RecoveryManager.call (new {}) halting).states
      (lossOfTen "acc1" "c1").result.key).map
        (fun rec => decide ((run RecoveryManager.call (new {}) halting).config.Breaches rec
          (breakevenAfter 7200000 "c4").result)) = some false := by decide +kernel
  refine ⟨hheld, hafter, fun h => ?_⟩
  obtain ⟨rec, hrec, hfields⟩ := Option.map_eq_some_iff.mp hheld
  rw [Prod.mk.injEq] at hfields
  rw [hrec, Option.map_some, Option.some.injEq, decide_eq_false_iff_not] at hwithin
  have hleaves := (along_append.mp h).2.1 rec
    ⟨hfresh, hrec, hfields.1, hfields.2, hwithin⟩
  rw [run_snoc] at hafter
  have hstate : ((run RecoveryManager.call (new {}) halting).deliver
      (breakevenAfter 7200000 "c4")).getState (breakevenAfter 7200000 "c4").result.key = .halted := hafter
  rw [hstate] at hleaves
  split at hleaves <;> cases hleaves

end PredictATrade.Realtime
