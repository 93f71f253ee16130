import PredictATrade.Realtime.Isolation

/-!
# `Realtime.Restart` — results that are delivered again

A restart keeps the records (`AllStates`, `RestoreStates`) and forgets the processed close events.
So a result that was processed before the restart is recorded a second time after it, and what it
then does to the record decides whether the restart was safe:

* `record_eq_self_iff`: a result leaves a record as it is exactly when it is `Idle` on it;
* `restart_safe_iff`: re-delivery after a restart changes no record, and neither does re-delivery
  without one, exactly when every result is idle on the record of its key or comes with an id that
  the new manager has processed itself.
-/

namespace PredictATrade.Realtime

open Lib.Runs

/-! ## Records a transition leaves alone -/

/-- An expired halt whose recovery has run out of trades again: the transition sets a new halt, and
it is the one that is there. This takes a negative halt cooldown. -/
structure RecoveryConfig.Renews (cfg : RecoveryConfig) (now : Time) (r : StateRecord) : Prop where
  within : cfg.WithinLimits r
  wins : r.recoveryWins < cfg.recoveryExitAfterWins
  trades : cfg.recoveryMaxTrades ≤ r.recoveryTradesTaken
  deadline : r.haltUntil = some (cfg.haltDeadline now)
  reason : r.haltReason = maxRecoveryTradesReason cfg r

/-- The reason that the limit in force would write is the one that is there. -/
def RecoveryConfig.LimitReasonCurrent (cfg : RecoveryConfig) (r : StateRecord) : Prop :=
  if r.dailyLossPercent ≤ -cfg.maxDailyLossPercent then
    r.haltReason = dailyLossPercentReason cfg r
  else if cfg.maxDailyLossCount ≤ r.dailyLossCount then
    r.haltReason = dailyLossCountReason cfg r
  else True

/-- No transition is due. -/
def RecoveryConfig.Settled (cfg : RecoveryConfig) (now : Time) (r : StateRecord) : Prop :=
  match r.state with
  | .normal => cfg.WithinLimits r ∧ r.consecutiveLosses < cfg.maxConsecutiveLosses
  | .recovery => cfg.WithinLimits r ∧ r.recoveryWins < cfg.recoveryExitAfterWins ∧
      r.recoveryTradesTaken < cfg.recoveryMaxTrades
  | .halted => r.haltExpired now = true → cfg.Renews now r
  | .dailyLimit => cfg.LimitReasonCurrent r

namespace RecoveryConfig

variable {cfg : RecoveryConfig} {now : Time} {r : StateRecord}

/-! ## Which records are left alone -/

/-- Only a record in the daily limit is left alone beyond the limits. -/
theorem within_of_unhalted_eq (hs : r.state ≠ .dailyLimit) (h : cfg.unhalted now r = r) :
    cfg.WithinLimits r := by
  by_contra hl
  have hd : (cfg.unhalted now r).state = .dailyLimit := unhalted_of_limit hl
  rw [h] at hd
  exact hs hd

/-- When a normal record stays as it is. -/
theorem normal_eq_self_iff (hs : r.state = .normal) :
    cfg.unhalted now r = r ↔
      cfg.WithinLimits r ∧ r.consecutiveLosses < cfg.maxConsecutiveLosses := by
  by_cases hl : cfg.WithinLimits r
  · rw [unhalted_of_normal hs hl]
    by_cases hc : cfg.maxConsecutiveLosses ≤ r.consecutiveLosses
    · rw [if_pos hc]
      constructor
      · intro h
        rw [← h] at hs
        cases hs
      · intro h
        exact absurd hc (not_le.mpr h.2)
    · rw [if_neg hc]
      exact iff_of_true rfl ⟨hl, not_le.mp hc⟩
  · refine iff_of_false (fun h => hl (within_of_unhalted_eq ?_ h)) fun h => hl h.1
    rw [hs]
    decide

/-- When a record in recovery stays as it is. -/
theorem recovery_eq_self_iff (hs : r.state = .recovery) :
    cfg.unhalted now r = r ↔
      cfg.WithinLimits r ∧ r.recoveryWins < cfg.recoveryExitAfterWins ∧
        r.recoveryTradesTaken < cfg.recoveryMaxTrades := by
  by_cases hl : cfg.WithinLimits r
  · rw [unhalted_of_recovery hs hl]
    constructor
    · intro h
      exact ⟨hl, (inRecovery_of_state_eq (by rw [h, hs])).2⟩
    · rintro ⟨-, hw, ht⟩
      exact inRecovery_of_lt hw ht
  · refine iff_of_false (fun h => hl (within_of_unhalted_eq ?_ h)) fun h => hl h.1
    rw [hs]
    decide

/-- When a record at its limit of the day stays as it is. -/
theorem dailyLimit_eq_self_iff (hs : r.state = .dailyLimit) :
    cfg.unhalted now r = r ↔ cfg.LimitReasonCurrent r := by
  have hset : ∀ reason, { r with state := .dailyLimit, haltReason := reason } = r ↔
      r.haltReason = reason := by
    intro reason
    constructor
    · intro h
      rw [← h]
    · intro h
      rw [← h, ← hs]
  unfold unhalted LimitReasonCurrent
  by_cases hp : r.dailyLossPercent ≤ -cfg.maxDailyLossPercent
  · rw [if_pos hp, if_pos hp, hset]
  · by_cases hc : cfg.maxDailyLossCount ≤ r.dailyLossCount
    · rw [if_neg hp, if_neg hp, if_pos hc, if_pos hc, hset]
    · rw [if_neg hp, if_neg hp, if_neg hc, if_neg hc, if_neg (by rw [hs]; simp),
        if_neg (by rw [hs]; simp)]
      exact iff_of_true rfl trivial

/-- When a halted record stays as it is. -/
theorem halted_eq_self_iff (hs : r.state = .halted) :
    cfg.unhalted now r.liftHalt = r ↔ cfg.Renews now r := by
  have hlim : cfg.WithinLimits r.liftHalt ↔ cfg.WithinLimits r := Iff.rfl
  by_cases hl : cfg.WithinLimits r
  · rw [unhalted_of_recovery rfl (hlim.mpr hl)]
    unfold inRecovery
    show (if cfg.recoveryExitAfterWins ≤ r.recoveryWins then _ else
      if cfg.recoveryMaxTrades ≤ r.recoveryTradesTaken then _ else _) = r ↔ _
    by_cases hw : cfg.recoveryExitAfterWins ≤ r.recoveryWins
    · rw [if_pos hw]
      constructor
      · intro h
        rw [← h] at hs
        cases hs
      · intro h
        exact absurd hw (not_le.mpr h.wins)
    · rw [if_neg hw]
      by_cases ht : cfg.recoveryMaxTrades ≤ r.recoveryTradesTaken
      · rw [if_pos ht]
        constructor
        · intro h
          have hu := congrArg StateRecord.haltUntil h
          have hr := congrArg StateRecord.haltReason h
          exact ⟨hl, not_le.mp hw, ht, hu.symm, hr.symm⟩
        · rintro ⟨-, -, -, hu, hr⟩
          have hr' : r.haltReason = maxRecoveryTradesReason cfg r.liftHalt := hr
          rw [← hu, ← hr', ← hs]
          rfl
      · rw [if_neg ht]
        constructor
        · intro h
          rw [← h] at hs
          cases hs
        · intro h
          exact absurd h.trades ht
  · constructor
    · intro h
      have hd : (cfg.unhalted now r.liftHalt).state = .dailyLimit :=
        unhalted_of_limit (mt hlim.mp hl)
      rw [h, hs] at hd
      cases hd
    · intro h
      exact absurd h.within hl

/-- A transition leaves a record as it is exactly when none is due. -/
theorem transitionLocked_eq_self_iff : cfg.transitionLocked now r = r ↔ cfg.Settled now r := by
  unfold transitionLocked Settled
  cases hs : r.state with
  | normal => rw [if_neg (by simp)]; exact normal_eq_self_iff hs
  | recovery => rw [if_neg (by simp)]; exact recovery_eq_self_iff hs
  | dailyLimit => rw [if_neg (by simp)]; exact dailyLimit_eq_self_iff hs
  | halted =>
      rw [if_pos rfl]
      cases he : r.haltExpired now with
      | true => simp only [if_true, forall_const]; exact halted_eq_self_iff hs
      | false => simp

end RecoveryConfig

/-! ## Results that change nothing -/

/-- The result changes nothing in the record: it is of the record's day, it is the record's last one,
it neither earns nor loses, it ends no streak, and no transition is due. -/
structure StateRecord.Idle (cfg : RecoveryConfig) (now : Time) (r : StateRecord)
    (result : TradeResult) : Prop where
  sameDay : ¬ r.OnNewDay result
  noPnL : result.pnl = 0
  percentCurrent : r.startingEquity ≠ 0 →
    r.dailyLossPercent = pnlPercent r.dailyPnL r.startingEquity
  noLoss : result.isLoss = false
  winOutsideStreak : result.isWin = true → r.consecutiveLosses = 0 ∧ r.state ≠ .recovery
  lastTrade : r.lastTradeAt = result.closedAt
  lastEvent : result.closeEventID = "" ∨ r.lastCloseEventID = result.closeEventID
  settled : cfg.Settled now r

namespace StateRecord

variable {cfg : RecoveryConfig} {now : Time} {r : StateRecord} {result : TradeResult}

/-- Without a transition due, counting the result is all that recording it does. -/
theorem counted_eq_self (hday : ¬ r.OnNewDay result) (hpnl : result.pnl = 0)
    (hpct : r.startingEquity ≠ 0 → r.dailyLossPercent = pnlPercent r.dailyPnL r.startingEquity)
    (hloss : result.isLoss = false)
    (hwin : result.isWin = true → r.consecutiveLosses = 0 ∧ r.state ≠ .recovery)
    (htrade : r.lastTradeAt = result.closedAt)
    (hid : result.closeEventID = "" ∨ r.lastCloseEventID = result.closeEventID) :
    r.counted result = r := by
  have hadd : r.addPnL result.pnl = r := by
    unfold addPnL
    rw [hpnl, add_zero]
    by_cases he : r.startingEquity ≠ 0
    · rw [if_pos he, ← hpct he]
    · rw [if_neg he]
  have hcount : r.count result = r := by
    unfold count
    rw [hloss, if_neg Bool.false_ne_true]
    cases hw : result.isWin with
    | false => rw [if_neg Bool.false_ne_true]
    | true =>
        obtain ⟨hc, hs⟩ := hwin hw
        rw [if_pos rfl, if_neg hs, ← hc]
  have hlast : (if result.closeEventID ≠ "" then result.closeEventID else r.lastCloseEventID) =
      r.lastCloseEventID := by
    by_cases he : result.closeEventID ≠ ""
    · rw [if_pos he, hid.resolve_left he]
    · rw [if_neg he]
  unfold counted rollover accumulate
  rw [if_neg hday, hadd, hcount, ← htrade]
  simp only [hlast]

/-- A win counted in recovery moves the record: into NORMAL, into another state, or by one win. -/
theorem record_ne_self_of_win (hday : ¬ r.OnNewDay result) (hloss : result.isLoss = false)
    (hwin : result.isWin = true) (hs : r.state = .recovery) : cfg.record now r result ≠ r := by
  intro h
  have hc : (r.counted result).state = .recovery := by
    simp only [counted, accumulate, count_state, rollover, if_neg hday, addPnL, hs]
  have hwins : (r.counted result).recoveryWins = r.recoveryWins + 1 := by
    simp only [counted, accumulate, count, rollover, if_neg hday, addPnL, hs, hloss, hwin,
      Bool.false_eq_true, if_false, if_true]
  have htr : cfg.transitionLocked now (r.counted result) = cfg.unhalted now (r.counted result) := by
    unfold RecoveryConfig.transitionLocked
    rw [if_neg (by rw [hc]; decide)]
  have hstate : (cfg.unhalted now (r.counted result)).state = .recovery := by
    rw [← htr, ← hs]
    exact congrArg StateRecord.state h
  have hself : cfg.unhalted now (r.counted result) = r.counted result := by
    have hl : cfg.WithinLimits (r.counted result) := by
      by_contra hl
      rw [RecoveryConfig.unhalted_of_limit hl] at hstate
      cases hstate
    rw [RecoveryConfig.unhalted_of_recovery hc hl] at hstate ⊢
    exact (RecoveryConfig.inRecovery_of_state_eq hstate).1
  have : (r.counted result).recoveryWins = r.recoveryWins := by
    rw [← hself, ← htr]
    exact congrArg StateRecord.recoveryWins h
  omega

/-- A win leaves no streak behind, whatever the transition does then. -/
theorem consecutiveLosses_record_of_win (hloss : result.isLoss = false)
    (hwin : result.isWin = true) : (cfg.record now r result).consecutiveLosses = 0 := by
  have hc : (r.counted result).consecutiveLosses = 0 := by
    simp only [counted, accumulate, count, hloss, hwin, Bool.false_eq_true, if_false, if_true]
  have hkeep : ∀ r : StateRecord, r.consecutiveLosses = 0 →
      (cfg.unhalted now r).consecutiveLosses = 0 := by
    intro r hr
    unfold RecoveryConfig.unhalted RecoveryConfig.inRecovery
    split_ifs <;> first | exact hr | rfl
  unfold RecoveryConfig.record RecoveryConfig.transitionLocked
  split_ifs
  · exact hkeep _ hc
  · exact hc
  · exact hkeep _ hc

/-- **A result changes nothing exactly when it is idle.** -/
theorem record_eq_self_iff : cfg.record now r result = r ↔ r.Idle cfg now result := by
  constructor
  · intro h
    -- the fields that counting writes and no transition does
    have hcount := congrArg StateRecord.dailyLossCount h
    have hpnl := congrArg StateRecord.dailyPnL h
    have hpct := congrArg StateRecord.dailyLossPercent h
    have htrade := congrArg StateRecord.lastTradeAt h
    have hday := congrArg StateRecord.tradingDay h
    have hid := congrArg StateRecord.lastCloseEventID h
    rw [lastCloseEventID_record] at hid
    simp only [RecoveryConfig.record, transitionLocked_dailyLossCount, transitionLocked_dailyPnL,
      transitionLocked_dailyLossPercent, transitionLocked_lastTradeAt,
      transitionLocked_tradingDay, counted, accumulate, count_dailyPnL, count_dailyLossPercent,
      count_tradingDay, addPnL] at hcount hpnl hpct htrade hday
    have hsame : ¬ r.OnNewDay result := by
      intro hn
      rw [rollover, if_pos hn] at hday
      have hd : result.tradingDay = r.tradingDay := hday
      exact hn.2 (by rw [hd]; rfl)
    simp only [rollover, if_neg hsame] at hcount hpnl hpct
    have hzero : result.pnl = 0 := by linarith
    have hloss : result.isLoss = false := by
      cases hl : result.isLoss with
      | false => rfl
      | true =>
          simp only [count, hl, if_true] at hcount
          omega
    have hwin : result.isWin = true → r.consecutiveLosses = 0 ∧ r.state ≠ .recovery := by
      intro hw
      constructor
      · rw [← h]
        exact consecutiveLosses_record_of_win hloss hw
      · intro hs
        exact record_ne_self_of_win hsame hloss hw hs h
    have hcur : r.startingEquity ≠ 0 →
        r.dailyLossPercent = pnlPercent r.dailyPnL r.startingEquity := by
      intro he
      rw [if_pos he, hpnl] at hpct
      exact hpct.symm
    have hlast : result.closeEventID = "" ∨ r.lastCloseEventID = result.closeEventID := by
      by_cases he : result.closeEventID = ""
      · exact Or.inl he
      · rw [if_pos he] at hid
        exact Or.inr hid.symm
    refine ⟨hsame, hzero, hcur, hloss, hwin, htrade.symm, hlast, ?_⟩
    apply RecoveryConfig.transitionLocked_eq_self_iff.mp
    unfold RecoveryConfig.record at h
    rw [counted_eq_self hsame hzero hcur hloss hwin htrade.symm hlast] at h
    exact h
  · rintro ⟨hsame, hzero, hcur, hloss, hwin, htrade, hlast, hset⟩
    unfold RecoveryConfig.record
    rw [counted_eq_self hsame hzero hcur hloss hwin htrade hlast]
    exact RecoveryConfig.transitionLocked_eq_self_iff.mpr hset

end StateRecord

/-! ## The restart -/

namespace RecoveryManager

variable {m m₀ : RecoveryManager} {d : Delivery} {keys : List AccountStrategyKey}

/-- An order in which the map of records is iterated. -/
structure Iterates (m : RecoveryManager) (keys : List AccountStrategyKey) : Prop where
  nodup : keys.Nodup
  complete : ∀ key, key ∈ keys ↔ (m.states key).isSome = true

theorem iterates_new (cfg : RecoveryConfig) : (new cfg).Iterates [] :=
  ⟨List.nodup_nil, fun key => by simp [new]⟩

/-- There are always finitely many records: a delivery adds at most its own key. -/
theorem Iterates.deliver (h : m.Iterates keys) (d : Delivery) :
    ∃ keys', (m.deliver d).Iterates keys' := by
  by_cases hd : m.Duplicate d.result
  · rw [deliver_of_duplicate hd]
    exact ⟨keys, h⟩
  · have hother : ∀ key, d.result.key ≠ key →
        ((m.deliver d).states key).isSome = (m.states key).isSome := by
      intro key hk
      rw [deliver_states_of_ne hk]
    have hself : ((m.deliver d).states d.result.key).isSome = true := by
      rw [deliver_states_self hd]
      rfl
    by_cases hk : d.result.key ∈ keys
    · refine ⟨keys, h.nodup, fun key => ?_⟩
      by_cases he : d.result.key = key
      · subst he
        exact iff_of_true hk hself
      · rw [hother key he]
        exact h.complete key
    · refine ⟨d.result.key :: keys, List.nodup_cons.mpr ⟨hk, h.nodup⟩, fun key => ?_⟩
      by_cases he : d.result.key = key
      · subst he
        exact iff_of_true List.mem_cons_self hself
      · rw [hother key he, ← h.complete key, List.mem_cons]
        exact or_iff_right (Ne.symm he)

/-- The records of a manager can be listed after any run from its start. -/
theorem iterates_run (cfg : RecoveryConfig) (ds : List Delivery) :
    ∃ keys, (run deliver (new cfg) ds).Iterates keys := by
  refine run_keeps (I := fun m : RecoveryManager => ∃ keys, m.Iterates keys) ?_
    ⟨[], iterates_new cfg⟩ ds
  rintro m d ⟨keys, h⟩
  exact h.deliver d

/-- The manager that starts from what the old one had persisted. -/
def restart (m : RecoveryManager) (keys : List AccountStrategyKey) : RecoveryManager :=
  (new m.config).restoreStates (m.allStates keys)

/-- Restoring puts each listed record under its key, and keeps the configuration and the events. -/
theorem restoreStates_allStates (m₁ : RecoveryManager) :
    (m₁.restoreStates (m.allStates keys)).config = m₁.config ∧
      (m₁.restoreStates (m.allStates keys)).processedCloseEvents = m₁.processedCloseEvents ∧
      ∀ key, (m₁.restoreStates (m.allStates keys)).states key =
        if key ∈ keys ∧ (m.states key).isSome = true then m.states key else m₁.states key := by
  induction keys generalizing m₁ with
  | nil => exact ⟨rfl, rfl, fun key => by simp [allStates, restoreStates]⟩
  | cons k keys ih =>
      cases hk : m.states k with
      | none =>
          have hall : m.allStates (k :: keys) = m.allStates keys := by
            simp only [allStates, List.filterMap_cons, hk, Option.map_none]
          rw [hall]
          refine ⟨(ih m₁).1, (ih m₁).2.1, fun key => ?_⟩
          rw [(ih m₁).2.2 key]
          by_cases he : key = k
          · subst he
            simp [hk]
          · simp [he]
      | some r =>
          have hall : m.allStates (k :: keys) = (k, r) :: m.allStates keys := by
            simp only [allStates, List.filterMap_cons, hk, Option.map_some]
          rw [hall]
          have hstep : m₁.restoreStates ((k, r) :: m.allStates keys) =
              (m₁.setStateRecord k r).restoreStates (m.allStates keys) := rfl
          rw [hstep]
          refine ⟨(ih _).1, (ih _).2.1, fun key => ?_⟩
          rw [(ih _).2.2 key]
          by_cases he : key = k
          · subst he
            simp [hk, setStateRecord]
          · simp [he, setStateRecord]

/-- A restart keeps every record. -/
theorem restart_states (h : m.Iterates keys) : (m.restart keys).states = m.states := by
  funext key
  rw [restart, (restoreStates_allStates _).2.2 key]
  by_cases hs : (m.states key).isSome = true
  · rw [if_pos ⟨(h.complete key).mpr hs, hs⟩]
  · rw [if_neg fun hh => hs hh.2]
    simp only [Option.isSome_iff_ne_none, ne_eq, not_not] at hs
    exact hs.symm

@[simp] theorem restart_config : (m.restart keys).config = m.config :=
  (restoreStates_allStates (new m.config)).1

/-- A restart forgets the processed close events. -/
@[simp] theorem restart_processed : (m.restart keys).processedCloseEvents = [] :=
  (restoreStates_allStates (new m.config)).2.1

/-! ## Re-delivery -/

/-- What one delivery leaves alone: everything, if it is a duplicate or idle on its record. -/
theorem deliver_states_eq_iff : (m.deliver d).states = m.states ↔
    m.Duplicate d.result ∨
      ∃ r, m.states d.result.key = some r ∧ r.Idle m.config d.now d.result := by
  by_cases hd : m.Duplicate d.result
  · rw [deliver_of_duplicate hd]
    exact iff_of_true rfl (Or.inl hd)
  · rw [or_iff_right hd]
    constructor
    · intro h
      have hself := congrFun h d.result.key
      rw [deliver_states_self hd] at hself
      cases hr : m.states d.result.key with
      | none =>
          rw [hr] at hself
          cases hself
      | some r =>
          have hget : m.getOrCreate d.result.key d.result.tradingDay d.now = r := by
            simp only [getOrCreate, hr]
          rw [hr, hget, Option.some.injEq] at hself
          exact ⟨r, rfl, StateRecord.record_eq_self_iff.mp hself⟩
    · rintro ⟨r, hr, hidle⟩
      funext key
      by_cases hk : d.result.key = key
      · subst hk
        rw [deliver_states_self hd]
        simp only [getOrCreate, hr]
        rw [StateRecord.record_eq_self_iff.mpr hidle]
      · exact deliver_states_of_ne hk

/-- After a restart, and just so without one, delivering the results again changes no record. -/
def RestartSafe (m : RecoveryManager) (keys : List AccountStrategyKey) (ds : List Delivery) :
    Prop :=
  ∀ pre, pre <+: ds →
    (run deliver (m.restart keys) pre).states = m.states ∧ (run deliver m pre).states = m.states

/-- Each result that is delivered again is idle on the record of its key, unless its id has already
been delivered again. -/
def Harmless (m : RecoveryManager) (ds : List Delivery) : Prop :=
  ∀ pre d, pre ++ [d] <+: ds →
    (d.result.closeEventID ≠ "" ∧
      ∃ a ∈ pre, a.result.closeEventID = d.result.closeEventID) ∨
    ∃ r, m.states d.result.key = some r ∧ r.Idle m.config d.now d.result

/-- A result is a duplicate for the restarted manager when its id came again since the restart. -/
theorem duplicate_restart_iff {pre : List Delivery} {result : TradeResult} :
    (run deliver (m.restart keys) pre).Duplicate result ↔
      result.closeEventID ≠ "" ∧ ∃ a ∈ pre, a.result.closeEventID = result.closeEventID := by
  unfold Duplicate
  rw [mem_processed_run, restart_processed]
  simp only [List.not_mem_nil, false_or]
  constructor
  · rintro ⟨he, -, ha⟩
    exact ⟨he, ha⟩
  · rintro ⟨he, ha⟩
    exact ⟨he, he, ha⟩

/-- **Restart safety, exactly.** After any run, delivering processed results again leaves the records
alone, with a restart in between as without one, if and only if the results are harmless. -/
theorem restart_safe_iff (m₀ : RecoveryManager) (es ds : List Delivery)
    (keys : List AccountStrategyKey) (hkeys : (run deliver m₀ es).Iterates keys)
    (hds : ∀ d ∈ ds, ∃ e ∈ es, e.result = d.result) :
    (run deliver m₀ es).RestartSafe keys ds ↔ (run deliver m₀ es).Harmless ds := by
  set m := run deliver m₀ es with hm
  have hstates := restart_states hkeys
  constructor
  · intro h pre d hp
    have hpre := (h pre ((List.prefix_append _ _).trans hp)).1
    have hall := (h (pre ++ [d]) hp).1
    rw [run_snoc, ← hpre] at hall
    rcases deliver_states_eq_iff.mp hall with hdup | ⟨r, hr, hidle⟩
    · exact Or.inl (duplicate_restart_iff.mp hdup)
    · rw [hpre] at hr
      rw [run_deliver_config, restart_config] at hidle
      exact Or.inr ⟨r, hr, hidle⟩
  · intro h pre hp
    induction pre using List.reverseRecOn with
    | nil => exact ⟨hstates, rfl⟩
    | append_singleton pre d ih =>
        obtain ⟨hre, hno⟩ := ih ((List.prefix_append _ _).trans hp)
        constructor
        · rw [run_snoc, ← hre, deliver_states_eq_iff, hre, run_deliver_config, restart_config,
            duplicate_restart_iff]
          exact h pre d hp
        · rw [run_snoc, ← hno, deliver_states_eq_iff, hno, run_deliver_config]
          by_cases he : d.result.closeEventID = ""
          · rcases h pre d hp with ⟨hne, -⟩ | hidle
            · exact absurd he hne
            · exact Or.inr hidle
          · -- the old manager has processed the id
            obtain ⟨e, hmem, heq⟩ := hds d (hp.subset (List.mem_append_right _ List.mem_cons_self))
            refine Or.inl ⟨he, mem_processed_run.mpr (Or.inl ?_)⟩
            rw [hm, mem_processed_run]
            exact Or.inr ⟨he, e, hmem, by rw [heq]⟩

/-- A restart after one loss. -/
theorem restart_safe_iff_idle_event :
    (run deliver (new {}) [lossOfTen "acc1" "c1"]).RestartSafe [(lossOfTen "acc1" "c1").result.key]
        [lossOfTen "acc1" "c1"] ↔
      (run deliver (new {}) [lossOfTen "acc1" "c1"]).Harmless [lossOfTen "acc1" "c1"] := by
  refine restart_safe_iff (new {}) _ _ _ ⟨List.nodup_cons.mpr ⟨List.not_mem_nil, List.nodup_nil⟩, fun key => ?_⟩ ?_
  · by_cases hk : (lossOfTen "acc1" "c1").result.key = key
    · subst hk
      exact iff_of_true List.mem_cons_self (by decide +kernel)
    · rw [run_cons, run_nil, deliver_states_of_ne hk, List.mem_singleton]
      exact iff_of_false (Ne.symm hk) (by simp [new])
  · intro d hd
    exact ⟨d, hd, rfl⟩

/-- One loss, delivered again after a restart, counts as two; without the restart it is dropped. -/
theorem redelivered_loss_counts_twice :
    ((run deliver (new {}) [lossOfTen "acc1" "c1", lossOfTen "acc1" "c1"]).states
        (lossOfTen "acc1" "c1").result.key).map StateRecord.consecutiveLosses = some 1 ∧
      ((run deliver ((run deliver (new {}) [lossOfTen "acc1" "c1"]).restart
        [(lossOfTen "acc1" "c1").result.key]) [lossOfTen "acc1" "c1"]).states
          (lossOfTen "acc1" "c1").result.key).map StateRecord.consecutiveLosses = some 2 ∧
      ¬ (run deliver (new {}) [lossOfTen "acc1" "c1"]).RestartSafe
        [(lossOfTen "acc1" "c1").result.key] [lossOfTen "acc1" "c1"] := by
  have htwice : ((run deliver ((run deliver (new {}) [lossOfTen "acc1" "c1"]).restart
      [(lossOfTen "acc1" "c1").result.key]) [lossOfTen "acc1" "c1"]).states
        (lossOfTen "acc1" "c1").result.key).map StateRecord.consecutiveLosses = some 2 := by
    decide +kernel
  have honce : ((run deliver (new {}) [lossOfTen "acc1" "c1"]).states
      (lossOfTen "acc1" "c1").result.key).map StateRecord.consecutiveLosses = some 1 := by
    decide +kernel
  refine ⟨by decide +kernel, htwice, fun h => ?_⟩
  rw [(h _ List.prefix_rfl).1, honce] at htwice
  simp at htwice

end RecoveryManager

end PredictATrade.Realtime
