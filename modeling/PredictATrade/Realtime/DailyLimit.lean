import PredictATrade.Realtime.Isolation

/-!
# `Realtime.DailyLimit` — rollovers, the daily limit and the loss streak

A new trading day clears the daily counters and lifts a daily limit. What counts as new is any day
but the record's: `RecordTradeResult` and `ResetDaily` compare days for inequality. Two properties
of whole runs depend on it, and both are settled by what one input does to one record:

* `limit_stays_iff`: under a daily limit of day `D` a key stays there until an input of a later day,
  *exactly* when no input of another day that is not later releases it;
* `streak_below_iff`: a key in NORMAL is below its loss streak in every state of a run, *exactly*
  when no reset lifts a daily limit off a key that has reached the streak, and no recovery ends under
  a configuration that allows no loss at all.
-/

namespace PredictATrade.Realtime

open Lib.Runs

/-! ## The counters with a result counted in -/

namespace StateRecord

variable {r : StateRecord} {result : TradeResult}

/-- The losses of the day with a result. -/
def lossCountWith (r : StateRecord) (result : TradeResult) : ℤ :=
  (if r.OnNewDay result then 0 else r.dailyLossCount) + if result.isLoss then 1 else 0

/-- The result of the day with another one. -/
def pnlWith (r : StateRecord) (result : TradeResult) : Decimal :=
  (if r.OnNewDay result then 0 else r.dailyPnL) + result.pnl

/-- The loss of the day in percent, with a result. -/
def lossPercentWith (r : StateRecord) (result : TradeResult) : Float64 :=
  if r.startingEquity ≠ 0 then pnlPercent (r.pnlWith result) r.startingEquity
  else if r.OnNewDay result then 0 else r.dailyLossPercent

/-- The wins of the recovery with a result. -/
def winsWith (r : StateRecord) (result : TradeResult) : ℤ :=
  (if r.OnNewDay result then 0 else r.recoveryWins) +
    if result.isLoss = false ∧ result.isWin = true ∧ r.state = .recovery then 1 else 0

theorem rollover_of_newDay (h : r.OnNewDay result) :
    r.rollover result = r.newDay result.tradingDay := if_pos h

theorem rollover_of_sameDay (h : ¬ r.OnNewDay result) : r.rollover result = r := if_neg h

theorem counted_dailyLossCount : (r.counted result).dailyLossCount = r.lossCountWith result := by
  have hadd : ∀ r : StateRecord, (r.count result).dailyLossCount =
      r.dailyLossCount + if result.isLoss then 1 else 0 := by
    intro r
    unfold count
    split_ifs <;> simp
  show (((r.rollover result).addPnL result.pnl).count result).dailyLossCount = _
  rw [hadd]
  unfold lossCountWith
  by_cases h : r.OnNewDay result
  · rw [rollover_of_newDay h, if_pos h]; rfl
  · rw [rollover_of_sameDay h, if_neg h]; rfl

theorem counted_dailyLossPercent :
    (r.counted result).dailyLossPercent = r.lossPercentWith result := by
  show (((r.rollover result).addPnL result.pnl).count result).dailyLossPercent = _
  rw [count_dailyLossPercent]
  unfold addPnL lossPercentWith pnlWith
  by_cases h : r.OnNewDay result
  · rw [rollover_of_newDay h, if_pos h, if_pos h]; rfl
  · rw [rollover_of_sameDay h, if_neg h, if_neg h]

theorem counted_state (r : StateRecord) (result : TradeResult) : (r.counted result).state =
    if r.OnNewDay result ∧ r.state = .dailyLimit then .normal else r.state := by
  show (((r.rollover result).addPnL result.pnl).count result).state = _
  rw [count_state]
  show (r.rollover result).state = _
  by_cases h : r.OnNewDay result
  · rw [rollover_of_newDay h]
    by_cases hs : r.state = .dailyLimit
    · rw [if_pos ⟨h, hs⟩]; exact if_pos hs
    · rw [if_neg fun hh => hs hh.2]; exact if_neg hs
  · rw [rollover_of_sameDay h, if_neg fun hh => h hh.1]

theorem counted_recoveryWins (r : StateRecord) (result : TradeResult) :
    (r.counted result).recoveryWins = r.winsWith result := by
  have hadd : ∀ r : StateRecord, (r.count result).recoveryWins =
      r.recoveryWins +
        if result.isLoss = false ∧ result.isWin = true ∧ r.state = .recovery then 1 else 0 := by
    intro r
    unfold count
    split_ifs <;> simp_all
  show (((r.rollover result).addPnL result.pnl).count result).recoveryWins = _
  rw [hadd]
  show (r.rollover result).recoveryWins + _ = _
  unfold winsWith
  by_cases h : r.OnNewDay result
  · rw [rollover_of_newDay h, if_pos h]
    have hstate : (r.newDay result.tradingDay).state = .recovery ↔ r.state = .recovery := by
      show (if r.state = .dailyLimit then _ else _) = _ ↔ _
      split_ifs with hs
      · simp [hs]
      · exact Iff.rfl
    show (r.newDay result.tradingDay).recoveryWins + (if result.isLoss = false ∧
      result.isWin = true ∧ (r.newDay result.tradingDay).state = .recovery then 1 else 0) = _
    simp only [hstate]
    rfl
  · rw [rollover_of_sameDay h, if_neg h]; rfl

theorem counted_haltExpired (r : StateRecord) (result : TradeResult) (now : Time) :
    (r.counted result).haltExpired now = r.haltExpired now := by
  have h : (r.counted result).haltUntil = r.haltUntil := by
    show (((r.rollover result).addPnL result.pnl).count result).haltUntil = _
    rw [count_haltUntil]
    exact rollover_haltUntil
  unfold haltExpired
  rw [h]

end StateRecord

namespace RecoveryConfig

variable {cfg : RecoveryConfig} {now : Time} {r : StateRecord} {result : TradeResult}

/-- With the result counted in, a daily limit is reached. -/
def Breaches (cfg : RecoveryConfig) (r : StateRecord) (result : TradeResult) : Prop :=
  r.lossPercentWith result ≤ -cfg.maxDailyLossPercent ∨
    cfg.maxDailyLossCount ≤ r.lossCountWith result

theorem withinLimits_counted : cfg.WithinLimits (r.counted result) ↔ ¬ cfg.Breaches r result := by
  unfold WithinLimits Breaches
  rw [StateRecord.counted_dailyLossPercent, StateRecord.counted_dailyLossCount, not_or]

/-! ## A record under a daily limit -/

theorem unhalted_of_dailyLimit (hs : r.state = .dailyLimit) :
    (cfg.unhalted now r).state = .dailyLimit := by
  by_cases hl : cfg.WithinLimits r
  · unfold unhalted
    rw [if_neg hl.1, if_neg hl.2, if_neg (by rw [hs]; simp), if_neg (by rw [hs]; simp)]
    exact hs
  · exact unhalted_of_limit hl

/-- A result releases a daily limit when its day is not the record's, unless it breaches a limit on
its own. -/
theorem record_dailyLimit_iff (hs : r.state = .dailyLimit) :
    (cfg.record now r result).state = .dailyLimit ↔
      ¬ (r.OnNewDay result ∧ ¬ cfg.Breaches r result) := by
  have hcs := r.counted_state result
  unfold record transitionLocked
  by_cases hday : r.OnNewDay result
  · rw [if_pos ⟨hday, hs⟩] at hcs
    rw [if_neg (by rw [hcs]; decide)]
    by_cases hb : cfg.Breaches r result
    · exact iff_of_true (unhalted_of_limit fun hl => withinLimits_counted.mp hl hb)
        fun h => h.2 hb
    · rw [unhalted_of_normal hcs (withinLimits_counted.mpr hb)]
      refine iff_of_false ?_ fun h => h ⟨hday, hb⟩
      split_ifs
      · decide
      · rw [hcs]; decide
  · rw [if_neg fun h => hday h.1, hs] at hcs
    rw [if_neg (by rw [hcs]; decide)]
    exact iff_of_true (unhalted_of_dailyLimit hcs) fun h => hday h.1

/-! ## A record that becomes NORMAL -/

/-- The result ends a recovery: the record is in recovery, or its halt has expired into it, no daily
limit is reached, and the wins are enough. -/
structure LeavesRecovery (cfg : RecoveryConfig) (now : Time) (r : StateRecord)
    (result : TradeResult) : Prop where
  inRecovery : r.state = .recovery ∨ (r.state = .halted ∧ r.haltExpired now = true)
  noBreach : ¬ cfg.Breaches r result
  wins : cfg.recoveryExitAfterWins ≤ r.winsWith result

/-- The transition leaves the record below its streak if it leaves it in NORMAL. -/
def BelowStreak (cfg : RecoveryConfig) (r : StateRecord) : Prop :=
  r.state = .normal → r.consecutiveLosses < cfg.maxConsecutiveLosses

/-- From recovery a record comes to NORMAL with no losses in a row, and only by its wins. -/
theorem belowStreak_of_recovery (hs : r.state = .recovery) :
    cfg.BelowStreak (cfg.unhalted now r) ↔
      (cfg.WithinLimits r → cfg.recoveryExitAfterWins ≤ r.recoveryWins →
        0 < cfg.maxConsecutiveLosses) := by
  unfold BelowStreak
  by_cases hl : cfg.WithinLimits r
  · rw [unhalted_of_recovery hs hl]
    unfold inRecovery
    by_cases hw : cfg.recoveryExitAfterWins ≤ r.recoveryWins
    · rw [if_pos hw]
      constructor
      · intro h _ _
        exact h rfl
      · intro h _
        exact h hl hw
    · rw [if_neg hw]
      refine iff_of_true ?_ fun _ h => absurd h hw
      split_ifs
      · intro h
        cases h
      · intro h
        rw [hs] at h
        cases h
  · refine iff_of_true ?_ fun h => absurd h hl
    rw [unhalted_of_limit hl]
    intro h
    cases h

/-- A record that stays in NORMAL is below its streak: at the streak it goes into recovery. -/
theorem belowStreak_of_normal (hs : r.state = .normal) : cfg.BelowStreak (cfg.unhalted now r) := by
  intro h
  by_cases hl : cfg.WithinLimits r
  · rw [unhalted_of_normal hs hl] at h ⊢
    by_cases hc : cfg.maxConsecutiveLosses ≤ r.consecutiveLosses
    · rw [if_pos hc] at h
      cases h
    · rw [if_neg hc]
      exact not_le.mp hc
  · rw [unhalted_of_limit hl] at h
    cases h

/-- A recorded result leaves the record below its streak, unless it ends a recovery where no loss is
allowed. -/
theorem belowStreak_record_iff :
    cfg.BelowStreak (cfg.record now r result) ↔
      (cfg.LeavesRecovery now r result → 0 < cfg.maxConsecutiveLosses) := by
  have hcs := r.counted_state result
  have hwins := r.counted_recoveryWins result
  have hlim : cfg.WithinLimits (r.counted result) ↔ ¬ cfg.Breaches r result := withinLimits_counted
  have hexp := r.counted_haltExpired result now
  unfold record transitionLocked
  cases hs : r.state with
  | recovery =>
      rw [hs, if_neg fun h => nomatch h.2] at hcs
      rw [if_neg (by rw [hcs]; decide), belowStreak_of_recovery hcs, hlim, hwins]
      constructor
      · intro h hleave
        exact h hleave.noBreach hleave.wins
      · intro h hb hw
        exact h ⟨Or.inl hs, hb, hw⟩
  | halted =>
      rw [hs, if_neg fun h => nomatch h.2] at hcs
      rw [if_pos hcs, hexp]
      cases he : r.haltExpired now with
      | true =>
          -- lifting the halt writes neither the counters nor the wins
          have hlift : cfg.WithinLimits (r.counted result).liftHalt ↔ ¬ cfg.Breaches r result := hlim
          have hlwins : (r.counted result).liftHalt.recoveryWins = r.winsWith result := hwins
          rw [if_pos rfl, belowStreak_of_recovery rfl, hlift, hlwins]
          constructor
          · intro h hleave
            exact h hleave.noBreach hleave.wins
          · intro h hb hw
            exact h ⟨Or.inr ⟨hs, he⟩, hb, hw⟩
      | false =>
          rw [if_neg (by decide)]
          refine iff_of_true ?_ fun h => ?_
          · intro h
            rw [hcs] at h
            cases h
          · rcases h.inRecovery with h | h
            · rw [hs] at h; cases h
            · rw [he] at h; exact absurd h.2 (by decide)
  | normal =>
      rw [hs, if_neg fun h => nomatch h.2] at hcs
      rw [if_neg (by rw [hcs]; decide)]
      refine iff_of_true (belowStreak_of_normal hcs) fun h => ?_
      rcases h.inRecovery with h | h <;> rw [hs] at h <;> simp at h
  | dailyLimit =>
      have hno : ¬ cfg.LeavesRecovery now r result := by
        intro h
        rcases h.inRecovery with h | h <;> rw [hs] at h <;> simp at h
      refine iff_of_true ?_ fun h => absurd h hno
      by_cases hday : r.OnNewDay result
      · rw [if_pos ⟨hday, hs⟩] at hcs
        rw [if_neg (by rw [hcs]; decide)]
        exact belowStreak_of_normal hcs
      · rw [if_neg fun h => hday h.1, hs] at hcs
        rw [if_neg (by rw [hcs]; decide)]
        intro h
        rw [unhalted_of_dailyLimit hcs] at h
        cases h

end RecoveryConfig

/-! ## The breaker along a run -/

/-- The input brings a day later than `D` for the key: a result of the key, or a reset. -/
def TradeInput.LaterThan (key : AccountStrategyKey) (D : ℤ) : TradeInput → Prop
  | .result d => d.result.key = key ∧ d.result.tradingDay ≠ none ∧ D < dayOf d.result.tradingDay
  | .reset day => D < dayOf day

namespace RecoveryManager

variable {m : RecoveryManager} {key : AccountStrategyKey} {i : TradeInput} {is : List TradeInput}

/-- The key is under a daily limit, and its record is of day `D`. -/
def LimitedOn (m : RecoveryManager) (key : AccountStrategyKey) (D : ℤ) : Prop :=
  ∃ r, m.states key = some r ∧ r.state = .dailyLimit ∧ dayOf r.tradingDay = D

/-- The input brings the key a day that is not its record's. A result that breaches a limit of its
own day does not count: the key is under a limit again at once. -/
def Releases (m : RecoveryManager) (key : AccountStrategyKey) : TradeInput → Prop
  | .result d => d.result.key = key ∧ ¬ m.Duplicate d.result ∧
      ∃ r, m.states key = some r ∧ r.OnNewDay d.result ∧ ¬ m.config.Breaches r d.result
  | .reset day => ∃ r, m.states key = some r ∧ ¬ isSameDay r.tradingDay day

/-- When a key is at its limit of the day. -/
theorem getState_dailyLimit_iff :
    m.getState key = .dailyLimit ↔ ∃ r, m.states key = some r ∧ r.state = .dailyLimit := by
  unfold getState
  cases hr : m.states key with
  | none => simp
  | some r => simp

/-- One input keeps a key under its limit exactly when it does not release it. -/
theorem step_dailyLimit_iff (h : m.getState key = .dailyLimit) :
    (m.step i).getState key = .dailyLimit ↔ ¬ m.Releases key i := by
  obtain ⟨r, hr, hs⟩ := getState_dailyLimit_iff.mp h
  cases i with
  | result d =>
      show (m.deliver d).getState key = _ ↔ _
      unfold Releases
      by_cases hk : d.result.key = key
      · by_cases hd : m.Duplicate d.result
        · rw [deliver_of_duplicate hd]
          exact iff_of_true h fun hrel => hrel.2.1 hd
        · subst hk
          have hself : (m.deliver d).getState d.result.key =
              (m.config.record d.now r d.result).state := by
            simp only [getState, deliver_states_self hd, getOrCreate, hr]
          rw [hself, RecoveryConfig.record_dailyLimit_iff hs, not_iff_not]
          constructor
          · rintro ⟨hday, hb⟩
            exact ⟨rfl, hd, r, hr, hday, hb⟩
          · rintro ⟨-, -, r', hr', hday, hb⟩
            rw [hr, Option.some.injEq] at hr'
            subst hr'
            exact ⟨hday, hb⟩
      · have hother : (m.deliver d).getState key = m.getState key := by
          simp only [getState, deliver_states_of_ne hk]
        rw [hother]
        exact iff_of_true h fun hrel => hk hrel.1
  | reset day =>
      show (m.resetDaily day).getState key = _ ↔ _
      have hreset : (m.resetDaily day).getState key = (resetRecord day r).state := by
        simp only [getState, resetDaily, hr, Option.map_some]
      rw [hreset]
      unfold Releases resetRecord
      by_cases hsame : isSameDay r.tradingDay day
      · rw [if_pos hsame]
        refine iff_of_true hs ?_
        rintro ⟨r', hr', hne⟩
        rw [hr, Option.some.injEq] at hr'
        subst hr'
        exact hne hsame
      · rw [if_neg hsame]
        refine iff_of_false ?_ fun hno => hno ⟨r, hr, hsame⟩
        show (if r.state = .dailyLimit then _ else _) ≠ _
        rw [if_pos hs]
        decide

/-- Once under the limit of a day, a key stays there until an input of a later day. -/
def StaysLimited (m : RecoveryManager) (key : AccountStrategyKey) (is : List TradeInput) : Prop :=
  ∀ pre mid D, pre ++ mid <+: is → (run step m pre).LimitedOn key D →
    (∀ i ∈ mid, ¬ i.LaterThan key D) → (run step m (pre ++ mid)).getState key = .dailyLimit

/-- No input of another day releases a key before an input of a later day than its limit's. -/
def NoEarlyRelease (m : RecoveryManager) (key : AccountStrategyKey) (is : List TradeInput) :
    Prop :=
  ∀ pre mid i D, pre ++ (mid ++ [i]) <+: is → (run step m pre).LimitedOn key D →
    (∀ j ∈ mid ++ [i], ¬ j.LaterThan key D) → ¬ (run step m (pre ++ mid)).Releases key i

/-- **The daily breaker, exactly.** -/
theorem limit_stays_iff (m : RecoveryManager) (key : AccountStrategyKey) (is : List TradeInput) :
    m.StaysLimited key is ↔ m.NoEarlyRelease key is := by
  constructor
  · intro h pre mid i D hp hlim hlater
    have hmid : pre ++ mid <+: is := by
      refine List.IsPrefix.trans ?_ hp
      rw [← List.append_assoc]
      exact List.prefix_append _ _
    have hbefore := h pre mid D hmid hlim fun j hj => hlater j (List.mem_append_left _ hj)
    have hafter := h pre (mid ++ [i]) D hp hlim hlater
    rw [← List.append_assoc, run_snoc] at hafter
    exact (step_dailyLimit_iff hbefore).mp hafter
  · intro h pre mid D hp hlim hlater
    -- along the inputs since the limit was entered, none of which is later
    induction mid using List.reverseRecOn with
    | nil =>
        obtain ⟨r, hr, hs, -⟩ := hlim
        rw [List.append_nil]
        exact getState_dailyLimit_iff.mpr ⟨r, hr, hs⟩
    | append_singleton mid i ih =>
        have hmid : pre ++ mid <+: is := by
          refine List.IsPrefix.trans ?_ hp
          rw [← List.append_assoc]
          exact List.prefix_append _ _
        have hbefore := ih hmid fun j hj => hlater j (List.mem_append_left _ hj)
        rw [← List.append_assoc, run_snoc]
        exact (step_dailyLimit_iff hbefore).mpr (h pre mid i D hp hlim hlater)

/-- Three losses of one Monday. -/
def mondayLosses : List TradeInput :=
  [.result (lossOfTen "acc1" "c1"), .result (lossOfTen "acc1" "c2"),
    .result (lossOfTen "acc1" "c3")]

/-- A breakeven result of the Sunday before. -/
def lateBreakeven : Delivery :=
  { lossOfTen "acc1" "c4" with
    result :=
      { (lossOfTen "acc1" "c4").result with
        isLoss := false
        pnl := 0
        tradingDay := some 1788696000000 } }

/-- The losses put the key under the limit of Monday, and the late result takes it out. -/
theorem late_result_releases :
    (run step (new {}) mondayLosses).LimitedOn lateBreakeven.result.key 20703 ∧
      dayOf lateBreakeven.result.tradingDay = 20702 ∧
      (run step (new {}) (mondayLosses ++ [.result lateBreakeven])).getState
        lateBreakeven.result.key = .recovery ∧
      ¬ (new {}).StaysLimited lateBreakeven.result.key
        (mondayLosses ++ [.result lateBreakeven]) := by
  have hfields : ((run step (new {}) mondayLosses).states lateBreakeven.result.key).map
      (fun r => (r.state, dayOf r.tradingDay)) = some (.dailyLimit, 20703) := by decide +kernel
  have hlim : (run step (new {}) mondayLosses).LimitedOn lateBreakeven.result.key 20703 := by
    obtain ⟨r, hr, hrf⟩ := Option.map_eq_some_iff.mp hfields
    rw [Prod.mk.injEq] at hrf
    exact ⟨r, hr, hrf.1, hrf.2⟩
  have hday : dayOf lateBreakeven.result.tradingDay = 20702 := by decide +kernel
  have hstate : (run step (new {}) (mondayLosses ++ [.result lateBreakeven])).getState
      lateBreakeven.result.key = .recovery := by decide +kernel
  refine ⟨hlim, hday, hstate, fun h => ?_⟩
  have hstays := h mondayLosses [.result lateBreakeven] 20703 List.prefix_rfl hlim ?_
  · rw [hstate] at hstays
    cases hstays
  · intro i hi hlater
    rw [List.mem_singleton] at hi
    subst hi
    have hlt := hlater.2.2
    rw [hday] at hlt
    omega

/-! ## The streak along a run -/

/-- A key in NORMAL is below the loss streak that puts it into recovery. -/
def StreakBelow (m : RecoveryManager) : Prop :=
  ∀ key r, m.states key = some r → m.config.BelowStreak r

/-- A reset finds no key under a daily limit whose streak has been reached, and a result ends no
recovery under a configuration that allows no loss. -/
def StreakSafe (m : RecoveryManager) : TradeInput → Prop
  | .result d => m.Duplicate d.result ∨
      (m.config.LeavesRecovery d.now
        (m.getOrCreate d.result.key d.result.tradingDay d.now) d.result →
          0 < m.config.maxConsecutiveLosses)
  | .reset day => ∀ key r, m.states key = some r → r.state = .dailyLimit →
      ¬ isSameDay r.tradingDay day → r.consecutiveLosses < m.config.maxConsecutiveLosses

/-- What a reset does to the streak of a record. -/
theorem belowStreak_reset_iff {cfg : RecoveryConfig} {day : Option Time} {r : StateRecord}
    (h : cfg.BelowStreak r) : cfg.BelowStreak (resetRecord day r) ↔
      (r.state = .dailyLimit → ¬ isSameDay r.tradingDay day →
        r.consecutiveLosses < cfg.maxConsecutiveLosses) := by
  unfold resetRecord
  by_cases hsame : isSameDay r.tradingDay day
  · rw [if_pos hsame]
    exact iff_of_true h fun _ hne => absurd hsame hne
  · rw [if_neg hsame]
    unfold RecoveryConfig.BelowStreak
    show ((if r.state = .dailyLimit then _ else _) = _ → r.consecutiveLosses < _) ↔ _
    by_cases hs : r.state = .dailyLimit
    · rw [if_pos hs]
      constructor
      · intro hlt _ _
        exact hlt rfl
      · intro hlt _
        exact hlt hs hsame
    · rw [if_neg hs]
      exact iff_of_true h fun hd => absurd hd hs

/-- One input keeps all streaks below exactly when it is safe. -/
theorem step_streakBelow_iff (h : m.StreakBelow) : (m.step i).StreakBelow ↔ m.StreakSafe i := by
  cases i with
  | reset day =>
      show (m.resetDaily day).StreakBelow ↔ _
      constructor
      · intro hstep key r hr hs hne
        have hkey : (m.resetDaily day).states key = some (resetRecord day r) := by
          simp only [resetDaily, hr, Option.map_some]
        exact (belowStreak_reset_iff (h key r hr)).mp (hstep key _ hkey) hs hne
      · intro hsafe key r' hr'
        simp only [resetDaily, Option.map_eq_some_iff] at hr'
        obtain ⟨r, hr, rfl⟩ := hr'
        exact (belowStreak_reset_iff (h key r hr)).mpr (hsafe key r hr)
  | result d =>
      show (m.deliver d).StreakBelow ↔ (m.Duplicate d.result ∨ _)
      by_cases hd : m.Duplicate d.result
      · rw [deliver_of_duplicate hd]
        exact iff_of_true h (Or.inl hd)
      · rw [or_iff_right hd]
        unfold StreakBelow
        simp only [deliver_config]
        constructor
        · intro hstep
          exact RecoveryConfig.belowStreak_record_iff.mp (hstep _ _ (deliver_states_self hd))
        · intro hsafe key r hr
          by_cases hk : d.result.key = key
          · subst hk
            rw [deliver_states_self hd, Option.some.injEq] at hr
            subst hr
            exact RecoveryConfig.belowStreak_record_iff.mpr hsafe
          · rw [deliver_states_of_ne hk] at hr
            exact h key r hr

/-- **The streak in NORMAL, exactly.** Every state of a run keeps NORMAL keys below their streak if
and only if its first state does and each of its inputs is safe. -/
theorem streak_below_iff (m : RecoveryManager) (is : List TradeInput) :
    Throughout step StreakBelow m is ↔ m.StreakBelow ∧ Along step StreakSafe m is := by
  apply throughout_iff_of_step
  intro s i hs
  exact step_streakBelow_iff hs

/-- Monday's losses end under the daily limit with a streak of three, and the reset of Tuesday puts
the key back into NORMAL with it. -/
theorem reset_carries_streak :
    ((run step (new {}) (mondayLosses ++ [.reset (some 1788868800000)])).states
        (lossOfTen "acc1" "c1").result.key).map (fun r => (r.state, r.consecutiveLosses)) =
        some (.normal, 3) ∧
      ¬ Throughout step StreakBelow (new {})
        (mondayLosses ++ [.reset (some 1788868800000)]) := by
  have hfields : ((run step (new {}) (mondayLosses ++ [.reset (some 1788868800000)])).states
      (lossOfTen "acc1" "c1").result.key).map (fun r => (r.state, r.consecutiveLosses)) =
        some (.normal, 3) := by decide +kernel
  refine ⟨hfields, fun h => ?_⟩
  obtain ⟨r, hr, hrf⟩ := Option.map_eq_some_iff.mp hfields
  rw [Prod.mk.injEq] at hrf
  have hlt := h _ List.prefix_rfl _ r hr hrf.1
  rw [hrf.2] at hlt
  exact absurd hlt (by decide +kernel)

end RecoveryManager

end PredictATrade.Realtime
