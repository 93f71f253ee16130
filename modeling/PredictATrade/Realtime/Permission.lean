import PredictATrade.Realtime.Isolation

/-!
# `Realtime.Permission` — permission and size of a signal in recovery

`CheckSignal` and `GetSizeMultiplier` read the same record in two separate switches. In NORMAL, in
RECOVERY and under a daily limit they agree: what is permitted has a size, and a recovery signal
met the recovery thresholds. In HALTED they do not. `CheckSignal` looks at the deadline of the halt
and `GetSizeMultiplier` does not, so once the deadline is past a signal is permitted at the normal
thresholds, with size zero. `permission_agrees_iff` is the exact extent of this.
-/

namespace PredictATrade.Realtime

open Lib.Runs

/-- The signal meets what `CheckSignal` asks of a signal in recovery. -/
structure RecoveryConfig.MeetsRecovery (cfg : RecoveryConfig) (confluence : Float64)
    (setupGrade : String) (confidence : Float64) : Prop where
  confluence : cfg.recoveryMinConfluence ≤ confluence
  grade : setupGrade = "A" ∨ setupGrade = "A+"
  confidence : cfg.recoveryMinConfidence ≤ confidence

namespace RecoveryManager

variable {m : RecoveryManager} {key : AccountStrategyKey} {now : Time} {r : StateRecord}
  {confluence confidence : Float64} {setupGrade : String}

/-- A permitted signal has a positive size, and outside NORMAL it has at most the recovery size and
met the recovery thresholds. -/
def PermissionAgrees (m : RecoveryManager) (key : AccountStrategyKey) (now : Time) : Prop :=
  ∀ confluence setupGrade confidence,
    m.checkSignal key now confluence setupGrade confidence = none →
      0 < m.getSizeMultiplier key ∧
        (m.getState key ≠ .normal →
          m.getSizeMultiplier key ≤ m.config.recoverySizeMultiplier ∧
            m.config.MeetsRecovery confluence setupGrade confidence)

/-- A halted key is still held by its halt or by a cooldown; and where a recovery key may trade, the
recovery size is positive. -/
structure HaltHolds (m : RecoveryManager) (key : AccountStrategyKey) (now : Time) : Prop where
  halted : ∀ r, m.states key = some r → r.state = .halted →
    beforeDeadline now r.haltUntil = true ∨ beforeDeadline now r.cooldownUntil = true
  recovery : ∀ r, m.states key = some r → r.state = .recovery →
    r.recoveryTradesTaken < m.config.recoveryMaxTrades →
    beforeDeadline now r.cooldownUntil = false → 0 < m.config.recoverySizeMultiplier

/-! ## What `CheckSignal` lets through -/

/-- A signal passes when the state does not block it and no cooldown runs. -/
theorem checkSignal_eq_none_iff (h : m.states key = some r) :
    m.checkSignal key now confluence setupGrade confidence = none ↔
      m.stateBlock r now confluence setupGrade confidence = none ∧
        beforeDeadline now r.cooldownUntil = false := by
  unfold checkSignal
  rw [h]
  cases hb : m.stateBlock r now confluence setupGrade confidence with
  | some reason => simp [hb]
  | none => simp [hb]

theorem stateBlock_halted (hs : r.state = .halted) :
    m.stateBlock r now confluence setupGrade confidence = none ↔
      beforeDeadline now r.haltUntil = false := by
  unfold stateBlock
  rw [hs]
  by_cases hd : beforeDeadline now r.haltUntil = true
  · simp [hd]
  · simp [hd]

theorem stateBlock_dailyLimit (hs : r.state = .dailyLimit) :
    m.stateBlock r now confluence setupGrade confidence ≠ none := by
  unfold stateBlock
  rw [hs]
  exact Option.some_ne_none _

/-- In recovery a signal passes when it meets the thresholds and trades are left. -/
theorem stateBlock_recovery (hs : r.state = .recovery) :
    m.stateBlock r now confluence setupGrade confidence = none ↔
      m.config.MeetsRecovery confluence setupGrade confidence ∧
        r.recoveryTradesTaken < m.config.recoveryMaxTrades := by
  unfold stateBlock
  rw [hs]
  show (if _ then _ else _) = none ↔ _
  by_cases hc : confluence < m.config.recoveryMinConfluence
  · rw [if_pos hc]
    exact iff_of_false (Option.some_ne_none _) fun h => absurd hc (not_lt.mpr h.1.confluence)
  · rw [if_neg hc]
    by_cases hg : setupGrade ≠ "A" ∧ setupGrade ≠ "A+"
    · rw [if_pos hg]
      exact iff_of_false (Option.some_ne_none _) fun h => h.1.grade.elim hg.1 hg.2
    · rw [if_neg hg]
      by_cases hf : confidence < m.config.recoveryMinConfidence
      · rw [if_pos hf]
        exact iff_of_false (Option.some_ne_none _) fun h => absurd hf (not_lt.mpr h.1.confidence)
      · rw [if_neg hf]
        by_cases ht : m.config.recoveryMaxTrades ≤ r.recoveryTradesTaken
        · rw [if_pos ht]
          exact iff_of_false (Option.some_ne_none _) fun h => absurd ht (not_le.mpr h.2)
        · rw [if_neg ht]
          have hgrade : setupGrade = "A" ∨ setupGrade = "A+" := by
            by_contra hn
            exact hg (not_or.mp hn)
          exact iff_of_true rfl ⟨⟨not_lt.mp hc, hgrade, not_lt.mp hf⟩, not_le.mp ht⟩

/-! ## The exact condition -/

/-- **Permission and size agree exactly where a halt holds.** For every manager, key and time. -/
theorem permission_agrees_iff (m : RecoveryManager) (key : AccountStrategyKey) (now : Time) :
    m.PermissionAgrees key now ↔ m.HaltHolds key now := by
  constructor
  · intro h
    refine ⟨fun r hr hs => ?_, fun r hr hs htrades hcool => ?_⟩
    · by_contra hn
      obtain ⟨hhalt, hcool⟩ := not_or.mp hn
      simp only [Bool.not_eq_true] at hhalt hcool
      -- any signal will do: the switch of the halted state lets it through
      have hpass : m.checkSignal key now 0 "" 0 = none :=
        (checkSignal_eq_none_iff hr).mpr ⟨(stateBlock_halted hs).mpr hhalt, hcool⟩
      have hpos := (h 0 "" 0 hpass).1
      simp only [getSizeMultiplier, hr, hs, lt_self_iff_false] at hpos
    · have hmeets : m.config.MeetsRecovery m.config.recoveryMinConfluence "A"
          m.config.recoveryMinConfidence := ⟨le_refl _, Or.inl rfl, le_refl _⟩
      have hpass : m.checkSignal key now m.config.recoveryMinConfluence "A"
          m.config.recoveryMinConfidence = none :=
        (checkSignal_eq_none_iff hr).mpr ⟨(stateBlock_recovery hs).mpr ⟨hmeets, htrades⟩, hcool⟩
      have hpos := (h _ _ _ hpass).1
      simp only [getSizeMultiplier, hr, hs] at hpos
      exact hpos
  · intro h confluence setupGrade confidence hpass
    cases hr : m.states key with
    | none =>
        have hstate : m.getState key = .normal := by simp only [getState, hr]
        refine ⟨by simp [getSizeMultiplier, hr], fun hne => absurd hstate hne⟩
    | some r =>
        have hstate : m.getState key = r.state := by simp only [getState, hr]
        obtain ⟨hblock, hcool⟩ := (checkSignal_eq_none_iff hr).mp hpass
        cases hs : r.state with
        | normal =>
            refine ⟨by simp [getSizeMultiplier, hr, hs], fun hne => ?_⟩
            exact absurd (hstate.trans hs) hne
        | recovery =>
            obtain ⟨hmeets, htrades⟩ := (stateBlock_recovery hs).mp hblock
            have hsize : m.getSizeMultiplier key = m.config.recoverySizeMultiplier := by
              simp only [getSizeMultiplier, hr, hs]
            rw [hsize]
            exact ⟨h.recovery r hr hs htrades hcool, fun _ => ⟨le_refl _, hmeets⟩⟩
        | dailyLimit => exact absurd hblock (stateBlock_dailyLimit hs)
        | halted =>
            have hhalt := (stateBlock_halted hs).mp hblock
            rcases h.halted r hr hs with hd | hd
            · rw [hhalt] at hd
              cases hd
            · rw [hcool] at hd
              cases hd

/-- A key halted by the manager's own operations: two losses lead into recovery, three recovery
trades are taken there, and the next result finds them used up. -/
def usedUp : RecoveryManager :=
  let key := (lossOfTen "acc1" "c1").result.key
  let inRecovery := run deliver (new {}) [lossOfTen "acc1" "c1", lossOfTen "acc1" "c2"]
  let traded := ((inRecovery.incrementRecoveryTrade key).incrementRecoveryTrade key
    ).incrementRecoveryTrade key
  traded.deliver
    { lossOfTen "acc1" "c3" with
      result := { (lossOfTen "acc1" "c3").result with isLoss := false, pnl := 0 } }

/-- One hour and a millisecond later the weakest of signals is permitted, with size zero. -/
theorem expired_halt_permits_size_zero :
    usedUp.getState (lossOfTen "acc1" "c1").result.key = .halted ∧
      usedUp.checkSignal (lossOfTen "acc1" "c1").result.key 1788786000001 0 "" 0 = none ∧
      usedUp.getSizeMultiplier (lossOfTen "acc1" "c1").result.key = 0 ∧
      ¬ usedUp.PermissionAgrees (lossOfTen "acc1" "c1").result.key 1788786000001 := by
  have hpass : usedUp.checkSignal (lossOfTen "acc1" "c1").result.key 1788786000001 0 "" 0 = none := by
    decide +kernel
  have hsize : usedUp.getSizeMultiplier (lossOfTen "acc1" "c1").result.key = 0 := by decide +kernel
  refine ⟨by decide +kernel, hpass, hsize, fun h => ?_⟩
  have hpos := (h 0 "" 0 hpass).1
  rw [hsize] at hpos
  exact lt_irrefl _ hpos

end RecoveryManager

end PredictATrade.Realtime
