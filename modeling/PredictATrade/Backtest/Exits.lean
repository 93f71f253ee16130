import PredictATrade.Backtest.TradeTracker

/-!
# `Backtest.Exits` — the level a candle takes a position out at

`checkPosition` has four branches, by direction and by the order in which stop and targets are looked at.
The two that look at the stop first go through all three targets and skip every level that is not set. The
two that look at the target first know only the first target, and do not ask whether a stop is set.

`exits_real_iff` is the condition under which what they do is still right. A stop at zero is out of the
reach of a long position's prices, so it is only a short position that is closed at no price.
-/

namespace PredictATrade.Backtest

open Realtime

/-! ## Levels -/

/-- The levels of a position. -/
inductive Level where
  | sl
  | tp1
  | tp2
  | tp3
  deriving DecidableEq, Repr

/-- What `ExitReason` says of a level. -/
def Level.reason : Level → String
  | .sl => "SL"
  | .tp1 => "TP1"
  | .tp2 => "TP2"
  | .tp3 => "TP3"

section
variable (cfg : BacktestConfig) (pos : OpenPosition) (c : Candle)

/-- The price of a level. -/
def OpenPosition.price : Level → ℚ
  | .sl => pos.stopLoss
  | .tp1 => pos.tp1
  | .tp2 => pos.tp2
  | .tp3 => pos.tp3

/-- The level was hit before. -/
def OpenPosition.hit : Level → Bool
  | .sl => false
  | .tp1 => pos.tp1Hit
  | .tp2 => pos.tp2Hit
  | .tp3 => pos.tp3Hit

/-- The candle has come to the price of the level, from the side the level is on. -/
def OpenPosition.Reached (level : Level) : Prop :=
  if (pos.direction = .buy ↔ level = .sl) then c.low ≤ pos.price level
  else pos.price level ≤ c.high

instance OpenPosition.decidableReached (level : Level) : Decidable (pos.Reached c level) :=
  inferInstanceAs (Decidable (if (pos.direction = .buy ↔ level = .sl) then
    c.low ≤ pos.price level else pos.price level ≤ c.high))

/-- A level that is set, was not hit before, and is reached. -/
def OpenPosition.Touched (level : Level) : Prop :=
  pos.price level ≠ 0 ∧ pos.Reached c level ∧ !pos.hit level

instance OpenPosition.decidableTouched (level : Level) : Decidable (pos.Touched c level) :=
  inferInstanceAs (Decidable (_ ∧ pos.Reached c level ∧ _))

/-- The trade was closed at a level of the position that the candle touched, and if it touched the stop
and a target, at the one that has priority. -/
def RealExit (trade : Trade) : Prop :=
  ∃ level, pos.Touched c level ∧ trade.exitPrice = pos.price level ∧
    trade.exitReason = level.reason ∧
    ∀ target, target ≠ .sl → pos.Touched c target → pos.Touched c .sl →
      (level = .sl ↔ cfg.conservativeSLTP)

/-- With the targets first: where the first target leaves the position to its stop, a stop is set and
none of the other targets is touched. -/
def OpenPosition.StopIsDue : Prop :=
  !cfg.conservativeSLTP → ¬ pos.Touched c .tp1 → pos.Reached c .sl →
    pos.stopLoss ≠ 0 ∧ ¬ pos.Touched c .tp2 ∧ ¬ pos.Touched c .tp3

/-! ## The branches -/

/-- The exit at a level. -/
def OpenPosition.out (level : Level) : ℚ × String := (pos.price level, level.reason)

/-- With the stop first, both directions look at the levels in one order. -/
theorem exit_conservative (hcons : cfg.conservativeSLTP) :
    pos.exit cfg c =
      if pos.Touched c .sl then some (pos.out .sl)
      else if pos.Touched c .tp1 then some (pos.out .tp1)
      else if pos.Touched c .tp2 ∧ pos.tp1Hit then some (pos.out .tp2)
      else if pos.Touched c .tp3 ∧ pos.tp2Hit then some (pos.out .tp3)
      else none := by
  unfold OpenPosition.exit OpenPosition.Touched OpenPosition.Reached OpenPosition.out
  by_cases hbuy : pos.direction = .buy
  · simp [hbuy, hcons, OpenPosition.price, OpenPosition.hit, Level.reason, and_assoc, and_comm]
  · simp [hbuy, hcons, OpenPosition.price, OpenPosition.hit, Level.reason, and_assoc, and_comm]

/-- With the targets first, only one is looked at, and the stop is not asked for. -/
theorem exit_optimistic (hcons : ¬ cfg.conservativeSLTP) :
    pos.exit cfg c =
      if pos.Touched c .tp1 then some (pos.out .tp1)
      else if pos.Reached c .sl then some (pos.out .sl)
      else none := by
  unfold OpenPosition.exit OpenPosition.Touched OpenPosition.Reached OpenPosition.out
  by_cases hbuy : pos.direction = .buy
  · simp [hbuy, hcons, OpenPosition.price, OpenPosition.hit, Level.reason]
  · simp [hbuy, hcons, OpenPosition.price, OpenPosition.hit, Level.reason]

/-! ## Trades -/

theorem check_eq (barIdx : ℤ) (level : Level) (h : pos.exit cfg c = some (pos.out level)) :
    pos.check cfg c barIdx =
      some (pos.close cfg (pos.price level) level.reason c barIdx (pos.swap cfg c.time)) := by
  unfold OpenPosition.check
  rw [h]
  rfl

theorem check_none (barIdx : ℤ) (h : pos.exit cfg c = none) : pos.check cfg c barIdx = none := by
  unfold OpenPosition.check
  rw [h]
  rfl

theorem reason_injective {a b : Level} (h : a.reason = b.reason) : a = b := by
  revert h
  cases a <;> cases b <;> decide

/-- A trade at a level is right when the level was touched, and nothing with priority over it. -/
theorem realExit_close_iff (barIdx : ℤ) (level : Level) (recorded : ℚ) :
    RealExit cfg pos c (pos.close cfg (pos.price level) level.reason c barIdx recorded) ↔
      pos.Touched c level ∧ ∀ target, target ≠ .sl → pos.Touched c target → pos.Touched c .sl →
        (level = .sl ↔ cfg.conservativeSLTP) := by
  constructor
  · rintro ⟨level', htouched, -, hreason, hpriority⟩
    obtain rfl : level = level' := reason_injective hreason
    exact ⟨htouched, hpriority⟩
  · rintro ⟨htouched, hpriority⟩
    exact ⟨level, htouched, rfl, rfl, hpriority⟩

/-- An exit before which the stop was looked at and not touched. -/
theorem realExit_target (hstop : ¬ pos.Touched c .sl) {level : Level} (htouched : pos.Touched c level)
    (barIdx : ℤ) (recorded : ℚ) :
    RealExit cfg pos c (pos.close cfg (pos.price level) level.reason c barIdx recorded) := by
  rw [realExit_close_iff]
  exact ⟨htouched, fun _ _ _ h => absurd h hstop⟩

/-- With the stop first, whatever takes the position out is real. -/
theorem realExit_conservative (hcons : cfg.conservativeSLTP) (barIdx : ℤ) (trade : Trade)
    (h : pos.check cfg c barIdx = some trade) : RealExit cfg pos c trade := by
  have hexit := exit_conservative cfg pos c hcons
  by_cases hsl : pos.Touched c .sl
  · rw [if_pos hsl] at hexit
    rw [check_eq cfg pos c barIdx .sl hexit] at h
    obtain rfl := Option.some.inj h
    rw [realExit_close_iff]
    exact ⟨hsl, fun _ _ _ _ => iff_of_true rfl hcons⟩
  · rw [if_neg hsl] at hexit
    by_cases htp1 : pos.Touched c .tp1
    · rw [if_pos htp1] at hexit
      rw [check_eq cfg pos c barIdx .tp1 hexit] at h
      obtain rfl := Option.some.inj h
      exact realExit_target cfg pos c hsl htp1 barIdx _
    · rw [if_neg htp1] at hexit
      by_cases htp2 : pos.Touched c .tp2 ∧ pos.tp1Hit
      · rw [if_pos htp2] at hexit
        rw [check_eq cfg pos c barIdx .tp2 hexit] at h
        obtain rfl := Option.some.inj h
        exact realExit_target cfg pos c hsl htp2.1 barIdx _
      · rw [if_neg htp2] at hexit
        by_cases htp3 : pos.Touched c .tp3 ∧ pos.tp2Hit
        · rw [if_pos htp3] at hexit
          rw [check_eq cfg pos c barIdx .tp3 hexit] at h
          obtain rfl := Option.some.inj h
          exact realExit_target cfg pos c hsl htp3.1 barIdx _
        · rw [if_neg htp3] at hexit
          rw [check_none cfg pos c barIdx hexit] at h
          exact absurd h (Option.some_ne_none trade).symm

/-- The stop, looked at last, is a real exit exactly when it is set and no other target is touched. -/
theorem realExit_stop_iff (hcons : ¬ cfg.conservativeSLTP) (htp1 : ¬ pos.Touched c .tp1)
    (hreached : pos.Reached c .sl) (barIdx : ℤ) (recorded : ℚ) :
    RealExit cfg pos c (pos.close cfg (pos.price .sl) Level.sl.reason c barIdx recorded) ↔
      pos.stopLoss ≠ 0 ∧ ¬ pos.Touched c .tp2 ∧ ¬ pos.Touched c .tp3 := by
  rw [realExit_close_iff]
  constructor
  · rintro ⟨hsl, hpriority⟩
    have hnone : ∀ target, target ≠ .sl → ¬ pos.Touched c target := fun target hne htarget =>
      hcons ((hpriority target hne htarget hsl).mp rfl)
    exact ⟨hsl.1, hnone .tp2 (by decide), hnone .tp3 (by decide)⟩
  · rintro ⟨hset, htp2, htp3⟩
    refine ⟨⟨hset, hreached, rfl⟩, fun target hne htarget => ?_⟩
    cases target with
    | sl => exact absurd rfl hne
    | tp1 => exact absurd htarget htp1
    | tp2 => exact absurd htarget htp2
    | tp3 => exact absurd htarget htp3

/-- With the targets first, a position that comes to its stop is closed there. -/
theorem check_stop (hcons : ¬ cfg.conservativeSLTP) (htp1 : ¬ pos.Touched c .tp1)
    (hreached : pos.Reached c .sl) (barIdx : ℤ) :
    pos.check cfg c barIdx =
      some (pos.close cfg (pos.price .sl) Level.sl.reason c barIdx (pos.swap cfg c.time)) := by
  have hexit := exit_optimistic cfg pos c hcons
  rw [if_neg htp1, if_pos hreached] at hexit
  exact check_eq cfg pos c barIdx .sl hexit

/-- **Exits at real levels.** The candle takes the position out at a level that it touches, by the
priority of the configuration, or not at all, exactly when the stop that is left after the first target
is set and alone. -/
theorem exits_real_iff (barIdx : ℤ) :
    (∀ trade, pos.check cfg c barIdx = some trade → RealExit cfg pos c trade) ↔
      pos.StopIsDue cfg c := by
  unfold OpenPosition.StopIsDue
  by_cases hcons : cfg.conservativeSLTP
  · refine iff_of_true (realExit_conservative cfg pos c hcons barIdx) fun h => ?_
    rw [hcons] at h
    cases h
  · rw [imp_iff_right (by simpa using hcons)]
    have hexit := exit_optimistic cfg pos c hcons
    by_cases htp1 : pos.Touched c .tp1
    · rw [if_pos htp1] at hexit
      refine iff_of_true (fun trade h => ?_) fun h => absurd htp1 h
      rw [check_eq cfg pos c barIdx .tp1 hexit] at h
      obtain rfl := Option.some.inj h
      rw [realExit_close_iff]
      exact ⟨htp1, fun _ _ _ _ => iff_of_false (by decide) hcons⟩
    · rw [if_neg htp1] at hexit
      rw [imp_iff_right htp1]
      by_cases hreached : pos.Reached c .sl
      · rw [imp_iff_right hreached, check_stop cfg pos c hcons htp1 hreached,
          ← realExit_stop_iff cfg pos c hcons htp1 hreached barIdx (pos.swap cfg c.time)]
        exact ⟨fun h => h _ rfl, fun h trade htrade => Option.some.inj htrade ▸ h⟩
      · rw [if_neg hreached] at hexit
        refine iff_of_true (fun trade h => ?_) fun h => absurd h hreached
        rw [check_none cfg pos c barIdx hexit] at h
        exact absurd h (Option.some_ne_none trade).symm

end

/-- A short position without a stop, and a long one with only its second target. -/
def unprotected : OpenPosition :=
  { tradeID := "7f3a91c2", strategyID := .standardSwing, direction := .sell, entryPrice := 2000
    stopLoss := 0, originalSL := 0, tp1 := 1980, entryTime := day, size := 1 }

/-- A position with a second target. -/
def secondTarget : OpenPosition := { position day with tp2 := 2020 }

/-- The configuration that looks at the targets first. -/
def targetsFirst : BacktestConfig := { initialBalance := 10000, conservativeSLTP := false }

/-- The short position is closed at zero, and the long one at its stop though the candle comes to its
target. -/
theorem exits_unreal :
    (¬ ∀ trade, unprotected.check targetsFirst ⟨day, 2010, 1995, 2000⟩ 1 = some trade →
      RealExit targetsFirst unprotected ⟨day, 2010, 1995, 2000⟩ trade) ∧
    ¬ ∀ trade, secondTarget.check targetsFirst ⟨day, 2025, 1985, 2000⟩ 1 = some trade →
      RealExit targetsFirst secondTarget ⟨day, 2025, 1985, 2000⟩ trade := by
  constructor
  · intro h
    have hreal := h _ (check_stop _ _ _ (by decide) (by decide +kernel) (by decide +kernel) 1)
    rw [realExit_stop_iff _ _ _ (by decide) (by decide +kernel) (by decide +kernel)] at hreal
    exact hreal.1 rfl
  · intro h
    have hreal := h _ (check_stop _ _ _ (by decide) (by decide +kernel) (by decide +kernel) 1)
    rw [realExit_stop_iff _ _ _ (by decide) (by decide +kernel) (by decide +kernel)] at hreal
    exact hreal.2.1 (by decide +kernel)

end PredictATrade.Backtest
