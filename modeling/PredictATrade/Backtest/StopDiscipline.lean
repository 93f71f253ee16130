import Mathlib.Data.List.Forall2
import PredictATrade.Backtest.TradeTracker

/-!
# `Backtest.StopDiscipline` — stops that only tighten

A position that a bar leaves open has its stop moved twice: to its entry, once, when the price has come
far enough, and then behind the close. The second move is made only when the new stop is nearer than the
old one. The first is made without looking at the old stop, which the second may have carried past the
entry on an earlier bar.

`stops_kept_along_iff` says when the stops of a run never loosen: exactly when every stop at the entry
that becomes due finds the old stop short of the entry, or is made good by the trailing stop of the same
bar.
-/

namespace PredictATrade.Backtest

open Lib.Runs Realtime

/-! ## The law -/

section
variable (cfg : BacktestConfig) (pos : OpenPosition)

/-- Between the stops `old` and `new` of the position, the second risks no more. -/
def OpenPosition.Tightens (old new : ℚ) : Prop :=
  if pos.direction = .buy then old ≤ new else new ≤ old

/-- The stop at the entry is due. -/
def OpenPosition.BreakEvenDue (c : Candle) : Prop :=
  cfg.breakEvenEnabled ∧ !pos.breakEvenSet ∧ 0 < pos.risk ∧
    pos.risk * cfg.breakEvenTriggerR ≤ pos.move c.close

/-- Where the trailing stop would stand. -/
def OpenPosition.trailLevel (c : Candle) : ℚ :=
  if pos.direction = .buy then c.close - (c.high - c.low) * cfg.trailingATRMult
  else c.close + (c.high - c.low) * cfg.trailingATRMult

/-- A stop at the entry takes nothing back: none was set, it stood short of the entry, or the trailing
stop of the same bar is back at it. -/
def OpenPosition.NoRetreat (c : Candle) : Prop :=
  pos.BreakEvenDue cfg c → pos.stopLoss = 0 ∨ pos.Tightens pos.stopLoss pos.entryPrice ∨
    (cfg.trailingStopEnabled ∧ pos.Tightens pos.stopLoss (pos.trailLevel cfg c))

instance OpenPosition.decidableTightens (old new : ℚ) : Decidable (pos.Tightens old new) :=
  inferInstanceAs (Decidable (if pos.direction = .buy then old ≤ new else new ≤ old))

instance OpenPosition.decidableBreakEvenDue (c : Candle) : Decidable (pos.BreakEvenDue cfg c) :=
  inferInstanceAs (Decidable (_ ∧ _ ∧ _ ∧ _))

instance OpenPosition.decidableNoRetreat (c : Candle) : Decidable (pos.NoRetreat cfg c) :=
  inferInstanceAs (Decidable (pos.BreakEvenDue cfg c → _ ∨ pos.Tightens _ _ ∨ _ ∧ pos.Tightens _ _))

end

/-- The position is the same, and its stop, once set, has not loosened. -/
structure Disciplined (pos pos' : OpenPosition) : Prop where
  ticket : pos'.ticket = pos.ticket
  stop : pos.stopLoss ≠ 0 → pos.Tightens pos.stopLoss pos'.stopLoss

/-- The open positions that a call leaves open. -/
def Account.staying (s : Account) : Call → List OpenPosition
  | .updatePositions c _ =>
    s.tracker.openPositions.filter fun pos => pos.exit s.tracker.config c = none
  | .closeAllPositions _ _ => []
  | _ => s.tracker.openPositions

/-- The position that a call opens. -/
def Call.opening : Call → List OpenPosition
  | .openPosition pos => [pos]
  | _ => []

/-- The positions that stay open over a call keep their order, their tickets and their stops. -/
def StopsKept (s : Account) (call : Call) : Prop :=
  ∃ now, (step s call).tracker.openPositions = now ++ call.opening ∧
    List.Forall₂ Disciplined (s.staying call) now

/-- No stop at the entry takes anything back on this bar. -/
def NoRetreats (s : Account) : Call → Prop
  | .updatePositions c _ =>
    ∀ pos ∈ s.tracker.openPositions, pos.exit s.tracker.config c = none →
      pos.NoRetreat s.tracker.config c
  | _ => True

instance decidableNoRetreats (s : Account) : (call : Call) → Decidable (NoRetreats s call)
  | .updatePositions c _ =>
    inferInstanceAs (Decidable (∀ pos ∈ s.tracker.openPositions, pos.exit s.tracker.config c = none →
      pos.NoRetreat s.tracker.config c))
  | .openPosition _ | .checkDayRollover _ | .closeAllPositions _ _ => .isTrue trivial

/-! ## One position -/

section
variable (cfg : BacktestConfig) (pos : OpenPosition) (c : Candle)

theorem Tightens.refl (stop : ℚ) : pos.Tightens stop stop := by
  unfold OpenPosition.Tightens
  split <;> exact le_refl stop

/-- The trailing stop is the nearer one of the old stop and its level. -/
theorem trail_stopLoss (hon : cfg.trailingStopEnabled) :
    (pos.trail cfg c).stopLoss =
      if pos.direction = .buy then max pos.stopLoss (pos.trailLevel cfg c)
      else min pos.stopLoss (pos.trailLevel cfg c) := by
  unfold OpenPosition.trail OpenPosition.trailLevel
  by_cases hbuy : pos.direction = .buy
  · simp only [hon, hbuy, Bool.not_true, Bool.false_eq_true, if_false, if_true]
    split
    · next hlt => exact (max_eq_right hlt.le).symm
    · next hle => exact (max_eq_left (not_lt.mp hle)).symm
  · simp only [hon, hbuy, Bool.not_true, Bool.false_eq_true, if_false]
    split
    · next hlt => exact (min_eq_right hlt.le).symm
    · next hle => exact (min_eq_left (not_lt.mp hle)).symm

theorem trail_off (hoff : ¬ cfg.trailingStopEnabled) : pos.trail cfg c = pos := by
  unfold OpenPosition.trail
  rw [Bool.not_eq_true] at hoff
  simp only [hoff, Bool.not_false, if_true]

/-- The trailing stop never loosens. -/
theorem trail_tightens : pos.Tightens pos.stopLoss (pos.trail cfg c).stopLoss := by
  by_cases hon : cfg.trailingStopEnabled
  · rw [trail_stopLoss cfg pos c hon]
    unfold OpenPosition.Tightens
    by_cases hbuy : pos.direction = .buy
    · rw [if_pos hbuy, if_pos hbuy]
      exact le_max_left _ _
    · rw [if_neg hbuy, if_neg hbuy]
      exact min_le_left _ _
  · rw [trail_off cfg pos c hon]
    exact Tightens.refl pos _

/-- The trailing stop keeps to an older stop exactly when it starts there or its level does. -/
theorem tightens_trail_iff (old : ℚ) :
    pos.Tightens old (pos.trail cfg c).stopLoss ↔ pos.Tightens old pos.stopLoss ∨
      (cfg.trailingStopEnabled ∧ pos.Tightens old (pos.trailLevel cfg c)) := by
  by_cases hon : cfg.trailingStopEnabled
  · rw [trail_stopLoss cfg pos c hon, and_iff_right hon]
    unfold OpenPosition.Tightens
    by_cases hbuy : pos.direction = .buy
    · simp only [if_pos hbuy]
      exact le_max_iff
    · simp only [if_neg hbuy]
      exact min_le_iff
  · rw [trail_off cfg pos c hon]
    exact (or_iff_left fun h => hon h.1).symm

theorem breakEven_due (hdue : pos.BreakEvenDue cfg c) :
    pos.breakEven cfg c = { pos with stopLoss := pos.entryPrice, breakEvenSet := true } := if_pos hdue

theorem breakEven_not_due (hdue : ¬ pos.BreakEvenDue cfg c) : pos.breakEven cfg c = pos := if_neg hdue

/-- One bar: the stop of a position that stays is kept exactly when the stop at the entry takes nothing
back. -/
theorem manage_disciplined_iff : Disciplined pos (pos.manage cfg c) ↔ pos.NoRetreat cfg c := by
  have hsplit : Disciplined pos (pos.manage cfg c) ↔
      (pos.stopLoss ≠ 0 → pos.Tightens pos.stopLoss ((pos.breakEven cfg c).trail cfg c).stopLoss) :=
    ⟨fun h => h.stop, fun h => ⟨manage_ticket cfg pos c, h⟩⟩
  rw [hsplit]
  unfold OpenPosition.NoRetreat
  by_cases hdue : pos.BreakEvenDue cfg c
  · rw [breakEven_due cfg pos c hdue, imp_iff_right hdue, ne_eq, ← or_iff_not_imp_left]
    -- the direction is not touched, so tightening means the same for the moved position
    exact or_congr Iff.rfl
      (tightens_trail_iff cfg { pos with stopLoss := pos.entryPrice, breakEvenSet := true } c _)
  · rw [breakEven_not_due cfg pos c hdue]
    exact iff_of_true (fun _ => trail_tightens cfg pos c) fun h => absurd h hdue

end

/-! ## One call -/

section
variable (t : TradeTracker) (c : Candle) (barIdx : ℤ)

/-- A position stays in the loop when no level takes it out. -/
theorem next_stillOpen (w : Sweep) (pos : OpenPosition) :
    (w.next c barIdx pos).stillOpen = w.stillOpen ++
      ([pos].filter fun pos => pos.exit w.tracker.config c = none).map
        fun pos => pos.manage w.tracker.config c := by
  unfold Sweep.next OpenPosition.check
  cases hexit : pos.exit w.tracker.config c with
  | none => simp [hexit]
  | some out => simp [hexit]

/-- The loop of `UpdatePositions` keeps the positions that no level takes out. -/
theorem sweep_stillOpen (ps : List OpenPosition) :
    (ps.foldl (Sweep.next c barIdx) { tracker := t }).stillOpen =
      (ps.filter fun pos => pos.exit t.config c = none).map fun pos => pos.manage t.config c := by
  induction ps using List.reverseRecOn with
  | nil => rfl
  | append_singleton ps pos ih =>
      have hconfig := (swept c barIdx t ps).closes.config
      rw [List.foldl_append, List.foldl_cons, List.foldl_nil, next_stillOpen, ih, hconfig,
        List.filter_append, List.map_append]

theorem updatePositions_openPositions :
    (t.updatePositions c barIdx).2.openPositions =
      (t.openPositions.filter fun pos => pos.exit t.config c = none).map
        fun pos => pos.manage t.config c :=
  sweep_stillOpen t c barIdx t.openPositions

theorem checkDayRollover_openPositions (ts : Time) :
    (t.checkDayRollover ts).openPositions = t.openPositions := by
  unfold TradeTracker.checkDayRollover
  split
  · rfl
  · split <;> rfl

end

theorem Disciplined.refl (pos : OpenPosition) : Disciplined pos pos :=
  ⟨rfl, fun _ => Tightens.refl pos _⟩

/-- The step lemma. -/
theorem stopsKept_iff (s : Account) (call : Call) : StopsKept s call ↔ NoRetreats s call := by
  cases call with
  | openPosition pos =>
      refine iff_of_true ⟨s.tracker.openPositions, rfl, ?_⟩ trivial
      exact List.forall₂_same.mpr fun pos _ => Disciplined.refl pos
  | checkDayRollover ts =>
      refine iff_of_true ⟨s.tracker.openPositions, ?_, ?_⟩ trivial
      · exact (checkDayRollover_openPositions s.tracker ts).trans (List.append_nil _).symm
      · exact List.forall₂_same.mpr fun pos _ => Disciplined.refl pos
  | closeAllPositions c barIdx => exact iff_of_true ⟨[], rfl, List.Forall₂.nil⟩ trivial
  | updatePositions c barIdx =>
      have hopen : (step s (.updatePositions c barIdx)).tracker.openPositions =
          (s.staying (.updatePositions c barIdx)).map fun pos => pos.manage s.tracker.config c :=
        updatePositions_openPositions s.tracker c barIdx
      have hkept : StopsKept s (.updatePositions c barIdx) ↔
          List.Forall₂ Disciplined (s.staying (.updatePositions c barIdx))
            ((s.staying (.updatePositions c barIdx)).map fun pos => pos.manage s.tracker.config c) := by
        constructor
        · rintro ⟨now, hnow, hkept⟩
          rw [hopen] at hnow
          have hnow := hnow.trans (List.append_nil now)
          rwa [hnow]
        · intro hkept
          exact ⟨_, hopen.trans (List.append_nil _).symm, hkept⟩
      rw [hkept, List.forall₂_map_right_iff, List.forall₂_same]
      unfold Account.staying NoRetreats
      simp only [List.mem_filter, decide_eq_true_eq, manage_disciplined_iff, and_imp]

/-! ## Runs -/

/-- **Stop discipline.** The stops of a run never loosen exactly when no stop at the entry takes back what
a trailing stop has gained. -/
theorem stops_kept_along_iff (s : Account) (calls : List Call) :
    Along step StopsKept s calls ↔ Along step NoRetreats s calls := by
  refine along_congr (I := fun _ => True) (fun _ _ h => h) ?_ trivial
  intro s call _
  exact stopsKept_iff s call

/-- A long position trails to 111, and the stop at the entry, due on the next bar, lets it back to
101.5. -/
theorem trailed_stop_loosened :
    ¬ Along step StopsKept
        (newAccount
          { initialBalance := 10000, trailingStopEnabled := true, trailingATRMult := 1
            breakEvenEnabled := true, breakEvenTriggerR := 2 })
        [.openPosition
          { tradeID := "7f3a91c2", strategyID := .standardSwing, direction := .buy, entryPrice := 100
            stopLoss := 90, originalSL := 90, entryTime := day, size := 1 },
          .updatePositions ⟨day, 225 / 2, 223 / 2, 112⟩ 1,
          .updatePositions ⟨day, 130, 223 / 2, 120⟩ 2] := by
  rintro ⟨-, -, h, -⟩
  rw [stopsKept_iff] at h
  revert h
  decide +kernel

end PredictATrade.Backtest
