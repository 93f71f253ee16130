import Mathlib.Algebra.Order.Ring.Rat
import PredictATrade.Lib.Runs
import PredictATrade.Realtime.Features

/-!
# `Realtime.PullbackRecovery` — the confirmation that a pullback is over

`PullbackEngine.processEvaluated` is to confirm a continuation once the price has come back by more than
three tenths of the average range from the farthest point of the pullback (`Recovered`). It measures from the
price of the same call instead, so the level lies three tenths beyond the price wherever that is
(`continues_eq_false`), and `confirm_iff` says what is left: the confirmation is right in a run exactly when
no price of the run comes back so far.
-/

namespace PredictATrade.Realtime.Features
open Lib.Runs

/-- A call in a trend with an anchor. -/
structure PullbackCall (dir : Direction) (anchor : Decimal) where
  features : StructureFeatures
  price : Decimal
  atr : Decimal
  anchored : trendAnchor features = some (dir, anchor)
  atr_pos : 0 < atr

/-- The engine, and the most adverse price of the pullback that the last call reported active. -/
structure PullbackRun where
  engine : PullbackEngine
  adverse : Option Decimal := none
  deriving DecidableEq, Repr

/-- The more adverse of two prices. -/
def moreAdverse (dir : Direction) (price price' : Decimal) : Decimal :=
  match dir with
  | .buy => min price price'
  | _ => max price price'

/-- The price is more than three tenths of the average range from the adverse one, towards the extreme of the
trend. -/
def Recovered (dir : Direction) (adverse price atr : Decimal) : Prop :=
  match dir with
  | .buy => adverse + 3 / 10 * atr < price
  | _ => price < adverse - 3 / 10 * atr

namespace PullbackRun
variable {dir : Direction} {anchor : Decimal} (w : PullbackRun) (call : PullbackCall dir anchor)

/-- What the engine reports of a call. -/
def report : PullbackFeatures := (w.engine.processEvaluated call.features call.price call.atr).2

/-- The run after a call. -/
def step : PullbackRun where
  engine := (w.engine.processEvaluated call.features call.price call.atr).1
  adverse :=
    if (w.report call).pullbackActive then
      some ((w.adverse.map fun p => moreAdverse dir p call.price).getD call.price)
    else none

/-- The quality is a share, after an active pullback the confirmation says whether the price has come back,
and without one there is none. -/
structure Law : Prop where
  confirm : ∀ p ∈ w.adverse, (w.report call).pullbackContConfirm = true ↔ Recovered dir p call.price call.atr
  idle : w.adverse = none → (w.report call).pullbackContConfirm = false
  quality : 0 ≤ (w.report call).pullbackQuality ∧ (w.report call).pullbackQuality ≤ 1

/-- The price has not come back from the pullback. -/
def Keeps : Prop := ∀ p ∈ w.adverse, ¬ Recovered dir p call.price call.atr

end PullbackRun

/-! ## One call -/

/-- The share of the depth and the share of the range, six to four. -/
theorem pullbackQuality_mem (depth atrNorm : Decimal) :
    0 ≤ pullbackQuality depth atrNorm ∧ pullbackQuality depth atrNorm ≤ 1 := by
  have hpos : 0 ≤ min (|depth - 1 / 2| * 2) 1 := le_min (by positivity) zero_le_one
  have hle : min (|depth - 1 / 2| * 2) 1 ≤ 1 := min_le_right _ _
  have hatr : ∀ q : Decimal, 0 ≤ q → q ≤ 1 →
      0 ≤ (1 - min (|depth - 1 / 2| * 2) 1) * (6 / 10) + q * (4 / 10) ∧
        (1 - min (|depth - 1 / 2| * 2) 1) * (6 / 10) + q * (4 / 10) ≤ 1 := by
    intro q hq hq'
    constructor <;> linarith
  unfold pullbackQuality
  dsimp only
  apply hatr
  · split_ifs <;> norm_num
  · split_ifs <;> norm_num

namespace PullbackEngine
variable (e : PullbackEngine) (dir : Direction) (anchor price atr : Decimal)

/-- The extreme is not on the adverse side of the price. -/
theorem extremeAfter_side :
    (dir = .buy → price ≤ e.extremeAfter dir price) ∧ (dir ≠ .buy → e.extremeAfter dir price ≤ price) := by
  constructor
  · rintro rfl
    unfold extremeAfter
    dsimp only
    generalize (if e.trendExtreme = 0 then price else e.trendExtreme) = extreme
    split
    · exact le_rfl
    · next h => exact not_lt.mp h
  · intro hdir
    unfold extremeAfter
    dsimp only
    generalize (if e.trendExtreme = 0 then price else e.trendExtreme) = extreme
    split
    · exact absurd rfl hdir
    · split
      · exact le_rfl
      · next h => exact not_lt.mp h

/-- **The level that is never reached.** It lies three tenths of the range beyond the price itself. -/
theorem continues_eq_false (e' : PullbackEngine) {atr : Decimal} (hatr : 0 < atr) :
    e'.continues dir (e.extremeAfter dir price) price atr = false := by
  obtain ⟨hbuy, hsell⟩ := e.extremeAfter_side dir price
  unfold continues
  dsimp only
  split
  · -- the extreme less the distance to the price is the price
    have hlevel : e.extremeAfter .buy price - |e.extremeAfter .buy price - price| = price := by
      rw [abs_of_nonneg (sub_nonneg.mpr (hbuy rfl))]
      ring
    have hnot : ¬ price + atr * (3 / 10) < price := by
      intro h
      linarith
    rw [hlevel, decide_eq_false hnot, Bool.and_false]
  · next hdir =>
    have hlevel : e.extremeAfter dir price + |e.extremeAfter dir price - price| = price := by
      rw [abs_of_nonpos (sub_nonpos.mpr (hsell hdir))]
      ring
    have hnot : ¬ price < price - atr * (3 / 10) := by
      intro h
      linarith
    rw [hlevel, decide_eq_false hnot, Bool.and_false]

/-- A measurement confirms nothing, and its quality is a share. -/
theorem measure_report {atr : Decimal} (hatr : 0 < atr) :
    (e.measure dir anchor price atr).2.pullbackContConfirm = false ∧
      0 ≤ (e.measure dir anchor price atr).2.pullbackQuality ∧
      (e.measure dir anchor price atr).2.pullbackQuality ≤ 1 := by
  unfold measure
  dsimp only
  split
  · exact ⟨rfl, le_rfl, zero_le_one⟩
  · split
    · exact ⟨rfl, le_rfl, zero_le_one⟩
    · refine ⟨continues_eq_false _ _ _ _ hatr, ?_⟩
      dsimp only
      split
      · exact pullbackQuality_mem _ _
      · exact ⟨le_rfl, zero_le_one⟩

theorem processEvaluated_report (s : StructureFeatures) {atr : Decimal} (hatr : 0 < atr) :
    (e.processEvaluated s price atr).2.pullbackContConfirm = false ∧
      0 ≤ (e.processEvaluated s price atr).2.pullbackQuality ∧
      (e.processEvaluated s price atr).2.pullbackQuality ≤ 1 := by
  unfold processEvaluated
  split
  · exact ⟨rfl, le_rfl, zero_le_one⟩
  · split
    · exact ⟨rfl, le_rfl, zero_le_one⟩
    · exact e.measure_report _ _ price hatr

end PullbackEngine

namespace PullbackRun
variable {dir : Direction} {anchor : Decimal}

/-- When a call keeps the law. -/
theorem law_iff (w : PullbackRun) (call : PullbackCall dir anchor) : w.Law call ↔ w.Keeps call := by
  obtain ⟨hconfirm, hquality⟩ := w.engine.processEvaluated_report call.price call.features call.atr_pos
  constructor
  · intro h p hp hrecovered
    have htrue := (h.confirm p hp).mpr hrecovered
    exact Bool.false_ne_true (hconfirm.symm.trans htrue)
  · intro h
    refine ⟨fun p hp => iff_of_false ?_ (h p hp), fun _ => hconfirm, hquality⟩
    show ¬ (w.engine.processEvaluated call.features call.price call.atr).2.pullbackContConfirm = true
    rw [hconfirm]
    exact Bool.false_ne_true

end PullbackRun

/-! ## Runs -/

/-- **Confirmation.** From any state of the engine, a run in a trend with an anchor reports the continuations
as they are exactly when there are none: no price comes back from an active pullback. -/
theorem confirm_iff (e : PullbackEngine) (dir : Direction) (anchor : Decimal)
    (calls : List (PullbackCall dir anchor)) :
    Along PullbackRun.step PullbackRun.Law ⟨e, none⟩ calls ↔
      Along PullbackRun.step PullbackRun.Keeps ⟨e, none⟩ calls :=
  along_congr (I := fun _ => True) (fun _ _ _ => trivial) (fun w call _ => w.law_iff call) trivial

/-! ## A price that comes back -/

/-- A bullish trend from a low at 100. -/
def fromHundred : StructureFeatures := { swingLows := [100], currentTrend := .bullish }

/-- A call at this price. -/
def callAt (price : Decimal) : PullbackCall .buy 100 where
  features := fromHundred
  price := price
  atr := 1
  anchored := rfl
  atr_pos := one_pos

/-- From 110 down to 105 and back to 109. -/
theorem confirm_slip :
    ¬ Along PullbackRun.step PullbackRun.Law ⟨{}, none⟩ [callAt 110, callAt 105, callAt 109] := by
  rintro ⟨-, -, hlaw, -⟩
  have hactive : (105 : Decimal) ∈ (PullbackRun.step (PullbackRun.step ⟨{}, none⟩ (callAt 110))
      (callAt 105)).adverse := by decide +kernel
  have hrecovered : Recovered .buy 105 109 1 := by
    show (105 : Decimal) + 3 / 10 * 1 < 109
    norm_num
  exact absurd ((hlaw.confirm 105 hactive).mpr hrecovered) (by decide +kernel)

end PredictATrade.Realtime.Features
