import PredictATrade.Lib.Grid
import PredictATrade.Realtime.Features

/-!
# `Realtime.PositionSize` — the lot for one percent of the equity

`CalculatePositionSize` divides three times: the tick value by the tick size, the risk budget by what one
lot loses at the stop, and the lots by the step. It turns down a tick size of zero and leaves out a step
of zero, but a tick value of zero makes the second division one by zero, and a decimal panics there. What
it clamps to the largest lot is not rounded again, and not compared with the smallest. And a quotient is
rounded to sixteen places, so that a lot may cost a little more than the budget.

`position_law_iff` is the condition under which nothing of this happens.
-/

namespace PredictATrade.Realtime
open Lib.Decimal Lib.Grid Features

/-- What the broker says of a symbol. -/
structure BrokerSymbolInfo where
  tickValue : Decimal := 1
  tickSize : Decimal := 1 / 100
  lotStep : Decimal := 1 / 100
  maxLot : Decimal := 100
  minLot : Decimal := 1 / 100
  deriving DecidableEq, Repr

/-- `CalculatePositionSize`, or nothing where it panics. -/
def calculatePositionSize (equity stopDistancePrice : Decimal) (symbol : BrokerSymbolInfo) :
    Option Decimal :=
  if equity = 0 ∨ stopDistancePrice = 0 ∨ symbol.tickSize = 0 then some 0
  else
    let riskAmount := equity * (1 / 100)
    let pointValue := decimalDiv symbol.tickValue symbol.tickSize
    if stopDistancePrice * pointValue = 0 then none
    else
      let lots := decimalDiv riskAmount (stopDistancePrice * pointValue)
      let lots :=
        if symbol.lotStep ≠ 0 then ⌊decimalDiv lots symbol.lotStep⌋ * symbol.lotStep else lots
      if lots < symbol.minLot then some 0
      else if symbol.maxLot < lots then some symbol.maxLot
      else some lots

/-! ## The law -/

/-- What a position is sized for. -/
structure PositionInput where
  equity : Decimal
  stop : Decimal
  symbol : BrokerSymbolInfo

section
variable (i : PositionInput)

/-- The size for the input. -/
def PositionInput.size : Option Decimal := calculatePositionSize i.equity i.stop i.symbol

/-- One percent of the equity. -/
def PositionInput.budget : Decimal := i.equity * (1 / 100)

/-- What one lot loses at the stop. -/
def PositionInput.lossPerLot : Decimal := i.stop * (i.symbol.tickValue / i.symbol.tickSize)

/-- The input is turned down. -/
def PositionInput.Rejected : Prop := i.equity = 0 ∨ i.stop = 0 ∨ i.symbol.tickSize = 0

/-- There is a size, and it is none, or a lot that the broker takes and that loses no more than the budget
at the stop. -/
def PositionLaw : Prop :=
  ∃ lots, i.size = some lots ∧
    (lots = 0 ∨ i.symbol.minLot ≤ lots ∧ lots ≤ i.symbol.maxLot ∧ OnGrid i.symbol.lotStep lots ∧
      i.lossPerLot * lots ≤ i.budget)

/-- The divisor of the second division. -/
def PositionInput.divisor : Decimal := i.stop * decimalDiv i.symbol.tickValue i.symbol.tickSize

/-- The lots that the budget affords, to sixteen places. -/
def PositionInput.afforded : Decimal := decimalDiv i.budget i.divisor

/-- The same in steps of the broker. -/
def PositionInput.steps : Decimal := decimalDiv i.afforded i.symbol.lotStep

/-- What is afforded, in whole steps if there is a step, comes to less than `v`. -/
def PositionInput.Below (v : Decimal) : Prop :=
  if i.symbol.lotStep = 0 then i.afforded < v else WorthLess i.symbol.lotStep i.steps v

/-- It comes to more. -/
def PositionInput.Above (v : Decimal) : Prop :=
  if i.symbol.lotStep = 0 then v < i.afforded else WorthMore i.symbol.lotStep i.steps v

/-- It comes to no more than the budget, by the exact quotient. -/
def PositionInput.Affords : Prop :=
  if 0 < i.lossPerLot then ¬ i.Above (i.budget / i.lossPerLot)
  else ¬ i.Below (i.budget / i.lossPerLot)

/-- The largest lot is one that the broker takes and the budget affords, or none. -/
def PositionInput.LargestLotFits : Prop :=
  i.symbol.maxLot = 0 ∨ i.symbol.minLot ≤ i.symbol.maxLot ∧
    OnGrid i.symbol.lotStep i.symbol.maxLot ∧ i.lossPerLot * i.symbol.maxLot ≤ i.budget

/-- The input is turned down; or it can be divided by, and what is afforded is below the smallest lot, or
is above a largest lot that fits, or is between the two, where it is nothing, or a number of steps that
costs no more than the budget. -/
def PositionInput.Safe : Prop :=
  i.Rejected ∨
    i.divisor ≠ 0 ∧
      (i.Below i.symbol.minLot ∨
        i.Above i.symbol.maxLot ∧ i.LargestLotFits ∨
        ¬ i.Above i.symbol.maxLot ∧
          (¬ i.Below 0 ∧ ¬ i.Above 0 ∨ i.symbol.lotStep ≠ 0 ∧ i.Affords))

/-! ## The lots before the clamp -/

/-- The lots, rounded down to the step. -/
def PositionInput.lots : Decimal :=
  if i.symbol.lotStep ≠ 0 then ⌊i.steps⌋ * i.symbol.lotStep else i.afforded

/-- When the lots are under a value. -/
theorem lots_lt_iff (v : Decimal) : i.lots < v ↔ i.Below v := by
  unfold PositionInput.lots PositionInput.Below
  by_cases hstep : i.symbol.lotStep = 0
  · rw [if_neg (not_not.mpr hstep), if_pos hstep]
  · rw [if_pos hstep, if_neg hstep, floor_mul_lt_iff hstep]

/-- When the lots are over a value. -/
theorem lt_lots_iff (v : Decimal) : v < i.lots ↔ i.Above v := by
  unfold PositionInput.lots PositionInput.Above
  by_cases hstep : i.symbol.lotStep = 0
  · rw [if_neg (not_not.mpr hstep), if_pos hstep]
  · rw [if_pos hstep, if_neg hstep, lt_floor_mul_iff hstep]

/-- When the lots are none. -/
theorem lots_eq_zero_iff : i.lots = 0 ↔ ¬ i.Below 0 ∧ ¬ i.Above 0 := by
  rw [← lots_lt_iff, ← lt_lots_iff, not_lt, not_lt, and_comm]
  exact le_antisymm_iff

/-- The lots are on the grid of the step, unless there is none. -/
theorem lots_onGrid_iff (hne : i.lots ≠ 0) : OnGrid i.symbol.lotStep i.lots ↔ i.symbol.lotStep ≠ 0 := by
  constructor
  · rintro ⟨n, hn⟩ hstep
    rw [hstep, mul_zero] at hn
    exact hne hn
  · intro hstep
    refine ⟨⌊i.steps⌋, ?_⟩
    unfold PositionInput.lots
    rw [if_pos hstep]

/-- A divisor that is not zero comes from a tick value and a stop that are not. -/
theorem lossPerLot_ne_zero (hreject : ¬ i.Rejected) (hdiv : i.divisor ≠ 0) : i.lossPerLot ≠ 0 := by
  unfold PositionInput.Rejected at hreject
  rw [not_or, not_or] at hreject
  have hvalue : i.symbol.tickValue ≠ 0 := by
    intro hzero
    apply hdiv
    unfold PositionInput.divisor decimalDiv
    rw [hzero, zero_div, roundPlaces_of_hasPlaces (HasPlaces.zero 16), mul_zero]
  exact mul_ne_zero hreject.2.1 (div_ne_zero hvalue hreject.2.2)

/-- When the budget affords the lots. -/
theorem affords_iff (hloss : i.lossPerLot ≠ 0) : i.lossPerLot * i.lots ≤ i.budget ↔ i.Affords := by
  unfold PositionInput.Affords
  rcases lt_or_gt_of_ne hloss with hneg | hpos
  · rw [if_neg (not_lt.mpr hneg.le), ← lots_lt_iff, not_lt, div_le_iff_of_neg hneg, mul_comm]
  · rw [if_pos hpos, ← lt_lots_iff, not_lt, le_div_iff₀ hpos, mul_comm]

/-! ## The size -/

theorem size_rejected (h : i.Rejected) : i.size = some 0 := if_pos h

theorem size_none (hreject : ¬ i.Rejected) (hdiv : i.divisor = 0) : i.size = none :=
  (if_neg hreject).trans (if_pos hdiv)

theorem size_eq (hreject : ¬ i.Rejected) (hdiv : i.divisor ≠ 0) :
    i.size =
      if i.lots < i.symbol.minLot then some 0
      else if i.symbol.maxLot < i.lots then some i.symbol.maxLot
      else some i.lots :=
  (if_neg hreject).trans (if_neg hdiv)

theorem law_of_size {lots : Decimal} (h : i.size = some lots) :
    PositionLaw i ↔ lots = 0 ∨ i.symbol.minLot ≤ lots ∧ lots ≤ i.symbol.maxLot ∧
      OnGrid i.symbol.lotStep lots ∧ i.lossPerLot * lots ≤ i.budget := by
  unfold PositionLaw
  rw [h]
  exact ⟨fun ⟨_, heq, hlaw⟩ => Option.some.inj heq ▸ hlaw, fun hlaw => ⟨lots, rfl, hlaw⟩⟩

/-- **The position size.** The law holds exactly for the inputs that are safe. -/
theorem position_law_iff : PositionLaw i ↔ i.Safe := by
  unfold PositionInput.Safe
  by_cases hreject : i.Rejected
  · rw [law_of_size i (size_rejected i hreject)]
    exact iff_of_true (Or.inl rfl) (Or.inl hreject)
  · rw [or_iff_right hreject]
    by_cases hdiv : i.divisor = 0
    · refine iff_of_false ?_ fun h => h.1 hdiv
      rintro ⟨lots, hsize, -⟩
      rw [size_none i hreject hdiv] at hsize
      cases hsize
    · rw [and_iff_right hdiv]
      have hsize := size_eq i hreject hdiv
      by_cases hbelow : i.Below i.symbol.minLot
      · rw [if_pos ((lots_lt_iff i _).mpr hbelow)] at hsize
        rw [law_of_size i hsize]
        exact iff_of_true (Or.inl rfl) (Or.inl hbelow)
      · rw [if_neg (fun h => hbelow ((lots_lt_iff i _).mp h))] at hsize
        rw [or_iff_right hbelow]
        by_cases habove : i.Above i.symbol.maxLot
        · -- clamped to the largest lot
          rw [if_pos ((lt_lots_iff i _).mpr habove)] at hsize
          rw [law_of_size i hsize]
          constructor
          · intro h
            exact Or.inl ⟨habove, h.imp_right fun ⟨hmin, _, hrest⟩ => ⟨hmin, hrest⟩⟩
          · rintro (⟨-, h⟩ | ⟨h, -⟩)
            · exact h.imp_right fun ⟨hmin, hrest⟩ => ⟨hmin, le_rfl, hrest⟩
            · exact absurd habove h
        · -- the lots as they are
          rw [if_neg (fun h => habove ((lt_lots_iff i _).mp h))] at hsize
          have hclamped : ¬ (i.Above i.symbol.maxLot ∧ i.LargestLotFits) := fun h => habove h.1
          rw [law_of_size i hsize, or_iff_right hclamped, and_iff_right habove, ← lots_eq_zero_iff]
          have hmin : i.symbol.minLot ≤ i.lots := not_lt.mp fun h => hbelow ((lots_lt_iff i _).mp h)
          have hmax : i.lots ≤ i.symbol.maxLot := not_lt.mp fun h => habove ((lt_lots_iff i _).mp h)
          rw [and_iff_right hmin, and_iff_right hmax]
          by_cases hzero : i.lots = 0
          · exact iff_of_true (Or.inl hzero) (Or.inl hzero)
          · rw [or_iff_right hzero, or_iff_right hzero, lots_onGrid_iff i hzero,
              affords_iff i (lossPerLot_ne_zero i hreject hdiv)]

end

/-- A tick value of zero panics, and a largest lot of 0.015 is returned for a step of 0.01. -/
theorem unsafe_sizes :
    ¬ PositionLaw ⟨10000, 5, { tickValue := 0 }⟩ ∧
      ¬ PositionLaw ⟨10000, 1, { maxLot := 15 / 1000 }⟩ := by
  constructor
  · rintro ⟨lots, hsize, -⟩
    have hnone : calculatePositionSize 10000 5 { tickValue := 0 } = none := by decide +kernel
    exact absurd (hnone.symm.trans hsize) (Option.some_ne_none lots).symm
  · have hsize : PositionInput.size ⟨10000, 1, { maxLot := 15 / 1000 }⟩ = some (15 / 1000) := by
      decide +kernel
    rw [law_of_size _ hsize]
    rintro (hzero | ⟨-, -, ⟨n, hn⟩, -⟩)
    · exact absurd hzero (by decide +kernel)
    · -- one and a half steps
      have htwice : ((2 * n : ℤ) : ℚ) = (3 : ℤ) := by
        push_cast
        linarith
      have : 2 * n = 3 := by exact_mod_cast htwice
      omega

end PredictATrade.Realtime
