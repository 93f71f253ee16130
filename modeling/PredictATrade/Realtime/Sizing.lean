import PredictATrade.Lib.Largest
import PredictATrade.Realtime.CapitalGates

/-!
# `Realtime.Sizing` — the lot that a stop can afford

`ComputeSizing` compares the risk of the requested lot with the budget of a trade, and suggests the
largest lot of the broker's step that the budget affords. `RiskOversizeGate` judges the result, and
proposes the broker's minimum where no lot of the step fits; the decision trades the proposed lot, or
else the requested one.

With `evaluate_eq` the gate is two comparisons. `risk_consistent_iff` says for which inputs the lot that
is traded keeps to the budget.

Risks, budgets and lots are exact: the rounding of `float64` in the last place, which can move the floor
of a quotient that is a whole number of steps, is not modelled here.
-/

namespace PredictATrade.Realtime
open Lib.Largest

/-! ## Sizing -/

/-- The size of a contract, where the symbol has none. -/
def defaultContractSize : Float64 := 100

/-- The value of a tick, where the symbol has none. -/
def defaultTickValue : Float64 := 1

/-- The size of a tick, where the symbol has none. -/
def defaultTickSize : Float64 := 1 / 100

/-- The step of a lot, where the symbol has none. -/
def defaultLotStep : Float64 := 1 / 100

/-- The smallest lot. -/
def minLot : Float64 := 1 / 100

/-- What a symbol is traded with. -/
structure SymbolEconomics where
  tickValue : Float64 := 0
  tickSize : Float64 := 0
  lotStep : Float64 := 0
  contractSize : Float64 := 0
  lotMin : Float64 := 0
  deriving DecidableEq, Repr

/-- A value that is missing gives way to its default. -/
def orDefault (x default : Float64) : Float64 := if x ≤ 0 then default else x

/-- The symbol with the defaults for what is not positive. -/
def normalizeEconomics (e : SymbolEconomics) : SymbolEconomics where
  tickValue := orDefault e.tickValue defaultTickValue
  tickSize := orDefault e.tickSize defaultTickSize
  lotStep := orDefault e.lotStep defaultLotStep
  contractSize := orDefault e.contractSize defaultContractSize
  lotMin := orDefault e.lotMin minLot

/-- What a lot loses at the stop. -/
def riskPerLot (stopDistance : Float64) (e : SymbolEconomics) : Float64 :=
  let e := normalizeEconomics e
  if stopDistance ≤ 0 then 0 else stopDistance / e.tickSize * e.tickValue

/-- The largest multiple of the step that is not over the value, with an allowance of 1e-9 steps. -/
def floorToStep (v step : Float64) : Float64 :=
  if step ≤ 0 then v else ⌊v / step + 1 / 10 ^ 9⌋ * step

/-- The largest lot of the step that the budget affords. -/
def suggestedLot (equity riskPctOfEquity stopDistance : Float64) (e : SymbolEconomics) : Float64 :=
  let e := normalizeEconomics e
  let rpl := riskPerLot stopDistance e
  if equity ≤ 0 ∨ riskPctOfEquity ≤ 0 ∨ rpl ≤ 0 then 0
  else
    let lots := floorToStep (equity * riskPctOfEquity / 100 / rpl) e.lotStep
    if lots < e.lotMin then 0 else lots

/-- What so many lots lose at the stop. -/
def riskDollars (lot stopDistance : Float64) (e : SymbolEconomics) : Float64 :=
  riskPerLot stopDistance e * lot

/-- The sizing annotations. (The margin check is made elsewhere.) -/
structure SizingResult where
  slDistancePoints : Float64 := 0
  requestedLot : Float64
  suggestedLot : Float64 := 0
  riskDollars : Float64 := 0
  riskPctOfEquity : Float64 := 0
  oversize : Bool := false
  vetoOversize : Bool := false
  deriving DecidableEq, Repr

/-- `ComputeSizing`. -/
def computeSizing (equity riskPctOfEquity entry sl requestedLot : Float64) (e : SymbolEconomics) :
    SizingResult :=
  let e := normalizeEconomics e
  if entry ≤ 0 ∨ sl ≤ 0 then { requestedLot := requestedLot, vetoOversize := true }
  else
    let distance := |entry - sl|
    let rpl := riskPerLot distance e
    if rpl ≤ 0 ∨ equity ≤ 0 then
      { slDistancePoints := distance, requestedLot := requestedLot, vetoOversize := true }
    else
      let suggested := suggestedLot equity riskPctOfEquity distance e
      let dollars := rpl * requestedLot
      let oversize := decide (equity * riskPctOfEquity / 100 < dollars)
      { slDistancePoints := distance
        requestedLot := requestedLot
        suggestedLot := suggested
        riskDollars := dollars
        riskPctOfEquity := dollars / equity * 100
        oversize := oversize
        vetoOversize := oversize && decide (suggested < e.lotMin) }

/-! ## The gate -/

/-- The reason of a risk over the budget. -/
def reasonRiskOversize : String := "risk_oversize"

/-- The reason of a budget under the smallest lot. -/
def reasonRiskUndersize : String := "risk_undersize"

/-- The symbol of a gate's input. -/
def GateInput.economics (input : GateInput) : SymbolEconomics where
  tickValue := input.symbolTickValue
  tickSize := input.symbolTickSize
  lotStep := input.lotStep
  lotMin := input.lotMin

/-- What a trade may lose: the percentage of the equity. -/
def GateInput.budget (maxRiskPerTradePct : Float64) (input : GateInput) : Float64 :=
  input.accountEquity * maxRiskPerTradePct / 100

/-- The veto of the gate. -/
def riskVeto (reason : String) : GateEvaluation :=
  { gateID := .riskOversize, result := .veto, reasonCodes := [reason] }

/-- The pass with a smaller lot, where the requested one is over the budget and no lot of the step
fits. -/
def sizeDown (maxRiskPerTradePct : Float64) (input : GateInput) : Option Float64 :=
  let slDist := |input.entryPrice - input.stopLoss|
  let lotStep := orDefault input.lotStep (1 / 100)
  let lotMin := orDefault input.lotMin (1 / 100)
  let econSafe := { input.economics with lotStep := lotStep, lotMin := lotMin }
  if 0 < slDist ∧ 0 < econSafe.tickValue then
    let perLot := riskDollars 1 slDist econSafe
    if 0 < perLot then
      let safe := (⌊input.budget maxRiskPerTradePct / perLot / lotStep⌋ : Float64) * lotStep
      let safe := if safe < lotMin then lotMin else safe
      if 0 < safe then some safe else none
    else none
  else none

/-- `RiskOversizeGate.Evaluate`. -/
def riskOversizeGate {V : Type} (maxRiskPerTradePct : Float64) : Gate V where
  evaluate input _ :=
    if maxRiskPerTradePct ≤ 0 ∨ input.entryPrice ≤ 0 ∨ input.stopLoss ≤ 0 then
      riskVeto reasonRiskOversize
    else if input.accountEquity ≤ 0 then riskVeto reasonRiskOversize
    else if (computeSizing input.accountEquity maxRiskPerTradePct input.entryPrice input.stopLoss
        input.requestedLot input.economics).vetoOversize then
      match sizeDown maxRiskPerTradePct input with
      | some safe =>
        { gateID := .riskOversize, result := .pass, safeLot := safe
          reasonCodes := [reasonRiskOversize ++ "_SIZED_DOWN"] }
      | none => riskVeto reasonRiskOversize
    else if 0 < input.lotMin ∧ input.budget maxRiskPerTradePct <
        riskDollars input.lotMin |input.entryPrice - input.stopLoss| input.economics then
      riskVeto reasonRiskUndersize
    else { gateID := .riskOversize, result := .pass }

/-- The lot that is traded on an evaluation: the proposed one, or else the requested one. -/
def effectiveLot (input : GateInput) (ev : GateEvaluation) : Float64 :=
  if 0 < ev.safeLot then ev.safeLot else input.requestedLot

/-- The risk of one lot at the stop. -/
def GateInput.riskPerLot (input : GateInput) : Float64 :=
  Realtime.riskPerLot |input.entryPrice - input.stopLoss| input.economics

/-- The broker's minimum lot, or the default. -/
def GateInput.minimumLot (input : GateInput) : Float64 := orDefault input.lotMin minLot

/-- The largest lot of the step within the budget, as the code rounds. -/
def GateInput.stepLot (maxRiskPerTradePct : Float64) (input : GateInput) : Float64 :=
  floorToStep (input.budget maxRiskPerTradePct / input.riskPerLot)
    (orDefault input.lotStep defaultLotStep)

/-! ## The law -/

/-- A lot that is let through risks no more than the budget and is no larger than the requested one; and
where no lot from the minimum on keeps to the budget, nothing is let through. -/
structure RiskConsistent (maxRiskPerTradePct : Float64) (input : GateInput) (ev : GateEvaluation) :
    Prop where
  withinBudget : ev.result = .pass →
    input.riskPerLot * effectiveLot input ev ≤ input.budget maxRiskPerTradePct
  notLarger : ev.result = .pass → effectiveLot input ev ≤ input.requestedLot
  vetoed : (∀ lot, input.minimumLot ≤ lot →
    input.budget maxRiskPerTradePct < input.riskPerLot * lot) → ev.result = .veto

/-- What the gate needs to compute anything: a budget, and a stop away from the entry. -/
structure Sizable (maxRiskPerTradePct : Float64) (input : GateInput) : Prop where
  pct : 0 < maxRiskPerTradePct
  entry : 0 < input.entryPrice
  stop : 0 < input.stopLoss
  equity : 0 < input.accountEquity
  distance : input.entryPrice ≠ input.stopLoss

/-- The inputs for which the lot that is traded keeps to the budget: nothing can be sized; or the
requested lot is within the budget, and the minimum is known or within it as well; or it is over the
budget and no lot of the step fits, where the tick value is missing or the minimum is within the budget;
or a lot of the step fits, and a known minimum is over the budget all the same. -/
def KeepsBudget (maxRiskPerTradePct : Float64) (input : GateInput) : Prop :=
  let budget := input.budget maxRiskPerTradePct
  ¬ Sizable maxRiskPerTradePct input ∨
    (input.riskPerLot * input.requestedLot ≤ budget ∧
      (0 < input.lotMin ∨ input.riskPerLot * input.minimumLot ≤ budget)) ∨
    (budget < input.riskPerLot * input.requestedLot ∧
      input.stepLot maxRiskPerTradePct < input.minimumLot ∧
      (input.symbolTickValue ≤ 0 ∨ input.riskPerLot * input.minimumLot ≤ budget)) ∨
    (budget < input.riskPerLot * input.requestedLot ∧
      input.minimumLot ≤ input.stepLot maxRiskPerTradePct ∧
      0 < input.lotMin ∧ budget < input.riskPerLot * input.lotMin)

section
variable {V : Type} {pct : Float64} {input : GateInput} {state : GateState V}

/-! ## The sizing of an input -/

theorem orDefault_pos {x default : Float64} (h : 0 < default) : 0 < orDefault x default := by
  unfold orDefault
  split
  · exact h
  · exact not_le.mp ‹_›

theorem orDefault_orDefault {x default : Float64} (h : 0 < default) :
    orDefault (orDefault x default) default = orDefault x default :=
  if_neg (not_le.mpr (orDefault_pos h))

theorem minimumLot_pos : 0 < input.minimumLot := orDefault_pos (by norm_num [minLot])

theorem minimumLot_of_pos (h : 0 < input.lotMin) : input.minimumLot = input.lotMin :=
  if_neg (not_le.mpr h)

theorem normalizeEconomics_idem (e : SymbolEconomics) :
    normalizeEconomics (normalizeEconomics e) = normalizeEconomics e := by
  simp [normalizeEconomics, orDefault_orDefault, defaultTickValue, defaultTickSize, defaultLotStep,
    defaultContractSize, minLot]

theorem riskPerLot_normalize (d : Float64) (e : SymbolEconomics) :
    riskPerLot d (normalizeEconomics e) = riskPerLot d e := by
  unfold riskPerLot
  rw [normalizeEconomics_idem]

theorem riskPerLot_pos (h : input.entryPrice ≠ input.stopLoss) : 0 < input.riskPerLot := by
  have hdist : 0 < |input.entryPrice - input.stopLoss| := abs_pos.mpr (sub_ne_zero.mpr h)
  have hsize : 0 < orDefault input.symbolTickSize defaultTickSize :=
    orDefault_pos (by norm_num [defaultTickSize])
  have hvalue : 0 < orDefault input.symbolTickValue defaultTickValue :=
    orDefault_pos (by norm_num [defaultTickValue])
  unfold GateInput.riskPerLot riskPerLot
  dsimp only
  rw [if_neg (not_le.mpr hdist)]
  exact mul_pos (div_pos hdist hsize) hvalue

/-- The suggested lot is below the minimum exactly when the lot of the step is. -/
theorem suggestedLot_lt_iff (hs : Sizable pct input) :
    suggestedLot input.accountEquity pct |input.entryPrice - input.stopLoss|
        (normalizeEconomics input.economics) < input.minimumLot ↔
      input.stepLot pct < input.minimumLot := by
  have hrpl := riskPerLot_pos hs.distance
  have hcond : ¬ (input.accountEquity ≤ 0 ∨ pct ≤ 0 ∨ input.riskPerLot ≤ 0) := by
    simp only [not_or, not_le]
    exact ⟨hs.equity, hs.pct, hrpl⟩
  have heq : suggestedLot input.accountEquity pct |input.entryPrice - input.stopLoss|
      (normalizeEconomics input.economics) =
      if input.stepLot pct < input.minimumLot then 0 else input.stepLot pct := by
    unfold suggestedLot
    dsimp only
    rw [normalizeEconomics_idem, riskPerLot_normalize]
    exact if_neg hcond
  rw [heq]
  split
  · exact iff_of_true minimumLot_pos ‹_›
  · exact iff_of_false ‹_› ‹_›

/-- When the sizing vetoes. -/
theorem computeSizing_veto_iff (hs : Sizable pct input) :
    (computeSizing input.accountEquity pct input.entryPrice input.stopLoss input.requestedLot
        input.economics).vetoOversize = true ↔
      input.budget pct < input.riskPerLot * input.requestedLot ∧
        input.stepLot pct < input.minimumLot := by
  have hprices : ¬ (input.entryPrice ≤ 0 ∨ input.stopLoss ≤ 0) := by
    simp only [not_or, not_le]
    exact ⟨hs.entry, hs.stop⟩
  have hrpl : ¬ (riskPerLot |input.entryPrice - input.stopLoss| input.economics ≤ 0 ∨
      input.accountEquity ≤ 0) := by
    simp only [not_or, not_le]
    exact ⟨riskPerLot_pos hs.distance, hs.equity⟩
  rw [← suggestedLot_lt_iff hs]
  unfold computeSizing
  dsimp only
  rw [riskPerLot_normalize, if_neg hprices, if_neg hrpl, Bool.and_eq_true, decide_eq_true_eq,
    decide_eq_true_eq]
  rfl

/-- **Sizing down proposes the minimum**: where no lot of the step fits, rounding once more without the
allowance fits none either. -/
theorem sizeDown_eq (hs : Sizable pct input) (hstep : input.stepLot pct < input.minimumLot) :
    sizeDown pct input = if 0 < input.symbolTickValue then some input.minimumLot else none := by
  have hdist : 0 < |input.entryPrice - input.stopLoss| := abs_pos.mpr (sub_ne_zero.mpr hs.distance)
  have hlot : 0 < orDefault input.lotStep defaultLotStep :=
    orDefault_pos (by norm_num [defaultLotStep])
  have hperLot : riskDollars 1 |input.entryPrice - input.stopLoss|
      { input.economics with
        lotStep := orDefault input.lotStep (1 / 100), lotMin := orDefault input.lotMin (1 / 100) } =
      input.riskPerLot := mul_one _
  have hfloor : (⌊input.budget pct / input.riskPerLot / orDefault input.lotStep defaultLotStep⌋ :
      Float64) * orDefault input.lotStep defaultLotStep < input.minimumLot := by
    refine lt_of_le_of_lt ?_ hstep
    unfold GateInput.stepLot floorToStep
    rw [if_neg (not_le.mpr hlot)]
    apply mul_le_mul_of_nonneg_right _ hlot.le
    exact_mod_cast Int.floor_le_floor (by norm_num)
  unfold sizeDown
  dsimp only
  rw [hperLot]
  by_cases htick : 0 < input.symbolTickValue
  · rw [if_pos ⟨hdist, htick⟩, if_pos (riskPerLot_pos hs.distance), if_pos htick]
    have hsafe : (if (⌊input.budget pct / input.riskPerLot / orDefault input.lotStep (1 / 100)⌋ :
        Float64) * orDefault input.lotStep (1 / 100) < orDefault input.lotMin (1 / 100)
        then orDefault input.lotMin (1 / 100) else
          ⌊input.budget pct / input.riskPerLot / orDefault input.lotStep (1 / 100)⌋ *
            orDefault input.lotStep (1 / 100)) = input.minimumLot := if_pos hfloor
    rw [hsafe, if_pos minimumLot_pos]
  · rw [if_neg fun h => htick h.2, if_neg htick]

/-! ## The gate -/

/-- A veto keeps to every budget. -/
theorem RiskConsistent.of_veto {ev : GateEvaluation} (h : ev.result = .veto) :
    RiskConsistent pct input ev := by
  have hpass : ev.result ≠ .pass := by
    rw [h]
    decide
  exact ⟨fun hp => absurd hp hpass, fun hp => absurd hp hpass, fun _ => h⟩

/-- Without anything to size, the gate vetoes. -/
theorem veto_of_not_sizable (h : ¬ Sizable pct input) :
    ((riskOversizeGate pct).evaluate input state).result = .veto := by
  unfold riskOversizeGate
  dsimp only
  by_cases hparams : pct ≤ 0 ∨ input.entryPrice ≤ 0 ∨ input.stopLoss ≤ 0
  · rw [if_pos hparams]
    rfl
  by_cases hequity : input.accountEquity ≤ 0
  · rw [if_neg hparams, if_pos hequity]
    rfl
  -- the stop is at the entry
  simp only [not_or, not_le] at hparams hequity
  obtain ⟨hpct, hentry, hstop⟩ := hparams
  have heq : input.entryPrice = input.stopLoss := by
    by_contra hne
    exact h ⟨hpct, hentry, hstop, hequity, hne⟩
  have hveto : (computeSizing input.accountEquity pct input.entryPrice input.stopLoss
      input.requestedLot input.economics).vetoOversize = true := by
    simp [computeSizing, heq, riskPerLot]
  have hnone : sizeDown pct input = none := by simp [sizeDown, heq]
  rw [if_neg (by simp [hpct, hentry, hstop]), if_neg (not_le.mpr hequity), if_pos hveto, hnone]
  rfl

/-- **The gate as two comparisons.** -/
theorem evaluate_eq (hs : Sizable pct input) :
    (riskOversizeGate pct).evaluate input state =
      if input.budget pct < input.riskPerLot * input.requestedLot ∧
          input.stepLot pct < input.minimumLot then
        if 0 < input.symbolTickValue then
          { gateID := .riskOversize, result := .pass, safeLot := input.minimumLot
            reasonCodes := [reasonRiskOversize ++ "_SIZED_DOWN"] }
        else riskVeto reasonRiskOversize
      else if 0 < input.lotMin ∧ input.budget pct < input.riskPerLot * input.lotMin then
        riskVeto reasonRiskUndersize
      else { gateID := .riskOversize, result := .pass } := by
  have hparams : ¬ (pct ≤ 0 ∨ input.entryPrice ≤ 0 ∨ input.stopLoss ≤ 0) := by
    simp only [not_or, not_le]
    exact ⟨hs.pct, hs.entry, hs.stop⟩
  unfold riskOversizeGate
  dsimp only
  rw [if_neg hparams, if_neg (not_le.mpr hs.equity)]
  simp only [computeSizing_veto_iff hs]
  by_cases hover : input.budget pct < input.riskPerLot * input.requestedLot ∧
      input.stepLot pct < input.minimumLot
  · rw [if_pos hover, if_pos hover, sizeDown_eq hs hover.2]
    by_cases htick : 0 < input.symbolTickValue
    · rw [if_pos htick, if_pos htick]
    · rw [if_neg htick, if_neg htick]
  · rw [if_neg hover, if_neg hover]
    rfl

/-- No lot from the minimum on keeps to the budget exactly when the minimum does not. -/
theorem none_affordable_iff (hs : Sizable pct input) :
    (∀ lot, input.minimumLot ≤ lot → input.budget pct < input.riskPerLot * lot) ↔
      input.budget pct < input.riskPerLot * input.minimumLot := by
  constructor
  · intro h
    exact h _ le_rfl
  · intro h lot hlot
    exact h.trans_le (mul_le_mul_of_nonneg_left hlot (riskPerLot_pos hs.distance).le)

/-- **A risk-consistent lot, exactly.** For any budget and input, the decision of the gate keeps to the
budget if and only if the input is one for which it does. -/
theorem risk_consistent_iff (pct : Float64) (input : GateInput) (state : GateState V) :
    RiskConsistent pct input ((riskOversizeGate pct).evaluate input state) ↔
      KeepsBudget pct input := by
  by_cases hs : Sizable pct input
  swap
  · exact iff_of_true (.of_veto (veto_of_not_sizable hs)) (Or.inl hs)
  have hrpl := riskPerLot_pos hs.distance
  have hmin : 0 < input.minimumLot := minimumLot_pos
  have hnone := none_affordable_iff hs
  rw [evaluate_eq hs]
  unfold KeepsBudget
  dsimp only
  simp only [not_not.mpr hs, false_or]
  rcases le_or_gt (input.riskPerLot * input.requestedLot) (input.budget pct) with hq | hq
  · -- the requested lot is within the budget
    rw [if_neg fun h => absurd h.1 (not_lt.mpr hq)]
    simp only [hq, true_and, not_lt.mpr hq, false_and, or_false]
    by_cases hunder : 0 < input.lotMin ∧ input.budget pct < input.riskPerLot * input.lotMin
    · rw [if_pos hunder]
      exact iff_of_true (.of_veto rfl) (Or.inl hunder.1)
    · rw [if_neg hunder]
      constructor
      · intro h
        rcases lt_or_ge 0 input.lotMin with hknown | hknown
        · exact Or.inl hknown
        · right
          by_contra hover
          have hveto := h.vetoed (hnone.mpr (not_le.mp hover))
          cases hveto
      · intro h
        refine ⟨fun _ => hq, fun _ => le_rfl, fun hall => ?_⟩
        have hover := hnone.mp hall
        rcases h with hknown | hfits
        · rw [minimumLot_of_pos hknown] at hover
          exact absurd ⟨hknown, hover⟩ hunder
        · exact absurd hover (not_lt.mpr hfits)
  · simp only [hq, not_le.mpr hq, false_and, true_and, false_or]
    rcases lt_or_ge (input.stepLot pct) input.minimumLot with hstep | hstep
    · -- no lot of the step fits: the minimum is proposed, or nothing is let through
      simp only [hstep, not_le.mpr hstep, if_true, false_and, or_false, true_and]
      rcases lt_or_ge 0 input.symbolTickValue with htick | htick
      · rw [if_pos htick]
        simp only [not_le.mpr htick, false_or]
        have hlot : effectiveLot input
            { gateID := .riskOversize, result := .pass, safeLot := input.minimumLot
              reasonCodes := [reasonRiskOversize ++ "_SIZED_DOWN"] } = input.minimumLot :=
          if_pos hmin
        constructor
        · intro h
          have hfits := h.withinBudget rfl
          rwa [hlot] at hfits
        · intro hfits
          refine ⟨fun _ => ?_, fun _ => ?_, fun hall => ?_⟩
          · rwa [hlot]
          · rw [hlot]
            exact le_of_lt (lt_of_mul_lt_mul_left (hfits.trans_lt hq) hrpl.le)
          · exact absurd (hnone.mp hall) (not_lt.mpr hfits)
      · rw [if_neg (not_lt.mpr htick)]
        exact iff_of_true (.of_veto rfl) (Or.inl htick)
    · -- a lot of the step fits, and the requested one is let through all the same
      simp only [hstep, not_lt.mpr hstep, if_false, false_and, false_or, true_and]
      by_cases hunder : 0 < input.lotMin ∧ input.budget pct < input.riskPerLot * input.lotMin
      · rw [if_pos hunder]
        exact iff_of_true (.of_veto rfl) hunder
      · rw [if_neg hunder]
        refine iff_of_false (fun h => ?_) hunder
        have hfits : input.riskPerLot * input.requestedLot ≤ input.budget pct := h.withinBudget rfl
        exact absurd hfits (not_le.mpr hq)

/-- The decision trades the effective lot of the gate, if the other gates propose none. -/
theorem delivered_suggestedLot (e : Engine V) (input : DecisionInput) (evs : Evaluations) (rr : Decimal)
    {ev : GateEvaluation} (hmem : ev ∈ evs.evaluations)
    (hothers : ∀ ge ∈ evs.evaluations, ge = ev ∨ ge.safeLot ≤ 0) :
    ((e.delivered input evs rr).signal.map (·.suggestedLot)) =
      some (effectiveLot input.gateInput ev) := by
  have hlargest : safeLot evs.evaluations = largest 0 (evs.evaluations.map (·.safeLot)) := by
    unfold safeLot largest
    rw [List.foldl_map]
  have hlot : safeLot evs.evaluations = if 0 < ev.safeLot then ev.safeLot else 0 := by
    rw [hlargest]
    by_cases hpos : 0 < ev.safeLot
    · rw [if_pos hpos]
      apply largest_eq (Or.inr (List.mem_map_of_mem hmem)) hpos.le
      intro w hw
      obtain ⟨ge, hge, rfl⟩ := List.mem_map.mp hw
      rcases hothers ge hge with rfl | hnone
      · exact le_rfl
      · exact hnone.trans hpos.le
    · rw [if_neg hpos]
      apply largest_eq (Or.inl rfl) le_rfl
      intro w hw
      obtain ⟨ge, hge, rfl⟩ := List.mem_map.mp hw
      rcases hothers ge hge with rfl | hnone
      · exact not_lt.mp hpos
      · exact hnone
  show some (if 0 < safeLot evs.evaluations then safeLot evs.evaluations else input.requestedLot) = _
  rw [hlot]
  unfold effectiveLot
  by_cases hpos : 0 < ev.safeLot
  · rw [if_pos hpos, if_pos hpos, if_pos hpos]
  · rw [if_neg hpos, if_neg (lt_irrefl 0), if_neg hpos]
    rfl

end

/-- A thousand dollars, a stop ten dollars away, and so many lots asked for. -/
def tenDollarStop (lot : Float64) : GateInput :=
  { (swingInput .buyCandidate).gateInput with
    entryPrice := 2400, stopLoss := 2390, accountEquity := 1000, symbolTickValue := 1
    symbolTickSize := 1 / 100, lotStep := 1 / 100, lotMin := 1 / 100, requestedLot := lot }

/-- A cached state of the gate. -/
def anyState : GateState Unit := { value := (), state := .pass }

/-- **Ten times the budget is let through.** One percent affords 0.01 lots, 0.10 are asked for and
traded. -/
theorem oversize_passes :
    ((riskOversizeGate 1).evaluate (tenDollarStop (1 / 10)) anyState).result = .pass ∧
      effectiveLot (tenDollarStop (1 / 10))
        ((riskOversizeGate 1).evaluate (tenDollarStop (1 / 10)) anyState) = 1 / 10 ∧
      (tenDollarStop (1 / 10)).riskPerLot * (1 / 10) = 100 ∧
      (tenDollarStop (1 / 10)).budget 1 = 10 ∧
      ¬ RiskConsistent 1 (tenDollarStop (1 / 10))
        ((riskOversizeGate 1).evaluate (tenDollarStop (1 / 10)) anyState) := by
  have hpass : ((riskOversizeGate 1).evaluate (tenDollarStop (1 / 10)) anyState).result = .pass := by
    decide +kernel
  have hlot : effectiveLot (tenDollarStop (1 / 10))
      ((riskOversizeGate 1).evaluate (tenDollarStop (1 / 10)) anyState) = 1 / 10 := by
    decide +kernel
  have hrisk : (tenDollarStop (1 / 10)).riskPerLot * (1 / 10) = 100 := by decide +kernel
  have hbudget : (tenDollarStop (1 / 10)).budget 1 = 10 := by decide +kernel
  refine ⟨hpass, hlot, hrisk, hbudget, fun h => ?_⟩
  have hle := h.withinBudget hpass
  rw [hlot, hrisk, hbudget] at hle
  norm_num at hle

end PredictATrade.Realtime
