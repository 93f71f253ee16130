import PredictATrade.Lib.Binary64
import PredictATrade.Realtime.Sizing

/-!
# `Realtime.MarginCap` — the lot that the free margin can carry

`MarginAwareLotCapWith` lets a lot through whose margin is within its share of the free margin, and caps
one whose margin is not. The capped lot is the affordable one, rounded down to the broker's step; below
the minimum it is nothing.

The minimum is the constant of the package and not the broker's own, which `SuggestedLot` takes. And the capped
lot is not compared with the budget again: `FloorToStep` rounds up what is within a billionth of a step of a whole
one, and the last binary place of the lot and of its margin can be over as well. Such a lot is not let through when it
is submitted again. `margin_cap_law_iff` says that this is all that goes wrong.

Every operation is rounded to a double here; one of `2 ^ 1024` or more, an infinity as a double, is beyond what is
modelled.
-/

namespace PredictATrade.Realtime
open Lib.Binary64

/-- How much of the free margin may be used. -/
def defaultMaxMarginUsagePct : Float64 := 30

/-- `MarginCheck`. -/
structure MarginCheck where
  allowed : Bool := false
  reason : String := ""
  requiredMargin : Float64 := 0
  marginBudget : Float64 := 0
  cappedLot : Float64 := 0
  equity : Float64
  deriving DecidableEq, Repr

/-- `MinLot` as a double. -/
def minLot64 : Float64 := fl minLot

/-- `NormalizeEconomics`, with its defaults as doubles. -/
def normalizeEconomics64 (e : SymbolEconomics) : SymbolEconomics where
  tickValue := orDefault e.tickValue (fl defaultTickValue)
  tickSize := orDefault e.tickSize (fl defaultTickSize)
  lotStep := orDefault e.lotStep (fl defaultLotStep)
  contractSize := orDefault e.contractSize (fl defaultContractSize)
  lotMin := orDefault e.lotMin minLot64

/-- `FloorToStep`, each operation rounded. -/
def floorToStep64 (v step : Float64) : Float64 :=
  if step ≤ 0 then v else fl (⌊fl (fl (v / step) + fl (1 / 10 ^ 9))⌋ * step)

/-- `MarginAwareLotCapWith`. -/
def marginAwareLotCapWith (equity freeMargin lot price leverage maxMarginUsagePct : Float64)
    (e : SymbolEconomics) : MarginCheck :=
  let e := normalizeEconomics64 e
  if leverage ≤ 0 then { equity, reason := "leverage_unknown" }
  else
    let marginBudget := fl (fl (freeMargin * orDefault maxMarginUsagePct defaultMaxMarginUsagePct) / 100)
    let requiredMargin := fl (fl (fl (lot * e.contractSize) * price) / leverage)
    if requiredMargin ≤ 0 ∨ marginBudget ≤ 0 then
      { equity, marginBudget, requiredMargin, reason := "margin_state_unknown" }
    else if marginBudget < requiredMargin then
      let capped := floorToStep64 (fl (fl (marginBudget * leverage) / fl (e.contractSize * price))) e.lotStep
      { equity, marginBudget, requiredMargin, reason := "margin_exceeded"
        cappedLot := if capped < minLot64 then 0 else capped }
    else { equity, marginBudget, requiredMargin, allowed := true, cappedLot := lot }

/-- `MarginAwareLotCap`. -/
def marginAwareLotCap (equity freeMargin lot price leverage : Float64) : MarginCheck :=
  marginAwareLotCapWith equity freeMargin lot price leverage defaultMaxMarginUsagePct {}

/-- An account with the parameters of its margin, and the broker's symbol. -/
structure MarginInput where
  equity : Float64
  freeMargin : Float64
  price : Float64
  leverage : Float64
  maxMarginUsagePct : Float64
  economics : SymbolEconomics

section
variable (i : MarginInput) (lot : Float64)

/-- The check of a lot. -/
def MarginInput.check : MarginCheck :=
  marginAwareLotCapWith i.equity i.freeMargin lot i.price i.leverage i.maxMarginUsagePct i.economics

/-- The share of the free margin that may be used. -/
def MarginInput.budget : Float64 :=
  fl (fl (i.freeMargin * orDefault i.maxMarginUsagePct defaultMaxMarginUsagePct) / 100)

/-- The contract size of the broker, or the default. -/
def MarginInput.contractSize : Float64 := orDefault i.economics.contractSize (fl defaultContractSize)

/-- The margin that the lot takes. -/
def MarginInput.required : Float64 := fl (fl (fl (lot * i.contractSize) * i.price) / i.leverage)

/-- The lot step of the broker, or the default. -/
def MarginInput.lotStep : Float64 := orDefault i.economics.lotStep (fl defaultLotStep)

/-- The broker's own minimum, or the default. -/
def MarginInput.lotMin : Float64 := orDefault i.economics.lotMin minLot64

/-- The steps that the budget affords, with the billionth that `FloorToStep` adds. -/
def MarginInput.steps : Float64 :=
  fl (fl (fl (fl (i.budget * i.leverage) / fl (i.contractSize * i.price)) / i.lotStep) + fl (1 / 10 ^ 9))

/-- The lot of a whole number of steps. -/
def MarginInput.lotOf (n : ℤ) : Float64 := fl (n * i.lotStep)

/-! ## The law -/

/-- The margin can be computed. -/
structure MarginInput.Known : Prop where
  leverage : 0 < i.leverage
  required : 0 < i.required lot
  budget : 0 < i.budget

/-- The capped lot is not above the requested one; it is nothing, or a tradable lot of the broker's; and it
goes through when it is submitted again. -/
structure MarginCapLaw : Prop where
  notLarger : (i.check lot).cappedLot ≤ lot
  tradable : ¬ (i.check lot).allowed →
    (i.check lot).cappedLot = 0 ∨
      (∃ n : ℤ, (i.check lot).cappedLot = i.lotOf n) ∧ i.lotMin ≤ (i.check lot).cappedLot
  again : 0 < (i.check lot).cappedLot →
    (i.check (i.check lot).cappedLot).allowed ∧
      (i.check (i.check lot).cappedLot).cappedLot = (i.check lot).cappedLot

/-- No whole number of the affordable steps makes the smallest lot of the package; or one makes the broker's smallest
lot, and none makes a lot whose margin is over the budget. -/
def MarginInput.Fits : Prop :=
  (∀ n : ℤ, n ≤ i.steps → i.lotOf n < minLot64) ∨
    (∃ n : ℤ, n ≤ i.steps ∧ i.lotMin ≤ i.lotOf n ∧ 0 < i.required (i.lotOf n)) ∧
      ∀ n : ℤ, n ≤ i.steps → i.required (i.lotOf n) ≤ i.budget

/-- A lot that does not go through is not negative; and if its margin is known, the affordable steps fit. -/
def MarginInput.Capped : Prop :=
  ¬ (i.Known lot ∧ i.required lot ≤ i.budget) → 0 ≤ lot ∧ (i.Known lot → i.Fits)

/-! ## The check -/

theorem fl_default_pos {x : ℚ} (h : 1 / 1000 ≤ x) : 0 < fl x := by
  have hdouble := double_zpow (e := -10) (by norm_num)
  have hle := hdouble.le_fl (le_trans (by norm_num) h)
  exact lt_of_lt_of_le (two_zpow_pos _) hle

/-- The step of a lot is positive. -/
theorem lotStep_pos : 0 < i.lotStep := orDefault_pos (fl_default_pos (by norm_num [defaultLotStep]))

theorem contractSize_pos : 0 < i.contractSize :=
  orDefault_pos (fl_default_pos (by norm_num [defaultContractSize]))

theorem minLot64_pos : 0 < minLot64 := fl_default_pos (by norm_num [minLot])

theorem check_unknown (h : ¬ i.Known lot) :
    (i.check lot).allowed = false ∧ (i.check lot).cappedLot = 0 := by
  unfold MarginInput.check marginAwareLotCapWith
  dsimp only
  by_cases hlev : i.leverage ≤ 0
  · rw [if_pos hlev]
    exact ⟨rfl, rfl⟩
  · rw [if_neg hlev, if_pos]
    · exact ⟨rfl, rfl⟩
    · by_contra hmargin
      rw [not_or, not_le, not_le] at hmargin
      exact h ⟨not_le.mp hlev, hmargin.1, hmargin.2⟩

theorem check_within (h : i.Known lot) (hle : i.required lot ≤ i.budget) :
    (i.check lot).allowed = true ∧ (i.check lot).cappedLot = lot := by
  unfold MarginInput.check marginAwareLotCapWith
  dsimp only
  rw [if_neg (not_le.mpr h.leverage), if_neg, if_neg]
  · exact ⟨rfl, rfl⟩
  · exact not_lt.mpr hle
  · rw [not_or, not_le, not_le]
    exact ⟨h.required, h.budget⟩

/-- A lot over the budget is capped to the whole steps that the budget affords. -/
theorem check_exceeded (h : i.Known lot) (hlt : i.budget < i.required lot) :
    (i.check lot).allowed = false ∧
      (i.check lot).cappedLot = if i.lotOf ⌊i.steps⌋ < minLot64 then 0 else i.lotOf ⌊i.steps⌋ := by
  have hfloor : floorToStep64 (fl (fl (i.budget * i.leverage) / fl (i.contractSize * i.price))) i.lotStep =
      i.lotOf ⌊i.steps⌋ := if_neg (not_le.mpr (lotStep_pos i))
  rw [← hfloor]
  unfold MarginInput.check marginAwareLotCapWith
  dsimp only
  rw [if_neg (not_le.mpr h.leverage), if_neg, if_pos]
  · exact ⟨rfl, rfl⟩
  · exact hlt
  · rw [not_or, not_le, not_le]
    exact ⟨h.required, h.budget⟩

/-- A lot that takes a margin, and is not negative, has a price. -/
theorem price_pos (h : i.Known lot) (hlot : 0 ≤ lot) : 0 < i.price := by
  have hquot := pos_of_fl_pos h.required
  rw [div_pos_iff_of_pos_right h.leverage] at hquot
  have hprod := pos_of_fl_pos hquot
  have hvalue : 0 ≤ fl (lot * i.contractSize) := fl_nonneg (mul_nonneg hlot (contractSize_pos i).le)
  by_contra hprice
  exact absurd hprod (not_lt.mpr (mul_nonpos_of_nonneg_of_nonpos hvalue (not_lt.mp hprice)))

/-- More steps make no smaller a lot. -/
theorem lotOf_mono {m n : ℤ} (h : m ≤ n) : i.lotOf m ≤ i.lotOf n :=
  fl_mono (mul_le_mul_of_nonneg_right (by exact_mod_cast h) (lotStep_pos i).le)

variable {lot} in
/-- A larger lot takes no smaller a margin. -/
theorem required_mono (hlev : 0 < i.leverage) (hprice : 0 < i.price) {lot' : Float64} (h : lot ≤ lot') :
    i.required lot ≤ i.required lot' := by
  unfold MarginInput.required
  apply fl_mono
  apply div_le_div_of_nonneg_right _ hlev.le
  apply fl_mono
  apply mul_le_mul_of_nonneg_right _ hprice.le
  exact fl_mono (mul_le_mul_of_nonneg_right h (contractSize_pos i).le)

/-! ## The law, case by case -/

/-- The conditions on the affordable steps are about the largest whole number of them. -/
theorem fits_iff (hlev : 0 < i.leverage) (hprice : 0 < i.price) :
    i.Fits ↔ i.lotOf ⌊i.steps⌋ < minLot64 ∨
      (i.lotMin ≤ i.lotOf ⌊i.steps⌋ ∧ 0 < i.required (i.lotOf ⌊i.steps⌋)) ∧
        i.required (i.lotOf ⌊i.steps⌋) ≤ i.budget := by
  have hfloor : (⌊i.steps⌋ : ℚ) ≤ i.steps := Int.floor_le _
  have hlot : ∀ n : ℤ, n ≤ i.steps → i.lotOf n ≤ i.lotOf ⌊i.steps⌋ := fun n hn =>
    lotOf_mono i (Int.le_floor.mpr hn)
  unfold MarginInput.Fits
  refine or_congr ⟨fun h => h _ hfloor, fun h n hn => (hlot n hn).trans_lt h⟩ (and_congr ?_ ?_)
  · constructor
    · rintro ⟨n, hn, hmin, hpos⟩
      exact ⟨hmin.trans (hlot n hn), hpos.trans_le (required_mono i hlev hprice (hlot n hn))⟩
    · rintro ⟨hmin, hpos⟩
      exact ⟨_, hfloor, hmin, hpos⟩
  · exact ⟨fun h => h _ hfloor, fun h n hn => (required_mono i hlev hprice (hlot n hn)).trans h⟩

/-- With a lot that goes through nothing can be wrong. -/
theorem law_within (h : i.Known lot) (hle : i.required lot ≤ i.budget) : MarginCapLaw i lot := by
  obtain ⟨hallowed, hcapped⟩ := check_within i lot h hle
  constructor
  · exact hcapped.le
  · intro hnot
    exact absurd hallowed hnot
  · intro _
    rw [hcapped]
    exact ⟨hallowed, hcapped⟩

/-- Without a known margin nothing goes through. -/
theorem law_unknown_iff (h : ¬ i.Known lot) : MarginCapLaw i lot ↔ 0 ≤ lot := by
  obtain ⟨-, hcapped⟩ := check_unknown i lot h
  constructor
  · intro hlaw
    have hle := hlaw.notLarger
    rwa [hcapped] at hle
  · intro hlot
    constructor
    · rw [hcapped]
      exact hlot
    · exact fun _ => Or.inl hcapped
    · intro hpos
      rw [hcapped] at hpos
      exact absurd hpos (lt_irrefl 0)

/-- A lot over the budget is capped to a tradable one that goes through exactly when the affordable steps
fit. -/
theorem law_exceeded_iff (h : i.Known lot) (hlt : i.budget < i.required lot) (hlot : 0 ≤ lot) :
    MarginCapLaw i lot ↔ i.Fits := by
  have hprice := price_pos i lot h hlot
  obtain ⟨hallowed, hcapped⟩ := check_exceeded i lot h hlt
  rw [fits_iff i h.leverage hprice]
  set capped := i.lotOf ⌊i.steps⌋
  by_cases hsmall : capped < minLot64
  · -- it is capped to nothing
    rw [if_pos hsmall] at hcapped
    refine iff_of_true ⟨hcapped.trans_le hlot, fun _ => Or.inl hcapped, fun hpos => ?_⟩
      (Or.inl hsmall)
    rw [hcapped] at hpos
    exact absurd hpos (lt_irrefl 0)
  · rw [if_neg hsmall] at hcapped
    have hpos : 0 < capped := minLot64_pos.trans_le (not_lt.mp hsmall)
    rw [or_iff_right hsmall]
    constructor
    · intro hlaw
      have htradable := hlaw.tradable (by rw [hallowed]; decide)
      have hagain := hlaw.again (by rw [hcapped]; exact hpos)
      rw [hcapped] at htradable hagain
      have hknown : i.Known capped := by
        by_contra hunknown
        rw [(check_unknown i capped hunknown).1] at hagain
        exact absurd hagain.1 (by decide)
      refine ⟨⟨?_, hknown.required⟩, ?_⟩
      · rcases htradable with hzero | ⟨-, hmin⟩
        · exact absurd hzero hpos.ne'
        · exact hmin
      · by_contra hover
        have hrejected := (check_exceeded i _ hknown (not_le.mp hover)).1
        rw [hagain.1] at hrejected
        exact absurd hrejected (by decide)
    · rintro ⟨⟨hmin, hrequired⟩, hle⟩
      have hknown : i.Known capped := ⟨h.leverage, hrequired, h.budget⟩
      -- a capped lot above the requested one would take the margin that is over the budget
      have hnotLarger : capped ≤ lot := by
        by_contra hlarger
        have hmono := required_mono i h.leverage hprice (not_le.mp hlarger).le
        exact absurd (hlt.trans_le hmono) (not_lt.mpr hle)
      constructor
      · rw [hcapped]
        exact hnotLarger
      · rw [hcapped]
        exact fun _ => Or.inr ⟨⟨_, rfl⟩, hmin⟩
      · rw [hcapped]
        exact fun _ => check_within i _ hknown hle

/-- A negative lot that does not go through is capped to more than it. -/
theorem not_law_of_neg (hnot : ¬ (i.Known lot ∧ i.required lot ≤ i.budget)) (hlot : lot < 0) :
    ¬ MarginCapLaw i lot := by
  intro hlaw
  have hle := hlaw.notLarger
  have hnonneg : 0 ≤ (i.check lot).cappedLot := by
    by_cases hknown : i.Known lot
    · have hlt : i.budget < i.required lot := not_le.mp fun hle => hnot ⟨hknown, hle⟩
      rw [(check_exceeded i lot hknown hlt).2]
      split
      · exact le_rfl
      · next hsmall => exact minLot64_pos.le.trans (not_lt.mp hsmall)
    · rw [(check_unknown i lot hknown).2]
  exact absurd (hnonneg.trans hle) (not_le.mpr hlot)

/-- **The margin cap.** The law of the capped lot holds exactly when the lot goes through, or is not negative
and, where its margin is known, the affordable steps fit. -/
theorem margin_cap_law_iff : MarginCapLaw i lot ↔ i.Capped lot := by
  unfold MarginInput.Capped
  by_cases hpass : i.Known lot ∧ i.required lot ≤ i.budget
  · exact iff_of_true (law_within i lot hpass.1 hpass.2) fun hnot => absurd hpass hnot
  · rw [imp_iff_right hpass]
    by_cases hlot : 0 ≤ lot
    · rw [and_iff_right hlot]
      by_cases hknown : i.Known lot
      · rw [imp_iff_right hknown]
        exact law_exceeded_iff i lot hknown (not_le.mp fun hle => hpass ⟨hknown, hle⟩) hlot
      · rw [law_unknown_iff i lot hknown]
        exact iff_of_true hlot fun h => absurd h hknown
    · refine iff_of_false (not_law_of_neg i lot hpass (not_le.mp hlot)) fun h => hlot h.1

end

/-- An account with that much free margin, for a symbol with the given smallest lot. -/
def account (freeMargin lotMin : Float64) : MarginInput where
  equity := 1000
  freeMargin
  price := 2400
  leverage := 100
  maxMarginUsagePct := 30
  economics := { lotMin }

/-- The lot of 0.5 is capped to 0.05, which a broker whose smallest lot is 0.1 does not trade. With a free margin of
560 it is capped to 0.07; its margin is a little over the budget of 168, and the second time it is not let through. -/
theorem capped_below_broker_minimum :
    ((account 400 (fl (1 / 10))).check (1 / 2)).cappedLot = fl (5 / 100) ∧
      ¬ MarginCapLaw (account 400 (fl (1 / 10))) (1 / 2) ∧
      ((account 560 0).check (1 / 2)).cappedLot = fl (7 / 100) ∧
      ¬ MarginCapLaw (account 560 0) (1 / 2) := by
  have hcapped : ((account 400 (fl (1 / 10))).check (1 / 2)).cappedLot = fl (5 / 100) := by decide +kernel
  have hcapped' : ((account 560 0).check (1 / 2)).cappedLot = fl (7 / 100) := by decide +kernel
  refine ⟨hcapped, fun h => ?_, hcapped', fun h => ?_⟩
  · have htradable := h.tradable (by decide +kernel)
    rw [hcapped] at htradable
    rcases htradable with hzero | ⟨-, hmin⟩
    · exact absurd hzero (by decide +kernel)
    · exact absurd hmin (by decide +kernel)
  · have hagain := h.again (by decide +kernel)
    rw [hcapped'] at hagain
    exact absurd hagain.1 (by decide +kernel)

end PredictATrade.Realtime
