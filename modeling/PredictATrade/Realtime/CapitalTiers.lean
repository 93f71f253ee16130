import Mathlib.Algebra.Order.Field.Rat
import Mathlib.Logic.Function.Basic
import Mathlib.Tactic.Linarith
import Mathlib.Tactic.Ring
import PredictATrade.Realtime.Types

/-!
# `Realtime.CapitalTiers` — which accounts can afford the smallest lot

`evaluate` says for which tiers of capital the risk of the smallest lot fits the cap on a trade, taken at the
reference equity of the tier. A tier that is eligible is to be so for every account that `classify` puts in
it, and each tier is to be eligible or excluded.

The reference equity of the lowest tier is 100, and an account below that is classified into it all the same;
and a negative cost excludes that tier without taking it from the eligible ones. `tiers_iff` says for which
signals and equities neither matters. A longer stop never makes a tier eligible.

Risks and caps are exact: a signal whose risk is a cap to the last place of `float64` can be judged the
other way by the source.
-/

namespace PredictATrade.Realtime.CapitalTier

/-- `unknown` is the tier of an account whose equity has not been streamed. -/
inductive Tier where
  | unknown | micro | standard | pro
  deriving DecidableEq, Repr

/-- Where the lowest tier ends. -/
def microUpperBound : Float64 := 500

/-- Where the middle tier ends. -/
def standardUpperBound : Float64 := 5000

/-- `Classify`. -/
def classify (equity : Float64) : Tier :=
  if equity ≤ 0 then .unknown
  else if equity < microUpperBound then .micro
  else if equity < standardUpperBound then .standard
  else .pro

/-- `All`, the concrete tiers. -/
def all : List Tier := [.micro, .standard, .pro]

/-- The multiplier that the caps are taken with. -/
def effectiveMult (riskCapMult : Float64) : Float64 := if riskCapMult ≤ 0 then 1 else riskCapMult

/-- `PerTradeRiskCapPct`. -/
def perTradeRiskCapPct (riskCapMult : Float64) (t : Tier) : Float64 :=
  let mult := effectiveMult riskCapMult
  match t with
  | .micro => 4 * mult
  | .standard => 5 * mult
  | .pro => 2 * mult
  | .unknown => 0

/-- `tierReferenceEquity`. -/
def tierReferenceEquity : Tier → Float64
  | .micro => 100
  | .standard => 500
  | .pro => 5000
  | .unknown => 0

/-- The tiers that are eligible, and why the others are not. -/
structure Eligibility where
  eligibleTiers : List Tier := []
  exclusions : Tier → Option String := fun _ => none

/-- The cap of a tier in dollars, at its reference equity. -/
def capDollars (riskCapMult : Float64) (t : Tier) : Float64 :=
  tierReferenceEquity t * perTradeRiskCapPct riskCapMult t / 100

/-- The turn of the loop for a tier. -/
def judge (riskCapMult minLotRisk : Float64) (el : Eligibility) (t : Tier) : Eligibility :=
  if minLotRisk > capDollars riskCapMult t then
    { el with exclusions := Function.update el.exclusions t (some "min_lot_risk_exceeds_tier_cap") }
  else { el with eligibleTiers := el.eligibleTiers ++ [t] }

/-- The loop for a stop without a distance. -/
def rejectAll (el : Eligibility) : Eligibility :=
  all.foldl (fun el t =>
    { el with exclusions := Function.update el.exclusions t (some "invalid_sl_distance") }) el

/-- `Evaluate`. -/
def evaluate (riskCapMult slDistancePoints roundTripCost : Float64) : Eligibility :=
  if slDistancePoints ≤ 0 then rejectAll {}
  else
    let minLotRisk := slDistancePoints * 1
    let el := all.foldl (judge riskCapMult minLotRisk) {}
    if roundTripCost < 0 then
      { el with exclusions := Function.update el.exclusions .micro (some "cost_model_unavailable") }
    else el

/-! ## What the tiers are for -/

/-- The signal of a stop distance and a cost, and an account. -/
structure Case where
  riskCapMult : Float64
  slDistancePoints : Float64
  roundTripCost : Float64
  equity : Float64
  deriving DecidableEq, Repr

namespace Case
variable (c : Case)

/-- The eligibility of the signal. -/
def eligibility : Eligibility := evaluate c.riskCapMult c.slDistancePoints c.roundTripCost

/-- What the eligibility promises of an account. -/
structure Law : Prop where
  /-- The account can afford the smallest lot if its tier is eligible. -/
  affordable : classify c.equity ∈ c.eligibility.eligibleTiers →
    c.slDistancePoints * 1 ≤ perTradeRiskCapPct c.riskCapMult (classify c.equity) / 100 * c.equity
  /-- A tier is eligible or excluded, and not both. -/
  oneOf : ∀ t ∈ all, t ∈ c.eligibility.eligibleTiers ↔ c.eligibility.exclusions t = none
  /-- A longer stop is eligible for no other tier. -/
  antitone : ∀ sl, 0 < c.slDistancePoints → c.slDistancePoints ≤ sl →
    (evaluate c.riskCapMult sl c.roundTripCost).eligibleTiers ⊆ c.eligibility.eligibleTiers

/-- The stop is not for the lowest tier, or the cost is known and the account is not too small: it has the
reference equity of that tier, or none that is known, or enough for this stop. -/
def Holds : Prop :=
  c.slDistancePoints ≤ 0 ∨ 4 * effectiveMult c.riskCapMult < c.slDistancePoints ∨
    0 ≤ c.roundTripCost ∧
      (c.equity ≤ 0 ∨ 100 ≤ c.equity ∨ 25 * c.slDistancePoints ≤ effectiveMult c.riskCapMult * c.equity)

end Case

/-! ## The verdict on a tier -/

section

variable {mult sl sl' cost e : Float64} {t : Tier}

theorem effectiveMult_pos (mult : Float64) : 0 < effectiveMult mult := by
  unfold effectiveMult
  split
  · exact one_pos
  · next h => exact not_le.mp h

theorem capDollars_micro : capDollars mult .micro = 4 * effectiveMult mult := by
  show (100 : ℚ) * (4 * effectiveMult mult) / 100 = _
  ring

theorem foldl_judge_eligibleTiers (ts : List Tier) (el : Eligibility) :
    (ts.foldl (judge mult sl) el).eligibleTiers =
      el.eligibleTiers ++ ts.filter fun t => sl ≤ capDollars mult t := by
  induction ts generalizing el with
  | nil => exact (List.append_nil _).symm
  | cons t ts ih =>
    rw [List.foldl_cons, ih]
    unfold judge
    by_cases h : sl > capDollars mult t
    · rw [if_pos h, List.filter_cons_of_neg (by simpa using h)]
    · rw [if_neg h, List.filter_cons_of_pos (by simpa using h), List.append_assoc]
      rfl

theorem foldl_judge_exclusions (ts : List Tier) (el : Eligibility) (t : Tier) :
    (ts.foldl (judge mult sl) el).exclusions t =
      if t ∈ ts ∧ capDollars mult t < sl then some "min_lot_risk_exceeds_tier_cap"
      else el.exclusions t := by
  induction ts generalizing el with
  | nil => exact (if_neg fun h => List.not_mem_nil h.1).symm
  | cons s ts ih =>
    rw [List.foldl_cons, ih]
    unfold judge
    by_cases hlater : t ∈ ts ∧ capDollars mult t < sl
    · rw [if_pos hlater, if_pos ⟨List.mem_cons_of_mem _ hlater.1, hlater.2⟩]
    rw [if_neg hlater]
    by_cases hs : sl > capDollars mult s
    · rw [if_pos hs]
      by_cases heq : t = s
      · subst heq
        rw [if_pos ⟨List.mem_cons_self, hs⟩]
        exact Function.update_self ..
      · rw [if_neg fun h => hlater ⟨(List.mem_cons.mp h.1).resolve_left heq, h.2⟩]
        exact Function.update_of_ne heq ..
    · rw [if_neg hs, if_neg]
      rintro ⟨hmem, hlt⟩
      rcases List.mem_cons.mp hmem with rfl | hmem
      · exact hs hlt
      · exact hlater ⟨hmem, hlt⟩

/-- **Eligible tiers.** Those whose cap the smallest lot fits, for a stop with a distance. -/
theorem mem_eligibleTiers :
    t ∈ (evaluate mult sl cost).eligibleTiers ↔ 0 < sl ∧ t ∈ all ∧ sl ≤ capDollars mult t := by
  unfold evaluate
  by_cases hsl : sl ≤ 0
  · rw [if_pos hsl]
    exact iff_of_false List.not_mem_nil fun h => absurd h.1 (not_lt.mpr hsl)
  · rw [if_neg hsl, and_iff_right (not_le.mp hsl)]
    have hmem : t ∈ (all.foldl (judge mult (sl * 1)) {}).eligibleTiers ↔
        t ∈ all ∧ sl ≤ capDollars mult t := by
      rw [foldl_judge_eligibleTiers, List.nil_append, List.mem_filter, decide_eq_true_iff, mul_one]
    rw [← hmem]
    dsimp only
    split <;> rfl

/-- **Excluded tiers.** -/
theorem exclusions_eq_none_iff (ht : t ∈ all) :
    (evaluate mult sl cost).exclusions t = none ↔
      0 < sl ∧ sl ≤ capDollars mult t ∧ (t = .micro → 0 ≤ cost) := by
  unfold evaluate
  by_cases hsl : sl ≤ 0
  · rw [if_pos hsl]
    have hsome : (rejectAll {}).exclusions t = some "invalid_sl_distance" := by
      unfold all at ht
      simp only [List.mem_cons, List.not_mem_nil, or_false] at ht
      rcases ht with rfl | rfl | rfl <;> rfl
    rw [hsome]
    exact iff_of_false (Option.some_ne_none _) fun h => absurd h.1 (not_lt.mpr hsl)
  · rw [if_neg hsl, and_iff_right (not_le.mp hsl)]
    have hfold : (all.foldl (judge mult (sl * 1)) {}).exclusions t = none ↔ sl ≤ capDollars mult t := by
      rw [foldl_judge_exclusions, mul_one, ite_eq_right_iff, ← not_lt]
      constructor
      · intro h hlt
        cases h ⟨ht, hlt⟩
      · intro h hlt
        exact absurd hlt.2 h
    dsimp only
    by_cases hcost : cost < 0
    · rw [if_pos hcost]
      dsimp only
      by_cases hmicro : t = .micro
      · rw [hmicro, Function.update_self]
        exact iff_of_false (Option.some_ne_none _) fun h => absurd (h.2 rfl) (not_le.mpr hcost)
      · rw [Function.update_of_ne hmicro, hfold]
        exact (and_iff_left fun h => absurd h hmicro).symm
    · rw [if_neg hcost, hfold]
      exact (and_iff_left fun _ => not_lt.mp hcost).symm

theorem perTradeRiskCapPct_nonneg (mult : Float64) (t : Tier) : 0 ≤ perTradeRiskCapPct mult t := by
  have hpos := effectiveMult_pos mult
  unfold perTradeRiskCapPct
  cases t <;> dsimp only <;> linarith

/-- An account with the reference equity of its tier can afford what the tier can. -/
theorem affordable_of_reference_le (h : sl ≤ capDollars mult t) (he : tierReferenceEquity t ≤ e) :
    sl ≤ perTradeRiskCapPct mult t / 100 * e := by
  have hpct : 0 ≤ perTradeRiskCapPct mult t / 100 :=
    div_nonneg (perTradeRiskCapPct_nonneg mult t) (by norm_num)
  calc sl ≤ capDollars mult t := h
    _ = perTradeRiskCapPct mult t / 100 * tierReferenceEquity t := by
      unfold capDollars
      ring
    _ ≤ perTradeRiskCapPct mult t / 100 * e := mul_le_mul_of_nonneg_left he hpct

theorem tierReferenceEquity_le_of_classify (h : classify e = t) (ht : t ≠ .micro) (he : t ≠ .unknown) :
    tierReferenceEquity t ≤ e := by
  unfold classify microUpperBound standardUpperBound at h
  split_ifs at h with h1 h2 h3
  · exact absurd h.symm he
  · exact absurd h.symm ht
  · rw [← h]
    exact not_lt.mp h2
  · rw [← h]
    exact not_lt.mp h3

theorem classify_micro (h : classify e = .micro) : 0 < e := by
  unfold classify at h
  split_ifs at h with h1 h2 h3
  exact not_le.mp h1

/-- When the tier is not known. -/
theorem classify_unknown_iff : classify e = .unknown ↔ e ≤ 0 := by
  unfold classify
  constructor
  · intro h
    split_ifs at h with h1 h2 h3
    exact h1
  · intro h
    exact if_pos h

end

namespace Case
variable {c : Case}

/-- An account of the lowest tier. -/
theorem affordable_micro_iff (hmicro : classify c.equity = .micro) :
    (classify c.equity ∈ c.eligibility.eligibleTiers →
        c.slDistancePoints ≤ perTradeRiskCapPct c.riskCapMult (classify c.equity) / 100 * c.equity) ↔
      c.slDistancePoints ≤ 0 ∨ 4 * effectiveMult c.riskCapMult < c.slDistancePoints ∨ c.equity ≤ 0 ∨
        100 ≤ c.equity ∨ 25 * c.slDistancePoints ≤ effectiveMult c.riskCapMult * c.equity := by
  have hpos := classify_micro hmicro
  have hpct : perTradeRiskCapPct c.riskCapMult .micro / 100 * c.equity =
      effectiveMult c.riskCapMult * c.equity / 25 := by
    show 4 * effectiveMult c.riskCapMult / 100 * c.equity = _
    ring
  unfold eligibility
  rw [mem_eligibleTiers, hmicro, capDollars_micro, hpct]
  constructor
  · intro h
    by_cases hsl : c.slDistancePoints ≤ 0
    · exact Or.inl hsl
    by_cases hcap : 4 * effectiveMult c.riskCapMult < c.slDistancePoints
    · exact Or.inr (Or.inl hcap)
    have hle := h ⟨not_le.mp hsl, List.mem_cons_self, not_lt.mp hcap⟩
    refine Or.inr (Or.inr (Or.inr (Or.inr ?_)))
    linarith
  · -- the first three leave nothing eligible, the last two make it affordable
    rintro (hsl | hcap | he | he | hle) ⟨hslpos, -, hfits⟩
    · exact absurd hslpos (not_lt.mpr hsl)
    · exact absurd hfits (not_le.mpr hcap)
    · exact absurd hpos (not_lt.mpr he)
    · have hafford := affordable_of_reference_le (hfits.trans capDollars_micro.ge) he
      rw [hpct] at hafford
      exact hafford
    · linarith

/-- Any other account with equity has the reference equity of its tier, and affords what the tier does. -/
theorem affordable_of_ne_micro (hmicro : classify c.equity ≠ .micro)
    (h : classify c.equity ∈ c.eligibility.eligibleTiers) :
    c.slDistancePoints ≤ perTradeRiskCapPct c.riskCapMult (classify c.equity) / 100 * c.equity := by
  obtain ⟨-, hall, hfits⟩ := mem_eligibleTiers.mp h
  have hne : classify c.equity ≠ .unknown := by
    intro heq
    rw [heq] at hall
    exact absurd hall (by decide)
  exact affordable_of_reference_le hfits (tierReferenceEquity_le_of_classify rfl hmicro hne)

theorem equity_of_ne_micro (hmicro : classify c.equity ≠ .micro) : c.equity ≤ 0 ∨ 100 ≤ c.equity := by
  by_cases he : c.equity ≤ 0
  · exact Or.inl he
  · have hne : classify c.equity ≠ .unknown := mt classify_unknown_iff.mp he
    have hbig := tierReferenceEquity_le_of_classify rfl hmicro hne
    refine Or.inr (le_trans ?_ hbig)
    cases hclass : classify c.equity with
    | unknown => exact absurd hclass hne
    | micro => exact absurd hclass hmicro
    | standard =>
      show (100 : ℚ) ≤ 500
      norm_num
    | pro =>
      show (100 : ℚ) ≤ 5000
      norm_num

/-- An eligible tier is affordable, except for the accounts below the reference equity of the lowest. -/
theorem affordable_iff :
    (classify c.equity ∈ c.eligibility.eligibleTiers →
        c.slDistancePoints * 1 ≤ perTradeRiskCapPct c.riskCapMult (classify c.equity) / 100 * c.equity) ↔
      c.slDistancePoints ≤ 0 ∨ 4 * effectiveMult c.riskCapMult < c.slDistancePoints ∨ c.equity ≤ 0 ∨
        100 ≤ c.equity ∨ 25 * c.slDistancePoints ≤ effectiveMult c.riskCapMult * c.equity := by
  rw [mul_one]
  by_cases hmicro : classify c.equity = .micro
  · exact affordable_micro_iff hmicro
  · refine iff_of_true (affordable_of_ne_micro hmicro) (Or.inr (Or.inr ?_))
    rcases equity_of_ne_micro hmicro with he | he
    · exact Or.inl he
    · exact Or.inr (Or.inl he)

/-- A tier is eligible or excluded, except the lowest when the cost is negative. -/
theorem oneOf_iff :
    (∀ t ∈ all, t ∈ c.eligibility.eligibleTiers ↔ c.eligibility.exclusions t = none) ↔
      c.slDistancePoints ≤ 0 ∨ 4 * effectiveMult c.riskCapMult < c.slDistancePoints ∨ 0 ≤ c.roundTripCost := by
  have htier : ∀ t ∈ all, (t ∈ c.eligibility.eligibleTiers ↔ c.eligibility.exclusions t = none) ↔
      (0 < c.slDistancePoints → c.slDistancePoints ≤ capDollars c.riskCapMult t → t = .micro →
        0 ≤ c.roundTripCost) := by
    intro t ht
    unfold eligibility
    rw [mem_eligibleTiers, exclusions_eq_none_iff ht]
    constructor
    · intro h hsl hfits
      exact (h.mp ⟨hsl, ht, hfits⟩).2.2
    · intro h
      constructor
      · rintro ⟨hsl, -, hfits⟩
        exact ⟨hsl, hfits, h hsl hfits⟩
      · rintro ⟨hsl, hfits, -⟩
        exact ⟨hsl, ht, hfits⟩
  rw [forall₂_congr htier]
  constructor
  · intro h
    have hmicro := h .micro List.mem_cons_self
    rw [capDollars_micro] at hmicro
    by_cases hsl : c.slDistancePoints ≤ 0
    · exact Or.inl hsl
    by_cases hcap : 4 * effectiveMult c.riskCapMult < c.slDistancePoints
    · exact Or.inr (Or.inl hcap)
    · exact Or.inr (Or.inr (hmicro (not_le.mp hsl) (not_lt.mp hcap) rfl))
  · rintro (hsl | hcap | hcost) t - hpos hfits rfl
    · exact absurd hpos (not_lt.mpr hsl)
    · rw [capDollars_micro] at hfits
      exact absurd hfits (not_le.mpr hcap)
    · exact hcost

/-- A longer stop makes no tier eligible. -/
theorem eligible_antitone (sl : Float64) (hpos : 0 < c.slDistancePoints) (hle : c.slDistancePoints ≤ sl) :
    (evaluate c.riskCapMult sl c.roundTripCost).eligibleTiers ⊆ c.eligibility.eligibleTiers := by
  intro t ht
  obtain ⟨-, hall, hfits⟩ := mem_eligibleTiers.mp ht
  exact mem_eligibleTiers.mpr ⟨hpos, hall, hle.trans hfits⟩

end Case

/-- **The tiers of a signal.** For every signal and every account: the account affords what its tier is
eligible for, each tier is eligible or excluded, and a longer stop makes none eligible, exactly when the
lowest tier does not matter, or the cost is not negative and the account is not one of the too small. -/
theorem tiers_iff (c : Case) : c.Law ↔ c.Holds := by
  unfold Case.Holds
  constructor
  · intro h
    rcases Case.affordable_iff.mp h.affordable with hsl | hcap | hequity
    · exact Or.inl hsl
    · exact Or.inr (Or.inl hcap)
    rcases Case.oneOf_iff.mp h.oneOf with hsl | hcap | hcost
    · exact Or.inl hsl
    · exact Or.inr (Or.inl hcap)
    · exact Or.inr (Or.inr ⟨hcost, hequity⟩)
  · rintro (hsl | hcap | ⟨hcost, hequity⟩)
    · exact ⟨Case.affordable_iff.mpr (Or.inl hsl), Case.oneOf_iff.mpr (Or.inl hsl), Case.eligible_antitone⟩
    · exact ⟨Case.affordable_iff.mpr (Or.inr (Or.inl hcap)), Case.oneOf_iff.mpr (Or.inr (Or.inl hcap)),
        Case.eligible_antitone⟩
    · exact ⟨Case.affordable_iff.mpr (Or.inr (Or.inr hequity)), Case.oneOf_iff.mpr (Or.inr (Or.inr hcost)),
        Case.eligible_antitone⟩

/-! ## An account below the reference, and a negative cost -/

/-- Fifty dollars, for a stop of four points. -/
def smallAccount : Case := ⟨1, 4, 1 / 2, 50⟩

/-- The cost is not known. -/
def noCost : Case := ⟨1, 4, -1, 200⟩

/-- Four dollars are more than four per cent of fifty, and the lowest tier is eligible and excluded. -/
theorem tiers_slip : ¬ smallAccount.Law ∧ ¬ noCost.Law := by
  constructor
  · intro h
    exact absurd (h.affordable (by decide +kernel)) (by decide +kernel)
  · intro h
    exact absurd ((h.oneOf .micro List.mem_cons_self).mp (by decide +kernel)) (by decide +kernel)

end PredictATrade.Realtime.CapitalTier
