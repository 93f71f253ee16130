import PredictATrade.Lib.Runs
import PredictATrade.Realtime.Gates

/-!
# `Realtime.PositionCaps` — how many signals of a strategy are out at once

`PositionCapsGate` compares a count of the strategy's positions with `MaxPerStrategy`. Where the
broker's snapshot reports none of the strategy, the count is that of the gate's own records that
have not expired. Where it reports some, the report is the count; and where the snapshot is unknown
and nothing is reported, nothing is counted at all. `withinCap_throughout_iff`: over a run, the
records stay within the cap exactly when no evaluation that passes without counting them finds the
cap already used up.
-/

namespace PredictATrade.Realtime
open Lib.Runs

/-! ## The gate -/

/-- The configuration of `PositionCapsGate`. -/
structure PositionCapsGate where
  maxSameDirection : ℤ
  maxTotal : ℤ
  maxPerStrategy : ℤ
  deriving DecidableEq, Repr

/-- The records of the gate, by strategy the times at which the signals issued for it expire; and
the time it is. -/
structure Issued where
  issued : StrategyID → List Time := fun _ => []
  now : Time

/-- `countIssued`, at a time. -/
def Issued.countIssued (s : Issued) (id : StrategyID) (t : Time) : ℤ :=
  (s.issued id).countP fun expiry => decide (t < expiry)

/-- `RecordIssued`. -/
def Issued.recordIssued (s : Issued) (id : StrategyID) (ttl : ℤ) : Issued :=
  { s with issued := fun i => if i = id then s.issued i ++ [s.now + ttl] else s.issued i }

/-- The reason of the cap on positions. -/
def reasonPositionCap : String := "position_cap"

/-- The caps that are reached: the reasons of a veto. -/
def PositionCapsGate.violations (g : PositionCapsGate) (input : GateInput) (perStrategy : ℤ) :
    List String :=
  let sameDir :=
    if input.direction = .sell then input.openSellPositions else input.openBuyPositions
  (if 0 < g.maxSameDirection ∧ g.maxSameDirection ≤ sameDir then
    [reasonPositionCap ++ ":same_direction"] else []) ++
  (if 0 < g.maxTotal ∧ g.maxTotal ≤ input.openBuyPositions + input.openSellPositions then
    [reasonPositionCap ++ ":total"] else []) ++
  (if 0 < g.maxPerStrategy ∧ g.maxPerStrategy ≤ perStrategy then
    [reasonPositionCap ++ ":per_strategy"] else [])

/-- `PositionCapsGate.Evaluate`. -/
def PositionCapsGate.evaluate (g : PositionCapsGate) (s : Issued) (input : GateInput) :
    GateEvaluation :=
  if !input.positionsKnown then
    if input.openBuyPositions + input.openSellPositions + input.strategyOpenPositions = 0 then
      { gateID := .positionCaps, result := .pass, reasonCodes := ["positions_unknown_zero_issued"] }
    else { gateID := .positionCaps, result := .degraded, reasonCodes := ["positions_unknown"] }
  else
    let perStrategy :=
      if input.strategyOpenPositions = 0 then s.countIssued input.strategyID s.now
      else input.strategyOpenPositions
    let violations := g.violations input perStrategy
    if violations = [] then { gateID := .positionCaps, result := .pass }
    else { gateID := .positionCaps, result := .veto, reasonCodes := violations }

/-! ## Runs -/

/-- Time passes, or a signal is evaluated. Where the evaluation passes, the signal is recorded as
issued `delay` later, with the time it is to live, and before anything else is evaluated. -/
inductive CapsEvent where
  | elapse (d : ℕ)
  | evaluate (input : GateInput) (delay : ℕ) (ttl : ℤ)

/-- Time passes. -/
def Issued.elapse (s : Issued) (d : ℕ) : Issued := { s with now := s.now + d }

/-- What happens to the leases and positions. -/
def PositionCapsGate.step (g : PositionCapsGate) (s : Issued) : CapsEvent → Issued
  | .elapse d => s.elapse d
  | .evaluate input delay ttl =>
    if (g.evaluate s input).result = .pass then
      (s.elapse delay).recordIssued input.strategyID ttl
    else s

/-- No strategy has more unexpired records than its cap, if it has one. -/
def PositionCapsGate.WithinCap (g : PositionCapsGate) (s : Issued) : Prop :=
  0 < g.maxPerStrategy → ∀ id, s.countIssued id s.now ≤ g.maxPerStrategy

/-- The evaluation passes without a look at the records: the snapshot is unknown and reports nothing,
or it is known and what it reports of the strategy is below every cap. -/
def PositionCapsGate.PassesUncounted (g : PositionCapsGate) (input : GateInput) : Prop :=
  (input.positionsKnown = false ∧
    input.openBuyPositions + input.openSellPositions + input.strategyOpenPositions = 0) ∨
  (input.positionsKnown = true ∧ input.strategyOpenPositions ≠ 0 ∧
    g.violations input input.strategyOpenPositions = [])

/-- When a signal passes uncounted, there is room for its record by the time it is recorded. -/
def PositionCapsGate.HasRoom (g : PositionCapsGate) (s : Issued) : CapsEvent → Prop
  | .elapse _ => True
  | .evaluate input delay ttl =>
    0 < g.maxPerStrategy → g.PassesUncounted input → 0 < ttl →
      s.countIssued input.strategyID (s.now + delay) < g.maxPerStrategy

variable {g : PositionCapsGate} {s : Issued} {input : GateInput} {id : StrategyID} {t u : Time}

/-! ## Counting -/

/-- Records only expire. -/
theorem countIssued_mono (h : t ≤ u) : s.countIssued id u ≤ s.countIssued id t := by
  unfold Issued.countIssued
  have hcount : (s.issued id).countP (fun expiry => decide (u < expiry)) ≤
      (s.issued id).countP (fun expiry => decide (t < expiry)) := by
    refine List.countP_mono_left fun expiry _ hlive => ?_
    simp only [decide_eq_true_eq] at hlive ⊢
    exact lt_of_le_of_lt h hlive
  exact_mod_cast hcount

/-- A record counts for its own strategy, as long as it is to live. -/
theorem countIssued_recordIssued (s : Issued) (id : StrategyID) (ttl : ℤ) (i : StrategyID) :
    (s.recordIssued id ttl).countIssued i s.now =
      s.countIssued i s.now + if i = id ∧ 0 < ttl then 1 else 0 := by
  unfold Issued.countIssued Issued.recordIssued
  by_cases hi : i = id
  · by_cases ht : 0 < ttl
    · simp [hi, ht, List.countP_append]
    · simp [hi, ht, List.countP_append]
  · simp [hi]

/-- What makes an evaluation pass: it does not count, or it counts and finds room. -/
theorem evaluate_pass (h : (g.evaluate s input).result = .pass) :
    g.PassesUncounted input ∨
      (0 < g.maxPerStrategy → s.countIssued input.strategyID s.now < g.maxPerStrategy) := by
  unfold PositionCapsGate.evaluate at h
  cases hk : input.positionsKnown with
  | false =>
    by_cases hzero :
        input.openBuyPositions + input.openSellPositions + input.strategyOpenPositions = 0
    · exact Or.inl (Or.inl ⟨hk, hzero⟩)
    · simp [hk, hzero] at h
  | true =>
    by_cases hrep : input.strategyOpenPositions = 0
    · right
      intro hmax
      by_contra hfull
      have hcap : g.violations input (s.countIssued input.strategyID s.now) ≠ [] := by
        simp [PositionCapsGate.violations, hmax, not_lt.mp hfull]
      simp [hk, hrep, hcap] at h
    · by_cases hv : g.violations input input.strategyOpenPositions = []
      · exact Or.inl (Or.inr ⟨hk, hrep, hv⟩)
      · simp [hk, hrep, hv] at h

theorem evaluate_of_passesUncounted (h : g.PassesUncounted input) :
    (g.evaluate s input).result = .pass := by
  unfold PositionCapsGate.evaluate
  rcases h with ⟨hk, hzero⟩ | ⟨hk, hrep, hv⟩
  · simp [hk, hzero]
  · simp [hk, hrep, hv]

/-! ## The cap -/

theorem now_le_elapse (s : Issued) (d : ℕ) : s.now ≤ (s.elapse d).now :=
  Int.le_add_of_nonneg_right (Int.natCast_nonneg d)

theorem withinCap_elapse (h : g.WithinCap s) (d : ℕ) : g.WithinCap (s.elapse d) := by
  intro hmax id
  have hle : (s.elapse d).countIssued id (s.elapse d).now ≤ s.countIssued id s.now :=
    countIssued_mono (now_le_elapse s d)
  exact le_trans hle (h hmax id)

/-- The step lemma: with room for what passes uncounted, the cap is kept. -/
theorem withinCap_step (h : g.WithinCap s) (ev : CapsEvent) (hroom : g.HasRoom s ev) :
    g.WithinCap (g.step s ev) := by
  cases ev with
  | elapse d => exact withinCap_elapse h d
  | evaluate input delay ttl =>
    simp only [PositionCapsGate.step]
    split
    · rename_i hpass
      intro hmax id
      have hlater := withinCap_elapse h delay hmax id
      show ((s.elapse delay).recordIssued input.strategyID ttl).countIssued id
        (s.elapse delay).now ≤ g.maxPerStrategy
      rw [countIssued_recordIssued]
      by_cases hnew : id = input.strategyID ∧ 0 < ttl
      · obtain ⟨rfl, httl⟩ := hnew
        have hroom' : s.countIssued input.strategyID (s.now + delay) < g.maxPerStrategy := by
          rcases evaluate_pass hpass with hun | hcount
          · exact hroom hmax hun httl
          · -- counted at the evaluation; by the time of the record there are no more
            exact lt_of_le_of_lt (countIssued_mono (now_le_elapse s delay)) (hcount hmax)
        simp only [httl, and_self, if_true]
        exact Int.add_one_le_of_lt hroom'
      · simp only [hnew, if_false, add_zero]
        exact hlater
    · exact h

/-- A signal that passes uncounted and without room takes the records over the cap. -/
theorem not_withinCap_step (ev : CapsEvent) (hroom : ¬ g.HasRoom s ev) :
    ¬ g.WithinCap (g.step s ev) := by
  cases ev with
  | elapse d => exact absurd trivial hroom
  | evaluate input delay ttl =>
    simp only [PositionCapsGate.HasRoom, not_forall, not_lt] at hroom
    obtain ⟨hmax, hun, httl, hfull⟩ := hroom
    intro h
    simp only [PositionCapsGate.step, evaluate_of_passesUncounted hun, if_true] at h
    have hcount : ((s.elapse delay).recordIssued input.strategyID ttl).countIssued
        input.strategyID (s.elapse delay).now ≤ g.maxPerStrategy := h hmax input.strategyID
    rw [countIssued_recordIssued] at hcount
    simp only [httl, and_self, if_true] at hcount
    exact absurd hfull (not_le.mpr (Int.lt_of_add_one_le hcount))

/-- **When the cap holds.** Over every run of a new gate: the unexpired records of every strategy
stay within the cap exactly when each signal that passes uncounted finds room for its record. -/
theorem withinCap_throughout_iff (g : PositionCapsGate) (t : Time) (evs : List CapsEvent) :
    Throughout g.step g.WithinCap { now := t } evs ↔ Along g.step g.HasRoom { now := t } evs := by
  refine throughout_iff_along (J := g.WithinCap) (fun _ h => h)
    (fun _ ev h hroom => withinCap_step h ev hroom)
    (fun _ ev _ hroom => not_withinCap_step ev hroom) ?_
  intro hmax id
  show (0 : ℤ) ≤ g.maxPerStrategy
  omega

/-- A trend swing while the broker's snapshot is missing. -/
def blindInput : GateInput :=
  { tick := none, strategyID := .trendSwing, timeframe := some .h4, direction := .buy
    regime := none, spread := 0, atr := 0, entryPrice := 0, stopLoss := 0, takeProfit1 := 0
    takeProfit2 := 0, takeProfit3 := 0, roundTripCost := 0, currentExposure := 0, maxExposure := 0
    newsRisk := "", sessionAllowed := true, entitlementOK := true, licenseActive := true
    executionPermitted := true, structuralLow := 0, structuralHigh := 0, accountEquity := 0
    accountFreeMargin := 0, accountLeverage := 0, symbolTickValue := 0, symbolTickSize := 0
    lotStep := 0, lotMin := 0, requestedLot := 0, positionsKnown := false, openBuyPositions := 0
    openSellPositions := 0, strategyOpenPositions := 0, isLossCandidate := false
    entryGatePassed := true, refinementProvided := true, qualityTier := ""
    shadowExecutable := false }

/-- **Two signals under a cap of one.** Without a snapshot the second trend swing passes although
the first is still out. -/
theorem blind_exceeds_cap :
    (run (PositionCapsGate.step ⟨1, 2, 1⟩) { now := 0 }
        [.evaluate blindInput 0 86400000, .evaluate blindInput 0 86400000]).countIssued
          .trendSwing 0 = 2 ∧
      ¬ Throughout (PositionCapsGate.step ⟨1, 2, 1⟩) (PositionCapsGate.WithinCap ⟨1, 2, 1⟩)
        { now := 0 } [.evaluate blindInput 0 86400000, .evaluate blindInput 0 86400000] := by
  have htwo : (run (PositionCapsGate.step ⟨1, 2, 1⟩) { now := 0 }
      [.evaluate blindInput 0 86400000, .evaluate blindInput 0 86400000]).countIssued
        .trendSwing 0 = 2 := by decide +kernel
  refine ⟨htwo, fun h => ?_⟩
  have hcap := h _ List.prefix_rfl (by decide) .trendSwing
  have hnow : (run (PositionCapsGate.step ⟨1, 2, 1⟩) { now := 0 }
      [.evaluate blindInput 0 86400000, .evaluate blindInput 0 86400000]).now = 0 := by
    decide +kernel
  rw [hnow, htwo] at hcap
  exact absurd hcap (by decide)

end PredictATrade.Realtime
