import PredictATrade.Realtime.Strategies

/-!
# `Realtime.Veto` — does the veto reach the result?

The four strategies put the direction that the evidence favours under the veto of the higher
timeframe. `Respects` says that the result obeys the veto: its direction is one that the filter lets
through, and no price is filled in for any other.

Standard scalping always obeys it. The other three give the result its direction before the veto
changes a local copy, so that a vetoed direction stays, with its levels; and a transition of trend
swing is not put under the veto at all. `respects_iff` says when they obey it nevertheless: where the
filter lets the favoured side through anyway.
-/

namespace PredictATrade.Realtime.Strategy
open Features

/-- A result obeys the veto of the higher timeframe. -/
structure Respects (state : Option MarketState) (r : StrategyResult) : Prop where
  buy : r.direction = .buy → htfTrendFilter state .buy = true
  sell : r.direction = .sell → htfTrendFilter state .sell = true
  levels : ∀ price ∈ r.levels, price ≠ 0 →
    (r.direction = .buy ∨ r.direction = .sell) ∧ htfTrendFilter state r.direction = true

/-- The threshold that the evidence of a strategy has to pass for a direction. -/
def Env.candidateThreshold (env : Env) (cfg : StrategyConfig) (st : MarketState) : Float64 :=
  (getRegimeThresholds env cfg.strategyID st.regime.current cfg.minConfluence).1

/-- What a strategy scores, when an evaluation gets that far: the evidence under its family caps,
and the threshold. -/
def Canonical.scores (env : Env) (st : MarketState) :
    Canonical → Option (List EvidenceContribution × Float64)
  | .standardScalping =>
    if st.indicators.atr = 0 ∨ StandardScalping.stops st ≠ [] then none
    else some (applyFamilyCaps (StandardScalping.evidence st),
      env.candidateThreshold StandardScalping.cfg st)
  | .ultraScalping =>
    if st.indicators.atr = 0 ∨ UltraScalping.stops st ≠ [] then none
    else some (applyFamilyCaps (UltraScalping.evidence st),
      env.candidateThreshold UltraScalping.cfg st)
  | .standardSwing =>
    if st.indicators.atr = 0 ∨ StandardSwing.stops st ≠ [] then none
    else some (applyFamilyCaps (StandardSwing.evidence st),
      env.candidateThreshold StandardSwing.cfg st)
  | .trendSwing =>
    if st.indicators.atr = 0 then none
    else if isRegimeInRange st.regime.current then
      some (TrendSwing.transitionEvidence st, TrendSwing.transitionCandidateThreshold)
    else if TrendSwing.stops st ≠ [] then none
    else some (applyFamilyCaps (TrendSwing.evidence st),
      env.candidateThreshold TrendSwing.cfg st)

/-- The filter lets through whichever side the scored evidence favours. -/
def Canonical.Unvetoed (s : Canonical) (env : Env) (state : Option MarketState) : Prop :=
  ∀ st, state = some st → ∀ evidence candidateThreshold,
    s.scores env st = some (evidence, candidateThreshold) →
    ∀ dir, Favours dir evidence candidateThreshold → htfTrendFilter state dir = true

/-! ## The filter -/

section
variable {env : Env} {st : MarketState} {state : Option MarketState} {cfg : StrategyConfig}
  {dir : Direction} {limit : Decimal} {reasons : List NoTradeReason} {r : StrategyResult}
  {evidence : List EvidenceContribution} {candidate trade : Float64}

/-- The filter refuses a BUY or a SELL only. -/
theorem htfTrendFilter_of_not_directional (hbuy : dir ≠ .buy) (hsell : dir ≠ .sell) :
    htfTrendFilter state dir = true := by
  unfold htfTrendFilter
  split
  · rfl
  · cases dir with
    | buy => exact absurd rfl hbuy
    | sell => exact absurd rfl hsell
    | _ => rfl

/-- An evaluation that stops early ends without a direction. -/
theorem htfTrendFilter_stopped (h : r.direction = .noTrade ∨ r.direction = .error) :
    htfTrendFilter state r.direction = true := by
  rcases h with h | h <;> rw [h] <;>
  exact htfTrendFilter_of_not_directional (by decide) (by decide)

/-- The filter lets the scored direction through exactly when it lets the favoured side through. -/
theorem htfTrendFilter_scored_iff :
    htfTrendFilter state (scoreDirectionWithThresholds evidence candidate trade 0).direction =
        true ↔
      ∀ dir, Favours dir evidence candidate → htfTrendFilter state dir = true := by
  constructor
  · intro h dir hfav
    cases dir with
    | buy => rwa [scoreDirection_buy_iff.mpr hfav] at h
    | sell => rwa [scoreDirection_sell_iff.mpr hfav] at h
    | _ => exact hfav.elim
  · intro h
    rcases scoreDirection_cases evidence candidate trade with hd | hd | hd
    · rw [hd]
      exact h .buy (scoreDirection_buy_iff.mp hd)
    · rw [hd]
      exact h .sell (scoreDirection_sell_iff.mp hd)
    · rw [hd]
      exact htfTrendFilter_of_not_directional (by decide) (by decide)

/-- The veto lets a direction through or leaves none. -/
theorem hardVeto_of_allowed (h : htfTrendFilter (some st) dir = true) :
    hardVeto st dir reasons = (dir, reasons) := by
  unfold hardVeto
  rw [if_neg, if_neg]
  · rintro ⟨rfl, hs⟩
    rw [h] at hs
    cases hs
  · rintro ⟨rfl, hb⟩
    rw [h] at hb
    cases hb

theorem hardVeto_of_refused (h : htfTrendFilter (some st) dir = false) :
    (hardVeto st dir reasons).1 = .noTrade := by
  unfold hardVeto
  by_cases hbuy : dir = .buy
  · rw [if_pos ⟨hbuy, hbuy ▸ h⟩]
  rw [if_neg fun hb => hbuy hb.1]
  by_cases hsell : dir = .sell
  · rw [if_pos ⟨hsell, hsell ▸ h⟩]
  · rw [htfTrendFilter_of_not_directional hbuy hsell] at h
    cases h

/-- What is left after the veto is let through. -/
theorem htfTrendFilter_hardVeto : htfTrendFilter (some st) (hardVeto st dir reasons).1 = true := by
  cases h : htfTrendFilter (some st) dir with
  | true =>
    rw [hardVeto_of_allowed h]
    exact h
  | false =>
    rw [hardVeto_of_refused h]
    exact htfTrendFilter_of_not_directional (by decide) (by decide)

/-! ## The end of an evaluation -/

/-- No price is filled in. -/
def Blank (r : StrategyResult) : Prop := ∀ price ∈ r.levels, price = 0

/-- Prices are filled in for a BUY or a SELL only. -/
def Tidy (r : StrategyResult) : Prop := Blank r ∨ r.direction = .buy ∨ r.direction = .sell

/-- A result that fills in prices for a direction only obeys the veto exactly when its direction
does. -/
theorem respects_iff_of_tidy (h : Tidy r) :
    Respects state r ↔ htfTrendFilter state r.direction = true := by
  constructor
  · intro hr
    by_cases hbuy : r.direction = .buy
    · rw [hbuy]
      exact hr.buy hbuy
    by_cases hsell : r.direction = .sell
    · rw [hsell]
      exact hr.sell hsell
    exact htfTrendFilter_of_not_directional hbuy hsell
  · intro hf
    refine ⟨fun hd => hd ▸ hf, fun hd => hd ▸ hf, fun price hp hne => ?_⟩
    rcases h with hblank | hdir
    · exact absurd (hblank price hp) hne
    · exact ⟨hdir, hf⟩

theorem blank_of_levels (h : r.levels = List.replicate 6 0) : Blank r := by
  intro price hp
  rw [h] at hp
  exact List.eq_of_mem_replicate hp

theorem detectConflict_levels : (detectConflict st dir limit r).levels = r.levels := by
  unfold detectConflict
  split
  · rfl
  · simp only
    split <;> rfl

theorem detectConflict_direction :
    (detectConflict st dir limit r).direction =
      if dir ≠ .noTrade ∧ limit < checkConflict st dir then .wait else r.direction := by
  unfold detectConflict
  by_cases hdir : dir = .noTrade
  · rw [if_pos hdir, if_neg fun h => h.1 hdir]
  rw [if_neg hdir]
  by_cases hlimit : limit < checkConflict st dir
  · simp only [if_pos hlimit]
    rw [if_pos ⟨hdir, hlimit⟩]
  · simp only [if_neg hlimit]
    rw [if_neg fun h => hlimit h.2]

theorem withGeometry_direction {geo : TradeGeometry} :
    (r.withGeometry geo).direction = r.direction := by
  unfold StrategyResult.withGeometry
  split <;> rfl

theorem fillGeometry_direction : (fillGeometry env st cfg r).direction = r.direction := by
  unfold fillGeometry
  split
  · rfl
  · simp only
    split
    · rfl
    · exact withGeometry_direction

/-- The direction at the end is WAIT, or the one that the result had. -/
theorem finish_direction :
    (finish env st cfg dir limit r).direction =
      if dir ≠ .noTrade ∧ limit < checkConflict st dir then .wait else r.direction := by
  unfold finish
  simp only [applyRefinement_direction, fillGeometry_direction]
  exact detectConflict_direction

/-- Without a direction the levels stay as they are. -/
theorem finish_levels
    (h : (detectConflict st dir limit r).direction = .noTrade ∨
      (detectConflict st dir limit r).direction = .wait) :
    (finish env st cfg dir limit r).levels = r.levels := by
  have hfill : fillGeometry env st cfg (detectConflict st dir limit r) =
      detectConflict st dir limit r := by
    unfold fillGeometry
    rw [if_pos h]
  unfold finish
  simp only [hfill]
  rw [applyRefinement_of_not_directional, detectConflict_levels]
  rcases h with h | h <;> rw [h] <;> decide

theorem finish_tidy (hblank : Blank r)
    (hdir : r.direction = .buy ∨ r.direction = .sell ∨ r.direction = .noTrade) :
    Tidy (finish env st cfg dir limit r) := by
  have hlevels : (detectConflict st dir limit r).direction = .noTrade ∨
      (detectConflict st dir limit r).direction = .wait → Tidy (finish env st cfg dir limit r) :=
    fun h => .inl fun price hp => hblank price (finish_levels h ▸ hp)
  by_cases hwait : dir ≠ .noTrade ∧ limit < checkConflict st dir
  · apply hlevels
    rw [detectConflict_direction, if_pos hwait]
    exact .inr rfl
  rcases hdir with hbuy | hsell | hnone
  · right; left
    rw [finish_direction, if_neg hwait, hbuy]
  · right; right
    rw [finish_direction, if_neg hwait, hsell]
  · apply hlevels
    rw [detectConflict_direction, if_neg hwait, hnone]
    exact .inl rfl

/-- **The veto before the assignment.** A result that takes the direction left by the veto ends with
one that the filter lets through. -/
theorem htfTrendFilter_finish_vetoed (hr : r.direction = (hardVeto st dir reasons).1) :
    htfTrendFilter (some st)
      (finish env st cfg (hardVeto st dir reasons).1 limit r).direction = true := by
  rw [finish_direction, hr]
  split
  · exact htfTrendFilter_of_not_directional (by decide) (by decide)
  · exact htfTrendFilter_hardVeto

/-- **The veto after the assignment.** A result that has its direction already ends with one that
the filter lets through exactly when it let that one through: where the local direction is vetoed,
the conflicts are not looked for, and the result keeps what it has. -/
theorem htfTrendFilter_finish_assigned (hr : r.direction = dir) :
    htfTrendFilter (some st) (finish env st cfg (hardVeto st dir reasons).1 limit r).direction =
      htfTrendFilter (some st) dir := by
  rw [finish_direction, hr]
  cases h : htfTrendFilter (some st) dir with
  | true =>
    split
    · exact htfTrendFilter_of_not_directional (by decide) (by decide)
    · exact h
  | false =>
    rw [hardVeto_of_refused h, if_neg fun hn => hn.1 rfl]
    exact h

/-! ## Transitions -/

theorem evaluateTransition_direction :
    (TrendSwing.evaluateTransition env st).direction =
      (scoreDirectionWithThresholds (TrendSwing.transitionEvidence st)
        TrendSwing.transitionCandidateThreshold TrendSwing.transitionTradeThreshold
          0).direction := by
  unfold TrendSwing.evaluateTransition
  simp only [applyRefinement_direction]
  split
  · rfl
  · exact withGeometry_direction

/-- A transition fills in prices for a BUY or a SELL only. -/
theorem evaluateTransition_tidy : Tidy (TrendSwing.evaluateTransition env st) := by
  have hdir : (TrendSwing.evaluateTransition env st).direction = _ := evaluateTransition_direction
  rcases scoreDirection_cases (TrendSwing.transitionEvidence st)
    TrendSwing.transitionCandidateThreshold TrendSwing.transitionTradeThreshold
      with hbuy | hsell | hnone
  · exact .inr (.inl (hdir.trans hbuy))
  · exact .inr (.inr (hdir.trans hsell))
  · left
    have hlevels : (TrendSwing.evaluateTransition env st).levels = List.replicate 6 0 := by
      unfold TrendSwing.evaluateTransition
      simp only [hnone, if_true]
      rw [applyRefinement_of_not_directional (by decide)]
      rfl
    intro price hp
    exact blank_of_levels hlevels price hp

/-! ## The four strategies -/

theorem scoreEvidence_cases :
    let dir := (scoreEvidence env cfg st evidence).direction
    dir = .buy ∨ dir = .sell ∨ dir = .noTrade :=
  scoreDirection_cases evidence _ 0

theorem hardVeto_cases (h : dir = .buy ∨ dir = .sell ∨ dir = .noTrade) :
    let left := (hardVeto st dir reasons).1
    left = .buy ∨ left = .sell ∨ left = .noTrade := by
  simp only
  cases hf : htfTrendFilter (some st) dir with
  | true =>
    rw [hardVeto_of_allowed hf]
    exact h
  | false =>
    rw [hardVeto_of_refused hf]
    exact .inr (.inr rfl)

/-- Each strategy fills in prices for a BUY or a SELL only. -/
theorem Canonical.evaluate_tidy (s : Canonical) : Tidy (s.evaluate env state) := by
  cases state with
  | none => cases s <;> exact .inl (blank_of_levels rfl)
  | some st =>
    by_cases hatr : st.indicators.atr = 0
    · left
      cases s <;> simp only [Canonical.evaluate, StandardScalping.evaluate,
        UltraScalping.evaluate, StandardSwing.evaluate, TrendSwing.evaluate, if_pos hatr] <;>
      exact blank_of_levels rfl
    cases s with
    | standardScalping =>
      simp only [Canonical.evaluate, StandardScalping.evaluate, if_neg hatr]
      split
      · exact .inl (blank_of_levels rfl)
      · exact finish_tidy (blank_of_levels rfl) (hardVeto_cases scoreEvidence_cases)
    | ultraScalping =>
      simp only [Canonical.evaluate, UltraScalping.evaluate, if_neg hatr]
      split
      · exact .inl (blank_of_levels rfl)
      · exact finish_tidy (blank_of_levels rfl) scoreEvidence_cases
    | standardSwing =>
      simp only [Canonical.evaluate, StandardSwing.evaluate, if_neg hatr]
      split
      · exact .inl (blank_of_levels rfl)
      · exact finish_tidy (blank_of_levels rfl) scoreEvidence_cases
    | trendSwing =>
      simp only [Canonical.evaluate, TrendSwing.evaluate, if_neg hatr]
      split
      · exact evaluateTransition_tidy
      split
      · exact .inl (blank_of_levels rfl)
      · exact finish_tidy (blank_of_levels rfl) scoreEvidence_cases

/-- **Standard scalping** ends with a direction that the filter lets through. -/
theorem htfTrendFilter_standardScalping :
    htfTrendFilter state (StandardScalping.evaluate env state).direction = true := by
  cases state with
  | none => exact htfTrendFilter_stopped (.inr rfl)
  | some st =>
    simp only [StandardScalping.evaluate]
    split
    · exact htfTrendFilter_stopped (.inr rfl)
    split
    · exact htfTrendFilter_stopped (.inl rfl)
    · exact htfTrendFilter_finish_vetoed rfl

/-- What the filter says of the direction that scored evidence gives; where none is scored, nothing
is refused. -/
def allowed (st : MarketState) : Option (List EvidenceContribution × Float64) → Bool
  | none => true
  | some (evidence, candidateThreshold) =>
    htfTrendFilter (some st)
      (scoreDirectionWithThresholds evidence candidateThreshold 0 0).direction

/-- When a strategy is not vetoed. -/
theorem unvetoed_iff_allowed {s : Canonical} :
    s.Unvetoed env (some st) ↔ allowed st (s.scores env st) = true := by
  unfold Canonical.Unvetoed
  cases hs : s.scores env st with
  | none =>
    refine iff_of_true ?_ rfl
    rintro _ ⟨⟩ evidence candidate h
    rw [hs] at h
    cases h
  | some scored =>
    refine Iff.trans ?_ htfTrendFilter_scored_iff.symm
    constructor
    · intro h
      exact h st rfl _ _ hs
    · rintro h _ ⟨⟩ evidence candidate heq
      rw [hs] at heq
      cases heq
      exact h

/-- The early stops of an evaluation that otherwise ends with the scored direction, up to the
filter. -/
theorem htfTrendFilter_guarded {stops : List NoTradeReason}
    (hr : htfTrendFilter (some st) r.direction = allowed st (some (evidence, candidate))) :
    htfTrendFilter (some st)
        (if st.indicators.atr = 0 then cfg.notReady
          else if stops ≠ [] then { cfg.start with reasonCodes := stops } else r).direction =
      allowed st (if st.indicators.atr = 0 ∨ stops ≠ [] then none
        else some (evidence, candidate)) := by
  by_cases hatr : st.indicators.atr = 0
  · rw [if_pos hatr, if_pos (.inl hatr)]
    exact htfTrendFilter_stopped (.inr rfl)
  by_cases hstops : stops ≠ []
  · rw [if_neg hatr, if_pos hstops, if_pos (.inr hstops)]
    exact htfTrendFilter_stopped (.inl rfl)
  · rw [if_neg hatr, if_neg hstops, if_neg fun h => h.elim hatr hstops]
    exact hr

/-- **The other three** end with the direction that the scoring gave, or with WAIT where the filter
lets that one through. -/
theorem htfTrendFilter_ultraScalping :
    htfTrendFilter (some st) (UltraScalping.evaluate env (some st)).direction =
      allowed st (Canonical.ultraScalping.scores env st) :=
  htfTrendFilter_guarded (htfTrendFilter_finish_assigned rfl)

theorem htfTrendFilter_standardSwing :
    htfTrendFilter (some st) (StandardSwing.evaluate env (some st)).direction =
      allowed st (Canonical.standardSwing.scores env st) :=
  htfTrendFilter_guarded (htfTrendFilter_finish_assigned rfl)

theorem htfTrendFilter_trendSwing :
    htfTrendFilter (some st) (TrendSwing.evaluate env (some st)).direction =
      allowed st (Canonical.trendSwing.scores env st) := by
  simp only [TrendSwing.evaluate, Canonical.scores]
  by_cases hatr : st.indicators.atr = 0
  · simp only [if_pos hatr]
    exact htfTrendFilter_stopped (.inr rfl)
  by_cases hrange : isRegimeInRange st.regime.current = true
  · simp only [if_neg hatr, if_pos hrange]
    rw [evaluateTransition_direction]
    rfl
  by_cases hstops : TrendSwing.stops st = []
  · simp only [hatr, hrange, hstops, if_false, ne_eq, not_true_eq_false]
    exact htfTrendFilter_finish_assigned rfl
  · simp only [hatr, hrange, hstops, if_false, ne_eq, not_false_eq_true, if_true]
    exact htfTrendFilter_stopped (.inl rfl)

/-- **Which results obey the veto.** Standard scalping always does. The other three do exactly where
the filter lets through whichever side their evidence favours: where the veto would have to act, it
does not reach the result. -/
theorem respects_iff (s : Canonical) (env : Env) (state : Option MarketState) :
    Respects state (s.evaluate env state) ↔ s = .standardScalping ∨ s.Unvetoed env state := by
  rw [respects_iff_of_tidy s.evaluate_tidy]
  cases state with
  | none =>
    refine iff_of_true ?_ (.inr fun _ h => by cases h)
    cases s <;> exact htfTrendFilter_stopped (.inr rfl)
  | some st =>
    rw [unvetoed_iff_allowed]
    cases s with
    | standardScalping => exact iff_of_true htfTrendFilter_standardScalping (.inl rfl)
    | ultraScalping =>
      simp only [Canonical.evaluate, htfTrendFilter_ultraScalping, reduceCtorEq, false_or]
    | standardSwing =>
      simp only [Canonical.evaluate, htfTrendFilter_standardSwing, reduceCtorEq, false_or]
    | trendSwing =>
      simp only [Canonical.evaluate, htfTrendFilter_trendSwing, reduceCtorEq, false_or]

end

/-! ## A vetoed BUY -/

/-- No exit profiles, no overrides, and the default profile of the gates. -/
def plainEnv : Env :=
  { loadExitProfile := fun _ => none
    currentGateProfile := ⟨fun _ => ⟨52 / 100, 8 / 10, 35 / 100, 50, 0⟩, 2⟩ }

/-- A bullish market at 2000, ten below the close of H4. -/
def belowH4 (regime : Regime) : MarketState :=
  { currentPrice := 2000
    quality := .authoritative
    structure_ := { currentTrend := .bullish, lastBOS := some ⟨.bos, .bullish, 1990, 0⟩ }
    liquidity := {}
    pullback := {}
    spread := 1 / 10
    candles := fun tf => if tf = .h4 then some ⟨2015, 1995, 2010, 0⟩ else none
    vwap := ⟨1995⟩
    indicators :=
      { ema9 := 1999, ema21 := 1998, ema50 := 1995, ema100 := 1990, ema200 := 1980,
        sma200 := 1980, macdMain := 2, macdSignal := 1, adx := 28, adxPlusDI := 30,
        adxMinusDI := 10, rsi := 60, stochMain := 60, stochSignal := 50, atr := 2, osma := 1 }
    regime := ⟨regime⟩
    session := { currentSession := "LONDON" } }

/-- A strategy answers with a BUY and its levels, which the filter refuses. -/
def VetoIgnored (s : Canonical) (regime : Regime) : Prop :=
  htfTrendFilter (some (belowH4 regime)) .buy = false ∧
    (s.evaluate plainEnv (some (belowH4 regime))).direction = .buy ∧
    0 ∉ (s.evaluate plainEnv (some (belowH4 regime))).levels

instance (s : Canonical) (regime : Regime) : Decidable (VetoIgnored s regime) :=
  inferInstanceAs (Decidable (_ ∧ _ ∧ _))

theorem VetoIgnored.not_respects {s : Canonical} {regime : Regime} (h : VetoIgnored s regime) :
    ¬ Respects (some (belowH4 regime)) (s.evaluate plainEnv (some (belowH4 regime))) := by
  intro hr
  have hbuy := hr.buy h.2.1
  rw [h.1] at hbuy
  cases hbuy

/-- **A vetoed BUY is answered.** Ultra scalping, standard swing and trend swing, in a trend and in a
transition, answer with a BUY, its entry, its stop and its targets below the close of H4. -/
theorem vetoed_buy_is_answered :
    (¬ Respects (some (belowH4 .trendingBullish))
        (UltraScalping.evaluate plainEnv (some (belowH4 .trendingBullish))) ∧
      VetoIgnored .ultraScalping .trendingBullish) ∧
    (¬ Respects (some (belowH4 .trendingBullish))
        (StandardSwing.evaluate plainEnv (some (belowH4 .trendingBullish))) ∧
      VetoIgnored .standardSwing .trendingBullish) ∧
    (¬ Respects (some (belowH4 .trendingBullish))
        (TrendSwing.evaluate plainEnv (some (belowH4 .trendingBullish))) ∧
      VetoIgnored .trendSwing .trendingBullish) ∧
    (¬ Respects (some (belowH4 .range))
        (TrendSwing.evaluate plainEnv (some (belowH4 .range))) ∧
      VetoIgnored .trendSwing .range) := by
  have hultra : VetoIgnored .ultraScalping .trendingBullish := by decide +kernel
  have hswing : VetoIgnored .standardSwing .trendingBullish := by decide +kernel
  have htrend : VetoIgnored .trendSwing .trendingBullish := by decide +kernel
  have htransition : VetoIgnored .trendSwing .range := by decide +kernel
  exact ⟨⟨hultra.not_respects, hultra⟩, ⟨hswing.not_respects, hswing⟩,
    ⟨htrend.not_respects, htrend⟩, htransition.not_respects, htransition⟩

end PredictATrade.Realtime.Strategy
