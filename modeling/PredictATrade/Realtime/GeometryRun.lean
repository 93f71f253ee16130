import PredictATrade.Realtime.StopCaps

/-!
# `Realtime.GeometryRun` — the run of a trade geometry and its law

`tradeGeometryRun` is `buildTradeGeometry` with the two things that one leaves out: the market state, whose
average true range is replaced while the structural levels are computed and put back afterwards, and the
divisions that panic. `tradeGeometryRun_eq` says that what it returns is the geometry, and the state as it was.

`SoundGeometry` is the law of a geometry. One that is marked as valid has its levels in order, and under a
percentage profile its stop at least the guardrail's distance away. The checks at the end look at the stop and
the first target only; `sound_iff_of_checked` says what they leave to the paths that the levels come from.
-/

namespace PredictATrade.Realtime.Strategy
open Lib.Decimal Features

/-! ## The run -/

/-- The market with another average true range. -/
def MarketState.withATR (st : MarketState) (atr : Decimal) : MarketState :=
  { st with indicators := { st.indicators with atr := atr } }

/-- The clamp divides by the distance of the structural stop. -/
def ClampDividesByZero (env : Env) (id : StrategyID) (entry : Decimal) (levels : Levels) : Prop :=
  ∃ profile ∈ env.percentageProfile id, levels.sl ≠ 0 ∧
    entry * profile.stopPct < |entry - levels.sl| ∧ |entry - levels.sl| = 0

instance decidableClampDividesByZero (env : Env) (id : StrategyID) (entry : Decimal)
    (levels : Levels) : Decidable (ClampDividesByZero env id entry levels) := by
  unfold ClampDividesByZero
  infer_instance

/-- The net ratios divide by risk and spread together. -/
def NetDividesByZero (spread entry : Decimal) (levels : Levels) : Prop :=
  levels.sl ≠ 0 ∧ levels.tp1 ≠ 0 ∧ |entry - levels.sl| ≠ 0 ∧ spread ≠ 0 ∧
    |entry - levels.sl| + spread = 0

instance decidableNetDividesByZero (spread entry : Decimal) (levels : Levels) :
    Decidable (NetDividesByZero spread entry levels) :=
  inferInstanceAs (Decidable (_ ∧ _))

/-- The checks of a geometry, if its net ratios can be computed. -/
def checkedGeometry (dir : Direction) (spread entry : Decimal) (levels : Levels) :
    Option TradeGeometry :=
  if NetDividesByZero spread entry levels then none
  else some (validateGeometry dir spread entry levels)

/-- Levels that are handed out as they are. -/
def uncheckedGeometry (entry : Decimal) (p : Levels) : TradeGeometry :=
  { entry := entry, stopLoss := p.sl, tp1 := p.tp1, tp2 := p.tp2, tp3 := p.tp3 }

/-- `BuildTradeGeometry` with the state that it works on; `none` where it panics. -/
def tradeGeometryRun (env : Env) (state : Option MarketState) (dir : Direction)
    (cfg : StrategyConfig) : Option (TradeGeometry × Option MarketState) :=
  match state with
  | none => some ({ reasonCode := "NO_MARKET_STATE" }, none)
  | some st =>
    if dir ≠ .buy ∧ dir ≠ .sell then some ({ reasonCode := "NO_DIRECTION" }, some st)
    else
      let atr := geometryATR st cfg.strategyID
      if atr = 0 then some ({ reasonCode := "ATR_NOT_READY" }, some st)
      else
        let entry := quotedEntry st dir
        if entry = 0 then some ({ reasonCode := "NO_ENTRY_PRICE" }, some st)
        else
          let structLow := getStructuralLow st
          let structHigh := getStructuralHigh st
          let originalATR := st.indicators.atr
          let st := st.withATR atr
          let structural := computeStructuralSLTP env st dir cfg structLow structHigh
          let st := st.withATR originalATR
          if ClampDividesByZero env cfg.strategyID entry structural.2 then none
          else
            let levels := clampToProfile env cfg.strategyID dir entry structural.2
            if levels.sl ≠ 0 then (checkedGeometry dir st.spread entry levels).map (·, some st)
            else
              match percentageLevels env cfg.strategyID entry dir atr with
              | some p => some (uncheckedGeometry entry p, some st)
              | none =>
                (checkedGeometry dir st.spread entry (atrLevels dir entry atr cfg)).map (·, some st)

section Ready

variable {env : Env} {st : MarketState} {dir : Direction} {cfg : StrategyConfig}

/-- The levels at the current price, with the strategy's own range. -/
def structuralLevels (env : Env) (st : MarketState) (dir : Direction) (cfg : StrategyConfig) :
    Levels :=
  (computeStructuralSLTP env (st.withATR (geometryATR st cfg.strategyID)) dir cfg
    (getStructuralLow st) (getStructuralHigh st)).2

/-- The levels after the clamp at the quoted entry. -/
def clampedLevels (env : Env) (st : MarketState) (dir : Direction) (cfg : StrategyConfig) : Levels :=
  clampToProfile env cfg.strategyID dir (quotedEntry st dir) (structuralLevels env st dir cfg)

/-- The state has a direction, a range and an entry. -/
structure Ready (st : MarketState) (dir : Direction) (cfg : StrategyConfig) : Prop where
  side : dir = .buy ∨ dir = .sell
  atr : geometryATR st cfg.strategyID ≠ 0
  entry : quotedEntry st dir ≠ 0

theorem Ready.notNeither (h : Ready st dir cfg) : ¬ (dir ≠ .buy ∧ dir ≠ .sell) := by
  rintro ⟨hb, hs⟩
  exact h.side.elim hb hs

theorem Ready.build (h : Ready st dir cfg) :
    buildTradeGeometry env (some st) dir cfg =
      if (clampedLevels env st dir cfg).sl ≠ 0 then
        validateGeometry dir st.spread (quotedEntry st dir) (clampedLevels env st dir cfg)
      else
        match percentageLevels env cfg.strategyID (quotedEntry st dir) dir
            (geometryATR st cfg.strategyID) with
        | some p => uncheckedGeometry (quotedEntry st dir) p
        | none =>
          validateGeometry dir st.spread (quotedEntry st dir)
            (atrLevels dir (quotedEntry st dir) (geometryATR st cfg.strategyID) cfg) := by
  simp only [buildTradeGeometry, if_neg h.notNeither, if_neg h.atr, if_neg h.entry]
  rfl

/-- What a strategy's geometry comes to. -/
theorem Ready.run (h : Ready st dir cfg) :
    tradeGeometryRun env (some st) dir cfg =
      if ClampDividesByZero env cfg.strategyID (quotedEntry st dir) (structuralLevels env st dir cfg)
      then none
      else if (clampedLevels env st dir cfg).sl ≠ 0 then
        (checkedGeometry dir st.spread (quotedEntry st dir) (clampedLevels env st dir cfg)).map
          (·, some st)
      else
        match percentageLevels env cfg.strategyID (quotedEntry st dir) dir
            (geometryATR st cfg.strategyID) with
        | some p => some (uncheckedGeometry (quotedEntry st dir) p, some st)
        | none =>
          (checkedGeometry dir st.spread (quotedEntry st dir)
            (atrLevels dir (quotedEntry st dir) (geometryATR st cfg.strategyID) cfg)).map
            (·, some st) := by
  simp only [tradeGeometryRun, if_neg h.notNeither, if_neg h.atr, if_neg h.entry]
  rfl

/-- Before the levels, the reasons are given one by one. -/
theorem run_of_not_ready (env : Env) (h : ¬ Ready st dir cfg) :
    ∃ reason, reason ≠ "" ∧
      buildTradeGeometry env (some st) dir cfg = { reasonCode := reason } ∧
      tradeGeometryRun env (some st) dir cfg = some ({ reasonCode := reason }, some st) := by
  simp only [buildTradeGeometry, tradeGeometryRun]
  by_cases hdir : dir ≠ .buy ∧ dir ≠ .sell
  · exact ⟨"NO_DIRECTION", by decide, if_pos hdir, if_pos hdir⟩
  · rw [if_neg hdir, if_neg hdir]
    by_cases hatr : geometryATR st cfg.strategyID = 0
    · exact ⟨"ATR_NOT_READY", by decide, if_pos hatr, if_pos hatr⟩
    · rw [if_neg hatr, if_neg hatr]
      by_cases hentry : quotedEntry st dir = 0
      · exact ⟨"NO_ENTRY_PRICE", by decide, if_pos hentry, if_pos hentry⟩
      · refine absurd ⟨?_, hatr, hentry⟩ h
        by_contra hside
        exact hdir (not_or.mp hside)

/-- The levels that are checked, wherever any are. -/
def checkedLevels (env : Env) (st : MarketState) (dir : Direction) (cfg : StrategyConfig) : Levels :=
  if (clampedLevels env st dir cfg).sl ≠ 0 then clampedLevels env st dir cfg
  else atrLevels dir (quotedEntry st dir) (geometryATR st cfg.strategyID) cfg

/-- What it comes to where nothing is divided by zero. -/
theorem Ready.run_checked (h : Ready st dir cfg)
    (hclamp : ¬ ClampDividesByZero env cfg.strategyID (quotedEntry st dir)
      (structuralLevels env st dir cfg))
    (hsl : (clampedLevels env st dir cfg).sl ≠ 0 ∨ env.percentageProfile cfg.strategyID = none) :
    tradeGeometryRun env (some st) dir cfg =
      (checkedGeometry dir st.spread (quotedEntry st dir) (checkedLevels env st dir cfg)).map
        (·, some st) := by
  rw [h.run, if_neg hclamp]
  unfold checkedLevels
  by_cases hzero : (clampedLevels env st dir cfg).sl ≠ 0
  · rw [if_pos hzero, if_pos hzero]
  · have hnone : percentageLevels env cfg.strategyID (quotedEntry st dir) dir
        (geometryATR st cfg.strategyID) = none :=
      (percentageLevels_eq_none_iff _ _ _ _ _).mpr (Or.inl (hsl.resolve_left hzero))
    rw [if_neg hzero, if_neg hzero, hnone]

theorem checkedGeometry_eq {spread entry : Decimal} {levels : Levels} {geo : TradeGeometry}
    (h : checkedGeometry dir spread entry levels = some geo) :
    geo = validateGeometry dir spread entry levels := by
  unfold checkedGeometry at h
  split_ifs at h
  exact (Option.some.inj h).symm

/-- **What comes back** is the geometry, and the state as it was. -/
theorem tradeGeometryRun_eq {state state' : Option MarketState} {geo : TradeGeometry}
    (h : tradeGeometryRun env state dir cfg = some (geo, state')) :
    geo = buildTradeGeometry env state dir cfg ∧ state' = state := by
  cases state with
  | none =>
    cases h
    exact ⟨rfl, rfl⟩
  | some st =>
    have hchecked : ∀ {levels : Levels},
        (checkedGeometry dir st.spread (quotedEntry st dir) levels).map (·, some st) =
          some (geo, state') →
        geo = validateGeometry dir st.spread (quotedEntry st dir) levels ∧ state' = some st := by
      intro levels hc
      obtain ⟨g, hg, heq⟩ := Option.map_eq_some_iff.mp hc
      cases heq
      exact ⟨checkedGeometry_eq hg, rfl⟩
    by_cases hready : Ready st dir cfg
    · rw [hready.run] at h
      rw [hready.build]
      by_cases hsl : (clampedLevels env st dir cfg).sl ≠ 0
      · rw [if_pos hsl] at h ⊢
        split_ifs at h
        exact hchecked h
      · rw [if_neg hsl] at h ⊢
        split_ifs at h
        cases hp : percentageLevels env cfg.strategyID (quotedEntry st dir) dir
            (geometryATR st cfg.strategyID) with
        | some p =>
          rw [hp] at h
          cases h
          exact ⟨rfl, rfl⟩
        | none =>
          rw [hp] at h
          exact hchecked h
    · obtain ⟨reason, -, hbuild, hrun⟩ := run_of_not_ready env hready
      rw [hrun] at h
      rw [hbuild]
      cases h
      exact ⟨rfl, rfl⟩

end Ready

/-! ## The law -/

/-- Stop, entry and targets in the order of a BUY, or in that of a SELL. -/
def InOrder (dir : Direction) (geo : TradeGeometry) : Prop :=
  if dir = .buy then
    geo.stopLoss < geo.entry ∧ geo.entry < geo.tp1 ∧ geo.tp1 ≤ geo.tp2 ∧ geo.tp2 ≤ geo.tp3
  else geo.entry < geo.stopLoss ∧ geo.tp1 < geo.entry ∧ geo.tp2 ≤ geo.tp1 ∧ geo.tp3 ≤ geo.tp2

/-- The range is one that the guardrails are applied with. -/
def PlausibleATR (st : MarketState) (id : StrategyID) : Prop :=
  geometryATR st id ≠ 0 ∧ geometryATR st id < st.currentPrice * (1 / 10)

/-- The distance that the stop must have under a percentage profile. -/
def leastReach (st : MarketState) (id : StrategyID) (entry : Decimal) (profile : ExitProfileConfig) :
    Decimal :=
  min (geometryATR st id * profile.minStopATRMult) (maxDist entry)

/-- The geometry is returned, the state is left as it was, and a valid geometry is one. -/
structure SoundGeometry (env : Env) (state : Option MarketState) (dir : Direction)
    (cfg : StrategyConfig) (geo : TradeGeometry) : Prop where
  returned : tradeGeometryRun env state dir cfg = some (geo, state)
  flagged : geo.valid = true ↔ geo.reasonCode = ""
  ordered : geo.valid = true → InOrder dir geo
  reach : geo.valid = true → ∀ st ∈ state, PlausibleATR st cfg.strategyID →
    ∀ profile ∈ env.percentageProfile cfg.strategyID,
      leastReach st cfg.strategyID geo.entry profile ≤ |geo.entry - geo.stopLoss|

/-! ## What the checks at the end see -/

/-- How far a price is ahead of the entry, in the direction of the trade. -/
def ahead (dir : Direction) (entry x : Decimal) : Decimal :=
  if dir = .buy then x - entry else entry - x

/-- The levels pass the checks. -/
def Accepted (dir : Direction) (entry : Decimal) (levels : Levels) : Prop :=
  levels.sl ≠ 0 ∧ levels.tp1 ≠ 0 ∧ ahead dir entry levels.sl < 0 ∧ 0 < ahead dir entry levels.tp1

section Checks

variable {env : Env} {st : MarketState} {dir : Direction} {cfg : StrategyConfig}
  {spread entry : Decimal} {levels : Levels}

/-- When the stop and the target are on their sides. -/
theorem sideFault_eq_none_iff :
    sideFault dir entry levels = none ↔
      ahead dir entry levels.sl < 0 ∧ 0 < ahead dir entry levels.tp1 := by
  unfold sideFault ahead
  split_ifs <;> simp_all

theorem abs_ahead (dir : Direction) (entry x : Decimal) : |ahead dir entry x| = |entry - x| := by
  unfold ahead
  split_ifs
  · exact abs_sub_comm _ _
  · rfl

/-- The text of the first check that fails. -/
def geometryFault (dir : Direction) (entry : Decimal) (levels : Levels) : Option String :=
  if levels.sl = 0 ∨ levels.tp1 = 0 then some "GEOMETRY_INVALID"
  else if |entry - levels.sl| = 0 then some "ZERO_RISK"
  else sideFault dir entry levels

/-- When the levels are accepted. -/
theorem geometryFault_eq_none_iff :
    geometryFault dir entry levels = none ↔ Accepted dir entry levels := by
  unfold geometryFault Accepted
  split_ifs with hzero hrisk
  · have hz : ¬ (levels.sl ≠ 0 ∧ levels.tp1 ≠ 0) := by
      rintro ⟨hsl, htp⟩
      exact hzero.elim hsl htp
    exact iff_of_false (by simp) fun h => hz ⟨h.1, h.2.1⟩
  · refine iff_of_false (by simp) fun h => ?_
    rw [← abs_ahead dir, abs_eq_zero] at hrisk
    exact absurd h.2.2.1 (by rw [hrisk]; exact lt_irrefl 0)
  · obtain ⟨hsl, htp⟩ := not_or.mp hzero
    rw [sideFault_eq_none_iff, and_iff_right hsl, and_iff_right htp]

theorem geometryFault_ne_empty {fault : String} (h : geometryFault dir entry levels = some fault) :
    fault ≠ "" := by
  unfold geometryFault sideFault at h
  split_ifs at h <;> cases h <;> simp

theorem validateGeometry_levels (dir : Direction) (spread entry : Decimal) (levels : Levels) :
    (validateGeometry dir spread entry levels).entry = entry ∧
      (validateGeometry dir spread entry levels).stopLoss = levels.sl ∧
      (validateGeometry dir spread entry levels).tp1 = levels.tp1 ∧
      (validateGeometry dir spread entry levels).tp2 = levels.tp2 ∧
      (validateGeometry dir spread entry levels).tp3 = levels.tp3 := by
  simp only [validateGeometry]
  split_ifs <;> exact ⟨rfl, rfl, rfl, rfl, rfl⟩

theorem validateGeometry_fault (dir : Direction) (spread entry : Decimal) (levels : Levels) :
    (validateGeometry dir spread entry levels).valid = (geometryFault dir entry levels).isNone ∧
      (validateGeometry dir spread entry levels).reasonCode =
        (geometryFault dir entry levels).getD "" := by
  simp only [validateGeometry, geometryFault]
  split_ifs <;> exact ⟨rfl, rfl⟩

/-- The checks mark exactly what they accept, and give a reason for everything else. -/
theorem validateGeometry_valid_iff (dir : Direction) (spread entry : Decimal) (levels : Levels) :
    ((validateGeometry dir spread entry levels).valid = true ↔ Accepted dir entry levels) ∧
      ((validateGeometry dir spread entry levels).reasonCode = "" ↔ Accepted dir entry levels) := by
  obtain ⟨hvalid, hreason⟩ := validateGeometry_fault dir spread entry levels
  rw [hvalid, hreason, ← geometryFault_eq_none_iff]
  cases hf : geometryFault dir entry levels with
  | none => exact ⟨iff_of_true rfl rfl, iff_of_true rfl rfl⟩
  | some fault =>
    exact ⟨by simp, iff_of_false (geometryFault_ne_empty hf) (by simp)⟩

/-- The targets are in order. -/
def TargetsInOrder (dir : Direction) (entry : Decimal) (levels : Levels) : Prop :=
  ahead dir entry levels.tp1 ≤ ahead dir entry levels.tp2 ∧
    ahead dir entry levels.tp2 ≤ ahead dir entry levels.tp3

/-- Under a percentage profile the stop is far enough away. -/
def Reaches (env : Env) (st : MarketState) (id : StrategyID) (entry : Decimal) (levels : Levels) :
    Prop :=
  PlausibleATR st id → ∀ profile ∈ env.percentageProfile id,
    leastReach st id entry profile ≤ |entry - levels.sl|

/-- When the accepted levels are in order. -/
theorem inOrder_validate_iff (h : Accepted dir entry levels) :
    InOrder dir (validateGeometry dir spread entry levels) ↔ TargetsInOrder dir entry levels := by
  obtain ⟨he, hsl, h1, h2, h3⟩ := validateGeometry_levels dir spread entry levels
  obtain ⟨-, -, hstop, htarget⟩ := h
  unfold InOrder TargetsInOrder
  rw [he, hsl, h1, h2, h3]
  unfold ahead at hstop htarget ⊢
  split_ifs at hstop htarget ⊢
  · rw [and_iff_right (by linarith : levels.sl < entry), and_iff_right (by linarith), sub_le_sub_iff_right,
      sub_le_sub_iff_right]
  · rw [and_iff_right (by linarith : entry < levels.sl), and_iff_right (by linarith), sub_le_sub_iff_left,
      sub_le_sub_iff_left]

/-- What is left to be shown of levels that are checked. -/
theorem sound_iff_of_checked
    (hrun : tradeGeometryRun env (some st) dir cfg =
      (checkedGeometry dir st.spread entry levels).map (·, some st)) :
    (∃ geo, SoundGeometry env (some st) dir cfg geo) ↔
      ¬ NetDividesByZero st.spread entry levels ∧
        (Accepted dir entry levels → TargetsInOrder dir entry levels ∧
          Reaches env st cfg.strategyID entry levels) := by
  unfold checkedGeometry at hrun
  by_cases hnet : NetDividesByZero st.spread entry levels
  · rw [if_pos hnet] at hrun
    refine iff_of_false ?_ fun h => h.1 hnet
    rintro ⟨geo, hgeo⟩
    have hnone := hgeo.returned.symm.trans hrun
    cases hnone
  · rw [if_neg hnet] at hrun
    rw [and_iff_right hnet]
    obtain ⟨hvalid, hreason⟩ := validateGeometry_valid_iff dir st.spread entry levels
    obtain ⟨he, hsl, -⟩ := validateGeometry_levels dir st.spread entry levels
    constructor
    · rintro ⟨geo, hgeo⟩ hacc
      have hsome := hgeo.returned.symm.trans hrun
      obtain rfl : geo = validateGeometry dir st.spread entry levels := by
        cases hsome
        rfl
      refine ⟨(inOrder_validate_iff hacc).mp (hgeo.ordered (hvalid.mpr hacc)), fun hp profile hm => ?_⟩
      have hreach := hgeo.reach (hvalid.mpr hacc) st rfl hp profile hm
      rw [he, hsl] at hreach
      exact hreach
    · intro h
      refine ⟨_, hrun, hvalid.trans hreason.symm, fun hv => ?_, fun hv st' hst hp profile hm => ?_⟩
      · have hacc := hvalid.mp hv
        exact (inOrder_validate_iff hacc).mpr (h hacc).1
      · obtain rfl := Option.mem_some_iff.mp hst
        rw [he, hsl]
        exact (h (hvalid.mp hv)).2 hp profile hm

end Checks

/-! ## The states and configurations in question -/

/-- There is a price, and a quote is one or absent. -/
structure PositivePrices (st : MarketState) : Prop where
  current : 0 < st.currentPrice
  bid : 0 ≤ st.bid
  ask : 0 ≤ st.ask

/-- The multipliers of the range are positive, and those of the targets increase. -/
structure IncreasingMultipliers (cfg : StrategyConfig) : Prop where
  sl : 0 < cfg.atrMultiplierSL
  tp1 : 0 < cfg.atrMultiplierTP1
  tp2 : cfg.atrMultiplierTP1 < cfg.atrMultiplierTP2
  tp3 : cfg.atrMultiplierTP2 < cfg.atrMultiplierTP3

/-- The percentages of the targets are positive and do not decrease, and the guardrails of the stop do not
cross. -/
structure NonDecreasingTargets (profile : ExitProfileConfig) : Prop where
  tp1 : 0 < profile.tp1Pct
  tp2 : profile.tp1Pct ≤ profile.tp2Pct
  tp3 : profile.tp2Pct ≤ profile.tp3Pct
  stop : profile.minStopATRMult ≤ profile.maxStopATRMult

theorem PositivePrices.entry {st : MarketState} (h : PositivePrices st) (dir : Direction) :
    0 < quotedEntry st dir := by
  have hquote : 0 ≤ if dir = .buy then st.ask else st.bid := by
    split_ifs
    · exact h.ask
    · exact h.bid
  show 0 < if (if dir = .buy then st.ask else st.bid) = 0 then st.currentPrice
    else if dir = .buy then st.ask else st.bid
  by_cases hzero : (if dir = .buy then st.ask else st.bid) = 0
  · rw [if_pos hzero]
    exact h.current
  · rw [if_neg hzero]
    exact lt_of_le_of_ne hquote (Ne.symm hzero)

end PredictATrade.Realtime.Strategy
