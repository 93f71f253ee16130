import PredictATrade.Realtime.PlainGeometry

/-!
# `Realtime.SoundGeometry` — is a trade geometry what it says?

Without a percentage profile the levels see to the law as long as the range is not negative. With one they do
not:

* the guardrail on the first target can put it beyond the second;
* the clamp to the profile's stop undoes the guardrail on the stop, and takes the distances of the targets
  from the quoted entry without their signs;
* a stop clamped to a price of zero counts as none, and the levels that then stand in for it are handed out
  neither as valid nor with a reason.

`trade_geometry_sound_iff` says exactly when none of this happens.
-/

namespace PredictATrade.Realtime.Strategy
open Lib.Decimal Features

/-! ## Under a percentage profile -/

/-- The distance of the stop from the current price, within its guardrails. -/
def stopDist (price atr : Decimal) (profile : ExitProfileConfig) : Decimal :=
  safeDist price <|
    if atr ≠ 0 ∧ atr < price * (1 / 10) then
      guardrail (price * profile.stopPct) (atr * profile.minStopATRMult) (atr * profile.maxStopATRMult)
    else price * profile.stopPct

/-- The distance of the first target, within its guardrails. -/
def tp1Dist (price atr : Decimal) (profile : ExitProfileConfig) : Decimal :=
  safeDist price <|
    if atr ≠ 0 ∧ atr < price * (1 / 10) then
      guardrail (price * profile.tp1Pct) (atr * profile.minTP1ATRMult) (atr * profile.maxTP1ATRMult)
    else price * profile.tp1Pct

/-- The other two targets have no guardrails. -/
def tp2Dist (price : Decimal) (profile : ExitProfileConfig) : Decimal :=
  safeDist price (price * profile.tp2Pct)

/-- The distance of the third target. -/
def tp3Dist (price : Decimal) (profile : ExitProfileConfig) : Decimal :=
  safeDist price (price * profile.tp3Pct)

/-- The levels of a profile around a price. -/
def profileLevels (dir : Direction) (price atr : Decimal) (profile : ExitProfileConfig) : Levels :=
  Levels.around dir price (stopDist price atr profile) (tp1Dist price atr profile)
    (tp2Dist price profile) (tp3Dist price profile)

section Percentage

variable {env : Env} {st : MarketState} {dir : Direction} {cfg : StrategyConfig}
  {profile : ExitProfileConfig} {price atr entry : Decimal}

theorem computePercentageSLTP_eq (hprice : price ≠ 0) (hmode : profile.calculationMode = "PERCENTAGE") :
    computePercentageSLTP price dir atr profile = profileLevels dir price atr profile := by
  rw [computePercentageSLTP, if_neg (by simp [hprice, hmode])]
  simp only [decide_eq_true_eq]
  rfl

theorem profileLevels_sl_ne_zero (hprice : price ≠ 0) :
    (profileLevels dir price atr profile).sl ≠ 0 := by
  unfold profileLevels
  rw [around_sl]
  exact stopAt_safeDist_ne_zero hprice dir _

theorem percentageLevels_eq {id : StrategyID} (hprofile : env.percentageProfile id = some profile)
    (hprice : price ≠ 0) :
    percentageLevels env id price dir atr = some (profileLevels dir price atr profile) := by
  rw [percentageLevels, hprofile, Option.map_some,
    computePercentageSLTP_eq hprice (percentageProfile_mode hprofile)]
  exact Option.filter_eq_some_iff.mpr ⟨rfl, by simpa using profileLevels_sl_ne_zero hprice⟩

theorem structuralLevels_of_profile (hprofile : env.percentageProfile cfg.strategyID = some profile)
    (hprice : 0 < st.currentPrice) (hatr : geometryATR st cfg.strategyID ≠ 0) :
    structuralLevels env st dir cfg =
      profileLevels dir st.currentPrice (geometryATR st cfg.strategyID) profile := by
  unfold structuralLevels computeStructuralSLTP
  simp only [MarketState.withATR, if_neg hatr, percentageLevels_eq hprofile hprice.ne']

/-- How far the current price is ahead of the quoted entry. -/
def lead (st : MarketState) (dir : Direction) : Decimal :=
  ahead dir (quotedEntry st dir) st.currentPrice

/-- **When a percentage geometry is sound.** Write `e` for the lead of the current price over the entry, `s`
and `t₁`, `t₂`, `t₃` for the distances of stop and targets from it, and `c` for the profile's stop distance
at the entry. If the stop is within `c`, the levels stay, and what passes the checks needs its first two
targets in order and its stop within reach. If the stop is farther than `c`, it is moved to `c`, and the
targets to multiples of their distances from the entry. -/
structure PercentageRegular (st : MarketState) (dir : Direction) (cfg : StrategyConfig)
    (profile : ExitProfileConfig) (e s t₁ t₂ t₃ c entry : Decimal) : Prop where
  kept : |e - s| ≤ c → e < s → 0 < e + t₁ →
    t₁ ≤ t₂ ∧ (PlausibleATR st cfg.strategyID → leastReach st cfg.strategyID entry profile ≤ s - e)
  clamped : c < |e - s| →
    e ≠ s ∧ profile.stopPct ≠ (if dir = .buy then 1 else -1) ∧
      (0 < c → 0 < |e + t₁| * decimalDiv c |e - s| →
        dir = .buy ∨ |e + t₁| * decimalDiv c |e - s| ≠ entry →
          (|e + t₁| ≤ |e + t₂| ∧ |e + t₂| ≤ |e + t₃|) ∧
            (PlausibleATR st cfg.strategyID → leastReach st cfg.strategyID entry profile ≤ c))

theorem safeDist_mono {x y : Decimal} (h : x ≤ y) : safeDist price x ≤ safeDist price y :=
  min_le_min_right _ (max_le_max_right _ h)

theorem tp2Dist_le_tp3Dist (hprice : 0 < price) (h : NonDecreasingTargets profile) :
    tp2Dist price profile ≤ tp3Dist price profile :=
  safeDist_mono (mul_le_mul_of_nonneg_left h.tp3 hprice.le)

theorem clampToProfile_eq {id : StrategyID} {levels : Levels}
    (hprofile : env.percentageProfile id = some profile) (hsl : levels.sl ≠ 0) :
    clampToProfile env id dir entry levels =
      if entry * profile.stopPct < |entry - levels.sl| then
        Levels.around dir entry (entry * profile.stopPct)
          (|levels.tp1 - entry| * decimalDiv (entry * profile.stopPct) |entry - levels.sl|)
          (|levels.tp2 - entry| * decimalDiv (entry * profile.stopPct) |entry - levels.sl|)
          (|levels.tp3 - entry| * decimalDiv (entry * profile.stopPct) |entry - levels.sl|)
      else levels := by
  unfold clampToProfile
  rw [hprofile]
  simp only [ne_eq, hsl, not_false_eq_true, true_and]

/-- When the clamp divides by zero. -/
theorem clampDividesByZero_iff {id : StrategyID} {levels : Levels}
    (hprofile : env.percentageProfile id = some profile) (hsl : levels.sl ≠ 0) :
    ClampDividesByZero env id entry levels ↔
      entry * profile.stopPct < |entry - levels.sl| ∧ |entry - levels.sl| = 0 := by
  unfold ClampDividesByZero
  rw [hprofile]
  simp [hsl]

theorem abs_sub_eq_ahead (dir : Direction) (entry x : Decimal) :
    |x - entry| = |ahead dir entry x| := by
  rw [abs_ahead, abs_sub_comm]

/-- A target at a positive distance is a price, unless it is the target of a SELL as far away as the entry
is high. -/
theorem around_tp1_ne_zero_iff (hentry : 0 < entry) {a b c d : Decimal} (hb : 0 < b) :
    (Levels.around dir entry a b c d).tp1 ≠ 0 ↔ dir = .buy ∨ b ≠ entry := by
  unfold Levels.around
  by_cases hdir : dir = .buy
  · rw [if_pos hdir]
    exact iff_of_true (add_pos hentry hb).ne' (Or.inl hdir)
  · rw [if_neg hdir, or_iff_right hdir]
    show entry - b ≠ 0 ↔ b ≠ entry
    rw [sub_ne_zero, ne_comm]

/-- Levels that are moved to the profile's stop: what passes the checks, and when it is right. -/
theorem moved_iff (hentry : 0 < entry) {id : StrategyID}
    (hprofile : env.percentageProfile id = some profile) {c r u₁ u₂ u₃ : Decimal}
    (hsl : (Levels.around dir entry c (u₁ * r) (u₂ * r) (u₃ * r)).sl ≠ 0) (hu : 0 ≤ u₁) :
    (Accepted dir entry (Levels.around dir entry c (u₁ * r) (u₂ * r) (u₃ * r)) →
        TargetsInOrder dir entry (Levels.around dir entry c (u₁ * r) (u₂ * r) (u₃ * r)) ∧
          Reaches env st id entry (Levels.around dir entry c (u₁ * r) (u₂ * r) (u₃ * r))) ↔
      (0 < c → 0 < u₁ * r → dir = .buy ∨ u₁ * r ≠ entry →
        (u₁ ≤ u₂ ∧ u₂ ≤ u₃) ∧ (PlausibleATR st id → leastReach st id entry profile ≤ c)) := by
  obtain ⟨h0, h1, h2, h3⟩ := ahead_around dir entry entry c (u₁ * r) (u₂ * r) (u₃ * r)
  rw [ahead_self, zero_sub] at h0
  rw [ahead_self, zero_add] at h1 h2 h3
  have hreach : 0 < c → (Reaches env st id entry
      (Levels.around dir entry c (u₁ * r) (u₂ * r) (u₃ * r)) ↔
        (PlausibleATR st id → leastReach st id entry profile ≤ c)) := by
    intro hc
    unfold Reaches
    rw [← abs_ahead dir, h0, abs_neg, abs_of_pos hc, hprofile]
    simp
  have horder : 0 < u₁ * r → (TargetsInOrder dir entry
      (Levels.around dir entry c (u₁ * r) (u₂ * r) (u₃ * r)) ↔ u₁ ≤ u₂ ∧ u₂ ≤ u₃) := by
    intro hr
    have hpos : 0 < r := pos_of_mul_pos_right hr hu
    unfold TargetsInOrder
    rw [h1, h2, h3, mul_le_mul_iff_left₀ hpos, mul_le_mul_iff_left₀ hpos]
  have hacc : Accepted dir entry (Levels.around dir entry c (u₁ * r) (u₂ * r) (u₃ * r)) ↔
      0 < c ∧ 0 < u₁ * r ∧ (dir = .buy ∨ u₁ * r ≠ entry) := by
    unfold Accepted
    rw [and_iff_right hsl, h0, h1, neg_lt_zero]
    constructor
    · rintro ⟨htp, hc, hr⟩
      exact ⟨hc, hr, (around_tp1_ne_zero_iff hentry hr).mp htp⟩
    · rintro ⟨hc, hr, htp⟩
      exact ⟨(around_tp1_ne_zero_iff hentry hr).mpr htp, hc, hr⟩
  rw [hacc]
  constructor
  · intro h hc hr htp
    obtain ⟨ho, hre⟩ := h ⟨hc, hr, htp⟩
    exact ⟨(horder hr).mp ho, (hreach hc).mp hre⟩
  · rintro h ⟨hc, hr, htp⟩
    obtain ⟨ho, hre⟩ := h hc hr htp
    exact ⟨(horder hr).mpr ho, (hreach hc).mpr hre⟩

theorem profileLevels_tp1_ne_zero (hprice : price ≠ 0) :
    (profileLevels dir price atr profile).tp1 ≠ 0 := by
  have hside : (profileLevels dir price atr profile).tp1 =
      stopAt (if dir = .buy then .sell else .buy) price (tp1Dist price atr profile) := by
    unfold profileLevels Levels.around stopAt
    split_ifs <;> simp_all
  rw [hside]
  exact stopAt_safeDist_ne_zero hprice _ _

/-- Levels that stay where the profile puts them: what passes the checks, and when it is right. -/
theorem kept_iff (hprice : 0 < price) (hprofile : env.percentageProfile cfg.strategyID = some profile)
    (htargets : NonDecreasingTargets profile) :
    (Accepted dir entry (profileLevels dir price atr profile) →
        TargetsInOrder dir entry (profileLevels dir price atr profile) ∧
          Reaches env st cfg.strategyID entry (profileLevels dir price atr profile)) ↔
      (ahead dir entry price < stopDist price atr profile →
        0 < ahead dir entry price + tp1Dist price atr profile →
          tp1Dist price atr profile ≤ tp2Dist price profile ∧
            (PlausibleATR st cfg.strategyID → leastReach st cfg.strategyID entry profile ≤
              stopDist price atr profile - ahead dir entry price)) := by
  obtain ⟨h0, h1, h2, h3⟩ := ahead_around dir entry price (stopDist price atr profile)
    (tp1Dist price atr profile) (tp2Dist price profile) (tp3Dist price profile)
  have hacc : Accepted dir entry (profileLevels dir price atr profile) ↔
      ahead dir entry price < stopDist price atr profile ∧
        0 < ahead dir entry price + tp1Dist price atr profile := by
    unfold Accepted
    rw [and_iff_right (profileLevels_sl_ne_zero hprice.ne'),
      and_iff_right (profileLevels_tp1_ne_zero hprice.ne')]
    unfold profileLevels
    rw [h0, h1, sub_neg]
  have horder : TargetsInOrder dir entry (profileLevels dir price atr profile) ↔
      tp1Dist price atr profile ≤ tp2Dist price profile := by
    unfold TargetsInOrder profileLevels
    rw [h1, h2, h3, add_le_add_iff_left, add_le_add_iff_left]
    exact and_iff_left (tp2Dist_le_tp3Dist hprice htargets)
  have hreach : ahead dir entry price < stopDist price atr profile →
      (Reaches env st cfg.strategyID entry (profileLevels dir price atr profile) ↔
        (PlausibleATR st cfg.strategyID → leastReach st cfg.strategyID entry profile ≤
          stopDist price atr profile - ahead dir entry price)) := by
    intro hlt
    unfold Reaches profileLevels
    rw [← abs_ahead dir, h0, abs_of_neg (by linarith), neg_sub, hprofile]
    simp
  rw [hacc, horder]
  constructor
  · intro h hstop htp
    obtain ⟨ho, hre⟩ := h ⟨hstop, htp⟩
    exact ⟨ho, (hreach hstop).mp hre⟩
  · rintro h ⟨hstop, htp⟩
    obtain ⟨ho, hre⟩ := h hstop htp
    exact ⟨ho, (hreach hstop).mpr hre⟩

/-- The condition at a state, a direction and a profile. -/
def RegularUnder (st : MarketState) (dir : Direction) (cfg : StrategyConfig)
    (profile : ExitProfileConfig) : Prop :=
  PercentageRegular st dir cfg profile (lead st dir)
    (stopDist st.currentPrice (geometryATR st cfg.strategyID) profile)
    (tp1Dist st.currentPrice (geometryATR st cfg.strategyID) profile)
    (tp2Dist st.currentPrice profile) (tp3Dist st.currentPrice profile)
    (quotedEntry st dir * profile.stopPct) (quotedEntry st dir)

/-- The distances of the profile's levels from the quoted entry. -/
theorem profileLevels_distances (st : MarketState) (dir : Direction) (atr : Decimal)
    (profile : ExitProfileConfig) :
    |quotedEntry st dir - (profileLevels dir st.currentPrice atr profile).sl| =
        |lead st dir - stopDist st.currentPrice atr profile| ∧
      |(profileLevels dir st.currentPrice atr profile).tp1 - quotedEntry st dir| =
        |lead st dir + tp1Dist st.currentPrice atr profile| ∧
      |(profileLevels dir st.currentPrice atr profile).tp2 - quotedEntry st dir| =
        |lead st dir + tp2Dist st.currentPrice profile| ∧
      |(profileLevels dir st.currentPrice atr profile).tp3 - quotedEntry st dir| =
        |lead st dir + tp3Dist st.currentPrice profile| := by
  obtain ⟨h0, h1, h2, h3⟩ := ahead_around dir (quotedEntry st dir) st.currentPrice
    (stopDist st.currentPrice atr profile) (tp1Dist st.currentPrice atr profile)
    (tp2Dist st.currentPrice profile) (tp3Dist st.currentPrice profile)
  exact ⟨(abs_ahead dir _ _).symm.trans (congrArg _ h0),
    (abs_sub_eq_ahead dir _ _).trans (congrArg _ h1), (abs_sub_eq_ahead dir _ _).trans (congrArg _ h2),
    (abs_sub_eq_ahead dir _ _).trans (congrArg _ h3)⟩

/-- The stop that the profile allows at the entry. -/
def profileStop (st : MarketState) (dir : Direction) (profile : ExitProfileConfig) : Decimal :=
  quotedEntry st dir * profile.stopPct

/-- How far the profile's stop is from the quoted entry, with its sign. -/
def stopGap (st : MarketState) (dir : Direction) (atr : Decimal) (profile : ExitProfileConfig) : Decimal :=
  lead st dir - stopDist st.currentPrice atr profile

/-- The levels after a clamp: the targets are moved by the ratio of the stops. -/
def movedLevels (st : MarketState) (dir : Direction) (atr : Decimal) (profile : ExitProfileConfig) :
    Levels :=
  let ratio := decimalDiv (profileStop st dir profile) |stopGap st dir atr profile|
  Levels.around dir (quotedEntry st dir) (profileStop st dir profile)
    (|lead st dir + tp1Dist st.currentPrice atr profile| * ratio)
    (|lead st dir + tp2Dist st.currentPrice profile| * ratio)
    (|lead st dir + tp3Dist st.currentPrice profile| * ratio)

theorem clampedLevels_of_profile (dir : Direction)
    (hprofile : env.percentageProfile cfg.strategyID = some profile)
    (hprice : 0 < st.currentPrice) (hatr : geometryATR st cfg.strategyID ≠ 0) :
    clampedLevels env st dir cfg =
      if profileStop st dir profile < |stopGap st dir (geometryATR st cfg.strategyID) profile| then
        movedLevels st dir (geometryATR st cfg.strategyID) profile
      else profileLevels dir st.currentPrice (geometryATR st cfg.strategyID) profile := by
  obtain ⟨h0, h1, h2, h3⟩ := profileLevels_distances st dir (geometryATR st cfg.strategyID) profile
  rw [clampedLevels, structuralLevels_of_profile hprofile hprice hatr,
    clampToProfile_eq hprofile (profileLevels_sl_ne_zero hprice.ne'), h0, h1, h2, h3]
  rfl

theorem clamp_of_profile (dir : Direction)
    (hprofile : env.percentageProfile cfg.strategyID = some profile)
    (hprice : 0 < st.currentPrice) (hatr : geometryATR st cfg.strategyID ≠ 0) :
    ClampDividesByZero env cfg.strategyID (quotedEntry st dir) (structuralLevels env st dir cfg) ↔
      profileStop st dir profile < |stopGap st dir (geometryATR st cfg.strategyID) profile| ∧
        lead st dir = stopDist st.currentPrice (geometryATR st cfg.strategyID) profile := by
  obtain ⟨h0, -⟩ := profileLevels_distances st dir (geometryATR st cfg.strategyID) profile
  rw [structuralLevels_of_profile hprofile hprice hatr,
    clampDividesByZero_iff hprofile (profileLevels_sl_ne_zero hprice.ne'), h0, abs_eq_zero, sub_eq_zero]
  rfl

/-- A stop at the profile's distance is at a price of zero. -/
theorem stopAt_eq_zero_iff (hentry : 0 < entry) (dir : Direction) (x : Decimal) :
    stopAt dir entry (entry * x) = 0 ↔ x = if dir = .buy then 1 else -1 := by
  have hne := hentry.ne'
  unfold stopAt
  split_ifs
  · rw [sub_eq_zero, eq_comm, mul_eq_left₀ hne]
  · constructor
    · intro h
      have hmul : entry * x = entry * -1 := by linarith
      exact mul_left_cancel₀ hne hmul
    · rintro rfl
      ring

/-- Levels that are handed out unchecked are neither valid nor given a reason. -/
theorem not_sound_unchecked {levels : Levels}
    (hrun : tradeGeometryRun env (some st) dir cfg = some (uncheckedGeometry entry levels, some st)) :
    ¬ ∃ geo, SoundGeometry env (some st) dir cfg geo := by
  rintro ⟨geo, hgeo⟩
  have hsome := hgeo.returned.symm.trans hrun
  obtain rfl : geo = uncheckedGeometry entry levels := by
    cases hsome
    rfl
  exact absurd (hgeo.flagged.mpr rfl) (by simp [uncheckedGeometry])

/-- The stop is farther than the profile allows. -/
theorem moved_sound_iff (hready : Ready st dir cfg) (hprices : PositivePrices st)
    (hprofile : env.percentageProfile cfg.strategyID = some profile)
    (hfar : profileStop st dir profile < |stopGap st dir (geometryATR st cfg.strategyID) profile|) :
    (∃ geo, SoundGeometry env (some st) dir cfg geo) ↔
      ¬ NetDividesByZero st.spread (quotedEntry st dir) (checkedLevels env st dir cfg) ∧
        RegularUnder st dir cfg profile := by
  have hentry := hprices.entry dir
  have hclamped := clampedLevels_of_profile dir hprofile hprices.current hready.atr
  have hdivides := clamp_of_profile dir hprofile hprices.current hready.atr
  rw [if_pos hfar] at hclamped
  by_cases hgap : lead st dir = stopDist st.currentPrice (geometryATR st cfg.strategyID) profile
  · -- the ratio of the clamp has no divisor
    refine iff_of_false ?_ fun h => (h.2.clamped hfar).1 hgap
    rintro ⟨geo, hgeo⟩
    have hrun : tradeGeometryRun env (some st) dir cfg = _ := hready.run
    rw [if_pos (hdivides.mpr ⟨hfar, hgap⟩)] at hrun
    have hnone := hgeo.returned.symm.trans hrun
    cases hnone
  · have hnot : ¬ ClampDividesByZero env cfg.strategyID (quotedEntry st dir)
        (structuralLevels env st dir cfg) := fun h => hgap (hdivides.mp h).2
    have hstop : (clampedLevels env st dir cfg).sl = 0 ↔
        profile.stopPct = if dir = .buy then 1 else -1 := by
      rw [hclamped, movedLevels, around_sl]
      exact stopAt_eq_zero_iff hentry dir profile.stopPct
    by_cases hzero : (clampedLevels env st dir cfg).sl = 0
    · -- a stop of zero is taken for none
      refine iff_of_false ?_ fun h => (h.2.clamped hfar).2.1 (hstop.mp hzero)
      have hrun : tradeGeometryRun env (some st) dir cfg = _ := hready.run
      rw [if_neg hnot, if_neg (not_not.mpr hzero), percentageLevels_eq hprofile hentry.ne'] at hrun
      exact not_sound_unchecked hrun
    · have hchecked : checkedLevels env st dir cfg =
          movedLevels st dir (geometryATR st cfg.strategyID) profile := by
        rw [checkedLevels, if_pos hzero, hclamped]
      rw [sound_iff_of_checked (hready.run_checked hnot (Or.inl hzero)), hchecked]
      refine and_congr_right fun _ => ?_
      rw [hclamped] at hzero
      rw [movedLevels, moved_iff hentry hprofile hzero (abs_nonneg _)]
      constructor
      · intro h
        exact ⟨fun hle => absurd hfar (not_lt.mpr hle),
          fun _ => ⟨hgap, fun hx => hzero (by rwa [← hclamped, hstop]), h⟩⟩
      · intro h
        exact (h.clamped hfar).2.2

/-- The stop is not farther than the profile allows. -/
theorem kept_sound_iff (hready : Ready st dir cfg) (hprices : PositivePrices st)
    (hprofile : env.percentageProfile cfg.strategyID = some profile)
    (htargets : NonDecreasingTargets profile)
    (hnear : ¬ profileStop st dir profile < |stopGap st dir (geometryATR st cfg.strategyID) profile|) :
    (∃ geo, SoundGeometry env (some st) dir cfg geo) ↔
      ¬ NetDividesByZero st.spread (quotedEntry st dir) (checkedLevels env st dir cfg) ∧
        RegularUnder st dir cfg profile := by
  have hprice := hprices.current
  have hclamped := clampedLevels_of_profile dir hprofile hprice hready.atr
  rw [if_neg hnear] at hclamped
  have hnot : ¬ ClampDividesByZero env cfg.strategyID (quotedEntry st dir)
      (structuralLevels env st dir cfg) :=
    fun h => hnear ((clamp_of_profile dir hprofile hprice hready.atr).mp h).1
  have hzero : (clampedLevels env st dir cfg).sl ≠ 0 := by
    rw [hclamped]
    exact profileLevels_sl_ne_zero hprice.ne'
  have hchecked : checkedLevels env st dir cfg =
      profileLevels dir st.currentPrice (geometryATR st cfg.strategyID) profile := by
    rw [checkedLevels, if_pos hzero, hclamped]
  rw [sound_iff_of_checked (hready.run_checked hnot (Or.inl hzero)), hchecked,
    kept_iff hprice hprofile htargets]
  refine and_congr_right fun _ => ?_
  constructor
  · intro h
    exact ⟨fun _ => h, fun hlt => absurd hlt hnear⟩
  · intro h
    exact h.kept (not_lt.mp hnear)

/-- When the geometry of a percentage profile is sound. -/
theorem percentage_sound_iff (hready : Ready st dir cfg) (hprices : PositivePrices st)
    (hprofile : env.percentageProfile cfg.strategyID = some profile)
    (htargets : NonDecreasingTargets profile) :
    (∃ geo, SoundGeometry env (some st) dir cfg geo) ↔
      ¬ NetDividesByZero st.spread (quotedEntry st dir) (checkedLevels env st dir cfg) ∧
        RegularUnder st dir cfg profile := by
  by_cases hfar : profileStop st dir profile < |stopGap st dir (geometryATR st cfg.strategyID) profile|
  · exact moved_sound_iff hready hprices hprofile hfar
  · exact kept_sound_iff hready hprices hprofile htargets hfar

end Percentage

/-! ## The result -/

/-- The levels of a profile, or of the structure, are regular. -/
def RegularLevels (env : Env) (st : MarketState) (dir : Direction) (cfg : StrategyConfig) : Prop :=
  match env.percentageProfile cfg.strategyID with
  | none => PlainRegular st dir cfg
  | some profile => RegularUnder st dir cfg profile

/-- The exact condition. It asks nothing of a call that is turned down before any levels are computed. -/
def RegularGeometry (env : Env) (state : Option MarketState) (dir : Direction) (cfg : StrategyConfig) :
    Prop :=
  ∀ st ∈ state, Ready st dir cfg →
    ¬ NetDividesByZero st.spread (quotedEntry st dir) (checkedLevels env st dir cfg) ∧
      RegularLevels env st dir cfg

section Result

variable {env : Env} {dir : Direction} {cfg : StrategyConfig}

theorem sound_of_refused {state : Option MarketState} {reason : String} (hreason : reason ≠ "")
    (hrun : tradeGeometryRun env state dir cfg = some ({ reasonCode := reason }, state)) :
    ∃ geo, SoundGeometry env state dir cfg geo := by
  refine ⟨{ reasonCode := reason }, hrun, ?_, ?_, ?_⟩
  · exact iff_of_false Bool.false_ne_true hreason
  · intro h
    exact absurd h Bool.false_ne_true
  · intro h
    exact absurd h Bool.false_ne_true

theorem sound_of_not_ready {st : MarketState} (h : ¬ Ready st dir cfg) :
    ∃ geo, SoundGeometry env (some st) dir cfg geo := by
  obtain ⟨reason, hreason, -, hrun⟩ := run_of_not_ready env h
  exact sound_of_refused hreason hrun

/-- **The geometry of a trade** is sound exactly where its levels are regular. -/
theorem trade_geometry_sound_iff (state : Option MarketState) (hprices : ∀ st ∈ state, PositivePrices st)
    (hcfg : IncreasingMultipliers cfg)
    (htargets : ∀ profile ∈ env.percentageProfile cfg.strategyID, NonDecreasingTargets profile) :
    (∃ geo, SoundGeometry env state dir cfg geo) ↔ RegularGeometry env state dir cfg := by
  cases state with
  | none =>
    refine iff_of_true ?_ fun st hm => by cases hm
    exact sound_of_refused (by decide : "NO_MARKET_STATE" ≠ "") rfl
  | some st =>
    have hp := hprices st rfl
    have hregular : RegularGeometry env (some st) dir cfg ↔
        (Ready st dir cfg →
          ¬ NetDividesByZero st.spread (quotedEntry st dir) (checkedLevels env st dir cfg) ∧
            RegularLevels env st dir cfg) := by
      simp [RegularGeometry]
    rw [hregular]
    by_cases hready : Ready st dir cfg
    · rw [imp_iff_right hready, RegularLevels]
      cases hprofile : env.percentageProfile cfg.strategyID with
      | none => exact plain_sound_iff hready hp hcfg hprofile
      | some profile => exact percentage_sound_iff hready hp hprofile (htargets profile hprofile)
    · exact iff_of_true (sound_of_not_ready hready) fun h => absurd h hready

/-- A spread that is not negative takes no risk away. -/
theorem not_netDividesByZero {spread entry : Decimal} (levels : Levels) (h : 0 ≤ spread) :
    ¬ NetDividesByZero spread entry levels := by
  rintro ⟨-, -, hrisk, -, hsum⟩
  have hpos : 0 < |entry - levels.sl| := lt_of_le_of_ne (abs_nonneg _) hrisk.symm
  linarith

end Result

/-! ## A swing in a fast market and in a calm one -/

/-- The percentages of the trend swing as they are shipped. -/
def trendSwingProfile : ExitProfileConfig where
  calculationMode := "PERCENTAGE"
  stopPct := 30 / 10000
  tp1Pct := 65 / 10000
  tp2Pct := 110 / 10000
  tp3Pct := 150 / 10000
  minStopATRMult := 15 / 10
  maxStopATRMult := 4
  minTP1ATRMult := 15 / 10
  maxTP1ATRMult := 4

/-- The environment with a profile for the swing strategy. -/
def swingProfileLoaded : Env :=
  { noProfile with
    loadExitProfile := fun id => if id = .trendSwing then some trendSwingProfile else none }

theorem goldAt_positivePrices (atr : Decimal) :
    ∀ st ∈ some (goldAt atr).toState, PositivePrices st := by
  intro st hst
  obtain rfl := Option.mem_some_iff.mp hst
  constructor <;> norm_num [goldAt]

theorem newTrendSwing_increasing : IncreasingMultipliers newTrendSwing := by
  constructor <;> norm_num [newTrendSwing]

theorem trendSwingProfile_nonDecreasing :
    ∀ profile ∈ swingProfileLoaded.percentageProfile newTrendSwing.strategyID,
      NonDecreasingTargets profile := by
  intro profile hm
  have hloaded : swingProfileLoaded.percentageProfile newTrendSwing.strategyID =
      some trendSwingProfile := by decide +kernel
  rw [hloaded] at hm
  obtain rfl := Option.mem_some_iff.mp hm
  constructor <;> norm_num [trendSwingProfile]

/-- The range is sixteen dollars. The guardrails ask for twenty-four, for the stop and for the first target;
the second is at twenty-two, and the clamp leaves six for the stop. -/
theorem first_target_beyond_second :
    (∀ st ∈ some (goldAt 16).toState, PositivePrices st) ∧ IncreasingMultipliers newTrendSwing ∧
      (∀ profile ∈ swingProfileLoaded.percentageProfile newTrendSwing.strategyID,
        NonDecreasingTargets profile) ∧
      ¬ ∃ geo, SoundGeometry swingProfileLoaded (some (goldAt 16).toState) .buy newTrendSwing geo := by
  refine ⟨goldAt_positivePrices 16, newTrendSwing_increasing, trendSwingProfile_nonDecreasing, ?_⟩
  rintro ⟨geo, hgeo⟩
  obtain ⟨rfl, -⟩ := tradeGeometryRun_eq hgeo.returned
  have hvalid : (buildTradeGeometry swingProfileLoaded (some (goldAt 16).toState) .buy
      newTrendSwing).valid = true := by decide +kernel
  have hcrossed : ¬ (buildTradeGeometry swingProfileLoaded (some (goldAt 16).toState) .buy
      newTrendSwing).tp1 ≤ (buildTradeGeometry swingProfileLoaded (some (goldAt 16).toState) .buy
        newTrendSwing).tp2 := by decide +kernel
  have horder := hgeo.ordered hvalid
  rw [InOrder, if_pos rfl] at horder
  exact hcrossed horder.2.2.1

/-- A range of three dollars asks for a stop at four and a half, and the clamp leaves six. -/
theorem calm_swing_sound :
    ∃ geo, SoundGeometry swingProfileLoaded (some (goldAt 3).toState) .buy newTrendSwing geo := by
  refine (trade_geometry_sound_iff _ (goldAt_positivePrices 3) newTrendSwing_increasing
    trendSwingProfile_nonDecreasing).mpr ?_
  intro st hst _
  obtain rfl := Option.mem_some_iff.mp hst
  refine ⟨not_netDividesByZero _ (by decide +kernel), ?_⟩
  have hlevels : RegularUnder (goldAt 3).toState .buy newTrendSwing trendSwingProfile := by
    constructor
    · intro hle
      exact absurd hle (by decide +kernel)
    · intro _
      refine ⟨by decide +kernel, by decide +kernel, fun _ _ _ => ⟨by decide +kernel, fun _ => ?_⟩⟩
      decide +kernel
  exact hlevels

end PredictATrade.Realtime.Strategy
