import PredictATrade.Realtime.GeometryRun

/-!
# `Realtime.PlainGeometry` — trade geometries without a percentage profile

The levels come from the market structure, or from multiples of the average true range where there is no
structural stop. Both keep the targets in order as long as the range is not negative. `plain_sound_iff` says
what a negative one can do: nothing to a SELL, whose targets move out with the stop, and to a BUY only if its
quote is far enough behind the current price.
-/

namespace PredictATrade.Realtime.Strategy
open Lib.Decimal Features

variable {env : Env} {st : MarketState} {dir : Direction} {cfg : StrategyConfig} {entry : Decimal}

theorem ahead_around (dir : Direction) (entry price a b c d : Decimal) :
    ahead dir entry (Levels.around dir price a b c d).sl = ahead dir entry price - a ∧
      ahead dir entry (Levels.around dir price a b c d).tp1 = ahead dir entry price + b ∧
      ahead dir entry (Levels.around dir price a b c d).tp2 = ahead dir entry price + c ∧
      ahead dir entry (Levels.around dir price a b c d).tp3 = ahead dir entry price + d := by
  unfold Levels.around ahead
  split_ifs
  · exact ⟨by ring, by ring, by ring, by ring⟩
  · exact ⟨by ring, by ring, by ring, by ring⟩

theorem ahead_self (dir : Direction) (entry : Decimal) : ahead dir entry entry = 0 := by
  unfold ahead
  rw [sub_self, ite_self]

/-- A multiple of a range that is positive grows with the multiplier, up to the limit. -/
theorem min_mul_le_min_mul {a m n c : Decimal} (ha : 0 ≤ a) (h : m ≤ n) :
    min (a * m) c ≤ min (a * n) c :=
  min_le_min_right c (mul_le_mul_of_nonneg_left h ha)

/-- What passes the checks is in order. -/
theorem atrLevels_inOrder (hcfg : IncreasingMultipliers cfg) {atr : Decimal}
    (h : Accepted dir entry (atrLevels dir entry atr cfg)) :
    TargetsInOrder dir entry (atrLevels dir entry atr cfg) := by
  obtain ⟨-, -, -, htarget⟩ := h
  have haround := ahead_around dir entry entry (min (atr * cfg.atrMultiplierSL) (maxDist entry))
    (min (atr * cfg.atrMultiplierTP1) (maxDist entry))
    (min (atr * cfg.atrMultiplierTP2) (maxDist entry))
    (min (atr * cfg.atrMultiplierTP3) (maxDist entry))
  obtain ⟨-, h1, h2, h3⟩ := haround
  have hfirst : 0 < atr * cfg.atrMultiplierTP1 := by
    have hpos := htarget.trans_eq h1
    rw [ahead_self, zero_add] at hpos
    exact hpos.trans_le (min_le_left _ _)
  have hatr : 0 ≤ atr := (pos_of_mul_pos_left hfirst hcfg.tp1.le).le
  unfold TargetsInOrder atrLevels
  dsimp only
  rw [h1, h2, h3]
  exact ⟨add_le_add_right (min_mul_le_min_mul hatr hcfg.tp2.le) _,
    add_le_add_right (min_mul_le_min_mul hatr hcfg.tp3.le) _⟩

/-- Without a profile, the levels are those of the market structure. -/
theorem structuralLevels_of_plain (st : MarketState) (dir : Direction)
    (hprofile : env.percentageProfile cfg.strategyID = none)
    (hatr : geometryATR st cfg.strategyID ≠ 0) :
    ∃ sl, structuralLevels env st dir cfg =
      { (if dir = .buy then structuralBuy st.currentPrice (geometryATR st cfg.strategyID)
            (getStructuralLow st) (decimalDiv st.spread 2) cfg
          else structuralSell st.currentPrice (geometryATR st cfg.strategyID)
            (getStructuralHigh st) (decimalDiv st.spread 2) cfg) with sl := sl } := by
  have hnone : percentageLevels env cfg.strategyID st.currentPrice dir
      (geometryATR st cfg.strategyID) = none :=
    (percentageLevels_eq_none_iff _ _ _ _ _).mpr (Or.inl hprofile)
  unfold structuralLevels computeStructuralSLTP
  simp only [MarketState.withATR, if_neg hatr, hnone]
  exact ⟨_, rfl⟩

/-- The targets of a SELL are in order whatever the range. -/
theorem structuralSell_inOrder (hcfg : IncreasingMultipliers cfg) {price atr high halfSpread : Decimal}
    (sl : Decimal) :
    TargetsInOrder .sell entry { structuralSell price atr high halfSpread cfg with sl := sl } := by
  have hmono : ∀ {d m n c : Decimal}, 0 ≤ d → 0 < m → m ≤ n →
      min (max (atr * m) (d * (m / cfg.atrMultiplierSL))) c ≤
        min (max (atr * n) (d * (n / cfg.atrMultiplierSL))) c := by
    intro d m n c hd hm hmn
    have hstop : d * (m / cfg.atrMultiplierSL) ≤ d * (n / cfg.atrMultiplierSL) :=
      mul_le_mul_of_nonneg_left (div_le_div_of_nonneg_right hmn hcfg.sl.le) hd
    refine min_le_min_right c (max_le ?_ (hstop.trans (le_max_right _ _)))
    rcases le_or_gt 0 atr with ha | ha
    · exact (mul_le_mul_of_nonneg_left hmn ha).trans (le_max_left _ _)
    · -- a negative multiple is below the multiple of the stop
      have hnonneg : 0 ≤ d * (n / cfg.atrMultiplierSL) :=
        mul_nonneg hd (div_nonneg (hm.le.trans hmn) hcfg.sl.le)
      exact (mul_nonpos_of_nonpos_of_nonneg ha.le hm.le).trans (hnonneg.trans (le_max_right _ _))
  have hm2 := hcfg.tp1.trans hcfg.tp2
  simp only [TargetsInOrder, ahead, structuralSell, reduceCtorEq, if_false, sub_le_sub_iff_left]
  exact ⟨hmono (abs_nonneg _) hcfg.tp1 hcfg.tp2.le, hmono (abs_nonneg _) hm2 hcfg.tp3.le⟩

/-- Those of a BUY are in order exactly if the range is not negative. -/
theorem structuralBuy_inOrder_iff (hcfg : IncreasingMultipliers cfg) {price atr low halfSpread : Decimal}
    (hprice : 0 < price) (hatr : atr ≠ 0) (sl : Decimal) :
    TargetsInOrder .buy entry { structuralBuy price atr low halfSpread cfg with sl := sl } ↔ 0 < atr := by
  have hm2 := hcfg.tp1.trans hcfg.tp2
  simp only [TargetsInOrder, ahead, structuralBuy, if_true, sub_le_sub_iff_right,
    add_le_add_iff_left]
  constructor
  · intro h
    by_contra hneg
    have hlt : atr < 0 := lt_of_le_of_ne (not_lt.mp hneg) hatr
    have hcap : ∀ {m : Decimal}, 0 < m → min (atr * m) (maxDist price) = atr * m := by
      intro m hm
      have hmax : 0 < maxDist price := mul_pos hprice (by norm_num)
      exact min_eq_left ((mul_neg_of_neg_of_pos hlt hm).trans hmax).le
    rw [hcap hcfg.tp1, hcap hm2] at h
    exact absurd h.1 (not_le.mpr (mul_lt_mul_of_neg_left hcfg.tp2 hlt))
  · intro hpos
    exact ⟨min_mul_le_min_mul hpos.le hcfg.tp2.le, min_mul_le_min_mul hpos.le hcfg.tp3.le⟩

/-- With a negative range, a BUY passes the checks only if the first target is ahead of the entry all the
same. -/
theorem structuralBuy_accepted_iff (hcfg : IncreasingMultipliers cfg)
    {price atr low halfSpread : Decimal} (hprice : 0 < price) (hentry : 0 < entry) (hatr : atr ≠ 0)
    (sl : Decimal) :
    (Accepted .buy entry { structuralBuy price atr low halfSpread cfg with sl := sl } →
        TargetsInOrder .buy entry { structuralBuy price atr low halfSpread cfg with sl := sl }) ↔
      (atr < 0 → sl ≠ 0 → sl < entry → price + atr * cfg.atrMultiplierTP1 ≤ entry) := by
  rw [structuralBuy_inOrder_iff hcfg hprice hatr sl]
  by_cases hpos : 0 < atr
  · exact iff_of_true (fun _ => hpos) fun hneg => absurd hneg (not_lt.mpr hpos.le)
  · have hneg : atr < 0 := lt_of_le_of_ne (not_lt.mp hpos) hatr
    have hmax : 0 < maxDist price := mul_pos hprice (by norm_num)
    have htp : min (atr * cfg.atrMultiplierTP1) (maxDist price) = atr * cfg.atrMultiplierTP1 :=
      min_eq_left ((mul_neg_of_neg_of_pos hneg hcfg.tp1).trans hmax).le
    have hacc : Accepted .buy entry { structuralBuy price atr low halfSpread cfg with sl := sl } ↔
        sl ≠ 0 ∧ sl < entry ∧ entry < price + atr * cfg.atrMultiplierTP1 := by
      simp only [Accepted, ahead, structuralBuy, if_true, htp, sub_neg, sub_pos]
      constructor
      · rintro ⟨hsl, -, hstop, htarget⟩
        exact ⟨hsl, hstop, htarget⟩
      · rintro ⟨hsl, hstop, htarget⟩
        exact ⟨hsl, (hentry.trans htarget).ne', hstop, htarget⟩
    rw [hacc]
    constructor
    · intro h _ hsl hstop
      by_contra htarget
      exact hpos (h ⟨hsl, hstop, not_le.mp htarget⟩)
    · rintro h ⟨hsl, hstop, htarget⟩
      exact absurd htarget (not_lt.mpr (h hneg hsl hstop))

/-- Where a BUY has its stop if the range is negative: moved up from the swing low, or from the current
price. -/
def backwardStop (st : MarketState) (cfg : StrategyConfig) : Decimal :=
  let atr := geometryATR st cfg.strategyID
  let halfSpread := decimalDiv st.spread 2
  let low := if getStructuralLow st = 0 then st.currentPrice else getStructuralLow st
  let base := low - atr * cfg.atrMultiplierSL - halfSpread
  let minSL := if 0 < cfg.minSLATRFloor then max (atr * cfg.atrMultiplierSL) (atr * cfg.minSLATRFloor)
    else atr * cfg.atrMultiplierSL
  if st.currentPrice ≤ base then st.currentPrice - minSL - halfSpread else base

theorem structuralLevels_sl_of_backward (hprices : PositivePrices st) (hcfg : IncreasingMultipliers cfg)
    (hprofile : env.percentageProfile cfg.strategyID = none)
    (hneg : geometryATR st cfg.strategyID < 0) :
    (structuralLevels env st .buy cfg).sl = backwardStop st cfg := by
  have hnone : percentageLevels env cfg.strategyID st.currentPrice .buy
      (geometryATR st cfg.strategyID) = none :=
    (percentageLevels_eq_none_iff _ _ _ _ _).mpr (Or.inl hprofile)
  have hmax : 0 < maxDist st.currentPrice := mul_pos hprices.current (by norm_num)
  have hstop : geometryATR st cfg.strategyID * cfg.atrMultiplierSL < 0 := mul_neg_of_neg_of_pos hneg hcfg.sl
  -- no limit binds a negative distance, and none is below one
  have hcap : min (geometryATR st cfg.strategyID * cfg.atrMultiplierSL) (maxDist st.currentPrice) =
      geometryATR st cfg.strategyID * cfg.atrMultiplierSL := min_eq_left (hstop.trans hmax).le
  have hwide : (if 0 < cfg.minSLATRFloor then max (geometryATR st cfg.strategyID * cfg.atrMultiplierSL)
      (geometryATR st cfg.strategyID * cfg.minSLATRFloor)
      else geometryATR st cfg.strategyID * cfg.atrMultiplierSL) < 0 := by
    split_ifs with hfloor
    · exact max_lt hstop (mul_neg_of_neg_of_pos hneg hfloor)
    · exact hstop
  have hfar : ∀ {x y : Decimal}, y < 0 → ¬ |x| < y := by
    intro x y hy
    exact not_lt.mpr (hy.le.trans (abs_nonneg _))
  unfold structuralLevels computeStructuralSLTP enforceSLDirection backwardStop
  simp only [MarketState.withATR, if_neg hneg.ne, hnone, structuralBuy, if_true, hcap,
    min_eq_left (hwide.trans hmax).le, if_neg (hfar hstop), hfar hwide, or_false]
  split_ifs <;> rfl

/-- Without a profile, only a BUY with a negative range can go wrong: if its stop is behind the quote all the
same, then so must the first target be. -/
def PlainRegular (st : MarketState) (dir : Direction) (cfg : StrategyConfig) : Prop :=
  dir = .buy → geometryATR st cfg.strategyID < 0 → backwardStop st cfg ≠ 0 →
    backwardStop st cfg < quotedEntry st dir →
      st.currentPrice + geometryATR st cfg.strategyID * cfg.atrMultiplierTP1 ≤ quotedEntry st dir

/-- When the plain levels are regular. -/
theorem plainRegular_iff (dir : Direction) (hprices : PositivePrices st)
    (hcfg : IncreasingMultipliers cfg) (hprofile : env.percentageProfile cfg.strategyID = none) :
    PlainRegular st dir cfg ↔
      (dir = .buy → geometryATR st cfg.strategyID < 0 → (structuralLevels env st dir cfg).sl ≠ 0 →
        (structuralLevels env st dir cfg).sl < quotedEntry st dir →
          st.currentPrice + geometryATR st cfg.strategyID * cfg.atrMultiplierTP1 ≤
            quotedEntry st dir) := by
  unfold PlainRegular
  refine forall_congr' fun hbuy => forall_congr' fun hneg => ?_
  subst hbuy
  rw [structuralLevels_sl_of_backward hprices hcfg hprofile hneg]

/-- When the plain geometry is sound. -/
theorem plain_sound_iff (hready : Ready st dir cfg) (hprices : PositivePrices st)
    (hcfg : IncreasingMultipliers cfg) (hprofile : env.percentageProfile cfg.strategyID = none) :
    (∃ geo, SoundGeometry env (some st) dir cfg geo) ↔
      ¬ NetDividesByZero st.spread (quotedEntry st dir) (checkedLevels env st dir cfg) ∧
        PlainRegular st dir cfg := by
  have hclamped : clampedLevels env st dir cfg = structuralLevels env st dir cfg := by
    unfold clampedLevels clampToProfile
    rw [hprofile]
  have hclamp : ¬ ClampDividesByZero env cfg.strategyID (quotedEntry st dir)
      (structuralLevels env st dir cfg) := by
    rintro ⟨profile, hm, -⟩
    rw [hprofile] at hm
    cases hm
  have hreach : Reaches env st cfg.strategyID (quotedEntry st dir) (checkedLevels env st dir cfg) := by
    intro _ profile hm
    rw [hprofile] at hm
    cases hm
  rw [sound_iff_of_checked (hready.run_checked hclamp (Or.inr hprofile)),
    plainRegular_iff dir hprices hcfg hprofile]
  refine and_congr_right fun _ => ?_
  simp only [and_iff_left hreach]
  unfold checkedLevels
  rw [hclamped]
  by_cases hsl : (structuralLevels env st dir cfg).sl ≠ 0
  · rw [if_pos hsl]
    obtain ⟨sl, hlevels⟩ := structuralLevels_of_plain st dir hprofile hready.atr
    rcases hready.side with rfl | rfl
    · rw [hlevels]
      exact (structuralBuy_accepted_iff hcfg hprices.current (hprices.entry .buy) hready.atr sl).trans
        (imp_iff_right rfl).symm
    · refine iff_of_true (fun _ => ?_) fun h => by cases h
      rw [hlevels]
      exact structuralSell_inOrder hcfg sl
  · rw [if_neg hsl]
    exact iff_of_true (atrLevels_inOrder hcfg) fun _ _ h => absurd h hsl

end PredictATrade.Realtime.Strategy
