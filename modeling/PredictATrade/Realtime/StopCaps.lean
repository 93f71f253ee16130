import PredictATrade.Realtime.Geometry

/-!
# `Realtime.StopCaps` — the broker floor and the hard cap on a stop

Two places size a stop under the process-wide risk inputs: `computeEntrySLTP`, for the levels of a
strategy at the current price, and `buildCandidateTradeGeometry`, for a candidate at the quoted price.
Both widen the distance to the broker's floor first and cut it to `maxSlUSD` after, so that the cap
wins. `Disciplined` is the law of the result.

The levels of a percentage profile keep it. On the other two paths a slip breaks it:

* the average-true-range levels go through `enforceSLDirection` after the cut, which moves the stop back
  out to its own minimum distance (`computeEntrySLTP_disciplined_iff`);
* a candidate's floor is asked for with the spread in the place of the entry price and zero in the place
  of the spread, so that the part of the floor that is made of the spread is missing
  (`buildCandidateTradeGeometry_disciplined_iff`).

Distances are exact: the last place of a `float64` distance is not modelled.
-/

namespace PredictATrade.Realtime.Strategy
open Lib.Decimal Features

/-! ## The risk inputs -/

/-- `executionRiskConfig`. A value of zero switches its limit off. -/
structure ExecutionRiskConfig where
  maxSlUSD : Float64
  brokerStopsLevel : ℤ
  brokerPointSize : Float64
  deriving DecidableEq, Repr

/-- The broker's constraints are known. -/
def ExecutionRiskConfig.HasFloor (risk : ExecutionRiskConfig) : Prop :=
  0 < risk.brokerStopsLevel ∧ 0 < risk.brokerPointSize

instance ExecutionRiskConfig.decidableHasFloor (risk : ExecutionRiskConfig) :
    Decidable risk.HasFloor :=
  inferInstanceAs (Decidable (_ ∧ _))

/-- The least distance that a broker accepts. The entry price is not read. -/
def slFloorPoints (_entry spread : Float64) (stopsLevelPoints : ℤ) (point : Float64) : Float64 :=
  let stops := ((stopsLevelPoints : ℚ) + 2) * point
  let spreadBuf := spread * (15 / 10)
  if spreadBuf < stops then stops else spreadBuf

/-- The part of the floor that is made of the broker's points. -/
def ExecutionRiskConfig.pointsFloor (risk : ExecutionRiskConfig) : Float64 :=
  ((risk.brokerStopsLevel : ℚ) + 2) * risk.brokerPointSize

/-- The floor at a spread. -/
def ExecutionRiskConfig.floor (risk : ExecutionRiskConfig) (entry spread : Decimal) : Float64 :=
  slFloorPoints (toFloat entry) (toFloat spread) risk.brokerStopsLevel risk.brokerPointSize

/-- A distance below the floor is widened to it. -/
def ExecutionRiskConfig.widen (risk : ExecutionRiskConfig) (floor : Float64) (dist : Decimal) :
    Decimal :=
  if risk.HasFloor ∧ dist < floor then floor else dist

/-- A distance above the cap is cut to it. -/
def ExecutionRiskConfig.narrow (risk : ExecutionRiskConfig) (dist : Decimal) : Decimal :=
  if 0 < risk.maxSlUSD ∧ risk.maxSlUSD < dist then risk.maxSlUSD else dist

/-! ## The levels of a strategy -/

/-- The market state with the symbol that it is of. -/
structure SymbolState extends toState : MarketState where
  symbol : String

/-- The configuration of a strategy with the two values that scale its average true range. -/
structure ScaledConfig extends toConfig : StrategyConfig where
  volatilityScale : Float64 := 0
  minSLSpreadMult : Float64 := 0

/-- The distance of a stop, as the percentage levels are checked by it. -/
def efDirSL (direction : Direction) (entry sl : Decimal) : Float64 :=
  if direction = .sell then
    let f := toFloat (sl - entry)
    if f < 0 then toFloat (entry - sl) else f
  else
    let f := toFloat (entry - sl)
    if f < 0 then toFloat (sl - entry) else f

/-- The price at a distance from the entry, on the side of the stop. -/
def stopAt (direction : Direction) (entry dist : Decimal) : Decimal :=
  if direction = .buy then entry - dist else entry + dist

/-- The average true range that the distances are multiples of: scaled, and large enough for the stop
to cover the spread. -/
def scaledATR (symbolVolatilityScale : String → Option Float64) (state : SymbolState)
    (cfg : ScaledConfig) : Decimal :=
  let scale :=
    match symbolVolatilityScale state.symbol with
    | some s => if 0 < s then s else cfg.volatilityScale
    | none => cfg.volatilityScale
  let atr := if 0 < scale then state.indicators.atr * scale else state.indicators.atr
  if 0 < cfg.minSLSpreadMult ∧ state.spread ≠ 0 ∧ 0 < cfg.atrMultiplierSL then
    let required := state.spread * (cfg.minSLSpreadMult / cfg.atrMultiplierSL)
    if atr < required then required else atr
  else atr

/-- The stop of a percentage profile within the broker floor and the cap. -/
def limitStop (risk : ExecutionRiskConfig) (direction : Direction) (entry spread pSL : Decimal) :
    Decimal :=
  let pSL :=
    if risk.HasFloor ∧ efDirSL direction entry pSL < risk.floor entry spread then
      stopAt direction entry (risk.floor entry spread)
    else pSL
  if 0 < risk.maxSlUSD ∧ risk.maxSlUSD < efDirSL direction entry pSL then
    stopAt direction entry risk.maxSlUSD
  else pSL

/-- The entry and the levels; all zero where there is no average true range. -/
def computeEntrySLTP (env : Env) (symbolVolatilityScale : String → Option Float64)
    (risk : ExecutionRiskConfig) (state : Option SymbolState) (direction : Direction)
    (cfg : ScaledConfig) : Decimal × Levels :=
  match state with
  | none => (0, ⟨0, 0, 0, 0⟩)
  | some st =>
    if st.indicators.atr = 0 then (0, ⟨0, 0, 0, 0⟩)
    else
      let entry := st.currentPrice
      let atr := scaledATR symbolVolatilityScale st cfg
      match percentageLevels env cfg.strategyID entry direction atr with
      | some p => (entry, { p with sl := limitStop risk direction entry st.spread p.sl })
      | none =>
        let dist (mult : Float64) : Decimal := min (atr * mult) (maxDist entry)
        let atrSLDist := risk.narrow <| risk.widen (risk.floor entry st.spread) <|
          dist cfg.atrMultiplierSL
        let levels := Levels.around direction entry atrSLDist (dist cfg.atrMultiplierTP1)
          (dist cfg.atrMultiplierTP2) (dist cfg.atrMultiplierTP3)
        (entry, { levels with sl := enforceSLDirection direction entry levels.sl atr cfg.toConfig 0 })

/-! ## The levels of a candidate -/

/-- The multiples that the levels of a candidate are away. -/
structure CandidateGeometryConfig where
  atrMultiplierSL : Float64
  atrMultiplierTP1 : Float64
  atrMultiplierTP2 : Float64
  atrMultiplierTP3 : Float64
  minRR : Float64
  deriving DecidableEq, Repr

/-- The multiples by the strategies. -/
def defaultCandidateGeometry : StrategyID → Option CandidateGeometryConfig
  | .ultraScalping => some ⟨1, 15 / 10, 25 / 10, 4, 15 / 10⟩
  | .standardScalping => some ⟨1, 15 / 10, 25 / 10, 4, 15 / 10⟩
  | .standardSwing => some ⟨15 / 10, 25 / 10, 4, 6, 15 / 10⟩
  | .trendSwing => some ⟨2, 3, 5, 8, 15 / 10⟩
  | _ => none

/-- `GetCandidateGeometryConfig`. -/
def getCandidateGeometryConfig (id : StrategyID) : CandidateGeometryConfig :=
  (defaultCandidateGeometry id).getD ⟨1, 15 / 10, 25 / 10, 4, 15 / 10⟩

/-- The reason code of a candidate whose stop or first target is on the wrong side. -/
def candidateFault (direction : Direction) (entry : Decimal) (levels : Levels) : Option String :=
  if direction = .buy then
    if ¬ levels.sl < entry then some "INVALID_SL_FOR_BUY"
    else if ¬ entry < levels.tp1 then some "INVALID_TP_FOR_BUY"
    else none
  else
    if ¬ entry < levels.sl then some "INVALID_SL_FOR_SELL"
    else if ¬ levels.tp1 < entry then some "INVALID_TP_FOR_SELL"
    else none

/-- The risk and reward of a candidate, and whether it is valid. -/
def validateCandidate (direction : Direction) (spread entry : Decimal) (levels : Levels) :
    TradeGeometry :=
  let geo : TradeGeometry :=
    { entry := entry, stopLoss := levels.sl, tp1 := levels.tp1, tp2 := levels.tp2,
      tp3 := levels.tp3, riskDistance := |entry - levels.sl| }
  if geo.riskDistance = 0 then { geo with reasonCode := "ZERO_RISK_DISTANCE" }
  else
    let gross (tp : Decimal) : Decimal := decimalDiv |tp - entry| geo.riskDistance
    let net (tp : Decimal) : Decimal :=
      if 0 < geo.riskDistance + spread then
        decimalDiv (|tp - entry| - spread) (geo.riskDistance + spread)
      else 0
    let fault := candidateFault direction entry levels
    { geo with
      grossRR1 := gross levels.tp1
      grossRR2 := gross levels.tp2
      grossRR3 := gross levels.tp3
      netRR1 := net levels.tp1
      netRR2 := net levels.tp2
      netRR3 := net levels.tp3
      valid := fault.isNone
      reasonCode := fault.getD "" }

/-- The stop distance of a candidate. -/
def candidateSLDist (risk : ExecutionRiskConfig) (st : MarketState) (entry : Decimal)
    (cfg : CandidateGeometryConfig) : Decimal :=
  -- the spread is passed as the entry, and zero as the spread
  risk.narrow <| risk.widen (risk.floor st.spread 0) <|
    min (st.indicators.atr * cfg.atrMultiplierSL) (maxDist entry)

/-- `BuildCandidateTradeGeometry`. -/
def buildCandidateTradeGeometry (risk : ExecutionRiskConfig) (state : Option MarketState)
    (direction : Direction) (strategyID : StrategyID) : TradeGeometry :=
  match state with
  | none => { reasonCode := "NO_MARKET_STATE" }
  | some st =>
    if direction ≠ .buy ∧ direction ≠ .sell then { reasonCode := "NO_DIRECTION" }
    else
      let atr := st.indicators.atr
      if atr = 0 then { reasonCode := "ATR_NOT_READY" }
      else
        let candidateCfg := getCandidateGeometryConfig strategyID
        let entry := quotedEntry st direction
        if entry = 0 then { reasonCode := "NO_ENTRY_PRICE" }
        else
          let dist (mult : Float64) : Decimal := min (atr * mult) (maxDist entry)
          validateCandidate direction st.spread entry <|
            Levels.around direction entry (candidateSLDist risk st entry candidateCfg)
              (dist candidateCfg.atrMultiplierTP1) (dist candidateCfg.atrMultiplierTP2)
              (dist candidateCfg.atrMultiplierTP3)

/-! ## The law -/

/-- The distance of a stop. Where entry and stop are both zero, none was placed. -/
def stopDistance (entry sl : Decimal) : Option Decimal :=
  if entry = 0 ∧ sl = 0 then none else some |entry - sl|

/-- A stop is never farther than the cap, and never closer than a floor that the cap admits. -/
structure Disciplined (risk : ExecutionRiskConfig) (spread entry sl : Decimal) : Prop where
  capped : ∀ d ∈ stopDistance entry sl, d ≤ risk.maxSlUSD
  floored : risk.HasFloor → risk.floor entry spread ≤ risk.maxSlUSD →
    ∀ d ∈ stopDistance entry sl, risk.floor entry spread ≤ d

/-- A placed stop keeps the law if its distance does. -/
def KeepsLimits (risk : ExecutionRiskConfig) (floor dist : Decimal) : Prop :=
  dist ≤ risk.maxSlUSD ∧ (risk.HasFloor → floor ≤ risk.maxSlUSD → floor ≤ dist)

section Limits

variable {risk : ExecutionRiskConfig} {direction : Direction} {entry spread sl dist floor : Decimal}

theorem disciplined_zero : Disciplined risk spread 0 0 := by
  constructor <;> simp [stopDistance]

/-- A stop at no distance at all is never one under a known floor, so that the law is about the distance
whether a stop was placed or not. -/
theorem disciplined_iff (hM : 0 < risk.maxSlUSD) (hp : risk.HasFloor → 0 < |entry - sl|) :
    Disciplined risk spread entry sl ↔ KeepsLimits risk (risk.floor entry spread) |entry - sl| := by
  by_cases h : entry = 0 ∧ sl = 0
  · obtain ⟨rfl, rfl⟩ := h
    have hn : ¬ risk.HasFloor := fun hf => by simpa using hp hf
    refine ⟨fun _ => ⟨by simpa using hM.le, fun hf => absurd hf hn⟩, fun _ => disciplined_zero⟩
  · have hd : stopDistance entry sl = some |entry - sl| := if_neg h
    constructor
    · intro hs
      exact ⟨hs.capped _ hd, fun hf hle => hs.floored hf hle _ hd⟩
    · rintro ⟨hc, hf⟩
      refine ⟨fun d hm => ?_, fun hb hle d hm => ?_⟩
      · rw [hd] at hm
        cases hm
        exact hc
      · rw [hd] at hm
        cases hm
        exact hf hb hle

theorem pointsFloor_pos (h : risk.HasFloor) : 0 < risk.pointsFloor := by
  have hl : (0 : ℚ) < risk.brokerStopsLevel := by exact_mod_cast h.1
  exact mul_pos (by linarith) h.2

theorem floor_eq_max :
    risk.floor entry spread = max risk.pointsFloor (spread * (15 / 10)) := by
  show (if _ then _ else _) = _
  split_ifs with h
  · exact (max_eq_left (le_of_lt h)).symm
  · exact (max_eq_right (not_lt.mp h)).symm

theorem floor_pos (h : risk.HasFloor) : 0 < risk.floor entry spread := by
  rw [floor_eq_max]
  exact lt_max_of_lt_left (pointsFloor_pos h)

theorem widen_of_hasFloor (h : risk.HasFloor) : risk.widen floor dist = max dist floor := by
  unfold ExecutionRiskConfig.widen
  by_cases hlt : dist < floor
  · rw [if_pos ⟨h, hlt⟩, max_eq_right hlt.le]
  · rw [if_neg fun hc => hlt hc.2, max_eq_left (not_lt.mp hlt)]

theorem widen_of_not_hasFloor (h : ¬ risk.HasFloor) : risk.widen floor dist = dist :=
  if_neg fun hc => h hc.1

theorem narrow_eq_min (hM : 0 < risk.maxSlUSD) : risk.narrow dist = min dist risk.maxSlUSD := by
  unfold ExecutionRiskConfig.narrow
  by_cases hlt : risk.maxSlUSD < dist
  · rw [if_pos ⟨hM, hlt⟩, min_eq_right hlt.le]
  · rw [if_neg fun hc => hlt hc.2, min_eq_left (not_lt.mp hlt)]

/-- With a known floor the sized distance is positive, whatever it was before. -/
theorem narrow_widen_pos (hM : 0 < risk.maxSlUSD) (h : risk.HasFloor) (hf : 0 < floor) :
    0 < risk.narrow (risk.widen floor dist) := by
  rw [narrow_eq_min hM, widen_of_hasFloor h]
  exact lt_min (lt_max_of_lt_right hf) hM

theorem narrow_le (hM : 0 < risk.maxSlUSD) : risk.narrow dist ≤ risk.maxSlUSD := by
  rw [narrow_eq_min hM]
  exact min_le_right _ _

theorem le_narrow_widen (hM : 0 < risk.maxSlUSD) (h : risk.HasFloor)
    (hle : floor ≤ risk.maxSlUSD) : floor ≤ risk.narrow (risk.widen floor dist) := by
  rw [narrow_eq_min hM, widen_of_hasFloor h]
  exact le_min (le_max_right _ _) hle

@[simp] theorem abs_sub_stopAt : |entry - stopAt direction entry dist| = |dist| := by
  unfold stopAt
  split_ifs
  · rw [sub_sub_cancel]
  · rw [sub_add_cancel_left, abs_neg]

theorem ite_flip_eq_abs {x y : ℚ} : (if x - y < 0 then y - x else x - y) = |x - y| := by
  split_ifs with h
  · rw [abs_of_neg h, neg_sub]
  · rw [abs_of_nonneg (not_lt.mp h)]

theorem efDirSL_eq_abs : efDirSL direction entry sl = |entry - sl| := by
  unfold efDirSL
  split_ifs with hd
  · rw [abs_sub_comm]
    exact ite_flip_eq_abs
  · exact ite_flip_eq_abs

/-- The two moves of a percentage stop are the two moves of its distance. -/
theorem abs_sub_limitStop (hM : 0 < risk.maxSlUSD) :
    |entry - limitStop risk direction entry spread sl| =
      risk.narrow (risk.widen (risk.floor entry spread) |entry - sl|) := by
  have hwide : |entry - if risk.HasFloor ∧ |entry - sl| < risk.floor entry spread then
      stopAt direction entry (risk.floor entry spread) else sl| =
      risk.widen (risk.floor entry spread) |entry - sl| := by
    unfold ExecutionRiskConfig.widen
    split_ifs with h
    · rw [abs_sub_stopAt, abs_of_pos (floor_pos h.1)]
    · rfl
  simp only [limitStop, efDirSL_eq_abs, hwide]
  unfold ExecutionRiskConfig.narrow
  rw [apply_ite fun x => |entry - x|, abs_sub_stopAt, abs_of_pos hM, hwide]

/-- A distance that is widened first and narrowed after keeps the limits. -/
theorem keepsLimits_narrow_widen (hM : 0 < risk.maxSlUSD) :
    KeepsLimits risk floor (risk.narrow (risk.widen floor dist)) :=
  ⟨narrow_le hM, fun h hle => le_narrow_widen hM h hle⟩

end Limits

/-! ## Where a strategy's stop comes from -/

theorem around_sl (direction : Direction) (entry a b c d : Decimal) :
    (Levels.around direction entry a b c d).sl = stopAt direction entry a := by
  unfold Levels.around stopAt
  split_ifs <;> rfl

theorem safeDist_le (entry dist : Decimal) : safeDist entry dist ≤ maxDist entry :=
  min_le_right _ _

/-- No distance reaches down to a price of zero. -/
theorem stopAt_safeDist_ne_zero {entry : Decimal} (he : entry ≠ 0) (direction : Direction)
    (dist : Decimal) : stopAt direction entry (safeDist entry dist) ≠ 0 := by
  have hle : safeDist entry dist ≤ entry * (5 / 100) := safeDist_le entry dist
  unfold stopAt
  rcases lt_or_gt_of_ne he with hneg | hpos
  · have hmax : safeDist entry dist = entry * (5 / 100) := by
      refine min_eq_right (le_trans ?_ (le_max_right _ _))
      unfold maxDist
      linarith
    rw [hmax]
    split_ifs <;> exact ne_of_lt (by linarith)
  · have hnn : 0 ≤ safeDist entry dist := by
      refine le_min (le_max_right _ _) ?_
      unfold maxDist
      linarith
    split_ifs <;> exact ne_of_gt (by linarith)

theorem percentageProfile_mode {env : Env} {id : StrategyID} {profile : ExitProfileConfig}
    (h : env.percentageProfile id = some profile) : profile.calculationMode = "PERCENTAGE" := by
  simpa using (Option.filter_eq_some_iff.mp h).2

/-- A percentage profile gives the levels wherever there is a price. -/
theorem percentageLevels_eq_none_iff (env : Env) (id : StrategyID) (entry : Decimal)
    (direction : Direction) (atr : Decimal) :
    percentageLevels env id entry direction atr = none ↔
      env.percentageProfile id = none ∨ entry = 0 := by
  cases hp : env.percentageProfile id with
  | none => simp [percentageLevels, hp]
  | some profile =>
    have hmode := percentageProfile_mode hp
    by_cases he : entry = 0
    · simp [percentageLevels, hp, computePercentageSLTP, he]
    · have hsl : (computePercentageSLTP entry direction atr profile).sl ≠ 0 := by
        rw [computePercentageSLTP, if_neg (by simp [he, hmode]), around_sl]
        exact stopAt_safeDist_ne_zero he direction _
      simp [percentageLevels, hp, he, hsl]

/-- The least distance that `enforceSLDirection` admits. -/
def minStopDist (entry atr : Decimal) (cfg : StrategyConfig) : Decimal :=
  min (if 0 < cfg.minSLATRFloor then max (atr * cfg.atrMultiplierSL) (atr * cfg.minSLATRFloor)
    else atr * cfg.atrMultiplierSL) (maxDist entry)

theorem atrDist_le_minStopDist (entry atr : Decimal) (cfg : StrategyConfig) :
    min (atr * cfg.atrMultiplierSL) (maxDist entry) ≤ minStopDist entry atr cfg := by
  refine min_le_min_right _ ?_
  split_ifs
  · exact le_max_left _ _
  · exact le_refl _

/-- A stop on the wrong side, or closer than the least distance, is moved to that distance. -/
theorem abs_sub_enforceSLDirection (direction : Direction) (entry dist atr : Decimal)
    (cfg : StrategyConfig) :
    |entry - enforceSLDirection direction entry (stopAt direction entry dist) atr cfg 0| =
      if dist ≤ 0 ∨ dist < minStopDist entry atr cfg then |minStopDist entry atr cfg| else dist := by
  have hside : (dist ≤ 0 ∨ |dist| < minStopDist entry atr cfg) ↔
      (dist ≤ 0 ∨ dist < minStopDist entry atr cfg) := by
    by_cases h : dist ≤ 0
    · simp [h]
    · rw [abs_of_pos (not_le.mp h)]
  have hkept : ¬ (dist ≤ 0 ∨ dist < minStopDist entry atr cfg) → |dist| = dist := fun h =>
    abs_of_pos (not_le.mp (not_or.mp h).1)
  by_cases hd : direction = .buy
  · subst hd
    show |entry - (if entry ≤ entry - dist ∨ |entry - (entry - dist)| < minStopDist entry atr cfg
      then entry - minStopDist entry atr cfg - 0 else entry - dist)| = _
    simp only [le_sub_self_iff, sub_sub_cancel, hside, sub_zero]
    split_ifs with h
    · rw [sub_sub_cancel]
    · rw [sub_sub_cancel, hkept h]
  · have henforce : enforceSLDirection direction entry (stopAt direction entry dist) atr cfg 0 =
        if entry + dist ≤ entry ∨ |entry + dist - entry| < minStopDist entry atr cfg
        then entry + minStopDist entry atr cfg + 0 else entry + dist := by
      rw [stopAt, if_neg hd]
      exact if_neg hd
    rw [henforce]
    simp only [add_le_iff_nonpos_right, add_sub_cancel_left, hside, add_zero]
    split_ifs with h
    · rw [sub_add_cancel_left, abs_neg]
    · rw [sub_add_cancel_left, abs_neg, hkept h]

/-- What is left of the limits after `enforceSLDirection`: the least distance must be within the cap
itself. -/
theorem keepsLimits_enforced_iff {risk : ExecutionRiskConfig} {floor least dist : Decimal}
    (hM : 0 < risk.maxSlUSD) (hf : risk.HasFloor → 0 < floor) (hle : dist ≤ least) :
    KeepsLimits risk floor
        (if risk.narrow (risk.widen floor dist) ≤ 0 ∨ risk.narrow (risk.widen floor dist) < least
          then |least| else risk.narrow (risk.widen floor dist)) ↔
      least ≤ risk.maxSlUSD ∧ (risk.HasFloor ∨ -risk.maxSlUSD ≤ least) := by
  by_cases h : risk.HasFloor
  · have hpos : 0 < risk.narrow (risk.widen floor dist) := narrow_widen_pos hM h (hf h)
    split_ifs with hmove
    · have hlt : risk.narrow (risk.widen floor dist) < least :=
        hmove.resolve_left (not_le.mpr hpos)
      rw [abs_of_pos (hpos.trans hlt)]
      exact ⟨fun hk => ⟨hk.1, Or.inl h⟩, fun hk => ⟨hk.1, fun hb hc =>
        (le_narrow_widen hM hb hc).trans hlt.le⟩⟩
    · have hge := not_lt.mp (not_or.mp hmove).2
      exact ⟨fun _ => ⟨hge.trans (narrow_le hM), Or.inl h⟩,
        fun _ => keepsLimits_narrow_widen hM⟩
  · rw [widen_of_not_hasFloor h]
    split_ifs with hmove
    · have hk : KeepsLimits risk floor |least| ↔ |least| ≤ risk.maxSlUSD :=
        and_iff_left fun hb => absurd hb h
      rw [hk, abs_le, or_iff_right h, and_comm]
    · obtain ⟨hpos, hge⟩ := not_or.mp hmove
      have hnn : 0 < least := by
        rw [narrow_eq_min hM, not_le] at hpos
        exact (hpos.trans_le (min_le_left _ _)).trans_le hle
      refine ⟨fun _ => ⟨(not_lt.mp hge).trans (narrow_le hM), Or.inr (by linarith)⟩,
        fun _ => ⟨narrow_le hM, fun hb => absurd hb h⟩⟩

theorem enforced_pos {dist least : Decimal} (h : 0 < dist) :
    0 < if dist ≤ 0 ∨ dist < least then |least| else dist := by
  split_ifs with hmove
  · exact abs_pos_of_pos (h.trans (hmove.resolve_left (not_le.mpr h)))
  · exact h

/-! ## The results -/

/-- The stop of a strategy is out of reach of `enforceSLDirection`, or that function's least distance is
itself within the cap. Without a known floor a negative distance must not be too large either. -/
def EntryWithinCap (env : Env) (symbolVolatilityScale : String → Option Float64)
    (risk : ExecutionRiskConfig) (state : Option SymbolState) (cfg : ScaledConfig) : Prop :=
  ∀ st ∈ state, st.indicators.atr ≠ 0 →
    env.percentageProfile cfg.strategyID = none ∨ st.currentPrice = 0 →
      let least := minStopDist st.currentPrice (scaledATR symbolVolatilityScale st cfg) cfg.toConfig
      least ≤ risk.maxSlUSD ∧ (risk.HasFloor ∨ -risk.maxSlUSD ≤ least)

/-- **The levels of a strategy.** When they are disciplined. -/
theorem computeEntrySLTP_disciplined_iff (env : Env)
    (symbolVolatilityScale : String → Option Float64) {risk : ExecutionRiskConfig}
    (hM : 0 < risk.maxSlUSD) (state : Option SymbolState) (direction : Direction)
    (cfg : ScaledConfig) :
    Disciplined risk ((state.map (·.spread)).getD 0)
        (computeEntrySLTP env symbolVolatilityScale risk state direction cfg).1
        (computeEntrySLTP env symbolVolatilityScale risk state direction cfg).2.sl ↔
      EntryWithinCap env symbolVolatilityScale risk state cfg := by
  unfold EntryWithinCap
  cases state with
  | none => simpa [computeEntrySLTP] using disciplined_zero
  | some st =>
    simp only [Option.mem_some_iff, forall_eq', Option.map_some, Option.getD_some]
    by_cases hatr : st.indicators.atr = 0
    · simpa [computeEntrySLTP, hatr] using disciplined_zero
    · cases hp : percentageLevels env cfg.strategyID st.currentPrice direction
          (scaledATR symbolVolatilityScale st cfg) with
      | some p =>
        have hnone : ¬ (env.percentageProfile cfg.strategyID = none ∨ st.currentPrice = 0) := by
          rw [← percentageLevels_eq_none_iff _ _ _ direction, hp]
          simp
        simp only [computeEntrySLTP, if_neg hatr, hp]
        rw [disciplined_iff hM fun hf => ?_, abs_sub_limitStop hM]
        · exact ⟨fun _ _ h => absurd h hnone, fun _ => keepsLimits_narrow_widen hM⟩
        · rw [abs_sub_limitStop hM]
          exact narrow_widen_pos hM hf (floor_pos hf)
      | none =>
        have hnone := (percentageLevels_eq_none_iff _ _ _ _ _).mp hp
        simp only [computeEntrySLTP, if_neg hatr, hp, around_sl]
        rw [disciplined_iff hM fun hf => ?_, abs_sub_enforceSLDirection,
          keepsLimits_enforced_iff hM (fun hf => floor_pos hf) (atrDist_le_minStopDist _ _ _)]
        · exact ⟨fun h _ _ => h, fun h => h hatr hnone⟩
        · rw [abs_sub_enforceSLDirection]
          exact enforced_pos (narrow_widen_pos hM hf (floor_pos hf))

/-- The distance of a candidate's stop, before the limits. -/
def candidateDist (st : MarketState) (direction : Direction) (id : StrategyID) : Decimal :=
  min (st.indicators.atr * (getCandidateGeometryConfig id).atrMultiplierSL)
    (maxDist (quotedEntry st direction))

/-- The part of the floor that is made of the spread, which is not asked for, makes no difference: the
floor is above the cap, or the spread's part is within the broker's points or the distance without
limits. Without a known floor a negative distance must not be too large. -/
def CandidateWithinFloor (risk : ExecutionRiskConfig) (state : Option MarketState)
    (direction : Direction) (id : StrategyID) : Prop :=
  ∀ st ∈ state, direction = .buy ∨ direction = .sell → st.indicators.atr ≠ 0 →
    quotedEntry st direction ≠ 0 →
      if risk.HasFloor then
        risk.maxSlUSD < risk.floor (quotedEntry st direction) st.spread ∨
          st.spread * (15 / 10) ≤ max risk.pointsFloor (candidateDist st direction id)
      else -risk.maxSlUSD ≤ candidateDist st direction id

@[simp] theorem validateCandidate_entry (direction : Direction) (spread entry : Decimal)
    (levels : Levels) : (validateCandidate direction spread entry levels).entry = entry := by
  simp only [validateCandidate]
  split_ifs <;> rfl

@[simp] theorem validateCandidate_stopLoss (direction : Direction) (spread entry : Decimal)
    (levels : Levels) : (validateCandidate direction spread entry levels).stopLoss = levels.sl := by
  simp only [validateCandidate]
  split_ifs <;> rfl

/-- The points of the broker are all of a candidate's floor. -/
theorem candidateSLDist_of_hasFloor {risk : ExecutionRiskConfig} (hM : 0 < risk.maxSlUSD)
    (h : risk.HasFloor) (st : MarketState) (direction : Direction) (id : StrategyID) :
    candidateSLDist risk st (quotedEntry st direction) (getCandidateGeometryConfig id) =
      min (max risk.pointsFloor (candidateDist st direction id)) risk.maxSlUSD := by
  have hfloor : risk.floor st.spread 0 = risk.pointsFloor := by
    rw [floor_eq_max, zero_mul]
    exact max_eq_left (pointsFloor_pos h).le
  rw [candidateSLDist, hfloor, narrow_eq_min hM, widen_of_hasFloor h, max_comm]
  rfl

/-- When the distance of a candidate keeps the limits. -/
theorem keepsLimits_candidate_iff {risk : ExecutionRiskConfig} (hM : 0 < risk.maxSlUSD)
    (st : MarketState) (direction : Direction) (id : StrategyID) :
    KeepsLimits risk (risk.floor (quotedEntry st direction) st.spread)
        |candidateSLDist risk st (quotedEntry st direction) (getCandidateGeometryConfig id)| ↔
      if risk.HasFloor then
        risk.maxSlUSD < risk.floor (quotedEntry st direction) st.spread ∨
          st.spread * (15 / 10) ≤ max risk.pointsFloor (candidateDist st direction id)
      else -risk.maxSlUSD ≤ candidateDist st direction id := by
  split_ifs with h
  · have hpos : 0 < max risk.pointsFloor (candidateDist st direction id) :=
      lt_max_of_lt_left (pointsFloor_pos h)
    rw [candidateSLDist_of_hasFloor hM h, abs_of_pos (lt_min hpos hM)]
    constructor
    · rintro ⟨-, hf⟩
      refine (lt_or_ge _ _).imp_right fun hle => ?_
      have hreach := (hf h hle).trans (min_le_left _ _)
      rw [floor_eq_max] at hreach
      exact (le_max_right _ _).trans hreach
    · intro hor
      refine ⟨min_le_right _ _, fun _ hle => le_min ?_ hle⟩
      rw [floor_eq_max]
      exact max_le (le_max_left _ _) (hor.resolve_left (not_lt.mpr hle))
  · have hk : ∀ d, KeepsLimits risk (risk.floor (quotedEntry st direction) st.spread) d ↔
        d ≤ risk.maxSlUSD := fun d => and_iff_left fun hb => absurd hb h
    rw [hk, candidateSLDist, widen_of_not_hasFloor h, narrow_eq_min hM, abs_le, le_min_iff]
    exact ⟨fun hc => hc.1.1, fun hc => ⟨⟨hc, by linarith⟩, min_le_right _ _⟩⟩

/-- **The geometry of a candidate.** When it is disciplined. -/
theorem buildCandidateTradeGeometry_disciplined_iff {risk : ExecutionRiskConfig}
    (hM : 0 < risk.maxSlUSD) (state : Option MarketState) (direction : Direction) (id : StrategyID) :
    Disciplined risk ((state.map (·.spread)).getD 0)
        (buildCandidateTradeGeometry risk state direction id).entry
        (buildCandidateTradeGeometry risk state direction id).stopLoss ↔
      CandidateWithinFloor risk state direction id := by
  unfold CandidateWithinFloor
  cases state with
  | none => simpa [buildCandidateTradeGeometry] using disciplined_zero
  | some st =>
    simp only [Option.mem_some_iff, forall_eq', Option.map_some, Option.getD_some,
      buildCandidateTradeGeometry]
    by_cases hdir : direction ≠ .buy ∧ direction ≠ .sell
    · rw [if_pos hdir]
      exact ⟨fun _ h => absurd h (by simpa [not_or] using hdir), fun _ => disciplined_zero⟩
    · rw [if_neg hdir]
      by_cases hatr : st.indicators.atr = 0
      · rw [if_pos hatr]
        exact ⟨fun _ _ h => absurd hatr h, fun _ => disciplined_zero⟩
      · rw [if_neg hatr]
        by_cases hentry : quotedEntry st direction = 0
        · rw [if_pos hentry]
          exact ⟨fun _ _ _ h => absurd hentry h, fun _ => disciplined_zero⟩
        · rw [if_neg hentry, validateCandidate_entry, validateCandidate_stopLoss, around_sl,
            disciplined_iff hM fun hf => ?_, abs_sub_stopAt, keepsLimits_candidate_iff hM]
          · have hside : direction = .buy ∨ direction = .sell := by
              by_contra h
              exact hdir (not_or.mp h)
            exact ⟨fun h _ _ _ => h, fun h => h hside hatr hentry⟩
          · rw [abs_sub_stopAt, candidateSLDist_of_hasFloor hM hf]
            exact abs_pos_of_pos (lt_min (lt_max_of_lt_left (pointsFloor_pos hf)) hM)

/-- **The stops are disciplined** exactly where neither slip shows. -/
theorem stops_disciplined_iff (risk : ExecutionRiskConfig) (hM : 0 < risk.maxSlUSD) :
    (∀ env symbolVolatilityScale state direction cfg,
      Disciplined risk ((state.map (·.spread)).getD 0)
          (computeEntrySLTP env symbolVolatilityScale risk state direction cfg).1
          (computeEntrySLTP env symbolVolatilityScale risk state direction cfg).2.sl ↔
        EntryWithinCap env symbolVolatilityScale risk state cfg) ∧
    ∀ state direction id,
      Disciplined risk ((state.map (·.spread)).getD 0)
          (buildCandidateTradeGeometry risk state direction id).entry
          (buildCandidateTradeGeometry risk state direction id).stopLoss ↔
        CandidateWithinFloor risk state direction id :=
  ⟨fun env scale state direction cfg =>
      computeEntrySLTP_disciplined_iff env scale hM state direction cfg,
    fun state direction id => buildCandidateTradeGeometry_disciplined_iff hM state direction id⟩

/-! ## A stop beyond the cap, and one below the floor -/

/-- A cap of 8, and a broker that asks for 12 points of a cent. -/
def cappedAtEight : ExecutionRiskConfig := ⟨8, 10, 1 / 100⟩

/-- Gold at 2000 with a spread of half a dollar. -/
def goldAt (atr : Decimal) : SymbolState where
  currentPrice := 2000
  quality := .authoritative
  structure_ := {}
  liquidity := {}
  pullback := {}
  bid := 1999 + 3 / 4
  ask := 2000 + 1 / 4
  spread := 1 / 2
  indicators := { atr := atr }
  regime := ⟨.trendingBullish⟩
  symbol := "XAUUSD"

/-- The trend swing as it is shipped. -/
def scaledTrendSwing : ScaledConfig where
  toConfig := newTrendSwing
  volatilityScale := 2
  minSLSpreadMult := 3

/-- No exit profile is loaded. -/
def noProfile : Env :=
  { loadExitProfile := fun _ => none
    currentGateProfile := ⟨fun _ => ⟨52 / 100, 8 / 10, 35 / 100, 50, 0⟩, 2⟩ }

/-- The stop of a swing is twenty dollars away, and that of a candidate thirty cents, where the floor is
seventy-five. -/
theorem cap_and_floor_missed :
    ¬ Disciplined cappedAtEight (1 / 2)
        (computeEntrySLTP noProfile (fun _ => none) cappedAtEight (some (goldAt 4)) .buy
          scaledTrendSwing).1
        (computeEntrySLTP noProfile (fun _ => none) cappedAtEight (some (goldAt 4)) .buy
          scaledTrendSwing).2.sl ∧
      ¬ Disciplined cappedAtEight (1 / 2)
        (buildCandidateTradeGeometry cappedAtEight (some (goldAt (3 / 10)).toState) .buy
          .ultraScalping).entry
        (buildCandidateTradeGeometry cappedAtEight (some (goldAt (3 / 10)).toState) .buy
          .ultraScalping).stopLoss := by
  constructor
  · intro h
    have hfar : stopDistance
        (computeEntrySLTP noProfile (fun _ => none) cappedAtEight (some (goldAt 4)) .buy
          scaledTrendSwing).1
        (computeEntrySLTP noProfile (fun _ => none) cappedAtEight (some (goldAt 4)) .buy
          scaledTrendSwing).2.sl = some 20 := by decide +kernel
    exact absurd (h.capped 20 hfar) (by decide)
  · intro h
    have hnear : stopDistance
        (buildCandidateTradeGeometry cappedAtEight (some (goldAt (3 / 10)).toState) .buy
          .ultraScalping).entry
        (buildCandidateTradeGeometry cappedAtEight (some (goldAt (3 / 10)).toState) .buy
          .ultraScalping).stopLoss = some (3 / 10) := by decide +kernel
    exact absurd (h.floored (by decide +kernel) (by decide +kernel) (3 / 10) hnear) (by decide +kernel)

/-- With an average true range of a dollar and a half the swing's stop is seven and a half dollars away,
and the candidate's three. -/
theorem calm_stops_disciplined :
    Disciplined cappedAtEight (1 / 2)
        (computeEntrySLTP noProfile (fun _ => none) cappedAtEight (some (goldAt (3 / 2))) .buy
          scaledTrendSwing).1
        (computeEntrySLTP noProfile (fun _ => none) cappedAtEight (some (goldAt (3 / 2))) .buy
          scaledTrendSwing).2.sl ∧
      Disciplined cappedAtEight (1 / 2)
        (buildCandidateTradeGeometry cappedAtEight (some (goldAt (3 / 2)).toState) .buy
          .trendSwing).entry
        (buildCandidateTradeGeometry cappedAtEight (some (goldAt (3 / 2)).toState) .buy
          .trendSwing).stopLoss := by
  have hiff := stops_disciplined_iff cappedAtEight (by decide)
  constructor
  · refine (hiff.1 noProfile (fun _ => none) (some (goldAt (3 / 2))) .buy scaledTrendSwing).mpr ?_
    intro st hst _ _
    obtain rfl := Option.mem_some_iff.mp hst
    decide +kernel
  · refine (hiff.2 (some (goldAt (3 / 2)).toState) .buy .trendSwing).mpr ?_
    intro st hst _ _ _
    obtain rfl := Option.mem_some_iff.mp hst
    decide +kernel

end PredictATrade.Realtime.Strategy
