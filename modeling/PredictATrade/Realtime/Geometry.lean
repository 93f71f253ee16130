import PredictATrade.Realtime.Scoring

/-!
# `Realtime.Geometry` — entry, stop and targets

The trade levels of a direction. `buildTradeGeometry` enters at the quoted side of the market and
takes stop and targets from the latest swing and the average true range
(`computeStructuralSLTP`), or in percent of the entry where the strategy has such an exit profile
(`computePercentageSLTP`); it then checks that stop and target lie on their sides of the entry.
-/

namespace PredictATrade.Realtime.Strategy
open Lib.Decimal Features

/-! ## Levels -/

/-- A stop and three targets. -/
structure Levels where
  sl : Decimal
  tp1 : Decimal
  tp2 : Decimal
  tp3 : Decimal
  deriving DecidableEq, Repr

/-- The levels at given distances from an entry. -/
def Levels.around (dir : Direction) (entry slDist tp1Dist tp2Dist tp3Dist : Decimal) : Levels :=
  if dir = .buy then ⟨entry - slDist, entry + tp1Dist, entry + tp2Dist, entry + tp3Dist⟩
  else ⟨entry + slDist, entry - tp1Dist, entry - tp2Dist, entry - tp3Dist⟩

/-- No distance is taken to be more than a twentieth of the entry. -/
def maxDist (entry : Decimal) : Decimal := entry * (5 / 100)

/-- A distance within guardrails; the lower one is tested first. -/
def guardrail (dist lower upper : Decimal) : Decimal :=
  if dist < lower then lower else if upper < dist then upper else dist

/-- A distance that is negative counts as zero, and one that is too large is cut. -/
def safeDist (entry dist : Decimal) : Decimal := min (max dist 0) (maxDist entry)

/-- `computePercentageSLTP`. -/
def computePercentageSLTP (entry : Decimal) (dir : Direction) (atr : Decimal)
    (cfg : ExitProfileConfig) : Levels :=
  if entry = 0 ∨ cfg.calculationMode = "ATR" then ⟨0, 0, 0, 0⟩
  else
    -- the guardrails are left out where the average true range is out of proportion
    let sane : Bool := decide (atr ≠ 0 ∧ atr < entry * (1 / 10))
    let slDist := entry * cfg.stopPct
    let tp1Dist := entry * cfg.tp1Pct
    Levels.around dir entry
      (safeDist entry <| if sane then
        guardrail slDist (atr * cfg.minStopATRMult) (atr * cfg.maxStopATRMult) else slDist)
      (safeDist entry <| if sane then
        guardrail tp1Dist (atr * cfg.minTP1ATRMult) (atr * cfg.maxTP1ATRMult) else tp1Dist)
      (safeDist entry (entry * cfg.tp2Pct))
      (safeDist entry (entry * cfg.tp3Pct))

/-- The exit profile of a strategy, if it is one in percent. -/
def Env.percentageProfile (env : Env) (id : StrategyID) : Option ExitProfileConfig :=
  (env.loadExitProfile id).filter (·.calculationMode == "PERCENTAGE")

/-- The levels of a percentage profile; a stop of zero counts as none. -/
def percentageLevels (env : Env) (id : StrategyID) (entry : Decimal) (dir : Direction)
    (atr : Decimal) : Option Levels :=
  ((env.percentageProfile id).map (computePercentageSLTP entry dir atr)).filter (·.sl != 0)

/-- The stop is on its side of the entry and at least the minimum distance away. -/
def enforceSLDirection (dir : Direction) (entry sl atr : Decimal) (cfg : StrategyConfig)
    (halfSpread : Decimal) : Decimal :=
  let wanted :=
    if 0 < cfg.minSLATRFloor then max (atr * cfg.atrMultiplierSL) (atr * cfg.minSLATRFloor)
    else atr * cfg.atrMultiplierSL
  let minSL := min wanted (maxDist entry)
  if dir = .buy then
    if entry ≤ sl ∨ |entry - sl| < minSL then entry - minSL - halfSpread else sl
  else if sl ≤ entry ∨ |sl - entry| < minSL then entry + minSL + halfSpread
  else sl

/-- `getStructuralLow`. -/
def getStructuralLow (st : MarketState) : Decimal := st.structure_.swingLows.getLast?.getD 0

/-- `getStructuralHigh`. -/
def getStructuralHigh (st : MarketState) : Decimal := st.structure_.swingHighs.getLast?.getD 0

/-- The levels of a BUY under the latest swing low. -/
def structuralBuy (entry atr low halfSpread : Decimal) (cfg : StrategyConfig) : Levels :=
  let atrSL := min (atr * cfg.atrMultiplierSL) (maxDist entry)
  let base := (if low = 0 then entry - atrSL else low - atrSL) - halfSpread
  let sl := if |entry - base| < atrSL then entry - atrSL - halfSpread else base
  let tp (mult : Float64) : Decimal := entry + min (atr * mult) (maxDist entry)
  ⟨sl, tp cfg.atrMultiplierTP1, tp cfg.atrMultiplierTP2, tp cfg.atrMultiplierTP3⟩

/-- The levels of a SELL over the latest swing high. Other than those of a BUY, the targets move out
with the stop. -/
def structuralSell (entry atr high halfSpread : Decimal) (cfg : StrategyConfig) : Levels :=
  let atrSL := min (atr * cfg.atrMultiplierSL) (maxDist entry)
  let base := (if high = 0 then entry + atrSL else high + atrSL) + halfSpread
  let sl := if |base - entry| < atrSL then entry + atrSL + halfSpread else base
  let tp (mult : Float64) : Decimal :=
    entry - min (max (atr * mult) (|sl - entry| * (mult / cfg.atrMultiplierSL))) (maxDist entry)
  ⟨sl, tp cfg.atrMultiplierTP1, tp cfg.atrMultiplierTP2, tp cfg.atrMultiplierTP3⟩

/-- Entry and levels from the market structure, unless a percentage profile gives them. -/
def computeStructuralSLTP (env : Env) (st : MarketState) (dir : Direction) (cfg : StrategyConfig)
    (structuralLow structuralHigh : Decimal) : Decimal × Levels :=
  let entry := st.currentPrice
  let atr := st.indicators.atr
  if atr = 0 then (0, ⟨0, 0, 0, 0⟩)
  else
    match percentageLevels env cfg.strategyID entry dir atr with
    | some levels => (entry, levels)
    | none =>
      let halfSpread := decimalDiv st.spread 2
      let levels :=
        if dir = .buy then structuralBuy entry atr structuralLow halfSpread cfg
        else structuralSell entry atr structuralHigh halfSpread cfg
      (entry, { levels with sl := enforceSLDirection dir entry levels.sl atr cfg halfSpread })

/-! ## The geometry of a trade -/

/-- The levels of a trade, with the distances they come from. -/
structure TradeGeometry where
  entry : Decimal := 0
  stopLoss : Decimal := 0
  tp1 : Decimal := 0
  tp2 : Decimal := 0
  tp3 : Decimal := 0
  riskDistance : Decimal := 0
  grossRR1 : Decimal := 0
  grossRR2 : Decimal := 0
  grossRR3 : Decimal := 0
  netRR1 : Decimal := 0
  netRR2 : Decimal := 0
  netRR3 : Decimal := 0
  valid : Bool := false
  reasonCode : String := ""
  entryType : String := "MARKET"
  deriving DecidableEq, Repr

/-- The timeframes whose candle range stands in for the average true range of a strategy. -/
def preferredTFs : StrategyID → List Timeframe
  | .ultraScalping => [.m1, .m5]
  | .standardScalping => [.m5, .m1]
  | .standardSwing => [.m15, .h1]
  | .trendSwing => [.h1, .h4]
  | _ => [.m5]

/-- `getStrategyATR`. -/
def getStrategyATR (st : MarketState) (id : StrategyID) : Decimal :=
  let ranges := (preferredTFs id).filterMap fun tf => (st.candles tf).map fun c => c.high - c.low
  (ranges.find? (0 < ·)).getD st.indicators.atr

/-- The ask for a BUY, the bid for a SELL, and the current price where there is no quote. -/
def quotedEntry (st : MarketState) (dir : Direction) : Decimal :=
  let quote := if dir = .buy then st.ask else st.bid
  if quote = 0 then st.currentPrice else quote

/-- A stop that is farther than the percentage profile allows is tightened, and the targets with
it. -/
def clampToProfile (env : Env) (id : StrategyID) (dir : Direction) (entry : Decimal)
    (levels : Levels) : Levels :=
  match env.percentageProfile id with
  | none => levels
  | some profile =>
    let clampDist := entry * profile.stopPct
    let structDist := |entry - levels.sl|
    if levels.sl ≠ 0 ∧ clampDist < structDist then
      let ratio := decimalDiv clampDist structDist
      Levels.around dir entry clampDist (|levels.tp1 - entry| * ratio)
        (|levels.tp2 - entry| * ratio) (|levels.tp3 - entry| * ratio)
    else levels

/-- The levels by average true ranges alone. -/
def atrLevels (dir : Direction) (entry atr : Decimal) (cfg : StrategyConfig) : Levels :=
  let dist (mult : Float64) : Decimal := min (atr * mult) (maxDist entry)
  Levels.around dir entry (dist cfg.atrMultiplierSL) (dist cfg.atrMultiplierTP1)
    (dist cfg.atrMultiplierTP2) (dist cfg.atrMultiplierTP3)

/-- The side checks of a geometry: the text of the first that fails. -/
def sideFault (dir : Direction) (entry : Decimal) (levels : Levels) : Option String :=
  if dir = .buy then
    if ¬ levels.sl < entry then
      some ("BUY_GEOMETRY_INVALID: SL(" ++ text levels.sl ++ ") >= Entry(" ++ text entry ++ ")")
    else if ¬ entry < levels.tp1 then
      some ("BUY_GEOMETRY_INVALID: TP1(" ++ text levels.tp1 ++ ") <= Entry(" ++ text entry ++ ")")
    else none
  else
    if ¬ entry < levels.sl then
      some ("SELL_GEOMETRY_INVALID: SL(" ++ text levels.sl ++ ") <= Entry(" ++ text entry ++ ")")
    else if ¬ levels.tp1 < entry then
      some ("SELL_GEOMETRY_INVALID: TP1(" ++ text levels.tp1 ++ ") >= Entry(" ++ text entry ++ ")")
    else none

/-- The risk and reward of a geometry, and whether it is one. -/
def validateGeometry (dir : Direction) (spread entry : Decimal) (levels : Levels) :
    TradeGeometry :=
  let geo : TradeGeometry :=
    { entry := entry, stopLoss := levels.sl, tp1 := levels.tp1, tp2 := levels.tp2,
      tp3 := levels.tp3 }
  if levels.sl = 0 ∨ levels.tp1 = 0 then { geo with reasonCode := "GEOMETRY_INVALID" }
  else
    let risk := |entry - levels.sl|
    if risk = 0 then { geo with reasonCode := "ZERO_RISK" }
    else
      let gross (tp : Decimal) : Decimal := decimalDiv |tp - entry| risk
      let net (tp : Decimal) : Decimal :=
        if spread = 0 then gross tp else decimalDiv (|tp - entry| - spread) (risk + spread)
      let fault := sideFault dir entry levels
      { geo with
        riskDistance := risk
        grossRR1 := gross levels.tp1
        grossRR2 := gross levels.tp2
        grossRR3 := gross levels.tp3
        netRR1 := net levels.tp1
        netRR2 := net levels.tp2
        netRR3 := net levels.tp3
        valid := fault.isNone
        reasonCode := fault.getD "" }

/-- The average true range that the geometry of a strategy is built with. -/
def geometryATR (st : MarketState) (id : StrategyID) : Decimal :=
  let atr := getStrategyATR st id
  if atr = 0 then st.indicators.atr else atr

/-- `BuildTradeGeometry`. -/
def buildTradeGeometry (env : Env) (state : Option MarketState) (dir : Direction)
    (cfg : StrategyConfig) : TradeGeometry :=
  match state with
  | none => { reasonCode := "NO_MARKET_STATE" }
  | some st =>
    if dir ≠ .buy ∧ dir ≠ .sell then { reasonCode := "NO_DIRECTION" }
    else
      let atr := geometryATR st cfg.strategyID
      if atr = 0 then { reasonCode := "ATR_NOT_READY" }
      else
        let entry := quotedEntry st dir
        if entry = 0 then { reasonCode := "NO_ENTRY_PRICE" }
        else
          -- the structural levels are computed with the strategy's own range, from the current price
          let sized := { st with indicators := { st.indicators with atr := atr } }
          let structural := computeStructuralSLTP env sized dir cfg (getStructuralLow st)
            (getStructuralHigh st)
          let levels := clampToProfile env cfg.strategyID dir entry structural.2
          if levels.sl ≠ 0 then validateGeometry dir st.spread entry levels
          else
            match percentageLevels env cfg.strategyID entry dir atr with
            -- these levels are handed out unchecked, and not as a valid geometry
            | some p =>
              { entry := entry, stopLoss := p.sl, tp1 := p.tp1, tp2 := p.tp2, tp3 := p.tp3 }
            | none => validateGeometry dir st.spread entry (atrLevels dir entry atr cfg)

end PredictATrade.Realtime.Strategy
