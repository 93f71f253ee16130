import PredictATrade.Lib.Decimal
import PredictATrade.Realtime.Types

/-!
# `Realtime.Features` — structure, liquidity and pullbacks

The three feature engines of `internal/features` that look at swings: the structure engine confirms
swing points and follows the trend, the liquidity engine pools swing highs that lie close together
and records the candles that sweep a pool, the pullback engine measures how far the price has come
back from the extreme of the trend. `Registry.evaluate` runs them on one closed candle and puts
their reports into the market state that the strategies read.

The average true range that the indicator engine reports for a candle is an argument.
-/

namespace PredictATrade.Realtime.Features
open Lib.Decimal

/-- `Decimal.Div`: sixteen decimal places. -/
def decimalDiv (x y : Decimal) : Decimal := roundPlaces 16 (x / y)

/-- The last `n` entries, in order. -/
def keepLast {α : Type} (n : ℕ) (l : List α) : List α := l.drop (l.length - n)

/-- The prices of a candle. -/
structure Candle where
  high : Decimal
  low : Decimal
  close : Decimal
  time : Time
  deriving DecidableEq, Repr

/-! ## Structure -/

/-- A candle as the engine remembers it. -/
structure CandleInfo where
  high : Decimal
  low : Decimal
  close : Decimal
  timestamp : Time
  index : ℕ
  deriving DecidableEq, Repr

/-- A swing high or low. -/
structure SwingPoint where
  price : Decimal
  isHigh : Bool
  timestamp : Time
  index : ℕ
  confirmed : Bool
  deriving DecidableEq, Repr

/-- The trends. -/
inductive Trend where
  | neutral | bullish | bearish
  deriving DecidableEq, Repr

/-- A break of structure (`bos`) or a change of character (`chOCH`), with the trend it opens. -/
inductive StructureEventType where
  | bos | chOCH
  deriving DecidableEq, Repr

/-- A break of the structure. -/
structure StructureEvent where
  type : StructureEventType
  direction : Trend
  price : Decimal
  time : Time
  deriving DecidableEq, Repr

/-- The engine of the structure. -/
structure StructureEngine where
  lookback : ℕ := 50
  confirmBars : ℕ := 2
  candles : List CandleInfo := []
  swings : List SwingPoint := []
  lastTrend : Trend := .neutral
  lastBOS : Option StructureEvent := none
  lastCHoCH : Option StructureEvent := none
  deriving DecidableEq, Repr

/-- What the engine of the structure reports. -/
structure StructureFeatures where
  swingHighs : List Decimal := []
  swingLows : List Decimal := []
  lastBOS : Option StructureEvent := none
  lastCHoCH : Option StructureEvent := none
  lastMSS : Option StructureEvent := none
  currentTrend : Trend := .neutral
  structureBreak : Bool := false
  deriving DecidableEq, Repr

namespace StructureEngine

/-- Add a candle to the history. When the history overflows, the candles that stay are numbered
anew; the swings keep the numbers they were found with. -/
def remember (c : Candle) (e : StructureEngine) : StructureEngine :=
  let candles := e.candles ++ [⟨c.high, c.low, c.close, c.time, e.candles.length⟩]
  if e.lookback * 2 < candles.length then
    { e with candles := (keepLast (e.lookback * 2) candles).mapIdx fun i c => { c with index := i } }
  else
    { e with candles := candles }

/-- Every bar within `confirmBars` of bar `i`, on either side, satisfies `p` together with it. -/
def againstNeighbours (p : CandleInfo → CandleInfo → Bool) (i : ℕ) (e : StructureEngine) : Bool :=
  match e.candles[i]? with
  | none => false
  | some c =>
    (List.range' 1 e.confirmBars).all fun j =>
      (e.candles[i - j]?).any (p c) && (e.candles[i + j]?).any (p c)

/-- The swing points that bar `i` gives: a high above its neighbours, a low below them. -/
def swingsAt (i : ℕ) (e : StructureEngine) : List SwingPoint :=
  match e.candles[i]? with
  | none => []
  | some c =>
    if e.swings.any (·.index == c.index) then []
    else
      (if e.againstNeighbours (fun c d => decide (d.high < c.high)) i then
          [⟨c.high, true, c.timestamp, c.index, true⟩] else []) ++
      (if e.againstNeighbours (fun c d => decide (c.low < d.low)) i then
          [⟨c.low, false, c.timestamp, c.index, true⟩] else [])

/-- Look for swings among the bars that have just got enough bars on their right. -/
def detectSwings (e : StructureEngine) : StructureEngine :=
  let n := e.candles.length
  if n < e.confirmBars * 2 + 1 then e
  else
    let startCheck := max (n - e.confirmBars - 1) e.confirmBars
    let found := (List.range' startCheck (n - e.confirmBars - startCheck)).foldl
      (fun e i => { e with swings := e.swings ++ e.swingsAt i }) e
    { found with swings := keepLast e.lookback found.swings }

/-- The last five confirmed swing prices of one kind. -/
def swingPrices (high : Bool) (e : StructureEngine) : List Decimal :=
  keepLast 5 ((e.swings.filter fun s => s.confirmed && s.isHigh == high).map (·.price))

/-- A close above the last swing high: a bullish break of structure, unless the trend is bullish. -/
def breakUp (c : Candle) (feat : StructureFeatures) (e : StructureEngine) :
    StructureEngine × StructureFeatures :=
  match feat.swingHighs.getLast? with
  | none => (e, { feat with lastBOS := e.lastBOS })
  | some high =>
    if high < c.close then
      if e.lastTrend = .bullish then (e, feat)
      else
        let event : StructureEvent := ⟨.bos, .bullish, high, c.time⟩
        ({ e with lastBOS := some event, lastTrend := .bullish },
          { feat with structureBreak := true, lastBOS := some event })
    else (e, { feat with lastBOS := e.lastBOS })

/-- A close below the last swing low: a change of character from a bullish trend, a bearish break
of structure from no trend. -/
def breakDown (c : Candle) (feat : StructureFeatures) (e : StructureEngine) :
    StructureEngine × StructureFeatures :=
  match feat.swingLows.getLast? with
  | none => (e, { feat with lastCHoCH := e.lastCHoCH })
  | some low =>
    if c.close < low then
      match e.lastTrend with
      | .bullish =>
        let event : StructureEvent := ⟨.chOCH, .bearish, low, c.time⟩
        ({ e with lastCHoCH := some event, lastTrend := .bearish },
          { feat with structureBreak := true, lastCHoCH := some event })
      | .neutral =>
        let event : StructureEvent := ⟨.bos, .bearish, low, c.time⟩
        ({ e with lastBOS := some event, lastTrend := .bearish },
          { feat with structureBreak := true, lastBOS := some event })
      | .bearish => (e, feat)
    else (e, { feat with lastCHoCH := e.lastCHoCH })

/-- Follow the trend on a candle, given the swings on file. -/
def followTrend (c : Candle) (e : StructureEngine) : StructureEngine × StructureFeatures :=
  let feat : StructureFeatures :=
    { swingHighs := e.swingPrices true, swingLows := e.swingPrices false,
      currentTrend := e.lastTrend }
  let up := e.breakUp c feat
  let down := up.1.breakDown c up.2
  (down.1, { down.2 with currentTrend := down.1.lastTrend })

/-- What a candle does to the engine, and what is reported. -/
def process (c : Candle) (e : StructureEngine) : StructureEngine × StructureFeatures :=
  ((e.remember c).detectSwings).followTrend c

end StructureEngine

/-! ## Liquidity -/

/-- A pool of liquidity at a price. -/
structure LiquidityPool where
  price : Decimal
  type : String := "EQUAL_HIGHS"
  strength : ℕ := 3
  createdAt : Time
  swept : Bool := false
  deriving DecidableEq, Repr

/-- A sweep of a pool. -/
structure SweepEvent where
  price : Decimal
  direction : String
  time : Time
  deriving DecidableEq, Repr

/-- The engine of the pools. -/
structure LiquidityEngine where
  pools : List LiquidityPool := []
  sweeps : List SweepEvent := []
  tolerance : Decimal := 1 / 10
  deriving DecidableEq, Repr

/-- What the engine of the pools reports. -/
structure LiquidityFeatures where
  pools : List LiquidityPool := []
  recentSweeps : List SweepEvent := []
  cvdAvailable : Bool := false
  domAvailable : Bool := false
  orderFlowQuality : QualityState := .unavailable
  deriving DecidableEq, Repr

namespace LiquidityEngine

/-- A pool for each ordered pair of different swings within the tolerance. -/
def detectPools (c : Candle) (swings : List Decimal) (e : LiquidityEngine) : List LiquidityPool :=
  swings.flatMap fun s => swings.flatMap fun s₂ =>
    if s = s₂ then []
    else if |s - s₂| ≤ e.tolerance then [{ price := s, createdAt := c.time }] else []

/-- The events of one pool: the wick is above it and the close below, or the other way round. -/
def sweepEvents (c : Candle) (pool : LiquidityPool) : List SweepEvent :=
  if pool.swept then []
  else
    (if pool.price ≤ c.high ∧ c.close < pool.price then
        [⟨pool.price, "SELL_SIDE_SWEEP", c.time⟩] else []) ++
    (if c.low ≤ pool.price ∧ pool.price < c.close then
        [⟨pool.price, "BUY_SIDE_SWEEP", c.time⟩] else [])

/-- A pool that is swept is marked. -/
def markSwept (c : Candle) (pool : LiquidityPool) : LiquidityPool :=
  if sweepEvents c pool = [] then pool else { pool with swept := true }

/-- The pools on file when a candle is compared with them. -/
def poolsFor (c : Candle) (swings : List Decimal) (e : LiquidityEngine) : List LiquidityPool :=
  e.pools ++ e.detectPools c swings

/-- What a candle does to the engine, and what is reported. -/
def process (c : Candle) (swings : List Decimal) (e : LiquidityEngine) :
    LiquidityEngine × LiquidityFeatures :=
  let pools := e.poolsFor c swings
  let e : LiquidityEngine := { e with
    pools := keepLast 20 (pools.map (markSwept c))
    sweeps := keepLast 10 (e.sweeps ++ pools.flatMap (sweepEvents c)) }
  (e, { pools := e.pools, recentSweeps := e.sweeps })

end LiquidityEngine

/-! ## Pullbacks -/

/-- `trendExtreme` is zero until the engine has seen a trend. -/
structure PullbackEngine where
  trendAnchorPrice : Decimal := 0
  trendDirection : Option Direction := none
  trendExtreme : Decimal := 0
  pullbackInProgress : Bool := false
  deriving DecidableEq, Repr

/-- What the engine of the pullbacks reports. -/
structure PullbackFeatures where
  pullbackActive : Bool := false
  pullbackDepthPct : Decimal := 0
  pullbackATRNorm : Decimal := 0
  pullbackContConfirm : Bool := false
  pullbackQuality : Decimal := 0
  pullbackAnchor : Decimal := 0
  pullbackExtreme : Decimal := 0
  deriving DecidableEq, Repr

/-- The anchor of the trend and its direction: the last swing low of a bullish trend, the last swing
high of a bearish one. -/
def trendAnchor (s : StructureFeatures) : Option (Direction × Decimal) :=
  match s.currentTrend with
  | .bullish => s.swingLows.getLast?.map fun a => (.buy, a)
  | .bearish => s.swingHighs.getLast?.map fun a => (.sell, a)
  | .neutral => none

/-- How far a pullback has come, as a share of the move from the anchor to the extreme. -/
def pullbackDepth (extreme anchor price : Decimal) : Decimal :=
  decimalDiv |extreme - price| |extreme - anchor|

/-- The depth of a pullback in average true ranges. -/
def pullbackATRNorm (extreme price atr : Decimal) : Decimal :=
  if 0 < atr then decimalDiv |extreme - price| atr else 0

/-- A pullback is active between a fifth of the move and all of it. -/
def pullbackActive (depth : Decimal) : Bool := decide (1 / 5 < depth ∧ depth < 1)

/-- The quality of a pullback, by its depth and its length. -/
def pullbackQuality (depth atrNorm : Decimal) : Decimal :=
  let depthQuality := 1 - min (|depth - 1 / 2| * 2) 1
  let atrQuality :=
    if 1 / 2 < atrNorm ∧ atrNorm ≤ 3 then 1 else if atrNorm ≤ 5 then 1 / 2 else 0
  depthQuality * (6 / 10) + atrQuality * (4 / 10)

namespace PullbackEngine

/-- The farthest price of the trend so far, the current one included. -/
def extremeAfter (dir : Direction) (price : Decimal) (e : PullbackEngine) : Decimal :=
  let extreme := if e.trendExtreme = 0 then price else e.trendExtreme
  match dir with
  | .buy => if extreme < price then price else extreme
  | _ => if price < extreme then price else extreme

/-- The confirmation that the price goes on with the trend. -/
def continues (dir : Direction) (extreme price atr : Decimal) (e : PullbackEngine) : Bool :=
  let pullbackDist := |extreme - price|
  match dir with
  | .buy => e.pullbackInProgress && decide (extreme - pullbackDist + atr * (3 / 10) < price)
  | _ => e.pullbackInProgress && decide (price < extreme + pullbackDist - atr * (3 / 10))

/-- The measurement of a pullback in a trend with an anchor. -/
def measure (dir : Direction) (anchor price atr : Decimal) (e : PullbackEngine) :
    PullbackEngine × PullbackFeatures :=
  let e := { e with trendAnchorPrice := anchor, trendDirection := some dir }
  if price = anchor then (e, {})
  else
    let extreme := e.extremeAfter dir price
    let e := { e with trendExtreme := extreme }
    if extreme = anchor then (e, {})
    else
      let depth := pullbackDepth extreme anchor price
      let active := pullbackActive depth
      let atrNorm := pullbackATRNorm extreme price atr
      ({ e with pullbackInProgress := active },
        { pullbackActive := active
          pullbackDepthPct := depth
          pullbackATRNorm := atrNorm
          pullbackContConfirm := e.continues dir extreme price atr
          pullbackQuality := if active then pullbackQuality depth atrNorm else 0
          pullbackAnchor := anchor
          pullbackExtreme := extreme })

/-- What a price does to the engine of the pullbacks, once there is structure to go by. -/
def processEvaluated (s : StructureFeatures) (price atr : Decimal) (e : PullbackEngine) :
    PullbackEngine × PullbackFeatures :=
  if price = 0 then (e, {})
  else
    match trendAnchor s with
    | none => (e, {})
    | some (dir, anchor) => e.measure dir anchor price atr

end PullbackEngine

/-! ## The registry -/

/-- The engines of one timeframe. -/
structure Registry where
  structureEngine : StructureEngine := {}
  liquidityEngine : LiquidityEngine := {}
  pullbackEngine : PullbackEngine := {}
  deriving DecidableEq, Repr

/-- What the strategies read. The price is the middle of the last tick, or else the close. -/
structure MarketState where
  currentPrice : Decimal
  quality : QualityState
  structure_ : StructureFeatures
  liquidity : LiquidityFeatures
  pullback : PullbackFeatures
  deriving DecidableEq, Repr

/-- The price the strategies see. -/
def currentPrice (c : Candle) (lastTick : Option Tick) : Decimal := (lastTick.map (·.mid)).getD c.close

/-- One closed candle through the engines. -/
def Registry.evaluate (c : Candle) (atr : Decimal) (lastTick : Option Tick) (r : Registry) :
    Registry × MarketState :=
  let structure_ := r.structureEngine.process c
  let liquidity := r.liquidityEngine.process c structure_.2.swingHighs
  let pullback := r.pullbackEngine.processEvaluated structure_.2 c.close atr
  (⟨structure_.1, liquidity.1, pullback.1⟩,
    { currentPrice := currentPrice c lastTick
      quality := (lastTick.map (·.quality)).getD .authoritative
      structure_ := structure_.2
      liquidity := liquidity.2
      pullback := pullback.2 })

end PredictATrade.Realtime.Features
