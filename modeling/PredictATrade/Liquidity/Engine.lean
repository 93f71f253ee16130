import Mathlib.Data.List.Perm.Basic
import PredictATrade.Lib.Binary64
import PredictATrade.Lib.Number
import PredictATrade.Lib.Runs

/-!
# `Liquidity.Engine` — the marks of the Devil Liquidity engine

`ProcessCandle` of `internal/devilliquidity`, with the detection of new marks and the life of those
there are. Nothing here depends on what the floating-point operations compute, so they are those of
any `FloatLike` type: addition, comparison and the rest are taken as they come, `NaN` and the
infinities included. Times are integers; the product of a duration wraps around as an `int64` does,
and a difference of times is cut off at the largest durations.

Ids are numbers: `uuid.NewString` gives one that no mark has. The order in which Go ranges over the
marks is left to the list, as no mark looks at another while it advances. The order in which it ranges over the
weights of a score is an input of its own (`Visit`): the weights are added up in it, and a sum of `float64`s
depends on the order of its terms.
-/

namespace PredictATrade.Liquidity

/-! ## Numbers and times -/

/-- What the engine uses of `float64`; `num` is the conversion from a constant, an integer or a
decimal. -/
class FloatLike (F : Type) extends Add F, Sub F, Mul F, Div F, Neg F, LT F, LE F where
  num : ℚ → F
  decLT : DecidableLT F
  decLE : DecidableLE F

instance decidableLT {F : Type} [FloatLike F] : DecidableLT F := FloatLike.decLT

instance decidableLE {F : Type} [FloatLike F] : DecidableLE F := FloatLike.decLE

/-- Numbers without rounding. A division by zero gives an infinity or no number, as in the source. -/
instance : FloatLike Lib.Number where
  num := Lib.Number.fin
  decLT := inferInstance
  decLE := inferInstance

/-- Numbers with the rounding of `float64`, but for the sign of a zero and for an overflow. -/
abbrev Double := Lib.Rounded Lib.Binary64.fl

instance : FloatLike Double where
  num q := Lib.Rounded.of _ (.fin q)
  decLT := inferInstance
  decLE := inferInstance

/-- Nanoseconds. -/
abbrev Time := ℤ

/-- A length of time, in nanoseconds. -/
abbrev Duration := ℤ

/-- A minute. -/
def minute : Duration := 60000000000

/-- An hour. -/
def hour : Duration := 60 * minute

/-- `int64` arithmetic wraps around. -/
def wrap64 (x : ℤ) : ℤ := x.bmod 18446744073709551616

/-- `time.Duration(n) * d`. -/
def times (n : ℤ) (d : Duration) : Duration := wrap64 (n * d)

/-- `t.Sub(u)`, cut off at the largest and the smallest duration. -/
def sub (t u : Time) : Duration := max (-2 ^ 63) (min (2 ^ 63 - 1) (t - u))

/-- `types.Timeframe.Duration`. -/
def timeframeDuration (tf : String) : Duration :=
  match tf with
  | "M1" => minute
  | "M5" => 5 * minute
  | "M15" => 15 * minute
  | "M30" => 30 * minute
  | "H1" => hour
  | "H4" => 4 * hour
  | "D1" => 24 * hour
  | "W1" => 7 * 24 * hour
  | "MN1" => 30 * 24 * hour
  | _ => 0

/-- The interval of a candle, with the default for a timeframe that is not known. -/
def interval (tf : String) : Duration :=
  let interval := timeframeDuration tf
  if interval ≤ 0 then 5 * minute else interval

/-! ## Data -/

/-- The states of a mark. -/
inductive MarkState where
  | detected | active | approaching | touched | swept | reclaiming | rejected
  | reversalConfirmed | signalEligible | mitigated | invalidated | expired | failed
  deriving DecidableEq, Repr

/-- A mark in this state is over. -/
def isTerminal : MarkState → Bool
  | .invalidated | .expired | .failed | .mitigated => true
  | _ => false

/-- The directions of a mark. -/
inductive MarkDirection where
  | bullish | bearish
  deriving DecidableEq, Repr

variable {F : Type}

/-- What the engine is configured with. -/
structure Config (F : Type) where
  enabled : Bool
  flatWickRatio : F
  flatWickATRTol : F
  minimumTickTol : ℤ
  tickSize : F
  minBodyRatio : F
  minRangeATR : F
  minBodyExpansion : F
  closeExtremeRatio : F
  approachDistanceATR : F
  touchToleranceATR : F
  minSweepDepthATR : F
  maxSweepDepthATR : F
  reclaimMaxBars : ℤ
  reversalBodyRatio : F
  markExpiryBars : ℤ
  minMarkQuality : F
  minSignalScore : F
  volumeWeight : F
  configVersion : String

/-- `CandleInput`. -/
structure Candle (F : Type) where
  symbol : String
  timeframe : String
  time : Time
  open_ : ℚ
  high : ℚ
  low : ℚ
  close : ℚ
  volume : ℤ
  spread : F

/-- What `ProcessCandle` takes off a candle. -/
structure Bar (F : Type) where
  o : F
  h : F
  l : F
  cl : F
  rng : F
  body : F
  bodyRatio : F
  upperWick : F
  lowerWick : F
  upperWickRatio : F
  lowerWickRatio : F

/-- What `ProcessCandle` makes of it and of the candles before it. -/
structure Reading (F : Type) where
  atr : F
  rangeATR : F
  bodyExp : F
  volumeRatio : F

/-- A mark. -/
structure DevilMark (F : Type) where
  id : ℕ
  symbol : String
  timeframe : String
  direction : MarkDirection
  markPrice : F
  bar : Bar F
  atr : F
  detectedATR : F
  rangeATRRatio : F
  bodyExpansion : F
  volume : ℤ
  volumeRatio : F
  spread : F
  markQuality : F
  priorityScore : F
  state : MarkState
  firstApproachAt : Option Time := none
  firstTouchAt : Option Time := none
  firstSweepAt : Option Time := none
  sweepLow : Option F := none
  sweepHigh : Option F := none
  sweepDepthATR : Option F := none
  reclaimAt : Option Time := none
  reclaimStrength : Option F := none
  reversalConfirmedAt : Option Time := none
  reversalScore : Option F := none
  combinedScore : Option F := none
  distanceATR : Option F := none
  expiredAt : Option Time := none
  invalidatedAt : Option Time := none
  resolvedAt : Option Time := none
  detectedAt : Time
  updatedAt : Time
  barsSinceDetect : ℤ := 0

/-- A lifecycle event, with the mark as it was when it was emitted. -/
structure DevilEvent (F : Type) where
  mark : DevilMark F
  eventType : String
  stateFrom : MarkState
  stateTo : MarkState
  price : F

/-- `rollingBuf`. -/
structure RollingBuf (F : Type) where
  vals : List F
  pos : ℕ := 0
  full : Bool := false

/-- The engine with its marks and its buffers. -/
structure Engine (F : Type) where
  cfg : Config F
  enabled : Bool
  marks : List (DevilMark F) := []
  bodies : String → Option (RollingBuf F) := fun _ => none
  vols : String → Option (RollingBuf F) := fun _ => none
  atrEMA : String → Option F := fun _ => none
  prevClose : String → Option F := fun _ => none
  marksCreated : ℕ := 0
  events : List (DevilEvent F) := []

variable [FloatLike F]
open FloatLike (num)

/-- `DefaultConfig`. -/
def defaultConfig : Config F where
  enabled := true
  flatWickRatio := num (3 / 100)
  flatWickATRTol := num (15 / 100)
  minimumTickTol := 2
  tickSize := num (1 / 100)
  minBodyRatio := num (7 / 10)
  minRangeATR := num (12 / 10)
  minBodyExpansion := num (15 / 10)
  closeExtremeRatio := num (15 / 100)
  approachDistanceATR := num 3
  touchToleranceATR := num (5 / 10)
  minSweepDepthATR := num (2 / 10)
  maxSweepDepthATR := num (25 / 10)
  reclaimMaxBars := 10
  reversalBodyRatio := num (5 / 10)
  markExpiryBars := 240
  minMarkQuality := num 40
  minSignalScore := num 60
  volumeWeight := num 10
  configVersion := "1.0.0"

/-- `NewEngine`. -/
def newEngine (cfg : Config F) : Engine F :=
  let cfg := if cfg.configVersion = "" then defaultConfig else cfg
  { cfg, enabled := cfg.enabled }

/-! ## Arithmetic -/

/-- `abs`. -/
def absF (v : F) : F := if v < num 0 then -v else v

/-- `max`. -/
def maxF (a b : F) : F := if b < a then a else b

/-- `min`. -/
def minF (a b : F) : F := if a < b then a else b

/-- The greatest of three. -/
def max3 (a b c : F) : F := maxF (maxF a b) c

/-- The value, cut to the unit interval. -/
def clamp01 (v : F) : F := if v < num 0 then num 0 else if num 1 < v then num 1 else v

/-! ## Rolling statistics -/

/-- A buffer that is empty. -/
def newRollingBuf (cap : ℤ) : RollingBuf F where
  vals := List.replicate (if cap < 1 then 1 else cap).toNat (num 0)

/-- The buffer with one more value; one that is not positive is left out. -/
def RollingBuf.add (r : RollingBuf F) (v : F) : RollingBuf F :=
  if v ≤ num 0 then r
  else
    let vals := r.vals.set r.pos v
    if r.vals.length ≤ r.pos + 1 then { vals, pos := 0, full := true }
    else { vals, pos := r.pos + 1, full := r.full }

/-- One step of the insertion sort, on the sorted part read from its end. -/
def insertSorted (v : F) : List F → List F
  | [] => [v]
  | x :: xs => if v < x then x :: insertSorted v xs else v :: x :: xs

/-- The median of the values in the buffer. -/
def RollingBuf.median (r : RollingBuf F) : F :=
  let n := if r.full then r.vals.length else r.pos
  if n = 0 then num 0
  else
    let cp := ((r.vals.take n).foldl (fun sorted v => insertSorted v sorted) []).reverse
    if n % 2 = 1 then cp.getD (n / 2) (num 0)
    else (cp.getD (n / 2 - 1) (num 0) + cp.getD (n / 2) (num 0)) / num 2

/-- Put a value under a key of a map. -/
def put {α : Type} (t : String → Option α) (k : String) (v : α) : String → Option α :=
  fun j => if j = k then some v else t j

/-- The prices of a candle as floats. -/
def Candle.bar (c : Candle F) : Bar F :=
  let o : F := num c.open_
  let h : F := num c.high
  let l : F := num c.low
  let cl : F := num c.close
  let rng := h - l
  let body := absF (cl - o)
  let upperWick := h - maxF o cl
  let lowerWick := minF o cl - l
  { o, h, l, cl, rng, body, bodyRatio := body / rng, upperWick, lowerWick
    upperWickRatio := upperWick / rng, lowerWickRatio := lowerWick / rng }

/-- Update the rolling statistics and the ATR, and read the candle against them. -/
def Engine.read (e : Engine F) (c : Candle F) (b : Bar F) : Reading F × Engine F :=
  let k := c.symbol ++ "|" ++ c.timeframe
  let bodies := ((e.bodies k).getD (newRollingBuf 50)).add b.body
  let vols := ((e.vols k).getD (newRollingBuf 50)).add (num c.volume)
  let medianBody := bodies.median
  let medianVol := vols.median
  let atr :=
    match e.prevClose k with
    | some p =>
      let tr := max3 (b.h - b.l) (absF (b.h - p)) (absF (b.l - p))
      match e.atrEMA k with
      | some prev => if num 0 < prev then prev + (tr - prev) * (num 2 / num 15) else tr
      | none => tr
    | none => b.rng
  let atr := if atr ≤ num 0 then b.rng else atr
  ({ atr, rangeATR := b.rng / atr
     bodyExp := if num 0 < medianBody then b.body / medianBody else num 1
     volumeRatio := if num 0 < medianVol then num c.volume / medianVol else num 1 },
   { e with
     bodies := put e.bodies k bodies
     vols := put e.vols k vols
     atrEMA := put e.atrEMA k atr
     prevClose := put e.prevClose k b.cl })

/-! ## Detection -/

/-- The keys of `weights` and `vals`; `struct` is `structure`. -/
inductive Component where
  | flat | disp | body | vol | struct | fvg | htf | sess | reg
  deriving DecidableEq

/-- The keys in the order in which the map literal lists them. -/
def Component.all : List Component := [.flat, .disp, .body, .vol, .struct, .fvg, .htf, .sess, .reg]

/-- An order in which `range` may go over the weights: it gets to each key once. -/
structure Visit where
  keys : List Component
  perm : keys.Perm Component.all

/-- The order of the map literal. -/
def Visit.listed : Visit := ⟨Component.all, List.Perm.refl _⟩

/-- `weights`. -/
def Config.weights (cfg : Config F) : Component → F
  | .flat => num 15
  | .disp => num 20
  | .body => num 10
  | .vol => cfg.volumeWeight
  | .struct => num 15
  | .fvg => num 10
  | .htf => num 10
  | .sess => num 5
  | .reg => num 5

/-- `vals`, where `bos`, `fvg` and `mss` say what else was observed. -/
def vals (cfg : Config F) (dir : MarkDirection) (b : Bar F) (r : Reading F) (fvg bos mss : Bool) :
    Component → F
  | .flat =>
    match dir with
    | .bullish => clamp01 (num 1 - b.lowerWickRatio / cfg.flatWickRatio)
    | .bearish => clamp01 (num 1 - b.upperWickRatio / cfg.flatWickRatio)
  | .disp => clamp01 (r.rangeATR / cfg.minRangeATR)
  | .body => clamp01 b.bodyRatio
  | .vol => clamp01 (r.volumeRatio / num 2)
  | .struct => if bos then num 1 else num 0
  | .fvg => if fvg then num 1 else num 0
  | .htf => if mss then num 1 else num 0
  | .sess => num (5 / 10)
  | .reg => num (5 / 10)

/-- Is the component left out, as one that was not observed? -/
def Component.skipped (fvg bos mss : Bool) (k : Component) : Bool :=
  (k = .struct && !bos) || (k = .fvg && !fvg) || (k = .htf && !mss)

/-- The total of `scoreMark`, where `range` goes over the weights in the order of `visit`. -/
def scoreMark (cfg : Config F) (visit : Visit) (dir : MarkDirection) (b : Bar F) (r : Reading F)
    (fvg bos mss : Bool) : F :=
  let sums := visit.keys.foldl (fun (s : F × F) k =>
    if k.skipped fvg bos mss then s
    else (s.1 + cfg.weights k, s.2 + cfg.weights k * vals cfg dir b r fvg bos mss k)) (num 0, num 0)
  if num 0 < sums.1 then sums.2 / sums.1 * num 100 else num 0

/-- `createMark`, which has the mark scored without structure, FVG and HTF. -/
def Engine.createMark (e : Engine F) (c : Candle F) (now : Time) (visit : Visit) (dir : MarkDirection)
    (b : Bar F) (r : Reading F) : Engine F :=
  let total := scoreMark e.cfg visit dir b r false false false
  if total < e.cfg.minMarkQuality then e
  else
    let m : DevilMark F :=
      { id := e.marksCreated, symbol := c.symbol, timeframe := c.timeframe, direction := dir
        markPrice := b.o, bar := b, atr := r.atr, detectedATR := r.atr
        rangeATRRatio := r.rangeATR, bodyExpansion := r.bodyExp, volume := c.volume
        volumeRatio := r.volumeRatio, spread := c.spread, markQuality := total
        priorityScore := total, state := .active, detectedAt := c.time, updatedAt := now }
    { e with
      marks := e.marks ++ [m]
      marksCreated := e.marksCreated + 1
      events := e.events ++
        [{ mark := m, eventType := "DETECTED", stateFrom := .detected, stateTo := .active
           price := b.cl }] }

/-- Is the mark one of the candle's symbol and timeframe? -/
def DevilMark.isFor (m : DevilMark F) (c : Candle F) : Bool :=
  m.symbol == c.symbol && m.timeframe == c.timeframe

/-- The reference ATR of a mark: the one at its detection, or else the one given. -/
def DevilMark.atrRef (m : DevilMark F) (atr : F) : F :=
  if m.detectedATR ≤ num 0 then atr else m.detectedATR

/-- The duplicate guard for one mark: the candle is at its level, or too young for a new mark. -/
def DevilMark.guards (m : DevilMark F) (cfg : Config F) (c : Candle F) (b : Bar F) : Bool :=
  if !m.isFor c || isTerminal m.state then false
  else
    let atrRef := m.atrRef m.atr
    if num 0 < atrRef ∧ num 0 < m.markPrice ∧
        absF (m.markPrice - b.cl) ≤ cfg.touchToleranceATR * atrRef then true
    else
      let age := sub c.time m.detectedAt
      decide (0 ≤ age ∧ age ≤ times cfg.reclaimMaxBars (interval c.timeframe))

/-- `detect`: a candle that opens on its flat edge and closes far from it leaves a mark, unless an open one
turns it away. -/
def Engine.detect (e : Engine F) (c : Candle F) (now : Time) (visit : Visit) (b : Bar F)
    (r : Reading F) : Engine F :=
  let cfg := e.cfg
  let flatTol := maxF (num cfg.minimumTickTol * cfg.tickSize) (r.atr * cfg.flatWickATRTol)
  let displacementOK :=
    cfg.minBodyRatio ≤ b.bodyRatio ∧ cfg.minRangeATR ≤ r.rangeATR ∧
      cfg.minBodyExpansion ≤ r.bodyExp
  if e.marks.any fun m => m.guards cfg c b then e
  else if b.o < b.cl ∧ b.lowerWick ≤ flatTol ∧ b.lowerWickRatio ≤ cfg.flatWickRatio ∧
      displacementOK ∧ (b.h - b.cl) / b.rng ≤ cfg.closeExtremeRatio then
    e.createMark c now visit .bullish b r
  else if b.cl < b.o ∧ b.upperWick ≤ flatTol ∧ b.upperWickRatio ≤ cfg.flatWickRatio ∧
      displacementOK ∧ (b.cl - b.l) / b.rng ≤ cfg.closeExtremeRatio then
    e.createMark c now visit .bearish b r
  else e

/-! ## The life of a mark -/

/-- A mark on its way through `advance`, and the events emitted on the way. -/
structure Advancing (F : Type) where
  mark : DevilMark F
  events : List (DevilEvent F) := []

/-- A change of the mark that is being advanced. -/
def Advancing.set (a : Advancing F) (f : DevilMark F → DevilMark F) : Advancing F :=
  { a with mark := f a.mark }

/-- A transition of the mark, with its event, unless it is in the state already. -/
def Advancing.transition (a : Advancing F) (now : Time) (to_ : MarkState) (price : F)
    (etype : String) : Advancing F :=
  if a.mark.state = to_ then a
  else
    let m := { a.mark with state := to_, updatedAt := now }
    { mark := m
      events := a.events ++
        [{ mark := m, eventType := etype, stateFrom := a.mark.state, stateTo := to_, price }] }

section
variable (cfg : Config F) (now : Time) (c : Candle F) (b : Bar F) (atr atrRef : F)

/-- The touch of the mark's level, where it has not got there yet. -/
def touch (a : Advancing F) : Advancing F :=
  let touchTol := cfg.touchToleranceATR * atrRef
  if a.mark.state ∉ [MarkState.touched, .swept, .reclaiming, .reversalConfirmed, .signalEligible] ∧
      (absF (b.h - a.mark.markPrice) ≤ touchTol ∨ absF (b.l - a.mark.markPrice) ≤ touchTol) then
    (a.set fun m => { m with firstTouchAt := some c.time }).transition now .touched b.cl "TOUCH"
  else a

/-- The approach, only before a touch. -/
def approach (dist : F) (a : Advancing F) : Advancing F :=
  if a.mark.state = .active ∧ dist ≤ cfg.approachDistanceATR then
    (a.set fun m => { m with firstApproachAt := some c.time }).transition now .approaching b.cl
      "APPROACH"
  else a

/-- The sweep: below the mark for a bullish one, above it for a bearish one. -/
def sweep (a : Advancing F) : Advancing F :=
  let m := a.mark
  if (m.state = .touched ∨ m.state = .approaching) ∧ m.firstSweepAt = none then
    match m.direction with
    | .bullish =>
      if b.l < m.markPrice - cfg.minSweepDepthATR * atrRef then
        (a.set fun m =>
          { m with
            firstSweepAt := some c.time, sweepLow := some b.l
            sweepDepthATR := some ((m.markPrice - b.l) / atr) }).transition now .swept b.cl "SWEEP"
      else a
    | .bearish =>
      if m.markPrice + cfg.minSweepDepthATR * atrRef < b.h then
        (a.set fun m =>
          { m with
            firstSweepAt := some c.time, sweepHigh := some b.h
            sweepDepthATR := some ((b.h - m.markPrice) / atr) }).transition now .swept b.cl "SWEEP"
      else a
  else a

/-- The close is back on the mark's side. -/
def DevilMark.reclaims (m : DevilMark F) : Bool :=
  match m.direction with
  | .bullish => decide (m.markPrice < b.cl)
  | .bearish => decide (b.cl < m.markPrice)

/-- The close is too far beyond the mark. -/
def DevilMark.breaks (m : DevilMark F) : Bool :=
  match m.direction with
  | .bullish => decide (b.cl < m.markPrice - cfg.maxSweepDepthATR * atrRef)
  | .bearish => decide (m.markPrice + cfg.maxSweepDepthATR * atrRef < b.cl)

/-- The name of a reclaim, and how strong it is. -/
def DevilMark.reclaim (m : DevilMark F) : String × F :=
  match m.direction with
  | .bullish => ("RECLAIM", (b.cl - m.markPrice) / atr)
  | .bearish => ("REJECTION", (m.markPrice - b.cl) / atr)

/-- What becomes of a swept mark: it is reclaimed, it fails after too many bars, or it is
invalidated. -/
def resolve (a : Advancing F) : Advancing F :=
  let m := a.mark
  if m.state = .swept then
    if m.reclaims b then
      (a.set fun m =>
        { m with
          reclaimAt := some c.time
          reclaimStrength := some (m.reclaim b atr).2 }).transition now .reclaiming b.cl
            (m.reclaim b atr).1
    else if cfg.reclaimMaxBars < m.barsSinceDetect then
      (a.transition now .failed b.cl "FAILED").set fun m => { m with resolvedAt := some now }
    else if m.breaks cfg b atrRef then
      (a.transition now .invalidated b.cl "INVALIDATION").set fun m =>
        { m with invalidatedAt := some now }
    else a
  else a

/-- The candle closes in the direction the mark expects. -/
def DevilMark.reverses (m : DevilMark F) : Bool :=
  match m.direction with
  | .bullish => decide (m.markPrice < b.cl ∧ b.o < b.cl)
  | .bearish => decide (b.cl < m.markPrice ∧ b.cl < b.o)

/-- `confirmReversal`, for a mark that is being reclaimed. -/
def confirmReversal (a : Advancing F) : Advancing F :=
  let m := a.mark
  let reversalBody := absF (b.cl - b.o) / maxF (b.h - b.l) (num (1 / 1000000000))
  if m.state = .reclaiming ∧ m.reverses b ∧ cfg.reversalBodyRatio ≤ reversalBody then
    let reversalScore := clamp01 reversalBody * num 100
    let combinedScore := m.markQuality * num (4 / 10) + reversalScore * num (6 / 10)
    let a := (a.set fun m =>
      { m with
        reversalConfirmedAt := some c.time, reversalScore := some reversalScore
        combinedScore := some combinedScore }).transition now .reversalConfirmed b.cl
          "REVERSAL_CONFIRMATION"
    let a :=
      if cfg.minSignalScore ≤ combinedScore then
        a.transition now .signalEligible b.cl "SIGNAL_ELIGIBLE"
      else a
    a.set fun m => { m with resolvedAt := some now }
  else a

/-- The distance of the close from the mark, in ATRs. -/
def DevilMark.distance (m : DevilMark F) : F := absF (b.cl - m.markPrice) / m.atrRef atr

/-- The mark with the bar counted. -/
def DevilMark.countBar (m : DevilMark F) : DevilMark F :=
  { m with
    barsSinceDetect := m.barsSinceDetect + 1, atr := atr, distanceATR := some (m.distance b atr) }

/-- What a candle does to a mark. -/
def advance (m : DevilMark F) : Advancing F :=
  let atrRef := m.atrRef atr
  let dist := m.distance b atr
  let a : Advancing F := { mark := m.countBar b atr }
  if cfg.markExpiryBars < a.mark.barsSinceDetect then
    (a.transition now .expired b.cl "EXPIRY").set fun m => { m with expiredAt := some now }
  else
    confirmReversal cfg now c b
      (resolve cfg now c b atr atrRef
        (sweep cfg now c b atr atrRef
          (approach cfg now c b dist (touch cfg now c b atrRef a))))
end

/-- The marks that the candle advances: those of its symbol and timeframe that are not terminal, but
for one that the candle itself has created. -/
def DevilMark.advancedBy (m : DevilMark F) (before : List ℕ) (c : Candle F) : Bool :=
  m.isFor c && !isTerminal m.state && before.contains m.id

/-- What a candle does to the marks there were before it. -/
def Engine.advanceMarks (e : Engine F) (before : List ℕ) (now : Time) (c : Candle F) (b : Bar F)
    (atr : F) : Engine F :=
  let results := e.marks.map fun m =>
    if m.advancedBy before c then advance e.cfg now c b atr m else { mark := m }
  { e with
    marks := results.map (·.mark)
    events := e.events ++ results.flatMap (·.events) }

/-- A candle on its way into the engine, with the order in which the weights are gone over should it make a
mark. The order is drawn at that moment; nothing before it looks at it. -/
structure Job (F : Type) where
  candle : Candle F
  visit : Visit

/-- A job, and the time at which it is processed. -/
structure Input (F : Type) extends Job F where
  now : Time

/-- `ProcessCandle`. -/
def processCandle (e : Engine F) (i : Input F) : Engine F :=
  let c := i.candle
  let b : Bar F := c.bar
  if !e.enabled then e
  else if b.rng ≤ num 0 then e
  else
    let before := e.marks.map (·.id)
    let (r, e) := e.read c b
    (e.detect c i.now i.visit b r).advanceMarks before i.now c b r.atr

end PredictATrade.Liquidity
