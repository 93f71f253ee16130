import Mathlib.Data.List.Perm.Basic
import PredictATrade.Lib.Runs
import PredictATrade.Realtime.Types

/-!
# `MarketData.Aggregator` — candles from ticks

The aggregator of `internal/marketdata`, external candles off, under a fixed broker offset of `off`
hours. A tick goes through the supported timeframes one after the other; an iteration of
`FlushClosedCandles` goes through the builders in the order in which Go ranges over the maps. Both
hold the mutex, so neither is interrupted by the other; the reader of the channel is not held up by
it, and takes some candles before each of the sends.
-/

namespace PredictATrade.MarketData

open Lib.Runs
open Realtime (Decimal Timeframe)

/-- A symbol. -/
abbrev Symbol := String

/-- Nanoseconds since the zero time of Go. -/
abbrev Time := ℤ

/-- A length of time, in nanoseconds. -/
abbrev Duration := ℤ

/-- A minute. -/
def minute : Duration := 60000000000

/-- An hour. -/
def hour : Duration := 60 * minute

/-- `timeframeDuration`. -/
def timeframeDuration : Timeframe → Duration
  | .m1 => minute
  | .m5 => 5 * minute
  | .m15 => 15 * minute
  | .m30 => 30 * minute
  | .h1 => hour
  | .h4 => 4 * hour
  | .d1 => 24 * hour
  | .w1 => 7 * 24 * hour
  | .mn1 => 30 * 24 * hour

/-- The timeframes that are built. -/
def supportedTFs : List Timeframe := [.m1, .m5, .m15, .m30, .h1, .h4, .d1]

/-- `t.Truncate(d)`: rounded down to a multiple of `d` since the zero time. -/
def truncate (t : Time) (d : Duration) : Time := t - t % d

/-! ## Data -/

/-- A tick of a symbol. -/
structure Tick where
  symbol : Symbol
  bid : Decimal
  ask : Decimal
  mid : Decimal
  tickVolume : Int64
  sourceTimestamp : Time
  deriving DecidableEq

/-- The qualities of a candle. -/
inductive CandleQuality where
  | complete | invalid
  deriving DecidableEq, Repr

/-- What the candles of a day are aligned to. -/
inductive AlignmentProfile where
  | broker | utc
  deriving DecidableEq, Repr

/-- A closed candle. -/
structure Candle where
  symbol : Symbol
  timeframe : Timeframe
  time : Time
  open_ : Decimal
  high : Decimal
  low : Decimal
  close : Decimal
  volume : Int64
  quality : CandleQuality
  alignment : AlignmentProfile
  deriving DecidableEq

/-- A candle that is being built. -/
structure CandleBuilder where
  symbol : Symbol
  timeframe : Timeframe
  period : Duration
  open_ : Decimal
  high : Decimal
  low : Decimal
  close : Decimal
  volume : Int64
  bucketStart : Time
  updated : Bool
  deriving DecidableEq

/-- What the candles are kept by. -/
abbrev Key := Symbol × Timeframe

/-- The builders, the channel, and what its reader has taken from it. -/
structure Aggregator where
  symbols : List Symbol
  candles : Key → Option CandleBuilder
  candleChan : List Candle
  received : List Candle

namespace Aggregator

/-- The capacity of the channel. -/
def capacity : ℕ := 256

/-- The reader takes so many candles, as far as there are any. -/
def read (a : Aggregator) (n : ℕ) : Aggregator :=
  { a with candleChan := a.candleChan.drop n, received := a.received ++ a.candleChan.take n }

/-- The candles with a new one under its key. -/
def put (a : Aggregator) (key : Key) (b : CandleBuilder) : Aggregator :=
  { a with candles := Function.update a.candles key (some b) }

/-- The keys of the two levels of maps. -/
def keys (a : Aggregator) : List Key := a.symbols.flatMap fun s => supportedTFs.map fun tf => (s, tf)

/-- The symbols with this one. -/
def addSymbol (a : Aggregator) (symbol : Symbol) : Aggregator :=
  if symbol ∈ a.symbols then a else { a with symbols := a.symbols ++ [symbol] }

end Aggregator

/-! ## Ticks -/

/-- The start of the bucket of a time, in the time of the broker and back. -/
def bucketStart (off : ℤ) (tf : Timeframe) (t : Time) : Time :=
  truncate (t + off * hour) (timeframeDuration tf) - off * hour

/-- The alignment that an offset stands for. -/
def alignmentForOffset (off : ℤ) : AlignmentProfile := if off ≠ 0 then .broker else .utc

/-- The candle of a builder. -/
def CandleBuilder.candle (off : ℤ) (b : CandleBuilder) : Candle where
  symbol := b.symbol
  timeframe := b.timeframe
  time := b.bucketStart
  open_ := b.open_
  high := b.high
  low := b.low
  close := b.close
  volume := b.volume
  quality :=
    if b.open_ = 0 ∨ b.high = 0 ∨ b.low = 0 ∨ b.close = 0 then .invalid
    else if b.high < b.low then .invalid
    else .complete
  alignment := alignmentForOffset off

/-- `emitCandle`, of a closed candle: a full channel drops it. -/
def Aggregator.emitCandle (off : ℤ) (b : CandleBuilder) (a : Aggregator) : Aggregator :=
  if a.candleChan.length < Aggregator.capacity then
    { a with candleChan := a.candleChan ++ [b.candle off] }
  else a

/-- A builder that starts with the tick. -/
def Tick.builder (off : ℤ) (tf : Timeframe) (tick : Tick) : CandleBuilder where
  symbol := tick.symbol
  timeframe := tf
  period := timeframeDuration tf
  open_ := tick.mid
  high := tick.ask
  low := tick.bid
  close := tick.mid
  volume := tick.tickVolume
  bucketStart := bucketStart off tf tick.sourceTimestamp
  updated := true

/-- A placeholder is filled from the tick; any other builder takes it in. -/
def CandleBuilder.update (tick : Tick) (b : CandleBuilder) : CandleBuilder :=
  if b.updated then
    { b with
      high := if b.high < tick.ask then tick.ask else b.high
      low := if tick.bid < b.low then tick.bid else b.low
      close := tick.mid
      volume := b.volume + tick.tickVolume }
  else
    { b with
      open_ := tick.mid, high := tick.ask, low := tick.bid, close := tick.mid,
      volume := tick.tickVolume, updated := true }

section

variable (off : ℤ)

/-- `ProcessTick` in one timeframe; the reader has taken `reads tf` candles since the one before. -/
def processTimeframe (tick : Tick) (reads : Timeframe → ℕ) (a : Aggregator) (tf : Timeframe) :
    Aggregator :=
  let a := a.read (reads tf)
  match a.candles (tick.symbol, tf) with
  | none => a.put (tick.symbol, tf) (tick.builder off tf)
  | some b =>
    if b.bucketStart = bucketStart off tf tick.sourceTimestamp then
      a.put (tick.symbol, tf) (b.update tick)
    else (if b.updated then a.emitCandle off b else a).put (tick.symbol, tf) (tick.builder off tf)

/-- `ProcessTick`, over the supported timeframes. -/
def processTick (tick : Tick) (reads : Timeframe → ℕ) (a : Aggregator) : Aggregator :=
  run (processTimeframe off tick reads) (a.addSymbol tick.symbol) supportedTFs

/-! ## Flushes -/

/-- What a flush leaves in the place of a builder that it has closed. -/
def CandleBuilder.placeholder (now : Time) (b : CandleBuilder) : CandleBuilder :=
  { b with
    open_ := b.close, high := b.close, low := b.close, volume := 0,
    bucketStart := truncate (now + off * hour) b.period - off * hour, updated := false }

/-- An iteration of `FlushClosedCandles`, for one builder. -/
def flushKey (now : Time) (reads : Key → ℕ) (a : Aggregator) (key : Key) : Aggregator :=
  let a := a.read (reads key)
  match a.candles key with
  | none => a
  | some b =>
    if b.updated = true ∧ b.bucketStart + off * hour + b.period < now + off * hour then
      (a.emitCandle off b).put key (b.placeholder off now)
    else a

/-- An iteration of `FlushClosedCandles`; `order` is the order of the maps. -/
def flush (now : Time) (order : List Key) (reads : Key → ℕ) (a : Aggregator) : Aggregator :=
  if order.Perm a.keys then run (flushKey off now reads) a order else a

end

/-! ## Runs -/

/-- The aggregator, and the ticks that it has been fed so far. -/
structure State where
  agg : Aggregator
  fed : List Tick

/-- What an aggregator is given: a tick, or the time to flush. -/
inductive Input where
  | tick (tick : Tick) (reads : Timeframe → ℕ)
  | flush (now : Time) (order : List Key) (reads : Key → ℕ)

/-- The aggregator with the ticks it was fed, after one more input. -/
def step (off : ℤ) (s : State) : Input → State
  | .tick tick reads => ⟨processTick off tick reads s.agg, s.fed ++ [tick]⟩
  | .flush now order reads => ⟨flush off now order reads s.agg, s.fed⟩

/-- `NewAggregator`. -/
def newAggregator : Aggregator := ⟨[], fun _ => none, [], []⟩

/-- A new aggregator that was fed nothing. -/
def State.start : State := ⟨newAggregator, []⟩

end PredictATrade.MarketData
