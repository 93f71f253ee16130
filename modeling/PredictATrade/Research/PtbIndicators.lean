import PredictATrade.Lib.Smoothing
import PredictATrade.Research.Engine

/-!
# `Research.PtbIndicators` — the indicators of the strategy adapter

`_compute_indicators` goes over all candles once, when the adapter is initialized, and leaves one record for
each. The arrays of the source are lists here; those that start late are filled up in front with what the
source puts there.

A record comes from the candles so far, but for one: the 14th is seeded with the candle that follows it
(`computeIndicators_take`).
-/

namespace PredictATrade.Research
open Lib.Smoothing

/-- The record of one candle. -/
structure Indicators where
  ema9 : ℚ
  ema21 : ℚ
  rsi : ℚ
  atr : ℚ
  adx : ℚ
  macdMain : ℚ
  macdSignal : ℚ
  vwap : ℚ
  deriving DecidableEq, Repr

namespace PTBStrategyAdapter

/-! ## Averages -/

/-- The exponential average after each value. -/
def emaSeries (vals : List ℚ) (period : ℚ) : List ℚ :=
  let k := 2 / (period + 1)
  match vals with
  | [] => []
  | v :: vs => vs.scanl (fun ema v => v * k + ema * (1 - k)) v

/-- Wilder's average from index 13 on, of values that start at index 1. The last value of the seed is
smoothed in once more. -/
def smoothed (l : List ℚ) : List ℚ := (l.drop 13).scanl (smooth 14) ((l.take 14).sum / 14)

/-- The difference of the fast average and the slow one. -/
def macdMain (closes : List ℚ) : List ℚ :=
  List.zipWith (fun ema12 ema26 => ema12 - ema26) (emaSeries closes 12) (emaSeries closes 26)

/-! ## Relative strength -/

/-- The rise in a change. -/
def gain (d : ℚ) : ℚ := if d > 0 then d else 0

/-- The fall in a change. -/
def loss (d : ℚ) : ℚ := if d < 0 then -d else 0

/-- The relative strength of two averages. -/
def rsiValue (ag al : ℚ) : ℚ := if al > 0 then 100 - 100 / (1 + ag / al) else 100

section
variable (candles : List HistoricalCandle)

/-- The change from each close to the next. -/
def changes : List ℚ := (steps candles).map fun (prev, c) => c.close - prev.close

/-- The relative strength at each candle, 50 where there is none. -/
def rsiSeries : List ℚ :=
  if candles.length < 15 then List.replicate candles.length 50
  else
    List.replicate 13 50 ++
      List.zipWith rsiValue (smoothed ((changes candles).map gain)) (smoothed ((changes candles).map loss))

/-! ## Ranges and directional movement -/

/-- The true range of each candle after the first. -/
def trueRanges : List ℚ := (steps candles).map fun (prev, c) => trueRange c prev.close

/-- The average true range at each candle, 1 where there is none. -/
def atrSeries : List ℚ :=
  if candles.length < 15 then List.replicate candles.length 1
  else List.replicate 13 1 ++ smoothed (trueRanges candles)

/-- The upward movement of each candle after the first. -/
def plusMoves : List ℚ :=
  (steps candles).map fun (prev, c) =>
    let up := c.high - prev.high
    let dn := prev.low - c.low
    if up > dn ∧ up > 0 then up else 0

/-- The downward movement of each candle after the first. -/
def minusMoves : List ℚ :=
  (steps candles).map fun (prev, c) =>
    let up := c.high - prev.high
    let dn := prev.low - c.low
    if dn > up ∧ dn > 0 then dn else 0

/-- The quotient, zero where the divisor is not positive. -/
def cdiv (a b : ℚ) : ℚ := if b > 0 then a / b else 0

/-- The directional index of three averages. -/
def dxValue (sTR sPDM sMDM : ℚ) : ℚ :=
  let pDI := cdiv sPDM sTR * 100
  let mDI := cdiv sMDM sTR * 100
  if pDI + mDI > 0 then cdiv |pDI - mDI| (pDI + mDI) * 100 else 0

/-- From index 13 on. -/
def dxSeries : List ℚ :=
  List.zipWith3 dxValue (smoothed (trueRanges candles)) (smoothed (plusMoves candles))
    (smoothed (minusMoves candles))

/-- The average directional index at each candle, 0 where there is none. -/
def adxSeries : List ℚ :=
  if candles.length < 28 then List.replicate candles.length 0
  else
    let dx := dxSeries candles
    List.replicate 27 0 ++ (dx.drop 15).scanl (smooth 14) (((dx.drop 1).take 14).sum / 14)

/-! ## Prices by volume -/

/-- The sums so far, and the average they give. -/
structure CumVwap where
  cumPv : ℚ := 0
  cumV : ℚ := 0
  vwap : ℚ := 0

/-- The sums with one more candle. -/
def CumVwap.add (s : CumVwap) (c : HistoricalCandle) : CumVwap :=
  let vol : ℚ := max c.volume 0
  let typ := (c.high + c.low + c.close) / 3
  let cumPv := s.cumPv + typ * vol
  let cumV := s.cumV + vol
  { cumPv, cumV, vwap := if cumV > 0 then cumPv / cumV else c.close }

/-- The average price by volume at each candle. -/
def vwapSeries : List ℚ := ((candles.scanl CumVwap.add {}).drop 1).map (·.vwap)

/-! ## All of them -/

/-- `_compute_indicators`. -/
def computeIndicators : List Indicators :=
  let closes := candles.map (·.close)
  let ema9 := emaSeries closes 9
  let ema21 := emaSeries closes 21
  let rsi := rsiSeries candles
  let atr := atrSeries candles
  let adx := adxSeries candles
  let macd := macdMain closes
  let signal := emaSeries macd 9
  let vwap := vwapSeries candles
  (List.range candles.length).map fun i =>
    { ema9 := ema9.getD i 0
      ema21 := ema21.getD i 0
      rsi := rsi.getD i 0
      atr := atr.getD i 0
      adx := adx.getD i 0
      macdMain := macd.getD i 0
      macdSignal := signal.getD i 0
      vwap := vwap.getD i 0 }

@[simp] theorem computeIndicators_length : (computeIndicators candles).length = candles.length := by
  simp [computeIndicators]

end

/-! ## Nothing ahead -/

section
variable {candles : List HistoricalCandle} {n : ℕ}

/-- The steps of the first candles. -/
theorem steps_take (candles : List HistoricalCandle) (k : ℕ) :
    steps (candles.take (k + 1)) = (steps candles).take k := by
  unfold steps
  induction candles generalizing k with
  | nil => simp
  | cons c cs ih =>
      cases cs with
      | nil => simp
      | cons c' cs =>
          cases k with
          | zero => simp
          | succ k => simpa using ih k

theorem emaSeries_take (vals : List ℚ) (period : ℚ) (n : ℕ) :
    emaSeries (vals.take n) period = (emaSeries vals period).take n := by
  cases vals with
  | nil => simp [emaSeries]
  | cons v vs =>
      cases n with
      | zero => simp [emaSeries]
      | succ n => simp only [emaSeries, List.take_succ_cons, List.take_scanl]

theorem smoothed_take {k : ℕ} (h : 14 ≤ k) (l : List ℚ) :
    smoothed (l.take k) = (smoothed l).take (k - 12) := by
  obtain ⟨j, rfl⟩ := Nat.exists_eq_add_of_le h
  have hlast : 14 + j - 12 = j + 1 + 1 := by omega
  have hdrop : 14 + j - 13 = j + 1 := by omega
  have hseed : min 14 (14 + j) = 14 := by omega
  unfold smoothed
  rw [hlast, List.take_scanl, List.drop_take, hdrop, List.take_take, hseed]

theorem zipWith3_take (f : ℚ → ℚ → ℚ → ℚ) (a b c : List ℚ) (n : ℕ) :
    List.zipWith3 f (a.take n) (b.take n) (c.take n) = (List.zipWith3 f a b c).take n := by
  induction n generalizing a b c with
  | zero => rfl
  | succ n ih => cases a <;> cases b <;> cases c <;> simp [List.zipWith3, ih]

/-- Of a series over the steps that starts at index 13, the candles give what they gave before. -/
theorem smoothed_steps_take (f : HistoricalCandle × HistoricalCandle → ℚ) (h : 15 ≤ n) :
    smoothed ((steps (candles.take n)).map f) = (smoothed ((steps candles).map f)).take (n - 13) := by
  obtain ⟨k, rfl⟩ : ∃ k, n = k + 1 := ⟨n - 1, by omega⟩
  rw [steps_take, List.map_take, smoothed_take (by omega)]
  congr 1

theorem take_padded (k : ℕ) (x : ℚ) (l : List ℚ) (h : k ≤ n) :
    (List.replicate k x ++ l).take n = List.replicate k x ++ l.take (n - k) := by
  rw [List.take_append, List.take_of_length_le (by simpa using h), List.length_replicate]

/-- What a series starts with, when it is long enough and when it is not. -/
theorem take_padding (k : ℕ) (x : ℚ) (l : List ℚ) (h : n ≤ k) :
    (List.replicate k x ++ l).take n = List.replicate n x := by
  rw [List.take_append_of_le_length (by simpa using h), List.take_replicate, min_eq_left h]

theorem rsiSeries_take (h : n ≠ 14) (hlen : n ≤ candles.length) :
    rsiSeries (candles.take n) = (rsiSeries candles).take n := by
  have hlength : (candles.take n).length = n := by simp [hlen]
  rcases Nat.lt_or_ge n 14 with hn | hn
  · simp only [rsiSeries, hlength, if_pos (show n < 15 by omega)]
    split
    · rw [List.take_replicate, min_eq_left hlen]
    · rw [take_padding _ _ _ (by omega)]
  · have h : 15 ≤ n := by omega
    have hfew : ¬ (candles.take n).length < 15 := by omega
    have hmany : ¬ candles.length < 15 := by omega
    simp only [rsiSeries, changes, if_neg hfew, if_neg hmany, List.map_map]
    rw [take_padded _ _ _ (by omega), List.take_zipWith, smoothed_steps_take _ h, smoothed_steps_take _ h]

theorem atrSeries_take (h : n ≠ 14) (hlen : n ≤ candles.length) :
    atrSeries (candles.take n) = (atrSeries candles).take n := by
  have hlength : (candles.take n).length = n := by simp [hlen]
  rcases Nat.lt_or_ge n 14 with hn | hn
  · simp only [atrSeries, hlength, if_pos (show n < 15 by omega)]
    split
    · rw [List.take_replicate, min_eq_left hlen]
    · rw [take_padding _ _ _ (by omega)]
  · have h : 15 ≤ n := by omega
    have hfew : ¬ (candles.take n).length < 15 := by omega
    have hmany : ¬ candles.length < 15 := by omega
    simp only [atrSeries, trueRanges, if_neg hfew, if_neg hmany]
    rw [take_padded _ _ _ (by omega), smoothed_steps_take _ h]

theorem dxSeries_take (h : 15 ≤ n) :
    dxSeries (candles.take n) = (dxSeries candles).take (n - 13) := by
  simp only [dxSeries, trueRanges, plusMoves, minusMoves]
  rw [← zipWith3_take, smoothed_steps_take _ h, smoothed_steps_take _ h, smoothed_steps_take _ h]

theorem adxSeries_take (hlen : n ≤ candles.length) :
    adxSeries (candles.take n) = (adxSeries candles).take n := by
  have hlength : (candles.take n).length = n := by simp [hlen]
  rcases Nat.lt_or_ge n 28 with hn | h
  · simp only [adxSeries, hlength, if_pos hn]
    split
    · rw [List.take_replicate, min_eq_left hlen]
    · rw [take_padding _ _ _ (by omega)]
  · have hfew : ¬ (candles.take n).length < 28 := by omega
    have hmany : ¬ candles.length < 28 := by omega
    obtain ⟨j, rfl⟩ := Nat.exists_eq_add_of_le h
    have hpad : 28 + j - 27 = j + 1 := by omega
    have hdrop : 28 + j - 13 - 15 = j := by omega
    have hseed : min 14 (28 + j - 13 - 1) = 14 := by omega
    simp only [adxSeries, if_neg hfew, if_neg hmany]
    -- the seed reads `dx` up to index 27, which the first 28 candles determine
    rw [dxSeries_take (by omega), take_padded _ _ _ (by omega), hpad, List.take_scanl, List.drop_take,
      List.drop_take, hdrop, List.take_take, hseed]

theorem vwapSeries_take (candles : List HistoricalCandle) (n : ℕ) :
    vwapSeries (candles.take n) = (vwapSeries candles).take n := by
  unfold vwapSeries
  rw [← List.take_scanl, List.drop_take, List.map_take, Nat.add_sub_cancel]

theorem macdMain_take (closes : List ℚ) (n : ℕ) :
    macdMain (closes.take n) = (macdMain closes).take n := by
  unfold macdMain
  rw [emaSeries_take, emaSeries_take, List.take_zipWith]

/-- **One record looks ahead.** The records of the first `n` candles are those that these candles
have alone, for every `n` but 14. -/
theorem computeIndicators_take (candles : List HistoricalCandle) (h : n ≠ 14) :
    computeIndicators (candles.take n) = (computeIndicators candles).take n := by
  rcases Nat.le_total candles.length n with hlen | hlen
  · rw [List.take_of_length_le hlen, List.take_of_length_le (by simpa using hlen)]
  · have hmin : min n candles.length = n := Nat.min_eq_left hlen
    unfold computeIndicators
    rw [← List.map_take, List.take_range, List.length_take, hmin]
    -- record by record, each series gives what it gave before
    apply List.map_congr_left
    intro i hi
    have hlt : i < n := List.mem_range.mp hi
    simp [List.map_take, emaSeries_take, macdMain_take, vwapSeries_take,
      rsiSeries_take h hlen, atrSeries_take h hlen, adxSeries_take hlen,
      List.getElem?_take_of_lt hlt]

end

/-- Thirty candles a minute apart, some higher than the one before and some lower. -/
def uneven : List HistoricalCandle :=
  (List.range 30).map fun i : ℕ =>
    { timestamp := 60000000 * (i : ℤ), opening := 100, high := 102 + (i * i % 7 : ℕ)
      low := 98 - (i % 5 : ℕ), close := 100 + (i * i % 7 : ℕ) - (i % 5 : ℕ) }

/-- The first 20 candles fix their records. The first 14 do not: with the 15th the averages begin. -/
theorem computeIndicators_uneven :
    computeIndicators (uneven.take 20) = (computeIndicators uneven).take 20 ∧
      computeIndicators (uneven.take 14) ≠ (computeIndicators uneven).take 14 :=
  ⟨computeIndicators_take uneven (by decide), by decide +kernel⟩

end PTBStrategyAdapter

end PredictATrade.Research
