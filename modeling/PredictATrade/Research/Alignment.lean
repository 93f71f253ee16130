import Mathlib.Data.List.TakeWhile
import PredictATrade.Research.Quality

/-!
# `Research.Alignment` — the timeframes side by side

For each candle of the primary timeframe, the last candle of every other timeframe that has closed by
then. A candle that has not closed is never aligned, so `verify_no_lookahead` has nothing to find
(`align_verified`).
-/

namespace PredictATrade.Research

/-- A candle with the candles of the higher timeframes. -/
structure TimeframeAlignment where
  timestamp : Datetime
  primaryCandle : HistoricalCandle
  /-- The last closed candle of each timeframe that has one. -/
  higherTfCandles : List (Timeframe × HistoricalCandle)
  primaryIndex : ℕ
  deriving DecidableEq, Repr

/-- The candles of the other timeframes. -/
abbrev HigherTfData := List (Timeframe × List HistoricalCandle)

/-- `timedelta(minutes=…)`, in microseconds. -/
def interval (tf : Timeframe) : ℤ := tfMinutes tf * 60000000

/-- `_get_candle_close_time`. -/
def getCandleCloseTime (candle : HistoricalCandle) (tf : Timeframe) : Datetime :=
  candle.timestamp + interval tf

/-- The scan stops at the first candle that has not closed. -/
def findLastClosedCandle (candles : List HistoricalCandle) (primaryTs : Datetime) (tf : Timeframe) :
    Option HistoricalCandle :=
  (candles.takeWhile fun c => c.timestamp + interval tf ≤ primaryTs).getLast?

/-- What `MultiTimeframeAligner` makes of `higher_timeframes`. -/
def higherTfs (higherTimeframes : List Timeframe) : List Timeframe :=
  if higherTimeframes = [] then ["M15", "H1", "H4", "D1"] else higherTimeframes

/-- The last candles of the higher timeframes at a time. -/
def higherCandles (tfs : List Timeframe) (higherTfData : HigherTfData) (ts : Datetime) :
    List (Timeframe × HistoricalCandle) :=
  tfs.filterMap fun tf =>
    (higherTfData.lookup tf).bind fun candles =>
      (findLastClosedCandle candles ts tf).map fun c => (tf, c)

/-- The alignments of the candles, of which the first has this index. -/
def alignFrom (tfs : List Timeframe) (higherTfData : HigherTfData) :
    ℕ → List HistoricalCandle → List TimeframeAlignment
  | _, [] => []
  | i, pc :: pcs =>
    { timestamp := pc.timestamp
      primaryCandle := pc
      higherTfCandles := higherCandles tfs higherTfData pc.timestamp
      primaryIndex := i } :: alignFrom tfs higherTfData (i + 1) pcs

/-- `align`. -/
def align (tfs : List Timeframe) (primaryCandles : List HistoricalCandle)
    (higherTfData : HigherTfData) : List TimeframeAlignment :=
  alignFrom tfs higherTfData 0 primaryCandles

/-- `verify_no_lookahead`. -/
def verifyNoLookahead (alignments : List TimeframeAlignment) : Bool :=
  alignments.all fun a => a.higherTfCandles.all fun (tf, c) => getCandleCloseTime c tf ≤ a.timestamp

/-! ## Only closed candles -/

theorem findLastClosedCandle_closed {candles : List HistoricalCandle} {ts : Datetime} {tf : Timeframe}
    {c : HistoricalCandle} (h : findLastClosedCandle candles ts tf = some c) :
    getCandleCloseTime c tf ≤ ts := by
  have hmem := List.mem_takeWhile_imp (List.mem_of_getLast? h)
  exact of_decide_eq_true hmem

theorem higherCandles_closed {tfs : List Timeframe} {data : HigherTfData} {ts : Datetime}
    {tf : Timeframe} {c : HistoricalCandle} (h : (tf, c) ∈ higherCandles tfs data ts) :
    getCandleCloseTime c tf ≤ ts := by
  obtain ⟨tf', -, hbind⟩ := List.mem_filterMap.mp h
  obtain ⟨candles, -, hmap⟩ := Option.bind_eq_some_iff.mp hbind
  obtain ⟨c', hfind, heq⟩ := Option.map_eq_some_iff.mp hmap
  cases heq
  exact findLastClosedCandle_closed hfind

theorem align_verified (tfs : List Timeframe) (candles : List HistoricalCandle) (data : HigherTfData) :
    verifyNoLookahead (align tfs candles data) := by
  have hfrom : ∀ i, verifyNoLookahead (alignFrom tfs data i candles) := by
    induction candles with
    | nil => exact fun _ => rfl
    | cons pc pcs ih =>
        intro i
        unfold verifyNoLookahead at ih ⊢
        rw [alignFrom, List.all_cons, Bool.and_eq_true]
        refine ⟨?_, ih (i + 1)⟩
        rw [List.all_eq_true]
        rintro ⟨tf, c⟩ hmem
        exact decide_eq_true (higherCandles_closed hmem)
  exact hfrom 0

/-! ## One alignment a candle -/

section
variable (tfs : List Timeframe) (data : HigherTfData)

/-- The first alignments are those of the first candles. -/
theorem alignFrom_take (i n : ℕ) (candles : List HistoricalCandle) :
    (alignFrom tfs data i candles).take n = alignFrom tfs data i (candles.take n) := by
  induction candles generalizing i n with
  | nil => simp [alignFrom]
  | cons pc pcs ih =>
      cases n with
      | zero => rfl
      | succ n => rw [alignFrom, List.take_succ_cons, ih, List.take_succ_cons, alignFrom]

theorem alignFrom_primary (i : ℕ) (candles : List HistoricalCandle) :
    (alignFrom tfs data i candles).map (·.primaryCandle) = candles := by
  induction candles generalizing i with
  | nil => rfl
  | cons pc pcs ih => rw [alignFrom, List.map_cons, ih]

end

end PredictATrade.Research
