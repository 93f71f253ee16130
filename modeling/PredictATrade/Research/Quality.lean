import Mathlib.Data.List.Sort
import PredictATrade.Research.SessionCalendar

/-!
# `Research.Quality` — the checks before a backtest

`validate` lists what is wrong with the candles. An error fails them at once; a kind of warning does when
there are too many of it. Standard deviations are compared as variances, so that no root is taken.

A list that passes is in the order of its times (`validate_ordered`).
-/

namespace PredictATrade.Research

/-- A timeframe, a string in the source. -/
abbrev Timeframe := String

/-- `TF_MINUTES.get(tf, 5)`. -/
def tfMinutes : Timeframe → ℤ
  | "M1" => 1
  | "M5" => 5
  | "M15" => 15
  | "M30" => 30
  | "H1" => 60
  | "H4" => 240
  | "D1" => 1440
  | _ => 5

/-! ## Issues -/

/-- How severe an issue is. -/
inductive Severity where
  | error | warning
  deriving DecidableEq, Repr

/-- The categories of the issues. -/
inductive IssueCategory where
  | none | ordering | duplicate | ohlcInconsistency | negativePrice | outlier | gap | abnormalRange
  deriving DecidableEq, Repr

/-- An issue with the data. -/
structure QualityIssue where
  severity : Severity
  category : IssueCategory
  timestamp : Option Datetime
  deriving DecidableEq, Repr

/-- Each candle but the first, after the one before it. -/
def steps (candles : List HistoricalCandle) : List (HistoricalCandle × HistoricalCandle) :=
  candles.zip candles.tail

/-- `_check_ordering`. -/
def checkOrdering (candles : List HistoricalCandle) : List QualityIssue :=
  (steps candles).filterMap fun (prev, c) =>
    if c.timestamp ≤ prev.timestamp then some ⟨.error, .ordering, c.timestamp⟩ else none

/-- One for each candle whose time an earlier one has. -/
def checkDuplicates : List HistoricalCandle → List Datetime → List QualityIssue
  | [], _ => []
  | c :: cs, seen =>
    (if c.timestamp ∈ seen then [⟨.warning, .duplicate, c.timestamp⟩] else []) ++
      checkDuplicates cs (c.timestamp :: seen)

/-- `_check_ohlc_consistency`. -/
def checkOhlcConsistency (candles : List HistoricalCandle) : List QualityIssue :=
  candles.flatMap fun c =>
    (if c.high < c.low then [⟨.error, .ohlcInconsistency, c.timestamp⟩] else []) ++
    (if c.high < max c.opening c.close then [⟨.error, .ohlcInconsistency, c.timestamp⟩] else []) ++
    (if c.low > min c.opening c.close then [⟨.error, .ohlcInconsistency, c.timestamp⟩] else [])

/-- `_check_negative_prices`. -/
def checkNegativePrices (candles : List HistoricalCandle) : List QualityIssue :=
  candles.filterMap fun c =>
    if c.opening ≤ 0 ∨ c.high ≤ 0 ∨ c.low ≤ 0 ∨ c.close ≤ 0 then
      some ⟨.error, .negativePrice, c.timestamp⟩
    else none

/-- The mean of the values. -/
def mean (l : List ℚ) : ℚ := l.sum / l.length

/-- The square of `std()`. -/
def variance (l : List ℚ) : ℚ := mean (l.map fun x => (x - mean l) ^ 2)

/-- Closes that lie more than ten standard deviations off the mean. -/
def checkOutliers (candles : List HistoricalCandle) : List QualityIssue :=
  let closes := candles.map (·.close)
  if variance closes > 0 then
    candles.filterMap fun c =>
      if (c.close - mean closes) ^ 2 > 100 * variance closes then
        some ⟨.warning, .outlier, c.timestamp⟩
      else none
  else []

/-- `_check_gaps`. -/
def checkGaps (candles : List HistoricalCandle) (timeframe : Timeframe) : List QualityIssue :=
  let expectedInterval : ℚ := tfMinutes timeframe * 60
  (steps candles).filterMap fun (prev, c) =>
    let gap : ℚ := (c.timestamp - prev.timestamp : ℤ) / 1000000
    if gap ≤ 0 then none
    else
      let ratio := gap / expectedInterval
      if ratio > 2 then
        let maxWeekendRatio := 3 * 24 * 3600 / expectedInterval
        if weekday prev.timestamp ∈ [4, 5] ∧ weekday c.timestamp ∈ [5, 6, 0] ∧
            ratio ≤ maxWeekendRatio then none
        else some ⟨.warning, .gap, c.timestamp⟩
      else none

/-- `np.median`. -/
def median (l : List ℚ) : ℚ :=
  let s := l.insertionSort (· ≤ ·)
  if s.length % 2 = 1 then s.getD (s.length / 2) 0
  else (s.getD (s.length / 2 - 1) 0 + s.getD (s.length / 2) 0) / 2

/-- `_check_spread`. -/
def checkSpread (candles : List HistoricalCandle) : List QualityIssue :=
  let medianRange := median (candles.map fun c => c.high - c.low)
  if medianRange > 0 then
    candles.filterMap fun c =>
      if c.high - c.low > medianRange * 20 then some ⟨.warning, .abnormalRange, c.timestamp⟩ else none
  else []

/-! ## The report -/

/-- What `validate` returns. -/
structure DataQualityReport where
  timeframe : Timeframe
  totalCandles : ℕ
  issues : List QualityIssue
  passed : Bool
  minQualityScore : ℚ
  qualityScore : ℚ
  deriving DecidableEq, Repr

/-- The share of the candles that may have a warning of this kind. -/
def warnTolerance : IssueCategory → ℚ
  | .gap => 5 / 100
  | .outlier => 1 / 100
  | .abnormalRange => 1 / 100
  | .duplicate => 1 / 1000
  | _ => 1 / 100

/-- By how much the warnings of a kind exceed what is allowed. -/
def excess (issues : List QualityIssue) (total : ℕ) (category : IssueCategory) : ℚ :=
  let rate : ℚ := issues.countP (fun i => i.severity = .warning ∧ i.category = category) / total
  if rate > warnTolerance category then rate - warnTolerance category else 0

/-- `compute_score`: the score, and whether a kind of warnings exceeds what is allowed. -/
def computeScore (issues : List QualityIssue) (total : ℕ) : ℚ × Bool :=
  if total = 0 then (0, false)
  else
    let excesses := [IssueCategory.gap, .outlier, .abnormalRange, .duplicate].map (excess issues total)
    let errors : ℚ := issues.countP (·.severity = .error)
    let penalty := errors * (1 / 10) + (excesses.map (· * 5)).sum
    (max 0 (1 - penalty), excesses.any (· > 0))

/-- `validate`. -/
def validate (minQualityScore : ℚ) (candles : List HistoricalCandle) (timeframe : Timeframe) :
    DataQualityReport :=
  let issues :=
    if candles.length = 0 then [⟨.error, .none, none⟩]
    else
      checkOrdering candles ++ checkDuplicates candles [] ++ checkOhlcConsistency candles ++
        checkNegativePrices candles ++ checkOutliers candles ++ checkGaps candles timeframe ++
        checkSpread candles
  let (qualityScore, exceeded) := computeScore issues candles.length
  { timeframe
    totalCandles := candles.length
    issues
    passed := issues.all (·.severity ≠ .error) && !exceeded &&
      (candles.length = 0 || minQualityScore ≤ qualityScore)
    minQualityScore
    qualityScore }

/-! ## What passes -/

theorem no_errors {s : ℚ} {candles : List HistoricalCandle} {timeframe : Timeframe}
    (h : (validate s candles timeframe).passed) :
    ∀ i ∈ (validate s candles timeframe).issues, i.severity ≠ .error := by
  simp only [validate, Bool.and_eq_true, List.all_eq_true, decide_eq_true_eq] at h ⊢
  exact h.1.1

theorem validate_nonempty {s : ℚ} {candles : List HistoricalCandle} {timeframe : Timeframe}
    (h : (validate s candles timeframe).passed) : candles ≠ [] := by
  rintro rfl
  exact no_errors h ⟨.error, .none, none⟩ (List.mem_singleton_self _) rfl

theorem validate_ordered {s : ℚ} {candles : List HistoricalCandle} {timeframe : Timeframe}
    (h : (validate s candles timeframe).passed) :
    ∀ st ∈ steps candles, st.1.timestamp < st.2.timestamp := by
  intro st hst
  by_contra hle
  have hissue : (⟨.error, .ordering, some st.2.timestamp⟩ : QualityIssue) ∈ checkOrdering candles := by
    refine List.mem_filterMap.mpr ⟨st, hst, ?_⟩
    exact if_pos (not_lt.mp hle)
  have hne : candles.length ≠ 0 := fun hlen => validate_nonempty h (List.length_eq_zero_iff.mp hlen)
  refine no_errors h ⟨.error, .ordering, some st.2.timestamp⟩ ?_ rfl
  simp only [validate, if_neg hne, List.mem_append]
  tauto

theorem validate_high_ge_low {s : ℚ} {candles : List HistoricalCandle} {timeframe : Timeframe}
    (h : (validate s candles timeframe).passed) : ∀ c ∈ candles, c.low ≤ c.high := by
  intro c hc
  by_contra hlt
  have hissue : (⟨.error, .ohlcInconsistency, some c.timestamp⟩ : QualityIssue) ∈
      checkOhlcConsistency candles := by
    refine List.mem_flatMap.mpr ⟨c, hc, ?_⟩
    rw [if_pos (not_le.mp hlt)]
    simp
  have hne : candles.length ≠ 0 := fun hlen => validate_nonempty h (List.length_eq_zero_iff.mp hlen)
  refine no_errors h ⟨.error, .ohlcInconsistency, some c.timestamp⟩ ?_ rfl
  simp only [validate, if_neg hne, List.mem_append]
  tauto

end PredictATrade.Research
