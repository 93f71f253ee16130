import PredictATrade.Lib.Runs
import PredictATrade.Realtime.Features

/-!
# `Realtime.Regimes` — the market regime and its hysteresis

`RegimeEngine.process` of `internal/features`: each candle has a raw regime, and the engine's own regime
follows it late. It changes when enough candles in a row have confirmed another one and the present one
is old enough, or when its confidence has decayed to the floor.

`hysteretic` says so of every run, in terms of the candles: three in a row behind a confirmed change,
six behind a forced one. The engine takes the zero time for "not started", so a regime that is entered
at the zero time is given up without either.
-/

namespace PredictATrade.Realtime.Regimes
open Lib.Runs
open Features (decimalDiv keepLast)

/-! ## Data -/

/-- Nanoseconds since the zero time. -/
abbrev Time := ℤ

/-- A length of time, in nanoseconds. -/
abbrev Duration := ℤ

/-- A minute. -/
def minute : Duration := 60000000000

/-- `t.Sub(u)`, cut off at the largest and the smallest duration. -/
def sub (t u : Time) : Duration := max (-2 ^ 63) (min (2 ^ 63 - 1) (t - u))

/-- A candle, as far as the engine reads it. -/
structure Candle where
  time : Time
  close : Decimal
  deriving DecidableEq, Repr

/-- What the engine reads of `IndicatorFeatures`. -/
structure IndicatorFeatures where
  ema9 : Decimal := 0
  ema21 : Decimal := 0
  ema50 : Decimal := 0
  adx : Decimal := 0
  rsi : Decimal := 0
  atr : Decimal := 0
  deriving DecidableEq, Repr

/-- A change of the regime. -/
structure RegimeTransition where
  from_ : Regime
  to_ : Regime
  timestamp : Time
  reason : String
  rsi : Float64
  adx : Float64
  atr : Float64
  emaAlignment : String
  deriving DecidableEq, Repr

/-- `candidateRegime` is `none` until the engine has had a candidate or reset it; from then on `range`
stands for none as well. -/
structure RegimeEngine where
  currentRegime : Regime := .range
  enteredAt : Time := 0
  entryReason : String := "INITIALIZATION"
  confidence : Float64 := 1 / 2
  minHoldDuration : Duration := 5 * minute
  confirmationCandles : ℤ := 3
  maxTransitions : ℕ := 100
  candidateRegime : Option Regime := none
  candidateReason : String := ""
  candidateCount : ℕ := 0
  candidateConfidence : Float64 := 0
  transitions : List RegimeTransition := []
  confidenceDecayRate : Float64 := 92 / 100
  minConfidence : Float64 := 25 / 100
  deriving DecidableEq, Repr

/-- `NewRegimeEngine`. -/
def newRegimeEngine : RegimeEngine := {}

/-- `NewRegimeEngineWithConfig`. -/
def newRegimeEngineWithConfig (minHold : Duration) (confirmCandles : ℤ)
    (decayRate minConf : Float64) : RegimeEngine :=
  { minHoldDuration := minHold, confirmationCandles := confirmCandles
    confidenceDecayRate := decayRate, minConfidence := minConf }

/-- Why the regime is held, with what the text of the reason shows. -/
inductive HoldReason where
  | none
  | initialization
  | sameRegime
  | confidenceBelowMin
  | minHoldNotMet (age min : Duration)
  | newCandidateDetected
  | confirmationPending (count required : ℤ)
  | transitionConfirmed
  deriving DecidableEq, Repr

/-- What the engine reports. -/
structure RegimeFeatures where
  current : Regime
  previous : Regime
  volatility : String := ""
  confidence : Float64
  enteredAt : Time := 0
  age : Duration := 0
  entryReason : String := ""
  rawRegime : Option Regime := none
  transitionCandidate : Option Regime := none
  transitionConfidence : Float64 := 0
  confirmationCount : ℕ := 0
  requiredConfirmations : ℤ := 0
  holdReason : HoldReason := .none
  deriving DecidableEq, Repr

/-! ## Classification -/

/-- What `classifyRaw` returns. -/
structure Raw where
  regime : Regime
  confidence : Float64
  reason : String
  deriving DecidableEq, Repr

/-- The true range is more than 0.2% of the price. -/
def highVol (c : Candle) (ind : IndicatorFeatures) : Bool :=
  ind.atr ≠ 0 ∧ c.close ≠ 0 ∧ 2 / 1000 < decimalDiv ind.atr c.close

/-- The averages are in rising order. -/
def bullish (ind : IndicatorFeatures) : Bool := ind.ema21 < ind.ema9 ∧ ind.ema50 < ind.ema21

/-- The averages are in falling order. -/
def bearish (ind : IndicatorFeatures) : Bool := ind.ema9 < ind.ema21 ∧ ind.ema21 < ind.ema50

/-- The regime that the indicators show on this candle alone. -/
def classifyRaw (c : Candle) (ind : IndicatorFeatures) : Raw :=
  let trending := 25 < ind.adx
  let ranging := ind.adx < 20
  let rsiValid := 0 < ind.rsi
  let overbought := rsiValid ∧ 70 < ind.rsi
  let oversold := rsiValid ∧ ind.rsi < 30
  if trending ∧ bullish ind then ⟨.trendingBullish, 8 / 10, "ADX>25_BULLISH_EMA_ALIGNMENT"⟩
  else if trending ∧ bearish ind then ⟨.trendingBearish, 8 / 10, "ADX>25_BEARISH_EMA_ALIGNMENT"⟩
  else if overbought ∧ ¬ trending then ⟨.meanReversion, 7 / 10, "RSI_OVERBOUGHT_NO_TREND"⟩
  else if oversold ∧ ¬ trending then ⟨.meanReversion, 7 / 10, "RSI_OVERSOLD_NO_TREND"⟩
  else if ranging then ⟨.range, 6 / 10, "ADX<20"⟩
  else if highVol c ind then ⟨.highVolatility, 5 / 10, "ATR_PCT>0.2%"⟩
  else if bullish ind then ⟨.trendingBullish, 55 / 100, "BULLISH_EMA_ALIGNMENT_LOW_ADX"⟩
  else if bearish ind then ⟨.trendingBearish, 55 / 100, "BEARISH_EMA_ALIGNMENT_LOW_ADX"⟩
  else ⟨.range, 4 / 10, "DEFAULT_NO_STRONG_SIGNAL"⟩

/-- The state of the volatility. -/
def volatility (c : Candle) (ind : IndicatorFeatures) : String :=
  if highVol c ind then "HIGH" else "NORMAL"

/-! ## The engine -/

/-- `evaluateTransition`: the reason of the transition if there is one, and the hold reason. -/
def RegimeEngine.evaluateTransition (e : RegimeEngine) (raw : Raw) (now : Time) :
    Option String × HoldReason :=
  let age := sub now e.enteredAt
  if raw.regime = e.currentRegime then (none, .sameRegime)
  else if e.confidence ≤ e.minConfidence then
    (some ("CONFIDENCE_DECAYED_BELOW_MIN:" ++ raw.reason), .confidenceBelowMin)
  else if age < e.minHoldDuration then (none, .minHoldNotMet age e.minHoldDuration)
  else if e.candidateRegime ≠ some raw.regime then (none, .newCandidateDetected)
  else if e.candidateCount < e.confirmationCandles then
    (none, .confirmationPending e.candidateCount e.confirmationCandles)
  else (some ("CONFIRMED_TRANSITION:" ++ raw.reason), .transitionConfirmed)

/-- `recordTransition`. -/
def RegimeEngine.recordTransition (e : RegimeEngine) (t : RegimeTransition) : RegimeEngine :=
  { e with transitions := keepLast e.maxTransitions (e.transitions ++ [t]) }

/-- The first candle: its raw regime is taken as it is. -/
def RegimeEngine.start (e : RegimeEngine) (c : Candle) (raw : Raw) : RegimeEngine :=
  { e with
    enteredAt := c.time, currentRegime := raw.regime, entryReason := "INIT:" ++ raw.reason
    confidence := raw.confidence }

/-- The engine goes over to the raw regime. -/
def RegimeEngine.transition (e : RegimeEngine) (c : Candle) (ind : IndicatorFeatures) (raw : Raw)
    (reason : String) : RegimeEngine :=
  let emaAlign := if bullish ind then "BULLISH" else if bearish ind then "BEARISH" else "NEUTRAL"
  let e := e.recordTransition
    ⟨e.currentRegime, raw.regime, c.time, reason, toFloat ind.rsi, toFloat ind.adx, toFloat ind.atr,
      emaAlign⟩
  { e with
    currentRegime := raw.regime, enteredAt := c.time, entryReason := reason
    confidence := raw.confidence, candidateRegime := some .range, candidateCount := 0
    candidateReason := "", candidateConfidence := 0 }

/-- The engine stays in its regime: the confidence is restored or decays, and the candidate is
counted. -/
def RegimeEngine.hold (e : RegimeEngine) (raw : Raw) : RegimeEngine :=
  if raw.regime = e.currentRegime then
    { e with
      confidence := if e.confidence < raw.confidence then raw.confidence else e.confidence
      candidateRegime := some .range, candidateCount := 0 }
  else
    let decayed := e.confidence * e.confidenceDecayRate
    let e := { e with confidence := if decayed < e.minConfidence then e.minConfidence else decayed }
    if e.candidateRegime ≠ some raw.regime then
      { e with
        candidateRegime := some raw.regime, candidateCount := 1, candidateReason := raw.reason
        candidateConfidence := raw.confidence }
    else { e with candidateCount := e.candidateCount + 1 }

/-- The features that report a candle, given the engine before it and after it. -/
def RegimeEngine.report (e e' : RegimeEngine) (c : Candle) (ind : IndicatorFeatures) (raw : Raw)
    (holdReason : HoldReason) : RegimeFeatures :=
  let feat : RegimeFeatures :=
    { current := e'.currentRegime, previous := e.currentRegime, volatility := volatility c ind
      confidence := e'.confidence, enteredAt := e'.enteredAt
      age := if e'.enteredAt = 0 then sub c.time e.enteredAt else sub c.time e'.enteredAt
      entryReason := e'.entryReason, rawRegime := some raw.regime, holdReason }
  if e'.candidateRegime ≠ some e'.currentRegime ∧ e'.candidateRegime ≠ some .range then
    { feat with
      transitionCandidate := e'.candidateRegime
      transitionConfidence := e'.candidateConfidence, confirmationCount := e'.candidateCount
      requiredConfirmations := e'.confirmationCandles }
  else feat

/-- `Process`. The first candle is the one that finds no time on file. -/
def RegimeEngine.process (e : RegimeEngine) (candle : Option Candle) (ind : IndicatorFeatures) :
    RegimeFeatures × RegimeEngine :=
  match candle with
  | none => ({ current := e.currentRegime, confidence := e.confidence, previous := e.currentRegime }, e)
  | some c =>
    let raw := classifyRaw c ind
    if e.enteredAt = 0 then
      let e' := e.start c raw
      ({ current := raw.regime, previous := e.currentRegime, volatility := volatility c ind
         confidence := raw.confidence, enteredAt := e'.enteredAt, entryReason := e'.entryReason
         rawRegime := some raw.regime, holdReason := .initialization }, e')
    else
      match e.evaluateTransition raw c.time with
      | (some reason, holdReason) =>
        let e' := e.transition c ind raw reason
        (e.report e' c ind raw holdReason, e')
      | (none, holdReason) =>
        let e' := e.hold raw
        (e.report e' c ind raw holdReason, e')

/-! ## Runs -/

/-- What the engine is given for a bar. -/
structure Input where
  candle : Candle
  ind : IndicatorFeatures
  deriving DecidableEq, Repr

/-- The regime that the bar shows by itself. -/
def Input.raw (i : Input) : Raw := classifyRaw i.candle i.ind

/-- The engine, the candles it has processed, the last one first, and the time of the candle with which
it entered its regime. -/
structure History where
  engine : RegimeEngine := newRegimeEngine
  inputs : List Input := []
  since : Time := 0

/-- What the engine reports of a bar after this history. -/
def History.report (s : History) (i : Input) : RegimeFeatures :=
  (s.engine.process (some i.candle) i.ind).1

/-- The history with one more bar. -/
def step (s : History) (i : Input) : History :=
  let engine := (s.engine.process (some i.candle) i.ind).2
  { engine, inputs := i :: s.inputs
    since :=
      if s.inputs = [] ∨ engine.currentRegime ≠ s.engine.currentRegime then i.candle.time else s.since }

/-- The regime changes at the candle. -/
def Changes (s : History) (i : Input) : Prop :=
  (step s i).engine.currentRegime ≠ s.engine.currentRegime

/-- The regime is old enough, and the three candles before this one have had its raw regime. -/
def Confirmed (s : History) (i : Input) : Prop :=
  s.engine.minHoldDuration ≤ i.candle.time - s.since ∧
    (s.inputs.take 3).map (·.raw.regime) = List.replicate 3 i.raw.regime

/-- The six candles before this one have had another raw regime than the engine's. -/
def Contradicted (s : History) : Prop :=
  6 ≤ s.inputs.length ∧ ∀ j ∈ s.inputs.take 6, j.raw.regime ≠ s.engine.currentRegime

/-- The regime is entered only on a confirmed or a forced change, unless the one before it was entered
at the zero time, and it is the candle's raw regime. -/
def Hysteresis (s : History) (i : Input) : Prop :=
  s.inputs ≠ [] → Changes s i →
    (step s i).engine.currentRegime = i.raw.regime ∧
      (Confirmed s i ∨ Contradicted s ∨ s.since = 0)

/-- The reported confidence is neither below the floor nor above that of a strong trend. -/
def InRange (s : History) (i : Input) : Prop :=
  s.engine.minConfidence ≤ (s.report i).confidence ∧ (s.report i).confidence ≤ 8 / 10

/-- The candle is not older than one before it. -/
def InOrder (s : History) (i : Input) : Prop := ∀ j ∈ s.inputs, j.candle.time ≤ i.candle.time

/-! ## What one candle does -/

theorem classifyRaw_confidence (c : Candle) (ind : IndicatorFeatures) :
    4 / 10 ≤ (classifyRaw c ind).confidence ∧ (classifyRaw c ind).confidence ≤ 8 / 10 := by
  unfold classifyRaw
  dsimp only
  split_ifs <;> norm_num

/-- A transition has a decayed confidence behind it, or the age and the confirmations. -/
theorem evaluateTransition_some {e : RegimeEngine} {raw : Raw} {now : Time} {reason : String}
    {hold : HoldReason} (h : e.evaluateTransition raw now = (some reason, hold)) :
    raw.regime ≠ e.currentRegime ∧
      (e.confidence ≤ e.minConfidence ∨
        e.minHoldDuration ≤ sub now e.enteredAt ∧ e.candidateRegime = some raw.regime ∧
          e.confirmationCandles ≤ e.candidateCount) := by
  simp only [RegimeEngine.evaluateTransition] at h
  split_ifs at h with hsame hconf hage hcand hcount
  · cases h
  · exact ⟨hsame, .inl hconf⟩
  · cases h
  · cases h
  · cases h
  · exact ⟨hsame, .inr ⟨not_lt.mp hage, not_not.mp hcand, not_lt.mp hcount⟩⟩

/-- A candle starts the engine, changes its regime for one of two reasons, or leaves it as it is. -/
theorem process_cases (e : RegimeEngine) (c : Candle) (ind : IndicatorFeatures) :
    let raw := classifyRaw c ind
    let e' := (e.process (some c) ind).2
    (e.enteredAt = 0 ∧ e' = e.start c raw) ∨
    (e.enteredAt ≠ 0 ∧ (∃ reason, e' = e.transition c ind raw reason) ∧
      raw.regime ≠ e.currentRegime ∧
      (e.confidence ≤ e.minConfidence ∨
        e.minHoldDuration ≤ sub c.time e.enteredAt ∧ e.candidateRegime = some raw.regime ∧
          e.confirmationCandles ≤ e.candidateCount)) ∨
    (e.enteredAt ≠ 0 ∧ e' = e.hold raw) := by
  dsimp only [RegimeEngine.process]
  by_cases h0 : e.enteredAt = 0
  · rw [if_pos h0]
    exact .inl ⟨h0, rfl⟩
  · rw [if_neg h0]
    split
    next reason _ h => exact .inr (.inl ⟨h0, ⟨reason, rfl⟩, evaluateTransition_some h⟩)
    next => exact .inr (.inr ⟨h0, rfl⟩)

/-- The features report the engine's confidence. -/
theorem report_confidence (s : History) (i : Input) :
    (s.report i).confidence = (step s i).engine.confidence := by
  simp only [History.report, step, RegimeEngine.process]
  split
  · rfl
  · split <;> simp only [RegimeEngine.report] <;> split <;> rfl

/-! ## The invariant -/

/-- What `NewRegimeEngine` sets once: the hold time, the confirmations, the decay and the floor. -/
def RegimeEngine.settings (e : RegimeEngine) : Duration × ℤ × Float64 × Float64 :=
  (e.minHoldDuration, e.confirmationCandles, e.confidenceDecayRate, e.minConfidence)

/-- What the engine's counters say about the candles before. The confidence is 0.4 at least whenever
the raw regime is the engine's, so `m` candles in a row with another one have left
`0.4 * 0.92 ^ m` of it. -/
structure Inv (s : History) : Prop where
  settings : s.engine.settings = newRegimeEngine.settings
  confidence : 25 / 100 ≤ s.engine.confidence ∧ s.engine.confidence ≤ 8 / 10
  candidate : s.engine.candidateCount ≤ s.inputs.length ∧
    ∀ j ∈ s.inputs.take s.engine.candidateCount, s.engine.candidateRegime = some j.raw.regime
  decay : ∃ m, m ≤ s.inputs.length ∧
    (∀ j ∈ s.inputs.take m, j.raw.regime ≠ s.engine.currentRegime) ∧
      4 / 10 * (92 / 100) ^ m ≤ s.engine.confidence
  notStarted : s.engine.enteredAt = 0 → s.engine.candidateCount = 0
  empty : s.inputs = [] → s.engine.enteredAt = 0
  since : s.inputs ≠ [] → (s.engine.enteredAt = 0 → s.since = 0) ∧ s.since ≤ s.engine.enteredAt ∧
    ∃ j ∈ s.inputs, j.candle.time = s.engine.enteredAt

/-- The engine before any bar. -/
theorem inv_init : Inv {} where
  settings := rfl
  confidence := by norm_num [newRegimeEngine]
  candidate := ⟨Nat.zero_le _, fun _ hj => nomatch hj⟩
  decay := ⟨0, Nat.zero_le _, (fun _ hj => nomatch hj), by norm_num [newRegimeEngine]⟩
  notStarted := fun _ => rfl
  empty := fun _ => rfl
  since := fun h => absurd rfl h

variable {s : History} {i : Input}

theorem Inv.minHold (hs : Inv s) : s.engine.minHoldDuration = 5 * minute :=
  congrArg Prod.fst hs.settings

theorem Inv.confirmations (hs : Inv s) : s.engine.confirmationCandles = 3 :=
  congrArg (·.2.1) hs.settings

theorem Inv.decayRate (hs : Inv s) : s.engine.confidenceDecayRate = 92 / 100 :=
  congrArg (·.2.2.1) hs.settings

theorem Inv.minConfidence (hs : Inv s) : s.engine.minConfidence = 25 / 100 :=
  congrArg (·.2.2.2) hs.settings

/-- A difference that reaches a duration is a difference of the times themselves. -/
theorem le_of_le_sub {t u d : ℤ} (hd : -2 ^ 63 < d) (h : d ≤ sub t u) : d ≤ t - u := by
  rcases le_max_iff.mp h with h | h
  · exact absurd hd (not_lt.mpr h)
  · exact (le_min_iff.mp h).2

/-- A regime is entered, or kept from a start at the zero time: the counters begin anew. -/
theorem Inv.enter (hs : Inv s) (hset : (step s i).engine.settings = s.engine.settings)
    (hconf : (step s i).engine.confidence = i.raw.confidence)
    (hcount : (step s i).engine.candidateCount = 0)
    (hat : (step s i).engine.enteredAt = i.candle.time)
    (hsince : (step s i).since = i.candle.time ∨ (step s i).since = 0 ∧ 0 ≤ i.candle.time) :
    Inv (step s i) := by
  have hraw := classifyRaw_confidence i.candle i.ind
  constructor
  case settings => exact hset.trans hs.settings
  case confidence =>
    rw [hconf]
    exact ⟨le_trans (by norm_num) hraw.1, hraw.2⟩
  case candidate =>
    rw [hcount]
    exact ⟨Nat.zero_le _, fun _ hj => nomatch hj⟩
  case decay =>
    refine ⟨0, Nat.zero_le _, (fun _ hj => nomatch hj), ?_⟩
    rw [hconf, pow_zero, mul_one]
    exact hraw.1
  case notStarted => exact fun _ => hcount
  case empty => exact fun h => absurd h (List.cons_ne_nil i s.inputs)
  case since =>
    intro _
    rw [hat]
    rcases hsince with h | ⟨h, h0⟩
    · rw [h]
      exact ⟨fun h => h, le_refl _, i, List.mem_cons_self, rfl⟩
    · rw [h]
      exact ⟨fun _ => rfl, h0, i, List.mem_cons_self, rfl⟩

/-- The engine starts: no time is on file, and the candle's is put there. -/
theorem Inv.start (hs : Inv s) (hord : InOrder s i) (h0 : s.engine.enteredAt = 0)
    (he : (step s i).engine = s.engine.start i.candle i.raw) : Inv (step s i) := by
  refine hs.enter (by rw [he]; rfl) (by rw [he]; rfl) ?_ (by rw [he]; rfl) ?_
  · rw [he]
    exact hs.notStarted h0
  · by_cases hnew : s.inputs = [] ∨ (step s i).engine.currentRegime ≠ s.engine.currentRegime
    · exact .inl (if_pos hnew)
    · -- the regime is kept, and it was entered at the zero time
      obtain ⟨hzero, _, j, hj, hjt⟩ := hs.since fun h => hnew (.inl h)
      have hsince : (step s i).since = s.since := if_neg hnew
      refine .inr ⟨hsince.trans (hzero h0), ?_⟩
      rw [← h0, ← hjt]
      exact hord j hj

/-- The engine goes over to another regime. -/
theorem Inv.transition (hs : Inv s) {reason : String}
    (he : (step s i).engine = s.engine.transition i.candle i.ind i.raw reason)
    (hne : i.raw.regime ≠ s.engine.currentRegime) : Inv (step s i) := by
  refine hs.enter (by rw [he]; rfl) (by rw [he]; rfl) (by rw [he]; rfl) (by rw [he]; rfl) ?_
  refine .inl (if_pos (.inr ?_))
  show (step s i).engine.currentRegime ≠ s.engine.currentRegime
  rw [he]
  exact hne

/-- What `hold` leaves alone. -/
theorem hold_frame (e : RegimeEngine) (raw : Raw) :
    (e.hold raw).currentRegime = e.currentRegime ∧ (e.hold raw).enteredAt = e.enteredAt ∧
      (e.hold raw).settings = e.settings := by
  unfold RegimeEngine.hold
  dsimp only
  split_ifs <;> exact ⟨rfl, rfl, rfl⟩

theorem hold_confidence (e : RegimeEngine) (raw : Raw) :
    (e.hold raw).confidence =
      if raw.regime = e.currentRegime then max e.confidence raw.confidence
      else max e.minConfidence (e.confidence * e.confidenceDecayRate) := by
  unfold RegimeEngine.hold
  dsimp only
  split_ifs with hsame hlt hcand hdec hdec
  · exact (max_eq_right hlt.le).symm
  · exact (max_eq_left (not_lt.mp hlt)).symm
  · exact (max_eq_left hdec.le).symm
  · exact (max_eq_right (not_lt.mp hdec)).symm
  · exact (max_eq_left hdec.le).symm
  · exact (max_eq_right (not_lt.mp hdec)).symm

/-- A candidate is counted one further, or from one, or there is none. -/
theorem hold_candidate (e : RegimeEngine) (raw : Raw) :
    (e.hold raw).candidateCount = 0 ∨
    (e.hold raw).candidateRegime = some raw.regime ∧
      ((e.hold raw).candidateCount = 1 ∨
        e.candidateRegime = some raw.regime ∧
          (e.hold raw).candidateCount = e.candidateCount + 1) := by
  unfold RegimeEngine.hold
  -- the engine's own regime is never a candidate
  by_cases hsame : raw.regime = e.currentRegime
  · rw [if_pos hsame]
    exact .inl rfl
  rw [if_neg hsame]
  dsimp only
  by_cases hcand : e.candidateRegime = some raw.regime
  · rw [if_neg (not_not.mpr hcand)]
    exact .inr ⟨hcand, .inr ⟨hcand, rfl⟩⟩
  · rw [if_pos hcand]
    exact .inr ⟨rfl, .inl rfl⟩

/-- The engine stays in its regime. -/
theorem Inv.hold (hs : Inv s) (h0 : s.engine.enteredAt ≠ 0)
    (he : (step s i).engine = s.engine.hold i.raw) : Inv (step s i) := by
  have hraw := classifyRaw_confidence i.candle i.ind
  obtain ⟨hcur, hat, hset⟩ := hold_frame s.engine i.raw
  have hnonempty : s.inputs ≠ [] := fun h => h0 (hs.empty h)
  have hinputs : (step s i).inputs = i :: s.inputs := rfl
  obtain ⟨hfloor, hceil⟩ := hs.confidence
  constructor
  all_goals rw [he]
  case settings => exact hset.trans hs.settings
  case confidence =>
    -- the ceiling: a confidence of 0.8 at most, times 0.92, stays below it
    rw [hold_confidence, hs.minConfidence, hs.decayRate]
    split_ifs
    · exact ⟨le_max_of_le_left hfloor, max_le hceil hraw.2⟩
    · exact ⟨le_max_left _ _, max_le (by norm_num) (by linarith)⟩
  case candidate =>
    obtain ⟨hlen, hall⟩ := hs.candidate
    rw [hinputs, List.length_cons]
    -- no candidate, a new one, or the one before counted one further
    rcases hold_candidate s.engine i.raw with hz | ⟨hc, h1 | ⟨hcand, hnext⟩⟩
    · rw [hz]
      exact ⟨Nat.zero_le _, fun _ hj => nomatch hj⟩
    · rw [h1, hc]
      refine ⟨Nat.le_add_left 1 _, fun j hj => ?_⟩
      rw [List.take_one, List.head?_cons] at hj
      rw [List.mem_singleton.mp hj]
    · rw [hnext, hc]
      refine ⟨Nat.succ_le_succ hlen, fun j hj => ?_⟩
      rw [List.take_succ_cons] at hj
      rcases List.mem_cons.mp hj with rfl | hj
      · rfl
      · rw [← hcand]
        exact hall j hj
  case decay =>
    obtain ⟨m, hm, hne, hle⟩ := hs.decay
    -- a candle with the engine's regime starts the count of decays anew, any other adds one
    rw [hold_confidence, hcur, hinputs, hs.minConfidence, hs.decayRate]
    split_ifs with hsame
    · refine ⟨0, Nat.zero_le _, (fun _ hj => nomatch hj), ?_⟩
      rw [pow_zero, mul_one]
      exact le_max_of_le_right hraw.1
    · refine ⟨m + 1, Nat.succ_le_succ hm, fun j hj => ?_, ?_⟩
      · rw [List.take_succ_cons] at hj
        rcases List.mem_cons.mp hj with rfl | hj
        · exact hsame
        · exact hne j hj
      · refine le_max_of_le_right ?_
        rw [pow_succ, ← mul_assoc]
        exact mul_le_mul_of_nonneg_right hle (by norm_num)
  case notStarted =>
    rw [hat]
    exact fun h => absurd h h0
  case empty => exact fun h => absurd h (List.cons_ne_nil i s.inputs)
  case since =>
    intro _
    have hkept : (step s i).engine.currentRegime = s.engine.currentRegime := by rw [he, hcur]
    have hsince : (step s i).since = s.since :=
      if_neg fun h => h.elim hnonempty fun h => h hkept
    obtain ⟨_, hle, j, hj, hjt⟩ := hs.since hnonempty
    rw [hat, hsince]
    exact ⟨fun h => absurd h h0, hle, j, List.mem_cons_of_mem i hj, hjt⟩

/-- **Step.** The engine goes on telling its bars. -/
theorem inv_step (hs : Inv s) (hord : InOrder s i) : Inv (step s i) := by
  -- the three ways of `process`: a first candle, a transition, a candle that is held
  rcases process_cases s.engine i.candle i.ind with ⟨h0, he⟩ | ⟨_, ⟨_, he⟩, hne, _⟩ | ⟨h0, he⟩
  · exact hs.start hord h0 he
  · exact hs.transition he hne
  · exact hs.hold h0 he

/-! ## Hysteresis -/

/-- Five candles do not bring the confidence to the floor. -/
theorem six_le_of_decayed {m : ℕ} (h : (4 : ℚ) / 10 * (92 / 100) ^ m ≤ 25 / 100) : 6 ≤ m := by
  by_contra hm
  have hpow : ((92 : ℚ) / 100) ^ 5 ≤ (92 / 100) ^ m :=
    pow_le_pow_of_le_one (by norm_num) (by norm_num) (by omega)
  norm_num at hpow h
  linarith

/-- The count of the candidate is a count of candles. -/
theorem Inv.confirmed (hs : Inv s) (hne : s.inputs ≠ [])
    (hage : s.engine.minHoldDuration ≤ sub i.candle.time s.engine.enteredAt)
    (hcand : s.engine.candidateRegime = some i.raw.regime)
    (hcount : s.engine.confirmationCandles ≤ s.engine.candidateCount) : Confirmed s i := by
  rw [hs.confirmations] at hcount
  have h3 : 3 ≤ s.engine.candidateCount := by exact_mod_cast hcount
  obtain ⟨hlen, hall⟩ := hs.candidate
  constructor
  · rw [hs.minHold] at hage ⊢
    have hsince := (hs.since hne).2.1
    have hdiff := le_of_le_sub (by norm_num [minute]) hage
    exact hdiff.trans (Int.sub_le_sub_left hsince _)
  · refine List.eq_replicate_iff.mpr ⟨by simp; omega, fun r hr => ?_⟩
    obtain ⟨j, hj, rfl⟩ := List.mem_map.mp hr
    have hj' : j ∈ s.inputs.take s.engine.candidateCount := List.take_subset_take_left _ h3 hj
    have hsome := hall j hj'
    rw [hcand] at hsome
    exact (Option.some.inj hsome).symm

/-- The confidence at the floor is six candles with another raw regime. -/
theorem Inv.contradicted (hs : Inv s) (hconf : s.engine.confidence ≤ s.engine.minConfidence) :
    Contradicted s := by
  obtain ⟨m, hm, hne, hle⟩ := hs.decay
  rw [hs.minConfidence] at hconf
  have h6 : 6 ≤ m := six_le_of_decayed (hle.trans hconf)
  exact ⟨h6.trans hm, fun j hj => hne j (List.take_subset_take_left _ h6 hj)⟩

theorem Inv.hysteresis (hs : Inv s) : Hysteresis s i := by
  intro hne hchange
  rcases process_cases s.engine i.candle i.ind with ⟨h0, he⟩ | ⟨_, ⟨_, he⟩, _, hwhy⟩ | ⟨_, he⟩
  · have hregime : (step s i).engine.currentRegime = i.raw.regime := congrArg (·.currentRegime) he
    exact ⟨hregime, .inr (.inr ((hs.since hne).1 h0))⟩
  · have hregime : (step s i).engine.currentRegime = i.raw.regime := congrArg (·.currentRegime) he
    refine ⟨hregime, ?_⟩
    rcases hwhy with hconf | ⟨hage, hcand, hcount⟩
    · exact .inr (.inl (hs.contradicted hconf))
    · exact .inl (hs.confirmed hne hage hcand hcount)
  · refine absurd ?_ hchange
    have hkept : (step s i).engine.currentRegime = _ := congrArg (·.currentRegime) he
    rw [hkept]
    exact (hold_frame s.engine i.raw).1

theorem Inv.inRange (hs : Inv s) (hs' : Inv (step s i)) : InRange s i := by
  unfold InRange
  rw [report_confidence, hs.minConfidence]
  exact hs'.confidence

/-- **The regime has hysteresis.** Over candles whose times do not decrease, each change of the regime
after the first candle has its age and three candles behind it, or six candles, or the regime before
was entered at the zero time. -/
theorem hysteretic (is : List Input)
    (h : is.Pairwise fun i j => i.candle.time ≤ j.candle.time) :
    Along step (fun s i => Hysteresis s i ∧ InRange s i) {} is := by
  -- the induction is on the candles, from any state with the invariant and no later candle on file
  suffices hrun : ∀ s, Inv s → (∀ i ∈ is, InOrder s i) →
      Along step (fun s i => Hysteresis s i ∧ InRange s i) s is from
    hrun {} inv_init fun _ _ _ hj => nomatch hj
  induction is with
  | nil => exact fun _ _ _ => trivial
  | cons i is ih =>
      intro s hs hord
      obtain ⟨hfirst, hrest⟩ := List.pairwise_cons.mp h
      have hs' : Inv (step s i) := inv_step hs (hord i List.mem_cons_self)
      refine ⟨⟨hs.hysteresis, hs.inRange hs'⟩, ih hrest (step s i) hs' fun k hk j hj => ?_⟩
      rcases List.mem_cons.mp hj with rfl | hj
      · exact hfirst k hk
      · exact hord k (List.mem_cons_of_mem i hk) j hj

/-- A candle with no trend, and one with a strong one. -/
def quiet (time : Time) : Input := ⟨⟨time, 2400⟩, {}⟩

/-- A bar of a strong uptrend. -/
def rising (time : Time) : Input :=
  ⟨⟨time, 2400⟩, { ema9 := 2403, ema21 := 2402, ema50 := 2401, adx := 30, rsi := 60, atr := 2 }⟩

/-- Five bars of a strong uptrend. -/
theorem hysteretic_rising :
    Along step (fun s i => Hysteresis s i ∧ InRange s i) {}
      [quiet 1, rising (6 * minute), rising (7 * minute), rising (8 * minute), rising (9 * minute)] :=
  hysteretic _ (by decide)

/-- At the zero time the second candle changes the regime like the first. -/
theorem changes_at_once :
    let s := run step {} [quiet 0]
    [quiet 0, rising 0].Pairwise (fun i j => i.candle.time ≤ j.candle.time) ∧
      s.inputs ≠ [] ∧ Changes s (rising 0) ∧ ¬ Confirmed s (rising 0) ∧ ¬ Contradicted s := by
  unfold Changes Confirmed Contradicted
  decide +kernel

end PredictATrade.Realtime.Regimes
