import PredictATrade.Research.Lookahead

/-!
# `Research.FilterContribution` — the report about the risk gates

With `filter_contribution_enabled`, `run` follows every signal that a gate has stopped in a portfolio of its
own, as if the gate had let it pass. The pass is modelled as it is written, over the engine that it shares
with the run: it draws from the generator and leaves everything else alone (`analyze_engine`), so what the
run returns would not depend on it.

It is the assignment of its outcome that fails: `result` is not bound in `run`. `reporting_neutral_iff` says
that the flag makes no difference exactly where `run` returns before it comes to the report.
-/

namespace PredictATrade.Research
open Lib.Runs

/-! ## The signals that were stopped -/

/-- What `blocked_signals` keeps of a signal. -/
structure BlockedSignal where
  idx : ℕ
  reason : BlockReason
  signal : SignalEvent
  deriving DecidableEq, Repr

/-- The signals of a run that a gate has stopped, with the index of their bar. -/
def blockedSignals (reports : List Report) : List BlockedSignal :=
  reports.zipIdx.filterMap fun (report, idx) =>
    match report.decision, report.signal with
    | .gated reason, some signal => some ⟨idx, reason, signal⟩
    | _, _ => none

/-- What `open_position` takes of it: neither its confidence nor its grade. -/
def BlockedSignal.terms (b : BlockedSignal) : Terms :=
  { b.signal.terms with confidence := 0, setupGrade := "" }

/-! ## One signal, followed -/

/-- The bars after the entry, up to the first that closes the position. -/
def replayUntilExit (atr : ℚ) : Portfolio → List HistoricalCandle → Portfolio
  | p, [] => p
  | p, candle :: candles =>
    match p.updatePositions candle atr with
    | (p, []) => replayUntilExit atr p candles
    | (p, _ :: _) => p

/-- `max_holding_bars` is left at its default. -/
def BacktestConfig.shadowConfig (config : BacktestConfig) (contractSize : ℚ) : ExitConfig :=
  { config.exitConfig with contractSize, maxHoldingBars := 0 }

/-- The net result of the trade that the fill leads to. -/
def shadowTrade (config : BacktestConfig) (contractSize : ℚ) (candles : List HistoricalCandle)
    (atr : ℚ) (b : BlockedSignal) (fill : FillEvent) : ℚ :=
  let opened := (Portfolio.new config.initialBalance (config.shadowConfig contractSize)).openPosition 0
    fill b.terms
  let p := replayUntilExit atr opened (candles.drop (b.idx + 1))
  let p := match candles.getLast? with
    | some last => if p.positions = [] then p else (p.closeAllPositions last).1
    | none => p
  match p.closedTrades.getLast? with
  | some t => t.pnl
  | none => 0

/-! ## The pass -/

/-- What is counted for a gate. `gross_pnl` is never added to. -/
structure Contribution where
  removed : ℕ := 0
  netPnl : ℚ := 0
  grossPnl : ℚ := 0
  wins : ℕ := 0
  deriving DecidableEq, Repr

/-- One more signal that the gate has removed. -/
def Contribution.add (c : Contribution) (net : ℚ) : Contribution :=
  { c with
    removed := c.removed + 1
    netPnl := c.netPnl + net
    wins := if net > 0 then c.wins + 1 else c.wins }

/-- The gates in the order in which they first count, as the dictionary has them. -/
abbrev Contributions := List (BlockReason × Contribution)

/-- `setdefault`, and what is added to the entry. -/
def Contributions.count (contrib : Contributions) (reason : BlockReason) (net : ℚ) : Contributions :=
  if contrib.any (·.1 == reason) then
    contrib.map fun entry => if entry.1 = reason then (entry.1, entry.2.add net) else entry
  else contrib ++ [(reason, Contribution.add {} net)]

section
variable (config : BacktestConfig) (contractSize : ℚ) (rng : Draws) (candles : List HistoricalCandle)

/-- The order for a signal that was stopped. -/
def BlockedSignal.order (b : BlockedSignal) (entryCandle : HistoricalCandle) : OrderEvent where
  timestamp := entryCandle.timestamp
  direction := b.signal.direction
  size := 1 / 100
  stopLoss := b.signal.stopLoss
  takeProfit := b.signal.tp1
  signalId := b.signal.strategyId

/-- One round of the loop of `_analyze_filter_contribution`. -/
def analyzeStep (s : Contributions × Engine) (b : BlockedSignal) : Contributions × Engine :=
  let (contrib, e) := s
  if b.signal.direction = .buy ∨ b.signal.direction = .sell then
    match candles[b.idx]? with
    | none => (contrib, e)
    | some entryCandle =>
      let atr := e.getCurrentAtr
      let (fill, drawn) :=
        config.executionConfig.execute entryCandle rng e.drawn (b.order entryCandle) atr
      let e := { e with drawn }
      if fill.fillStatus = .rejected then (contrib, e)
      else (contrib.count b.reason (shadowTrade config contractSize candles atr b fill), e)
  else (contrib, e)

/-- `_analyze_filter_contribution`, over the engine of the run. -/
def analyzeFilterContribution (e : Engine) (blocked : List BlockedSignal) : Contributions × Engine :=
  blocked.foldl (analyzeStep config contractSize rng candles) ([], e)

/-! ## What the pass leaves alone -/

/-- A signal takes draws and changes nothing else. -/
theorem analyzeStep_engine (s : Contributions × Engine) (b : BlockedSignal) :
    ∃ drawn, (analyzeStep config contractSize rng candles s b).2 = { s.2 with drawn } := by
  obtain ⟨contrib, e⟩ := s
  unfold analyzeStep
  dsimp only
  split
  · split
    · exact ⟨e.drawn, rfl⟩
    · split <;> exact ⟨_, rfl⟩
  · exact ⟨e.drawn, rfl⟩

/-- **The pass takes draws and changes nothing else**: the portfolio, the curve and the counters that the
result is built from are those of the run. -/
theorem analyze_engine (e : Engine) (blocked : List BlockedSignal) :
    ∃ drawn, (analyzeFilterContribution config contractSize rng candles e blocked).2 =
      { e with drawn } := by
  have hfold : ∀ s : Contributions × Engine, ∃ drawn,
      (blocked.foldl (analyzeStep config contractSize rng candles) s).2 = { s.2 with drawn } := by
    induction blocked with
    | nil => exact fun s => ⟨s.2.drawn, rfl⟩
    | cons b blocked ih =>
      intro s
      obtain ⟨drawn, hstep⟩ := analyzeStep_engine config contractSize rng candles s b
      obtain ⟨drawn', hrest⟩ := ih (analyzeStep config contractSize rng candles s b)
      refine ⟨drawn', ?_⟩
      rw [List.foldl_cons, hrest, hstep]
  exact hfold ([], e)

end

/-! ## The run -/

section
variable {M : Type} (calculateMetrics : List TradeRecord → List EquityPoint → ℚ → M)
variable (config : BacktestConfig) (rng : Draws) (strategy : Option Strategy)
variable (candles : List HistoricalCandle) (higherTfData : HigherTfData)

/-- The metrics of a result, which `run` computes from the trades and the curve where it gets that far. -/
def BacktestRunResult.metrics (r : BacktestRunResult) : Option M :=
  if r.status = .completed then some (calculateMetrics r.trades r.equityCurve config.initialBalance)
  else none

/-- The run with the report and the one without come to the same trades, curve, metrics and counters. -/
def ReportingNeutral : Prop :=
  ∃ r r',
    (backtest { config with filterContributionEnabled := true } rng strategy candles
      higherTfData).result = .ok r ∧
    (backtest { config with filterContributionEnabled := false } rng strategy candles
      higherTfData).result = .ok r' ∧
    r = r' ∧ r.metrics calculateMetrics config = r'.metrics calculateMetrics config

/-- What the alignment makes of any data passes its own check. -/
theorem alignments_verified (h : higherTfData ≠ []) :
    verifyNoLookahead (alignments config candles higherTfData) = true := by
  unfold alignments
  rw [if_neg h]
  exact align_verified _ _ _

/-- A run without the report completes. -/
theorem backtest_plain : ∃ r, (backtest { config with filterContributionEnabled := false } rng strategy
    candles higherTfData).result = .ok r := by
  unfold backtest
  split
  · exact ⟨_, rfl⟩
  · dsimp only
    split <;> exact ⟨_, rfl⟩

/-- One with the report returns only where the data is refused. -/
theorem backtest_reporting :
    (backtest { config with filterContributionEnabled := true } rng strategy candles
        higherTfData).result =
      if (validate config.minQualityScore candles config.primaryTimeframe).passed then
        .error .nameError
      else .ok { status := .dataQualityFailed } := by
  unfold backtest
  cases hpassed : (validate config.minQualityScore candles config.primaryTimeframe).passed with
  | false => simp only [Bool.not_false, if_true, Bool.false_eq_true, if_false]
  | true =>
    have hverified : ¬ (higherTfData ≠ [] ∧
        (!verifyNoLookahead (alignments config candles higherTfData)) = true) := by
      rintro ⟨hdata, hnot⟩
      rw [alignments_verified config candles higherTfData hdata] at hnot
      cases hnot
    simp only [Bool.not_true, Bool.false_eq_true, if_false, if_true]
    rw [show alignments { config with filterContributionEnabled := true } candles higherTfData =
      alignments config candles higherTfData from rfl, if_neg hverified]

/-- **Reporting does not change the run** exactly where the candles do not pass the data quality check,
so that there is no run to report on. -/
theorem reporting_neutral_iff :
    ReportingNeutral calculateMetrics config rng strategy candles higherTfData ↔
      (validate config.minQualityScore candles config.primaryTimeframe).passed = false := by
  constructor
  · rintro ⟨r, r', hreporting, -⟩
    rw [backtest_reporting] at hreporting
    cases hpassed : (validate config.minQualityScore candles config.primaryTimeframe).passed with
    | false => rfl
    | true =>
      rw [hpassed, if_pos rfl] at hreporting
      cases hreporting
  · intro hrefused
    refine ⟨{ status := .dataQualityFailed }, _, ?_, ?_, rfl, rfl⟩
    · rw [backtest_reporting, hrefused]
      rfl
    · unfold backtest
      simp only [hrefused, Bool.not_false, if_true]

end

/-- Two clean bars and no strategy: with the report there is no result. -/
theorem reporting_fails :
    ¬ ReportingNeutral (fun _ _ _ => ()) {} (fun _ => 0) none (secondRange 1) [] := by
  rintro ⟨r, r', hreporting, -⟩
  have herror : (backtest { filterContributionEnabled := true } (fun _ => 0) none (secondRange 1)
      []).result = .error .nameError := by decide +kernel
  rw [herror] at hreporting
  cases hreporting

end PredictATrade.Research
