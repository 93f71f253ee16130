import Mathlib.Algebra.Order.BigOperators.Group.List
import Mathlib.Algebra.Order.Field.Basic
import Mathlib.Tactic.Linarith
import Mathlib.Tactic.NormNum
import PredictATrade.Research.Engine

/-!
# `Research.Lookahead` — what a bar depends on

The alignments, the portfolio and the draws at a bar come from the bars up to it. The average true range
does not: `_init_atr` fills its history from the first fifteen candles before the loop starts, so until the
fourteenth bar it has ranges of bars that are still to come.

`no_lookahead_iff` says what this amounts to. Two lists that agree up to a bar are treated alike up to
there, by every configuration and strategy, exactly if the average true range is the same at all these bars.
-/

namespace PredictATrade.Research
open Lib.Runs

/-! ## The average true range on its own -/

/-- The average true range with which a run over these candles gets to bar `j`. -/
def atrAt (candles : List HistoricalCandle) (j : ℕ) : ℚ :=
  ((candles.take j).foldl Engine.updateAtr (Engine.start {} candles)).getCurrentAtr

namespace Engine
variable (config : BacktestConfig) (rng : Draws) {e : Engine} {h : List ℚ} (candle : HistoricalCandle)

/-- The engine with another history of ranges. -/
def withAtr (e : Engine) (h : List ℚ) : Engine := { e with atrHistory := h }

/-- A step of the loop. -/
abbrev next (config : BacktestConfig) (rng : Draws) (e : Engine) (b : Bar) : Engine :=
  (e.bar config rng b).1

/-! ## Parts of a bar that leave the ranges alone -/

/-- The two engines have the same ranges. -/
structure SameAtr (e e' : Engine) : Prop where
  atrHistory : e'.atrHistory = e.atrHistory
  prevClose : e'.prevClose = e.prevClose

theorem SameAtr.refl (e : Engine) : SameAtr e e := ⟨rfl, rfl⟩

theorem SameAtr.trans {e₁ e₂ e₃ : Engine} (h : SameAtr e₁ e₂) (h' : SameAtr e₂ e₃) : SameAtr e₁ e₃ :=
  ⟨h'.atrHistory.trans h.atrHistory, h'.prevClose.trans h.prevClose⟩

theorem SameAtr.getCurrentAtr {e e' : Engine} (h : SameAtr e e') :
    e'.getCurrentAtr = e.getCurrentAtr := by
  unfold Engine.getCurrentAtr
  rw [h.atrHistory]

theorem SameAtr.updateAtr {e e' : Engine} (h : SameAtr e e') (candle : HistoricalCandle) :
    SameAtr (e.updateAtr candle) (e'.updateAtr candle) := by
  unfold Engine.updateAtr
  rw [h.atrHistory, h.prevClose]
  exact ⟨rfl, rfl⟩

theorem checkTradingDay_sameAtr (ts : Datetime) : SameAtr e (e.checkTradingDay ts) := by
  unfold checkTradingDay
  split
  · exact ⟨rfl, rfl⟩
  · split <;> exact ⟨rfl, rfl⟩

theorem processExits_sameAtr (exits : List ExitEvent) : SameAtr e (exits.foldl processExit e) := by
  induction exits generalizing e with
  | nil => exact .refl e
  | cons exit exits ih =>
      have hfirst : SameAtr e (e.processExit exit) := ⟨rfl, rfl⟩
      exact hfirst.trans ih

theorem updateExits_sameAtr : SameAtr e (e.updateExits candle).1 := by
  have hday : SameAtr e (e.checkTradingDay candle.timestamp) := checkTradingDay_sameAtr _
  show SameAtr e (List.foldl processExit { e.checkTradingDay candle.timestamp with portfolio := _ } _)
  refine hday.trans (SameAtr.trans ?_ (processExits_sameAtr _))
  exact ⟨rfl, rfl⟩

theorem enterRecovery_sameAtr : SameAtr e (e.enterRecovery config) := ⟨rfl, rfl⟩

theorem checkRiskGates_sameAtr (signal : SignalEvent) :
    SameAtr e (e.checkRiskGates config signal candle).1 := by
  unfold checkRiskGates
  split
  · exact .refl e
  · split
    · exact .refl e
    · exact enterRecovery_sameAtr config

theorem enter_sameAtr (signal : SignalEvent) : SameAtr e (e.enter config rng candle signal).1 := by
  have hgates : SameAtr e (e.checkRiskGates config signal candle).1 :=
    checkRiskGates_sameAtr config candle signal
  unfold enter
  split
  · next heq =>
      rw [heq] at hgates
      exact hgates.trans ⟨rfl, rfl⟩
  · next heq =>
      rw [heq] at hgates
      exact hgates.trans ⟨rfl, rfl⟩

theorem act_sameAtr (signal : Option SignalEvent) : SameAtr e (e.act config rng candle signal).1 := by
  unfold act
  split
  · exact .refl e
  · split
    · exact enter_sameAtr config rng candle _
    · exact enter_sameAtr config rng candle _
    · exact ⟨rfl, rfl⟩
    · exact ⟨rfl, rfl⟩
    · exact .refl e

/-- The ranges behind a bar, in terms of those before it. -/
theorem bar_sameAtr (b : Bar) : SameAtr (e.updateAtr b.candle) (e.next config rng b) := by
  have hexits : SameAtr e (e.updateExits b.candle).1 := updateExits_sameAtr b.candle
  have hact := hexits.trans (act_sameAtr config rng b.candle
    (b.evaluate.map fun evaluate => evaluate (e.updateExits b.candle).1.portfolio))
  exact hact.updateAtr b.candle

/-- **Run.** The history of ranges is that of the candles. -/
theorem run_sameAtr (bs : List Bar) :
    SameAtr ((bs.map (·.candle)).foldl Engine.updateAtr e) (run (next config rng) e bs) := by
  induction bs using List.reverseRecOn with
  | nil => exact .refl e
  | append_singleton bs b ih =>
      rw [List.map_append, List.foldl_append, run_snoc]
      exact (ih.updateAtr b.candle).trans (bar_sameAtr config rng b)

/-! ## Parts of a bar that read nothing of the ranges but their average -/

theorem checkTradingDay_withAtr (ts : Datetime) :
    (e.withAtr h).checkTradingDay ts = (e.checkTradingDay ts).withAtr h := by
  unfold checkTradingDay
  cases hday : e.currentTradingDay with
  | none => simp [withAtr, hday]
  | some day => by_cases hnew : date ts = day <;> simp [withAtr, hday, hnew]

theorem processExits_withAtr (exits : List ExitEvent) :
    exits.foldl processExit (e.withAtr h) = (exits.foldl processExit e).withAtr h := by
  induction exits generalizing e with
  | nil => rfl
  | cons exit exits ih => exact ih (e := e.processExit exit)

theorem updateExits_withAtr (hcur : (e.withAtr h).getCurrentAtr = e.getCurrentAtr) :
    (e.withAtr h).updateExits candle =
      ((e.updateExits candle).1.withAtr h, (e.updateExits candle).2) := by
  have hday : (e.checkTradingDay candle.timestamp).getCurrentAtr = e.getCurrentAtr :=
    (checkTradingDay_sameAtr _).getCurrentAtr
  have hatr : ((e.checkTradingDay candle.timestamp).withAtr h).getCurrentAtr =
      (e.checkTradingDay candle.timestamp).getCurrentAtr := hcur.trans hday.symm
  simp only [updateExits, checkTradingDay_withAtr, hatr]
  generalize e.checkTradingDay candle.timestamp = d
  exact Prod.ext (processExits_withAtr (e := { d with
    portfolio := (d.portfolio.updatePositions candle d.getCurrentAtr).1 }) (h := h) _) rfl

theorem enterRecovery_withAtr :
    (e.withAtr h).enterRecovery config = (e.enterRecovery config).withAtr h := rfl

theorem furtherGates_withAtr (hcur : (e.withAtr h).getCurrentAtr = e.getCurrentAtr)
    (signal : SignalEvent) :
    (e.withAtr h).furtherGates config signal candle = e.furtherGates config signal candle := by
  simp only [furtherGates, hcur]
  rfl

theorem checkRiskGates_withAtr (hcur : (e.withAtr h).getCurrentAtr = e.getCurrentAtr)
    (signal : SignalEvent) :
    (e.withAtr h).checkRiskGates config signal candle =
      ((e.checkRiskGates config signal candle).1.withAtr h,
        (e.checkRiskGates config signal candle).2) := by
  have hfurther := furtherGates_withAtr config candle (e := e.enterRecovery config) (h := h) hcur signal
  have hmode : (e.withAtr h).recoveryMode = e.recoveryMode := rfl
  have hdaily : (e.withAtr h).dailyPnlPercent = e.dailyPnlPercent := rfl
  simp only [checkRiskGates, enterRecovery_withAtr, hfurther, hmode, hdaily]
  generalize (if e.recoveryMode then recoveryCheck signal else none : Option BlockReason) = reason
  cases reason with
  | some reason => rfl
  | none =>
      dsimp only
      split <;> rfl

theorem placeOrder_withAtr (hcur : (e.withAtr h).getCurrentAtr = e.getCurrentAtr)
    (signal : SignalEvent) :
    (e.withAtr h).placeOrder config rng candle signal =
      ((e.placeOrder config rng candle signal).1.withAtr h,
        (e.placeOrder config rng candle signal).2) := by
  simp only [placeOrder, hcur]
  rfl

theorem enter_withAtr (hcur : (e.withAtr h).getCurrentAtr = e.getCurrentAtr) (signal : SignalEvent) :
    (e.withAtr h).enter config rng candle signal =
      ((e.enter config rng candle signal).1.withAtr h, (e.enter config rng candle signal).2) := by
  have hgates := checkRiskGates_withAtr config candle hcur signal
  have hsame : (e.checkRiskGates config signal candle).1.getCurrentAtr = e.getCurrentAtr :=
    (checkRiskGates_sameAtr config candle signal).getCurrentAtr
  unfold enter
  rw [hgates]
  generalize e.checkRiskGates config signal candle = gates at hsame
  obtain ⟨e', reason⟩ := gates
  have hatr : (e'.withAtr h).getCurrentAtr = e'.getCurrentAtr := hcur.trans hsame.symm
  cases reason with
  | some reason => rfl
  | none => exact placeOrder_withAtr config rng candle hatr signal

theorem act_withAtr (hcur : (e.withAtr h).getCurrentAtr = e.getCurrentAtr)
    (signal : Option SignalEvent) :
    (e.withAtr h).act config rng candle signal =
      ((e.act config rng candle signal).1.withAtr h, (e.act config rng candle signal).2) := by
  cases signal with
  | none => rfl
  | some signal =>
      have henter := enter_withAtr config rng candle hcur signal
      cases hdir : signal.direction <;> simp only [act, hdir]
      · exact henter
      · exact henter
      · rfl
      · rfl

/-- Two engines whose ranges have the same average show the same at a bar. -/
theorem bar_withAtr (hcur : (e.withAtr h).getCurrentAtr = e.getCurrentAtr) (b : Bar) :
    ((e.withAtr h).bar config rng b).2 = (e.bar config rng b).2 ∧
      ∃ h', (e.withAtr h).next config rng b = (e.next config rng b).withAtr h' := by
  have hexits := updateExits_withAtr b.candle hcur
  have hsame : (e.updateExits b.candle).1.getCurrentAtr = e.getCurrentAtr :=
    (updateExits_sameAtr b.candle).getCurrentAtr
  have hact := act_withAtr config rng b.candle (e := (e.updateExits b.candle).1) (h := h)
    (hcur.trans hsame.symm) (b.evaluate.map fun evaluate => evaluate (e.updateExits b.candle).1.portfolio)
  have hportfolio : ((e.updateExits b.candle).1.withAtr h).portfolio =
    (e.updateExits b.candle).1.portfolio := rfl
  constructor
  · simp only [bar, hexits, hportfolio, hact]
    rfl
  · refine ⟨((e.withAtr h).next config rng b).atrHistory, ?_⟩
    simp only [next, bar, hexits, hportfolio, hact]
    rfl

/-! ## Runs -/

/-- As long as the averages are the same, the runs differ in their ranges at most. -/
theorem run_withAtr {bs : List Bar} (hatr : ∀ k < bs.length,
      (run (next config rng) (e.withAtr h) (bs.take k)).getCurrentAtr =
        (run (next config rng) e (bs.take k)).getCurrentAtr) :
    ∃ h', run (next config rng) (e.withAtr h) bs = (run (next config rng) e bs).withAtr h' := by
  induction bs generalizing e h with
  | nil => exact ⟨h, rfl⟩
  | cons b bs ih =>
      obtain ⟨-, h', hnext⟩ := bar_withAtr config rng (hatr 0 (Nat.succ_pos _)) b
      rw [run_cons, run_cons, hnext]
      apply ih
      intro k hk
      have hlater := hatr (k + 1) (Nat.succ_lt_succ hk)
      rw [List.take_succ_cons, run_cons, run_cons, hnext] at hlater
      exact hlater

theorem foldl_sameAtr {e₁ e₂ : Engine} (hsame : SameAtr e₁ e₂) (candles : List HistoricalCandle) :
    SameAtr (candles.foldl Engine.updateAtr e₁) (candles.foldl Engine.updateAtr e₂) := by
  induction candles generalizing e₁ e₂ with
  | nil => exact hsame
  | cons c candles ih => exact ih (hsame.updateAtr c)

/-- A run gets to a bar with the average that its candles have there. -/
theorem run_atr {candles : List HistoricalCandle} {bs : List Bar} {j : ℕ}
    (hbs : bs.map (·.candle) = candles.take j) :
    (run (next config rng) (.start config candles) bs).getCurrentAtr = atrAt candles j := by
  have hstart : SameAtr (Engine.start {} candles) (.start config candles) := ⟨rfl, rfl⟩
  have hrun := run_sameAtr config rng (e := .start config candles) bs
  rw [hbs] at hrun
  exact ((foldl_sameAtr hstart (candles.take j)).trans hrun).getCurrentAtr

end Engine

/-! ## What the first bars show -/

section
variable (config : BacktestConfig) (rng : Draws) (strategy : Option Strategy)
  (candles : List HistoricalCandle) (data : HigherTfData)

theorem barsFrom_take (seen as : List TimeframeAlignment) (n : ℕ) :
    (barsFrom strategy seen as).take n = barsFrom strategy seen (as.take n) := by
  induction as generalizing seen n with
  | nil => simp [barsFrom]
  | cons a as ih =>
      cases n with
      | zero => rfl
      | succ n => rw [barsFrom, List.take_succ_cons, ih, List.take_succ_cons, barsFrom]

theorem barsFrom_candles (seen as : List TimeframeAlignment) :
    (barsFrom strategy seen as).map (·.candle) = as.map (·.primaryCandle) := by
  induction as generalizing seen with
  | nil => rfl
  | cons a as ih => rw [barsFrom, List.map_cons, ih, List.map_cons]

theorem alignments_take (n : ℕ) :
    (alignments config candles data).take n = alignments config (candles.take n) data := by
  unfold alignments align
  split <;> exact alignFrom_take _ _ 0 n candles

theorem alignments_primary :
    (alignments config candles data).map (·.primaryCandle) = candles := by
  unfold alignments align
  split <;> exact alignFrom_primary _ _ 0 candles

/-- The bars of a run over these candles. -/
def bars : List Bar := barsFrom strategy [] (alignments config candles data)

theorem bars_candles : (bars config strategy candles data).map (·.candle) = candles := by
  unfold bars
  rw [barsFrom_candles, alignments_primary]

theorem bars_take (n : ℕ) :
    (bars config strategy candles data).take n = bars config strategy (candles.take n) data := by
  unfold bars
  rw [barsFrom_take, alignments_take]

theorem bars_length : (bars config strategy candles data).length = candles.length := by
  rw [← List.length_map (f := (·.candle)), bars_candles]

variable {candles}

/-- Alignments are never found to look ahead, so a run over candles that pass gets to its loop. -/
theorem backtest_reports
    (hpass : (validate config.minQualityScore candles config.primaryTimeframe).passed) :
    (backtest config rng strategy candles data).reports =
      trace (Engine.next config rng) (fun e b => some (e.bar config rng b).2)
        (.start config candles) (bars config strategy candles data) := by
  have hverified : ¬(data ≠ [] ∧ !verifyNoLookahead (alignments config candles data)) := by
    rintro ⟨hdata, hnot⟩
    unfold alignments at hnot
    rw [if_neg hdata, align_verified] at hnot
    exact absurd hnot (by decide)
  unfold backtest
  rw [if_neg (by simpa using hpass), if_neg hverified]
  rfl

/-- What bar `j` shows. -/
theorem backtest_report {j : ℕ}
    (hpass : (validate config.minQualityScore candles config.primaryTimeframe).passed) :
    (backtest config rng strategy candles data).reports[j]? =
      (bars config strategy candles data)[j]?.map fun b =>
        ((run (Engine.next config rng) (.start config candles)
          (bars config strategy (candles.take j) data)).bar config rng b).2 := by
  rw [backtest_reports config rng strategy data hpass, trace_some_getElem?, bars_take]

end

section
variable {config : BacktestConfig} {rng : Draws} {strategy : Option Strategy}
  {c₁ c₂ : List HistoricalCandle} {data : HigherTfData} {i : ℕ}

/-- Where the average true ranges agree, the two lists are treated alike. -/
theorem reports_take_eq (hagree : c₁.take (i + 1) = c₂.take (i + 1))
    (hpass₁ : (validate config.minQualityScore c₁ config.primaryTimeframe).passed)
    (hpass₂ : (validate config.minQualityScore c₂ config.primaryTimeframe).passed)
    (hatr : ∀ j ≤ i, atrAt c₁ j = atrAt c₂ j) :
    (backtest config rng strategy c₁ data).reports.take (i + 1) =
      (backtest config rng strategy c₂ data).reports.take (i + 1) := by
  have htake : ∀ j ≤ i + 1, c₁.take j = c₂.take j := by
    intro j hj
    have h := congrArg (List.take j) hagree
    rwa [List.take_take, List.take_take, Nat.min_eq_left hj] at h
  have hbars : (bars config strategy c₁ data).take (i + 1) =
      (bars config strategy c₂ data).take (i + 1) := by
    rw [bars_take, bars_take, hagree]
  have hcur : ∀ k ≤ i, (run (Engine.next config rng) (.start config c₁)
        (bars config strategy (c₂.take k) data)).getCurrentAtr =
      (run (Engine.next config rng) (.start config c₂)
        (bars config strategy (c₂.take k) data)).getCurrentAtr := by
    intro k hk
    have hcandles := bars_candles config strategy (c₂.take k) data
    rw [Engine.run_atr config rng hcandles, hatr k hk |>.symm]
    rw [← htake k (by omega)] at hcandles ⊢
    exact Engine.run_atr config rng hcandles
  -- bar by bar: the same bar is shown by engines that differ in their ranges at most
  refine List.ext_getElem? fun j => ?_
  by_cases hj : j < i + 1
  · rw [List.getElem?_take_of_lt hj, List.getElem?_take_of_lt hj,
      backtest_report config rng strategy data hpass₁, backtest_report config rng strategy data hpass₂]
    have hbar := congrArg (·[j]?) hbars
    simp only [List.getElem?_take_of_lt hj] at hbar
    rw [hbar, htake j hj.le]
    refine congrArg (Option.map · _) (funext fun b => ?_)
    have hlength : (bars config strategy (c₂.take j) data).length ≤ j := by
      rw [bars_length, List.length_take]
      exact Nat.min_le_left _ _
    have hbefore : ∀ k < (bars config strategy (c₂.take j) data).length,
        (run (Engine.next config rng) ((Engine.start config c₂).withAtr (initAtr c₁))
            ((bars config strategy (c₂.take j) data).take k)).getCurrentAtr =
          (run (Engine.next config rng) (.start config c₂)
            ((bars config strategy (c₂.take j) data).take k)).getCurrentAtr := by
      intro k hk
      rw [bars_take, List.take_take, Nat.min_eq_left (by omega)]
      exact hcur k (by omega)
    obtain ⟨h', hrun⟩ := Engine.run_withAtr config rng hbefore
    have hbar := hcur j (by omega)
    have hstart : Engine.start config c₁ = (Engine.start config c₂).withAtr (initAtr c₁) := rfl
    rw [hstart, hrun] at hbar ⊢
    exact (Engine.bar_withAtr config rng hbar b).1
  · rw [List.getElem?_take, List.getElem?_take, if_neg hj, if_neg hj]

end

/-! ## A strategy that shows the average -/

/-- The signal that `probe` gives at its bar, and the one before it. -/
def probeSignal (direction : Direction) : SignalEvent where
  timestamp := 0
  direction
  strategyId := ""

/-- Nothing until bar `j`, and there a buy. -/
def probe (j : ℕ) : Strategy := fun seen _ =>
  probeSignal (if seen.length = j + 1 then .buy else .noTrade)

/-- The spread gate is the first one that can stop a first signal without levels. -/
structure BacktestConfig.Permissive (config : BacktestConfig) : Prop where
  maxPositions : 0 < config.maxPositions
  maxExposure : 0 < config.maxExposure
  maxConsecutiveLosses : 0 < config.maxConsecutiveLosses
  maxDailyLossPercent : 0 < config.maxDailyLossPercent

namespace Engine

/-- Nothing has been traded. -/
structure Idle (e : Engine) : Prop where
  positions : e.portfolio.positions = []
  consecutiveLosses : e.consecutiveLosses = 0
  dailyPnlPercent : e.dailyPnlPercent = 0
  recoveryMode : e.recoveryMode = false

variable {e : Engine}

theorem Idle.checkTradingDay (h : e.Idle) (ts : Datetime) : (e.checkTradingDay ts).Idle := by
  unfold Engine.checkTradingDay
  split
  · exact ⟨h.positions, h.consecutiveLosses, h.dailyPnlPercent, h.recoveryMode⟩
  · split
    · exact ⟨h.positions, h.consecutiveLosses, rfl, h.recoveryMode⟩
    · exact h

theorem Idle.updateExits (h : e.Idle) (candle : HistoricalCandle) : (e.updateExits candle).1.Idle := by
  have hday := h.checkTradingDay candle.timestamp
  unfold Engine.updateExits
  generalize e.checkTradingDay candle.timestamp = d at hday
  have hclose : d.portfolio.toClose candle d.getCurrentAtr = [] := by
    simp [Portfolio.toClose, hday.positions]
  have hadvanced : d.portfolio.advanced candle d.getCurrentAtr = [] := by
    simp [Portfolio.advanced, hday.positions]
  simp only [Portfolio.updatePositions, hclose, hadvanced, Portfolio.closeEach, List.foldl_nil]
  exact ⟨rfl, hday.consecutiveLosses, hday.dailyPnlPercent, hday.recoveryMode⟩

theorem Idle.bar (h : e.Idle) {config : BacktestConfig} {rng : Draws} {b : Bar}
    (hquiet : b.evaluate = some fun _ => probeSignal .noTrade) : (e.next config rng b).Idle := by
  have hexits := h.updateExits b.candle
  unfold Engine.next Engine.bar
  rw [hquiet]
  exact ⟨hexits.positions, hexits.consecutiveLosses, hexits.dailyPnlPercent, hexits.recoveryMode⟩

theorem Idle.furtherGates (h : e.Idle) {config : BacktestConfig} (hc : config.Permissive)
    (candle : HistoricalCandle) :
    e.furtherGates config (probeSignal .buy) candle =
      if 0 < e.getCurrentAtr ∧
          config.maxSpreadToAtr < config.executionConfig.fixedSpread / e.getCurrentAtr then
        some .highSpreadToAtr
      else if !(getSession candle.timestamp).sessionAllowed then some .sessionNotAllowed
      else none := by
  have hcount : ¬config.maxPositions ≤ e.portfolio.openPositionCount := by
    simpa [Portfolio.openPositionCount, h.positions] using hc.maxPositions
  have hexposure : ¬config.maxExposure ≤ e.portfolio.totalExposure := by
    simpa [Portfolio.totalExposure, h.positions] using hc.maxExposure
  simp [Engine.furtherGates, probeSignal, hcount, hexposure]

/-- The spread gate tells the average. -/
theorem Idle.enter_iff (h : e.Idle) {config : BacktestConfig} (hc : config.Permissive) (rng : Draws)
    {candle : HistoricalCandle} :
    (e.enter config rng candle (probeSignal .buy)).2 = .gated .highSpreadToAtr ↔
      0 < e.getCurrentAtr ∧
        config.maxSpreadToAtr < config.executionConfig.fixedSpread / e.getCurrentAtr := by
  have hentered : e.enterRecovery config = e := by
    have hnot : ¬config.maxConsecutiveLosses ≤ e.consecutiveLosses := by
      simpa [h.consecutiveLosses] using hc.maxConsecutiveLosses
    simp [Engine.enterRecovery, hnot]
  have hgates : e.checkRiskGates config (probeSignal .buy) candle =
      (e, e.furtherGates config (probeSignal .buy) candle) := by
    have hdaily : ¬e.dailyPnlPercent ≤ -config.maxDailyLossPercent := by
      simpa [h.dailyPnlPercent] using hc.maxDailyLossPercent
    simp only [Engine.checkRiskGates, h.recoveryMode, hentered]
    exact if_neg hdaily
  unfold Engine.enter
  rw [hgates, h.furtherGates hc]
  -- behind the spread gate the session may still stop the order
  split_ifs with hspread hsession
  · simp [hspread]
  · simp [hspread]
  · exact iff_of_false (by simp [placeOrder]) hspread

/-- When an engine without a position is gated. -/
theorem Idle.gated_iff (h : e.Idle) {config : BacktestConfig} (hc : config.Permissive) (rng : Draws)
    {b : Bar} (hbuy : b.evaluate = some fun _ => probeSignal .buy) :
    (e.bar config rng b).2.decision = .gated .highSpreadToAtr ↔
      0 < e.getCurrentAtr ∧
        config.maxSpreadToAtr < config.executionConfig.fixedSpread / e.getCurrentAtr := by
  have hatr : (e.updateExits b.candle).1.getCurrentAtr = e.getCurrentAtr :=
    (updateExits_sameAtr b.candle).getCurrentAtr
  have hdecision : (e.bar config rng b).2.decision =
      ((e.updateExits b.candle).1.enter config rng b.candle (probeSignal .buy)).2 := by
    unfold Engine.bar
    rw [hbuy]
    rfl
  rw [hdecision, (h.updateExits b.candle).enter_iff hc rng, hatr]

end Engine

/-! ## The probe's run -/

theorem barsFrom_getElem? (strategy : Strategy) (seen as : List TimeframeAlignment) (j : ℕ) :
    (barsFrom (some strategy) seen as)[j]? =
      as[j]?.map fun a => ⟨a.primaryCandle, some (strategy (seen ++ as.take (j + 1)))⟩ := by
  induction as generalizing seen j with
  | nil => rfl
  | cons a as ih =>
      cases j with
      | zero => simp [barsFrom]
      | succ j =>
          rw [barsFrom, List.getElem?_cons_succ, ih, List.getElem?_cons_succ, List.take_succ_cons,
            List.append_assoc]
          rfl

section
variable (config : BacktestConfig) (rng : Draws) (data : HigherTfData) {candles : List HistoricalCandle}
  {j k : ℕ}

theorem alignments_length : (alignments config candles data).length = candles.length := by
  rw [← List.length_map (f := (·.primaryCandle)), alignments_primary]

/-- What the probe answers at bar `k`. -/
theorem probe_bar (hk : k < candles.length) :
    ∃ b, (bars config (some (probe j)) candles data)[k]? = some b ∧
      b.evaluate = some fun _ => probeSignal (if k = j then .buy else .noTrade) := by
  have hlength : k < (alignments config candles data).length := by rwa [alignments_length]
  have hseen : ([] ++ (alignments config candles data).take (k + 1)).length = j + 1 ↔ k = j := by
    rw [List.nil_append, List.length_take, alignments_length]
    omega
  unfold bars
  rw [barsFrom_getElem?, List.getElem?_eq_getElem hlength]
  refine ⟨_, rfl, ?_⟩
  unfold probe
  simp only [hseen]

/-- Up to its bar the probe leaves the engine idle. -/
theorem probe_idle (hj : j ≤ candles.length) (hk : k ≤ j) :
    (run (Engine.next config rng) (.start config candles)
      ((bars config (some (probe j)) candles data).take k)).Idle := by
  induction k with
  | zero => exact ⟨rfl, rfl, rfl, rfl⟩
  | succ k ih =>
      obtain ⟨b, hb, hquiet⟩ := probe_bar config data (j := j) (k := k) (hk.trans hj)
      rw [if_neg (by omega)] at hquiet
      rw [List.take_add_one, hb, Option.toList_some, run_snoc]
      exact (ih (by omega)).bar hquiet

/-- The gate at the probe's bar. -/
theorem probe_gated_iff {config : BacktestConfig} (hc : config.Permissive) (hj : j < candles.length)
    (hpass : (validate config.minQualityScore candles config.primaryTimeframe).passed) :
    (∃ r, (backtest config rng (some (probe j)) candles data).reports[j]? = some r ∧
        r.decision = .gated .highSpreadToAtr) ↔
      0 < atrAt candles j ∧
        config.maxSpreadToAtr < config.executionConfig.fixedSpread / atrAt candles j := by
  have hidle := probe_idle config rng data hj.le le_rfl
  rw [bars_take] at hidle
  obtain ⟨b, hb, hbuy⟩ := probe_bar config data (j := j) (k := j) hj
  rw [if_pos rfl] at hbuy
  have hcandles := bars_candles config (some (probe j)) (candles.take j) data
  rw [backtest_report config rng (some (probe j)) data hpass, hb,
    ← Engine.run_atr config rng hcandles, ← hidle.gated_iff hc rng hbuy]
  simp

/-! ## The average is never negative -/

theorem trueRange_nonneg (c : HistoricalCandle) (prevClose : ℚ) : 0 ≤ trueRange c prevClose :=
  le_max_of_le_right (abs_nonneg _)

theorem updateAtr_nonneg {e : Engine} {c : HistoricalCandle} (h : ∀ x ∈ e.atrHistory, 0 ≤ x)
    (hc : c.low ≤ c.high) : ∀ x ∈ (e.updateAtr c).atrHistory, 0 ≤ x := by
  intro x hx
  rcases List.mem_append.mp (List.mem_of_mem_drop hx) with hx | hx
  · exact h x hx
  · rw [List.mem_singleton] at hx
    rw [hx]
    split
    · linarith
    · split
      · linarith
      · exact trueRange_nonneg _ _

theorem atrAt_nonneg (h : ∀ c ∈ candles, c.low ≤ c.high) (j : ℕ) : 0 ≤ atrAt candles j := by
  have hhistory : ∀ (cs : List HistoricalCandle) (e : Engine), (∀ x ∈ e.atrHistory, 0 ≤ x) →
      (∀ c ∈ cs, c.low ≤ c.high) → ∀ x ∈ (cs.foldl Engine.updateAtr e).atrHistory, 0 ≤ x := by
    intro cs
    induction cs with
    | nil => exact fun e he _ => he
    | cons c cs ih =>
        intro e he hcs
        obtain ⟨hc, hcs⟩ := List.forall_mem_cons.mp hcs
        exact ih _ (updateAtr_nonneg he hc) hcs
  have hstart : ∀ x ∈ (Engine.start {} candles).atrHistory, 0 ≤ x := by
    refine List.forall_mem_map.mpr ?_
    rintro ⟨prev, c⟩ -
    exact trueRange_nonneg c prev.close
  have hsum := hhistory (candles.take j) _ hstart fun c hc => h c (List.mem_of_mem_take hc)
  unfold atrAt Engine.getCurrentAtr
  split
  · exact le_rfl
  · exact div_nonneg (List.sum_nonneg hsum) (Nat.cast_nonneg _)

end

/-! ## The exact rule -/

/-- Two averages of which one is positive are told apart by some spread gate. -/
theorem exists_gate {x y : ℚ} (hx : 0 ≤ x) (hxy : x < y) :
    ∃ spread maxSpread : ℚ, ¬((0 < x ∧ maxSpread < spread / x) ↔ (0 < y ∧ maxSpread < spread / y)) := by
  have hy : 0 < y := hx.trans_lt hxy
  -- a spread of `y` per unit separates them; where the smaller is zero, its gate is off
  rcases hx.lt_or_eq with hpos | hzero
  · refine ⟨y, 1, fun h => ?_⟩
    have hone : (1 : ℚ) < y / y := (h.mp ⟨hpos, (one_lt_div hpos).mpr hxy⟩).2
    rw [div_self hy.ne'] at hone
    exact lt_irrefl _ hone
  · refine ⟨y, 1 / 2, fun h => ?_⟩
    have hhalf : (1 : ℚ) / 2 < y / y := by
      rw [div_self hy.ne']
      norm_num
    exact (h.mpr ⟨hy, hhalf⟩).1.ne hzero

section
variable {timeframe : Timeframe} {s : ℚ} {c₁ c₂ : List HistoricalCandle} {i : ℕ}

/-- **No look-ahead, exactly.** Two lists that pass validation and agree up to bar `i` are treated alike up
to there if and only if their average true ranges are the same at each of these bars. -/
theorem no_lookahead_iff (h₁ : i < c₁.length) (h₂ : i < c₂.length)
    (hagree : c₁.take (i + 1) = c₂.take (i + 1)) (hpass₁ : (validate s c₁ timeframe).passed)
    (hpass₂ : (validate s c₂ timeframe).passed) :
    (∀ config : BacktestConfig, config.primaryTimeframe = timeframe → config.minQualityScore = s →
        ∀ (rng : Draws) (strategy : Option Strategy) (data : HigherTfData),
          (backtest config rng strategy c₁ data).reports.take (i + 1) =
            (backtest config rng strategy c₂ data).reports.take (i + 1)) ↔
      ∀ j ≤ i, atrAt c₁ j = atrAt c₂ j := by
  -- one way by a strategy that shows the average, the other by the runs themselves
  constructor
  · intro hsame j hj
    by_contra hne
    -- the smaller of the two goes first
    obtain ⟨spread, maxSpread, hgate⟩ : ∃ spread maxSpread : ℚ,
        ¬((0 < atrAt c₁ j ∧ maxSpread < spread / atrAt c₁ j) ↔
          (0 < atrAt c₂ j ∧ maxSpread < spread / atrAt c₂ j)) := by
      rcases lt_or_gt_of_ne hne with hlt | hgt
      · exact exists_gate (atrAt_nonneg (validate_high_ge_low hpass₁) j) hlt
      · obtain ⟨spread, maxSpread, hgate⟩ :=
          exists_gate (atrAt_nonneg (validate_high_ge_low hpass₂) j) hgt
        exact ⟨spread, maxSpread, fun h => hgate h.symm⟩
    let config : BacktestConfig :=
      { primaryTimeframe := timeframe
        minQualityScore := s
        executionConfig := { fixedSpread := spread }
        maxSpreadToAtr := maxSpread }
    have hc : config.Permissive := ⟨by norm_num [config], by norm_num [config], by norm_num [config],
      by norm_num [config]⟩
    have hreports := congrArg (·[j]?) (hsame config rfl rfl (fun _ => 0) (some (probe j)) [])
    simp only [List.getElem?_take_of_lt (show j < i + 1 by omega)] at hreports
    have hgated₁ := probe_gated_iff (fun _ => 0) [] hc (hj.trans_lt h₁) hpass₁
    have hgated₂ := probe_gated_iff (fun _ => 0) [] hc (hj.trans_lt h₂) hpass₂
    rw [hreports] at hgated₁
    exact hgate (hgated₁.symm.trans hgated₂)
  · rintro hatr config rfl rfl rng strategy data
    exact reports_take_eq hagree hpass₁ hpass₂ hatr

end

/-! ## A range of the bar to come -/

/-- Monday, 10:00 UTC, five minutes apart: the second bar's range is this. -/
def secondRange (range : ℚ) : List HistoricalCandle :=
  [{ timestamp := 36000000000 + 4 * dayUs, opening := 100, high := 100, low := 99, close := 100 },
    { timestamp := 36300000000 + 4 * dayUs, opening := 100, high := 100 + range, low := 100
      close := 100 }]

/-- The gate for the first bar's signal lets it pass or not by the range of the second. -/
theorem second_bar_leaks :
    ¬∀ (config : BacktestConfig) (rng : Draws) (strategy : Option Strategy)
      (c₁ c₂ : List HistoricalCandle) (data : HigherTfData) (i : ℕ), i < c₁.length → i < c₂.length →
      c₁.take (i + 1) = c₂.take (i + 1) →
      (validate config.minQualityScore c₁ config.primaryTimeframe).passed →
      (validate config.minQualityScore c₂ config.primaryTimeframe).passed →
      (backtest config rng strategy c₁ data).reports.take (i + 1) =
        (backtest config rng strategy c₂ data).reports.take (i + 1) := by
  intro h
  have hsame := h {} (fun _ => 0) (some fun _ _ => probeSignal .buy) (secondRange (1 / 2))
    (secondRange 2) [] 0 (by decide) (by decide) (by decide +kernel) (by decide +kernel)
    (by decide +kernel)
  revert hsame
  decide +kernel

/-- Two histories that differ in the range of the second bar. -/
theorem no_lookahead_iff_secondRange :
    (∀ config : BacktestConfig, config.primaryTimeframe = "M5" → config.minQualityScore = 8 / 10 →
        ∀ (rng : Draws) (strategy : Option Strategy) (data : HigherTfData),
          (backtest config rng strategy (secondRange (1 / 2)) data).reports.take 1 =
            (backtest config rng strategy (secondRange 2) data).reports.take 1) ↔
      ∀ j ≤ 0, atrAt (secondRange (1 / 2)) j = atrAt (secondRange 2) j :=
  no_lookahead_iff (by decide) (by decide) (by decide +kernel) (by decide +kernel) (by decide +kernel)

end PredictATrade.Research
