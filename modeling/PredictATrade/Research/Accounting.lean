import Mathlib.Tactic.Ring
import Mathlib.Tactic.Linarith
import Mathlib.Data.List.Perm.Basic
import Mathlib.Data.List.Nodup
import PredictATrade.Lib.Runs
import PredictATrade.Research.Portfolio

/-!
# `Research.Accounting` — what the portfolio conserves

`conserved` is about every sequence of calls: the balance is what was there plus what was realized, each
opened position is open or closed once, and the equity is marked to the last candle. The largest drawdown
is measured from a peak that includes the point itself, so it is never negative; the peak of the points
before it would make it so on a curve that only rises (`rising_curve`).
-/

namespace PredictATrade.Research
open Lib.Runs

/-! ## Calls -/

/-- A call of the portfolio. -/
inductive Call where
  | openPosition (posId : Uuid) (fill : FillEvent) (terms : Terms)
  | updatePositions (candle : HistoricalCandle) (atr : ℚ)
  | closeAllPositions (candle : HistoricalCandle)
  deriving DecidableEq, Repr

/-- The position that a call opens. -/
def Call.opens : Call → Option Uuid
  | openPosition posId _ _ => some posId
  | _ => none

/-- The candle that a call marks the portfolio to. -/
def Call.candle? : Call → Option HistoricalCandle
  | openPosition _ _ _ => none
  | updatePositions candle _ => some candle
  | closeAllPositions candle => some candle

namespace Portfolio

/-- The portfolio after a call. -/
def call (p : Portfolio) : Call → Portfolio
  | .openPosition posId fill terms => p.openPosition posId fill terms
  | .updatePositions candle atr => (p.updatePositions candle atr).1
  | .closeAllPositions candle => (p.closeAllPositions candle).1

/-- The identifiers of the open positions. -/
def openIds (p : Portfolio) : List Uuid := p.positions.map (·.positionId)

/-- The identifiers of the closed positions. -/
def closedIds (p : Portfolio) : List Uuid := p.closedTrades.map (·.tradeId)

/-- The unrealized result at this price. -/
def unrealizedAt (p : Portfolio) (price : ℚ) : ℚ :=
  (p.positions.map (·.unrealizedPnl price p.contractSize)).sum

end Portfolio

/-! ## Drawdowns -/

/-- The running maximum of a curve that starts from `initial`. -/
def peak (initial : ℚ) (curve : List ℚ) : ℚ := curve.foldl max initial

/-- How far each point lies below the peak of the points before it. -/
def drawdowns (initial : ℚ) : List ℚ → List ℚ
  | [] => []
  | e :: curve => (initial - e) :: drawdowns (max initial e) curve

theorem peak_snoc (initial : ℚ) (curve : List ℚ) (e : ℚ) :
    peak initial (curve ++ [e]) = max (peak initial curve) e := by
  unfold peak
  rw [List.foldl_append]
  rfl

theorem drawdowns_snoc (initial : ℚ) (curve : List ℚ) (e : ℚ) :
    drawdowns initial (curve ++ [e]) = drawdowns initial curve ++ [peak initial curve - e] := by
  induction curve generalizing initial with
  | nil => rfl
  | cons d curve ih => exact congrArg _ (ih (max initial d))

/-- The largest of the drawdowns, and at least zero. -/
def worst (ds : List ℚ) : ℚ := ds.foldl max 0

theorem worst_snoc (ds : List ℚ) (d : ℚ) : worst (ds ++ [d]) = max (worst ds) d := by
  unfold worst
  rw [List.foldl_append]
  rfl

theorem worst_nonneg (ds : List ℚ) : 0 ≤ worst ds := by
  induction ds using List.reverseRecOn with
  | nil => exact le_rfl
  | append_singleton ds d ih =>
      rw [worst_snoc]
      exact ih.trans (le_max_left _ _)

/-! ## What an update leaves alone -/

namespace Position
variable (pos : Position) (candle : HistoricalCandle)

@[simp] theorem updateMaeMfe_positionId : (pos.updateMaeMfe candle).positionId = pos.positionId := rfl

@[simp] theorem updateTrailingStop_positionId (atr m : ℚ) :
    (pos.updateTrailingStop candle atr m).positionId = pos.positionId := by
  simp only [updateTrailingStop]
  split_ifs <;> rfl

@[simp] theorem checkBreakEven_positionId (r : ℚ) :
    (pos.checkBreakEven candle r).positionId = pos.positionId := by
  simp only [checkBreakEven]
  split_ifs <;> rfl

@[simp] theorem advance_positionId (config : ExitConfig) (atr : ℚ) :
    (pos.advance candle config atr).1.positionId = pos.positionId := by
  unfold advance
  dsimp only
  split
  · rfl
  · split_ifs <;> simp

end Position

namespace Portfolio
variable {p : Portfolio} {candle : HistoricalCandle} {opened : List Uuid}

@[simp] theorem updateEquity_positions : (p.updateEquity candle).positions = p.positions := rfl
@[simp] theorem updateEquity_closedTrades :
    (p.updateEquity candle).closedTrades = p.closedTrades := rfl
@[simp] theorem updateEquity_balance : (p.updateEquity candle).balance = p.balance := rfl
@[simp] theorem updateEquity_realizedPnl : (p.updateEquity candle).realizedPnl = p.realizedPnl := rfl
@[simp] theorem updateEquity_initialBalance :
    (p.updateEquity candle).initialBalance = p.initialBalance := rfl

/-- The equity is marked to the candle. -/
theorem updateEquity_equity :
    (p.updateEquity candle).equity = (p.updateEquity candle).balance +
      (p.updateEquity candle).unrealizedAt candle.close := rfl

/-! ## The books -/

/-- What is booked, and that each opened position is open or booked. -/
structure Books (p : Portfolio) (opened : List Uuid) : Prop where
  realized : p.balance = p.initialBalance + p.realizedPnl
  booked : p.realizedPnl = (p.closedTrades.map (·.pnl)).sum
  accounted : (p.openIds ++ p.closedIds).Perm opened

theorem Books.updateEquity (h : p.Books opened) : (p.updateEquity candle).Books opened :=
  ⟨h.realized, h.booked, h.accounted⟩

theorem Books.advanced (h : p.Books opened) (atr : ℚ) :
    ({ p with positions := p.advanced candle atr } : Portfolio).Books opened := by
  refine ⟨h.realized, h.booked, ?_⟩
  have hids : (p.advanced candle atr).map (·.positionId) = p.openIds := by
    simp [Portfolio.advanced, openIds]
  show ((p.advanced candle atr).map (·.positionId) ++ p.closedIds).Perm opened
  rw [hids]
  exact h.accounted

/-- Closing moves one identifier from the open ones to the closed ones. -/
theorem Books.closePosition {pos : Position} (h : p.Books opened) (hnodup : opened.Nodup)
    (hpos : pos ∈ p.positions) (reason : ExitReason) (price : ℚ) :
    (p.closePosition candle pos reason price).1.Books opened := by
  refine ⟨?_, ?_, ?_⟩
  · show p.balance + p.netPnl pos price = p.initialBalance + (p.realizedPnl + p.netPnl pos price)
    rw [h.realized, add_assoc]
  · show p.realizedPnl + p.netPnl pos price =
      ((p.closedTrades ++ [p.tradeOf candle pos reason price]).map (·.pnl)).sum
    simp [h.booked, tradeOf]
  · have hopen : p.openIds.Nodup := (List.nodup_append.mp (h.accounted.nodup_iff.mpr hnodup)).1
    have hmem : pos.positionId ∈ p.openIds := List.mem_map_of_mem hpos
    have hkept : (p.positions.filter (·.positionId != pos.positionId)).map (·.positionId) =
        p.openIds.erase pos.positionId := by
      rw [hopen.erase_eq_filter, openIds, List.filter_map]
      rfl
    have hids : (p.closePosition candle pos reason price).1.closedIds =
        p.closedIds ++ [pos.positionId] := List.map_append
    -- the identifier is erased from the open ones and put behind the closed ones
    show ((p.positions.filter (·.positionId != pos.positionId)).map (·.positionId) ++ _).Perm opened
    rw [hids, hkept, ← List.append_assoc]
    have hlast := List.perm_append_singleton pos.positionId
      (p.openIds.erase pos.positionId ++ p.closedIds)
    have hback := (List.perm_cons_erase hmem).symm.append_right p.closedIds
    exact (hlast.trans hback).trans h.accounted

theorem Books.closeEach {toClose : List (Uuid × ExitReason × ℚ)} (h : p.Books opened)
    (hnodup : opened.Nodup) : (closeEach candle p toClose).1.Books opened := by
  induction toClose generalizing p with
  | nil => exact h
  | cons entry toClose ih =>
      obtain ⟨posId, reason, price⟩ := entry
      unfold Portfolio.closeEach
      split
      · exact ih h
      · next pos hfind =>
          exact ih (h.closePosition hnodup (List.mem_of_find?_eq_some hfind) reason price)

/-- A fresh identifier opens one more position. -/
theorem openPosition_fresh {posId : Uuid} {fill : FillEvent} {terms : Terms}
    (h : ∀ pos ∈ p.positions, pos.positionId ≠ posId) :
    p.openPosition posId fill terms =
      { p with positions := p.positions ++ [fill.position posId terms] } := by
  refine if_neg ?_
  intro hany
  obtain ⟨q, hq, heq⟩ := List.any_eq_true.mp hany
  exact h q hq (beq_iff_eq.mp heq)

theorem Books.openPosition {posId : Uuid} {fill : FillEvent} {terms : Terms} (h : p.Books opened)
    (hnew : posId ∉ opened) : (p.openPosition posId fill terms).Books (opened ++ [posId]) := by
  have hfresh : ∀ pos ∈ p.positions, pos.positionId ≠ posId := by
    rintro pos hpos rfl
    have hid : pos.positionId ∈ p.openIds := List.mem_map_of_mem hpos
    exact hnew (h.accounted.subset (List.mem_append_left _ hid))
  rw [openPosition_fresh hfresh]
  refine ⟨h.realized, h.booked, ?_⟩
  show ((p.positions ++ [fill.position posId terms]).map (·.positionId) ++ p.closedIds).Perm _
  rw [List.map_append, List.append_assoc]
  have hlast : (p.openIds ++ ([posId] ++ p.closedIds)).Perm (p.openIds ++ (p.closedIds ++ [posId])) :=
    List.perm_append_comm.append_left _
  rw [← List.append_assoc p.openIds p.closedIds] at hlast
  exact hlast.trans (h.accounted.append_right [posId])

/-- One call: a new position is open, and everything else stays accounted for. -/
theorem Books.call (h : p.Books opened) (c : Call) (hnodup : (opened ++ c.opens.toList).Nodup) :
    (p.call c).Books (opened ++ c.opens.toList) := by
  cases c with
  | openPosition posId fill terms =>
      -- an identifier that is on file would come twice
      apply h.openPosition
      intro hmem
      exact (List.nodup_append.mp hnodup).2.2 posId hmem posId (List.mem_singleton_self _) rfl
  | updatePositions candle atr =>
      simp only [Call.opens, Option.toList_none, List.append_nil] at hnodup ⊢
      exact ((h.advanced atr).closeEach hnodup).updateEquity
  | closeAllPositions candle =>
      simp only [Call.opens, Option.toList_none, List.append_nil] at hnodup ⊢
      exact (h.closeEach hnodup).updateEquity

/-! ## The drawdown -/

/-- The equities of the curve. -/
def equities (p : Portfolio) : List ℚ := p.equityCurve.map (·.equity)

/-- The peak and the drawdown are those of the curve. -/
structure Curve (p : Portfolio) : Prop where
  maxEquity : p.maxEquity = peak p.initialBalance p.equities
  maxDrawdown : p.maxDrawdown = worst (drawdowns p.initialBalance p.equities)

/-- The peak includes the new point, so that its own drawdown is cut off at zero. -/
theorem Curve.updateEquity (h : p.Curve) : (p.updateEquity candle).Curve := by
  have heq : (p.updateEquity candle).equities =
      p.equities ++ [(p.updateEquity candle).equity] := List.map_append
  have hmax : (p.updateEquity candle).maxEquity = max p.maxEquity (p.updateEquity candle).equity := by
    show (if (p.updateEquity candle).equity > p.maxEquity then _ else _) = _
    split
    · next hgt => exact (max_eq_right hgt.le).symm
    · next hle => exact (max_eq_left (not_lt.mp hle)).symm
  refine ⟨?_, ?_⟩
  · rw [hmax, heq, h.maxEquity]
    exact (peak_snoc _ _ _).symm
  · have hzero : 0 ≤ p.maxDrawdown := h.maxDrawdown ▸ worst_nonneg _
    have hdd : (p.updateEquity candle).maxDrawdown =
        if (p.updateEquity candle).maxEquity - (p.updateEquity candle).equity > p.maxDrawdown then
          (p.updateEquity candle).maxEquity - (p.updateEquity candle).equity else p.maxDrawdown := rfl
    rw [hdd, hmax, heq]
    show _ = worst (drawdowns p.initialBalance (p.equities ++ [_]))
    rw [drawdowns_snoc, worst_snoc, ← h.maxDrawdown, ← h.maxEquity]
    generalize (p.updateEquity candle).equity = e
    -- a new high has no drawdown; below the high the old worst one is kept or beaten
    rcases le_total p.maxEquity e with hle | hle
    · rw [max_eq_right hle, sub_self, if_neg (by simpa using hzero), max_eq_left (by linarith)]
    · rw [max_eq_left hle]
      split
      · next hgt => exact (max_eq_right hgt.le).symm
      · next hno => exact (max_eq_left (not_lt.mp hno)).symm

/-- Closing and ageing leave the curve as it is. -/
theorem Curve.closeEach {toClose : List (Uuid × ExitReason × ℚ)} (h : p.Curve) :
    (closeEach candle p toClose).1.Curve := by
  induction toClose generalizing p with
  | nil => exact h
  | cons entry toClose ih =>
      unfold Portfolio.closeEach
      split
      · exact ih h
      · exact ih ⟨h.maxEquity, h.maxDrawdown⟩

theorem Curve.call (h : p.Curve) (c : Call) : (p.call c).Curve := by
  cases c with
  | openPosition posId fill terms =>
      show (p.setPosition _).Curve
      unfold setPosition
      split <;> exact ⟨h.maxEquity, h.maxDrawdown⟩
  | updatePositions candle atr =>
      have haged : ({ p with positions := p.advanced candle atr } : Portfolio).Curve :=
        ⟨h.maxEquity, h.maxDrawdown⟩
      exact haged.closeEach.updateEquity
  | closeAllPositions candle => exact h.closeEach.updateEquity

/-! ## Runs -/

/-- **Run.** The books stay balanced. -/
theorem Books.run {calls : List Call} (h : p.Books opened)
    (hnodup : (opened ++ calls.filterMap Call.opens).Nodup) :
    (Lib.Runs.run Portfolio.call p calls).Books (opened ++ calls.filterMap Call.opens) := by
  induction calls generalizing p opened with
  | nil => simpa using h
  | cons c calls ih =>
      have hsplit : opened ++ (c :: calls).filterMap Call.opens =
          opened ++ c.opens.toList ++ calls.filterMap Call.opens := by
        cases c <;> simp [Call.opens, List.filterMap_cons]
      rw [hsplit] at hnodup ⊢
      exact ih (h.call c (List.nodup_append.mp hnodup).1) hnodup

theorem new_books (initialBalance : ℚ) (config : ExitConfig) :
    (Portfolio.new initialBalance config).Books [] :=
  ⟨(add_zero _).symm, rfl, List.Perm.nil⟩

theorem new_curve (initialBalance : ℚ) (config : ExitConfig) :
    (Portfolio.new initialBalance config).Curve := ⟨rfl, rfl⟩

@[simp] theorem closeEach_initialBalance (toClose : List (Uuid × ExitReason × ℚ)) :
    (closeEach candle p toClose).1.initialBalance = p.initialBalance := by
  induction toClose generalizing p with
  | nil => rfl
  | cons entry toClose ih =>
      unfold Portfolio.closeEach
      split
      · exact ih
      · exact ih

/-- The initial balance stays. -/
theorem call_initialBalance (c : Call) : (p.call c).initialBalance = p.initialBalance := by
  cases c with
  | openPosition posId fill terms =>
      show (p.setPosition _).initialBalance = _
      unfold setPosition
      split <;> rfl
  | updatePositions candle atr => simp [call, Portfolio.updatePositions]
  | closeAllPositions candle => simp [call, Portfolio.closeAllPositions]

/-- An update marks the equity to its candle. -/
theorem call_equity {c : Call} (hc : c.candle? = some candle) :
    (p.call c).equity = (p.call c).balance + (p.call c).unrealizedAt candle.close := by
  cases c with
  | openPosition posId fill terms => cases hc
  | updatePositions candle' atr =>
      cases hc
      exact updateEquity_equity
  | closeAllPositions candle' =>
      cases hc
      exact updateEquity_equity

/-- An identifier that is accounted for is open, or closed once. -/
theorem Books.open_or_closed (h : p.Books opened) (hnodup : opened.Nodup) {posId : Uuid}
    (hmem : posId ∈ opened) :
    (posId ∈ p.openIds ∧ posId ∉ p.closedIds) ∨
      (posId ∉ p.openIds ∧ p.closedIds.count posId = 1) := by
  obtain ⟨-, hclosed, hdisjoint⟩ := List.nodup_append.mp (h.accounted.nodup_iff.mpr hnodup)
  rcases List.mem_append.mp (h.accounted.symm.subset hmem) with hopen | hdone
  · exact .inl ⟨hopen, fun hdone => hdisjoint posId hopen posId hdone rfl⟩
  · exact .inr ⟨fun hopen => hdisjoint posId hopen posId hdone rfl,
      List.count_eq_one_of_mem hclosed hdone⟩

end Portfolio

open Portfolio in
/-- What every sequence of calls leaves true. -/
theorem conserved (initialBalance : ℚ) (config : ExitConfig) (calls : List Call)
    (hids : (calls.filterMap Call.opens).Nodup) :
    let p := run call (.new initialBalance config) calls
    p.balance = initialBalance + p.realizedPnl ∧
      p.balance = initialBalance + (p.closedTrades.map (·.pnl)).sum ∧
      (∀ c ∈ calls.getLast?, ∀ candle ∈ c.candle?,
        p.equity = p.balance + p.unrealizedAt candle.close) ∧
      (∀ posId ∈ calls.filterMap Call.opens,
        (posId ∈ p.openIds ∧ posId ∉ p.closedIds) ∨
          (posId ∉ p.openIds ∧ p.closedIds.count posId = 1)) ∧
      p.maxDrawdown = worst (drawdowns initialBalance p.equities) := by
  intro p
  have hinitial : p.initialBalance = initialBalance :=
    run_keeps (I := fun q : Portfolio => q.initialBalance = initialBalance)
      (fun q c hq => (call_initialBalance c).trans hq) rfl calls
  have hbooks : p.Books ([] ++ calls.filterMap Call.opens) := (new_books initialBalance config).run hids
  have hcurve : p.Curve := run_keeps (fun q c hq => hq.call c) (new_curve initialBalance config) calls
  refine ⟨?_, ?_, ?_, ?_, ?_⟩
  · rw [hbooks.realized, hinitial]
  · rw [hbooks.realized, hinitial, hbooks.booked]
  · intro c hc candle hcandle
    obtain ⟨pre, hpre⟩ := List.getLast?_eq_some_iff.mp hc
    have hlast : p = (run call (.new initialBalance config) pre).call c := by
      show run call _ calls = _
      rw [hpre, run_snoc]
    rw [hlast]
    exact call_equity hcandle
  · intro posId hmem
    exact hbooks.open_or_closed hids hmem
  · rw [hcurve.maxDrawdown, hinitial]

/-! ## A portfolio that trades, and a curve that only rises -/

/-- Bought and sold at 100. The first candle takes the buy out at its target, and the last one, at 112,
closes what is left. -/
def traded : List Call :=
  [.openPosition 1 { timestamp := 0, direction := .buy, fillPrice := 100, requestedPrice := 100, size := 1 }
      { signalId := "", strategyId := "", stopLoss := 90, takeProfit := 110 },
    .openPosition 2 { timestamp := 0, direction := .sell, fillPrice := 100, requestedPrice := 100, size := 1 }
      { signalId := "", strategyId := "", stopLoss := 120, takeProfit := 80 },
    .updatePositions { timestamp := 60000000, opening := 100, high := 111, low := 99, close := 109 } 2,
    .closeAllPositions { timestamp := 120000000, opening := 109, high := 113, low := 109, close := 112 }]

/-- The buy has won 1000 and the sell has lost 1200; the curve has come down from 10100 to 9800. -/
theorem traded_conserved :
    let p := run Portfolio.call (.new 10000 {}) traded
    (traded.filterMap Call.opens).Nodup ∧
      p.closedTrades.map (fun t => (t.tradeId, t.pnl)) = [(1, 1000), (2, -1200)] ∧
      p.equities = [10100, 9800] ∧ p.maxDrawdown = 300 ∧
      p.balance = 10000 + p.realizedPnl ∧ p.balance = 10000 + (p.closedTrades.map (·.pnl)).sum ∧
      p.equity = p.balance + p.unrealizedAt 112 ∧
      (∀ posId ∈ traded.filterMap Call.opens,
        (posId ∈ p.openIds ∧ posId ∉ p.closedIds) ∨
          (posId ∉ p.openIds ∧ p.closedIds.count posId = 1)) ∧
      p.maxDrawdown = worst (drawdowns 10000 p.equities) := by
  have hids : (traded.filterMap Call.opens).Nodup := by decide
  obtain ⟨hrealized, htrades, hequity, hids', hdrawdown⟩ := conserved 10000 {} traded hids
  exact ⟨hids, by decide +kernel, by decide +kernel, by decide +kernel, hrealized, htrades,
    hequity _ rfl _ rfl, hids', hdrawdown⟩

/-- Bought at 100, and marked to 101. -/
def rising : List Call :=
  [.openPosition 1 { timestamp := 0, direction := .buy, fillPrice := 100, requestedPrice := 100, size := 1 }
      { signalId := "", strategyId := "", stopLoss := 90, takeProfit := 110 },
    .updatePositions { timestamp := 60000000, opening := 100, high := 101, low := 100, close := 101 } 0]

/-- The only point lies above the initial balance, and no drawdown of the curve is as large as zero. -/
theorem rising_curve :
    ¬∀ (initialBalance : ℚ) (config : ExitConfig) (calls : List Call),
      (calls.filterMap Call.opens).Nodup →
      let p := run Portfolio.call (.new initialBalance config) calls
      p.equities ≠ [] → p.maxDrawdown ∈ drawdowns initialBalance p.equities ∧
        ∀ d ∈ drawdowns initialBalance p.equities, d ≤ p.maxDrawdown := by
  intro h
  have hmem := (h 10000 {} rising (by decide) (by decide +kernel)).1
  revert hmem
  decide +kernel

end PredictATrade.Research
