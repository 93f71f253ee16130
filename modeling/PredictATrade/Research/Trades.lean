import Mathlib.Data.List.Nodup
import PredictATrade.Lib.Runs
import PredictATrade.Lib.Table
import PredictATrade.Research.Portfolio

/-!
# `Research.Trades` — from an opened position to its trade

What a call does to the positions and the closed trades, as equations between lists: a bar advances
every position and closes those that it takes out (`updatePositions_passed`), the end of the backtest closes
all (`closeAllPositions_passed`). A run of them is kept by a `Desk`, which remembers what each position was
opened with; identifiers are counted, as in `Engine`. In each state that a run reaches the open positions
and the closed trades have what their opening gave them (`Desk.Sound`).
-/

namespace PredictATrade.Research
open Lib.Runs Lib.Table

/-! ## What entry fixes -/

/-- A later state of a position: what it was entered with does not change. -/
structure Position.SameEntry (pos pos' : Position) : Prop where
  positionId : pos'.positionId = pos.positionId
  direction : pos'.direction = pos.direction
  size : pos'.size = pos.size
  entryPrice : pos'.entryPrice = pos.entryPrice
  commission : pos'.commission = pos.commission
  slippageCost : pos'.slippageCost = pos.slippageCost
  spreadCost : pos'.spreadCost = pos.spreadCost

namespace Position
variable {pos pos' pos'' : Position} {candle : HistoricalCandle}

theorem SameEntry.refl (pos : Position) : pos.SameEntry pos := ⟨rfl, rfl, rfl, rfl, rfl, rfl, rfl⟩

theorem SameEntry.trans (h : pos.SameEntry pos') (h' : pos'.SameEntry pos'') :
    pos.SameEntry pos'' where
  positionId := h'.positionId.trans h.positionId
  direction := h'.direction.trans h.direction
  size := h'.size.trans h.size
  entryPrice := h'.entryPrice.trans h.entryPrice
  commission := h'.commission.trans h.commission
  slippageCost := h'.slippageCost.trans h.slippageCost
  spreadCost := h'.spreadCost.trans h.spreadCost

theorem SameEntry.isLong (h : pos.SameEntry pos') : pos'.isLong = pos.isLong := by
  unfold Position.isLong
  rw [h.direction]

theorem updateTrailingStop_sameEntry (pos : Position) (atr m : ℚ) :
    pos.SameEntry (pos.updateTrailingStop candle atr m) := by
  unfold updateTrailingStop
  dsimp only
  split_ifs <;> exact ⟨rfl, rfl, rfl, rfl, rfl, rfl, rfl⟩

theorem checkBreakEven_sameEntry (pos : Position) (r : ℚ) :
    pos.SameEntry (pos.checkBreakEven candle r) := by
  unfold checkBreakEven
  dsimp only
  split_ifs <;> exact ⟨rfl, rfl, rfl, rfl, rfl, rfl, rfl⟩

/-! ## One bar of a position -/

/-- The position at the bar, one bar older. -/
def aged (pos : Position) (candle : HistoricalCandle) : Position :=
  { pos with barsHeld := pos.barsHeld + 1 }.updateMaeMfe candle

theorem aged_sameEntry (pos : Position) : pos.SameEntry (pos.aged candle) :=
  ⟨rfl, rfl, rfl, rfl, rfl, rfl, rfl⟩

/-- The position with its stop trailed, if trailing is on. -/
def trailed (pos : Position) (candle : HistoricalCandle) (config : ExitConfig) (atr : ℚ) : Position :=
  if config.trailingStopEnabled ∧ atr > 0 then
    pos.updateTrailingStop candle atr config.trailingAtrMultiplier else pos

theorem trailed_sameEntry (pos : Position) (config : ExitConfig) (atr : ℚ) :
    pos.SameEntry (pos.trailed candle config atr) := by
  unfold trailed
  split
  · exact pos.updateTrailingStop_sameEntry atr _
  · exact SameEntry.refl pos

/-- The position with its stop at break-even, if that is on and due. -/
def evened (pos : Position) (candle : HistoricalCandle) (config : ExitConfig) : Position :=
  if config.breakEvenEnabled then pos.checkBreakEven candle config.breakEvenTriggerR else pos

theorem evened_sameEntry (pos : Position) (config : ExitConfig) :
    pos.SameEntry (pos.evened candle config) := by
  unfold evened
  split
  · exact pos.checkBreakEven_sameEntry _
  · exact SameEntry.refl pos

/-- The position reaches the longest time that it is held. -/
def TimeUp (pos : Position) (config : ExitConfig) : Prop :=
  config.maxHoldingBars > 0 ∧ pos.barsHeld + 1 ≥ config.maxHoldingBars

instance decidableTimeUp (pos : Position) (config : ExitConfig) : Decidable (pos.TimeUp config) :=
  inferInstanceAs (Decidable (_ ∧ _))

/-- **A bar at which a level is hit**: the stop stays where it was. -/
theorem advance_of_hit {config : ExitConfig} {atr : ℚ} {exit : ExitReason × ℚ}
    (h : pos.checkSlTp candle config.conservativeSlTp = some exit) :
    pos.advance candle config atr = (pos.aged candle, some exit) := by
  have haged : (pos.aged candle).checkSlTp candle config.conservativeSlTp = some exit := h
  unfold aged at haged
  simp only [advance, haged, aged]

theorem trailed_barsHeld (pos : Position) (config : ExitConfig) (atr : ℚ) :
    (pos.trailed candle config atr).barsHeld = pos.barsHeld := by
  unfold trailed updateTrailingStop
  dsimp only
  split_ifs <;> rfl

theorem evened_barsHeld (pos : Position) (config : ExitConfig) :
    (pos.evened candle config).barsHeld = pos.barsHeld := by
  unfold evened checkBreakEven
  dsimp only
  split_ifs <;> rfl

/-- **A bar at which none is**: the stop is trailed, then taken to break-even. -/
theorem advance_of_none {config : ExitConfig} {atr : ℚ}
    (h : pos.checkSlTp candle config.conservativeSlTp = none) :
    pos.advance candle config atr =
      (((pos.aged candle).trailed candle config atr).evened candle config,
        if pos.TimeUp config then some (.timeExit, candle.close) else none) := by
  have haged : ({ pos with barsHeld := pos.barsHeld + 1 }.updateMaeMfe candle).checkSlTp candle
      config.conservativeSlTp = none := h
  have hheld : (((pos.aged candle).trailed candle config atr).evened candle config).barsHeld =
      pos.barsHeld + 1 := (evened_barsHeld _ config).trans (trailed_barsHeld _ config atr)
  unfold advance
  dsimp only
  rw [haged]
  show (if config.maxHoldingBars > 0 ∧
      (((pos.aged candle).trailed candle config atr).evened candle config).barsHeld ≥
        config.maxHoldingBars then
      (((pos.aged candle).trailed candle config atr).evened candle config, _)
    else (((pos.aged candle).trailed candle config atr).evened candle config, none)) = _
  rw [hheld]
  by_cases hup : pos.TimeUp config
  · rw [if_pos hup]
    exact if_pos hup
  · rw [if_neg hup]
    exact if_neg hup

theorem advance_sameEntry (pos : Position) (candle : HistoricalCandle) (config : ExitConfig)
    (atr : ℚ) :
    pos.SameEntry (pos.advance candle config atr).1 := by
  cases h : pos.checkSlTp candle config.conservativeSlTp with
  | some exit =>
    rw [advance_of_hit h]
    exact pos.aged_sameEntry
  | none =>
    rw [advance_of_none h]
    exact (pos.aged_sameEntry.trans (trailed_sameEntry _ config atr)).trans
      (evened_sameEntry _ config)

end Position

/-! ## Closing -/

/-- What an `ExitEvent` reports of a position. -/
def Portfolio.exitOf (p : Portfolio) (candle : HistoricalCandle) (pos : Position)
    (exitReason : ExitReason) (exitPrice : ℚ) : ExitEvent :=
  (p.closePosition candle pos exitReason exitPrice).2

/-- A position that a call has gone over, with its exit, if it makes one. -/
abbrev Passed := Position × Option (ExitReason × ℚ)

namespace Passed

/-- The entries of `to_close`. -/
def toClose (passed : List Passed) : List (Uuid × ExitReason × ℚ) :=
  passed.filterMap fun e => e.2.map fun exit => (e.1.positionId, exit)

/-- The positions that stay open. -/
def kept (passed : List Passed) : List Position :=
  (passed.filter (·.2.isNone)).map (·.1)

/-- The trades of the positions that are taken out. -/
def trades (p : Portfolio) (candle : HistoricalCandle) (passed : List Passed) : List TradeRecord :=
  passed.filterMap fun e => e.2.map fun exit => p.tradeOf candle e.1 exit.1 exit.2

/-- What is reported of them. -/
def exits (p : Portfolio) (candle : HistoricalCandle) (passed : List Passed) : List ExitEvent :=
  passed.filterMap fun e => e.2.map fun exit => p.exitOf candle e.1 exit.1 exit.2

variable {passed : List Passed} {e : Passed}

/-- With distinct identifiers, the open position with that of an entry is there if the entry has no
exit. -/
theorem mem_kept_iff (hnd : (passed.map fun e => e.1.positionId).Nodup) (he : e ∈ passed)
    (pos : Position) :
    pos ∈ kept passed ∧ pos.positionId = e.1.positionId ↔ e.2 = none ∧ pos = e.1 := by
  constructor
  · rintro ⟨hpos, hid⟩
    obtain ⟨e', he', rfl⟩ := List.mem_map.mp hpos
    obtain ⟨hmem, hnone⟩ := List.mem_filter.mp he'
    obtain rfl := eq_of_key hnd hmem he hid
    exact ⟨Option.isNone_iff_eq_none.mp hnone, rfl⟩
  · rintro ⟨hnone, rfl⟩
    refine ⟨List.mem_map.mpr ⟨e, List.mem_filter.mpr ⟨he, ?_⟩, rfl⟩, rfl⟩
    rw [hnone]
    rfl

/-- With distinct identifiers, of what is made of the exits under the identifiers of their positions, that
with the identifier of an entry is made of its exit. -/
theorem mem_ofExits_iff {β : Type} {key : β → Uuid} {f : Position → ExitReason × ℚ → β}
    (hkey : ∀ pos exit, key (f pos exit) = pos.positionId)
    (hnd : (passed.map fun e => e.1.positionId).Nodup) (he : e ∈ passed) (x : β) :
    x ∈ passed.filterMap (fun e => e.2.map fun exit => f e.1 exit) ∧ key x = e.1.positionId ↔
      ∃ exit ∈ e.2, x = f e.1 exit := by
  constructor
  · rintro ⟨hx, hid⟩
    obtain ⟨e', he', hexit⟩ := List.mem_filterMap.mp hx
    obtain ⟨exit, hsome, rfl⟩ := Option.map_eq_some_iff.mp hexit
    obtain rfl := eq_of_key hnd he' he ((hkey e'.1 exit).symm.trans hid)
    exact ⟨exit, hsome, rfl⟩
  · rintro ⟨exit, hsome, rfl⟩
    refine ⟨List.mem_filterMap.mpr ⟨e, he, ?_⟩, hkey e.1 exit⟩
    rw [hsome, Option.map_some]

/-- The trade with the identifier of an entry is the one of its exit. -/
theorem mem_trades_iff (hnd : (passed.map fun e => e.1.positionId).Nodup) (he : e ∈ passed)
    (p : Portfolio) (candle : HistoricalCandle) (t : TradeRecord) :
    t ∈ trades p candle passed ∧ t.tradeId = e.1.positionId ↔
      ∃ exit ∈ e.2, t = p.tradeOf candle e.1 exit.1 exit.2 :=
  mem_ofExits_iff (f := fun pos exit => p.tradeOf candle pos exit.1 exit.2)
    (fun _ _ => rfl) hnd he t

/-- And so is what is reported of it. -/
theorem mem_exits_iff (hnd : (passed.map fun e => e.1.positionId).Nodup) (he : e ∈ passed)
    (p : Portfolio) (candle : HistoricalCandle) (event : ExitEvent) :
    event ∈ exits p candle passed ∧ event.positionId = e.1.positionId ↔
      ∃ exit ∈ e.2, event = p.exitOf candle e.1 exit.1 exit.2 :=
  mem_ofExits_iff (f := fun pos exit => p.exitOf candle pos exit.1 exit.2)
    (fun _ _ => rfl) hnd he event

end Passed

namespace Portfolio
variable {p : Portfolio} {candle : HistoricalCandle}

/-- What a call leaves of a portfolio whose positions it has gone over. -/
structure Closes (p : Portfolio) (candle : HistoricalCandle) (passed : List Passed)
    (r : Portfolio × List ExitEvent) : Prop where
  config : r.1.toExitConfig = p.toExitConfig
  closedTrades : r.1.closedTrades = p.closedTrades ++ Passed.trades p candle passed
  exits : r.2 = Passed.exits p candle passed

/-- Of a portfolio a trade reads the contract size alone. -/
theorem tradeOf_congr {q : Portfolio} (h : q.toExitConfig = p.toExitConfig) (pos : Position)
    (reason : ExitReason) (price : ℚ) :
    q.tradeOf candle pos reason price = p.tradeOf candle pos reason price := by
  have hsize : q.contractSize = p.contractSize := congrArg ExitConfig.contractSize h
  simp only [tradeOf, netPnl, grossPnl, hsize]

theorem exitOf_congr {q : Portfolio} (h : q.toExitConfig = p.toExitConfig) (pos : Position)
    (reason : ExitReason) (price : ℚ) :
    q.exitOf candle pos reason price = p.exitOf candle pos reason price := by
  have hsize : q.contractSize = p.contractSize := congrArg ExitConfig.contractSize h
  simp only [exitOf, closePosition, netPnl, grossPnl, hsize]

/-- The loop that closes: the positions before the ones it still has to look at stay, those of the rest
that have an exit are closed in their order. -/
theorem closeEach_passed (candle : HistoricalCandle) (passed : List Passed) :
    ∀ (p : Portfolio) (before : List Position), p.positions = before ++ passed.map (·.1) →
      (p.positions.map (·.positionId)).Nodup →
      (closeEach candle p (Passed.toClose passed)).1.positions = before ++ Passed.kept passed ∧
        p.Closes candle passed (closeEach candle p (Passed.toClose passed)) := by
  induction passed with
  | nil =>
    intro p before hp _
    refine ⟨hp, rfl, ?_, rfl⟩
    exact (List.append_nil _).symm
  | cons e passed ih =>
    obtain ⟨pos, exit⟩ := e
    intro p before hp hnd
    cases exit with
    | none =>
      have hp' : p.positions = (before ++ [pos]) ++ passed.map (·.1) := by
        rw [hp, List.append_assoc]
        rfl
      obtain ⟨hpos, hcloses⟩ := ih p (before ++ [pos]) hp' hnd
      refine ⟨?_, hcloses.config, hcloses.closedTrades, hcloses.exits⟩
      rw [show Passed.toClose ((pos, none) :: passed) = Passed.toClose passed from rfl, hpos,
        List.append_assoc]
      rfl
    | some exit =>
      obtain ⟨reason, price⟩ := exit
      have hmem : pos ∈ p.positions := by
        rw [hp]
        exact List.mem_append_right _ List.mem_cons_self
      -- it is the one position with its identifier
      have hrest : p.positions.filter (·.positionId != pos.positionId) =
          before ++ passed.map (·.1) := by
        rw [hp] at hnd ⊢
        exact filter_ne_of_key hnd
      obtain ⟨hpos, hcloses⟩ := ih (p.closePosition candle pos reason price).1 before hrest
        (hnd.sublist (List.Sublist.map _ List.filter_sublist))
      have hstep : closeEach candle p (Passed.toClose ((pos, some (reason, price)) :: passed)) =
          ((closeEach candle (p.closePosition candle pos reason price).1
              (Passed.toClose passed)).1,
            p.exitOf candle pos reason price ::
              (closeEach candle (p.closePosition candle pos reason price).1
                (Passed.toClose passed)).2) := by
        show closeEach candle p ((pos.positionId, reason, price) :: Passed.toClose passed) = _
        rw [closeEach, find?_of_key hnd hmem]
        rfl
      rw [hstep]
      refine ⟨hpos, hcloses.config, ?_, ?_⟩
      · rw [hcloses.closedTrades, Passed.trades, Passed.trades]
        simp only [tradeOf_congr (p := p) (q := (p.closePosition candle pos reason price).1) rfl]
        show p.closedTrades ++ [_] ++ _ = _
        rw [List.append_assoc]
        rfl
      · rw [hcloses.exits, Passed.exits, Passed.exits]
        simp only [exitOf_congr (p := p) (q := (p.closePosition candle pos reason price).1) rfl]
        rfl

/-- What the first loop of `update_positions` makes of the positions. -/
def passed (p : Portfolio) (candle : HistoricalCandle) (atr : ℚ) : List Passed :=
  p.positions.map fun pos => pos.advance candle p.toExitConfig atr

theorem passed_ids (p : Portfolio) (candle : HistoricalCandle) (atr : ℚ) :
    ((p.passed candle atr).map fun e => e.1.positionId) = p.positions.map (·.positionId) := by
  simp only [passed, List.map_map]
  exact List.map_congr_left fun pos _ => (pos.advance_sameEntry candle _ atr).positionId

/-- **A bar**: every position is advanced, those that it takes out are closed. -/
theorem updatePositions_passed (hnd : (p.positions.map (·.positionId)).Nodup)
    (candle : HistoricalCandle) (atr : ℚ) :
    (p.updatePositions candle atr).1.positions = Passed.kept (p.passed candle atr) ∧
      p.Closes candle (p.passed candle atr) (p.updatePositions candle atr) := by
  have hadvanced : p.advanced candle atr = [] ++ (p.passed candle atr).map (·.1) := by
    simp only [advanced, passed, List.map_map, List.nil_append]
    rfl
  have hids : ((p.advanced candle atr).map (·.positionId)).Nodup := by
    have h := p.passed_ids candle atr
    simp only [passed, List.map_map] at h
    simp only [advanced, List.map_map]
    exact h ▸ hnd
  have htoClose : p.toClose candle atr = Passed.toClose (p.passed candle atr) := by
    simp only [toClose, Passed.toClose, passed, List.filterMap_map]
    refine List.filterMap_congr fun pos _ => ?_
    simp only [Function.comp_apply, (pos.advance_sameEntry candle _ atr).positionId]
  obtain ⟨hpos, hcloses⟩ := closeEach_passed candle (p.passed candle atr)
    { p with positions := p.advanced candle atr } [] hadvanced hids
  unfold updatePositions
  rw [htoClose]
  refine ⟨hpos, hcloses.config, hcloses.closedTrades, hcloses.exits.trans ?_⟩
  simp only [Passed.exits]
  rfl

/-- What the end of the backtest makes of the positions. -/
def passedAtEnd (p : Portfolio) (candle : HistoricalCandle) : List Passed :=
  p.positions.map fun pos => (pos, some (.endOfBacktest, candle.close))

theorem passedAtEnd_ids (p : Portfolio) (candle : HistoricalCandle) :
    ((p.passedAtEnd candle).map fun e => e.1.positionId) = p.positions.map (·.positionId) := by
  simp only [passedAtEnd, List.map_map]
  rfl

/-- **The end of the backtest**: every position is closed. -/
theorem closeAllPositions_passed (hnd : (p.positions.map (·.positionId)).Nodup)
    (candle : HistoricalCandle) :
    (p.closeAllPositions candle).1.positions = Passed.kept (p.passedAtEnd candle) ∧
      p.Closes candle (p.passedAtEnd candle) (p.closeAllPositions candle) := by
  have hpos : p.positions = [] ++ (p.passedAtEnd candle).map (·.1) := by
    simp only [passedAtEnd, List.map_map, List.nil_append]
    exact (List.map_id _).symm
  have htoClose : (p.positions.map fun pos => (pos.positionId, ExitReason.endOfBacktest,
      candle.close)) = Passed.toClose (p.passedAtEnd candle) := by
    simp only [Passed.toClose, passedAtEnd, List.filterMap_map]
    rw [← List.filterMap_eq_map]
    rfl
  obtain ⟨hkept, hcloses⟩ := closeEach_passed candle (p.passedAtEnd candle) p [] hpos hnd
  unfold closeAllPositions
  rw [htoClose]
  exact ⟨hkept, hcloses.config, hcloses.closedTrades, hcloses.exits⟩

end Portfolio

/-! ## Runs -/

/-- A portfolio, with what its positions were opened with: position number `i` by the `i`-th. -/
structure Desk where
  portfolio : Portfolio
  openings : List (FillEvent × Terms) := []

/-- What happens to a portfolio. -/
inductive DeskEvent where
  | opening (fill : FillEvent) (terms : Terms)
  | bar (candle : HistoricalCandle) (atr : ℚ)
  | finish (candle : HistoricalCandle)

namespace Desk

/-- The desk before any candle. -/
def new (initialBalance : ℚ) (config : ExitConfig) : Desk := { portfolio := .new initialBalance config }

/-- The desk after an event. -/
def step (d : Desk) : DeskEvent → Desk
  | .opening fill terms =>
    { portfolio := d.portfolio.openPosition d.openings.length fill terms
      openings := d.openings ++ [(fill, terms)] }
  | .bar candle atr => { d with portfolio := (d.portfolio.updatePositions candle atr).1 }
  | .finish candle => { d with portfolio := (d.portfolio.closeAllPositions candle).1 }

/-- The position that number `i` was opened as. -/
def entry (d : Desk) (i : Uuid) : Option Position :=
  d.openings[i]?.map fun o => o.1.position i o.2

/-- The positions have distinct identifiers, and positions and trades what their opening gave them. -/
structure Sound (d : Desk) : Prop where
  nodup : (d.portfolio.positions.map (·.positionId)).Nodup
  positions : ∀ pos ∈ d.portfolio.positions,
    ∃ first, d.entry pos.positionId = some first ∧ first.SameEntry pos
  trades : ∀ t ∈ d.portfolio.closedTrades, ∃ first pos candle reason price,
    d.entry t.tradeId = some first ∧ first.SameEntry pos ∧
      t = d.portfolio.tradeOf candle pos reason price

variable {d : Desk}

/-- A new desk. -/
theorem new_sound (initialBalance : ℚ) (config : ExitConfig) : (new initialBalance config).Sound :=
  ⟨List.nodup_nil, fun _ h => absurd h List.not_mem_nil, fun _ h => absurd h List.not_mem_nil⟩

theorem entry_opening {i : Uuid} {first : Position} (h : d.entry i = some first)
    (fill : FillEvent) (terms : Terms) : (d.step (.opening fill terms)).entry i = some first := by
  obtain ⟨o, ho, rfl⟩ := Option.map_eq_some_iff.mp h
  have hlt : i < d.openings.length := (List.getElem?_eq_some_iff.mp ho).1
  unfold entry
  rw [show (d.step (.opening fill terms)).openings = d.openings ++ [(fill, terms)] from rfl,
    List.getElem?_append_left hlt, ho, Option.map_some]

theorem entry_lt {i : Uuid} {first : Position} (h : d.entry i = some first) :
    i < d.openings.length := by
  obtain ⟨o, ho, -⟩ := Option.map_eq_some_iff.mp h
  exact (List.getElem?_eq_some_iff.mp ho).1

/-- A new position takes the next number, which no position has. -/
theorem Sound.portfolio_opening (h : d.Sound) (fill : FillEvent) (terms : Terms) :
    (d.step (.opening fill terms)).portfolio =
      { d.portfolio with
        positions := d.portfolio.positions ++ [fill.position d.openings.length terms] } := by
  show d.portfolio.setPosition _ = _
  unfold Portfolio.setPosition
  rw [if_neg]
  intro hany
  obtain ⟨pos, hpos, heq⟩ := List.any_eq_true.mp hany
  obtain ⟨first, hfirst, -⟩ := h.positions pos hpos
  have hid : pos.positionId = d.openings.length := beq_iff_eq.mp heq
  exact absurd (entry_lt hfirst) (by rw [hid]; exact lt_irrefl _)

theorem Sound.opening (h : d.Sound) (fill : FillEvent) (terms : Terms) :
    (d.step (.opening fill terms)).Sound := by
  refine ⟨?_, ?_, ?_⟩
  · rw [h.portfolio_opening, List.map_append, List.map_singleton]
    refine List.nodup_append.mpr ⟨h.nodup, List.nodup_singleton _, ?_⟩
    rintro a ha b hb rfl
    obtain ⟨pos, hpos, rfl⟩ := List.mem_map.mp ha
    obtain ⟨first, hfirst, -⟩ := h.positions pos hpos
    have hid : pos.positionId = d.openings.length := List.mem_singleton.mp hb
    exact absurd (entry_lt hfirst) (by rw [hid]; exact lt_irrefl _)
  · rw [h.portfolio_opening]
    intro pos hpos
    rcases List.mem_append.mp hpos with hpos | hpos
    · obtain ⟨first, hfirst, hsame⟩ := h.positions pos hpos
      exact ⟨first, entry_opening hfirst fill terms, hsame⟩
    · obtain rfl := List.mem_singleton.mp hpos
      refine ⟨_, ?_, Position.SameEntry.refl _⟩
      show Option.map _ (d.openings ++ [(fill, terms)])[d.openings.length]? = _
      rw [List.getElem?_concat_length]
      rfl
  · rw [h.portfolio_opening]
    intro t ht
    obtain ⟨first, pos, candle, reason, price, hfirst, hsame, heq⟩ := h.trades t ht
    exact ⟨first, pos, candle, reason, price, entry_opening hfirst fill terms, hsame, heq⟩

/-- A call that goes over the positions, and leaves what they were entered with. -/
theorem Sound.closes (d' : Desk) {candle : HistoricalCandle} {passed : List Passed}
    {exits : List ExitEvent} (h : d.Sound)
    (hopen : d'.openings = d.openings)
    (hids : (passed.map fun e => e.1.positionId) = d.portfolio.positions.map (·.positionId))
    (hpassed : ∀ e ∈ passed, ∃ pos ∈ d.portfolio.positions, pos.SameEntry e.1)
    (hpos : d'.portfolio.positions = Passed.kept passed)
    (hcloses : d.portfolio.Closes candle passed (d'.portfolio, exits)) : d'.Sound := by
  have hentry : ∀ i, d'.entry i = d.entry i := fun i => by rw [entry, entry, hopen]
  have hkeeps : ∀ e ∈ passed,
      ∃ first, d'.entry e.1.positionId = some first ∧ first.SameEntry e.1 := by
    intro e he
    obtain ⟨pos, hpos, hsame⟩ := hpassed e he
    obtain ⟨first, hfirst, hsame'⟩ := h.positions pos hpos
    refine ⟨first, ?_, hsame'.trans hsame⟩
    rw [hentry, hsame.positionId, hfirst]
  refine ⟨?_, ?_, ?_⟩
  · rw [hpos, Passed.kept, List.map_map]
    refine List.Nodup.sublist ?_ (hids ▸ h.nodup)
    exact List.filter_sublist.map _
  · rw [hpos]
    intro pos hmem
    obtain ⟨e, he, rfl⟩ := List.mem_map.mp hmem
    exact hkeeps e (List.mem_of_mem_filter he)
  · intro t ht
    rw [hcloses.closedTrades] at ht
    rcases List.mem_append.mp ht with ht | ht
    · obtain ⟨first, pos, candle', reason, price, hfirst, hsame, rfl⟩ := h.trades t ht
      exact ⟨first, pos, candle', reason, price, (hentry _).trans hfirst, hsame,
        (Portfolio.tradeOf_congr hcloses.config pos reason price).symm⟩
    · obtain ⟨e, he, hexit⟩ := List.mem_filterMap.mp ht
      obtain ⟨exit, -, rfl⟩ := Option.map_eq_some_iff.mp hexit
      obtain ⟨first, hfirst, hsame⟩ := hkeeps e he
      exact ⟨first, e.1, candle, exit.1, exit.2, hfirst, hsame,
        (Portfolio.tradeOf_congr hcloses.config e.1 exit.1 exit.2).symm⟩

theorem Sound.bar (h : d.Sound) (candle : HistoricalCandle) (atr : ℚ) :
    (d.step (.bar candle atr)).Sound := by
  obtain ⟨hpos, hcloses⟩ := Portfolio.updatePositions_passed h.nodup candle atr
  refine h.closes (d.step (.bar candle atr)) rfl (d.portfolio.passed_ids candle atr) ?_ hpos hcloses
  intro e he
  obtain ⟨pos, hpos, rfl⟩ := List.mem_map.mp he
  exact ⟨pos, hpos, pos.advance_sameEntry candle _ atr⟩

theorem Sound.finish (h : d.Sound) (candle : HistoricalCandle) : (d.step (.finish candle)).Sound := by
  obtain ⟨hpos, hcloses⟩ := Portfolio.closeAllPositions_passed h.nodup candle
  refine h.closes (d.step (.finish candle)) rfl (d.portfolio.passedAtEnd_ids candle) ?_ hpos hcloses
  intro e he
  obtain ⟨pos, hpos, rfl⟩ := List.mem_map.mp he
  exact ⟨pos, hpos, Position.SameEntry.refl pos⟩

/-- **Step.** The desk goes on knowing its openings. -/
theorem Sound.step (h : d.Sound) (event : DeskEvent) : (d.step event).Sound := by
  cases event with
  | opening fill terms => exact h.opening fill terms
  | bar candle atr => exact h.bar candle atr
  | finish candle => exact h.finish candle

/-- **Every run keeps what was entered.** -/
theorem run_sound (initialBalance : ℚ) (config : ExitConfig) (events : List DeskEvent) :
    (run step (new initialBalance config) events).Sound :=
  run_keeps (fun _ event h => h.step event) (new_sound initialBalance config) events

/-- The configuration stays. -/
theorem step_config (h : d.Sound) (event : DeskEvent) :
    (d.step event).portfolio.toExitConfig = d.portfolio.toExitConfig := by
  cases event with
  | opening fill terms => rw [h.portfolio_opening]
  | bar candle atr => exact (Portfolio.updatePositions_passed h.nodup candle atr).2.config
  | finish candle => exact (Portfolio.closeAllPositions_passed h.nodup candle).2.config

/-- No call changes the configuration. -/
theorem run_config (initialBalance : ℚ) (config : ExitConfig) (events : List DeskEvent) :
    (run step (new initialBalance config) events).portfolio.toExitConfig = config := by
  have hkeeps : (run step (new initialBalance config) events).Sound ∧
      (run step (new initialBalance config) events).portfolio.toExitConfig = config :=
    run_keeps (I := fun d : Desk => d.Sound ∧ d.portfolio.toExitConfig = config)
      (fun d event h => ⟨h.1.step event, (step_config h.1 event).trans h.2⟩)
      ⟨new_sound initialBalance config, rfl⟩ events
  exact hkeeps.2

end Desk

end PredictATrade.Research
