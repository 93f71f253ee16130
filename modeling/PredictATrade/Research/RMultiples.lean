import Mathlib.Algebra.Order.Group.Abs
import Mathlib.Algebra.Order.Field.Basic
import PredictATrade.Research.Trades

/-!
# `Research.RMultiples` — what a trade risked

The risk of a position is the distance from its entry to the stop that it was opened with. The stop is
then trailed and taken to break-even, in the same field: it never loosens (`advance_noLooser`), but
`check_break_even` and `_close_position` read the risk off it afterwards. `r_multiples_iff` says for every
run when that is the risk the position began with, or makes no difference.
-/

namespace PredictATrade.Research
open Lib.Runs

namespace Position
variable (pos : Position) (candle : HistoricalCandle) (config : ExitConfig) (atr : ℚ)

/-! ## The stop -/

/-- The distance from the entry to a stop. -/
def riskTo (stop : ℚ) : ℚ := |pos.entryPrice - stop|

/-- How far the bar has gone in favour of the position. -/
def favourable : ℚ :=
  if pos.isLong then candle.high - pos.entryPrice else pos.entryPrice - candle.low

/-- A stop that risks no more than the one of the position: not below it for a long, not above it for a
short. -/
def NoLooser (stop : ℚ) : Prop := if pos.isLong then pos.stopLoss ≤ stop else stop ≤ pos.stopLoss

/-- Where the bar trails the stop to. -/
def trailedStop : ℚ :=
  if config.trailingStopEnabled ∧ atr > 0 then
    if pos.isLong then
      if pos.trailingStop < candle.close - atr * config.trailingAtrMultiplier then
        max pos.stopLoss (candle.close - atr * config.trailingAtrMultiplier)
      else pos.stopLoss
    else
      if pos.trailingStop = 0 ∨
          candle.close + atr * config.trailingAtrMultiplier < pos.trailingStop then
        min pos.stopLoss (candle.close + atr * config.trailingAtrMultiplier)
      else pos.stopLoss
  else pos.stopLoss

/-- Break-even comes due at the bar, by the distance to the trailed stop. -/
def EvenDue : Prop :=
  config.breakEvenEnabled = true ∧ pos.breakEvenActive = false ∧
    0 < pos.riskTo (pos.trailedStop candle config atr) ∧
    config.breakEvenTriggerR * pos.riskTo (pos.trailedStop candle config atr) ≤
      pos.favourable candle

instance decidableEvenDue : Decidable (pos.EvenDue candle config atr) :=
  inferInstanceAs (Decidable (_ ∧ _ ∧ _ ∧ _))

/-- Where the bar leaves the stop. -/
def stopAfter : ℚ :=
  if pos.EvenDue candle config atr then
    if pos.isLong then max (pos.trailedStop candle config atr) pos.entryPrice
    else min (pos.trailedStop candle config atr) pos.entryPrice
  else pos.trailedStop candle config atr

variable {pos candle config atr}

theorem NoLooser.refl (pos : Position) : pos.NoLooser pos.stopLoss := by
  unfold NoLooser
  split <;> exact le_rfl

theorem trailed_stopLoss :
    ((pos.aged candle).trailed candle config atr).stopLoss = pos.trailedStop candle config atr := by
  unfold trailed trailedStop
  by_cases hon : config.trailingStopEnabled ∧ atr > 0
  · rw [if_pos hon, if_pos hon]
    unfold updateTrailingStop
    rw [if_neg (not_le.mpr hon.2)]
    dsimp only
    rw [show (pos.aged candle).isLong = pos.isLong from rfl]
    by_cases hlong : pos.isLong = true
    · rw [if_pos hlong, if_pos hlong]
      show (if candle.close - _ > pos.trailingStop then _ else pos.aged candle).stopLoss = _
      split
      · rw [max_def_lt]
        rfl
      · rfl
    · rw [if_neg hlong, if_neg hlong]
      show (if pos.trailingStop = 0 ∨ candle.close + _ < pos.trailingStop then _
        else pos.aged candle).stopLoss = _
      split
      · rw [min_comm, min_def_lt]
        rfl
      · rfl
  · rw [if_neg hon, if_neg hon]
    rfl

/-- Trailing does not look at the break-even. -/
theorem trailed_breakEvenActive :
    ((pos.aged candle).trailed candle config atr).breakEvenActive = pos.breakEvenActive := by
  unfold trailed updateTrailingStop
  dsimp only
  split_ifs <;> rfl

/-- What `check_break_even` does: the stop to the entry when it is due, and nothing otherwise. -/
theorem checkBreakEven_eq (r : ℚ) :
    pos.checkBreakEven candle r =
      if pos.breakEvenActive = false ∧ 0 < pos.riskTo pos.stopLoss ∧
          r * pos.riskTo pos.stopLoss ≤ pos.favourable candle then
        { pos with
          breakEvenActive := true
          breakEvenPrice := pos.entryPrice
          stopLoss := if pos.isLong then max pos.stopLoss pos.entryPrice
            else min pos.stopLoss pos.entryPrice }
      else pos := by
  unfold checkBreakEven riskTo favourable
  dsimp only
  by_cases hrisk : |pos.entryPrice - pos.stopLoss| ≤ 0
  · rw [if_pos hrisk, if_neg fun h => not_lt.mpr hrisk h.2.1]
  · rw [if_neg hrisk]
    cases hactive : pos.breakEvenActive <;> cases hlong : pos.isLong <;>
      simp [not_le.mp hrisk, le_sub_iff_add_le, add_comm]

/-- After the bar: the stop, and whether break-even is active. -/
theorem evened_spec (pos : Position) (candle : HistoricalCandle) (config : ExitConfig) (atr : ℚ) :
    let pos' := ((pos.aged candle).trailed candle config atr).evened candle config
    pos'.stopLoss = pos.stopAfter candle config atr ∧
      (pos'.breakEvenActive = true ↔
        pos.breakEvenActive = true ∨ pos.EvenDue candle config atr) := by
  intro pos'
  have hsame : (pos.aged candle).SameEntry ((pos.aged candle).trailed candle config atr) :=
    trailed_sameEntry _ config atr
  have hentry : ((pos.aged candle).trailed candle config atr).entryPrice = pos.entryPrice :=
    hsame.entryPrice
  have hlong : ((pos.aged candle).trailed candle config atr).isLong = pos.isLong := hsame.isLong
  show (evened _ candle config).stopLoss = _ ∧ ((evened _ candle config).breakEvenActive = true ↔ _)
  unfold evened stopAfter EvenDue
  by_cases hon : config.breakEvenEnabled = true
  · rw [if_pos hon, checkBreakEven_eq]
    unfold riskTo favourable
    rw [trailed_stopLoss, trailed_breakEvenActive, hentry, hlong]
    simp only [hon, true_and]
    by_cases hdue : pos.breakEvenActive = false ∧
        0 < |pos.entryPrice - pos.trailedStop candle config atr| ∧
        config.breakEvenTriggerR * |pos.entryPrice - pos.trailedStop candle config atr| ≤
          if pos.isLong then candle.high - pos.entryPrice else pos.entryPrice - candle.low
    · rw [if_pos hdue, if_pos hdue]
      exact ⟨rfl, iff_of_true rfl (Or.inr hdue)⟩
    · rw [if_neg hdue, if_neg hdue]
      refine ⟨trailed_stopLoss, ?_⟩
      rw [trailed_breakEvenActive, or_iff_left hdue]
  · have hno : ¬ pos.EvenDue candle config atr := fun h => hon h.1
    rw [if_neg hon]
    refine ⟨trailed_stopLoss.trans (if_neg hno).symm, ?_⟩
    rw [trailed_breakEvenActive]
    exact (or_iff_left hno).symm

variable (pos candle config atr)

theorem trailedStop_noLooser : pos.NoLooser (pos.trailedStop candle config atr) := by
  unfold NoLooser trailedStop
  by_cases hlong : pos.isLong = true
  · simp only [if_pos hlong]
    split_ifs
    · exact le_max_left _ _
    · exact le_rfl
    · exact le_rfl
  · simp only [if_neg hlong]
    split_ifs
    · exact min_le_left _ _
    · exact le_rfl
    · exact le_rfl

theorem stopAfter_noLooser : pos.NoLooser (pos.stopAfter candle config atr) := by
  have h := trailedStop_noLooser pos candle config atr
  unfold stopAfter
  split
  · unfold NoLooser at h ⊢
    by_cases hlong : pos.isLong = true
    · simp only [if_pos hlong] at h ⊢
      exact h.trans (le_max_left _ _)
    · simp only [if_neg hlong] at h ⊢
      exact (min_le_left _ _).trans h
  · exact h

/-- **The stop never loosens**, whatever the bar does. -/
theorem advance_noLooser : pos.NoLooser (pos.advance candle config atr).1.stopLoss := by
  cases h : pos.checkSlTp candle config.conservativeSlTp with
  | some exit =>
    rw [advance_of_hit h]
    exact NoLooser.refl pos
  | none =>
    rw [advance_of_none h, show Position.stopLoss _ = _ from (evened_spec pos candle config atr).1]
    exact pos.stopAfter_noLooser candle config atr

end Position

/-! ## The law -/

/-- The risk that a position begins with. -/
def Position.risk (pos : Position) : ℚ := pos.riskTo pos.stopLoss

/-- The trades that a step adds. -/
def Desk.newTrades (d : Desk) (event : DeskEvent) : List TradeRecord :=
  (d.step event).portfolio.closedTrades.drop d.portfolio.closedTrades.length

/-- What a step owes an open position that began as `first`: a stop that never loosens, a break-even that
becomes active at so many times the initial risk, and a result in units of the initial risk. -/
structure RLaw (d : Desk) (event : DeskEvent) (pos first : Position) : Prop where
  stop : ∀ pos' ∈ (d.step event).portfolio.positions, pos'.positionId = pos.positionId →
    pos.NoLooser pos'.stopLoss
  breakEven : ∀ candle atr, event = .bar candle atr → d.portfolio.breakEvenEnabled = true →
    ∀ pos' ∈ (d.step event).portfolio.positions, pos'.positionId = pos.positionId →
      (pos'.breakEvenActive = true ↔ pos.breakEvenActive = true ∨
        d.portfolio.breakEvenTriggerR * first.risk ≤ pos.favourable candle)
  closed : ∀ t ∈ d.newTrades event, t.tradeId = pos.positionId →
    pos.NoLooser t.stopLoss ∧
      t.pnlR = t.pnl / (first.risk * t.size * d.portfolio.contractSize)

/-- A call adds the trades of what it has gone over. -/
theorem Portfolio.Closes.newTrades {d : Desk} {event : DeskEvent} {candle : HistoricalCandle}
    {passed : List Passed} {exits : List ExitEvent}
    (h : d.portfolio.Closes candle passed ((d.step event).portfolio, exits)) :
    d.newTrades event = Passed.trades d.portfolio candle passed := by
  have hclosed : (d.step event).portfolio.closedTrades = _ := h.closedTrades
  unfold Desk.newTrades
  rw [hclosed, List.drop_left]

/-- The law for every open position. -/
def RMultiples (d : Desk) (event : DeskEvent) : Prop :=
  ∀ pos ∈ d.portfolio.positions, ∀ first, d.entry pos.positionId = some first → RLaw d event pos first

/-! ## When it makes no difference which risk is read -/

/-- A move that reaches `r` times both risks, or falls short of it for both. -/
def SameSide (r risk initial move : ℚ) : Prop :=
  (0 < risk ∧ r * risk ≤ move ∧ r * initial ≤ move) ∨
    (move < r * initial ∧ (risk = 0 ∨ move < r * risk))

/-- A position closed at a price with a stop as far as it was at first; or it comes to nothing, in size
or after costs. -/
def Position.RiskKept (pos first : Position) (contractSize stop price : ℚ) : Prop :=
  pos.riskTo stop = first.risk ∨ pos.size * contractSize = 0 ∨
    pos.unrealizedPnl price contractSize = pos.commission + pos.slippageCost + pos.spreadCost

/-- What a step needs for a position that began as `first`. -/
def StepKeepsRisk (d : Desk) (pos first : Position) : DeskEvent → Prop
  | .opening _ _ => True
  | .bar candle atr =>
    match pos.checkSlTp candle d.portfolio.conservativeSlTp with
    | some exit => pos.RiskKept first d.portfolio.contractSize pos.stopLoss exit.2
    | none =>
      if pos.TimeUp d.portfolio.toExitConfig then
        pos.RiskKept first d.portfolio.contractSize
          (pos.stopAfter candle d.portfolio.toExitConfig atr) candle.close
      else
        d.portfolio.breakEvenEnabled = true → pos.breakEvenActive = false →
          SameSide d.portfolio.breakEvenTriggerR
            (pos.riskTo (pos.trailedStop candle d.portfolio.toExitConfig atr)) first.risk
            (pos.favourable candle)
  | .finish candle => pos.RiskKept first d.portfolio.contractSize pos.stopLoss candle.close

/-- What a step needs for all open positions. -/
def KeepsRisk (d : Desk) (event : DeskEvent) : Prop :=
  ∀ pos ∈ d.portfolio.positions, ∀ first, d.entry pos.positionId = some first →
    StepKeepsRisk d pos first event

/-- When two multiples are on the same side of a bound. -/
theorem sameSide_iff (r : ℚ) {risk : ℚ} (initial move : ℚ) (h : 0 ≤ risk) :
    SameSide r risk initial move ↔ (0 < risk ∧ r * risk ≤ move ↔ r * initial ≤ move) := by
  unfold SameSide
  constructor
  · rintro (⟨hpos, hrisk, hinitial⟩ | ⟨hinitial, hrisk⟩)
    · exact iff_of_true ⟨hpos, hrisk⟩ hinitial
    · refine iff_of_false ?_ (not_le.mpr hinitial)
      rintro ⟨hpos, hle⟩
      rcases hrisk with rfl | hrisk
      · exact lt_irrefl _ hpos
      · exact not_le.mpr hrisk hle
  · intro hiff
    by_cases hinitial : r * initial ≤ move
    · obtain ⟨hpos, hrisk⟩ := hiff.mpr hinitial
      exact Or.inl ⟨hpos, hrisk, hinitial⟩
    · refine Or.inr ⟨not_le.mp hinitial, ?_⟩
      by_contra hno
      push Not at hno
      exact hinitial (hiff.mp ⟨lt_of_le_of_ne h (Ne.symm hno.1), hno.2⟩)

/-- A ratio read with another risk is the same one if the risks agree, or there is nothing to divide. -/
theorem ratio_eq_iff {net risk initial size : ℚ} (h : 0 ≤ risk) :
    (if risk > 0 then net / (risk * size) else 0) = net / (initial * size) ↔
      risk = initial ∨ size = 0 ∨ net = 0 := by
  by_cases hsize : size = 0
  · simp [hsize]
  by_cases hnet : net = 0
  · simp [hnet]
  simp only [hsize, hnet, or_false]
  rcases h.eq_or_lt with rfl | hpos
  · rw [if_neg (lt_irrefl _), eq_comm, div_eq_zero_iff, mul_eq_zero]
    simp only [hnet, hsize, false_or, or_false]
    exact eq_comm
  · rw [if_pos hpos]
    constructor
    · intro heq
      have hinv : (risk * size)⁻¹ = (initial * size)⁻¹ := by
        rw [div_eq_mul_inv, div_eq_mul_inv] at heq
        exact mul_left_cancel₀ hnet heq
      exact mul_right_cancel₀ hsize (inv_injective hinv)
    · rintro rfl
      rfl

/-- A trade of the position in units of its first risk. -/
theorem tradeOf_pnlR_iff (p : Portfolio) (candle : HistoricalCandle) (first : Position)
    {pos pos' : Position} (hsame : pos.SameEntry pos') (reason : ExitReason) (price : ℚ) :
    (p.tradeOf candle pos' reason price).pnlR =
        (p.tradeOf candle pos' reason price).pnl /
          (first.risk * (p.tradeOf candle pos' reason price).size * p.contractSize) ↔
      pos.RiskKept first p.contractSize pos'.stopLoss price := by
  have hnet : p.netPnl pos' price = 0 ↔ pos.unrealizedPnl price p.contractSize =
      pos.commission + pos.slippageCost + pos.spreadCost := by
    unfold Portfolio.netPnl
    rw [sub_eq_zero, hsame.commission, hsame.slippageCost, hsame.spreadCost]
    unfold Portfolio.grossPnl Position.unrealizedPnl
    rw [hsame.isLong, hsame.size, hsame.entryPrice]
  show (if |pos'.entryPrice - pos'.stopLoss| > 0 then
      p.netPnl pos' price / (|pos'.entryPrice - pos'.stopLoss| * pos'.size * p.contractSize) else 0) =
    p.netPnl pos' price / (first.risk * pos'.size * p.contractSize) ↔ _
  rw [mul_assoc, mul_assoc, ratio_eq_iff (abs_nonneg _), hnet, hsame.size, hsame.entryPrice]
  rfl

/-! ## One step -/

section
variable {d : Desk} {pos first : Position} {candle : HistoricalCandle} {atr : ℚ}

/-- The law for a position that a bar has passed. -/
theorem rLaw_bar_iff (hsound : d.Sound) (hpos : pos ∈ d.portfolio.positions) :
    RLaw d (.bar candle atr) pos first ↔
      ((pos.advance candle d.portfolio.toExitConfig atr).2 = none →
          d.portfolio.breakEvenEnabled = true →
          ((pos.advance candle d.portfolio.toExitConfig atr).1.breakEvenActive = true ↔
            pos.breakEvenActive = true ∨
              d.portfolio.breakEvenTriggerR * first.risk ≤ pos.favourable candle)) ∧
        ∀ exit ∈ (pos.advance candle d.portfolio.toExitConfig atr).2,
          pos.RiskKept first d.portfolio.contractSize
            (pos.advance candle d.portfolio.toExitConfig atr).1.stopLoss exit.2 := by
  obtain ⟨hopen, hcloses⟩ := Portfolio.updatePositions_passed hsound.nodup candle atr
  have hnd := (d.portfolio.passed_ids candle atr).symm ▸ hsound.nodup
  have hsame := pos.advance_sameEntry candle d.portfolio.toExitConfig atr
  have htight := pos.advance_noLooser candle d.portfolio.toExitConfig atr
  have he : pos.advance candle d.portfolio.toExitConfig atr ∈ d.portfolio.passed candle atr :=
    List.mem_map_of_mem hpos
  have hpositions : (d.step (.bar candle atr)).portfolio.positions =
      Passed.kept (d.portfolio.passed candle atr) := hopen
  have htrades : d.newTrades (.bar candle atr) =
      Passed.trades d.portfolio candle (d.portfolio.passed candle atr) := hcloses.newTrades
  generalize pos.advance candle d.portfolio.toExitConfig atr = e at hsame htight he ⊢
  have hkept := fun pos' => Passed.mem_kept_iff hnd he pos'
  have hclosed := fun t => Passed.mem_trades_iff hnd he d.portfolio candle t
  rw [hsame.positionId, ← hpositions] at hkept
  rw [hsame.positionId, ← htrades] at hclosed
  constructor
  · intro hlaw
    refine ⟨fun hnone hon => ?_, fun exit hexit => ?_⟩
    · obtain ⟨hmem, hid⟩ := (hkept e.1).mpr ⟨hnone, rfl⟩
      exact hlaw.breakEven candle atr rfl hon e.1 hmem hid
    · obtain ⟨hmem, hid⟩ := (hclosed _).mpr ⟨exit, hexit, rfl⟩
      exact (tradeOf_pnlR_iff d.portfolio candle first hsame exit.1 exit.2).mp (hlaw.closed _ hmem hid).2
  · rintro ⟨heven, hrisk⟩
    refine ⟨fun pos' hmem hid => ?_, fun candle' atr' heq hon pos' hmem hid => ?_,
      fun t ht hid => ?_⟩
    · obtain ⟨-, rfl⟩ := (hkept pos').mp ⟨hmem, hid⟩
      exact htight
    · cases heq
      obtain ⟨hnone, rfl⟩ := (hkept pos').mp ⟨hmem, hid⟩
      exact heven hnone hon
    · obtain ⟨exit, hexit, rfl⟩ := (hclosed t).mp ⟨ht, hid⟩
      exact ⟨htight, (tradeOf_pnlR_iff d.portfolio candle first hsame exit.1 exit.2).mpr (hrisk exit hexit)⟩

/-- **One bar.** -/
theorem rLaw_bar (hsound : d.Sound) (hpos : pos ∈ d.portfolio.positions) :
    RLaw d (.bar candle atr) pos first ↔ StepKeepsRisk d pos first (.bar candle atr) := by
  rw [rLaw_bar_iff hsound hpos]
  cases hhit : pos.checkSlTp candle d.portfolio.conservativeSlTp with
  | some exit =>
    simp only [StepKeepsRisk, hhit]
    rw [Position.advance_of_hit hhit]
    constructor
    · exact fun h => h.2 exit rfl
    · intro h
      constructor
      · intro hnone
        cases hnone
      · intro exit' hexit
        cases hexit
        exact h
  | none =>
    obtain ⟨hstop, hactive⟩ := Position.evened_spec pos candle d.portfolio.toExitConfig atr
    simp only [StepKeepsRisk, hhit]
    rw [Position.advance_of_none hhit]
    dsimp only
    rw [hstop, hactive]
    by_cases hup : pos.TimeUp d.portfolio.toExitConfig
    · rw [if_pos hup, if_pos hup]
      constructor
      · exact fun h => h.2 _ rfl
      · intro h
        constructor
        · intro hnone
          cases hnone
        · intro exit hexit
          cases hexit
          exact h
    · rw [if_neg hup, if_neg hup]
      have hside := sameSide_iff d.portfolio.breakEvenTriggerR first.risk (pos.favourable candle)
        (abs_nonneg (pos.entryPrice - pos.trailedStop candle d.portfolio.toExitConfig atr))
      constructor
      · rintro ⟨h, -⟩ hon hnot
        refine hside.mpr ?_
        have hiff := h rfl hon
        simp only [hnot, Bool.false_eq_true, false_or] at hiff
        rw [← hiff]
        exact ⟨fun hdue => ⟨hon, hnot, hdue⟩, fun hdue => ⟨hdue.2.2.1, hdue.2.2.2⟩⟩
      · intro h
        refine ⟨fun _ hon => or_congr_right' fun hnot => ?_, fun exit hexit => by cases hexit⟩
        rw [Bool.not_eq_true] at hnot
        rw [← hside.mp (h hon hnot)]
        exact ⟨fun hdue => ⟨hdue.2.2.1, hdue.2.2.2⟩, fun hdue => ⟨hon, hnot, hdue⟩⟩

/-- **The end of the backtest.** -/
theorem rLaw_finish (hsound : d.Sound) (hpos : pos ∈ d.portfolio.positions) :
    RLaw d (.finish candle) pos first ↔ StepKeepsRisk d pos first (.finish candle) := by
  obtain ⟨hopen, hcloses⟩ := Portfolio.closeAllPositions_passed hsound.nodup candle
  have hnd := (d.portfolio.passedAtEnd_ids candle).symm ▸ hsound.nodup
  have he : (pos, some (ExitReason.endOfBacktest, candle.close)) ∈
      d.portfolio.passedAtEnd candle := List.mem_map_of_mem hpos
  have hpositions : (d.step (.finish candle)).portfolio.positions =
      Passed.kept (d.portfolio.passedAtEnd candle) := hopen
  have htrades : d.newTrades (.finish candle) =
      Passed.trades d.portfolio candle (d.portfolio.passedAtEnd candle) := hcloses.newTrades
  have hkept := fun pos' => Passed.mem_kept_iff hnd he pos'
  have hclosed := fun t => Passed.mem_trades_iff hnd he d.portfolio candle t
  rw [← hpositions] at hkept
  rw [← htrades] at hclosed
  have hrisk := tradeOf_pnlR_iff d.portfolio candle first (Position.SameEntry.refl pos) .endOfBacktest candle.close
  constructor
  · intro hlaw
    obtain ⟨hmem, hid⟩ := (hclosed _).mpr ⟨_, rfl, rfl⟩
    exact hrisk.mp (hlaw.closed _ hmem hid).2
  · intro h
    refine ⟨fun pos' hmem hid => ?_, fun candle' atr' heq => ?_, fun t ht hid => ?_⟩
    · obtain ⟨hnone, -⟩ := (hkept pos').mp ⟨hmem, hid⟩
      cases hnone
    · cases heq
    · obtain ⟨exit, hexit, rfl⟩ := (hclosed t).mp ⟨ht, hid⟩
      cases hexit
      exact ⟨Position.NoLooser.refl pos, hrisk.mpr h⟩

/-- An opening leaves the other positions alone. -/
theorem rLaw_opening (hsound : d.Sound) (hpos : pos ∈ d.portfolio.positions) (fill : FillEvent)
    (terms : Terms) : RLaw d (.opening fill terms) pos first := by
  have hportfolio := hsound.portfolio_opening fill terms
  have hnd := (hsound.step (.opening fill terms)).nodup
  refine ⟨fun pos' hmem hid => ?_, fun candle' atr' heq => ?_, fun t ht => ?_⟩
  · have hpos' : pos ∈ (d.step (.opening fill terms)).portfolio.positions := by
      rw [hportfolio]
      exact List.mem_append_left _ hpos
    obtain rfl := Lib.Table.eq_of_key hnd hmem hpos' hid
    exact Position.NoLooser.refl pos'
  · cases heq
  · unfold Desk.newTrades at ht
    rw [hportfolio, List.drop_length] at ht
    cases ht

/-- **One step**, for all open positions. -/
theorem rMultiples_iff (hsound : d.Sound) (event : DeskEvent) :
    RMultiples d event ↔ KeepsRisk d event := by
  refine forall₂_congr fun pos hpos => forall₂_congr fun first _ => ?_
  cases event with
  | opening fill terms => exact iff_of_true (rLaw_opening hsound hpos fill terms) trivial
  | bar candle atr => exact rLaw_bar hsound hpos
  | finish candle => exact rLaw_finish hsound hpos

end

/-! ## Runs -/

/-- **R multiples refer to the initial risk** throughout a run exactly when each step either finds the
stops as far as they were at first, or comes out the same with both risks. -/
theorem r_multiples_iff (initialBalance : ℚ) (config : ExitConfig) (events : List DeskEvent) :
    Along Desk.step RMultiples (.new initialBalance config) events ↔
      Along Desk.step KeepsRisk (.new initialBalance config) events :=
  along_congr (I := Desk.Sound) (fun _ event h => h.step event)
    (fun _ event h => rMultiples_iff h event) (Desk.new_sound initialBalance config)

/-! ## A stop trailed past the entry -/

/-- Bought at 100 with the stop at 90; the next bar comes to 106 and trails the stop to 101. -/
def trailedPast : List DeskEvent :=
  [.opening
      { timestamp := 0, direction := .buy, fillPrice := 100, requestedPrice := 100, size := 1 }
      { signalId := "", strategyId := "", stopLoss := 90, takeProfit := 200 },
    .bar { timestamp := 300000000, opening := 104, high := 106, low := 104, close := 105 } 2]

/-- Break-even becomes active at six tenths of the initial risk. -/
theorem not_r_multiples :
    ¬∀ (initialBalance : ℚ) (config : ExitConfig) (events : List DeskEvent),
      Along Desk.step RMultiples (.new initialBalance config) events := by
  intro h
  have hbar := (h 10000 {} trailedPast).2.1
  let d := Desk.step (.new 10000 {}) (trailedPast.head (by decide))
  have hlaw := hbar (d.portfolio.positions.head (by decide +kernel)) (List.head_mem _) _ rfl
  have hiff := hlaw.breakEven _ _ rfl (by decide +kernel)
    ((d.step (.bar { timestamp := 300000000, opening := 104, high := 106, low := 104, close := 105 }
      2)).portfolio.positions.head (by decide +kernel)) (List.head_mem _) (by decide +kernel)
  revert hiff
  decide +kernel

end PredictATrade.Research
