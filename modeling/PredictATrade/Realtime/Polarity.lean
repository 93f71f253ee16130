import PredictATrade.Lib.Runs
import PredictATrade.Realtime.Evidence

/-!
# `Realtime.Polarity` — does the sign survive?

A sweep that ends below its pool is bearish, one that ends above it bullish; a pullback is bought in
a bullish trend and sold in a bearish one. The liquidity engine tells the strategies about a sweep
by a direction text, the pullback engine about a trend by the place of its anchor, and the
strategies turn both into evidence. `Polarised` says that the evidence has the sign of the event.

The direction text is read the other way round than it is written, so that every sweep gives
evidence of the wrong sign (`sweepEvidence_of_wick`); the anchor is compared the other way round as
well, so that a pullback gives evidence of the right sign only where the price the strategies see
has meanwhile crossed the anchor. `polarised_iff` says exactly which runs stay right.
-/

namespace PredictATrade.Realtime.Features
open Lib.Decimal Lib.Runs Strategy

/-! ## Evidence -/

/-- The evidence that the strategies take from the latest sweep. -/
def liquidityEvidence (st : MarketState) : List EvidenceContribution :=
  standardScalpingSweep st ++ ultraScalpingSweep st ++ standardSwingSweep st ++
    computeRangeSweep st ++ computeUltraRangeSweep st

/-! ## What a sweep is -/

/-- The side of a pool on which the wick of a sweep lies; its close is on the other side. -/
inductive Wick where
  | above | below
  deriving DecidableEq, Repr

/-- How a candle sweeps a price, if it does. -/
def crossing (c : Candle) (price : Decimal) : Option Wick :=
  if price ≤ c.high ∧ c.close < price then some .above
  else if c.low ≤ price ∧ price < c.close then some .below
  else none

/-- How a candle sweeps a pool that has not been swept before. -/
def crossed (c : Candle) (pool : LiquidityPool) : Option Wick :=
  if pool.swept then none else crossing c pool.price

/-- The direction text the engine writes for a sweep. -/
def Wick.text : Wick → String
  | .above => "SELL_SIDE_SWEEP"
  | .below => "BUY_SIDE_SWEEP"

/-! ## The run -/

/-- The engines, the last candle with the state the strategies saw at its close, and how the latest
sweep of the run lay to its pool. -/
structure Sys where
  registry : Registry := {}
  seen : Option (Candle × MarketState) := none
  wick : Option Wick := none
  deriving DecidableEq, Repr

/-- A closed candle, the true range reported for it, and the last tick. -/
structure Input where
  candle : Candle
  atr : Decimal
  lastTick : Option Tick
  deriving DecidableEq, Repr

namespace Input
variable (s : Sys) (i : Input)

/-- The structure report on the candle. -/
def structureAfter : StructureFeatures := (s.registry.structureEngine.process i.candle).2

/-- The pools that the candle is compared with. -/
def pools : List LiquidityPool :=
  s.registry.liquidityEngine.poolsFor i.candle (i.structureAfter s).swingHighs

/-- What the strategies see at the candle's close. -/
def state : MarketState := (s.registry.evaluate i.candle i.atr i.lastTick).2

theorem state_currentPrice : (i.state s).currentPrice = currentPrice i.candle i.lastTick := rfl

theorem state_structure : (i.state s).structure_ = i.structureAfter s := rfl

theorem state_pullback : (i.state s).pullback =
    (s.registry.pullbackEngine.processEvaluated (i.structureAfter s) i.candle.close i.atr).2 := rfl

end Input

/-- The engines after one more input. -/
def step (s : Sys) (i : Input) : Sys where
  registry := (s.registry.evaluate i.candle i.atr i.lastTick).1
  seen := some (i.candle, i.state s)
  wick := ((i.pools s).filterMap (crossed i.candle)).getLast?.or s.wick

/-- Evidence from the latest sweep is BUY only if the wick was below the pool and SELL only if it
was above. -/
def LiquidityRight (wick : Option Wick) (st : MarketState) : Prop :=
  ∀ e ∈ liquidityEvidence st,
    (e.direction = .buy → wick = some .below) ∧ (e.direction = .sell → wick = some .above)

/-- Evidence from a pullback is BUY only in a bullish trend, the close lying between the anchor and
the extreme above it, and SELL only in a bearish one. -/
def PullbackRight (c : Candle) (st : MarketState) : Prop :=
  ∀ e ∈ addPullbackEvidence st,
    (e.direction = .buy → st.structure_.currentTrend = .bullish ∧
      st.pullback.pullbackAnchor < c.close ∧ c.close < st.pullback.pullbackExtreme) ∧
    (e.direction = .sell → st.structure_.currentTrend = .bearish)

/-- **Evidence polarity**, in what the strategies have seen last. -/
def Polarised (s : Sys) : Prop :=
  ∀ seen ∈ s.seen, LiquidityRight s.wick seen.2 ∧ PullbackRight seen.1 seen.2

/-! ## Sweeps -/

theorem getLast?_keepLast {α : Type} {n : ℕ} (h : 0 < n) (l : List α) :
    (keepLast n l).getLast? = l.getLast? := by
  rw [keepLast, List.getLast?_drop]
  split
  · have hl : l.length = 0 := by omega
    rw [List.length_eq_zero_iff.mp hl]; rfl
  · rfl

/-- The texts of a pool's events are those of its sweep. -/
theorem sweepEvents_direction (c : Candle) (pool : LiquidityPool) :
    (LiquidityEngine.sweepEvents c pool).map (·.direction) =
      ((crossed c pool).map Wick.text).toList := by
  simp only [LiquidityEngine.sweepEvents, crossed]
  cases pool.swept with
  | true => rfl
  | false =>
    simp only [Bool.false_eq_true, if_false, crossing]
    by_cases habove : pool.price ≤ c.high ∧ c.close < pool.price
    · -- a close below the price is not above it
      have hbelow : ¬ (c.low ≤ pool.price ∧ pool.price < c.close) := fun h =>
        absurd h.2 (not_lt.mpr habove.2.le)
      rw [if_pos habove, if_neg hbelow, if_pos habove]; rfl
    · rw [if_neg habove, if_neg habove]
      split <;> rfl

theorem flatMap_sweepEvents_direction (c : Candle) (pools : List LiquidityPool) :
    (pools.flatMap (LiquidityEngine.sweepEvents c)).map (·.direction) =
      (pools.filterMap (crossed c)).map Wick.text := by
  induction pools with
  | nil => rfl
  | cons pool pools ih =>
    rw [List.flatMap_cons, List.map_append, ih, sweepEvents_direction]
    cases hc : crossed c pool with
    | none => simp [hc]
    | some w => simp [hc]

/-- The text of the latest sweep on file is the one for the latest sweep of the run. -/
def Labelled (s : Sys) : Prop :=
  s.registry.liquidityEngine.sweeps.getLast?.map (·.direction) = s.wick.map Wick.text

/-- The sweeps that are remembered after a candle. -/
theorem step_sweeps (s : Sys) (i : Input) :
    (step s i).registry.liquidityEngine.sweeps = keepLast 10
      (s.registry.liquidityEngine.sweeps ++
        (i.pools s).flatMap (LiquidityEngine.sweepEvents i.candle)) := rfl

/-- **The labels are kept up to date**, by every candle. -/
theorem Labelled.step {s : Sys} (h : Labelled s) (i : Input) : Labelled (step s i) := by
  have hnew := congrArg List.getLast? (flatMap_sweepEvents_direction i.candle (i.pools s))
  rw [List.getLast?_map, List.getLast?_map] at hnew
  rw [Labelled, step_sweeps, getLast?_keepLast (by decide), List.getLast?_append]
  show Option.map _ _ = Option.map _ (Option.or _ s.wick)
  rw [Option.map_or, Option.map_or, hnew, h]

/-- The strategies see the sweeps on file. -/
theorem state_recentSweeps (s : Sys) (i : Input) :
    (i.state s).liquidity.recentSweeps = (step s i).registry.liquidityEngine.sweeps := rfl

/-- What polarised says after a candle. -/
theorem polarised_step {s : Sys} {i : Input} : Polarised (step s i) ↔
    LiquidityRight (step s i).wick (i.state s) ∧ PullbackRight i.candle (i.state s) := by
  simp only [Polarised, step, Option.mem_some_iff, forall_eq']

/-- The sign of the evidence from a sweep: BUY for a wick above the pool, SELL for one below. -/
def Wick.evidence : Wick → Direction
  | .above => .buy
  | .below => .sell

/-- **The sign is inverted.** Each strategy's evidence from the latest sweep is BUY when its wick was
above the pool, and SELL when it was below. -/
theorem sweepEvidence_of_wick {st : MarketState} {w : Wick} {f g r q : String} {m n : Float64}
    (h : st.liquidity.recentSweeps.getLast?.map (·.direction) = some w.text) :
    ∃ e, sweepEvidence f g m n r q st = [e] ∧ e.direction = w.evidence := by
  obtain ⟨sweep, hlast, htext⟩ := Option.map_eq_some_iff.mp h
  have hsell : sweepIsSellSide "BUY_SIDE_SWEEP" = false := by decide
  have hbuy : sweepIsBuySide "BUY_SIDE_SWEEP" = true := by decide
  have hsell' : sweepIsSellSide "SELL_SIDE_SWEEP" = true := by decide
  cases w with
  | above =>
    simp only [Wick.text] at htext
    simp only [sweepEvidence, hlast, htext, hsell', if_true]
    exact ⟨_, rfl, rfl⟩
  | below =>
    simp only [Wick.text] at htext
    simp only [sweepEvidence, hlast, htext, hsell, hbuy, if_true, Bool.false_eq_true, if_false]
    exact ⟨_, rfl, rfl⟩

theorem sweepEvidence_of_no_sweep {st : MarketState} {f g r q : String} {m n : Float64}
    (h : st.liquidity.recentSweeps.getLast? = none) : sweepEvidence f g m n r q st = [] := by
  simp only [sweepEvidence, h]

theorem liquidityEvidence_of_no_sweep {st : MarketState}
    (h : st.liquidity.recentSweeps.getLast? = none) : liquidityEvidence st = [] := by
  simp [liquidityEvidence, standardScalpingSweep, ultraScalpingSweep, standardSwingSweep,
    computeRangeSweep, computeUltraRangeSweep, sweepEvidence_of_no_sweep h]

/-- Once a sweep is on record, the evidence has the wrong sign. -/
theorem not_liquidityRight {st : MarketState} {w : Wick}
    (h : st.liquidity.recentSweeps.getLast?.map (·.direction) = some w.text) :
    ¬ LiquidityRight (some w) st := by
  intro hright
  obtain ⟨e, he, hdir⟩ := sweepEvidence_of_wick (f := "SELL_SIDE_SWEEP") (g := "BUY_SIDE_SWEEP")
    (m := 12) (n := 8 / 100) (r := "") (q := "") h
  have hscalping : e ∈ standardScalpingSweep st := by
    show e ∈ sweepEvidence _ _ _ _ _ _ st
    rw [he]; exact List.mem_singleton.mpr rfl
  have hpol := hright e (by simp [liquidityEvidence, hscalping])
  rw [hdir] at hpol
  cases w with
  | above => exact absurd (hpol.1 rfl) (by decide)
  | below => exact absurd (hpol.2 rfl) (by decide)

/-! ## Pullbacks -/

/-- A candle that leaves the trend bullish does not close below the last swing low. -/
theorem breakDown_bullish {c : Candle} {feat : StructureFeatures} {e : StructureEngine}
    (h : (e.breakDown c feat).1.lastTrend = .bullish) {low : Decimal}
    (hlow : feat.swingLows.getLast? = some low) : low ≤ c.close := by
  by_contra hlt
  have hlt : c.close < low := not_le.mp hlt
  simp only [StructureEngine.breakDown, hlow, hlt, if_true] at h
  cases ht : e.lastTrend <;> simp [ht] at h

theorem breakDown_feat {c : Candle} {feat : StructureFeatures} {e : StructureEngine} :
    (e.breakDown c feat).2.swingLows = feat.swingLows := by
  simp only [StructureEngine.breakDown]
  split
  · rfl
  · split
    · split <;> rfl
    · rfl

/-- **In a bullish trend the close is not below the anchor.** -/
theorem close_ge_anchor {c : Candle} {e : StructureEngine} {anchor : Decimal}
    (h : trendAnchor (e.process c).2 = some (.buy, anchor)) : anchor ≤ c.close := by
  simp only [StructureEngine.process, StructureEngine.followTrend, trendAnchor] at h
  split at h
  · rename_i ht
    obtain ⟨a, ha, heq⟩ := Option.map_eq_some_iff.mp h
    obtain rfl : a = anchor := (Prod.mk.inj heq).2
    rw [breakDown_feat] at ha
    exact breakDown_bullish ht ha
  · obtain ⟨a, -, heq⟩ := Option.map_eq_some_iff.mp h
    cases (Prod.mk.inj heq).1
  · cases h

/-- The price in a pullback of a trend with an anchor: it is neither the anchor nor as far as the
extreme, has come back far enough but not all the way, and the pullback is good enough to be shown
as evidence. -/
structure Retraces (e : PullbackEngine) (dir : Direction) (anchor price atr : Decimal) : Prop where
  price_ne : price ≠ 0
  anchor_ne : price ≠ anchor
  extreme_ne : e.extremeAfter dir price ≠ anchor
  active : pullbackActive (pullbackDepth (e.extremeAfter dir price) anchor price) = true
  quality : 3 / 10 ≤ pullbackQuality (pullbackDepth (e.extremeAfter dir price) anchor price)
    (pullbackATRNorm (e.extremeAfter dir price) price atr)

/-- The pullback that a candle shows as evidence lies on the side the strategies take it for: the
price they see is below the anchor exactly in a bullish trend. -/
def OnSide (s : Sys) (i : Input) : Prop :=
  ∀ dir anchor, trendAnchor (i.structureAfter s) = some (dir, anchor) →
    Retraces s.registry.pullbackEngine dir anchor i.candle.close i.atr →
    (currentPrice i.candle i.lastTick < anchor ↔ dir = .buy)

section
variable {s : Sys} {i : Input} {e : PullbackEngine} {f : StructureFeatures} {dir : Direction}
  {anchor price atr : Decimal}

theorem trendAnchor_dir (h : trendAnchor f = some (dir, anchor)) :
    dir = .buy ∧ f.currentTrend = .bullish ∨ dir = .sell ∧ f.currentTrend = .bearish := by
  simp only [trendAnchor] at h
  split at h
  · obtain ⟨a, -, heq⟩ := Option.map_eq_some_iff.mp h
    exact .inl ⟨(Prod.mk.inj heq).1.symm, ‹_›⟩
  · obtain ⟨a, -, heq⟩ := Option.map_eq_some_iff.mp h
    exact .inr ⟨(Prod.mk.inj heq).1.symm, ‹_›⟩
  · cases h

/-- The anchor of a trend does not move its extreme. -/
theorem extremeAfter_anchored {d : Option Direction} :
    ({ e with trendAnchorPrice := anchor, trendDirection := d }).extremeAfter dir price =
      e.extremeAfter dir price := rfl

/-- The report of a pullback that retraces. -/
theorem processEvaluated_of_retraces (h : trendAnchor f = some (dir, anchor))
    (hr : Retraces e dir anchor price atr) :
    let pf := (e.processEvaluated f price atr).2
    pf.pullbackActive = true ∧ 3 / 10 ≤ pf.pullbackQuality ∧ pf.pullbackDepthPct ≠ 0 ∧
      pf.pullbackAnchor = anchor ∧ pf.pullbackExtreme = e.extremeAfter dir price := by
  have hdepth : pullbackDepth (e.extremeAfter dir price) anchor price ≠ 0 := by
    intro h0
    have hact := hr.active
    simp only [pullbackActive, h0, decide_eq_true_eq] at hact
    exact absurd hact.1 (by norm_num)
  have hact := hr.active
  simp only [PullbackEngine.processEvaluated, if_neg hr.price_ne, h, PullbackEngine.measure,
    if_neg hr.anchor_ne]
  rw [extremeAfter_anchored, if_neg hr.extreme_ne]
  refine ⟨hact, ?_, hdepth, rfl, rfl⟩
  simp only [hact, if_true]
  exact hr.quality

/-- What the pullback engine reports otherwise is not shown as evidence. -/
theorem processEvaluated_of_not_retraces
    (h : ∀ dir anchor, trendAnchor f = some (dir, anchor) → ¬ Retraces e dir anchor price atr) :
    let pf := (e.processEvaluated f price atr).2
    pf.pullbackActive = false ∨ pf.pullbackQuality < 3 / 10 := by
  simp only [PullbackEngine.processEvaluated]
  by_cases hp : price = 0
  · rw [if_pos hp]; exact .inl rfl
  rw [if_neg hp]
  cases ha : trendAnchor f with
  | none => exact .inl rfl
  | some a =>
    obtain ⟨dir, anchor⟩ := a
    simp only [PullbackEngine.measure]
    by_cases hanchor : price = anchor
    · rw [if_pos hanchor]; exact .inl rfl
    rw [if_neg hanchor, extremeAfter_anchored]
    by_cases hextreme : e.extremeAfter dir price = anchor
    · rw [if_pos hextreme]; exact .inl rfl
    rw [if_neg hextreme]
    cases hact : pullbackActive (pullbackDepth (e.extremeAfter dir price) anchor price) with
    | false => exact .inl rfl
    | true =>
      right
      simp only [if_true]
      by_contra hq
      exact h dir anchor ha ⟨hp, hanchor, hextreme, hact, not_lt.mp hq⟩

/-- **A pullback is bought below its anchor and sold above it.** -/
theorem addPullbackEvidence_of_retraces {st : MarketState}
    (hact : st.pullback.pullbackActive = true) (hq : 3 / 10 ≤ st.pullback.pullbackQuality)
    (hd : st.pullback.pullbackDepthPct ≠ 0) :
    ∃ ev, addPullbackEvidence st = [ev] ∧
      ev.direction = if st.currentPrice < st.pullback.pullbackAnchor then .buy else .sell := by
  have hq' : ¬ toFloat st.pullback.pullbackQuality < 3 / 10 := not_lt.mpr hq
  simp only [addPullbackEvidence, hact, Bool.true_eq_false, if_false, if_neg hq', if_neg hd]
  split <;> exact ⟨_, rfl, rfl⟩

theorem addPullbackEvidence_of_not_shown {st : MarketState}
    (h : st.pullback.pullbackActive = false ∨ st.pullback.pullbackQuality < 3 / 10) :
    addPullbackEvidence st = [] := by
  simp only [addPullbackEvidence]
  rcases h with h | h
  · rw [if_pos h]
  · have hq : toFloat st.pullback.pullbackQuality < 3 / 10 := h
    rw [if_pos hq, ite_self]

/-- The price of an active pullback has left the extreme. -/
theorem Retraces.price_ne_extreme (hr : Retraces e dir anchor price atr) :
    price ≠ e.extremeAfter dir price := by
  intro heq
  have hact := hr.active
  have hzero : pullbackDepth (e.extremeAfter dir price) anchor price = 0 := by
    rw [pullbackDepth, ← heq, sub_self, abs_zero, decimalDiv, zero_div]
    exact roundPlaces_of_hasPlaces ⟨0, by simp⟩
  simp only [pullbackActive, hzero, decide_eq_true_eq] at hact
  exact absurd hact.1 (by norm_num)

theorem le_extremeAfter : price ≤ e.extremeAfter .buy price := by
  simp only [PullbackEngine.extremeAfter]
  by_cases h : (if e.trendExtreme = 0 then price else e.trendExtreme) < price
  · rw [if_pos h]
  · rw [if_neg h]; exact not_lt.mp h

/-- **A pullback in a bullish trend** lies between the swing low it is anchored at and the extreme
above it. -/
theorem Retraces.between {c : Candle} {eng : StructureEngine}
    (h : trendAnchor (eng.process c).2 = some (.buy, anchor))
    (hr : Retraces e .buy anchor c.close atr) :
    anchor < c.close ∧ c.close < e.extremeAfter .buy c.close :=
  ⟨lt_of_le_of_ne (close_ge_anchor h) hr.anchor_ne.symm,
    lt_of_le_of_ne le_extremeAfter hr.price_ne_extreme⟩

/-! ## Which runs stay right -/

/-- A candle that the evidence stays right on: it sweeps no pool, and the pullback it shows lies on
the side it is taken for. -/
structure RightSide (s : Sys) (i : Input) : Prop where
  noSweep : ∀ pool ∈ i.pools s, crossed i.candle pool = none
  onSide : OnSide s i

/-- The invariant of a run that stays right: no sweep is on record. -/
structure Unswept (s : Sys) : Prop where
  labelled : Labelled s
  wick : s.wick = none
  polarised : Polarised s

/-- A candle that crosses no pool leaves the last wick. -/
theorem step_wick_of_noSweep (h : ∀ pool ∈ i.pools s, crossed i.candle pool = none) :
    (step s i).wick = s.wick := by
  have hnil : (i.pools s).filterMap (crossed i.candle) = [] := List.filterMap_eq_nil_iff.mpr h
  show (((i.pools s).filterMap (crossed i.candle)).getLast?).or s.wick = s.wick
  rw [hnil]; rfl

/-- A candle that crosses a pool leaves a wick. -/
theorem step_wick_of_sweep {pool : LiquidityPool} (hp : pool ∈ i.pools s)
    (h : crossed i.candle pool ≠ none) : ∃ w, (step s i).wick = some w := by
  have hne : (i.pools s).filterMap (crossed i.candle) ≠ [] := fun hnil =>
    h (List.filterMap_eq_nil_iff.mp hnil pool hp)
  refine ⟨List.getLast _ hne, ?_⟩
  show (((i.pools s).filterMap (crossed i.candle)).getLast?).or s.wick = _
  rw [List.getLast?_eq_getLast_of_ne_nil hne]; rfl

/-- Where the last text is that of no sweep, no sweep is on file. -/
theorem Labelled.no_sweep (h : Labelled s) (hw : s.wick = none) :
    s.registry.liquidityEngine.sweeps.getLast? = none := by
  rw [Labelled, hw] at h
  exact Option.map_eq_none_iff.mp h

/-- The side a candle's pullback is taken for, where one is shown as evidence. -/
theorem pullbackEvidence_of_retraces (ha : trendAnchor (i.structureAfter s) = some (dir, anchor))
    (hr : Retraces s.registry.pullbackEngine dir anchor i.candle.close i.atr) :
    (i.state s).pullback.pullbackAnchor = anchor ∧
      (i.state s).pullback.pullbackExtreme =
        s.registry.pullbackEngine.extremeAfter dir i.candle.close ∧
      ∃ ev, addPullbackEvidence (i.state s) = [ev] ∧
        ev.direction = if currentPrice i.candle i.lastTick < anchor then .buy else .sell := by
  obtain ⟨hact, hq, hd, hanchor, hextreme⟩ := processEvaluated_of_retraces ha hr
  rw [← Input.state_pullback] at hact hq hd hanchor hextreme
  obtain ⟨ev, hev, hdir⟩ := addPullbackEvidence_of_retraces hact hq hd
  rw [hanchor, Input.state_currentPrice] at hdir
  exact ⟨hanchor, hextreme, ev, hev, hdir⟩

/-- The evidence of the candle's pullback is right exactly when the pullback lies on the side it is
taken for. -/
theorem pullbackRight_iff : PullbackRight i.candle (i.state s) ↔ OnSide s i := by
  constructor
  · intro h dir anchor ha hr
    obtain ⟨-, -, ev, hev, hdir⟩ := pullbackEvidence_of_retraces ha hr
    have hright := h ev (by rw [hev]; exact List.mem_singleton.mpr rfl)
    rw [Input.state_structure] at hright
    rcases trendAnchor_dir ha with ⟨rfl, ht⟩ | ⟨rfl, ht⟩
    · refine iff_of_true ?_ rfl
      by_contra hlt
      have htrend := hright.2 (by rw [hdir, if_neg hlt])
      rw [ht] at htrend; cases htrend
    · refine iff_of_false (fun hlt => ?_) (by decide)
      have htrend := (hright.1 (by rw [hdir, if_pos hlt])).1
      rw [ht] at htrend; cases htrend
  · intro h ev hev
    by_cases hr : ∃ dir anchor, trendAnchor (i.structureAfter s) = some (dir, anchor) ∧
        Retraces s.registry.pullbackEngine dir anchor i.candle.close i.atr
    swap
    · have hnot : (i.state s).pullback.pullbackActive = false ∨
          (i.state s).pullback.pullbackQuality < 3 / 10 := by
        rw [Input.state_pullback]
        exact processEvaluated_of_not_retraces fun dir anchor ha hr' => hr ⟨dir, anchor, ha, hr'⟩
      rw [addPullbackEvidence_of_not_shown hnot] at hev
      cases hev
    obtain ⟨dir, anchor, ha, hr⟩ := hr
    obtain ⟨hanchor, hextreme, ev', hev', hdir⟩ := pullbackEvidence_of_retraces ha hr
    rw [hev', List.mem_singleton] at hev
    subst hev
    have hside := h dir anchor ha hr
    rw [Input.state_structure, hanchor, hextreme]
    rcases trendAnchor_dir ha with ⟨rfl, ht⟩ | ⟨rfl, ht⟩
    · rw [if_pos (hside.mpr rfl)] at hdir
      rw [hdir]
      exact ⟨fun _ => ⟨ht, Retraces.between ha hr⟩, fun hsell => absurd hsell (by decide)⟩
    · rw [if_neg fun hlt => absurd (hside.mp hlt) (by decide)] at hdir
      rw [hdir]
      exact ⟨fun hbuy => absurd hbuy (by decide), fun _ => ht⟩

theorem Unswept.after (h : Unswept s) (hi : RightSide s i) : Unswept (step s i) := by
  have hl : Labelled (step s i) := h.labelled.step i
  have hw : (step s i).wick = none := by rw [step_wick_of_noSweep hi.noSweep, h.wick]
  refine ⟨hl, hw, polarised_step.mpr ⟨?_, pullbackRight_iff.mpr hi.onSide⟩⟩
  intro ev hev
  rw [liquidityEvidence_of_no_sweep (by rw [state_recentSweeps]; exact hl.no_sweep hw)] at hev
  cases hev

/-- A candle on the wrong side breaks the polarity. -/
theorem not_polarised_step (h : Unswept s) (hi : ¬ RightSide s i) : ¬ Polarised (step s i) := by
  intro hpol
  obtain ⟨hliq, hpull⟩ := polarised_step.mp hpol
  by_cases hsweep : ∀ pool ∈ i.pools s, crossed i.candle pool = none
  · exact hi ⟨hsweep, pullbackRight_iff.mp hpull⟩
  · simp only [not_forall] at hsweep
    obtain ⟨pool, hp, hcross⟩ := hsweep
    obtain ⟨w, hw⟩ := step_wick_of_sweep hp hcross
    have hl : Labelled (step s i) := h.labelled.step i
    rw [Labelled, hw, ← state_recentSweeps] at hl
    rw [hw] at hliq
    exact not_liquidityRight hl hliq

/-- Nothing was swept at the start. -/
theorem unswept_start : Unswept {} :=
  ⟨rfl, rfl, fun _ h => absurd h (by simp)⟩

/-- **Which runs stay right.** From fresh engines on, the evidence of every candle of a run has the
sign of its event exactly when no candle of the run sweeps a pool, and each pullback that is shown
as evidence finds the price the strategies see below the anchor in a bullish trend and not below it
in a bearish one. -/
theorem polarised_iff (inputs : List Input) :
    Throughout step Polarised {} inputs ↔ Along step RightSide {} inputs :=
  throughout_iff_along (J := Unswept) (fun _ h => h.polarised) (fun _ _ h hi => h.after hi)
    (fun _ _ h hi => not_polarised_step h hi) unswept_start

end

/-! ## Two runs -/

instance (wick : Option Wick) (st : MarketState) : Decidable (LiquidityRight wick st) :=
  inferInstanceAs (Decidable (∀ e ∈ liquidityEvidence st,
    (e.direction = .buy → wick = some .below) ∧ (e.direction = .sell → wick = some .above)))

instance (c : Candle) (st : MarketState) : Decidable (PullbackRight c st) :=
  inferInstanceAs (Decidable (∀ e ∈ addPullbackEvidence st,
    (e.direction = .buy → st.structure_.currentTrend = .bullish ∧
      st.pullback.pullbackAnchor < c.close ∧ c.close < st.pullback.pullbackExtreme) ∧
    (e.direction = .sell → st.structure_.currentTrend = .bearish)))

instance (s : Sys) : Decidable (Polarised s) :=
  inferInstanceAs (Decidable (∀ seen ∈ s.seen,
    LiquidityRight s.wick seen.2 ∧ PullbackRight seen.1 seen.2))

/-- A candle by its high, low and close, with an average true range of one and no tick. -/
def bar (high low close : Decimal) : Input := ⟨⟨high, low, close, 0⟩, 1, none⟩

/-- Two swing highs, at 2010.00 and 2010.05, and a candle that wicks above the first and closes
below it. -/
def sweepRun : List Input :=
  [bar 2008 2007 2007, bar 2009 2008 2008, bar 2010 2009 2009, bar 2009 2008 2008,
    bar 2008 2007 2007, bar 2009 2008 2008, bar (201005 / 100) 2009 2009, bar 2009 2008 2008,
    bar 2008 2007 2007, bar (201002 / 100) 2008 2009]

/-- A bullish break of the swing high 2010 over the swing low 2006, and a pullback by half. -/
def pullbackRun : List Input :=
  [bar 2008 2007 2007, bar 2009 2008 2008, bar 2010 2009 2009, bar 2009 2008 2008,
    bar 2008 2006 2007, bar 2009 2008 2008, bar 2011 2008 2010, bar 2012 2010 2012,
    bar 2012 2009 2009]

/-- **Both signs are inverted.** The wick above the pool is evidence to BUY, and the pullback of a
bullish trend is evidence to SELL. -/
theorem sweep_and_pullback_inverted :
    (¬ Throughout step Polarised {} sweepRun ∧ (run step {} sweepRun).wick = some .above ∧
      ((run step {} sweepRun).seen.map fun seen =>
        (standardScalpingSweep seen.2).map (·.direction)) = some [.buy]) ∧
    (¬ Throughout step Polarised {} pullbackRun ∧
      ((run step {} pullbackRun).seen.map fun seen =>
        (seen.2.structure_.currentTrend, (addPullbackEvidence seen.2).map (·.direction))) =
          some (.bullish, [.sell])) := by
  have hsweep : ¬ Polarised (run step {} sweepRun) := by decide +kernel
  have hpullback : ¬ Polarised (run step {} pullbackRun) := by decide +kernel
  refine ⟨⟨fun h => hsweep (h _ List.prefix_rfl), ?_, ?_⟩,
    fun h => hpullback (h _ List.prefix_rfl), ?_⟩ <;> decide +kernel

end PredictATrade.Realtime.Features
