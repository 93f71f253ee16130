import PredictATrade.Realtime.Swings
import PredictATrade.Realtime.Synthesis

/-!
# `Realtime.Breaks` — the breaks of a run and the side they are read as

The structure engine remembers the last break of structure and the last change of character apart, and
puts both into its report; the structure component takes the change of character first. The trend is
always that of the last break of either kind. Whether the component agrees with it depends on what is
copied into the report on each branch:

* a close above the last swing high in a bullish trend leaves the break of structure out;
* a close below the last swing low in a bearish trend leaves the change of character out;
* a change of character, which is always bearish, is never forgotten.

`component_throughout_iff` says which runs are read right in every state.
-/

namespace PredictATrade.Realtime.Features
open Lib.Runs

/-! ## The breaks of a candle -/

variable {e : StructureEngine} {c : Candle}

/-- The close is above the last swing high. -/
def StructureEngine.above (e : StructureEngine) (c : Candle) : Bool :=
  (e.swingPrices true).getLast?.any fun high => decide (high < c.close)

/-- The close is below the last swing low. -/
def StructureEngine.below (e : StructureEngine) (c : Candle) : Bool :=
  (e.swingPrices false).getLast?.any fun low => decide (c.close < low)

/-- The trend after the upper side has been looked at. -/
def StructureEngine.trendAbove (e : StructureEngine) (c : Candle) : Trend :=
  if e.above c then .bullish else e.lastTrend

/-- The upward break that a candle makes: a break of structure, unless the trend is bullish. -/
def StructureEngine.upBreak (e : StructureEngine) (c : Candle) : Option StructureEvent :=
  if e.above c ∧ e.lastTrend ≠ .bullish then
    (e.swingPrices true).getLast?.map fun high => ⟨.bos, .bullish, high, c.time⟩
  else none

/-- The downward break of structure, from no trend. -/
def StructureEngine.downBOS (e : StructureEngine) (c : Candle) : Option StructureEvent :=
  if e.below c ∧ e.trendAbove c = .neutral then
    (e.swingPrices false).getLast?.map fun low => ⟨.bos, .bearish, low, c.time⟩
  else none

/-- The change of character, from a bullish trend. -/
def StructureEngine.downCHoCH (e : StructureEngine) (c : Candle) : Option StructureEvent :=
  if e.below c ∧ e.trendAbove c = .bullish then
    (e.swingPrices false).getLast?.map fun low => ⟨.chOCH, .bearish, low, c.time⟩
  else none

/-- The breaks of a candle, in the order in which they are made. -/
def StructureEngine.breaks (e : StructureEngine) (c : Candle) : List StructureEvent :=
  (e.upBreak c).toList ++ (e.downBOS c).toList ++ (e.downCHoCH c).toList

/-- The upper side: the break that is made, and what is put into the report. -/
theorem breakUp_spec {feat : StructureFeatures} (hf : feat.swingHighs = e.swingPrices true) :
    (e.breakUp c feat).1 =
        { e with lastBOS := (e.upBreak c).or e.lastBOS, lastTrend := e.trendAbove c } ∧
      (e.breakUp c feat).2.lastBOS =
        (if e.above c then (e.upBreak c).or feat.lastBOS else e.lastBOS) ∧
      (e.breakUp c feat).2.lastCHoCH = feat.lastCHoCH := by
  unfold StructureEngine.breakUp StructureEngine.upBreak StructureEngine.trendAbove
    StructureEngine.above
  rw [hf]
  cases hlast : (e.swingPrices true).getLast? with
  | none => simp
  | some high =>
    by_cases hup : high < c.close
    · by_cases ht : e.lastTrend = .bullish
      · have hsame : { e with lastTrend := .bullish } = e := by rw [← ht]
        simp [hup, ht, hsame]
      · simp [hup, ht]
    · simp [hup]

/-- The lower side, from the engine and the report that the upper side leaves. -/
theorem breakDown_spec {e' : StructureEngine} {feat : StructureFeatures}
    (hf : feat.swingLows = e.swingPrices false) (ht : e'.lastTrend = e.trendAbove c) :
    (e'.breakDown c feat).1 =
        { e' with
          lastBOS := (e.downBOS c).or e'.lastBOS
          lastCHoCH := (e.downCHoCH c).or e'.lastCHoCH
          lastTrend := if e.below c then .bearish else e'.lastTrend } ∧
      (e'.breakDown c feat).2.lastBOS = (e.downBOS c).or feat.lastBOS ∧
      (e'.breakDown c feat).2.lastCHoCH =
        (if e.below c then (e.downCHoCH c).or feat.lastCHoCH else e'.lastCHoCH) := by
  unfold StructureEngine.breakDown StructureEngine.downBOS StructureEngine.downCHoCH
    StructureEngine.below
  rw [hf]
  cases hlast : (e.swingPrices false).getLast? with
  | none => simp
  | some low =>
    by_cases hdown : c.close < low
    · cases htrend : e.trendAbove c with
      | neutral => simp [hdown, ht, htrend]
      | bullish => simp [hdown, ht, htrend]
      | bearish =>
        have hsame : { e' with lastTrend := .bearish } = e' := by rw [← htrend, ← ht]
        simp [hdown, ht, htrend, hsame]
    · simp [hdown]

/-- **One candle.** What the engine remembers of it, and what it reports. -/
theorem followTrend_spec (e : StructureEngine) (c : Candle) :
    (e.followTrend c).1.lastTrend = (if e.below c then .bearish else e.trendAbove c) ∧
      (e.followTrend c).1.lastBOS = (e.downBOS c).or ((e.upBreak c).or e.lastBOS) ∧
      (e.followTrend c).1.lastCHoCH = (e.downCHoCH c).or e.lastCHoCH ∧
      (e.followTrend c).2.lastBOS =
        (e.downBOS c).or (if e.above c then e.upBreak c else e.lastBOS) ∧
      (e.followTrend c).2.lastCHoCH = (if e.below c then e.downCHoCH c else e.lastCHoCH) ∧
      (e.followTrend c).2.currentTrend = (e.followTrend c).1.lastTrend := by
  let feat : StructureFeatures :=
    { swingHighs := e.swingPrices true, swingLows := e.swingPrices false,
      currentTrend := e.lastTrend }
  have hhighs : feat.swingHighs = e.swingPrices true := rfl
  obtain ⟨hup, hupBOS, hupCHoCH⟩ := breakUp_spec (c := c) hhighs
  have hlows : (e.breakUp c feat).2.swingLows = e.swingPrices false :=
    (breakUp_frame (e := e) (c := c) feat).2 false
  have htrend : (e.breakUp c feat).1.lastTrend = e.trendAbove c := by rw [hup]
  obtain ⟨hdown, hdownBOS, hdownCHoCH⟩ := breakDown_spec (c := c) hlows htrend
  have hengine : (e.followTrend c).1 = ((e.breakUp c feat).1.breakDown c (e.breakUp c feat).2).1 :=
    rfl
  rw [hdown, hup] at hengine
  rw [hupBOS, Option.or_none] at hdownBOS
  have hkept : (e.breakUp c feat).1.lastCHoCH = e.lastCHoCH := by rw [hup]
  rw [hupCHoCH, Option.or_none, hkept] at hdownCHoCH
  refine ⟨?_, ?_, ?_, hdownBOS, ?_, rfl⟩
  · rw [hengine]
  · rw [hengine]
  · rw [hengine]
  · exact hdownCHoCH

/-! ## Directions

What the engine remembers and reports is followed by directions alone: a candle moves beyond one side,
both or neither, and the trend says which breaks that makes. -/

/-- Where a candle closes. -/
structure Move where
  above : Bool
  below : Bool
  deriving DecidableEq, Repr

/-- On which sides the candle closes beyond the last swing. -/
def StructureEngine.move (e : StructureEngine) (c : Candle) : Move := ⟨e.above c, e.below c⟩

namespace Move

variable (m : Move) (t : Trend)

/-- The trend after a close above. -/
def trendAbove : Trend := if m.above then .bullish else t

/-- The trend after the candle. -/
def trend : Trend := if m.below then .bearish else m.trendAbove t

/-- The trend that a close above turns to. -/
def up : Option Trend := if m.above ∧ t ≠ .bullish then some .bullish else none

/-- The break of a close below in no trend. -/
def downBOS : Option Trend := if m.below ∧ m.trendAbove t = .neutral then some .bearish else none

/-- The change of character of a close below in an uptrend. -/
def downCHoCH : Option Trend := if m.below ∧ m.trendAbove t = .bullish then some .bearish else none

end Move

/-- The direction of the break that opens a trend. -/
def Trend.opening : Trend → Option Trend
  | .neutral => none
  | t => some t

/-- As long as no change of character is remembered, the break of structure is the one that opened the
trend; a change of character is bearish, and beside it the break of structure is the bullish one that it
went against. -/
def Memory (t : Trend) (bos choch : Option Trend) : Prop :=
  choch = none ∧ bos = t.opening ∨ choch = some .bearish ∧ bos = some .bullish ∧ t ≠ .neutral

theorem Move.opening_trend (m : Move) (t : Trend) :
    ((m.downCHoCH t).or ((m.downBOS t).or (m.up t))).or t.opening = (m.trend t).opening := by
  obtain ⟨_ | _, _ | _⟩ := m <;> cases t <;> rfl

theorem Move.memory {m : Move} {t : Trend} {bos choch : Option Trend} (h : Memory t bos choch) :
    Memory (m.trend t) ((m.downBOS t).or ((m.up t).or bos)) ((m.downCHoCH t).or choch) := by
  rcases h with ⟨rfl, rfl⟩ | ⟨rfl, rfl, ht⟩
  · obtain ⟨_ | _, _ | _⟩ := m <;> cases t <;> simp [Memory, Move.trend, Move.trendAbove, Move.up,
      Move.downBOS, Move.downCHoCH, Trend.opening]
  · obtain ⟨_ | _, _ | _⟩ := m <;> cases t <;> simp_all [Memory, Move.trend, Move.trendAbove, Move.up,
      Move.downBOS, Move.downCHoCH]

/-- The side that two remembered directions are read as. -/
def readAs : Option Trend → Option Trend → Ptb.Side
  | some choch, _ => if choch = .bullish then .long else .short
  | none, some bos => if bos = .bullish then .long else .short
  | none, none => .neutral

/-- The side of a trend. -/
def Trend.side : Trend → Ptb.Side
  | .bullish => .long
  | .bearish => .short
  | .neutral => .neutral

/-- The moves after which the report still shows the trend. -/
def Move.Steady (m : Move) (t : Trend) (choch : Option Trend) : Prop :=
  match m.above, m.below with
  | true, true => True
  | true, false => t ≠ .bullish ∧ choch = none
  | false, true => t = .bearish → choch = none
  | false, false => t = .bullish → choch = none

/-- When the last breaks are read as the trend. -/
theorem Move.readAs_iff {m : Move} {t : Trend} {bos choch : Option Trend} (h : Memory t bos choch) :
    readAs (if m.below then m.downCHoCH t else choch)
        ((m.downBOS t).or (if m.above then m.up t else bos)) = (m.trend t).side ↔
      m.Steady t choch := by
  rcases h with ⟨rfl, rfl⟩ | ⟨rfl, rfl, ht⟩
  · obtain ⟨_ | _, _ | _⟩ := m <;> cases t <;> simp [readAs, Trend.side, Move.Steady, Move.trend,
      Move.trendAbove, Move.up, Move.downBOS, Move.downCHoCH, Trend.opening]
  · obtain ⟨_ | _, _ | _⟩ := m <;> cases t <;> simp_all [readAs, Trend.side, Move.Steady, Move.trend,
      Move.trendAbove, Move.up, Move.downBOS, Move.downCHoCH]

/-! ## Runs -/

/-- A run of the engine, with the move of the last candle, its breaks, and the breaks of all. -/
structure Watched where
  structure_ : Structure
  moved : Move := ⟨false, false⟩
  made : List StructureEvent := []
  breaks : List StructureEvent := []

/-- The engine before any candle. -/
def watch (lookback : ℤ) : Watched := { structure_ := start lookback }

/-- The engine as it looks at the sides: the candle is on file, with the swings it confirms. -/
def Structure.looking (s : Structure) (c : Candle) : StructureEngine :=
  (s.engine.remember c).detectSwings

/-- The engine, and the breaks there were, after one more candle. -/
def observe (w : Watched) (c : Candle) : Watched :=
  let e := w.structure_.looking c
  { structure_ := next w.structure_ c, moved := e.move c, made := e.breaks c
    breaks := w.breaks ++ e.breaks c }

theorem remember_trend (e : StructureEngine) (c : Candle) :
    (e.remember c).lastTrend = e.lastTrend ∧ (e.remember c).lastBOS = e.lastBOS ∧
      (e.remember c).lastCHoCH = e.lastCHoCH := by
  unfold StructureEngine.remember
  dsimp only
  split_ifs <;> exact ⟨rfl, rfl, rfl⟩

theorem detectSwings_trend (e : StructureEngine) :
    e.detectSwings.lastTrend = e.lastTrend ∧ e.detectSwings.lastBOS = e.lastBOS ∧
      e.detectSwings.lastCHoCH = e.lastCHoCH := by
  have hfold : ∀ (is : List ℕ) (e : StructureEngine),
      let e' := is.foldl (fun e i => { e with swings := e.swings ++ e.swingsAt i }) e
      e'.lastTrend = e.lastTrend ∧ e'.lastBOS = e.lastBOS ∧ e'.lastCHoCH = e.lastCHoCH := by
    intro is
    induction is with
    | nil => exact fun _ => ⟨rfl, rfl, rfl⟩
    | cons i is ih => exact fun e => ih { e with swings := e.swings ++ e.swingsAt i }
  unfold StructureEngine.detectSwings
  dsimp only
  split_ifs
  · exact ⟨rfl, rfl, rfl⟩
  · exact hfold _ e

theorem looking_trend (s : Structure) (c : Candle) :
    (s.looking c).lastTrend = s.engine.lastTrend ∧ (s.looking c).lastBOS = s.engine.lastBOS ∧
      (s.looking c).lastCHoCH = s.engine.lastCHoCH := by
  obtain ⟨ht, hb, hc⟩ := detectSwings_trend (s.engine.remember c)
  obtain ⟨ht', hb', hc'⟩ := remember_trend s.engine c
  exact ⟨ht.trans ht', hb.trans hb', hc.trans hc'⟩

/-! ## The engine by directions -/

/-- The direction of an event, if there is one. -/
def directionOf (event : Option StructureEvent) : Option Trend := event.map (·.direction)

theorem directionOf_or (a b : Option StructureEvent) :
    directionOf (a.or b) = (directionOf a).or (directionOf b) := Option.map_or

/-- A break is made at the last swing of its side, so that it is made whenever its condition holds. -/
theorem directionOf_break {swings : List Decimal} {p : Decimal → Bool} {q : Prop} [Decidable q]
    (hswing : q → swings.getLast?.any p = true) {event : Decimal → StructureEvent} {t : Trend}
    (hevent : ∀ x, (event x).direction = t) :
    directionOf (if q then swings.getLast?.map event else none) = if q then some t else none := by
  split_ifs with hq
  · cases hlast : swings.getLast? with
    | none =>
      have hany := hswing hq
      rw [hlast] at hany
      cases hany
    | some x => exact congrArg some (hevent x)
  · rfl

theorem directionOf_upBreak (e : StructureEngine) (c : Candle) :
    directionOf (e.upBreak c) = (e.move c).up e.lastTrend :=
  directionOf_break And.left fun _ => rfl

theorem directionOf_downBOS (e : StructureEngine) (c : Candle) :
    directionOf (e.downBOS c) = (e.move c).downBOS e.lastTrend :=
  directionOf_break And.left fun _ => rfl

theorem directionOf_downCHoCH (e : StructureEngine) (c : Candle) :
    directionOf (e.downCHoCH c) = (e.move c).downCHoCH e.lastTrend :=
  directionOf_break And.left fun _ => rfl

theorem getLast?_toList {α : Type} (o : Option α) : o.toList.getLast? = o := by
  cases o <;> rfl

theorem directionOf_breaks (e : StructureEngine) (c : Candle) :
    directionOf (e.breaks c).getLast? =
      ((e.move c).downCHoCH e.lastTrend).or
        (((e.move c).downBOS e.lastTrend).or ((e.move c).up e.lastTrend)) := by
  unfold StructureEngine.breaks
  simp only [List.getLast?_append, getLast?_toList, directionOf_or, directionOf_upBreak,
    directionOf_downBOS, directionOf_downCHoCH]

/-- One candle by directions. -/
theorem followTrend_move (e : StructureEngine) (c : Candle) :
    (e.followTrend c).1.lastTrend = (e.move c).trend e.lastTrend ∧
      directionOf (e.followTrend c).1.lastBOS =
        ((e.move c).downBOS e.lastTrend).or (((e.move c).up e.lastTrend).or (directionOf e.lastBOS)) ∧
      directionOf (e.followTrend c).1.lastCHoCH =
        ((e.move c).downCHoCH e.lastTrend).or (directionOf e.lastCHoCH) ∧
      directionOf (e.followTrend c).2.lastBOS =
        ((e.move c).downBOS e.lastTrend).or
          (if (e.move c).above then (e.move c).up e.lastTrend else directionOf e.lastBOS) ∧
      directionOf (e.followTrend c).2.lastCHoCH =
        (if (e.move c).below then (e.move c).downCHoCH e.lastTrend else directionOf e.lastCHoCH) := by
  obtain ⟨ht, hb, hc, hb', hc', -⟩ := followTrend_spec e c
  refine ⟨ht, ?_, ?_, ?_, ?_⟩
  · rw [hb, directionOf_or, directionOf_or, directionOf_downBOS, directionOf_upBreak]
  · rw [hc, directionOf_or, directionOf_downCHoCH]
  · rw [hb', directionOf_or, apply_ite directionOf, directionOf_downBOS, directionOf_upBreak]
    rfl
  · rw [hc', apply_ite directionOf, directionOf_downCHoCH]
    rfl

/-- The memory of a run: the trend is that of its last break. -/
structure Remembers (w : Watched) : Prop where
  trend : directionOf w.breaks.getLast? = w.structure_.engine.lastTrend.opening
  memory : Memory w.structure_.engine.lastTrend (directionOf w.structure_.engine.lastBOS)
    (directionOf w.structure_.engine.lastCHoCH)

theorem remembers_watch (lookback : ℤ) : Remembers (watch lookback) := ⟨rfl, Or.inl ⟨rfl, rfl⟩⟩

variable {w : Watched}

/-- How a candle moves, with the swings that it confirms on file. -/
def Watched.move (w : Watched) (c : Candle) : Move := (w.structure_.looking c).move c

theorem process_eq_followTrend (e : StructureEngine) (c : Candle) :
    e.process c = (e.remember c).detectSwings.followTrend c := rfl

theorem next_eq_process (s : Structure) (c : Candle) :
    (next s c).engine = (s.engine.process c).1 ∧ (next s c).features = (s.engine.process c).2 :=
  ⟨rfl, rfl⟩

theorem observe_followTrend (w : Watched) (c : Candle) :
    (observe w c).structure_.engine = ((w.structure_.looking c).followTrend c).1 ∧
      (observe w c).structure_.features = ((w.structure_.looking c).followTrend c).2 := by
  obtain ⟨he, hf⟩ := next_eq_process w.structure_ c
  rw [process_eq_followTrend] at he hf
  exact ⟨he, hf⟩

theorem observe_trend (w : Watched) (c : Candle) :
    (observe w c).structure_.engine.lastTrend = (w.move c).trend w.structure_.engine.lastTrend := by
  rw [(observe_followTrend w c).1, (followTrend_move _ c).1, (looking_trend w.structure_ c).1,
    Watched.move]

theorem remembers_observe (h : Remembers w) : Remembers (observe w c) := by
  obtain ⟨ht, hb, hc⟩ := looking_trend w.structure_ c
  obtain ⟨-, hb', hc', -⟩ := followTrend_move (w.structure_.looking c) c
  constructor
  · rw [observe_trend]
    show directionOf (w.breaks ++ (w.structure_.looking c).breaks c).getLast? = _
    rw [List.getLast?_append, directionOf_or, directionOf_breaks, ht, h.trend]
    exact Move.opening_trend _ _
  · rw [observe_trend, (observe_followTrend w c).1, hb', hc', ht, hb, hc]
    exact Move.memory h.memory

/-! ## The structure component -/

/-- The structure component is LONG exactly after a bullish break, SHORT exactly after a bearish one. -/
def ReadRight (w : Watched) : Prop :=
  ((Ptb.structureComponent w.structure_.features).direction = .long ↔
      directionOf w.breaks.getLast? = some .bullish) ∧
    ((Ptb.structureComponent w.structure_.features).direction = .short ↔
      directionOf w.breaks.getLast? = some .bearish)

/-- The candle is beyond both sides; or it is above the last swing high from a trend that is not bullish
and before any change of character; or it is below the last swing low, and not with a change of character
behind it in a bearish trend; or it is beyond neither, and not with a change of character behind it in a
bullish trend. -/
def Steady (w : Watched) (c : Candle) : Prop :=
  (w.move c).Steady w.structure_.engine.lastTrend (directionOf w.structure_.engine.lastCHoCH)

theorem structureComponent_direction (feat : StructureFeatures) :
    (Ptb.structureComponent feat).direction =
      readAs (directionOf feat.lastCHoCH) (directionOf feat.lastBOS) := by
  unfold Ptb.structureComponent
  cases feat.lastCHoCH <;> cases feat.lastBOS <;> rfl

theorem readAs_cases (choch bos : Option Trend) :
    readAs choch bos = .long ∨ readAs choch bos = .short ∨ readAs choch bos = .neutral := by
  unfold readAs
  split
  · split_ifs <;> simp
  · split_ifs <;> simp
  · simp

/-- When the structure is read as the trend. -/
theorem readRight_iff (h : Remembers w) :
    ReadRight w ↔ (Ptb.structureComponent w.structure_.features).direction =
      w.structure_.engine.lastTrend.side := by
  have hcases := readAs_cases (directionOf w.structure_.features.lastCHoCH)
    (directionOf w.structure_.features.lastBOS)
  rw [← structureComponent_direction] at hcases
  unfold ReadRight
  rw [h.trend]
  cases w.structure_.engine.lastTrend <;> rcases hcases with hd | hd | hd <;>
    simp [hd, Trend.opening, Trend.side]

/-- When the structure is read as the trend after a candle. -/
theorem readRight_observe_iff (h : Remembers w) : ReadRight (observe w c) ↔ Steady w c := by
  obtain ⟨ht, hb, hc⟩ := looking_trend w.structure_ c
  obtain ⟨-, -, -, hb', hc'⟩ := followTrend_move (w.structure_.looking c) c
  rw [readRight_iff (remembers_observe h), observe_trend, structureComponent_direction,
    (observe_followTrend w c).2, hb', hc', ht, hb, hc]
  exact Move.readAs_iff h.memory

/-- **Which runs are read right** in every state. -/
theorem component_throughout_iff (lookback : ℤ) (cs : List Candle) :
    Throughout observe ReadRight (watch lookback) cs ↔ Along observe Steady (watch lookback) cs := by
  have hinit : ReadRight (watch lookback) := (readRight_iff (remembers_watch lookback)).mpr rfl
  have hrule : Throughout observe ReadRight (watch lookback) cs ↔
      ReadRight (watch lookback) ∧ Along observe Steady (watch lookback) cs :=
    throughout_iff (J := Remembers) (fun _ _ h => remembers_observe h)
      (fun _ _ h _ => readRight_observe_iff h) (remembers_watch lookback)
  rw [hrule]
  exact and_iff_right hinit

end PredictATrade.Realtime.Features
