import Mathlib.Algebra.Order.Ring.Rat
import PredictATrade.Lib.Runs
import PredictATrade.Realtime.Features

/-!
# `Realtime.ParabolicSar` — which side of the price the stop is on

`SAREngine.process` is `Process` of the parabolic SAR. A stop under a rising price is to lie below the
candle and the two before it, a stop above a falling price over them (`OnSide`).

The second candle puts the stop at the extreme of the first, a reversal puts it at the extreme point, and
neither looks at the candle itself; otherwise the stop is cut at the candle before, twice, where it should be
cut at the two before. `sar_on_side_iff` gives the condition for every run: at each candle the branch that
is taken leaves the stop on its side. The acceleration factor never leaves its range.
-/

namespace PredictATrade.Realtime.Features
open Lib.Runs

/-- The engine. -/
structure SAREngine where
  af : Decimal
  step : Decimal
  maxAF : Decimal
  sar : Decimal := 0
  ep : Decimal := 0
  isLong : Bool := false
  prevHigh : Decimal := 0
  prevLow : Decimal := 0
  ready : Bool := false
  count : ℕ := 0
  deriving DecidableEq, Repr

/-- What the engine reports. -/
structure SARFeatures where
  value : Decimal
  isLong : Bool
  reversed : Bool := false
  ready : Bool
  deriving DecidableEq, Repr

/-- `NewSAREngine`. -/
def newSAREngine (step maxAF : Float64) : SAREngine where
  step := if step ≤ 0 then 2 / 100 else step
  maxAF := if maxAF ≤ 0 then 20 / 100 else maxAF
  af := if step ≤ 0 then 2 / 100 else step

namespace SAREngine
variable (e : SAREngine) (candle : Candle)

/-- The acceleration factor at a new extreme. -/
def accelerated : Decimal := if e.af + e.step > e.maxAF then e.maxAF else e.af + e.step

/-- Where the stop goes by itself. -/
def projected : Decimal := e.sar + e.af * (e.ep - e.sar)

/-- The candle after a long stop. -/
def processLong : SAREngine × Bool :=
  let newSAR := e.projected
  let newSAR := if newSAR > e.prevLow then e.prevLow else newSAR
  let newSAR := if newSAR > e.prevLow then e.prevLow else newSAR
  if candle.low < newSAR then
    ({ e with isLong := false, sar := e.ep, ep := candle.low, af := e.step }, true)
  else if candle.high > e.ep then
    ({ e with sar := newSAR, ep := candle.high, af := e.accelerated }, false)
  else ({ e with sar := newSAR }, false)

/-- The candle after a short one. -/
def processShort : SAREngine × Bool :=
  let newSAR := e.projected
  let newSAR := if newSAR < e.prevHigh then e.prevHigh else newSAR
  if candle.high > newSAR then
    ({ e with isLong := true, sar := e.ep, ep := candle.high, af := e.step }, true)
  else if candle.low < e.ep then
    ({ e with sar := newSAR, ep := candle.low, af := e.accelerated }, false)
  else ({ e with sar := newSAR }, false)

/-- The candle that gives the first direction. -/
def processSecond : SAREngine :=
  if candle.close > e.prevHigh then
    { e with isLong := true, sar := e.prevLow, ep := candle.high, af := e.step }
  else if candle.close < e.prevLow then
    { e with isLong := false, sar := e.prevHigh, ep := candle.low, af := e.step }
  else { e with sar := e.prevLow, ep := candle.high, af := e.step }

/-- The engine has seen one more candle. -/
def counted : SAREngine := { e with count := e.count + 1 }

/-- `Process`. -/
def process : SAREngine × SARFeatures :=
  let e := e.counted
  if e.count = 1 then
    let e := { e with
      prevHigh := candle.high, prevLow := candle.low, sar := candle.low, ep := candle.high, isLong := true,
      ready := false }
    (e, { value := e.sar, isLong := e.isLong, ready := false })
  else
    let (e, reversed) :=
      if e.count = 2 then (e.processSecond candle, false)
      else if e.isLong then e.processLong candle
      else e.processShort candle
    let e := { e with prevHigh := candle.high, prevLow := candle.low, ready := true }
    (e, { value := e.sar, isLong := e.isLong, reversed, ready := true })

end SAREngine

/-! ## The side of the stop -/

/-- An engine with the candles that it has processed, the newest first. -/
structure WatchedSAR where
  engine : SAREngine
  before : List Candle := []

namespace WatchedSAR

/-- The engine and the candles before it, after one more. -/
def step (w : WatchedSAR) (candle : Candle) : WatchedSAR :=
  ⟨(w.engine.process candle).1, candle :: w.before⟩

/-- A stop under the price is at most the low of the candle and, unless the candle has reversed it, of the
two before; one over the price is at least the highs. -/
structure OnSide (w : WatchedSAR) (candle : Candle) : Prop where
  long : (w.engine.process candle).2.isLong = true →
    (w.engine.process candle).2.value ≤ candle.low ∧
      ((w.engine.process candle).2.reversed = false →
        ∀ b ∈ w.before.take 2, (w.engine.process candle).2.value ≤ b.low)
  short : (w.engine.process candle).2.isLong = false →
    candle.high ≤ (w.engine.process candle).2.value ∧
      ((w.engine.process candle).2.reversed = false →
        ∀ b ∈ w.before.take 2, b.high ≤ (w.engine.process candle).2.value)
  af : w.engine.step ≤ w.engine.maxAF →
    w.engine.step ≤ (w.engine.process candle).1.af ∧ (w.engine.process candle).1.af ≤ w.engine.maxAF

/-- What is expected of every candle from the second on. -/
def Law (w : WatchedSAR) (candle : Candle) : Prop := w.before ≠ [] → w.OnSide candle

/-- The candle leaves the stop on its side. The second one does not go past the extreme of the first that
the stop is put at. A later one that reaches the stop does not go past the extreme point on its other side;
one that does not finds the stop, cut at the candle before, beyond the candle before that as well. -/
def Keeps (w : WatchedSAR) (candle : Candle) : Prop :=
  match w.before with
  | [] => True
  | [first] =>
    if first.high < candle.close ∨ first.low ≤ candle.close then first.low ≤ candle.low
    else candle.high ≤ first.high
  | last :: second :: _ =>
    if w.engine.isLong then
      if candle.low < min w.engine.projected last.low then candle.high ≤ w.engine.ep
      else min w.engine.projected last.low ≤ second.low
    else
      if max w.engine.projected last.high < candle.high then w.engine.ep ≤ candle.low
      else second.high ≤ max w.engine.projected last.high

/-- What every run keeps: the engine remembers the last candle, begins long, and has the factor in its
range. -/
structure Sound (w : WatchedSAR) : Prop where
  count : w.engine.count = w.before.length
  last : ∀ b ∈ w.before.head?, w.engine.prevHigh = b.high ∧ w.engine.prevLow = b.low
  first_long : w.engine.count = 1 → w.engine.isLong = true
  step_pos : 0 < w.engine.step
  af : w.engine.step ≤ w.engine.maxAF →
    w.engine.step ≤ w.engine.af ∧ w.engine.af ≤ w.engine.maxAF

end WatchedSAR

/-! ## One candle -/

namespace SAREngine
variable {e : SAREngine} {candle : Candle}

/-- A long stop and the next candle. -/
theorem processLong_eq (e : SAREngine) (candle : Candle) :
    e.processLong candle =
      if candle.low < min e.projected e.prevLow then
        ({ e with isLong := false, sar := e.ep, ep := candle.low, af := e.step }, true)
      else
        ({ e with
            sar := min e.projected e.prevLow
            ep := max e.ep candle.high
            af := if e.ep < candle.high then e.accelerated else e.af }, false) := by
  have hcut : (if e.projected > e.prevLow then e.prevLow else e.projected) =
      min e.projected e.prevLow := by
    rw [min_comm, min_def_lt]
  have hcut' : (if min e.projected e.prevLow > e.prevLow then e.prevLow
      else min e.projected e.prevLow) = min e.projected e.prevLow :=
    if_neg (not_lt.mpr (min_le_right _ _))
  unfold processLong
  dsimp only
  rw [hcut, hcut']
  split
  · rfl
  · by_cases hnew : e.ep < candle.high
    · rw [if_pos hnew, if_pos hnew, max_eq_right hnew.le]
    · rw [if_neg hnew, if_neg hnew, max_eq_left (not_lt.mp hnew)]

/-- A short stop and the next candle. -/
theorem processShort_eq (e : SAREngine) (candle : Candle) :
    e.processShort candle =
      if max e.projected e.prevHigh < candle.high then
        ({ e with isLong := true, sar := e.ep, ep := candle.high, af := e.step }, true)
      else
        ({ e with
            sar := max e.projected e.prevHigh
            ep := min e.ep candle.low
            af := if candle.low < e.ep then e.accelerated else e.af }, false) := by
  have hcut : (if e.projected < e.prevHigh then e.prevHigh else e.projected) =
      max e.projected e.prevHigh := by
    rw [max_def_lt]
  unfold processShort
  dsimp only
  rw [hcut]
  split
  · rfl
  · by_cases hnew : candle.low < e.ep
    · rw [if_pos hnew, if_pos hnew, min_eq_right hnew.le]
    · rw [if_neg hnew, if_neg hnew, min_eq_left (not_lt.mp hnew)]

theorem accelerated_mem (hstep : 0 < e.step) (h : e.step ≤ e.af ∧ e.af ≤ e.maxAF) :
    e.step ≤ e.accelerated ∧ e.accelerated ≤ e.maxAF := by
  unfold accelerated
  split
  · exact ⟨h.1.trans h.2, le_rfl⟩
  · next hle => exact ⟨h.1.trans (le_add_of_nonneg_right hstep.le), not_lt.mp hle⟩

/-- The part of `Process` that the branches share. -/
def finish (r : SAREngine × Bool) (candle : Candle) : SAREngine × SARFeatures :=
  ({ r.1 with prevHigh := candle.high, prevLow := candle.low, ready := true },
    { value := r.1.sar, isLong := r.1.isLong, reversed := r.2, ready := true })

theorem process_second (h : e.count = 1) :
    e.process candle = finish (e.counted.processSecond candle, false) candle := by
  have hcount : e.counted.count = 2 := congrArg Nat.succ h
  unfold process
  dsimp only
  rw [if_neg (by omega), if_pos hcount]
  rfl

theorem process_main (h : 2 ≤ e.count) :
    e.process candle =
      finish (if e.isLong then e.counted.processLong candle else e.counted.processShort candle)
        candle := by
  have hcount : e.counted.count = e.count + 1 := rfl
  unfold process
  dsimp only
  rw [if_neg (by omega), if_neg (by omega)]
  rfl

theorem process_first (h : (e.process candle).1.count = 1) :
    (e.process candle).1.isLong = true := by
  unfold process at h ⊢
  dsimp only at h ⊢
  split
  · rfl
  · next hcount =>
    rw [if_neg hcount] at h
    split_ifs at h with hsecond hlong
    · unfold processSecond at h
      split_ifs at h <;> exact absurd h hcount
    · rw [processLong_eq] at h
      split_ifs at h <;> exact absurd h hcount
    · rw [processShort_eq] at h
      split_ifs at h <;> exact absurd h hcount

/-- What a candle does to the engine, whatever branch it takes. -/
theorem process_frame (e : SAREngine) (candle : Candle) :
    (e.process candle).1.count = e.count + 1 ∧ (e.process candle).1.prevHigh = candle.high ∧
      (e.process candle).1.prevLow = candle.low ∧ (e.process candle).1.step = e.step ∧
      (e.process candle).1.maxAF = e.maxAF := by
  unfold process
  dsimp only
  split
  · exact ⟨rfl, rfl, rfl, rfl, rfl⟩
  · split
    · unfold processSecond
      split_ifs <;> exact ⟨rfl, rfl, rfl, rfl, rfl⟩
    · split
      · rw [processLong_eq]
        split <;> exact ⟨rfl, rfl, rfl, rfl, rfl⟩
      · rw [processShort_eq]
        split <;> exact ⟨rfl, rfl, rfl, rfl, rfl⟩

/-- The acceleration factor is kept, reset to its step, or increased up to its maximum. -/
theorem process_af (e : SAREngine) (candle : Candle) :
    (e.process candle).1.af = e.af ∨ (e.process candle).1.af = e.step ∨
      (e.process candle).1.af = e.accelerated := by
  unfold process
  dsimp only
  split
  · exact Or.inl rfl
  · split
    · unfold processSecond
      split_ifs <;> exact Or.inr (Or.inl rfl)
    · split
      · rw [processLong_eq]
        split
        · exact Or.inr (Or.inl rfl)
        · dsimp only
          split
          · exact Or.inr (Or.inr rfl)
          · exact Or.inl rfl
      · rw [processShort_eq]
        split
        · exact Or.inr (Or.inl rfl)
        · dsimp only
          split
          · exact Or.inr (Or.inr rfl)
          · exact Or.inl rfl

theorem process_af_mem (hstep : 0 < e.step) (h : e.step ≤ e.af ∧ e.af ≤ e.maxAF) (candle : Candle) :
    e.step ≤ (e.process candle).1.af ∧ (e.process candle).1.af ≤ e.maxAF := by
  rcases e.process_af candle with heq | heq | heq <;> rw [heq]
  · exact h
  · exact ⟨le_rfl, h.1.trans h.2⟩
  · exact accelerated_mem hstep h

end SAREngine

namespace WatchedSAR
variable {w : WatchedSAR} {candle : Candle}

/-- **Step.** The engine goes on following its candles. -/
theorem Sound.step (h : w.Sound) (candle : Candle) : (w.step candle).Sound := by
  obtain ⟨hcount, hhigh, hlow, hstep, hmax⟩ := w.engine.process_frame candle
  refine ⟨?_, ?_, SAREngine.process_first, ?_, ?_⟩
  · show (w.engine.process candle).1.count = w.before.length + 1
    rw [hcount, h.count]
  · rintro b hb
    obtain rfl := Option.some.inj hb
    exact ⟨hhigh, hlow⟩
  · show 0 < (w.engine.process candle).1.step
    rw [hstep]
    exact h.step_pos
  · show (w.engine.process candle).1.step ≤ (w.engine.process candle).1.maxAF →
      (w.engine.process candle).1.step ≤ (w.engine.process candle).1.af ∧
        (w.engine.process candle).1.af ≤ (w.engine.process candle).1.maxAF
    rw [hstep, hmax]
    exact fun hle => SAREngine.process_af_mem h.step_pos (h.af hle) candle

/-- A new engine has followed no candle. -/
theorem new_sound (step maxAF : Float64) : (⟨newSAREngine step maxAF, []⟩ : WatchedSAR).Sound := by
  refine ⟨rfl, ?_, ?_, ?_, ?_⟩
  · intro b hb
    cases hb
  · intro hcount
    cases hcount
  · show 0 < if step ≤ 0 then 2 / 100 else step
    split
    · norm_num
    · next h => exact not_le.mp h
  · exact fun hle => ⟨le_rfl, hle⟩

/-- The factor is in its range anyway, so what counts is where the stop is. -/
theorem onSide_iff (h : w.Sound) {r : SAREngine × Bool}
    (hr : w.engine.process candle = SAREngine.finish r candle) :
    w.OnSide candle ↔
      (r.1.isLong = true → r.1.sar ≤ candle.low ∧
          (r.2 = false → ∀ b ∈ w.before.take 2, r.1.sar ≤ b.low)) ∧
        (r.1.isLong = false → candle.high ≤ r.1.sar ∧
          (r.2 = false → ∀ b ∈ w.before.take 2, b.high ≤ r.1.sar)) := by
  have hfeat : (w.engine.process candle).2 =
      { value := r.1.sar, isLong := r.1.isLong, reversed := r.2, ready := true } := by
    rw [hr]
    rfl
  constructor
  · intro hside
    have hlong := hside.long
    have hshort := hside.short
    rw [hfeat] at hlong hshort
    exact ⟨hlong, hshort⟩
  · rintro ⟨hlong, hshort⟩
    refine ⟨?_, ?_, fun hle => SAREngine.process_af_mem h.step_pos (h.af hle) candle⟩
    · rw [hfeat]
      exact hlong
    · rw [hfeat]
      exact hshort

/-- The second candle. -/
theorem second_onSide_iff (h : w.Sound) {first : Candle} (hbefore : w.before = [first]) :
    w.OnSide candle ↔
      if first.high < candle.close ∨ first.low ≤ candle.close then first.low ≤ candle.low
      else candle.high ≤ first.high := by
  have hcount : w.engine.count = 1 := by rw [h.count, hbefore, List.length_singleton]
  obtain ⟨hhigh, hlow⟩ := h.last first (by rw [hbefore]; rfl)
  have hprev : ∀ p : Candle → Prop, (∀ b ∈ [first].take 2, p b) ↔ p first :=
    fun p => List.forall_mem_singleton
  have hlow' : w.engine.counted.prevLow = first.low := hlow
  have hhigh' : w.engine.counted.prevHigh = first.high := hhigh
  have hlong : w.engine.counted.isLong = true := h.first_long hcount
  rw [onSide_iff h (SAREngine.process_second hcount), hbefore, hprev, hprev]
  unfold SAREngine.processSecond
  rw [hhigh', hlow']
  by_cases hup : candle.close > first.high
  · rw [if_pos hup, if_pos (Or.inl hup)]
    simp
  rw [if_neg hup]
  by_cases hdown : candle.close < first.low
  · rw [if_pos hdown, if_neg (not_or.mpr ⟨hup, not_le.mpr hdown⟩)]
    simp
  · rw [if_neg hdown, if_pos (Or.inr (not_lt.mp hdown))]
    simp [hlong]

/-- A candle of the main calculation. -/
theorem main_onSide_iff (h : w.Sound) {last second : Candle} {rest : List Candle}
    (hbefore : w.before = last :: second :: rest) :
    w.OnSide candle ↔
      if w.engine.isLong then
        if candle.low < min w.engine.projected last.low then candle.high ≤ w.engine.ep
        else min w.engine.projected last.low ≤ second.low
      else
        if max w.engine.projected last.high < candle.high then w.engine.ep ≤ candle.low
        else second.high ≤ max w.engine.projected last.high := by
  have hcount : 2 ≤ w.engine.count := by
    rw [h.count, hbefore, List.length_cons, List.length_cons]
    omega
  obtain ⟨hhigh, hlow⟩ := h.last last (by rw [hbefore]; rfl)
  have hprev : ∀ p : Candle → Prop, (∀ b ∈ (last :: second :: rest).take 2, p b) ↔ p last ∧ p second := by
    intro p
    rw [List.take_succ_cons, List.take_succ_cons, List.take_zero, List.forall_mem_cons,
      List.forall_mem_singleton]
  rw [onSide_iff h (SAREngine.process_main hcount), hbefore, hprev, hprev]
  have hprojected : w.engine.counted.projected = w.engine.projected := rfl
  have hep : w.engine.counted.ep = w.engine.ep := rfl
  have hlong' : w.engine.counted.isLong = w.engine.isLong := rfl
  have hlow' : w.engine.counted.prevLow = last.low := hlow
  have hhigh' : w.engine.counted.prevHigh = last.high := hhigh
  cases hlong : w.engine.isLong with
  | true =>
    rw [if_pos rfl, if_pos rfl, SAREngine.processLong_eq, hprojected, hlow']
    by_cases hreach : candle.low < min w.engine.projected last.low
    · rw [if_pos hreach, if_pos hreach]
      simp [hep]
    · rw [if_neg hreach, if_neg hreach]
      have hcut : min w.engine.projected last.low ≤ last.low := min_le_right _ _
      have hside := not_lt.mp hreach
      simp [hlong', hlong, hside, hcut]
  | false =>
    rw [if_neg Bool.false_ne_true, if_neg Bool.false_ne_true, SAREngine.processShort_eq, hprojected, hhigh']
    by_cases hreach : max w.engine.projected last.high < candle.high
    · rw [if_pos hreach, if_pos hreach]
      simp [hep]
    · rw [if_neg hreach, if_neg hreach]
      have hcut : last.high ≤ max w.engine.projected last.high := le_max_right _ _
      have hside := not_lt.mp hreach
      simp [hlong', hlong, hside, hcut]

/-- **One candle.** -/
theorem law_iff (h : w.Sound) : w.Law candle ↔ w.Keeps candle := by
  unfold Law Keeps
  cases hbefore : w.before with
  | nil => exact iff_of_true (fun hne => absurd rfl hne) trivial
  | cons last before =>
    rw [forall_prop_of_true (List.cons_ne_nil _ _)]
    cases before with
    | nil => exact second_onSide_iff h hbefore
    | cons second rest => exact main_onSide_iff h hbefore

end WatchedSAR

/-! ## Runs -/

/-- **The side of the stop.** Throughout a run the stop is on its side, at each candle from the second on,
exactly when each candle leaves it there. -/
theorem sar_on_side_iff (step maxAF : Float64) (candles : List Candle) :
    Along WatchedSAR.step WatchedSAR.Law ⟨newSAREngine step maxAF, []⟩ candles ↔
      Along WatchedSAR.step WatchedSAR.Keeps ⟨newSAREngine step maxAF, []⟩ candles :=
  along_congr (I := WatchedSAR.Sound) (fun _ candle h => h.step candle) (fun _ _ h => WatchedSAR.law_iff h)
    (WatchedSAR.new_sound step maxAF)

/-! ## A second candle below the first, an outside candle, and a low that is forgotten -/

/-- A candle of the runs below. -/
def candleOf (high low close : Decimal) : Candle := { high, low, close, time := 0 }

/-- The second candle closes in the range of the first one, below whose low it has been. -/
def belowFirst : List Candle := [candleOf 10 9 (19 / 2), candleOf (19 / 2) 8 9]

/-- The third candle reaches the stop and the extreme point. -/
def outsideCandle : List Candle := [candleOf 10 9 (19 / 2), candleOf 10 9 (19 / 2), candleOf 12 8 9]

/-- The stop rises over the low of the first candle, two before. -/
def lowForgotten : List Candle := [candleOf 10 5 8, candleOf 11 6 (21 / 2), candleOf 12 11 12]

/-- A long stop lies above the candle, a short one below it, and a long one above a low of two candles
before. -/
theorem sar_leaves_side :
    (∀ candle ∈ belowFirst ++ outsideCandle ++ lowForgotten,
        candle.low ≤ candle.close ∧ candle.close ≤ candle.high) ∧
      ¬ Along WatchedSAR.step WatchedSAR.Law ⟨newSAREngine 0 0, []⟩ belowFirst ∧
      ¬ Along WatchedSAR.step WatchedSAR.Law ⟨newSAREngine 0 0, []⟩ outsideCandle ∧
      ¬ Along WatchedSAR.step WatchedSAR.Law ⟨newSAREngine 0 0, []⟩ lowForgotten := by
  refine ⟨by decide +kernel, ?_, ?_, ?_⟩
  · rintro ⟨-, hsecond, -⟩
    have hlong := (hsecond (by decide)).long (by decide +kernel)
    exact absurd hlong.1 (by decide +kernel)
  · rintro ⟨-, -, hthird, -⟩
    have hshort := (hthird (by decide)).short (by decide +kernel)
    exact absurd hshort.1 (by decide +kernel)
  · rintro ⟨-, -, hthird, -⟩
    have hlong := (hthird (by decide)).long (by decide +kernel)
    have hlow := hlong.2 (by decide +kernel) (candleOf 10 5 8) (by decide +kernel)
    exact absurd hlow (by decide +kernel)

end PredictATrade.Realtime.Features
