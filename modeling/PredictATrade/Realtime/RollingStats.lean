import Mathlib.Algebra.BigOperators.Ring.List
import Mathlib.Algebra.Order.BigOperators.Group.List
import Mathlib.Algebra.Order.Field.Rat
import Mathlib.Data.List.ReduceOption
import Mathlib.Tactic.FieldSimp
import Mathlib.Tactic.Linarith
import Mathlib.Tactic.Ring
import PredictATrade.Lib.Ring
import PredictATrade.Lib.Runs

/-!
# `Realtime.RollingStats` — the mean and the variance of the last values

`RollingStats` keeps a ring of values with their sum and the sum of their squares. Along any run its mean and
its variance are those of the last valid values since the last reset, as soon as there are enough of them
(`rolling_exact`). `initFromHistory` takes the end of the history before it leaves out what is not valid, so
the run is one in which the end of each history has the last valid values of it (`Covered`); then it does
what adding the whole history would do, up to where the ring begins.
-/

namespace PredictATrade.Realtime.Features
open Lib.Runs Lib.Ring Lib.Windows

/-- A number that is given to the engine; nothing stands for one that is not finite. -/
abbrev Observation := Option ℚ

/-- The statistics over a window. -/
structure RollingStats where
  window : ℕ
  minSamples : ℕ
  values : List ℚ
  head : ℕ := 0
  count : ℕ := 0
  sum : ℚ := 0
  sumSq : ℚ := 0
  ready : Bool := false
  deriving DecidableEq, Repr

namespace RollingStats

/-- `Add`. -/
def add (rs : RollingStats) : Observation → RollingStats
  | none => rs
  | some val =>
    let rs :=
      if rs.window ≤ rs.count then
        let old := rs.values.getD rs.head 0
        { rs with sum := rs.sum - old, sumSq := rs.sumSq - old * old }
      else rs
    let count := if rs.count < rs.window then rs.count + 1 else rs.count
    { rs with
      values := rs.values.set rs.head val
      sum := rs.sum + val
      sumSq := rs.sumSq + val * val
      head := (rs.head + 1) % rs.window
      count
      ready := rs.minSamples ≤ count }

/-- `Reset`. -/
def reset (rs : RollingStats) : RollingStats :=
  { rs with
    head := 0, count := 0, sum := 0, sumSq := 0, ready := false
    values := rs.values.map fun _ => 0 }

/-- `InitFromHistory`. -/
def initFromHistory (rs : RollingStats) (history : List Observation) : RollingStats :=
  let rs := rs.reset
  let start := if rs.window < history.length then history.length - rs.window else 0
  (history.drop start).foldl add rs

/-- `Mean`. -/
def mean (rs : RollingStats) : ℚ := if ¬ rs.ready ∨ rs.count = 0 then 0 else rs.sum / rs.count

/-- `Variance`. -/
def variance (rs : RollingStats) : ℚ :=
  if ¬ rs.ready ∨ rs.count < 2 then 0
  else
    let n : ℚ := rs.count
    let mean := rs.sum / n
    rs.sumSq / n - mean * mean

/-- The values that are held, the oldest first. -/
def held (rs : RollingStats) : List ℚ := (contents rs.values rs.head).rtake rs.count

/-- Two engines that differ in nothing but where their rings begin. -/
structure Same (rs rs' : RollingStats) : Prop where
  window : rs.window = rs'.window
  minSamples : rs.minSamples = rs'.minSamples
  count : rs.count = rs'.count
  sum : rs.sum = rs'.sum
  sumSq : rs.sumSq = rs'.sumSq
  ready : rs.ready = rs'.ready
  held : rs.held = rs'.held

end RollingStats

/-! ## Runs -/

/-- A call of the statistics. -/
inductive StatsCall where
  | add (val : Observation)
  | initFromHistory (history : List Observation)
  | reset
  deriving DecidableEq, Repr

/-- The engine, and the valid values since the last reset. -/
structure StatsRun where
  stats : RollingStats
  valid : List ℚ := []
  deriving DecidableEq, Repr

namespace StatsRun

/-- The statistics, with the observations they were given, after a call. -/
def step (r : StatsRun) : StatsCall → StatsRun
  | .add val => ⟨r.stats.add val, r.valid ++ val.toList⟩
  | .initFromHistory history => ⟨r.stats.initFromHistory history, history.reduceOption⟩
  | .reset => ⟨r.stats.reset, []⟩

end StatsRun

/-- The arithmetic mean. -/
def meanOf (l : List ℚ) : ℚ := l.sum / l.length

/-- The population variance. -/
def varianceOf (l : List ℚ) : ℚ := (l.map fun x => (x - meanOf l) ^ 2).sum / l.length

/-- The engine has the mean and the variance of the last valid values, if there are enough of them. -/
structure StatsRun.Exact (r : StatsRun) : Prop where
  mean : r.stats.mean =
    if r.stats.minSamples ≤ (r.valid.rtake r.stats.window).length then meanOf (r.valid.rtake r.stats.window)
    else 0
  variance : r.stats.variance =
    if r.stats.minSamples ≤ (r.valid.rtake r.stats.window).length then
      varianceOf (r.valid.rtake r.stats.window)
    else 0
  nonneg : 0 ≤ r.stats.variance

/-- The end of the history has its last valid values. -/
def Covered (window : ℕ) (history : List Observation) : Prop :=
  (history.rtake window).reduceOption = history.reduceOption.rtake window

/-- The engine is as the values that it has been given since its last reset leave it. -/
structure RollingStats.Tracks (rs : RollingStats) (valid : List ℚ) : Prop where
  length : rs.values.length = rs.window
  minSamples_pos : 0 < rs.minSamples
  holds : Holds rs.values rs.head valid
  count : rs.count = (valid.rtake rs.window).length
  sum : rs.sum = (valid.rtake rs.window).sum
  sumSq : rs.sumSq = ((valid.rtake rs.window).map fun x => x ^ 2).sum
  ready : rs.ready = decide (rs.minSamples ≤ rs.count)

section

variable {l : List ℚ}

theorem sum_sub_sq (l : List ℚ) (m : ℚ) :
    (l.map fun x => (x - m) ^ 2).sum = (l.map fun x => x ^ 2).sum - 2 * m * l.sum + l.length * m ^ 2 := by
  induction l with
  | nil => simp
  | cons x l ih =>
    rw [List.map_cons, List.sum_cons, List.map_cons, List.sum_cons, List.sum_cons, List.length_cons, ih]
    push_cast
    ring

/-- The variance from the sums. -/
theorem varianceOf_eq (hne : l ≠ []) :
    varianceOf l = (l.map fun x => x ^ 2).sum / l.length - meanOf l * meanOf l := by
  have hlen : (l.length : ℚ) ≠ 0 := by
    rw [Nat.cast_ne_zero]
    exact (List.length_pos_iff.mpr hne).ne'
  unfold varianceOf meanOf
  rw [sum_sub_sq]
  field_simp
  ring

theorem varianceOf_nonneg (l : List ℚ) : 0 ≤ varianceOf l := by
  apply div_nonneg _ (Nat.cast_nonneg _)
  apply List.sum_nonneg
  intro y hy
  obtain ⟨x, -, rfl⟩ := List.mem_map.mp hy
  exact sq_nonneg _

theorem varianceOf_singleton (x : ℚ) : varianceOf [x] = 0 := by
  simp [varianceOf, meanOf]

end

namespace RollingStats
variable {rs rs' : RollingStats} {valid valid' : List ℚ}

theorem Tracks.window_pos (h : rs.Tracks valid) : 0 < rs.window := by
  rw [← h.length]
  exact (Nat.zero_le _).trans_lt h.holds.head_lt

/-- What is tracked depends on the last values only. -/
theorem Tracks.of_rtake_eq (h : rs.Tracks valid) (heq : valid.rtake rs.window = valid'.rtake rs.window) :
    rs.Tracks valid' where
  length := h.length
  minSamples_pos := h.minSamples_pos
  holds := by
    refine ⟨h.holds.head_lt, ?_⟩
    rw [h.length, ← heq, ← h.length]
    exact h.holds.suffix
  count := heq ▸ h.count
  sum := heq ▸ h.sum
  sumSq := heq ▸ h.sumSq
  ready := h.ready

theorem Tracks.reset (h : rs.Tracks valid) : rs.reset.Tracks [] := by
  have hnil : ([] : List ℚ).rtake rs.window = [] := rtake_of_length_le (Nat.zero_le _)
  refine ⟨?_, h.minSamples_pos, Holds.new ?_, ?_, ?_, ?_, ?_⟩
  · exact (List.length_map _).trans h.length
  · show 0 < (rs.values.map fun _ => (0 : ℚ)).length
    rw [List.length_map, h.length]
    exact h.window_pos
  · show 0 = (([] : List ℚ).rtake rs.window).length
    rw [hnil]
    rfl
  · show 0 = (([] : List ℚ).rtake rs.window).sum
    rw [hnil]
    rfl
  · show 0 = ((([] : List ℚ).rtake rs.window).map fun x => x ^ 2).sum
    rw [hnil]
    rfl
  · exact (decide_eq_false (not_le.mpr h.minSamples_pos)).symm

/-- A value that comes in pushes the oldest out of the last values, if they are as many as the window. -/
theorem Tracks.rtake_concat (h : rs.Tracks valid) (val : ℚ) :
    (rs.window ≤ rs.count →
      ∃ old rest, rs.values.getD rs.head 0 = old ∧ valid.rtake rs.window = old :: rest ∧
        (valid ++ [val]).rtake rs.window = rest ++ [val]) ∧
      (rs.count < rs.window → (valid ++ [val]).rtake rs.window = valid.rtake rs.window ++ [val]) := by
  have hpos := h.window_pos
  have hcount := h.count
  rw [length_rtake] at hcount
  constructor
  · intro hfull
    have hlen : rs.values.length ≤ valid.length := by
      rw [h.length]
      omega
    have holdest := h.holds.oldest hlen
    rw [h.length] at holdest
    cases hlast : valid.rtake rs.window with
    | nil =>
      have hzero : (valid.rtake rs.window).length = 0 := by rw [hlast, List.length_nil]
      rw [length_rtake] at hzero
      omega
    | cons old rest =>
      rw [hlast, List.head?_cons] at holdest
      refine ⟨old, rest, ?_, rfl, ?_⟩
      · rw [List.getD_eq_getElem?_getD, holdest, Option.getD_some]
      · have hrest : rest.length = rs.window - 1 := by
          have hl : (valid.rtake rs.window).length = rest.length + 1 := by rw [hlast, List.length_cons]
          rw [length_rtake] at hl
          omega
        have hcut : valid.rtake (rs.window - 1) = rest := by
          rw [← rtake_rtake (Nat.sub_le rs.window 1), hlast, ← hrest]
          exact (rtake_append_of_le (l := [old]) le_rfl).trans (rtake_of_length_le le_rfl)
        rw [Lib.Windows.rtake_concat hpos, hcut]
  · intro hroom
    have hlen : valid.length < rs.window := by omega
    rw [rtake_of_length_le hlen.le, rtake_of_length_le]
    rw [List.length_append, List.length_singleton]
    exact hlen

/-- **One value.** -/
theorem Tracks.add (h : rs.Tracks valid) (val : Observation) : (rs.add val).Tracks (valid ++ val.toList) := by
  cases val with
  | none =>
    show rs.Tracks (valid ++ [])
    rw [List.append_nil]
    exact h
  | some val =>
    obtain ⟨hfull, hroom⟩ := h.rtake_concat val
    have hholds : Holds (rs.values.set rs.head val) ((rs.head + 1) % rs.window) (valid ++ [val]) := by
      rw [← h.length]
      exact h.holds.write val
    have hlength : (rs.values.set rs.head val).length = rs.window := List.length_set.trans h.length
    unfold RollingStats.add
    dsimp only
    by_cases hcount : rs.window ≤ rs.count
    · -- the oldest of the last values goes out of both sums
      obtain ⟨old, rest, hold, hlast, hnext⟩ := hfull hcount
      have hsum := h.sum
      have hsumSq := h.sumSq
      have hlen := h.count
      rw [hlast, List.sum_cons] at hsum
      rw [hlast, List.map_cons, List.sum_cons] at hsumSq
      rw [hlast, List.length_cons] at hlen
      rw [if_pos hcount]
      refine ⟨hlength, h.minSamples_pos, hholds, ?_, ?_, ?_, rfl⟩
      · dsimp only
        rw [if_neg (not_lt.mpr hcount), Option.toList_some, hnext, List.length_append, List.length_singleton,
          hlen]
      · dsimp only
        rw [Option.toList_some, hnext, List.sum_append, List.sum_singleton, hsum, hold]
        ring
      · dsimp only
        rw [Option.toList_some, hnext, List.map_append, List.sum_append, List.map_singleton,
          List.sum_singleton, hsumSq, hold]
        ring
    · have hnext := hroom (not_le.mp hcount)
      rw [if_neg hcount]
      refine ⟨hlength, h.minSamples_pos, hholds, ?_, ?_, ?_, rfl⟩
      · dsimp only
        rw [if_pos (not_le.mp hcount), Option.toList_some, hnext, List.length_append, List.length_singleton,
          ← h.count]
      · dsimp only
        rw [Option.toList_some, hnext, List.sum_append, List.sum_singleton, ← h.sum]
      · dsimp only
        rw [Option.toList_some, hnext, List.map_append, List.sum_append, List.map_singleton,
          List.sum_singleton, ← h.sumSq, sq]

/-- No call changes the window and the number of samples. -/
theorem add_frame (rs : RollingStats) (val : Observation) :
    (rs.add val).window = rs.window ∧ (rs.add val).minSamples = rs.minSamples := by
  cases val with
  | none => exact ⟨rfl, rfl⟩
  | some val =>
    unfold RollingStats.add
    dsimp only
    split_ifs <;> exact ⟨rfl, rfl⟩

/-- The values of a history, one after the other. -/
theorem Tracks.foldl_add (h : rs.Tracks valid) (history : List Observation) :
    (history.foldl RollingStats.add rs).Tracks (valid ++ history.reduceOption) ∧
      (history.foldl RollingStats.add rs).window = rs.window ∧
      (history.foldl RollingStats.add rs).minSamples = rs.minSamples := by
  induction history generalizing rs valid with
  | nil =>
    rw [List.reduceOption_nil, List.append_nil]
    exact ⟨h, rfl, rfl⟩
  | cons val history ih =>
    obtain ⟨htracks, hwindow, hmin⟩ := ih (h.add val)
    obtain ⟨hwindow', hmin'⟩ := rs.add_frame val
    refine ⟨?_, hwindow.trans hwindow', hmin.trans hmin'⟩
    have hvalues : valid ++ List.reduceOption (val :: history) =
        valid ++ val.toList ++ history.reduceOption := by
      cases val with
      | none =>
        rw [List.reduceOption_cons_of_none]
        simp
      | some val =>
        rw [List.reduceOption_cons_of_some]
        simp
    rw [hvalues]
    exact htracks

/-- A history is the last of its observations, added one by one. -/
theorem initFromHistory_eq (rs : RollingStats) (history : List Observation) :
    rs.initFromHistory history = (history.rtake rs.window).foldl RollingStats.add rs.reset := by
  unfold initFromHistory List.rtake
  have hstart : (if rs.window < history.length then history.length - rs.window else 0) =
      history.length - rs.window := by
    split <;> omega
  show (history.drop (if rs.window < history.length then history.length - rs.window else 0)).foldl _ _ = _
  rw [hstart]

/-- **A history.** Where its end has its last valid values, it leaves the engine as adding all of it would. -/
theorem Tracks.initFromHistory (h : rs.Tracks valid) {history : List Observation}
    (hcovered : Covered rs.window history) :
    (rs.initFromHistory history).Tracks history.reduceOption ∧
      (rs.initFromHistory history).window = rs.window ∧
      (rs.initFromHistory history).minSamples = rs.minSamples := by
  obtain ⟨htracks, hwindow, hmin⟩ := h.reset.foldl_add (history.rtake rs.window)
  rw [initFromHistory_eq]
  refine ⟨htracks.of_rtake_eq ?_, hwindow, hmin⟩
  rw [hwindow, List.nil_append]
  show (history.rtake rs.window).reduceOption.rtake rs.window = history.reduceOption.rtake rs.window
  rw [hcovered, rtake_rtake le_rfl]

theorem Tracks.held (h : rs.Tracks valid) : rs.held = valid.rtake rs.window := by
  obtain ⟨front, hfront⟩ := h.holds.suffix
  rw [h.length] at hfront
  unfold RollingStats.held
  rw [← hfront, h.count, rtake_append_of_le le_rfl, rtake_of_length_le le_rfl]

/-- What the engines track is all that they differ by. -/
theorem Tracks.same (h : rs.Tracks valid) (h' : rs'.Tracks valid') (hwindow : rs.window = rs'.window)
    (hmin : rs.minSamples = rs'.minSamples) (hvalid : valid.rtake rs.window = valid'.rtake rs'.window) :
    rs.Same rs' where
  window := hwindow
  minSamples := hmin
  count := by rw [h.count, h'.count, hvalid]
  sum := by rw [h.sum, h'.sum, hvalid]
  sumSq := by rw [h.sumSq, h'.sumSq, hvalid]
  ready := by rw [h.ready, h'.ready, h.count, h'.count, hvalid, hmin]
  held := by rw [h.held, h'.held, hvalid]

/-- When the statistics are ready. -/
theorem Tracks.ready_iff (h : rs.Tracks valid) : rs.ready = true ↔ rs.minSamples ≤ rs.count := by
  rw [h.ready, decide_eq_true_iff]

theorem Tracks.mean (h : rs.Tracks valid) :
    rs.mean = if rs.minSamples ≤ (valid.rtake rs.window).length then meanOf (valid.rtake rs.window)
      else 0 := by
  have hpos := h.minSamples_pos
  unfold RollingStats.mean meanOf
  rw [← h.count, ← h.sum]
  by_cases hready : rs.minSamples ≤ rs.count
  · have hnot : ¬ (¬ rs.ready = true ∨ rs.count = 0) :=
      not_or.mpr ⟨not_not.mpr (h.ready_iff.mpr hready), by omega⟩
    rw [if_neg hnot, if_pos hready]
  · rw [if_pos (Or.inl (mt h.ready_iff.mp hready)), if_neg hready]

theorem Tracks.variance (h : rs.Tracks valid) :
    rs.variance = if rs.minSamples ≤ (valid.rtake rs.window).length then
      varianceOf (valid.rtake rs.window) else 0 := by
  have hpos := h.minSamples_pos
  unfold RollingStats.variance
  rw [← h.count]
  by_cases hready : rs.minSamples ≤ rs.count
  · rw [if_pos hready]
    by_cases htwo : rs.count < 2
    · -- a single value
      have hone : (valid.rtake rs.window).length = 1 := by
        rw [← h.count]
        omega
      obtain ⟨x, hx⟩ := List.length_eq_one_iff.mp hone
      rw [if_pos (Or.inr htwo), hx, varianceOf_singleton]
    · have hne : valid.rtake rs.window ≠ [] := by
        rw [← List.length_pos_iff, ← h.count]
        omega
      have hnot : ¬ (¬ rs.ready = true ∨ rs.count < 2) :=
        not_or.mpr ⟨not_not.mpr (h.ready_iff.mpr hready), htwo⟩
      rw [if_neg hnot, varianceOf_eq hne]
      unfold meanOf
      rw [← h.count, ← h.sum, ← h.sumSq]
  · rw [if_pos (Or.inl (mt h.ready_iff.mp hready)), if_neg hready]

end RollingStats

namespace StatsRun
variable {window : ℕ} {r : StatsRun} {call : StatsCall}

/-- What every run keeps. -/
structure Sound (window : ℕ) (r : StatsRun) : Prop where
  tracks : r.stats.Tracks r.valid
  window : r.stats.window = window

/-- The history of the call is covered. -/
def Fits (window : ℕ) : StatsCall → Prop
  | .initFromHistory history => Covered window history
  | _ => True

/-- **Step.** The statistics stay those of the observations. -/
theorem Sound.step (h : r.Sound window) (hfits : Fits window call) : (r.step call).Sound window := by
  cases call with
  | add val => exact ⟨h.tracks.add val, (r.stats.add_frame val).1.trans h.window⟩
  | initFromHistory history =>
    have hcovered : Covered r.stats.window history := h.window ▸ hfits
    obtain ⟨htracks, hwindow, -⟩ := h.tracks.initFromHistory hcovered
    exact ⟨htracks, hwindow.trans h.window⟩
  | reset => exact ⟨h.tracks.reset, h.window⟩

theorem Sound.exact (h : r.Sound window) : r.Exact where
  mean := h.tracks.mean
  variance := h.tracks.variance
  nonneg := by
    rw [h.tracks.variance]
    split
    · exact varianceOf_nonneg _
    · exact le_rfl

end StatsRun

end PredictATrade.Realtime.Features
