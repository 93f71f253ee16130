import Mathlib.Data.Int.ConditionallyCompleteOrder
import Mathlib.Data.List.MinMax
import Mathlib.Tactic.Linarith
import Mathlib.Tactic.Ring
import PredictATrade.Liquidity.Duplicates

/-!
# `Liquidity.Contribution` — what the marks add to a score

`EvaluateSignalContribution` takes the youngest open mark of a series, in the order in which Go ranges
over the marks, and turns its confidence into a nudge between a penalty and a bonus. The numbers are those of
`Lib.Number`: without rounding, but with infinities and with what is no number. The clock is read once.

A confidence of one half is worth nothing, more of it pushes one way and less of it the other. For a
bullish mark the push is scaled by the bonus. For a bearish one it is scaled by the penalty with its sign
turned, which is a positive number as well, so that both kinds of mark push the same way. The clamp that follows
cannot see it. Nor does it catch a quality that is no number, which a flat-wick ratio of zero leaves in a mark: no
comparison with it holds, so it passes the minimum quality and the clamp.

`contribution_law` says what holds of every set of marks and what does not.
-/

namespace PredictATrade.Liquidity

open FloatLike (num)
open Lib (Number)
open Lib.Runs

/-! ## The contribution -/

/-- The engine with the rest of its configuration. -/
structure Contributor extends Engine Number where
  mode : String := "confluence"
  maxBonus : Number := num 5
  maxPenalty : Number := num (-5)

/-- `SetContributionBounds`. -/
def Contributor.setContributionBounds (e : Contributor) (maxBonus maxPenalty : Number) : Contributor :=
  { e with maxBonus, maxPenalty }

/-- `Contributing`. -/
def Contributor.contributing (e : Contributor) : Bool := e.mode = "confluence"

/-- `SignalContribution`, without the text of its reason. -/
structure SignalContribution where
  ok : Bool := false
  direction : Option MarkDirection := none
  scoreAdjustment : Number := num 0
  confidence : Number := num 0
  activeMarks : ℕ := 0

/-- The largest `time.Duration`. -/
def maxDuration : Duration := 9223372036854775807

/-- One mark of the search for the youngest. -/
def younger (now : Time) (symbol tf : String) (best : Option (DevilMark Number) × Duration)
    (m : DevilMark Number) : Option (DevilMark Number) × Duration :=
  if m.symbol ≠ symbol ∨ m.timeframe ≠ tf then best
  else if isTerminal m.state then best
  else
    let age := sub now m.detectedAt
    if age < best.2 then (some m, age) else best

section
variable (e : Contributor)

/-- The confidence in a mark of the given age. It halves over the time in which a mark expires. -/
def Contributor.confidenceAt (m : DevilMark Number) (age : Duration) : Number :=
  let conf := clamp01 (m.markQuality / num 100)
  if 0 < age then
    let decay := num age / (num e.cfg.markExpiryBars * num (5 * minute : ℤ))
    conf * clamp01 (num 1 - num (1 / 2) * decay)
  else conf

/-- The bounded nudge. -/
def Contributor.nudge (conf : Number) (direction : MarkDirection) : Number :=
  let base := conf * num 2 - num 1
  let adj :=
    match direction with
    | .bullish => base * e.maxBonus
    | .bearish => base * -e.maxPenalty
  maxF e.maxPenalty (minF e.maxBonus adj)

/-- `EvaluateSignalContribution`. -/
def Contributor.evaluateSignalContribution (now : Time) (symbol tf : String) : SignalContribution :=
  if !e.enabled || !e.contributing then {}
  else
    match e.marks.foldl (younger now symbol tf) (none, maxDuration) with
    | (none, _) => {}
    | (some best, bestAge) =>
      let conf := e.confidenceAt best bestAge
      { ok := true, direction := some best.direction, scoreAdjustment := e.nudge conf best.direction
        confidence := conf, activeMarks := e.marks.length }

end

/-! ## The law -/

/-- The age of a mark. -/
def DevilMark.age (m : DevilMark Number) (now : Time) : Duration := sub now m.detectedAt

/-- An open mark of the series. -/
def DevilMark.counts (m : DevilMark Number) (symbol tf : String) : Bool :=
  m.symbol = symbol ∧ m.timeframe = tf ∧ !isTerminal m.state

section
variable (e : Contributor) (now : Time) (symbol tf : String)

/-- The first of the youngest open marks of the series. -/
noncomputable def Contributor.youngest : Option (DevilMark Number) :=
  ((e.marks.filter (·.counts symbol tf)).argmin (·.age now)).filter (·.age now < maxDuration)

/-- The mark the engine contributes for. -/
def Contributor.Contributes (m : DevilMark Number) : Prop :=
  e.enabled ∧ e.contributing ∧ e.youngest now symbol tf = some m

/-- Every other open mark of the series is older. -/
def Contributor.Youngest (m : DevilMark Number) : Prop :=
  m ∈ e.marks ∧ m.counts symbol tf ∧
    ∀ m' ∈ e.marks, m'.counts symbol tf → m' = m ∨ m.age now < m'.age now

/-- The adjustment is within the bounds. -/
def Contributor.InRange : Prop :=
  let r := e.evaluateSignalContribution now symbol tf
  e.maxPenalty ≤ r.scoreAdjustment ∧ r.scoreAdjustment ≤ e.maxBonus

/-- An engine of the same configuration with the same youngest mark, whatever its other marks are, adjusts
by the same. -/
def Contributor.OnlyYoungest : Prop :=
  ∀ m, e.Youngest now symbol tf m → ∀ marks, { e with marks }.Youngest now symbol tf m →
    ({ e with marks }.evaluateSignalContribution now symbol tf).scoreAdjustment =
      (e.evaluateSignalContribution now symbol tf).scoreAdjustment

/-- Above one half, bullish is up and bearish is down. -/
def Contributor.Signed : Prop :=
  let r := e.evaluateSignalContribution now symbol tf
  r.ok → num (1 / 2) < r.confidence →
    (r.direction = some .bullish → num 0 < r.scoreAdjustment) ∧
      (r.direction = some .bearish → r.scoreAdjustment < num 0)

/-- The mark that looks the other way. -/
def DevilMark.flip (m : DevilMark Number) : DevilMark Number :=
  { m with direction := match m.direction with | .bullish => .bearish | .bearish => .bullish }

/-- The contributor with the marks of the other direction. -/
def Contributor.flip : Contributor := { e with marks := e.marks.map (·.flip) }

/-- The same marks looking the other way do not push the same way. -/
def Contributor.Opposed : Prop :=
  let adj := (e.evaluateSignalContribution now symbol tf).scoreAdjustment
  let adj' := (e.flip.evaluateSignalContribution now symbol tf).scoreAdjustment
  ¬ (num 0 < adj ∧ num 0 < adj') ∧ ¬ (adj < num 0 ∧ adj' < num 0)

end

/-! ## The youngest mark -/

section
variable (e : Contributor) (now : Time) (symbol tf : String)

theorem younger_counts {m : DevilMark Number} (h : m.counts symbol tf)
    (best : Option (DevilMark Number) × Duration) :
    younger now symbol tf best m = if m.age now < best.2 then (some m, m.age now) else best := by
  unfold DevilMark.counts at h
  simp only [Bool.decide_and, Bool.and_eq_true, decide_eq_true_eq, Bool.not_eq_true'] at h
  unfold younger
  rw [if_neg (by simp [h.1, h.2.1]), if_neg (by simp [h.2.2])]
  rfl

theorem younger_not_counts {m : DevilMark Number} (h : ¬ m.counts symbol tf)
    (best : Option (DevilMark Number) × Duration) : younger now symbol tf best m = best := by
  unfold younger
  by_cases hseries : m.symbol ≠ symbol ∨ m.timeframe ≠ tf
  · rw [if_pos hseries]
  · rw [if_neg hseries, if_pos]
    rw [not_or, not_ne_iff, not_ne_iff] at hseries
    simpa [DevilMark.counts, hseries.1, hseries.2] using h

/-- A mark that was found, with its age. -/
def found (now : Time) : Option (DevilMark Number) → Option (DevilMark Number) × Duration
  | none => (none, maxDuration)
  | some m => (some m, m.age now)

theorem found_filter (m : DevilMark Number) :
    found now ((some m).filter (·.age now < maxDuration)) =
      if m.age now < maxDuration then (some m, m.age now) else (none, maxDuration) := by
  by_cases hm : m.age now < maxDuration
  · rw [if_pos hm, Option.filter_some_pos (by simpa using hm)]
    rfl
  · rw [if_neg hm, Option.filter_some_neg (by simpa using hm)]
    rfl

/-- One more open mark. The age to beat is at most the largest duration, so a mark of that age is not
found. -/
theorem found_next (m : DevilMark Number) (best : Option (DevilMark Number)) :
    (if m.age now < (found now (best.filter (·.age now < maxDuration))).2 then (some m, m.age now)
      else found now (best.filter (·.age now < maxDuration))) =
      found now ((Option.casesOn best (some m) fun c =>
        if m.age now < c.age now then some m else some c : Option (DevilMark Number)).filter
          (·.age now < maxDuration)) := by
  cases best with
  | none => exact (found_filter now m).symm
  | some c =>
      dsimp only
      rw [apply_ite (Option.filter _), apply_ite (found now), found_filter, found_filter]
      by_cases hc : c.age now < maxDuration
      · by_cases hmc : m.age now < c.age now
        · simp [hc, hmc, hmc.trans hc]
        · simp [hc, hmc]
      · by_cases hm : m.age now < maxDuration
        · simp [hc, hm, hm.trans_le (not_lt.mp hc)]
        · simp [hc, hm]

/-- The loop finds the first of the youngest marks, with its age. -/
theorem foldl_younger (marks : List (DevilMark Number)) :
    marks.foldl (younger now symbol tf) (none, maxDuration) =
      found now (((marks.filter (·.counts symbol tf)).argmin (·.age now)).filter
        (·.age now < maxDuration)) := by
  induction marks using List.reverseRecOn with
  | nil => rfl
  | append_singleton marks m ih =>
      rw [List.foldl_append, List.foldl_cons, List.foldl_nil, ih, List.filter_append]
      by_cases hm : m.counts symbol tf
      · have hkeep : [m].filter (·.counts symbol tf) = [m] := List.filter_cons_of_pos hm
        rw [younger_counts now symbol tf hm, hkeep, List.argmin_concat]
        exact found_next now m _
      · have hdrop : [m].filter (·.counts symbol tf) = [] := List.filter_cons_of_neg hm
        rw [younger_not_counts now symbol tf hm, hdrop, List.append_nil]

/-- The engine contributes for the youngest mark. -/
theorem evaluate_of_contributes {m : DevilMark Number} (h : e.Contributes now symbol tf m) :
    e.evaluateSignalContribution now symbol tf =
      { ok := true, direction := some m.direction
        scoreAdjustment := e.nudge (e.confidenceAt m (m.age now)) m.direction
        confidence := e.confidenceAt m (m.age now), activeMarks := e.marks.length } := by
  obtain ⟨henabled, hcontributing, hyoungest⟩ := h
  unfold Contributor.youngest at hyoungest
  unfold Contributor.evaluateSignalContribution
  rw [foldl_younger, hyoungest]
  simp [henabled, hcontributing, found]

/-- Without such a mark it contributes nothing. -/
theorem evaluate_of_none (h : ∀ m, ¬ e.Contributes now symbol tf m) :
    e.evaluateSignalContribution now symbol tf = {} := by
  unfold Contributor.evaluateSignalContribution
  by_cases hoff : !e.enabled || !e.contributing
  · rw [if_pos hoff]
  · rw [if_neg hoff, foldl_younger]
    cases hyoungest : e.youngest now symbol tf with
    | none =>
        unfold Contributor.youngest at hyoungest
        rw [hyoungest]
        rfl
    | some m =>
        refine absurd ⟨?_, ?_, hyoungest⟩ (h m)
        · simp_all
        · simp_all

/-- A mark younger than all others is the one that is looked for. -/
theorem youngest_eq {m : DevilMark Number} (h : e.Youngest now symbol tf m) :
    e.youngest now symbol tf = (some m).filter (·.age now < maxDuration) := by
  obtain ⟨hmem, hcounts, hall⟩ := h
  unfold Contributor.youngest
  cases hbest : (e.marks.filter (·.counts symbol tf)).argmin (·.age now) with
  | none =>
      rw [List.argmin_eq_none, List.filter_eq_nil_iff] at hbest
      exact absurd hcounts (hbest m hmem)
  | some c =>
      have hc := List.mem_filter.mp (List.argmin_mem hbest)
      rcases hall c hc.1 hc.2 with rfl | hlt
      · rfl
      · have hle := List.le_of_mem_argmin (List.mem_filter.mpr ⟨hmem, hcounts⟩) hbest
        exact absurd hlt (not_lt.mpr hle)

theorem flip_age (m : DevilMark Number) : m.flip.age now = m.age now := rfl

theorem argmin_map_flip (marks : List (DevilMark Number)) :
    (marks.map (·.flip)).argmin (·.age now) = (marks.argmin (·.age now)).map (·.flip) := by
  induction marks using List.reverseRecOn with
  | nil => rfl
  | append_singleton marks m ih =>
      rw [List.map_append, List.map_singleton, List.argmin_concat, List.argmin_concat, ih]
      cases marks.argmin (·.age now) with
      | none => rfl
      | some c =>
          by_cases hmc : m.age now < c.age now
          · simp [flip_age, hmc]
          · simp [flip_age, hmc]

/-- Turning the marks around does not change which one is the youngest. -/
theorem youngest_flip :
    e.flip.youngest now symbol tf = (e.youngest now symbol tf).map (·.flip) := by
  unfold Contributor.youngest Contributor.flip
  have hfilter : (e.marks.map (·.flip)).filter (·.counts symbol tf) =
      (e.marks.filter (·.counts symbol tf)).map (·.flip) := List.filter_map
  rw [hfilter, argmin_map_flip]
  cases (e.marks.filter (·.counts symbol tf)).argmin (·.age now) with
  | none => rfl
  | some m =>
      by_cases hm : m.age now < maxDuration
      · simp [Option.filter_some, flip_age, hm]
      · simp [Option.filter_some, flip_age, hm]

theorem contributes_flip {m : DevilMark Number} (h : e.Contributes now symbol tf m) :
    e.flip.Contributes now symbol tf m.flip := by
  refine ⟨h.1, h.2.1, ?_⟩
  rw [youngest_flip, h.2.2]
  rfl

end

/-! ## The nudge -/

theorem num_eq (q : ℚ) : (num q : Number) = .fin q := rfl

/-- What is cut off to the unit interval lies in it, if it is a number. -/
theorem clamp01_cases {v : Number} (h : v ≠ .nan) : ∃ c, 0 ≤ c ∧ c ≤ 1 ∧ clamp01 v = .fin c := by
  unfold clamp01
  rw [num_eq, num_eq]
  cases v with
  | nan => exact absurd rfl h
  | inf s =>
      cases s with
      | false => exact ⟨1, zero_le_one, le_rfl, rfl⟩
      | true => exact ⟨0, le_rfl, zero_le_one, rfl⟩
  | fin q =>
      split
      · exact ⟨0, le_rfl, zero_le_one, rfl⟩
      · next hneg =>
        rw [Number.fin_lt_fin, not_lt] at hneg
        split
        · exact ⟨1, zero_le_one, le_rfl, rfl⟩
        · next hone =>
          rw [Number.fin_lt_fin, not_lt] at hone
          exact ⟨q, hneg, hone, rfl⟩

theorem clamp01_nan : clamp01 Number.nan = .nan := rfl

section
variable (e : Contributor)

/-- The share of its confidence that a mark of some age has kept is a number. -/
theorem decayed_ne_nan {age : ℚ} (hage : age ≠ 0) (bars : ℚ) :
    (num 1 - num (1 / 2) * (num age / (num bars * num (5 * minute : ℤ))) : Number) ≠ .nan := by
  rw [num_eq, num_eq, num_eq, num_eq, num_eq, Number.fin_mul_fin]
  by_cases hspan : bars * (5 * minute : ℤ) = 0
  · have hdiv : (Number.fin age / .fin (bars * (5 * minute : ℤ))) = .inf (decide (age < 0)) := by
      show (if _ then if _ then _ else _ else _) = _
      rw [if_pos hspan, if_neg hage]
    have hhalf : (1 / 2 : ℚ) ≠ 0 := by norm_num
    have hmul : Number.fin (1 / 2) * .inf (decide (age < 0)) =
        .inf (decide (age < 0) != decide ((1 / 2 : ℚ) < 0)) := if_neg hhalf
    rw [hdiv, hmul]
    exact Number.noConfusion
  · rw [Number.fin_div_fin hspan, Number.fin_mul_fin, Number.fin_sub_fin]
    exact Number.noConfusion

/-- The confidence is between zero and one, or the quality is no number. -/
theorem confidenceAt_cases (m : DevilMark Number) (age : Duration) :
    (m.markQuality = .nan ∧ e.confidenceAt m age = .nan) ∨
      (m.markQuality ≠ .nan ∧ ∃ c, 0 ≤ c ∧ c ≤ 1 ∧ e.confidenceAt m age = .fin c) := by
  unfold Contributor.confidenceAt
  dsimp only
  by_cases hq : m.markQuality = .nan
  · refine Or.inl ⟨hq, ?_⟩
    rw [hq, Number.nan_div, clamp01_nan]
    split
    · exact Number.nan_mul
    · rfl
  · refine Or.inr ⟨hq, ?_⟩
    have hquality : m.markQuality / num 100 ≠ .nan := by
      cases hcase : m.markQuality with
      | nan => exact absurd hcase hq
      | inf s => exact Number.noConfusion
      | fin q =>
          rw [num_eq, Number.fin_div_fin (by norm_num)]
          exact Number.noConfusion
    obtain ⟨c, hc0, hc1, hc⟩ := clamp01_cases hquality
    rw [hc]
    split
    · next hage =>
      have hage : ((age : ℤ) : ℚ) ≠ 0 := Int.cast_ne_zero.mpr hage.ne'
      obtain ⟨d, hd0, hd1, hd⟩ := clamp01_cases (decayed_ne_nan hage e.cfg.markExpiryBars)
      refine ⟨c * d, mul_nonneg hc0 hd0, mul_le_one₀ hc1 hd0 hd1, ?_⟩
      rw [hd, Number.fin_mul_fin]
    · exact ⟨c, hc0, hc1, rfl⟩

/-- What the base is scaled by. It is positive for both directions. -/
def Contributor.scale : MarkDirection → Number
  | .bullish => e.maxBonus
  | .bearish => -e.maxPenalty

theorem nudge_eq (conf : Number) (direction : MarkDirection) :
    e.nudge conf direction =
      maxF e.maxPenalty (minF e.maxBonus ((conf * num 2 - num 1) * e.scale direction)) := by
  cases direction with
  | bullish => rfl
  | bearish => rfl

variable {e} (hpenalty : e.maxPenalty < num 0) (hbonus : num 0 < e.maxBonus) {x : Number}
include hpenalty hbonus

theorem scale_pos (direction : MarkDirection) : num 0 < e.scale direction := by
  cases direction with
  | bullish => exact hbonus
  | bearish => exact Number.neg_pos hpenalty

/-- The clamp of a number is within the bounds. -/
theorem clamp_bounds (h : x ≠ .nan) :
    e.maxPenalty ≤ maxF e.maxPenalty (minF e.maxBonus x) ∧ maxF e.maxPenalty (minF e.maxBonus x) ≤ e.maxBonus := by
  have hpen : e.maxPenalty ≠ .nan := by
    intro hnan
    rw [hnan] at hpenalty
    exact Number.not_nan_lt hpenalty
  have hbon : e.maxBonus ≠ .nan := by
    intro hnan
    rw [hnan] at hbonus
    exact Number.not_lt_nan hbonus
  have hspread := Number.lt_trans hpenalty hbonus
  unfold minF
  split
  · rw [maxF, if_neg (Number.lt_asymm hspread)]
    exact ⟨Number.le_of_lt hspread, Number.le_refl hbon⟩
  · next habove =>
    unfold maxF
    split
    · exact ⟨Number.le_refl hpen, Number.le_of_lt hspread⟩
    · next hbelow => exact ⟨Number.le_of_not_lt h hpen hbelow, Number.le_of_not_lt hbon h habove⟩

omit hpenalty hbonus in
/-- It does not catch what is no number. -/
theorem clamp_nan : maxF e.maxPenalty (minF e.maxBonus .nan) = .nan := by
  rw [minF, if_neg Number.not_lt_nan, maxF, if_neg Number.not_nan_lt]

/-- The bounds keep what is positive so, and nothing else. -/
theorem clamp_pos_iff : num 0 < maxF e.maxPenalty (minF e.maxBonus x) ↔ num 0 < x := by
  unfold minF
  split
  · next habove =>
    rw [maxF, if_neg (Number.lt_asymm (Number.lt_trans hpenalty hbonus))]
    exact iff_of_true hbonus (Number.lt_trans hbonus habove)
  · unfold maxF
    split
    · next hbelow =>
      exact iff_of_false (Number.lt_asymm hpenalty) (Number.lt_asymm (Number.lt_trans hbelow hpenalty))
    · exact Iff.rfl

/-- The bounds keep what is negative so, and nothing else. -/
theorem clamp_neg_iff : maxF e.maxPenalty (minF e.maxBonus x) < num 0 ↔ x < num 0 := by
  unfold minF
  split
  · next habove =>
    rw [maxF, if_neg (Number.lt_asymm (Number.lt_trans hpenalty hbonus))]
    exact iff_of_false (Number.lt_asymm hbonus) (Number.lt_asymm (Number.lt_trans hbonus habove))
  · unfold maxF
    split
    · next hbelow => exact iff_of_true hpenalty (Number.lt_trans hbelow hpenalty)
    · exact Iff.rfl

/-- **The nudge.** Of a confidence that is a number it is in the bounds, unless it is a half and the scale is infinite;
whatever the direction of the mark, a confidence above one half raises the score and one below lowers it. -/
theorem nudge_cases (c : ℚ) (direction : MarkDirection) :
    (e.maxPenalty ≤ e.nudge (.fin c) direction ∧ e.nudge (.fin c) direction ≤ e.maxBonus ↔
        ¬ (c = 1 / 2 ∧ e.scale direction = .inf false)) ∧
      (num 0 < e.nudge (.fin c) direction ↔ 1 / 2 < c) ∧ (e.nudge (.fin c) direction < num 0 ↔ c < 1 / 2) := by
  obtain ⟨hnan, hpos, hneg⟩ := Number.mul_pos_cases (scale_pos hpenalty hbonus direction) (c * 2 - 1)
  have hbase : (Number.fin c * num 2 - num 1) = .fin (c * 2 - 1) := by
    rw [num_eq, num_eq, Number.fin_mul_fin, Number.fin_sub_fin]
  rw [nudge_eq, clamp_pos_iff hpenalty hbonus, clamp_neg_iff hpenalty hbonus, hbase]
  refine ⟨?_, hpos.trans ?_, hneg.trans ?_⟩
  · have hhalf : c * 2 - 1 = 0 ↔ c = 1 / 2 := by constructor <;> intro h <;> linarith
    rw [hhalf] at hnan
    rw [← hnan]
    constructor
    · rintro ⟨hle, -⟩ h
      rw [h, clamp_nan] at hle
      exact Number.not_le_nan hle
    · exact clamp_bounds hpenalty hbonus
  · constructor <;> intro h <;> linarith
  · constructor <;> intro h <;> linarith

omit hpenalty hbonus in
theorem nudge_nan (direction : MarkDirection) : e.nudge .nan direction = .nan := by
  rw [nudge_eq, Number.nan_mul, Number.nan_sub, Number.nan_mul, clamp_nan]

/-- Whatever the direction of the mark, a confidence above one half raises the score, -/
theorem nudge_pos_iff (m : DevilMark Number) (age : Duration) (direction : MarkDirection) :
    num 0 < e.nudge (e.confidenceAt m age) direction ↔ num (1 / 2) < e.confidenceAt m age := by
  rcases confidenceAt_cases e m age with ⟨-, h⟩ | ⟨-, c, -, -, h⟩
  · rw [h, nudge_nan]
    exact iff_of_false Number.not_lt_nan Number.not_lt_nan
  · rw [h, num_eq (1 / 2), Number.fin_lt_fin]
    exact (nudge_cases hpenalty hbonus c direction).2.1

/-- and one below lowers it. -/
theorem nudge_neg_iff (m : DevilMark Number) (age : Duration) (direction : MarkDirection) :
    e.nudge (e.confidenceAt m age) direction < num 0 ↔ e.confidenceAt m age < num (1 / 2) := by
  rcases confidenceAt_cases e m age with ⟨-, h⟩ | ⟨-, c, -, -, h⟩
  · rw [h, nudge_nan]
    exact iff_of_false Number.not_nan_lt Number.not_nan_lt
  · rw [h, num_eq (1 / 2), Number.fin_lt_fin]
    exact (nudge_cases hpenalty hbonus c direction).2.2

/-- The nudge is within the bounds unless the quality is no number, or an infinite bound meets a half. -/
theorem nudge_bounds_iff (m : DevilMark Number) (age : Duration) (direction : MarkDirection) :
    e.maxPenalty ≤ e.nudge (e.confidenceAt m age) direction ∧
        e.nudge (e.confidenceAt m age) direction ≤ e.maxBonus ↔
      m.markQuality ≠ .nan ∧ ¬ (e.confidenceAt m age = num (1 / 2) ∧ e.scale direction = .inf false) := by
  rcases confidenceAt_cases e m age with ⟨hq, h⟩ | ⟨hq, c, -, -, h⟩
  · rw [h, nudge_nan]
    exact iff_of_false (fun hle => Number.not_le_nan hle.1) fun hne => hne.1 hq
  · rw [h, num_eq (1 / 2), and_iff_right hq, Number.fin.injEq]
    exact (nudge_cases hpenalty hbonus c direction).1

end

/-! ## Every set of marks -/

section
variable (e : Contributor) (now : Time) (symbol tf : String)

theorem onlyYoungest : e.OnlyYoungest now symbol tf := by
  intro m hm marks hm'
  have hyoungest := youngest_eq e now symbol tf hm
  have hyoungest' := youngest_eq { e with marks } now symbol tf hm'
  by_cases hc : e.Contributes now symbol tf m
  · have hc' : { e with marks }.Contributes now symbol tf m :=
      ⟨hc.1, hc.2.1, by rw [hyoungest', ← hyoungest, hc.2.2]⟩
    rw [evaluate_of_contributes _ _ _ _ hc, evaluate_of_contributes _ _ _ _ hc']
    rfl
  · -- neither contributes: it is off, or the mark is of the largest age
    have hnone : ∀ e' : Contributor, e'.enabled = e.enabled → e'.contributing = e.contributing →
        e'.youngest now symbol tf = e.youngest now symbol tf →
        ∀ m', ¬ e'.Contributes now symbol tf m' := by
      rintro e' henabled hcontributing hsame m' ⟨h1, h2, h3⟩
      rw [henabled] at h1
      rw [hcontributing] at h2
      rw [hsame] at h3
      have hm' : m' = m := by
        rw [hyoungest, Option.filter_eq_some_iff] at h3
        exact (Option.some.inj h3.1).symm
      exact hc ⟨h1, h2, hm' ▸ h3⟩
    rw [evaluate_of_none _ _ _ _ (hnone e rfl rfl rfl),
      evaluate_of_none _ _ _ _ (hnone { e with marks } rfl rfl (hyoungest'.trans hyoungest.symm))]

/-- The confidence the engine has in a mark. -/
def Contributor.confidence (m : DevilMark Number) : Number := e.confidenceAt m (m.age now)

/-- The engine contributes for one mark at most. -/
theorem forall_contributes {m : DevilMark Number} (h : e.Contributes now symbol tf m)
    (P : DevilMark Number → Prop) : (∀ m', e.Contributes now symbol tf m' → P m') ↔ P m := by
  constructor
  · exact fun hall => hall m h
  · intro hm m' h'
    obtain rfl : m' = m := Option.some.inj (h'.2.2.symm.trans h.2.2)
    exact hm

/-- When the contribution stays within its bounds. -/
theorem inRange_iff (hpenalty : e.maxPenalty < num 0) (hbonus : num 0 < e.maxBonus) :
    e.InRange now symbol tf ↔ ∀ m, e.Contributes now symbol tf m → m.markQuality ≠ .nan ∧
      ¬ (e.confidence now m = num (1 / 2) ∧ e.scale m.direction = .inf false) := by
  unfold Contributor.InRange
  by_cases hc : ∃ m, e.Contributes now symbol tf m
  · obtain ⟨m, hc⟩ := hc
    rw [evaluate_of_contributes _ _ _ _ hc, forall_contributes e now symbol tf hc]
    exact nudge_bounds_iff hpenalty hbonus m _ _
  · rw [evaluate_of_none _ _ _ _ (not_exists.mp hc)]
    exact iff_of_true ⟨Number.le_of_lt hpenalty, Number.le_of_lt hbonus⟩ fun m h => absurd ⟨m, h⟩ hc

/-- When the contribution has the sign of the marks. -/
theorem signed_iff (hpenalty : e.maxPenalty < num 0) (hbonus : num 0 < e.maxBonus) :
    e.Signed now symbol tf ↔ ∀ m, e.Contributes now symbol tf m → m.direction = .bearish →
      ¬ num (1 / 2) < e.confidence now m := by
  unfold Contributor.Signed
  by_cases hc : ∃ m, e.Contributes now symbol tf m
  · obtain ⟨m, hc⟩ := hc
    rw [evaluate_of_contributes _ _ _ _ hc, forall_contributes e now symbol tf hc]
    have hraises := fun d => nudge_pos_iff hpenalty hbonus m (m.age now) d
    constructor
    · intro h hbearish hconf
      have hneg := (h rfl hconf).2 (congrArg some hbearish)
      exact Number.lt_asymm hneg ((hraises _).mpr hconf)
    · intro h r _ hconf
      refine ⟨fun _ => (hraises _).mpr hconf, fun hbearish => ?_⟩
      exact absurd hconf (h (Option.some.inj hbearish))
  · rw [evaluate_of_none _ _ _ _ (not_exists.mp hc)]
    exact iff_of_true (fun h => absurd h Bool.false_ne_true) fun m h => absurd ⟨m, h⟩ hc

/-- A confidence that is neither above one half nor below is a half, or no number. -/
theorem confidence_even_iff (m : DevilMark Number) :
    (¬ num (1 / 2) < e.confidence now m ∧ ¬ e.confidence now m < num (1 / 2)) ↔
      e.confidence now m = num (1 / 2) ∨ m.markQuality = .nan := by
  unfold Contributor.confidence
  rcases confidenceAt_cases e m (m.age now) with ⟨hq, h⟩ | ⟨hq, c, -, -, h⟩
  · rw [h]
    exact iff_of_true ⟨Number.not_lt_nan, Number.not_nan_lt⟩ (Or.inr hq)
  · rw [h, num_eq, Number.fin_lt_fin, Number.fin_lt_fin, not_lt, not_lt, or_iff_left hq, Number.fin.injEq]
    exact le_antisymm_iff.symm

/-- When marks of opposite directions give opposite contributions. -/
theorem opposed_iff (hpenalty : e.maxPenalty < num 0) (hbonus : num 0 < e.maxBonus) :
    e.Opposed now symbol tf ↔ ∀ m, e.Contributes now symbol tf m →
      e.confidence now m = num (1 / 2) ∨ m.markQuality = .nan := by
  unfold Contributor.Opposed
  by_cases hc : ∃ m, e.Contributes now symbol tf m
  · obtain ⟨m, hc⟩ := hc
    rw [evaluate_of_contributes _ _ _ _ hc,
      evaluate_of_contributes _ _ _ _ (contributes_flip e now symbol tf hc),
      forall_contributes e now symbol tf hc, ← confidence_even_iff]
    -- turned around, the mark has the confidence it had, and it pushes the same way
    have hpos : ∀ d, num 0 < e.nudge (e.confidence now m) d ↔ num (1 / 2) < e.confidence now m :=
      nudge_pos_iff hpenalty hbonus m _
    have hneg : ∀ d, e.nudge (e.confidence now m) d < num 0 ↔ e.confidence now m < num (1 / 2) :=
      nudge_neg_iff hpenalty hbonus m _
    show ¬ (num 0 < e.nudge (e.confidence now m) _ ∧ num 0 < e.nudge (e.confidence now m) _) ∧
      ¬ (e.nudge (e.confidence now m) _ < num 0 ∧ e.nudge (e.confidence now m) _ < num 0) ↔ _
    rw [hpos, hpos, hneg, hneg, and_self, and_self]
  · rw [evaluate_of_none _ _ _ _ (not_exists.mp hc)]
    exact iff_of_true ⟨fun h => absurd h.1 (Number.lt_irrefl _), fun h => absurd h.1 (Number.lt_irrefl _)⟩
      fun m h => absurd ⟨m, h⟩ hc

/-- **The contribution.** It is in range exactly when the youngest mark has a quality that is a number, and no infinite
bound meets a confidence of one half; the youngest mark alone decides it. Its sign is right exactly when that mark is
not a bearish one of a confidence above one half, and the two kinds of mark push in different directions only where
neither pushes at all. -/
theorem contribution_law (hpenalty : e.maxPenalty < num 0) (hbonus : num 0 < e.maxBonus) :
    (e.InRange now symbol tf ↔ ∀ m, e.Contributes now symbol tf m → m.markQuality ≠ .nan ∧
        ¬ (e.confidence now m = num (1 / 2) ∧ e.scale m.direction = .inf false)) ∧
      e.OnlyYoungest now symbol tf ∧
      (e.Signed now symbol tf ↔ ∀ m, e.Contributes now symbol tf m → m.direction = .bearish →
        ¬ num (1 / 2) < e.confidence now m) ∧
      (e.Opposed now symbol tf ↔ ∀ m, e.Contributes now symbol tf m →
        e.confidence now m = num (1 / 2) ∨ m.markQuality = .nan) :=
  ⟨inRange_iff e now symbol tf hpenalty hbonus, onlyYoungest e now symbol tf,
    signed_iff e now symbol tf hpenalty hbonus, opposed_iff e now symbol tf hpenalty hbonus⟩

end

/-- The engine with the given configuration after a fall that leaves a bearish mark, with the default bounds. -/
def fallenWith (cfg : Config Number) : Contributor where
  toEngine := run processCandle (newEngine cfg) [m5 0 1003 1006 999 1000, m5 5 1045 1045 1005 1006]

/-- The same with the default configuration. -/
def fallen : Contributor := fallenWith defaultConfig

/-- A bearish mark that is sure of little. -/
theorem contribution_law_fallen :
    (fallen.InRange (5 * minute) "XAUUSD" "M5" ↔ ∀ m,
        fallen.Contributes (5 * minute) "XAUUSD" "M5" m → m.markQuality ≠ .nan ∧
          ¬ (fallen.confidence (5 * minute) m = num (1 / 2) ∧ fallen.scale m.direction = .inf false)) ∧
      fallen.OnlyYoungest (5 * minute) "XAUUSD" "M5" ∧
      (fallen.Signed (5 * minute) "XAUUSD" "M5" ↔ ∀ m,
        fallen.Contributes (5 * minute) "XAUUSD" "M5" m → m.direction = .bearish →
          ¬ num (1 / 2) < fallen.confidence (5 * minute) m) ∧
      (fallen.Opposed (5 * minute) "XAUUSD" "M5" ↔ ∀ m,
        fallen.Contributes (5 * minute) "XAUUSD" "M5" m →
          fallen.confidence (5 * minute) m = num (1 / 2) ∨ m.markQuality = .nan) :=
  contribution_law fallen (5 * minute) "XAUUSD" "M5" (by decide) (by decide)

/-- The mark has a confidence of 0.84 and raises the score, as it would if it were bullish. With a flat-wick ratio of
zero its quality is no number, and neither is the adjustment. -/
theorem bearish_raises :
    ¬ fallen.Signed (5 * minute) "XAUUSD" "M5" ∧ ¬ fallen.Opposed (5 * minute) "XAUUSD" "M5" ∧
      ¬ (fallenWith { defaultConfig with flatWickRatio := num 0 }).InRange (5 * minute) "XAUUSD" "M5" := by
  refine ⟨?_, ?_, ?_⟩
  · intro h
    have hneg := (h (by decide +kernel) (by decide +kernel)).2 (by decide +kernel)
    exact absurd hneg (by decide +kernel)
  · intro h
    exact h.1 ⟨by decide +kernel, by decide +kernel⟩
  · intro h
    exact absurd h.1 (by decide +kernel)

end PredictATrade.Liquidity
