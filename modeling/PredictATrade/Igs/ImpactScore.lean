import PredictATrade.Lib.WeightedMean
import PredictATrade.Igs.Engine
import Mathlib.Data.List.Induction
import Mathlib.Tactic.Linarith

/-!
# `Igs.ImpactScore` — the weights behind a score

`Evaluate` reports an effective weight with each component it returns: base weight, confidence and
freshness multiplied. The mean is taken with the weights that `EffectiveWeight` computes, which looks at
the component's own `Freshness` and reads zero as 1. Its comment says that the freshness that follows from
the age has been applied before, but that is done only for stale components. Anything between a tenth and
one is reported and not used.

A component whose `Freshness` has been fed is weighed by it, as long as it is above zero. When it gets there,
the age decides, and the weight may rise.

`impact_law_iff` is the condition on the components under which the weights used are the ones reported and
no component gains weight with age.
-/

namespace PredictATrade.Igs

open Lib.WeightedMean

/-! ## The law -/

section
variable (e : Engine) (now : Time) (signalDirection : Direction)

/-- The engine is switched on. -/
def Engine.Running : Prop := e.cfg.enabled ∧ e.cfg.mode ≠ .disabled

/-- The weight with which the component of a name has gone into the score. -/
def Engine.weightOf (key : ComponentName) : ℚ :=
  (((e.evaluate now signalDirection).components.find? (·.name = key)).map (·.effectiveWeight)).getD 0

/-- The law of the score. A mean over no weight is zero. -/
structure ImpactLaw : Prop where
  mean : (e.evaluate now signalDirection).score =
    weightedMean (·.impact) (·.effectiveWeight) (e.evaluate now signalDirection).components
  reported : ∀ c ∈ (e.evaluate now signalDirection).components, c.effectiveWeight = c.effectiveW
  bounded : |(e.evaluate now signalDirection).score| ≤ 100
  adjustment : e.cfg.enabled → e.cfg.mode = .active →
    e.cfg.maxPenalty ≤ (e.evaluate now signalDirection).scoreAdjustment ∧
      (e.evaluate now signalDirection).scoreAdjustment ≤ e.cfg.maxBonus
  inactive : ¬ (e.cfg.enabled ∧ e.cfg.mode = .active) →
    (e.evaluate now signalDirection).scoreAdjustment = 0
  ageing : ∀ key c, e.components key = some c → ∀ freshness timestamp, freshness ≤ c.freshness →
    timestamp ≤ c.timestamp →
    (e.updateComponent { c with freshness, timestamp }).weightOf now signalDirection key ≤
      e.weightOf now signalDirection key

/-- A component that is enabled, there, and not failed. -/
def Engine.Fed (key : ComponentName) (c : Component) : Prop :=
  e.cfg.enabledComponents key ∧ e.components key = some c ∧ c.quality ≠ .unavailable ∧
    c.quality ≠ .error

/-- What the age of a component leaves of its freshness. -/
def Engine.derived (key : ComponentName) (c : Component) : ℚ :=
  computeFreshness c.timestamp (e.cfg.freshnessTTL key) now

/-- What is used of a freshness that follows from the age: all of it below a tenth, one above. -/
def coarse (fresh : ℚ) : ℚ := if fresh < 1 / 10 then fresh else 1

/-- The component carries no weight at all; or it was fed with a freshness that is not below what would be
used in its place; or it was fed with none, and its age leaves less than a tenth or everything. -/
def Engine.Consistent (key : ComponentName) (c : Component) : Prop :=
  e.cfg.weights key * c.confidence = 0 ∨
    (0 < c.freshness ∧ coarse (e.derived now key c) ≤ c.freshness) ∨
    (c.freshness ≤ 0 ∧ (e.derived now key c < 1 / 10 ∨ e.derived now key c = 1))

end

/-! ## Freshness -/

theorem seconds_mono {t t' u u' : Time} (ht : t ≤ t') (hu : u' ≤ u) : seconds t u ≤ seconds t' u' := by
  unfold seconds
  have hle : max (-9223372036854775808) (min 9223372036854775807 (t - u)) ≤
      max (-9223372036854775808) (min 9223372036854775807 (t' - u')) :=
    max_le_max le_rfl (min_le_min le_rfl (Int.sub_le_sub ht hu))
  have hcast : ((max (-9223372036854775808) (min 9223372036854775807 (t - u)) : ℤ) : ℚ) ≤
      ((max (-9223372036854775808) (min 9223372036854775807 (t' - u')) : ℤ) : ℚ) := by
    exact_mod_cast hle
  exact div_le_div_of_nonneg_right hcast (by norm_num)

theorem computeFreshness_nonneg (ts : Time) (ttl : ℤ) (now : Time) :
    0 ≤ computeFreshness ts ttl now := by
  unfold computeFreshness
  by_cases httl : ttl ≤ 0
  · rw [if_pos httl]
    exact zero_le_one
  · rw [if_neg httl]
    dsimp only
    by_cases hage : seconds now ts ≤ 0
    · rw [if_pos hage]
      exact zero_le_one
    · rw [if_neg hage]
      by_cases hold : (ttl : ℚ) ≤ seconds now ts
      · rw [if_pos hold]
      · rw [if_neg hold]
        have hpos : (0 : ℚ) < ttl := by exact_mod_cast not_le.mp httl
        have hle : seconds now ts / ttl ≤ 1 := (div_le_one hpos).mpr (not_le.mp hold).le
        exact sub_nonneg.mpr hle

/-- An older component is not fresher. -/
theorem computeFreshness_mono {ts ts' : Time} (h : ts' ≤ ts) (ttl : ℤ) (now : Time) :
    computeFreshness ts' ttl now ≤ computeFreshness ts ttl now := by
  have hage : seconds now ts ≤ seconds now ts' := seconds_mono le_rfl h
  have hnonneg := computeFreshness_nonneg ts ttl now
  unfold computeFreshness at hnonneg ⊢
  by_cases httl : ttl ≤ 0
  · rw [if_pos httl, if_pos httl]
  · rw [if_neg httl] at hnonneg ⊢
    rw [if_neg httl]
    dsimp only at hnonneg ⊢
    have hpos : (0 : ℚ) < ttl := by exact_mod_cast not_le.mp httl
    by_cases hnew' : seconds now ts' ≤ 0
    · rw [if_pos hnew', if_pos (hage.trans hnew')]
    · rw [if_neg hnew']
      by_cases hold' : (ttl : ℚ) ≤ seconds now ts'
      · rw [if_pos hold']
        exact hnonneg
      · rw [if_neg hold']
        have hratio : seconds now ts / ttl ≤ seconds now ts' / ttl :=
          div_le_div_of_nonneg_right hage hpos.le
        by_cases hnew : seconds now ts ≤ 0
        · rw [if_pos hnew]
          have := div_nonneg (not_le.mp hnew').le hpos.le
          linarith
        · rw [if_neg hnew, if_neg (fun h => hold' (h.trans hage))]
          linarith

theorem coarse_mono {x y : ℚ} (h : x ≤ y) : coarse x ≤ coarse y := by
  unfold coarse
  by_cases hy : y < 1 / 10
  · rw [if_pos hy, if_pos (h.trans_lt hy)]
    exact h
  · rw [if_neg hy]
    split <;> linarith

/-! ## The loop -/

section
variable (e : Engine) (now : Time) (signalDirection : Direction)

/-- The component of a name as it is returned, if it is. -/
def Engine.returned (key : ComponentName) : Option Component :=
  if e.cfg.enabledComponents key then
    (e.components key).bind fun c =>
      if c.quality = .unavailable ∨ c.quality = .error then none
      else if e.freshness now key c ≤ 0 then none
      else some (e.weigh now key c)
  else none

/-- The sums are those of the components that are returned. -/
structure Tally.Sums (t : Tally) : Prop where
  weighted : t.weighted = weightedSum (·.impact) (·.effectiveWeight) t.out
  totalW : t.totalW = totalWeight (·.effectiveWeight) t.out

theorem add_fields (t : Tally) (c : Component) :
    (t.add signalDirection c).weighted = t.weighted + c.impact * c.effectiveWeight ∧
      (t.add signalDirection c).totalW = t.totalW + c.effectiveWeight ∧
      (t.add signalDirection c).out = t.out ++ [c] := by
  unfold Tally.add
  dsimp only
  split
  · split
    · exact ⟨rfl, rfl, rfl⟩
    · split <;> exact ⟨rfl, rfl, rfl⟩
  · exact ⟨rfl, rfl, rfl⟩

theorem Tally.Sums.add {t : Tally} (h : t.Sums) (c : Component) : (t.add signalDirection c).Sums := by
  obtain ⟨hweighted, htotal, hout⟩ := add_fields signalDirection t c
  constructor
  · rw [hweighted, hout, weightedSum_concat, h.weighted]
  · rw [htotal, hout, totalWeight_concat, h.totalW]

/-- One component of the loop is returned or not, and the sums stay right. -/
theorem count_spec {t : Tally} (h : t.Sums) (key : ComponentName) :
    (e.count now signalDirection t key).Sums ∧
      (e.count now signalDirection t key).out = t.out ++ (e.returned now key).toList := by
  unfold Engine.count Engine.returned
  by_cases henabled : e.cfg.enabledComponents key
  · simp only [henabled, Bool.not_true, Bool.false_eq_true, if_false, if_true]
    cases hc : e.components key with
    | none => exact ⟨⟨h.weighted, h.totalW⟩, (List.append_nil _).symm⟩
    | some c =>
        dsimp only [Option.bind_some]
        by_cases hfailed : c.quality = .unavailable ∨ c.quality = .error
        · rw [if_pos hfailed, if_pos hfailed]
          exact ⟨⟨h.weighted, h.totalW⟩, (List.append_nil _).symm⟩
        · rw [if_neg hfailed, if_neg hfailed]
          -- a warning touches neither the sums nor what is returned
          have hwarned : ∀ t' : Tally, t'.weighted = t.weighted → t'.totalW = t.totalW →
              t'.out = t.out → t'.Sums := fun t' hweighted htotal hout =>
            ⟨by rw [hweighted, hout, h.weighted], by rw [htotal, hout, h.totalW]⟩
          by_cases hgone : e.freshness now key c ≤ 0
          · rw [if_pos hgone, if_pos hgone]
            split
            · exact ⟨hwarned _ rfl rfl rfl, (List.append_nil _).symm⟩
            · exact ⟨hwarned _ rfl rfl rfl, (List.append_nil _).symm⟩
          · rw [if_neg hgone, if_neg hgone]
            split
            · refine ⟨Tally.Sums.add signalDirection ?_ _, (add_fields ..).2.2⟩
              exact hwarned _ rfl rfl rfl
            · exact ⟨h.add signalDirection _, (add_fields ..).2.2⟩
  · simp only [henabled, Bool.not_false, if_true, Bool.false_eq_true, if_false]
    exact ⟨h, (List.append_nil _).symm⟩

/-- The tally is that of the components that are returned. -/
theorem tally_spec (keys : List ComponentName) :
    (e.tally now signalDirection keys).Sums ∧
      (e.tally now signalDirection keys).out = keys.filterMap (e.returned now) := by
  unfold Engine.tally
  induction keys using List.reverseRecOn with
  | nil => exact ⟨⟨rfl, rfl⟩, rfl⟩
  | append_singleton keys key ih =>
      obtain ⟨hsums, hout⟩ := count_spec e now signalDirection ih.1 key
      rw [List.foldl_append, List.foldl_cons, List.foldl_nil]
      refine ⟨hsums, hout.trans ?_⟩
      rw [ih.2, List.filterMap_append, List.filterMap_cons]
      cases e.returned now key <;> rfl

/-- What an engine that is running reports. -/
theorem evaluate_of_running (h : e.Running) :
    (e.evaluate now signalDirection).components = componentKeys.filterMap (e.returned now) ∧
      (e.evaluate now signalDirection).score =
        (if 0 < totalWeight (·.effectiveWeight) (componentKeys.filterMap (e.returned now)) then
          clamp100 (weightedMean (·.impact) (·.effectiveWeight)
            (componentKeys.filterMap (e.returned now))) else 0) ∧
      (e.evaluate now signalDirection).scoreAdjustment =
        boundedAdjustment (e.evaluate now signalDirection).score
          (e.evaluate now signalDirection).confidence e.cfg := by
  have hon : ¬ (!e.cfg.enabled ∨ e.cfg.mode = .disabled) := by
    rintro (hoff | hoff)
    · rw [h.1] at hoff
      exact absurd hoff (by decide)
    · exact h.2 hoff
  obtain ⟨hsums, hout⟩ := tally_spec e now signalDirection componentKeys
  unfold Engine.evaluate
  rw [if_neg hon]
  refine ⟨hout, ?_, rfl⟩
  unfold weightedMean
  rw [← hout, ← hsums.weighted, ← hsums.totalW]

/-- What an engine that is not running reports. -/
theorem evaluate_of_not_running (h : ¬ e.Running) :
    e.evaluate now signalDirection = { mode := e.cfg.mode, timestamp := now } := by
  unfold Engine.evaluate
  rw [if_pos]
  by_contra hoff
  rw [not_or] at hoff
  exact h ⟨by simpa using hoff.1, hoff.2⟩

end

/-! ## The weights -/

section
variable (e : Engine) (now : Time) (signalDirection : Direction) {key : ComponentName} {c : Component}

/-- The freshness that goes into the score. -/
def Engine.used (key : ComponentName) (c : Component) : ℚ :=
  if 0 < c.freshness then c.freshness else coarse (e.derived now key c)

theorem weigh_fields (key : ComponentName) (c : Component) :
    (e.weigh now key c).name = c.name ∧ (e.weigh now key c).impact = c.impact ∧
      (e.weigh now key c).effectiveW =
        e.cfg.weights key * c.confidence * e.freshness now key c := by
  unfold Engine.weigh
  dsimp only
  split <;> exact ⟨rfl, rfl, rfl⟩

theorem freshness_of_fed (h : 0 < c.freshness) : e.freshness now key c = c.freshness :=
  if_neg (not_le.mpr h)

theorem freshness_of_unfed (h : ¬ 0 < c.freshness) : e.freshness now key c = e.derived now key c :=
  if_pos (not_lt.mp h)

theorem effectiveWeight_of_pos (h : 0 < c.freshness) :
    c.effectiveWeight = clamp01 c.confidence * c.weight * c.freshness := by
  unfold Component.effectiveWeight
  rw [if_neg (not_le.mpr h)]

theorem effectiveWeight_of_nonpos (h : c.freshness ≤ 0) :
    c.effectiveWeight = clamp01 c.confidence * c.weight := by
  unfold Component.effectiveWeight
  rw [if_pos h, mul_one]

/-- The weight of a component that is returned. -/
theorem effectiveWeight_weigh (hc : c.Normal) (hfresh : 0 < e.freshness now key c) :
    (e.weigh now key c).effectiveWeight =
      e.cfg.weights key * c.confidence * e.used now key c := by
  have hconf := clamp01_of_mem hc.confidence
  unfold Engine.weigh Engine.used
  dsimp only
  by_cases hstale : e.freshness now key c < 1 / 10
  · rw [if_pos hstale, effectiveWeight_of_pos hfresh]
    dsimp only
    rw [hconf, mul_comm c.confidence]
    by_cases hfed : 0 < c.freshness
    · rw [if_pos hfed, freshness_of_fed e now hfed]
    · rw [if_neg hfed, freshness_of_unfed e now hfed]
      rw [freshness_of_unfed e now hfed] at hstale
      exact congrArg _ (if_pos hstale).symm
  · rw [if_neg hstale]
    by_cases hfed : 0 < c.freshness
    · rw [if_pos hfed, effectiveWeight_of_pos (by exact hfed)]
      dsimp only
      rw [hconf, mul_comm c.confidence]
    · rw [if_neg hfed, effectiveWeight_of_nonpos (by exact not_lt.mp hfed)]
      rw [freshness_of_unfed e now hfed] at hstale
      dsimp only
      rw [hconf, mul_comm c.confidence, coarse, if_neg hstale, mul_one]

/-- The weight used is the one reported exactly when there is none, or the freshness is the one that was
fed, or nothing of what follows from the age is lost. -/
theorem weigh_reported_iff (hc : c.Normal) (hfresh : 0 < e.freshness now key c) :
    (e.weigh now key c).effectiveWeight = (e.weigh now key c).effectiveW ↔
      e.cfg.weights key * c.confidence = 0 ∨ 0 < c.freshness ∨
        e.derived now key c < 1 / 10 ∨ e.derived now key c = 1 := by
  rw [effectiveWeight_weigh e now hc hfresh, (weigh_fields e now key c).2.2, mul_eq_mul_left_iff,
    or_comm]
  refine or_congr Iff.rfl ?_
  unfold Engine.used
  by_cases hfed : 0 < c.freshness
  · rw [if_pos hfed, freshness_of_fed e now hfed]
    exact iff_of_true rfl (Or.inl hfed)
  · rw [if_neg hfed, freshness_of_unfed e now hfed, or_iff_right hfed]
    unfold coarse
    by_cases hstale : e.derived now key c < 1 / 10
    · rw [if_pos hstale]
      exact iff_of_true rfl (Or.inl hstale)
    · rw [if_neg hstale, or_iff_right hstale]
      exact eq_comm

theorem used_nonneg (key : ComponentName) (c : Component) : 0 ≤ e.used now key c := by
  have hnonneg : 0 ≤ e.derived now key c := computeFreshness_nonneg ..
  unfold Engine.used coarse
  split
  · next h => exact h.le
  · split
    · exact hnonneg
    · exact zero_le_one

theorem returned_name {d : Component} (h : e.returned now key = some d) : d.name = key := by
  unfold Engine.returned at h
  by_cases henabled : e.cfg.enabledComponents key
  · rw [if_pos henabled, Option.bind_eq_some_iff] at h
    obtain ⟨c, hc, h⟩ := h
    split at h
    · cases h
    · split at h
      · cases h
      · obtain rfl := Option.some.inj h
        rw [(weigh_fields e now key c).1, e.named hc]
  · rw [if_neg henabled] at h
    cases h

/-- The component of a name among those that are returned. -/
theorem find?_returned (keys : List ComponentName) (key : ComponentName) :
    (keys.filterMap (e.returned now)).find? (·.name = key) =
      if key ∈ keys then e.returned now key else none := by
  induction keys with
  | nil => rfl
  | cons key' keys ih =>
      by_cases hkey : key' = key
      · subst hkey
        rw [if_pos List.mem_cons_self]
        cases hret : e.returned now key' with
        | none =>
            rw [List.filterMap_cons_none hret, ih, hret]
            split <;> rfl
        | some d =>
            rw [List.filterMap_cons_some hret]
            exact List.find?_cons_of_pos (by simpa using returned_name e now hret)
      · have hmem : key ∈ key' :: keys ↔ key ∈ keys := by
          rw [List.mem_cons, or_iff_right (Ne.symm hkey)]
        simp only [hmem]
        cases hret : e.returned now key' with
        | none => rw [List.filterMap_cons_none hret, ih]
        | some d =>
            rw [List.filterMap_cons_some hret, List.find?_cons_of_neg, ih]
            simpa [returned_name e now hret] using hkey

theorem returned_fed (h : e.Fed key c) :
    e.returned now key =
      if e.freshness now key c ≤ 0 then none else some (e.weigh now key c) := by
  unfold Engine.returned
  rw [if_pos h.1, h.2.1, Option.bind_some, if_neg]
  rintro (hq | hq)
  · exact h.2.2.1 hq
  · exact h.2.2.2 hq

theorem returned_not_fed (hc : e.components key = some c) (h : ¬ e.Fed key c) :
    e.returned now key = none := by
  unfold Engine.returned
  by_cases henabled : e.cfg.enabledComponents key
  · rw [if_pos henabled, hc, Option.bind_some, if_pos]
    by_contra hq
    rw [not_or] at hq
    exact h ⟨henabled, hc, hq.1, hq.2⟩
  · rw [if_neg henabled]

/-- The weight of a component that is returned. -/
theorem weightOf_running (h : e.Running) (hkey : key ∈ componentKeys) :
    e.weightOf now signalDirection key =
      ((e.returned now key).map (·.effectiveWeight)).getD 0 := by
  unfold Engine.weightOf
  rw [(evaluate_of_running e now signalDirection h).1, find?_returned, if_pos hkey]

/-- What does not count has no weight. -/
theorem weightOf_idle (h : ¬ (e.Running ∧ key ∈ componentKeys ∧ e.Fed key c))
    (hc : e.components key = some c) : e.weightOf now signalDirection key = 0 := by
  by_cases hrun : e.Running
  · by_cases hkey : key ∈ componentKeys
    · rw [weightOf_running e now signalDirection hrun hkey,
        returned_not_fed e now hc fun hfed => h ⟨hrun, hkey, hfed⟩]
      rfl
    · unfold Engine.weightOf
      rw [(evaluate_of_running e now signalDirection hrun).1, find?_returned, if_neg hkey]
      rfl
  · unfold Engine.weightOf
    rw [evaluate_of_not_running e now signalDirection hrun]
    rfl

theorem weightOf_fed (h : e.Running) (hkey : key ∈ componentKeys) (hfed : e.Fed key c) :
    e.weightOf now signalDirection key = e.cfg.weights key * c.confidence * e.used now key c := by
  rw [weightOf_running e now signalDirection h hkey, returned_fed e now hfed]
  by_cases hgone : e.freshness now key c ≤ 0
  · -- no freshness was fed, and the age has left none
    have hunfed : ¬ 0 < c.freshness := fun hpos =>
      absurd hgone (not_le.mpr ((freshness_of_fed e now hpos).symm ▸ hpos))
    have hderived : e.derived now key c = 0 := by
      rw [freshness_of_unfed e now hunfed] at hgone
      exact le_antisymm hgone (computeFreshness_nonneg ..)
    have hused : e.used now key c = 0 := by
      unfold Engine.used
      rw [if_neg hunfed, hderived]
      exact if_pos (by norm_num)
    rw [if_pos hgone, hused, mul_zero]
    rfl
  · rw [if_neg hgone]
    exact effectiveWeight_weigh e now (e.normal hfed.2.1) (not_le.mp hgone)

end

/-! ## Ageing -/

section
variable (e : Engine) (now : Time) (signalDirection : Direction) {key : ComponentName} {c : Component}

/-- The component with a freshness and a time of its own. -/
def Component.aged (c : Component) (freshness : ℚ) (timestamp : Time) : Component :=
  { c with freshness, timestamp }

theorem aged_normal (hc : c.Normal) {freshness : ℚ} (hle : freshness ≤ c.freshness)
    (timestamp : Time) : (c.aged freshness timestamp).Normal where
  impact := hc.impact
  confidence := hc.confidence
  freshness := hle.trans hc.freshness
  direction := hc.direction

theorem updateComponent_components (hc : c.Normal) (hname : c.name = key) :
    (e.updateComponent c).components key = some c := by
  show put e.components c.normalize key = some c
  rw [hc.normalize_eq]
  exact if_pos hname.symm

theorem updateComponent_aged (hc : e.components key = some c) {freshness : ℚ}
    (hle : freshness ≤ c.freshness) (timestamp : Time) :
    (e.updateComponent (c.aged freshness timestamp)).components key =
      some (c.aged freshness timestamp) := by
  have hname : c.name = key := e.named hc
  exact updateComponent_components e (aged_normal (e.normal hc) hle timestamp) hname

/-- A component counts or not, whatever its age. -/
theorem fed_aged_iff (hc : e.components key = some c) {freshness : ℚ} (hle : freshness ≤ c.freshness)
    (timestamp : Time) :
    (e.updateComponent (c.aged freshness timestamp)).Fed key (c.aged freshness timestamp) ↔
      e.Fed key c := by
  unfold Engine.Fed
  rw [and_iff_right (updateComponent_aged e hc hle timestamp), and_iff_right hc]
  exact Iff.rfl

/-- Less fed freshness and more age never lead to more, except where what was fed runs out and more
follows from the age. -/
theorem used_aged_le_iff (key : ComponentName) (c : Component) :
    (∀ freshness timestamp, freshness ≤ c.freshness → timestamp ≤ c.timestamp →
        e.used now key (c.aged freshness timestamp) ≤ e.used now key c) ↔
      (0 < c.freshness → coarse (e.derived now key c) ≤ c.freshness) := by
  unfold Engine.used
  constructor
  · intro h hfed
    have hzero := h 0 c.timestamp hfed.le le_rfl
    rw [if_pos hfed] at hzero
    rwa [if_neg (by exact lt_irrefl 0)] at hzero
  · intro h freshness timestamp hfresh htime
    have hderived : coarse (e.derived now key (c.aged freshness timestamp)) ≤
        coarse (e.derived now key c) :=
      coarse_mono (computeFreshness_mono htime _ now)
    by_cases hfed' : 0 < freshness
    · rw [if_pos (by exact hfed'), if_pos (hfed'.trans_le hfresh)]
      exact hfresh
    · rw [if_neg (by exact hfed')]
      by_cases hfed : 0 < c.freshness
      · rw [if_pos hfed]
        exact hderived.trans (h hfed)
      · rw [if_neg hfed]
        exact hderived

/-- No component of a name gains weight with age exactly when the component, if it counts, weighs nothing
or does not lose a fed freshness to a greater one. -/
theorem ageing_iff (hc : e.components key = some c) :
    (∀ freshness timestamp, freshness ≤ c.freshness → timestamp ≤ c.timestamp →
        (e.updateComponent { c with freshness, timestamp }).weightOf now signalDirection key ≤
          e.weightOf now signalDirection key) ↔
      (e.Running → key ∈ componentKeys → e.Fed key c → e.cfg.weights key * c.confidence = 0 ∨
        (0 < c.freshness → coarse (e.derived now key c) ≤ c.freshness)) := by
  by_cases hcounts : e.Running ∧ key ∈ componentKeys ∧ e.Fed key c
  · obtain ⟨hrun, hkey, hfed⟩ := hcounts
    rw [imp_iff_right hrun, imp_iff_right hkey, imp_iff_right hfed,
      weightOf_fed e now signalDirection hrun hkey hfed]
    have hweight : ∀ freshness timestamp, freshness ≤ c.freshness →
        (e.updateComponent (c.aged freshness timestamp)).weightOf now signalDirection key =
          e.cfg.weights key * c.confidence * e.used now key (c.aged freshness timestamp) :=
      fun freshness timestamp hle =>
        weightOf_fed (e.updateComponent (c.aged freshness timestamp)) now signalDirection hrun hkey
          ((fed_aged_iff e hc hle timestamp).mpr hfed)
    have hnonneg : 0 ≤ e.cfg.weights key * c.confidence :=
      mul_nonneg (e.cfg.weights_nonneg key) (e.normal hc).confidence.1
    rw [← used_aged_le_iff]
    constructor
    · intro h
      rcases hnonneg.eq_or_lt with hzero | hpos
      · exact Or.inl hzero.symm
      · refine Or.inr fun freshness timestamp hfresh htime => ?_
        have hle := h freshness timestamp hfresh htime
        exact le_of_mul_le_mul_left ((hweight freshness timestamp hfresh).symm.trans_le hle) hpos
    · rintro h freshness timestamp hfresh htime
      refine (hweight freshness timestamp hfresh).trans_le ?_
      rcases h with hzero | h
      · rw [hzero, zero_mul, zero_mul]
      · exact mul_le_mul_of_nonneg_left (h freshness timestamp hfresh htime) hnonneg
  · refine iff_of_true (fun freshness timestamp hfresh _ => ?_) fun hrun hkey hfed =>
      absurd ⟨hrun, hkey, hfed⟩ hcounts
    rw [weightOf_idle e now signalDirection hcounts hc]
    refine (weightOf_idle _ now signalDirection ?_ (updateComponent_aged e hc hfresh timestamp)).le
    rintro ⟨hrun, hkey, hfed⟩
    exact hcounts ⟨hrun, hkey, (fed_aged_iff e hc hfresh timestamp).mp hfed⟩

end

/-! ## The score -/

section
variable (e : Engine) (now : Time) (signalDirection : Direction)

/-- What is returned under a name comes from a component that counts. -/
theorem returned_eq_some_iff {key : ComponentName} {d : Component} :
    e.returned now key = some d ↔
      ∃ c, e.Fed key c ∧ 0 < e.freshness now key c ∧ d = e.weigh now key c := by
  constructor
  · intro h
    cases hc : e.components key with
    | none =>
        unfold Engine.returned at h
        rw [hc] at h
        split at h <;> cases h
    | some c =>
        by_cases hfed : e.Fed key c
        · rw [returned_fed e now hfed] at h
          split at h
          · cases h
          · next hfresh => exact ⟨c, hfed, not_le.mp hfresh, (Option.some.inj h).symm⟩
        · rw [returned_not_fed e now hc hfed] at h
          cases h
  · rintro ⟨c, hfed, hfresh, rfl⟩
    rw [returned_fed e now hfed, if_neg (not_le.mpr hfresh)]

/-- Which components are reported. -/
theorem mem_components_iff (h : e.Running) {d : Component} :
    d ∈ (e.evaluate now signalDirection).components ↔ ∃ key ∈ componentKeys, ∃ c,
      e.Fed key c ∧ 0 < e.freshness now key c ∧ d = e.weigh now key c := by
  rw [(evaluate_of_running e now signalDirection h).1, List.mem_filterMap]
  simp only [returned_eq_some_iff]

theorem components_bounds (h : e.Running) {d : Component}
    (hd : d ∈ (e.evaluate now signalDirection).components) :
    0 ≤ d.effectiveWeight ∧ |d.impact| ≤ 100 := by
  obtain ⟨key, -, c, hfed, hfresh, rfl⟩ := (mem_components_iff e now signalDirection h).mp hd
  have hc := e.normal hfed.2.1
  constructor
  · rw [effectiveWeight_weigh e now hc hfresh]
    exact mul_nonneg (mul_nonneg (e.cfg.weights_nonneg key) hc.confidence.1) (used_nonneg e now key c)
  · rw [(weigh_fields e now key c).2.1]
    exact hc.impact

/-- The clamp of the score does nothing. -/
theorem score_eq_mean (h : e.Running) : (e.evaluate now signalDirection).score =
    weightedMean (·.impact) (·.effectiveWeight) (e.evaluate now signalDirection).components := by
  have hweight : ∀ d ∈ (e.evaluate now signalDirection).components, 0 ≤ d.effectiveWeight :=
    fun d hd => (components_bounds e now signalDirection h hd).1
  have himpact : ∀ d ∈ (e.evaluate now signalDirection).components, |d.impact| ≤ 100 :=
    fun d hd => (components_bounds e now signalDirection h hd).2
  rw [(evaluate_of_running e now signalDirection h).1] at hweight himpact
  rw [(evaluate_of_running e now signalDirection h).2.1,
    (evaluate_of_running e now signalDirection h).1]
  split
  · exact clamp100_of_abs_le (abs_weightedMean_le (by norm_num) hweight himpact)
  · next hnone =>
      have hzero := le_antisymm (not_lt.mp hnone) (totalWeight_nonneg hweight)
      unfold weightedMean
      rw [hzero, div_zero]

theorem abs_score_le (h : e.Running) : |(e.evaluate now signalDirection).score| ≤ 100 := by
  rw [score_eq_mean e now signalDirection h]
  exact abs_weightedMean_le (by norm_num)
    (fun d hd => (components_bounds e now signalDirection h hd).1)
    fun d hd => (components_bounds e now signalDirection h hd).2

/-- The weights that are used are the reported ones exactly when no component that counts has lost some of
its age. -/
theorem reported_iff (h : e.Running) :
    (∀ d ∈ (e.evaluate now signalDirection).components, d.effectiveWeight = d.effectiveW) ↔
      ∀ key ∈ componentKeys, ∀ c, e.Fed key c → e.cfg.weights key * c.confidence = 0 ∨
        0 < c.freshness ∨ e.derived now key c < 1 / 10 ∨ e.derived now key c = 1 := by
  constructor
  · intro hall key hkey c hfed
    by_cases hfresh : 0 < e.freshness now key c
    · rw [← weigh_reported_iff e now (e.normal hfed.2.1) hfresh]
      exact hall _ ((mem_components_iff e now signalDirection h).mpr ⟨key, hkey, c, hfed, hfresh, rfl⟩)
    · -- it is not returned, so its age has left nothing
      by_cases hpos : 0 < c.freshness
      · exact Or.inr (Or.inl hpos)
      · rw [freshness_of_unfed e now hpos] at hfresh
        exact Or.inr (Or.inr (Or.inl ((not_lt.mp hfresh).trans_lt (by norm_num))))
  · intro hall d hd
    obtain ⟨key, hkey, c, hfed, hfresh, rfl⟩ := (mem_components_iff e now signalDirection h).mp hd
    exact (weigh_reported_iff e now (e.normal hfed.2.1) hfresh).mpr (hall key hkey c hfed)

theorem adjustment_bounds (hon : e.cfg.enabled) (hactive : e.cfg.mode = .active) :
    e.cfg.maxPenalty ≤ (e.evaluate now signalDirection).scoreAdjustment ∧
      (e.evaluate now signalDirection).scoreAdjustment ≤ e.cfg.maxBonus := by
  have hrun : e.Running := ⟨hon, by rw [hactive]; decide⟩
  rw [(evaluate_of_running e now signalDirection hrun).2.2]
  unfold boundedAdjustment
  rw [if_neg (not_not.mpr hactive)]
  exact ⟨le_max_left _ _, max_le e.cfg.penalty_le_bonus (min_le_left _ _)⟩

theorem adjustment_inactive (h : ¬ (e.cfg.enabled ∧ e.cfg.mode = .active)) :
    (e.evaluate now signalDirection).scoreAdjustment = 0 := by
  by_cases hrun : e.Running
  · rw [(evaluate_of_running e now signalDirection hrun).2.2]
    exact if_pos fun hactive => h ⟨hrun.1, hactive⟩
  · rw [evaluate_of_not_running e now signalDirection hrun]

/-- When a component is consistent with its impact. -/
theorem consistent_iff (key : ComponentName) (c : Component) :
    e.Consistent now key c ↔
      (e.cfg.weights key * c.confidence = 0 ∨ 0 < c.freshness ∨ e.derived now key c < 1 / 10 ∨
        e.derived now key c = 1) ∧
      (e.cfg.weights key * c.confidence = 0 ∨
        (0 < c.freshness → coarse (e.derived now key c) ≤ c.freshness)) := by
  unfold Engine.Consistent
  rw [← or_and_left]
  refine or_congr Iff.rfl ?_
  by_cases hfed : 0 < c.freshness
  · simp only [hfed, true_and, true_or, forall_true_left, not_le.mpr hfed, false_and, or_false]
  · simp only [hfed, false_and, false_or, false_imp_iff, and_true, not_lt.mp hfed, true_and]

/-- **The impact score.** The law holds of an evaluation exactly when the engine is off or every component
that counts is consistent. -/
theorem impact_law_iff :
    ImpactLaw e now signalDirection ↔
      (e.Running → ∀ key ∈ componentKeys, ∀ c, e.Fed key c → e.Consistent now key c) := by
  simp only [consistent_iff]
  constructor
  · intro h hrun key hkey c hfed
    exact ⟨(reported_iff e now signalDirection hrun).mp h.reported key hkey c hfed,
      (ageing_iff e now signalDirection hfed.2.1).mp (h.ageing key c hfed.2.1) hrun hkey hfed⟩
  · intro h
    have hageing : ∀ key c, e.components key = some c → ∀ freshness timestamp,
        freshness ≤ c.freshness → timestamp ≤ c.timestamp →
        (e.updateComponent { c with freshness, timestamp }).weightOf now signalDirection key ≤
          e.weightOf now signalDirection key := fun key c hc =>
      (ageing_iff e now signalDirection hc).mpr fun hrun hkey hfed => (h hrun key hkey c hfed).2
    by_cases hrun : e.Running
    · exact ⟨score_eq_mean e now signalDirection hrun,
        (reported_iff e now signalDirection hrun).mpr fun key hkey c hfed =>
          (h hrun key hkey c hfed).1,
        abs_score_le e now signalDirection hrun, adjustment_bounds e now signalDirection,
        adjustment_inactive e now signalDirection, hageing⟩
    · have hoff := evaluate_of_not_running e now signalDirection hrun
      refine ⟨?_, ?_, ?_, adjustment_bounds e now signalDirection,
        adjustment_inactive e now signalDirection, hageing⟩
      · rw [hoff]
        exact (zero_div _).symm
      · rw [hoff]
        exact fun c hc => absurd hc List.not_mem_nil
      · rw [hoff, abs_zero]
        norm_num

end

/-- The default configuration, switched on. -/
def activeEngine : Engine := newEngine { defaultConfig with enabled := true, mode := .active }

/-- A reading of the dollar. -/
def dollar (freshness : ℚ) : Component :=
  { name := .usdRegime, impact := 100, confidence := 1, freshness, quality := .connected
    timestamp := 604800000000000 }

/-- A reading of the positions. -/
def positioning : Component :=
  { name := .cot, impact := -100, confidence := 1, quality := .connected
    timestamp := 302400000000000 }

/-- Two components without a fed freshness, one just fed and one of half a week. -/
def halfAWeek : Engine := (activeEngine.updateComponent (dollar 0)).updateComponent positioning

/-- The mean of the impacts with the weights that are reported. -/
def Composite.audited (r : Composite) : ℚ := weightedMean (·.impact) (·.effectiveW) r.components

/-- The weights reported are 20 and 6, and the score is that of 20 and 12. A component whose fed freshness
goes from a half to nothing doubles its weight. -/
theorem impact_law_fails :
    ((halfAWeek.evaluate 604800000000000 .neutral).score = 25 ∧
      (halfAWeek.evaluate 604800000000000 .neutral).audited = 700 / 13 ∧
      ¬ ImpactLaw halfAWeek 604800000000000 .neutral) ∧
    ((activeEngine.updateComponent (dollar (1 / 2))).weightOf 604800000000000 .neutral .usdRegime = 10 ∧
      (activeEngine.updateComponent (dollar 0)).weightOf 604800000000000 .neutral .usdRegime = 20 ∧
      ¬ ImpactLaw (activeEngine.updateComponent (dollar (1 / 2))) 604800000000000 .neutral) := by
  refine ⟨⟨by decide +kernel, by decide +kernel, ?_⟩, by decide +kernel, by decide +kernel, ?_⟩
  · intro h
    exact absurd h.reported (by decide +kernel)
  · intro h
    have hle := h.ageing .usdRegime (dollar (1 / 2)).normalize rfl 0 604800000000000
      (by decide +kernel) le_rfl
    exact absurd hle (by decide +kernel)

end PredictATrade.Igs
