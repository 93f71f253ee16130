import Mathlib.Data.Rat.Defs
import Mathlib.Algebra.Order.Ring.Unbundled.Rat
import Mathlib.Algebra.Order.Field.Rat
import Mathlib.Algebra.Order.Group.Abs
import Mathlib.Tactic.NormNum

/-!
# `Igs.Engine` — the Institutional Gold Signal composite

`internal/igs`: components are fed by `UpdateComponent`, and `Evaluate` takes a mean of their impacts.
A component is weighed by its base weight, its confidence and its freshness, which is the one that was fed
or, if none was, follows from its age.

Numbers are exact. `NewEngine` is only ever given the `DefaultConfig`, with another mode or other components
switched on; of its numbers the proofs need that no weight is negative and that the penalty is not above
the bonus.
-/

namespace PredictATrade.Igs

/-! ## Data -/

/-- Nanoseconds. -/
abbrev Time := ℤ

/-- The components of the score, a string in the source. -/
inductive ComponentName where
  | etf | centralBank | cot | realYield | usdRegime | optionsGamma | aiResearch | physicalDemand
  | other (name : String)
  deriving DecidableEq, Repr

/-- The key of a component. -/
def ComponentName.string : ComponentName → String
  | .etf => "etf_flows"
  | .centralBank => "central_bank_flow"
  | .cot => "cot_positioning"
  | .realYield => "real_yield_regime"
  | .usdRegime => "usd_regime"
  | .optionsGamma => "options_gamma"
  | .aiResearch => "institutional_research"
  | .physicalDemand => "physical_demand"
  | .other name => name

/-- `ComponentKeys`. -/
def componentKeys : List ComponentName :=
  [.usdRegime, .realYield, .etf, .centralBank, .cot, .optionsGamma, .aiResearch, .physicalDemand]

/-- The classes of a score. -/
inductive Classification where
  | extremeBull | strongBull | moderateBull | neutral | moderateBear | strongBear | extremeBear
  | insufficient
  deriving DecidableEq, Repr

/-- The modes of the engine, a string in the source. -/
inductive Mode where
  | disabled | shadow | active
  | other (name : String)
  deriving DecidableEq, Repr

/-- The qualities of data. -/
inductive Quality where
  | connected | degraded | stale | unavailable | error
  deriving DecidableEq, Repr

/-- The directions of a component. -/
inductive Direction where
  | bullish | bearish | neutral
  deriving DecidableEq, Repr

/-- A reading of a component. -/
structure Component where
  name : ComponentName
  rawValue : ℚ := 0
  impact : ℚ
  direction : Direction := .neutral
  confidence : ℚ
  freshness : ℚ := 0
  quality : Quality
  source : String := ""
  reason : String := ""
  timestamp : Time
  weight : ℚ := 0
  effectiveW : ℚ := 0
  deriving DecidableEq, Repr

/-- What the engine is configured with. -/
structure Config where
  enabled : Bool
  mode : Mode
  enabledComponents : ComponentName → Bool
  weights : ComponentName → ℚ
  freshnessTTL : ComponentName → ℤ
  maxBonus : ℚ
  maxPenalty : ℚ
  weights_nonneg : ∀ key, 0 ≤ weights key
  penalty_le_bonus : maxPenalty ≤ maxBonus

/-- The weights of `DefaultConfig`. -/
def defaultWeights : ComponentName → ℚ
  | .usdRegime => 20
  | .realYield => 20
  | .centralBank => 15
  | .cot => 12
  | .etf => 15
  | .optionsGamma => 8
  | .aiResearch => 6
  | .physicalDemand => 4
  | .other _ => 0

/-- How many seconds a reading stays fresh. -/
def defaultTTL : ComponentName → ℤ
  | .usdRegime => 600
  | .realYield => 86400
  | .centralBank => 2592000
  | .cot => 604800
  | .etf => 86400
  | .optionsGamma => 86400
  | .aiResearch => 259200
  | .physicalDemand => 2592000
  | .other _ => 0

theorem defaultWeights_nonneg (key : ComponentName) : 0 ≤ defaultWeights key := by
  cases key <;> norm_num [defaultWeights]

/-- `DefaultConfig`. -/
def defaultConfig : Config where
  enabled := false
  mode := .shadow
  enabledComponents
    | .usdRegime | .cot | .realYield => true
    | _ => false
  weights := defaultWeights
  freshnessTTL := defaultTTL
  maxBonus := 10
  maxPenalty := -15
  weights_nonneg := defaultWeights_nonneg
  penalty_le_bonus := by decide

/-! ## Arithmetic -/

/-- The value, cut to the range from -100 to 100. -/
def clamp100 (v : ℚ) : ℚ := max (-100) (min 100 v)

/-- The value, cut to the unit interval. -/
def clamp01 (v : ℚ) : ℚ := max 0 (min 1 v)

/-- The direction of an impact. -/
def derivDirection (impact : ℚ) : Direction :=
  if 19 < impact then .bullish else if impact < -19 then .bearish else .neutral

/-- `t.Sub(u).Seconds()`; the difference is cut off at the largest durations. -/
def seconds (t u : Time) : ℚ :=
  (max (-9223372036854775808) (min 9223372036854775807 (t - u)) : ℤ) / 1000000000

/-- How fresh a reading is, from one down to zero when its age is the time to live. -/
def computeFreshness (ts : Time) (ttlSec : ℤ) (now : Time) : ℚ :=
  if ttlSec ≤ 0 then 1
  else
    let age := seconds now ts
    if age ≤ 0 then 1
    else if ttlSec ≤ age then 0
    else 1 - age / ttlSec

/-- `EffectiveWeight`. -/
def Component.effectiveWeight (c : Component) : ℚ :=
  let fresh := if c.freshness ≤ 0 then 1 else c.freshness
  clamp01 c.confidence * c.weight * fresh

/-- The class of a score, when enough components are available. -/
def classify (score : ℚ) (available : ℕ) : Classification :=
  if available < 2 then .insufficient
  else if 80 ≤ score then .extremeBull
  else if 50 ≤ score then .strongBull
  else if 20 ≤ score then .moderateBull
  else if -20 < score then .neutral
  else if -50 < score then .moderateBear
  else if -80 < score then .strongBear
  else .extremeBear

/-- The adjustment of a signal, within the bounds of the configuration. -/
def boundedAdjustment (score confidence : ℚ) (cfg : Config) : ℚ :=
  if cfg.mode ≠ .active then 0
  else max cfg.maxPenalty (min cfg.maxBonus (score * confidence * (5 / 100)))

/-- The confidence, by how many components there are and how far they agree. -/
def computeConfidence (available : ℕ) (agree : ℚ) : ℚ :=
  if available = 0 then 0
  else clamp01 (available / componentKeys.length * (6 / 10) + agree * (4 / 10))

/-- The quality of a score, by how many components there are. -/
def dataQuality (available : ℕ) : Quality :=
  if available = 0 then .unavailable else if available < 3 then .degraded else .connected

/-! ## The engine -/

/-- What `UpdateComponent` makes of what it is fed. -/
def Component.normalize (c : Component) : Component :=
  { c with
    impact := clamp100 c.impact
    freshness := if 0 < c.freshness then clamp01 c.freshness else c.freshness
    confidence := clamp01 c.confidence
    direction := derivDirection (clamp100 c.impact) }

/-- A component that has been fed. -/
structure Component.Normal (c : Component) : Prop where
  impact : |c.impact| ≤ 100
  confidence : 0 ≤ c.confidence ∧ c.confidence ≤ 1
  freshness : c.freshness ≤ 1
  direction : c.direction = derivDirection c.impact

theorem clamp100_bounds (v : ℚ) : |clamp100 v| ≤ 100 := by
  unfold clamp100
  rw [abs_le]
  exact ⟨le_max_left _ _, max_le (by decide) (min_le_left _ _)⟩

theorem clamp01_bounds (v : ℚ) : 0 ≤ clamp01 v ∧ clamp01 v ≤ 1 := by
  unfold clamp01
  exact ⟨le_max_left _ _, max_le (by decide) (min_le_left _ _)⟩

theorem clamp100_of_abs_le {v : ℚ} (h : |v| ≤ 100) : clamp100 v = v := by
  obtain ⟨hlow, hhigh⟩ := abs_le.mp h
  unfold clamp100
  rw [min_eq_right hhigh, max_eq_right hlow]

theorem clamp01_of_mem {v : ℚ} (h : 0 ≤ v ∧ v ≤ 1) : clamp01 v = v := by
  unfold clamp01
  rw [min_eq_right h.2, max_eq_right h.1]

theorem normalize_normal (c : Component) : c.normalize.Normal where
  impact := clamp100_bounds _
  confidence := clamp01_bounds _
  freshness := by
    show (if 0 < c.freshness then clamp01 c.freshness else c.freshness) ≤ 1
    split
    · exact (clamp01_bounds _).2
    · next h => exact (not_lt.mp h).trans (by decide)
  direction := rfl

/-- Feeding a component again changes nothing of it. -/
theorem Component.Normal.normalize_eq {c : Component} (h : c.Normal) : c.normalize = c := by
  have hfresh : (if 0 < c.freshness then clamp01 c.freshness else c.freshness) = c.freshness := by
    split
    · next hpos => exact clamp01_of_mem ⟨hpos.le, h.freshness⟩
    · rfl
  unfold Component.normalize
  rw [clamp100_of_abs_le h.impact, clamp01_of_mem h.confidence, hfresh, ← h.direction]

/-- `Engine`. Components are normal, and kept under their names. -/
structure Engine where
  cfg : Config
  components : ComponentName → Option Component
  normal : ∀ {key c}, components key = some c → c.Normal
  named : ∀ {key c}, components key = some c → c.name = key

/-- `NewEngine`. -/
def newEngine (cfg : Config) : Engine where
  cfg
  components _ := none
  normal h := absurd h (Option.some_ne_none _).symm
  named h := absurd h (Option.some_ne_none _).symm

/-- The readings with a new one under its name. -/
def put (components : ComponentName → Option Component) (c : Component) :
    ComponentName → Option Component :=
  fun key => if key = c.name then some c else components key

theorem put_eq_some {components : ComponentName → Option Component} {c d : Component}
    {key : ComponentName} (h : put components c key = some d) :
    key = c.name ∧ d = c ∨ key ≠ c.name ∧ components key = some d := by
  unfold put at h
  by_cases hkey : key = c.name
  · rw [if_pos hkey] at h
    exact Or.inl ⟨hkey, (Option.some.inj h).symm⟩
  · rw [if_neg hkey] at h
    exact Or.inr ⟨hkey, h⟩

/-- `UpdateComponent`. -/
def Engine.updateComponent (e : Engine) (c : Component) : Engine where
  cfg := e.cfg
  components := put e.components c.normalize
  normal h := by
    rcases put_eq_some h with ⟨-, rfl⟩ | ⟨-, h⟩
    · exact normalize_normal c
    · exact e.normal h
  named h := by
    rcases put_eq_some h with ⟨rfl, rfl⟩ | ⟨-, h⟩
    · rfl
    · exact e.named h

/-! ## Evaluation -/

/-- The loop of `Evaluate`. -/
structure Tally where
  weighted : ℚ := 0
  totalW : ℚ := 0
  agree : ℚ := 0
  conflict : ℚ := 0
  available : ℕ := 0
  warnings : List String := []
  missing : List String := []
  out : List Component := []

/-- A component that counts is added up. -/
def Tally.add (t : Tally) (signalDirection : Direction) (c : Component) : Tally :=
  let t :=
    { t with
      weighted := t.weighted + c.impact * c.effectiveWeight
      totalW := t.totalW + c.effectiveWeight
      available := t.available + 1 }
  let t :=
    if signalDirection ≠ .neutral then
      if c.direction = .bullish ∧ signalDirection = .bullish ∨
          c.direction = .bearish ∧ signalDirection = .bearish then
        { t with agree := t.agree + c.effectiveWeight }
      else if c.direction ≠ .neutral then { t with conflict := t.conflict + c.effectiveWeight }
      else t
    else t
  { t with out := t.out ++ [c] }

section
variable (e : Engine) (now : Time)

/-- The freshness that was fed, or the one that follows from the age. -/
def Engine.freshness (key : ComponentName) (c : Component) : ℚ :=
  if c.freshness ≤ 0 then computeFreshness c.timestamp (e.cfg.freshnessTTL key) now else c.freshness

/-- The component as it is returned. Its freshness is written only where it is stale. -/
def Engine.weigh (key : ComponentName) (c : Component) : Component :=
  let fresh := e.freshness now key c
  let c := if fresh < 1 / 10 then { c with freshness := fresh, quality := .stale } else c
  let w := e.cfg.weights key
  { c with weight := w, effectiveW := w * c.confidence * fresh }

/-- What one component adds to the tally. -/
def Engine.count (signalDirection : Direction) (t : Tally) (key : ComponentName) : Tally :=
  if !e.cfg.enabledComponents key then t
  else
    match e.components key with
    | none => { t with missing := t.missing ++ [key.string] }
    | some c =>
      if c.quality = .unavailable ∨ c.quality = .error then
        { t with missing := t.missing ++ [key.string] }
      else
        let fresh := e.freshness now key c
        let t :=
          if fresh < 1 / 10 then { t with warnings := t.warnings ++ [key.string ++ " is stale"] } else t
        if fresh ≤ 0 then { t with missing := t.missing ++ [key.string] }
        else t.add signalDirection (e.weigh now key c)

/-- The tally over the components. -/
def Engine.tally (signalDirection : Direction) (keys : List ComponentName) : Tally :=
  keys.foldl (e.count now signalDirection) {}

end

/-- What the engine reports. -/
structure Composite where
  score : ℚ := 0
  classification : Option Classification := none
  direction : Option Direction := none
  confidence : ℚ := 0
  agreement : ℚ := 0
  conflict : ℚ := 0
  dataQuality : Option Quality := none
  componentsAvailable : ℕ := 0
  componentsTotal : ℕ := 0
  missingComponents : List String := []
  warnings : List String := []
  scoreAdjustment : ℚ := 0
  mode : Mode
  modelVersion : String := "1.0.0"
  weightsVersion : String := "1.0.0"
  components : List Component := []
  timestamp : Time

/-- `Evaluate`. -/
def Engine.evaluate (e : Engine) (now : Time) (signalDirection : Direction) : Composite :=
  if !e.cfg.enabled ∨ e.cfg.mode = .disabled then { mode := e.cfg.mode, timestamp := now }
  else
    let t := e.tally now signalDirection componentKeys
    let score := if 0 < t.totalW then clamp100 (t.weighted / t.totalW) else 0
    let attributed : Bool := 0 < t.totalW ∧ signalDirection ≠ .neutral
    let agreePct := if attributed then clamp01 (t.agree / t.totalW) else 0
    let conflictPct := if attributed then clamp01 (t.conflict / t.totalW) else 0
    let confidence := computeConfidence t.available agreePct
    { score
      classification := some (classify score t.available)
      direction := some (derivDirection score)
      confidence
      agreement := agreePct
      conflict := conflictPct
      dataQuality := some (dataQuality t.available)
      componentsAvailable := t.available
      componentsTotal := componentKeys.length
      missingComponents := t.missing
      warnings := t.warnings
      scoreAdjustment := boundedAdjustment score confidence e.cfg
      mode := e.cfg.mode
      components := t.out
      timestamp := now }

end PredictATrade.Igs
