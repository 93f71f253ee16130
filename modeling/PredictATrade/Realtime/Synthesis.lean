import Mathlib.Algebra.Order.BigOperators.Group.List
import PredictATrade.Realtime.MarketState

/-!
# `Realtime.Synthesis` — the assessment of the intelligence modules

`Synthesize` gives each component of the market a score, a direction and an availability, takes the
weighted mean of the available ones as the confluence, and derives from it the grade of the setup, the
size of the position and the action. The index of manipulation is one of the components, with a positive
weight like the others, so it raises the confluence of which it is meant to warn
(`manipulation_never_better_iff`).

The texts for display (the narrative and the key drivers) are left out.
-/

namespace PredictATrade.Realtime.Ptb
open Features Strategy

/-! ## Inputs -/

/-- The sides a component can take. -/
inductive Side where
  | unset | long | short | neutral | conflicted
  deriving DecidableEq, Repr

/-- The modes of a module. -/
inductive ModuleMode where
  | off | shadow | active | disabled | unsupported | research
  deriving DecidableEq, Repr

/-- The result of a module, as far as it is read. `marketDislocationIndex` is the entry of that name,
where the value is a map that has it as a number. -/
structure ModuleResult where
  mode : ModuleMode := .shadow
  available : Bool := false
  marketDislocationIndex : Option Float64 := none
  deriving DecidableEq, Repr

/-- The bias over several timeframes. -/
structure MTFBiasResult where
  bias : Side := .neutral
  alignment : Float64 := 0
  sampleCount : ℤ := 0
  deriving DecidableEq, Repr

/-- What the modules report, as far as `Synthesize` reads it. -/
structure MarketIntelligenceSnapshot where
  isLive : Bool := true
  dataQuality : String := ""
  institutionalFootprint : ModuleResult := {}
  manipulationProxy : ModuleResult := {}
  mtfBias : MTFBiasResult := {}
  volatilityRegime : String := ""
  deriving DecidableEq, Repr

/-- The thresholds and multipliers of the synthesis. -/
structure Config where
  shadowMode : Bool := true
  minConfidence : Float64 := 65
  gradeAPlus : Float64 := 90
  gradeA : Float64 := 80
  gradeB : Float64 := 70
  gradeC : Float64 := 60
  gradeD : Float64 := 50
  posMultAPlus : Float64 := 1
  posMultA : Float64 := 8 / 10
  posMultB : Float64 := 6 / 10
  posMultC : Float64 := 4 / 10
  posMultD : Float64 := 2 / 10
  posMultF : Float64 := 0
  stopMultHighManipulation : Float64 := 15 / 10
  stopMultNormal : Float64 := 1
  stopMultLowVolatility : Float64 := 8 / 10
  manipHighRisk : Float64 := 70
  deriving DecidableEq, Repr

/-- The market state, with the calendar of its session. -/
structure PtbState extends toStrategyState : Strategy.MarketState where
  isWeekend : Bool := false

/-! ## Components -/

/-- The components of the market that are scored. -/
inductive Component where
  | regime | volatility | macro_ | manipulation | mtf | structure_ | liquidity | session
  deriving DecidableEq, Repr

/-- The components in the order of the source. -/
def Component.all : List Component :=
  [.regime, .volatility, .macro_, .manipulation, .mtf, .structure_, .liquidity, .session]

/-- The score of a component, its direction, and whether it is available. -/
structure ComponentScore where
  score : Float64
  direction : Side := .unset
  available : Bool
  deriving DecidableEq, Repr

/-- Twice the directional index, and at most 100. -/
def regimeScore (state : PtbState) : Float64 := min (toFloat state.indicators.adx * 2) 100

/-- Which of the two averages is on top. -/
def regimeDirection (state : PtbState) : Side :=
  if state.indicators.ema21 < state.indicators.ema9 then .long
  else if state.indicators.ema9 < state.indicators.ema21 then .short
  else .neutral

/-- The score of a state of volatility. -/
def volScore (snap : MarketIntelligenceSnapshot) : Float64 :=
  match snap.volatilityRegime with
  | "EXTREME" => 20
  | "HIGH" => 40
  | "NORMAL" => 70
  | "LOW" => 50
  | _ => 50

/-- The index of dislocation in percent, zero where its module is not available. -/
def extractManipulationIndex (snap : MarketIntelligenceSnapshot) : Float64 :=
  if snap.manipulationProxy.available then
    (snap.manipulationProxy.marketDislocationIndex.map (· * 100)).getD 0
  else 0

/-- The direction of an event; what is not bullish counts as SHORT. -/
def eventSide (event : StructureEvent) : Side := if event.direction = .bullish then .long else .short

/-- The last change of character counts before the last break of structure. -/
def structureComponent (s : StructureFeatures) : ComponentScore :=
  match s.lastCHoCH, s.lastBOS with
  | some choch, _ => { score := 65, direction := eventSide choch, available := true }
  | none, some bos => { score := 70, direction := eventSide bos, available := true }
  | none, none => { score := 50, direction := .neutral, available := true }

/-- The score of the last sweep. -/
def liquidityComponent (l : LiquidityFeatures) : ComponentScore :=
  match l.recentSweeps.getLast? with
  | none => { score := 50, direction := .neutral, available := true }
  | some sweep =>
    { score := 70
      direction :=
        if sweep.direction = "SELL_SIDE_SWEEP" ∨ sweep.direction = "sell_side" then .long else .short
      available := true }

/-- The score of the session. -/
def sessionScore (state : PtbState) : Float64 :=
  if state.isWeekend then 0
  else if state.session.currentSession ∈ ["LONDON", "NEW_YORK", "OVERLAP"] then 80
  else if state.session.currentSession = "TOKYO" then 60
  else 50

/-- The score of the institutional footprint. -/
def macroComponent (snap : MarketIntelligenceSnapshot) : ComponentScore :=
  if snap.institutionalFootprint.mode = .unsupported then { score := 0, available := false }
  else { score := 50, available := snap.institutionalFootprint.available }

/-- The scores of all components. -/
def componentScores (state : PtbState) (snap : MarketIntelligenceSnapshot) :
    Component → ComponentScore
  | .regime =>
    { score := regimeScore state, direction := regimeDirection state, available := true }
  | .volatility => { score := volScore snap, available := true }
  | .macro_ => macroComponent snap
  | .manipulation => { score := extractManipulationIndex snap, available := true }
  | .mtf =>
    { score := |snap.mtfBias.alignment| * 100, direction := snap.mtfBias.bias
      available := decide (0 < snap.mtfBias.sampleCount) }
  | .structure_ => structureComponent state.structure_
  | .liquidity => liquidityComponent state.liquidity
  | .session => { score := sessionScore state, available := true }

/-! ## The confluence -/

/-- The weights of the confluence. -/
def confluenceWeight : Component → Float64
  | .mtf => 15 / 100
  | .regime => 15 / 100
  | .volatility => 10 / 100
  | .structure_ => 20 / 100
  | .liquidity => 15 / 100
  | .session => 10 / 100
  | .manipulation => 10 / 100
  | .macro_ => 5 / 100

/-- The sum of `f` over the available components. -/
def sumAvailable (components : Component → ComponentScore) (f : Component → Float64) : Float64 :=
  (Component.all.map fun c => if (components c).available then f c else 0).sum

/-- The weighted mean of the scores that are available. -/
def computeConfluence (components : Component → ComponentScore) : Float64 :=
  let totalWeight := sumAvailable components confluenceWeight
  let weightedSum := sumAvailable components fun c => confluenceWeight c * (components c).score
  if totalWeight = 0 then 0 else weightedSum / totalWeight

/-! ## Bias, grade and action -/

/-- The biases. -/
inductive BiasState where
  | strongLong | long | neutral | short | strongShort
  deriving DecidableEq, Repr

/-- The weights of the bias. -/
def biasWeight : Component → Float64
  | .mtf => 20 / 100
  | .regime => 15 / 100
  | .structure_ => 25 / 100
  | .liquidity => 15 / 100
  | .manipulation => 10 / 100
  | .macro_ => 5 / 100
  | .session => 10 / 100
  | .volatility => 0

/-- The weighted scores of the components on one side. -/
def sideTotal (side : Side) (components : Component → ComponentScore) : Float64 :=
  sumAvailable components fun c =>
    if (components c).direction = side then biasWeight c * (components c).score else 0

/-- `determineBias`: the bias, and the confidence in it. -/
def determineBias (components : Component → ComponentScore) : BiasState × Float64 :=
  let totalWeight := sumAvailable components biasWeight
  if totalWeight = 0 then (.neutral, 0)
  else
    let netScore := (sideTotal .long components - sideTotal .short components) / totalWeight
    let strength := |netScore| / 100
    if 50 < netScore then (.strongLong, strength)
    else if 15 < netScore then (.long, strength)
    else if netScore < -50 then (.strongShort, strength)
    else if netScore < -15 then (.short, strength)
    else (.neutral, strength)

/-- The grades of a setup. -/
inductive SetupGrade where
  | aPlus | a | b | c | d | f
  deriving DecidableEq, Repr

/-- The grade of the mean of confluence and confidence. -/
def gradeSetup (confluence confidence : Float64) (cfg : Config) : SetupGrade :=
  let score := (confluence + confidence) / 2
  if cfg.gradeAPlus ≤ score then .aPlus
  else if cfg.gradeA ≤ score then .a
  else if cfg.gradeB ≤ score then .b
  else if cfg.gradeC ≤ score then .c
  else if cfg.gradeD ≤ score then .d
  else .f

/-- The multiplier that a grade has for the size. -/
def positionSizeMultiplier (cfg : Config) : SetupGrade → Float64
  | .aPlus => cfg.posMultAPlus
  | .a => cfg.posMultA
  | .b => cfg.posMultB
  | .c => cfg.posMultC
  | .d => cfg.posMultD
  | .f => cfg.posMultF

/-- The multiplier of the stop's distance. -/
def stopDistanceMultiplier (manipIdx : Float64) (volState : String) (cfg : Config) : Float64 :=
  if cfg.manipHighRisk < manipIdx then cfg.stopMultHighManipulation
  else if volState = "LOW" ∨ volState = "EXTREME_LOW" then cfg.stopMultLowVolatility
  else cfg.stopMultNormal

/-- The actions. -/
inductive ActionState where
  | enter | wait | avoid | exit
  deriving DecidableEq, Repr

/-- `determineAction`. -/
def determineAction (bias : BiasState) (confidence manipIdx : Float64) (cfg : Config) : ActionState :=
  if cfg.manipHighRisk < manipIdx then .avoid
  else if confidence < cfg.minConfidence then .wait
  else
    match bias with
    | .strongLong | .long => .enter
    | .strongShort | .short => .enter
    | .neutral => .wait

/-! ## Regime and levels -/

/-- The regimes of the synthesis. -/
inductive EnhancedRegime where
  | strongTrendUp | strongTrendDown | weakTrendUp | weakTrendDown | rangeBound | highVolatility
  | lowVolatility | transitioning | manipulation
  deriving DecidableEq, Repr

/-- `classifyRegime`. -/
def classifyRegime (state : PtbState) (snap : MarketIntelligenceSnapshot) : EnhancedRegime :=
  let adx := toFloat state.indicators.adx
  let bullish := state.indicators.ema21 < state.indicators.ema9 ∧
    state.indicators.ema50 < state.indicators.ema21
  let bearish := state.indicators.ema9 < state.indicators.ema21 ∧
    state.indicators.ema21 < state.indicators.ema50
  if 70 < extractManipulationIndex snap then .manipulation
  else if 30 < adx ∧ bullish then .strongTrendUp
  else if 30 < adx ∧ bearish then .strongTrendDown
  else if 20 < adx ∧ bullish then .weakTrendUp
  else if 20 < adx ∧ bearish then .weakTrendDown
  else if adx < 18 then .rangeBound
  else if snap.volatilityRegime = "EXTREME" ∨ snap.volatilityRegime = "HIGH" then .highVolatility
  else if snap.volatilityRegime = "LOW" then .lowVolatility
  else .transitioning

/-- A level of liquidity to aim at. -/
structure LiquidityTarget where
  price : Decimal
  type : String
  side : String
  strength : ℕ
  swept : Bool := false
  distance : Float64
  structuralRel : String
  deriving DecidableEq, Repr

/-- The swings on their sides of the price, and the pools on either. -/
def generateLiquidityTargets (state : PtbState) : List LiquidityTarget :=
  let cur := toFloat state.currentPrice
  ((state.structure_.swingHighs.filter fun h => decide (cur < toFloat h)).map fun h =>
    ⟨h, "SWING_HIGH", "ABOVE", 3, false, toFloat h - cur, "HIGH"⟩) ++
  ((state.structure_.swingLows.filter fun l => decide (toFloat l < cur)).map fun l =>
    ⟨l, "SWING_LOW", "BELOW", 3, false, cur - toFloat l, "HIGH"⟩) ++
  state.liquidity.pools.map fun pool =>
    ⟨pool.price, pool.type, if toFloat pool.price < cur then "BELOW" else "ABOVE", pool.strength,
      pool.swept, |toFloat pool.price - cur|, "MEDIUM"⟩

/-! ## Reasons -/

/-- The text, if the condition holds. -/
def textIf (p : Prop) [Decidable p] (text : String) : List String := if p then [text] else []

/-- The reasons that speak for the assessment. -/
def positiveFactors (components : Component → ComponentScore) (bias : BiasState) : List String :=
  let mtf := (components .mtf).direction
  textIf ((mtf = .long ∨ mtf = .short) ∧ (bias = .long ∨ bias = .strongLong))
    "MTF_BULLISH_ALIGNMENT" ++
  textIf ((mtf = .long ∨ mtf = .short) ∧ (bias = .short ∨ bias = .strongShort))
    "MTF_BEARISH_ALIGNMENT" ++
  textIf ((components .structure_).direction = .long) "HTF_STRUCTURE_BULLISH" ++
  textIf ((components .structure_).direction = .short) "HTF_STRUCTURE_BEARISH" ++
  textIf ((components .liquidity).direction = .long) "SELL_SIDE_SWEEP_CONFIRMED" ++
  textIf ((components .liquidity).direction = .short) "BUY_SIDE_SWEEP_CONFIRMED"

/-- The reasons that speak against it, but for the confluence. -/
def negativeFactors (components : Component → ComponentScore) (manipIdx : Float64)
    (volState : String) : List String :=
  textIf ((components .mtf).direction = .conflicted) "MTF_CONFLICT" ++
  textIf (70 < manipIdx) "HIGH_MANIPULATION_RISK" ++
  textIf (volState = "EXTREME" ∨ volState = "EXTREME_HIGH") "VOLATILITY_EXTREME" ++
  textIf ((components .macro_).available = false) "MACRO_DATA_UNAVAILABLE"

/-- `extractRiskFactors`. -/
def extractRiskFactors (snap : MarketIntelligenceSnapshot) (manipIdx : Float64) : List String :=
  textIf (40 < manipIdx) "ELEVATED_MANIPULATION_RISK" ++
  textIf (snap.volatilityRegime = "EXTREME" ∨ snap.volatilityRegime = "HIGH") "HIGH_VOLATILITY" ++
  textIf (snap.dataQuality = "DEGRADED" ∨ snap.dataQuality = "STALE") "DATA_QUALITY_DEGRADED" ++
  textIf (snap.isLive = false) "NON_LIVE_DATA_SOURCE"

/-! ## The assessment -/

/-- What `Synthesize` returns. -/
structure SynthesisOutput where
  regime : EnhancedRegime
  volatilityState : String
  manipulationIndex : Float64
  bias : BiasState
  biasStrength : Float64
  confidence : Float64
  supportLevels : List Decimal
  resistanceLevels : List Decimal
  liquidityTargets : List LiquidityTarget
  optimalEntryTime : String
  timeConfidence : Float64
  riskFactors : List String
  positionSizeMult : Float64
  stopDistanceMult : Float64
  confluenceScore : Float64
  setupQuality : SetupGrade
  action : ActionState
  positiveFactors : List String
  negativeFactors : List String
  vetoes : List String
  reasonCodes : List String
  componentScores : Component → ComponentScore
  shadowMode : Bool

/-- `Synthesize`. (Without a state or a snapshot there is no assessment.) -/
def synthesize (state : PtbState) (snap : MarketIntelligenceSnapshot) (cfg : Config) :
    SynthesisOutput :=
  let components := componentScores state snap
  let manipIdx := extractManipulationIndex snap
  let confluence := computeConfluence components
  let bias := determineBias components
  let quality := gradeSetup confluence confluence cfg
  let action := determineAction bias.1 confluence manipIdx cfg
  let positive := positiveFactors components bias.1
  let negative := negativeFactors components manipIdx snap.volatilityRegime
  let vetoes := textIf (action = .avoid) "MANIPULATION_RISK_VETO"
  { regime := classifyRegime state snap
    volatilityState := snap.volatilityRegime
    manipulationIndex := manipIdx
    bias := bias.1
    biasStrength := bias.2
    confidence := confluence
    supportLevels := state.structure_.swingLows.filter fun l => decide (l < state.currentPrice)
    resistanceLevels := state.structure_.swingHighs.filter fun h => decide (state.currentPrice < h)
    liquidityTargets := generateLiquidityTargets state
    optimalEntryTime := state.session.currentSession
    timeConfidence := sessionScore state / 100
    riskFactors := extractRiskFactors snap manipIdx
    positionSizeMult := positionSizeMultiplier cfg quality
    stopDistanceMult := stopDistanceMultiplier manipIdx snap.volatilityRegime cfg
    confluenceScore := confluence
    setupQuality := quality
    action := action
    positiveFactors := positive
    -- the last of the negative factors comes after the codes have been collected
    negativeFactors := negative ++ textIf (confluence < 70) "INSUFFICIENT_CONFLUENCE"
    vetoes := vetoes
    reasonCodes := positive ++ negative ++ vetoes
    componentScores := components
    shadowMode := cfg.shadowMode }

/-! ## More manipulation -/

/-- The snapshot with this index of dislocation. -/
def MarketIntelligenceSnapshot.withIndex (snap : MarketIntelligenceSnapshot) (index : Float64) :
    MarketIntelligenceSnapshot :=
  { snap with
    manipulationProxy := { snap.manipulationProxy with marketDislocationIndex := some index } }

/-- How good a grade is, from `F` on. -/
def SetupGrade.rank : SetupGrade → ℕ
  | .f => 0
  | .d => 1
  | .c => 2
  | .b => 3
  | .a => 4
  | .aPlus => 5

/-- The second assessment is no better than the first. -/
structure NoBetter (out out' : SynthesisOutput) : Prop where
  confluenceScore : out'.confluenceScore ≤ out.confluenceScore
  confidence : out'.confidence ≤ out.confidence
  setupQuality : out'.setupQuality.rank ≤ out.setupQuality.rank
  positionSizeMult : out'.positionSizeMult ≤ out.positionSizeMult
  action : out.action ≠ .enter → out'.action ≠ .enter

section
variable {state : PtbState} {snap : MarketIntelligenceSnapshot} {cfg : Config} {i j : Float64}

/-- A module that is not available is not read. -/
theorem synthesize_withIndex_unavailable (h : snap.manipulationProxy.available = false) :
    synthesize state (snap.withIndex i) cfg = synthesize state (snap.withIndex j) cfg := by
  have hindex : extractManipulationIndex (snap.withIndex i) =
      extractManipulationIndex (snap.withIndex j) := by
    simp [extractManipulationIndex, MarketIntelligenceSnapshot.withIndex, h]
  have hcomponents : componentScores state (snap.withIndex i) =
      componentScores state (snap.withIndex j) := by
    funext c
    cases c with
    | manipulation => simp only [componentScores, hindex]
    | _ => rfl
  have hregime : classifyRegime state (snap.withIndex i) = classifyRegime state (snap.withIndex j) := by
    unfold classifyRegime
    rw [hindex]
    rfl
  unfold synthesize
  rw [hindex, hcomponents, hregime]
  rfl

/-- The components with an index are those without, but for the score of the manipulation. -/
theorem componentScores_withIndex (c : Component) :
    (componentScores state (snap.withIndex i) c).available =
        (componentScores state snap c).available ∧
      (c ≠ .manipulation →
        componentScores state (snap.withIndex i) c = componentScores state snap c) := by
  cases c with
  | manipulation => exact ⟨rfl, fun h => absurd rfl h⟩
  | _ => exact ⟨rfl, fun _ => rfl⟩

/-- The available components have some weight. -/
theorem totalWeight_pos (state : PtbState) (snap : MarketIntelligenceSnapshot) :
    0 < sumAvailable (componentScores state snap) confluenceWeight := by
  have hnn : ∀ x ∈ Component.all.map fun c =>
      if (componentScores state snap c).available then confluenceWeight c else 0, 0 ≤ x := by
    intro x hx
    obtain ⟨c, -, rfl⟩ := List.mem_map.mp hx
    split
    · cases c <;> norm_num [confluenceWeight]
    · exact le_rfl
  -- the regime is always available
  have hregime : confluenceWeight .regime ≤
      sumAvailable (componentScores state snap) confluenceWeight :=
    List.single_le_sum hnn _ (List.mem_map.mpr ⟨.regime, by decide, rfl⟩)
  exact lt_of_lt_of_le (by norm_num [confluenceWeight]) hregime

/-- **The confluence in terms of the index**: the index has a positive share in the mean. -/
theorem confluence_withIndex (h : snap.manipulationProxy.available = true) :
    ∃ rest, ∀ i, (synthesize state (snap.withIndex i) cfg).confluenceScore =
      (rest + 10 * i) / sumAvailable (componentScores state snap) confluenceWeight := by
  refine ⟨sumAvailable (componentScores state snap) fun c =>
    if c = .manipulation then 0 else confluenceWeight c * (componentScores state snap c).score,
    fun i => ?_⟩
  have hweight : sumAvailable (componentScores state (snap.withIndex i)) confluenceWeight =
      sumAvailable (componentScores state snap) confluenceWeight := by
    unfold sumAvailable
    simp only [(componentScores_withIndex _).1]
  have hscore : (componentScores state (snap.withIndex i) .manipulation).score = i * 100 := by
    show extractManipulationIndex _ = _
    unfold extractManipulationIndex
    rw [if_pos (show (snap.withIndex i).manipulationProxy.available = true from h)]
    rfl
  show computeConfluence _ = _
  unfold computeConfluence
  dsimp only
  rw [hweight, if_neg (totalWeight_pos state snap).ne']
  congr 1
  have hother : ∀ c, c ≠ .manipulation →
      componentScores state (snap.withIndex i) c = componentScores state snap c := fun c =>
    (componentScores_withIndex c).2
  have hthis : (componentScores state snap .manipulation).available = true ∧
      (componentScores state (snap.withIndex i) .manipulation).available = true := ⟨rfl, rfl⟩
  simp only [sumAvailable, Component.all, List.map_cons, List.map_nil, List.sum_cons, List.sum_nil,
    hother .regime (by decide), hother .volatility (by decide), hother .macro_ (by decide),
    hother .mtf (by decide), hother .structure_ (by decide), hother .liquidity (by decide),
    hother .session (by decide), hthis, hscore, if_true, reduceCtorEq, if_false]
  simp only [confluenceWeight]
  ring

/-- **More manipulation is never better, exactly.** For any state, snapshot and configuration and any two
indices, the assessment at the higher one is no better if and only if the module is not available, so
that its index is not read, or the index does not rise. -/
theorem manipulation_never_better_iff (state : PtbState) (snap : MarketIntelligenceSnapshot)
    (cfg : Config) (i j : Float64) (hij : i ≤ j) :
    NoBetter (synthesize state (snap.withIndex i) cfg) (synthesize state (snap.withIndex j) cfg) ↔
      snap.manipulationProxy.available = false ∨ i = j := by
  constructor
  · intro h
    by_contra hno
    obtain ⟨havail, hne⟩ := not_or.mp hno
    have hlt : i < j := lt_of_le_of_ne hij hne
    obtain ⟨rest, hconf⟩ := confluence_withIndex
      (Bool.eq_true_of_not_eq_false havail)
    have hle := h.confluenceScore
    rw [hconf, hconf, div_le_div_iff_of_pos_right (totalWeight_pos state snap)] at hle
    linarith
  · intro h
    have hsame : synthesize state (snap.withIndex i) cfg = synthesize state (snap.withIndex j) cfg := by
      rcases h with h | rfl
      · exact synthesize_withIndex_unavailable h
      · rfl
    rw [hsame]
    exact ⟨le_rfl, le_rfl, le_rfl, le_rfl, fun h => h⟩

end

/-- A weak uptrend in the London session with a bullish break and a sweep below. -/
def quietUptrend : PtbState where
  currentPrice := 2400
  quality := .authoritative
  structure_ := { lastBOS := some ⟨.bos, .bullish, 2390, 0⟩, currentTrend := .bullish }
  liquidity := { recentSweeps := [⟨2380, "SELL_SIDE_SWEEP", 0⟩] }
  pullback := {}
  indicators := { adx := 30, ema9 := 2399, ema21 := 2395 }
  regime := ⟨.trendingBullish⟩
  session := { currentSession := "LONDON" }

/-- The manipulation module is available. -/
def watched : MarketIntelligenceSnapshot where
  manipulationProxy := { available := true, marketDislocationIndex := some 0 }
  volatilityRegime := "NORMAL"

/-- **Manipulation turns WAIT into ENTER.** Without dislocation the confidence is too low; an index of
0.6 lifts it over the threshold. -/
theorem dislocation_enters :
    (synthesize quietUptrend (watched.withIndex 0) {}).action = .wait ∧
      (synthesize quietUptrend (watched.withIndex (6 / 10)) {}).action = .enter ∧
      ¬ NoBetter (synthesize quietUptrend (watched.withIndex 0) {})
        (synthesize quietUptrend (watched.withIndex (6 / 10)) {}) := by
  have hwait : (synthesize quietUptrend (watched.withIndex 0) {}).action = .wait := by
    decide +kernel
  have henter : (synthesize quietUptrend (watched.withIndex (6 / 10)) {}).action = .enter := by
    decide +kernel
  refine ⟨hwait, henter, fun h => ?_⟩
  exact h.action (by rw [hwait]; decide) henter

/-- Where the module is available a higher index is better in some respect, and where it is not, the
index changes nothing. -/
theorem watched_dislocation :
    ¬ NoBetter (synthesize quietUptrend (watched.withIndex (1 / 10)) {})
        (synthesize quietUptrend (watched.withIndex (6 / 10)) {}) ∧
      NoBetter (synthesize quietUptrend (({} : MarketIntelligenceSnapshot).withIndex (1 / 10)) {})
        (synthesize quietUptrend (({} : MarketIntelligenceSnapshot).withIndex (6 / 10)) {}) := by
  have hrise : (1 / 10 : Float64) ≤ 6 / 10 := by norm_num
  constructor
  · intro h
    rcases (manipulation_never_better_iff quietUptrend watched {} _ _ hrise).mp h with h | h
    · exact absurd h (by decide)
    · exact absurd h (by norm_num)
  · exact (manipulation_never_better_iff quietUptrend {} {} _ _ hrise).mpr (Or.inl rfl)

end PredictATrade.Realtime.Ptb
