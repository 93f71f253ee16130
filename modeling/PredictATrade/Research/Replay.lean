import Mathlib.Tactic.Linarith
import PredictATrade.Lib.Isoformat
import PredictATrade.Lib.Json
import PredictATrade.Research.PtbStrategy

/-!
# `Research.Replay` — the strategy from its precomputed features

`FeaturePrecomputer` runs the adapter over all bars and keeps a record of each signal, and
`PrecomputedPTBStrategy` makes signals of the records, straight away or from the file they were saved to.

The record has neither the stop and the targets nor the average true range: the field for it stays zero, and
the replay puts 1 in its place. Its signals are then those of the adapter only where the adapter has nothing to
say (`replay_iff`).
-/

namespace PredictATrade.Research
open Lib Lib.Json Lib.Isoformat

/-! ## Records -/

/-- What is stored for a candle. -/
structure PrecomputedFeatures where
  timestamp : Datetime
  regime : String := ""
  volatilityState : String := ""
  manipulationIndex : ℚ := 0
  confluenceScore : ℚ := 0
  bias : String := "NEUTRAL"
  biasStrength : ℚ := 0
  confidence : ℚ := 0
  setupQuality : String := ""
  action : String := ""
  stopDistanceMultiplier : ℚ := 1
  positionSizeMultiplier : ℚ := 1
  entryZoneLow : ℚ := 0
  entryZoneHigh : ℚ := 0
  stopLoss : ℚ := 0
  takeProfit : ℚ := 0
  atr : ℚ := 0
  deriving DecidableEq, Repr

/-- What is stored with the features. -/
structure FeatureDatasetMetadata where
  symbol : String := "XAUUSD"
  timeframe : String := "M5"
  startTimestamp : String := ""
  endTimestamp : String := ""
  dataVersionHash : String := ""
  ptbModelVersion : String := "1.0.0"
  configHash : String := ""
  sourceCommitSha : String := ""
  creationTimestamp : String := ""
  featureSchemaVersion : String := "1.0"
  featureCount : ℤ := 0
  deriving DecidableEq, Repr

/-- What the precomputer reads of its configuration but for the metadata. -/
structure PrecomputeConfig where
  timeframe : Timeframe := "M5"
  higherTimeframes : List Timeframe := ["M15", "H1", "H4", "D1"]
  deriving DecidableEq, Repr

/-! ## Precomputing -/

/-- The higher timeframes as they are at each candle. -/
def PrecomputeConfig.alignments (config : PrecomputeConfig) (candles : List HistoricalCandle)
    (higherTfData : HigherTfData) : List TimeframeAlignment :=
  if higherTfData = [] then alignFrom [] [] 0 candles
  else align (higherTfs config.higherTimeframes) candles higherTfData

/-- The record of a signal. The adapter has no `_get_current_atr`. -/
def featureOf (a : TimeframeAlignment) (signal : SignalEvent) : PrecomputedFeatures where
  timestamp := a.timestamp
  regime := signal.regime
  confluenceScore := signal.confluence
  bias :=
    if signal.direction = .buy then "LONG" else if signal.direction = .sell then "SHORT" else "NEUTRAL"
  biasStrength := if signal.rawScore > 0 then signal.rawScore / 100 else 0
  confidence := signal.confidence
  setupQuality := signal.setupGrade
  action := if signal.Directional then "ENTER" else "WAIT"
  atr := 0

/-- `precompute`. -/
def precompute (config : PrecomputeConfig) (candles : List HistoricalCandle)
    (higherTfData : HigherTfData) (strategy : PTBStrategyAdapter) : List PrecomputedFeatures :=
  (config.alignments candles higherTfData).map fun a =>
    featureOf a ((strategy.initialized candles).evaluate a)

/-! ## The file -/

/-- The features of a candle in the file. -/
def featureJson (f : PrecomputedFeatures) : Json :=
  .obj
    [("timestamp", .str (isoformat f.timestamp)),
      ("regime", .str f.regime),
      ("volatility_state", .str f.volatilityState),
      ("manipulation_index", .float f.manipulationIndex),
      ("confluence_score", .float f.confluenceScore),
      ("bias", .str f.bias),
      ("bias_strength", .float f.biasStrength),
      ("confidence", .float f.confidence),
      ("setup_quality", .str f.setupQuality),
      ("action", .str f.action),
      ("stop_distance_multiplier", .float f.stopDistanceMultiplier),
      ("position_size_multiplier", .float f.positionSizeMultiplier),
      ("atr", .float f.atr)]

/-- `asdict`. -/
def metadataJson (m : FeatureDatasetMetadata) : List (String × Json) :=
  [("symbol", .str m.symbol),
    ("timeframe", .str m.timeframe),
    ("start_timestamp", .str m.startTimestamp),
    ("end_timestamp", .str m.endTimestamp),
    ("data_version_hash", .str m.dataVersionHash),
    ("ptb_model_version", .str m.ptbModelVersion),
    ("config_hash", .str m.configHash),
    ("source_commit_sha", .str m.sourceCommitSha),
    ("creation_timestamp", .str m.creationTimestamp),
    ("feature_schema_version", .str m.featureSchemaVersion),
    ("feature_count", .int m.featureCount)]

/-- `save_to_json`. -/
def saveToJson (features : List PrecomputedFeatures) (metadata : FeatureDatasetMetadata) : Json :=
  .obj [("metadata", .obj (metadataJson metadata)), ("features", .arr (features.map featureJson))]

/-- None where the time is missing or cannot be read, or a value has another type than is saved. -/
def readFeature : Json → Option PrecomputedFeatures
  | .obj item => do
    let timestamp ← fromIsoformat (← str? (← item.lookup "timestamp"))
    let regime ← field str? "" "regime" item
    let volatilityState ← field str? "" "volatility_state" item
    let manipulationIndex ← field num? 0 "manipulation_index" item
    let confluenceScore ← field num? 0 "confluence_score" item
    let bias ← field str? "NEUTRAL" "bias" item
    let biasStrength ← field num? 0 "bias_strength" item
    let confidence ← field num? 0 "confidence" item
    let setupQuality ← field str? "" "setup_quality" item
    let action ← field str? "" "action" item
    let stopDistanceMultiplier ← field num? 1 "stop_distance_multiplier" item
    let positionSizeMultiplier ← field num? 1 "position_size_multiplier" item
    let entryZoneLow ← field num? 0 "entry_zone_low" item
    let entryZoneHigh ← field num? 0 "entry_zone_high" item
    let stopLoss ← field num? 0 "stop_loss" item
    let takeProfit ← field num? 0 "take_profit" item
    let atr ← field num? 0 "atr" item
    return {
      timestamp, regime, volatilityState, manipulationIndex, confluenceScore, bias, biasStrength
      confidence, setupQuality, action, stopDistanceMultiplier, positionSizeMultiplier, entryZoneLow
      entryZoneHigh, stopLoss, takeProfit, atr }
  | _ => none

/-- `FeatureDatasetMetadata(**meta)`; none for a key that is no field. -/
def readMetadata : Json → Option FeatureDatasetMetadata
  | .obj entries =>
    if entries.all fun (key, _) => ((metadataJson {}).lookup key).isSome then do
      let symbol ← field str? "XAUUSD" "symbol" entries
      let timeframe ← field str? "M5" "timeframe" entries
      let startTimestamp ← field str? "" "start_timestamp" entries
      let endTimestamp ← field str? "" "end_timestamp" entries
      let dataVersionHash ← field str? "" "data_version_hash" entries
      let ptbModelVersion ← field str? "1.0.0" "ptb_model_version" entries
      let configHash ← field str? "" "config_hash" entries
      let sourceCommitSha ← field str? "" "source_commit_sha" entries
      let creationTimestamp ← field str? "" "creation_timestamp" entries
      let featureSchemaVersion ← field str? "1.0" "feature_schema_version" entries
      let featureCount ← field int? 0 "feature_count" entries
      return {
        symbol, timeframe, startTimestamp, endTimestamp, dataVersionHash, ptbModelVersion, configHash
        sourceCommitSha, creationTimestamp, featureSchemaVersion, featureCount }
    else none
  | _ => none

/-! ## The replay -/

/-- The strategy that replays what was stored. -/
structure PrecomputedPTBStrategy where
  strategyId : String := "STANDARD_SCALPING"
  features : List PrecomputedFeatures := []
  metadata : FeatureDatasetMetadata := {}
  deriving DecidableEq, Repr

namespace PrecomputedPTBStrategy

/-- `load_from_json`; `none` where the source raises. -/
def loadFromJson (s : PrecomputedPTBStrategy) : Json → Option PrecomputedPTBStrategy
  | .obj data => do
    let metadata ← field readMetadata {} "metadata" data
    let features ← field (list? readFeature) [] "features" data
    return { s with metadata, features }
  | _ => none

/-- The dictionary has the last of the records of a time. -/
def feature? (s : PrecomputedPTBStrategy) (ts : Datetime) : Option PrecomputedFeatures :=
  s.features.reverse.find? (·.timestamp = ts)

end PrecomputedPTBStrategy

/-- No trade, whatever else the action says. -/
def PrecomputedFeatures.direction (feat : PrecomputedFeatures) : Direction :=
  if feat.bias ∈ ["STRONG_LONG", "LONG"] ∧ feat.action = "ENTER" then .buy
  else if feat.bias ∈ ["STRONG_SHORT", "SHORT"] ∧ feat.action = "ENTER" then .sell
  else .noTrade

/-- `evaluate` of the replay. -/
def PrecomputedPTBStrategy.evaluate (s : PrecomputedPTBStrategy) (a : TimeframeAlignment) : SignalEvent :=
  let candle := a.primaryCandle
  match s.feature? candle.timestamp with
  | none =>
    { timestamp := candle.timestamp
      direction := .noTrade
      strategyId := s.strategyId
      reasonCodes := ["NO_PRECOMPUTED_FEATURES"] }
  | some feat =>
    let signal : SignalEvent :=
      { timestamp := candle.timestamp
        direction := feat.direction
        strategyId := s.strategyId
        rawScore := feat.confluenceScore
        confluence := feat.confluenceScore
        confidence := feat.confidence
        setupGrade := feat.setupQuality
        regime := feat.regime }
    if feat.direction = .noTrade then { signal with reasonCodes := ["PTB_NO_ACTION"] }
    else
      let entry := candle.close
      let atr := if feat.atr > 0 then feat.atr else 1
      let slMult := feat.stopDistanceMultiplier
      { signal with
        entryPrice := entry
        stopLoss := if feat.direction = .buy then entry - atr * slMult else entry + atr * slMult
        tp1 := if feat.direction = .buy then entry + atr * 1 else entry - atr * 1 }

/-! ## The same signals -/

/-- The replay shows the direction of the adapter and, where there is one, its prices. -/
structure SameSignal (live replayed : SignalEvent) : Prop where
  direction : replayed.direction = live.direction
  entryPrice : live.Directional → replayed.entryPrice = live.entryPrice
  levels : live.Directional → replayed.levels = live.levels

/-- The replay gives the signals of the live strategy. -/
def Replays (live : PTBStrategyAdapter) (replay : PrecomputedPTBStrategy)
    (alignments : List TimeframeAlignment) : Prop :=
  ∀ a ∈ alignments, SameSignal (live.evaluate a) (replay.evaluate a)

/-! ## The file gives the records back -/

theorem readFeature_featureJson {f : PrecomputedFeatures} (htime : IsTime f.timestamp)
    (hunused : f.entryZoneLow = 0 ∧ f.entryZoneHigh = 0 ∧ f.stopLoss = 0 ∧ f.takeProfit = 0) :
    readFeature (featureJson f) = some f := by
  obtain ⟨hlow, hhigh, hstop, htarget⟩ := hunused
  have hread := fromIsoformat_isoformat htime
  cases f
  simp only at hlow hhigh hstop htarget hread
  simp [readFeature, featureJson, field, str?, num?, List.lookup_cons, hread, hlow, hhigh, hstop, htarget]

theorem readMetadata_metadataJson (m : FeatureDatasetMetadata) :
    readMetadata (.obj (metadataJson m)) = some m := by
  simp [readMetadata, metadataJson, field, str?, int?, List.lookup_cons]

section
variable (config : PrecomputeConfig) (candles : List HistoricalCandle) (data : HigherTfData)
  (strategy : PTBStrategyAdapter)

theorem alignFrom_timestamp (tfs : List Timeframe) (i : ℕ) {a : TimeframeAlignment}
    (ha : a ∈ alignFrom tfs data i candles) :
    a.timestamp = a.primaryCandle.timestamp ∧ a.primaryCandle ∈ candles := by
  induction candles generalizing i with
  | nil => cases ha
  | cons c cs ih =>
      rcases List.mem_cons.mp ha with rfl | ha
      · exact ⟨rfl, List.mem_cons_self⟩
      · obtain ⟨htime, hmem⟩ := ih (i + 1) ha
        exact ⟨htime, List.mem_cons_of_mem _ hmem⟩

theorem alignments_timestamp {a : TimeframeAlignment} (ha : a ∈ config.alignments candles data) :
    a.timestamp = a.primaryCandle.timestamp ∧ a.primaryCandle ∈ candles := by
  unfold PrecomputeConfig.alignments at ha
  split at ha
  · exact alignFrom_timestamp _ _ _ _ ha
  · exact alignFrom_timestamp _ _ _ _ ha

/-- What is saved is loaded again. -/
theorem loadFromJson_saveToJson (s : PrecomputedPTBStrategy) (metadata : FeatureDatasetMetadata)
    (htimes : ∀ c ∈ candles, IsTime c.timestamp) :
    s.loadFromJson (saveToJson (precompute config candles data strategy) metadata) =
      some { s with metadata, features := precompute config candles data strategy } := by
  have hfeatures : list? readFeature
      (.arr ((precompute config candles data strategy).map featureJson)) =
        some (precompute config candles data strategy) := by
    apply list?_map
    intro f hf
    obtain ⟨a, ha, rfl⟩ := List.mem_map.mp hf
    obtain ⟨htime, hmem⟩ := alignments_timestamp config candles data ha
    refine readFeature_featureJson ?_ ⟨rfl, rfl, rfl, rfl⟩
    show IsTime a.timestamp
    rw [htime]
    exact htimes _ hmem
  simp [PrecomputedPTBStrategy.loadFromJson, saveToJson, field, List.lookup_cons, readMetadata_metadataJson,
    hfeatures]

/-! ## What the replay makes of a record -/

variable {config candles data strategy} {s : PrecomputedPTBStrategy} {a b : TimeframeAlignment}
  {feat : PrecomputedFeatures} {signal : SignalEvent}

theorem evaluate_direction (h : s.feature? a.primaryCandle.timestamp = some feat) :
    (s.evaluate a).direction = feat.direction := by
  simp only [PrecomputedPTBStrategy.evaluate, h]
  split <;> rfl

/-- The levels that the replay puts around an entry. -/
def replayLevels (direction : Direction) (entry : ℚ) : Levels where
  stopLoss := if direction = .buy then entry - 1 else entry + 1
  tp1 := if direction = .buy then entry + 1 else entry - 1
  tp2 := 0
  tp3 := 0

theorem evaluate_levels (h : s.feature? a.primaryCandle.timestamp = some (featureOf b signal))
    (hside : (featureOf b signal).direction ≠ .noTrade) :
    (s.evaluate a).levels = replayLevels (featureOf b signal).direction a.primaryCandle.close := by
  simp only [PrecomputedPTBStrategy.evaluate, h, if_neg hside]
  simp [SignalEvent.levels, replayLevels, featureOf]

theorem featureOf_direction_noTrade (h : ¬ signal.Directional) :
    (featureOf b signal).direction = .noTrade := by
  simp [PrecomputedFeatures.direction, featureOf, h]

/-- Every bar has a record, of a bar at its time. -/
theorem exists_feature (hs : s.features = precompute config candles data strategy)
    (ha : a ∈ config.alignments candles data) :
    ∃ b ∈ config.alignments candles data, s.feature? a.primaryCandle.timestamp =
      some (featureOf b ((strategy.initialized candles).evaluate b)) := by
  unfold PrecomputedPTBStrategy.feature?
  rw [hs]
  cases hfind : (precompute config candles data strategy).reverse.find?
      (·.timestamp = a.primaryCandle.timestamp) with
  | none =>
      -- the record of the bar itself has its time
      have hown : featureOf a ((strategy.initialized candles).evaluate a) ∈
          (precompute config candles data strategy).reverse :=
        List.mem_reverse.mpr (List.mem_map_of_mem ha)
      have hno := List.find?_eq_none.mp hfind _ hown
      exact absurd (alignments_timestamp config candles data ha).1 (by simpa [featureOf] using hno)
  | some feat =>
      have hmem := List.mem_reverse.mp (List.mem_of_find?_eq_some hfind)
      obtain ⟨b, hb, rfl⟩ := List.mem_map.mp hmem
      exact ⟨b, hb, rfl⟩

/-- No average true range puts both the stop and the first target at a distance of 1. -/
theorem levels_ne_replayLevels {c : StrategyConfig} (hc : c.atrSl ≠ c.atrTp1) (direction : Direction)
    (entry atr : ℚ) : replayLevels direction entry ≠ c.levels direction entry atr := by
  intro heq
  have hstop := congrArg Levels.stopLoss heq
  have htarget := congrArg Levels.tp1 heq
  -- both distances are multiples of one range, so the multiples would be equal
  have hsame : atr * c.atrSl = 1 ∧ atr * c.atrTp1 = 1 := by
    unfold StrategyConfig.levels replayLevels at hstop htarget
    split_ifs at hstop htarget <;> constructor <;> linarith
  have hatr : atr ≠ 0 := by
    rintro rfl
    simp at hsame
  exact hc (mul_left_cancel₀ hatr (hsame.1.trans hsame.2.symm))

/-! ## When the replay is the same -/

/-- The replay never holds a bar back. -/
theorem evaluate_ne_wait (hs : s.features = precompute config candles data strategy)
    (ha : a ∈ config.alignments candles data) : (s.evaluate a).direction ≠ .wait := by
  obtain ⟨b, -, hb⟩ := exists_feature hs ha
  rw [evaluate_direction hb]
  unfold PrecomputedFeatures.direction
  split_ifs <;> simp

/-- Where the adapter has a direction, the replay has another one or other levels. -/
theorem not_sameSignal_of_enters (hs : s.features = precompute config candles data strategy)
    (ha : a ∈ config.alignments candles data) {ind : Indicators}
    (h : (strategy.initialized candles).Enters a ind ((strategy.initialized candles).evaluate a)) :
    ¬ SameSignal ((strategy.initialized candles).evaluate a) (s.evaluate a) := by
  intro hsame
  obtain ⟨b, -, hb⟩ := exists_feature hs ha
  have hdirection := hsame.direction
  rw [evaluate_direction hb] at hdirection
  have hside : (featureOf b ((strategy.initialized candles).evaluate b)).direction ≠ .noTrade := by
    rw [hdirection]
    rcases h.directional with hd | hd <;> simp [hd]
  have hlevels := hsame.levels h.directional
  rw [evaluate_levels hb hside, hdirection, h.levels] at hlevels
  exact levels_ne_replayLevels (configOf_atrSl_ne_atrTp1 _) _ _ _ hlevels

/-- When a replay gives the signals of the live strategy. -/
theorem replays_iff (hs : s.features = precompute config candles data strategy) :
    Replays (strategy.initialized candles) s (config.alignments candles data) ↔
      ∀ a ∈ config.alignments candles data, (strategy.initialized candles).TurnedAway a := by
  constructor
  · intro h a ha
    -- what the adapter does with a bar it does not turn away the replay cannot show
    rcases (strategy.initialized candles).evaluate_cases a with ⟨haway, -⟩ | ⟨-, hwait | ⟨ind, henters⟩⟩
    · exact haway
    · exact absurd ((h a ha).direction.trans hwait) (evaluate_ne_wait hs ha)
    · exact absurd (h a ha) (not_sameSignal_of_enters hs ha henters)
  · intro h a ha
    -- no bar has a direction, the one whose record is replayed among them
    have hnone : ∀ b ∈ config.alignments candles data,
        ((strategy.initialized candles).evaluate b).direction = .noTrade := by
      intro b hb
      rcases (strategy.initialized candles).evaluate_cases b with ⟨-, hno⟩ | ⟨hnot, -⟩
      · exact hno
      · exact absurd (h b hb) hnot
    have hundirected : ∀ b ∈ config.alignments candles data,
        ¬ ((strategy.initialized candles).evaluate b).Directional := by
      intro b hb
      simp [SignalEvent.Directional, hnone b hb]
    obtain ⟨b, hb, hfeature⟩ := exists_feature hs ha
    refine ⟨?_, fun hd => absurd hd (hundirected a ha), fun hd => absurd hd (hundirected a ha)⟩
    rw [evaluate_direction hfeature, featureOf_direction_noTrade (hundirected b hb), hnone a ha]

/-- **Replay.** The replay of precomputed features, straight away and through the file, gives the signals of
the adapter exactly if the adapter turns every bar away. -/
theorem replay_iff (config : PrecomputeConfig) (candles : List HistoricalCandle) (data : HigherTfData)
    (strategy : PTBStrategyAdapter) (metadata : FeatureDatasetMetadata)
    (htimes : ∀ c ∈ candles, IsTime c.timestamp) :
    (Replays (strategy.initialized candles)
        { strategyId := strategy.strategyId, features := precompute config candles data strategy, metadata }
        (config.alignments candles data) ∧
      ∃ s, PrecomputedPTBStrategy.loadFromJson { strategyId := strategy.strategyId }
          (saveToJson (precompute config candles data strategy) metadata) = some s ∧
        Replays (strategy.initialized candles) s (config.alignments candles data)) ↔
      ∀ a ∈ config.alignments candles data, (strategy.initialized candles).TurnedAway a := by
  constructor
  · rintro ⟨hdirect, -⟩
    exact (replays_iff rfl).mp hdirect
  · intro h
    refine ⟨(replays_iff rfl).mpr h, _,
      loadFromJson_saveToJson config candles data strategy _ metadata htimes, ?_⟩
    exact (replays_iff rfl).mpr h

end

/-! ## A replay with another stop -/

/-- Candles alike, five minutes apart, that close in the golden zone. -/
def goldenCandle (i : ℕ) : HistoricalCandle where
  timestamp := 1704700800000000 + 300000000 * i
  opening := 2007
  high := 2010
  low := 2000
  close := 2007
  volume := 100

/-- Twenty-nine candles. -/
def goldenCandles : List HistoricalCandle := (List.range 29).map goldenCandle

/-- The live strategy of the candles. -/
def goldenAdapter : PTBStrategyAdapter where
  strategyId := "MARNIE_FIB"

/-- The replay of the twenty-nine candles. -/
theorem replay_iff_golden :
    (Replays (goldenAdapter.initialized goldenCandles)
        { strategyId := "MARNIE_FIB", features := precompute {} goldenCandles [] goldenAdapter }
        (PrecomputeConfig.alignments {} goldenCandles []) ∧
      ∃ s, PrecomputedPTBStrategy.loadFromJson { strategyId := "MARNIE_FIB" }
          (saveToJson (precompute {} goldenCandles [] goldenAdapter) {}) = some s ∧
        Replays (goldenAdapter.initialized goldenCandles) s
          (PrecomputeConfig.alignments {} goldenCandles [])) ↔
      ∀ a ∈ PrecomputeConfig.alignments {} goldenCandles [],
        (goldenAdapter.initialized goldenCandles).TurnedAway a :=
  replay_iff {} goldenCandles [] goldenAdapter {} (by decide +kernel)

/-- The adapter sells the last candle with its stop at 2022, the replay with the stop at 2008. -/
theorem replay_stop_differs :
    ¬ Replays (goldenAdapter.initialized goldenCandles)
      { strategyId := "MARNIE_FIB", features := precompute {} goldenCandles [] goldenAdapter }
      (PrecomputeConfig.alignments {} goldenCandles []) := by
  intro h
  let last : TimeframeAlignment := ⟨(goldenCandle 28).timestamp, goldenCandle 28, [], 28⟩
  have hlast : last ∈ PrecomputeConfig.alignments {} goldenCandles [] := by decide +kernel
  have hsell : ((goldenAdapter.initialized goldenCandles).evaluate last).direction = .sell := by
    decide +kernel
  have hlive : ((goldenAdapter.initialized goldenCandles).evaluate last).levels =
      ⟨2022, 1987, 1972, 1952⟩ := by decide +kernel
  have hreplay : (PrecomputedPTBStrategy.evaluate
      { strategyId := "MARNIE_FIB", features := precompute {} goldenCandles [] goldenAdapter } last).levels =
        ⟨2008, 2006, 0, 0⟩ := by decide +kernel
  have hsame := (h last hlast).levels (.inr hsell)
  rw [hlive, hreplay] at hsame
  exact absurd hsame (by decide +kernel)

end PredictATrade.Research
