import Mathlib.Data.Rat.Cast.Order
import Mathlib.Logic.Function.Basic
import PredictATrade.Lib.Interpolation
import PredictATrade.Lib.Runs
import PredictATrade.Realtime.Features

/-!
# `Calibration.Loader` — calibration files and the probabilities they give

`LoadJSONModels` reads a directory file by file. A file that passes the checks registers its model, unless
the strategy has one with as many samples; a logistic model is mirrored into the older table, which
`Calibrate` reads. `ProbabilityFor` reads the first table.

Floats are exact rationals. The exponential function is a parameter, probabilities are in its field `K`.
-/

namespace PredictATrade.Calibration
open Lib.Runs Realtime Realtime.Features

/-! ## Files -/

/-- A strategy, a string in the source. -/
abbrev StrategyId := String

/-- A point of an isotonic model. -/
structure CalibrationBin where
  x : ℚ := 0
  p : ℚ := 0
  deriving DecidableEq, Repr

/-- A calibration file, as it is decoded. -/
structure CalibrationFile where
  version : String := ""
  strategy : String := ""
  target : String := ""
  exitProfile : String := ""
  oosAuc : ℚ := 0
  nSamples : ℤ := 0
  method : String := ""
  params : List (String × ℚ) := []
  trainedAt : String := ""
  monotonicBins : List CalibrationBin := []
  xScale : ℚ := 0
  xClip : List ℚ := []
  deriving DecidableEq, Repr

/-- The version that the loader reads. -/
def supportedCalibrationVersion : String := "1.0.0"

/-- The least area under the curve that counts as validated. -/
def minCalibratedOosAuc : ℚ := 52 / 100

/-- The least number of samples that counts as validated. -/
def minCalibratedSampleSize : ℤ := 100

/-- `f.Params[key]`. -/
def CalibrationFile.param (f : CalibrationFile) (key : String) : ℚ := (f.params.lookup key).getD 0

/-- An entry of the directory, with what `ReadFile` and `Unmarshal` make of it. -/
structure DirEntry where
  name : String
  isDir : Bool
  data : Option CalibrationFile
  deriving DecidableEq, Repr

/-- The file of an entry that the loop does not skip. -/
def DirEntry.file? (e : DirEntry) : Option CalibrationFile :=
  if e.isDir ∨ !(".json".toList.isSuffixOf (e.name.toList.map Char.toLower)) then none else e.data

/-! ## Models -/

/-- A model that was loaded from a file. -/
structure JsonModel where
  strategyId : StrategyId
  method : String
  a : ℚ := 0
  b : ℚ := 0
  bins : List CalibrationBin := []
  version : String
  nSamples : ℤ
  deriving DecidableEq, Repr

/-- The statuses of a model. -/
inductive ModelStatus where
  | unset | unverified | shadow | provisional | validated | promoted
  deriving DecidableEq, Repr

/-- A model that is registered with the consumer. -/
structure CalibrationModel where
  strategyId : StrategyId
  predictionTarget : String
  sigmoidA : ℚ := 0
  sigmoidB : ℚ := 0
  brierScore : ℚ := 0
  ece : ℚ := 0
  sampleSize : ℤ := 0
  wilsonLower : ℚ := 0
  isActive : Bool := false
  status : ModelStatus := .unset
  deriving DecidableEq, Repr

/-- What `Calibrate` asks of a model. -/
def CalibrationModel.eligible (cm : CalibrationModel) : Bool :=
  cm.isActive && (cm.status = .validated ∨ cm.status = .promoted)

/-- The models by their strategies. -/
structure Consumer where
  models : StrategyId → Option CalibrationModel := fun _ => none
  jsonModels : StrategyId → Option JsonModel := fun _ => none

/-- The loop of `binsMonotonic`. -/
def neverFalls : ℚ → List CalibrationBin → Bool
  | _, [] => true
  | prev, b :: bins => if b.p < prev then false else neverFalls b.p bins

/-- There are bins, and their probabilities never fall. -/
def binsMonotonic : List CalibrationBin → Bool
  | [] => false
  | b :: bins => neverFalls b.p bins

/-- The model of a file that passes the checks before the incumbent is looked at. -/
def CalibrationFile.model (f : CalibrationFile) : Option JsonModel :=
  if f.version ≠ supportedCalibrationVersion then none
  else if f.strategy = "" then none
  else if f.oosAuc < minCalibratedOosAuc then none
  else if f.nSamples < minCalibratedSampleSize then none
  else if f.method = "isotonic" ∧ !binsMonotonic f.monotonicBins then none
  else
    let m : JsonModel :=
      { strategyId := f.strategy, method := f.method, version := f.version, nSamples := f.nSamples }
    if f.method = "logistic" then some { m with a := f.param "a", b := f.param "b" }
    else if f.method = "isotonic" then some { m with bins := f.monotonicBins }
    else none

namespace Consumer
variable (c : Consumer)

/-- The incumbent has as many samples. -/
def keeps (m : JsonModel) : Bool :=
  match c.jsonModels m.strategyId with
  | some existing => existing.nSamples ≥ m.nSamples
  | none => false

/-- A model goes into the first table, and a logistic one into the second as well. -/
def register (m : JsonModel) : Consumer where
  jsonModels := Function.update c.jsonModels m.strategyId (some m)
  models :=
    if m.method = "logistic" then
      let cm := (c.models m.strategyId).getD
        { strategyId := m.strategyId, predictionTarget := "TP1_HIT" }
      Function.update c.models m.strategyId <| some
        { cm with
          sigmoidA := m.a
          sigmoidB := m.b
          sampleSize := m.nSamples
          isActive := true
          status := .validated }
    else c.models

/-- One file. -/
def loadFile (f : CalibrationFile) : Consumer :=
  match f.model with
  | none => c
  | some m => if c.keeps m then c else c.register m

/-- The files of a directory that can be read. -/
def filesOf (dir : Option (List DirEntry)) : List CalibrationFile :=
  (dir.getD []).filterMap DirEntry.file?

/-- The loader, over what the directory holds. -/
def loadJsonModels (dir : Option (List DirEntry)) : Consumer := (filesOf dir).foldl loadFile c

/-- One of the models of `SeedDefaultModels`. -/
def seedModel (id : StrategyId) (a b : ℚ) : CalibrationModel where
  strategyId := id
  predictionTarget := "TP1_HIT"
  sigmoidA := a
  sigmoidB := b
  brierScore := 21 / 100
  ece := 5 / 100
  sampleSize := 100
  wilsonLower := 45 / 100
  isActive := true
  status := .provisional

/-- The models that a consumer is seeded with. -/
def seedDefaultModels : Consumer :=
  [("STANDARD_SCALPING", 5 / 2, -1 / 2), ("ULTRA_SCALPING", 3, -8 / 10), ("STANDARD_SWING", 2, -3 / 10),
    ("TREND_SWING", 18 / 10, -2 / 10)].foldl
    (fun c (id, a, b) => { c with models := Function.update c.models id (some (seedModel id a b)) }) c

end Consumer

/-! ## Probabilities -/

section
variable {K : Type*} [Field K] (exp : K → K)

/-- The logistic function. -/
def sigmoid (z : ℚ) : K := 1 / (1 + exp (-(z : K)))

/-- The probability, cut to the unit interval. -/
def clampProb (p : ℚ) : ℚ := if p < 0 then 0 else if p > 1 then 1 else p

/-- The loop of `interpBins`, from the knot before. -/
def interpFrom (x : ℚ) : CalibrationBin → List CalibrationBin → ℚ
  | prev, [] => clampProb prev.p
  | prev, b :: bins =>
    if x ≤ b.x then
      if b.x = prev.x then clampProb prev.p
      else clampProb (prev.p + (x - prev.x) / (b.x - prev.x) * (b.p - prev.p))
    else interpFrom x b bins

/-- The probability between the bins. -/
def interpBins (bins : List CalibrationBin) (x : ℚ) : ℚ :=
  match bins with
  | [] => 0
  | first :: rest =>
    if x ≤ first.x then clampProb first.p
    else if x ≥ (rest.getLastD first).x then clampProb (rest.getLastD first).p
    else interpFrom x first rest

/-- The score, cut to the range from 0 to 100. -/
def clampScore (s : ℚ) : ℚ := if s < 0 then 0 else if s > 100 then 100 else s

/-- What `ProbabilityFor` makes of a model. -/
def JsonModel.probability (m : JsonModel) (rawScore : ℚ) : K :=
  let x := clampScore rawScore / 100
  if m.method = "isotonic" then (interpBins m.bins x : ℚ) else sigmoid exp (m.a * x + m.b)

namespace Consumer
variable (c : Consumer) (strategyId : StrategyId) (rawScore : ℚ)

/-- The probability that the loaded model has for the score. -/
def probabilityFor : Option K := (c.jsonModels strategyId).map (·.probability exp rawScore)

/-- The probability that the registered model has for the score. -/
def calibrate : Option K :=
  match c.models strategyId with
  | none => none
  | some model =>
    if !model.eligible then none
    else
      let x := decimalDiv (clampScore rawScore) 100
      some (sigmoid exp (model.sigmoidA * x + model.sigmoidB))

end Consumer

end

end PredictATrade.Calibration
