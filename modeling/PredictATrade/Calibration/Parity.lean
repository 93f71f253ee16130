import PredictATrade.Lib.Json
import PredictATrade.Calibration.Validated

/-!
# `Calibration.Parity` — the calibrator of the research side and its file

`ProbabilityCalibrator` writes what it has learned into a file, the loader reads it into a model, and
`load_json` reads it back. `parity`: whatever was learned, all three give the same probability for every
score. Floats are exact rationals, as in the loader; the area under the curve may be no number.
-/

namespace PredictATrade.Calibration
open Lib Lib.Json Lib.Runs

/-! ## The calibrator -/

/-- The methods of a calibration. -/
inductive Method where
  | logistic | isotonic
  deriving DecidableEq, Repr

/-- The text of a method in the file. -/
def Method.name : Method → String
  | logistic => "logistic"
  | isotonic => "isotonic"

/-- What `__init__` and `fit` leave; `oosAuc` is none where there is no number. -/
structure ProbabilityCalibrator where
  method : Method
  a : ℚ := 0
  b : ℚ := 0
  bins : List (ℚ × ℚ) := []
  oosAuc : Option ℚ := none
  nSamples : ℤ := 0
  trainedAt : String := ""
  version : String := "1.0.0"
  deriving DecidableEq, Repr

namespace ProbabilityCalibrator

/-- The value, cut to a range. -/
def clamp (v lo hi : ℚ) : ℚ := if v < lo then lo else if v > hi then hi else v

/-- The score, cut to the range from 0 to 100 and brought to the unit interval. -/
def norm (score : ℚ) : ℚ := clamp score 0 100 / 100

/-- The loop of `_interp_bins`, from the knot before. -/
def interpFrom (x : ℚ) : ℚ × ℚ → List (ℚ × ℚ) → ℚ
  | (_, p0), [] => clamp p0 0 1
  | (x0, p0), (x1, p1) :: bins =>
    if x ≤ x1 then
      if x1 = x0 then clamp p0 0 1
      else
        let t := (x - x0) / (x1 - x0)
        clamp (p0 + t * (p1 - p0)) 0 1
    else interpFrom x (x1, p1) bins

section
variable {K : Type*} [Field K] (exp : K → K) (cal : ProbabilityCalibrator)

/-- The logistic function, by the branch that does not overflow. -/
def sigmoid (z : ℚ) : K :=
  if z ≥ 0 then 1 / (1 + exp (-(z : K))) else exp (z : K) / (1 + exp (z : K))

/-- The probability between the bins. -/
def interpBins (x : ℚ) : ℚ :=
  match cal.bins with
  | [] => 1 / 2
  | first :: rest =>
    if x ≤ first.1 then clamp first.2 0 1
    else if x ≥ (rest.getLastD first).1 then clamp (rest.getLastD first).2 0 1
    else interpFrom x first rest

/-- `predict_proba`. -/
def predictProba (score : ℚ) : K :=
  let x := norm score
  match cal.method with
  | .logistic => sigmoid exp (cal.a * x + cal.b)
  | .isotonic => (cal.interpBins x : ℚ)

end

/-! ## The file -/

/-- A bin in the file. -/
def binJson (bin : ℚ × ℚ) : Json := .obj [("x", .float bin.1), ("p", .float bin.2)]

/-- `metadata` is the dictionary that the caller hands over. -/
def exportJson (cal : ProbabilityCalibrator) (metadata : List (String × Json)) : Json :=
  .obj
    [("version", .str cal.version),
      ("strategy", (metadata.lookup "strategy").getD (.str "")),
      ("target", (metadata.lookup "target").getD (.str "")),
      ("exit_profile", (metadata.lookup "exit_profile").getD (.str "")),
      ("oos_auc", (cal.oosAuc.map Json.float).getD .nonFinite),
      ("n_samples", .int cal.nSamples),
      ("method", .str cal.method.name),
      ("params", .obj [("a", .float cal.a), ("b", .float cal.b)]),
      ("trained_at", .str cal.trainedAt),
      ("monotonic_bins", .arr (cal.bins.map binJson)),
      ("x_scale", .float 100),
      ("x_clip", .arr [.float 0, .float 100]),
      ("metadata", .obj metadata)]

/-- `float(…)` of a number. -/
def toFloat : Json → Option ℚ
  | .int z => some z
  | .float q => some q
  | _ => none

/-- A bin out of the file. -/
def toBin : Json → Option (ℚ × ℚ)
  | .obj entries => do
    let x ← toFloat (← entries.lookup "x")
    let p ← toFloat (← entries.lookup "p")
    return (x, p)
  | _ => none

/-- None where the call raises, or where the file has a value of another type than `exportJson` writes. -/
def loadJson : Json → Option ProbabilityCalibrator
  | .obj data => do
    let method ← match (data.lookup "method").getD (.str "logistic") with
      | .str "logistic" => some Method.logistic
      | .str "isotonic" => some Method.isotonic
      | _ => none
    let version ← match (data.lookup "version").getD (.str "1.0.0") with
      | .str s => some s
      | _ => none
    let oosAuc ← match (data.lookup "oos_auc").getD .nonFinite with
      | .nonFinite => some none
      | v => (toFloat v).map some
    let nSamples ← match (data.lookup "n_samples").getD (.int 0) with
      | .int z => some z
      | _ => none
    let trainedAt ← match (data.lookup "trained_at").getD (.str "") with
      | .str s => some s
      | _ => none
    let params ← match (data.lookup "params").getD (.obj []) with
      | .obj entries => some entries
      | .null => some []
      | _ => none
    let a ← toFloat ((params.lookup "a").getD (.float 0))
    let b ← toFloat ((params.lookup "b").getD (.float 0))
    let bins ← match (data.lookup "monotonic_bins").getD .null with
      | .null => some []
      | v => list? toBin v
    return { method, a, b, bins, oosAuc, nSamples, trainedAt, version }
  | _ => none

end ProbabilityCalibrator

/-! ## What the loader reads -/

/-- The fields of `CalibrationFile`. -/
inductive FileField where
  | version | strategy | target | exitProfile | oosAuc | nSamples | method | params | trainedAt
  | monotonicBins | xScale | xClip
  deriving DecidableEq, Repr

/-- The letters that fold to ASCII ones go with them. -/
def foldKey (key : String) : List Char :=
  key.toList.map fun c => if c = 'ſ' then 's' else if c = '\u212a' then 'k' else c.toLower

/-- Keys are matched without regard to case. -/
def fileField (key : String) : Option FileField :=
  [("version", FileField.version), ("strategy", .strategy), ("target", .target),
    ("exit_profile", .exitProfile), ("oos_auc", .oosAuc), ("n_samples", .nSamples), ("method", .method),
    ("params", .params), ("trained_at", .trainedAt), ("monotonic_bins", .monotonicBins),
    ("x_scale", .xScale), ("x_clip", .xClip)].findSome? fun (name, field) =>
    if foldKey name = foldKey key then some field else none

/-- Into a string; null leaves it as it is. -/
def readString (old : String) : Json → Option String
  | .null => some old
  | .str s => some s
  | _ => none

/-- A number read over an old one, as the decoder does; `none` is an error. -/
def readFloat64 (old : ℚ) : Json → Option ℚ
  | .null => some old
  | .int z => some z
  | .float q => some q
  | _ => none

/-- An integer read over an old one; a fraction is an error. -/
def readInt (old : ℤ) : Json → Option ℤ
  | .null => some old
  | .int z => if -9223372036854775808 ≤ z ∧ z < 9223372036854775808 then some z else none
  | _ => none

/-- The parameters of a model. -/
def readParams : Json → Option (List (String × ℚ))
  | .null => some []
  | .obj entries => entries.mapM fun (key, v) => (readFloat64 0 v).map (key, ·)
  | _ => none

/-- A bin, as the decoder reads it. -/
def readBin : Json → Option CalibrationBin
  | .null => some {}
  | .obj entries => entries.foldlM
      (fun bin (key, v) =>
        if foldKey key = foldKey "x" then (readFloat64 bin.x v).map fun x => { bin with x }
        else if foldKey key = foldKey "p" then (readFloat64 bin.p v).map fun p => { bin with p }
        else some bin) {}
  | _ => none

/-- Into a slice; null empties it. -/
def readSlice {α : Type} (read : Json → Option α) : Json → Option (List α)
  | .null => some []
  | v => list? read v

/-- One field of the file. -/
def CalibrationFile.read (f : CalibrationFile) (field : FileField) (v : Json) : Option CalibrationFile :=
  match field with
  | .version => (readString f.version v).map fun version => { f with version }
  | .strategy => (readString f.strategy v).map fun strategy => { f with strategy }
  | .target => (readString f.target v).map fun target => { f with target }
  | .exitProfile => (readString f.exitProfile v).map fun exitProfile => { f with exitProfile }
  | .oosAuc => (readFloat64 f.oosAuc v).map fun oosAuc => { f with oosAuc }
  | .nSamples => (readInt f.nSamples v).map fun nSamples => { f with nSamples }
  | .method => (readString f.method v).map fun method => { f with method }
  | .params => (readParams v).map fun params => { f with params }
  | .trainedAt => (readString f.trainedAt v).map fun trainedAt => { f with trainedAt }
  | .monotonicBins => (readSlice readBin v).map fun monotonicBins => { f with monotonicBins }
  | .xScale => (readFloat64 f.xScale v).map fun xScale => { f with xScale }
  | .xClip => (readSlice (readFloat64 0) v).map fun xClip => { f with xClip }

/-- `json.Unmarshal` into a `CalibrationFile`, for objects that have each key once; none on an error. -/
def unmarshal (json : Json) : Option CalibrationFile :=
  if !json.standard then none
  else
    match json with
    | .null => some {}
    | .obj entries => entries.foldlM
        (fun f (key, v) => match fileField key with
          | none => some f
          | some field => f.read field v) {}
    | _ => none

/-! ## What the readers make of the file -/

namespace ProbabilityCalibrator
variable (cal : ProbabilityCalibrator) (metadata : List (String × Json))

theorem toBin_binJson (bin : ℚ × ℚ) : toBin (binJson bin) = some bin := rfl

theorem loadJson_exportJson : loadJson (cal.exportJson metadata) = some cal := by
  have hbins : list? toBin (.arr (cal.bins.map binJson)) = some cal.bins :=
    list?_map fun bin _ => toBin_binJson bin
  -- field by field; the area under the curve has two texts
  obtain ⟨method, a, b, bins, oosAuc, nSamples, trainedAt, version⟩ := cal
  cases method <;> cases oosAuc <;>
    simp [loadJson, exportJson, Method.name, List.lookup_cons, toFloat, hbins]

end ProbabilityCalibrator

open ProbabilityCalibrator

/-- The knot of the loader. -/
def knotOf (bin : ℚ × ℚ) : CalibrationBin := ⟨bin.1, bin.2⟩

theorem readBin_binJson (bin : ℚ × ℚ) : readBin (binJson bin) = some (knotOf bin) := by
  have hx : foldKey "x" = foldKey "x" := rfl
  have hp : foldKey "p" ≠ foldKey "x" := by decide +kernel
  simp [readBin, binJson, readFloat64, hp, knotOf]

theorem fileField_keys : ["version", "strategy", "target", "exit_profile", "oos_auc", "n_samples", "method",
    "params", "trained_at", "monotonic_bins", "x_scale", "x_clip", "metadata"].map fileField =
      [some .version, some .strategy, some .target, some .exitProfile, some .oosAuc, some .nSamples,
        some .method, some .params, some .trainedAt, some .monotonicBins, some .xScale, some .xClip,
        none] := by
  decide +kernel

theorem unmarshal_export {cal : ProbabilityCalibrator} {metadata : List (String × Json)}
    {f : CalibrationFile} (h : unmarshal (cal.exportJson metadata) = some f) :
    f.method = cal.method.name ∧ f.params = [("a", cal.a), ("b", cal.b)] ∧
      f.monotonicBins = cal.bins.map knotOf := by
  have hbins : list? readBin (.arr (cal.bins.map binJson)) = some (cal.bins.map knotOf) := by
    show (cal.bins.map binJson).mapM readBin = _
    induction cal.bins with
    | nil => rfl
    | cons bin bins ih => simp [readBin_binJson, ih]
  -- the entries are read in the order in which they were written, `metadata` being no field
  have hkeys := fileField_keys
  simp only [List.map_cons, List.map_nil, List.cons.injEq, and_true] at hkeys
  obtain ⟨h1, h2, h3, h4, h5, h6, h7, h8, h9, h10, h11, h12, h13⟩ := hkeys
  unfold unmarshal at h
  split at h
  · cases h
  · simp only [exportJson, List.foldlM_cons, List.foldlM_nil, h1, h2, h3, h4, h5, h6, h7, h8, h9, h10, h11,
      h12, h13, CalibrationFile.read, Option.bind_eq_bind, Option.bind_eq_some_iff,
      Option.map_eq_some_iff] at h
    obtain ⟨_, ⟨_, -, rfl⟩, _, ⟨_, -, rfl⟩, _, ⟨_, -, rfl⟩, _, ⟨_, -, rfl⟩, h⟩ := h
    obtain ⟨_, ⟨_, -, rfl⟩, _, ⟨_, -, rfl⟩, _, ⟨_, hmethod, rfl⟩, _, ⟨_, hparams, rfl⟩, h⟩ := h
    obtain ⟨_, ⟨_, -, rfl⟩, _, ⟨_, hslice, rfl⟩, _, ⟨_, -, rfl⟩, _, ⟨_, -, rfl⟩, _, hmetadata, hlast⟩ := h
    obtain rfl := Option.some.inj hmetadata
    obtain rfl := Option.some.inj hlast
    exact ⟨(Option.some.inj hmethod).symm, (Option.some.inj hparams).symm,
      (Option.some.inj (hbins.symm.trans hslice)).symm⟩

/-! ## The same probabilities -/

theorem norm_eq (score : ℚ) : ProbabilityCalibrator.norm score = clampScore score / 100 := rfl

theorem interpFrom_knotOf (x : ℚ) (bin : ℚ × ℚ) (bins : List (ℚ × ℚ)) :
    Calibration.interpFrom x (knotOf bin) (bins.map knotOf) = ProbabilityCalibrator.interpFrom x bin bins := by
  induction bins generalizing bin with
  | nil => rfl
  | cons bin' bins ih =>
      obtain ⟨x0, p0⟩ := bin
      obtain ⟨x1, p1⟩ := bin'
      show (if x ≤ x1 then if x1 = x0 then clampProb p0 else _ else _) =
        if x ≤ x1 then if x1 = x0 then clamp p0 0 1 else _ else _
      rw [ih]
      rfl

/-- The two interpolations agree on knots that pass the loader's check. -/
theorem interpBins_knotOf {cal : ProbabilityCalibrator} (h : binsMonotonic (cal.bins.map knotOf)) (x : ℚ) :
    Calibration.interpBins (cal.bins.map knotOf) x = cal.interpBins x := by
  unfold ProbabilityCalibrator.interpBins
  cases hbins : cal.bins with
  | nil =>
      rw [hbins] at h
      cases h
  | cons bin bins =>
      show (if x ≤ bin.1 then clampProb bin.2
        else if x ≥ ((bins.map knotOf).getLastD (knotOf bin)).x then
          clampProb ((bins.map knotOf).getLastD (knotOf bin)).p
        else Calibration.interpFrom x (knotOf bin) (bins.map knotOf)) = _
      rw [List.getLastD_map, interpFrom_knotOf]
      rfl

theorem sigmoid_eq (z : ℚ) : ProbabilityCalibrator.sigmoid Real.exp z = Calibration.sigmoid Real.exp z := by
  unfold ProbabilityCalibrator.sigmoid Calibration.sigmoid
  split
  · rfl
  · have hpos : 0 < Real.exp z := Real.exp_pos _
    rw [Real.exp_neg]
    field_simp
    ring

/-- The model of the file gives what the calibrator does. -/
theorem probability_eq {cal : ProbabilityCalibrator} {metadata : List (String × Json)}
    {f : CalibrationFile} {m : JsonModel} (hread : unmarshal (cal.exportJson metadata) = some f)
    (hmodel : f.model = some m) (score : ℚ) :
    m.probability Real.exp score = cal.predictProba Real.exp score := by
  obtain ⟨hmethod, hparams, hbins⟩ := unmarshal_export hread
  have hspec := model_spec hmodel
  unfold JsonModel.probability ProbabilityCalibrator.predictProba
  dsimp only
  rw [norm_eq]
  -- the line is read from the parameters, the knots from the bins
  cases hcal : cal.method with
  | logistic =>
      have hlogistic : m.method = "logistic" := by
        rw [hspec.sameMethod, hmethod, hcal]
        rfl
      obtain ⟨ha, hb⟩ := hspec.line hlogistic
      have ha' : m.a = cal.a := by
        rw [ha, CalibrationFile.param, hparams]
        rfl
      have hb' : m.b = cal.b := by
        rw [hb, CalibrationFile.param, hparams]
        rfl
      rw [if_neg (by simp [hlogistic]), ha', hb']
      exact (sigmoid_eq _).symm
  | isotonic =>
      have hisotonic : m.method = "isotonic" := by
        rw [hspec.sameMethod, hmethod, hcal]
        rfl
      have hknots := (hspec.knots hisotonic).trans hbins
      have hrising := hspec.bins hisotonic
      rw [hknots] at hrising
      rw [if_pos hisotonic, hknots, interpBins_knotOf hrising]

/-! ## As long as the file is in force -/

/-- The file gets past the checks and the incumbent. -/
def Consumer.Accepts (c : Consumer) (f : CalibrationFile) : Prop :=
  ∃ m, f.model = some m ∧ c.keeps m = false

/-- Files without more samples leave the model of a strategy. -/
theorem jsonModels_later {c : Consumer} {id : StrategyId} {m : JsonModel} (h : c.jsonModels id = some m)
    {later : List CalibrationFile}
    (hlater : ∀ g ∈ later, g.model.isSome → g.strategy = id → g.nSamples ≤ m.nSamples) :
    (run Consumer.loadFile c later).jsonModels id = some m := by
  induction later generalizing c with
  | nil => exact h
  | cons g later ih =>
      obtain ⟨hg, hlater⟩ := List.forall_mem_cons.mp hlater
      refine ih ?_ hlater
      unfold Consumer.loadFile
      cases hmodel : g.model with
      | none => exact h
      | some m' =>
          have hspec := model_spec hmodel
          show (if c.keeps m' = true then c else c.register m').jsonModels id = some m
          -- a file that is registered belongs to another strategy
          split
          · exact h
          · next hkeeps =>
              have hid : id ≠ m'.strategyId := by
                rintro rfl
                apply hkeeps
                have hle := hg (by rw [hmodel]; rfl) hspec.strategyId.symm
                unfold Consumer.keeps
                rw [h]
                exact decide_eq_true (hspec.nSamples.trans_le hle)
              exact (Function.update_of_ne hid _ _).trans h

/-- **Parity.** A file of the calibrator that the loader accepts gives its strategy the calibrator's
probability for every score, until a file with more samples comes; `load_json` gives it at once. -/
theorem parity (cal : ProbabilityCalibrator) (metadata : List (String × Json)) (c : Consumer)
    {f : CalibrationFile} (hread : unmarshal (cal.exportJson metadata) = some f) (haccepts : c.Accepts f)
    (later : List CalibrationFile)
    (hlater : ∀ g ∈ later, g.model.isSome → g.strategy = f.strategy → g.nSamples ≤ f.nSamples)
    (score : ℚ) :
    (run Consumer.loadFile (c.loadFile f) later).probabilityFor Real.exp f.strategy score =
        some (cal.predictProba Real.exp score) ∧
      (loadJson (cal.exportJson metadata)).map (·.predictProba Real.exp score) =
        some (cal.predictProba Real.exp score) := by
  obtain ⟨m, hmodel, hkeeps⟩ := haccepts
  have hspec := model_spec hmodel
  have hload : c.loadFile f = c.register m := by
    unfold Consumer.loadFile
    rw [hmodel]
    exact if_neg (by simp [hkeeps])
  have hown : (c.loadFile f).jsonModels f.strategy = some m := by
    rw [hload, ← hspec.strategyId]
    exact Function.update_self ..
  rw [← hspec.nSamples] at hlater
  constructor
  · unfold Consumer.probabilityFor
    rw [jsonModels_later hown hlater]
    exact congrArg some (probability_eq hread hmodel score)
  · rw [loadJson_exportJson]
    rfl

/-- Two knots at one place among them. -/
def stepped : ProbabilityCalibrator where
  method := .isotonic
  bins := [(2 / 10, 3 / 10), (5 / 10, 4 / 10), (5 / 10, 7 / 10), (8 / 10, 9 / 10)]
  oosAuc := some (6 / 10)
  nSamples := 250

/-- A file with two bins that are a step. -/
def steppedFile : CalibrationFile where
  version := "1.0.0"
  strategy := "TREND_SWING"
  oosAuc := 6 / 10
  nSamples := 250
  method := "isotonic"
  params := [("a", 0), ("b", 0)]
  monotonicBins := stepped.bins.map knotOf
  xScale := 100
  xClip := [0, 100]

/-- A model with two bins, through the file. -/
theorem parity_stepped :
    unmarshal (stepped.exportJson [("strategy", .str "TREND_SWING")]) = some steppedFile ∧
      Consumer.Accepts {} steppedFile ∧
      (Consumer.probabilityFor Real.exp (Consumer.loadFile {} steppedFile) "TREND_SWING" 50 =
          some (stepped.predictProba Real.exp 50) ∧
        (loadJson (stepped.exportJson [("strategy", .str "TREND_SWING")])).map
          (·.predictProba Real.exp 50) = some (stepped.predictProba Real.exp 50)) := by
  have hread : unmarshal (stepped.exportJson [("strategy", .str "TREND_SWING")]) = some steppedFile := by
    decide +kernel
  have haccepts : Consumer.Accepts {} steppedFile := by
    refine ⟨⟨"TREND_SWING", "isotonic", 0, 0, stepped.bins.map knotOf, "1.0.0", 250⟩, ?_, rfl⟩
    decide +kernel
  exact ⟨hread, haccepts, parity stepped _ {} hread haccepts [] (by simp) 50⟩

end PredictATrade.Calibration
