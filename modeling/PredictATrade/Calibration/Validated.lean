import Mathlib.Algebra.Order.Ring.Cast
import Mathlib.Algebra.Order.Field.Rat
import Mathlib.Analysis.SpecialFunctions.Exp
import PredictATrade.Calibration.Loader

/-!
# `Calibration.Validated` — what a calibrated probability can be trusted for

Every probability lies in `[0, 1]`, never falls with the score and comes from an accepted file with the most
samples, as long as two kinds of files are not registered: logistic ones with a negative slope, whose
monotonicity no check looks at, and isotonic ones over a logistic model, which stays behind in the table
that `Calibrate` reads.
-/

namespace PredictATrade.Calibration
open Lib.Runs Lib.Interpolation Lib.Decimal Realtime.Features

variable {K : Type*} [Field K] [LinearOrder K]

/-! ## What validation promises -/

/-- `f` is accepted, and no accepted file of its strategy has more samples. -/
structure CalibrationFile.Best (f : CalibrationFile) (seen : List CalibrationFile)
    (strategyId : StrategyId) : Prop where
  strategy : f.strategy = strategyId
  oosAuc : 52 / 100 ≤ f.oosAuc
  nSamples : 100 ≤ f.nSamples
  most : ∀ g ∈ seen, g.model.isSome → g.strategy = strategyId → g.nSamples ≤ f.nSamples

/-- A function for probabilities that can be trusted; `origin` is what it makes of a model. -/
structure Trusted (seen : List CalibrationFile) (origin : JsonModel → ℚ → Option K)
    (prob : StrategyId → ℚ → Option K) : Prop where
  unit : ∀ id score p, prob id score = some p → 0 ≤ p ∧ p ≤ 1
  monotone : ∀ id score score' p p', score ≤ score' → prob id score = some p →
    prob id score' = some p' → p ≤ p'
  source : ∀ id score p, prob id score = some p →
    ∃ f ∈ seen, f.Best seen id ∧ ∃ m, f.model = some m ∧ origin m score = some p

/-- What `Calibrate` makes of a model: only a logistic one can be represented. -/
def JsonModel.mirrored (exp : K → K) (m : JsonModel) (score : ℚ) : Option K :=
  if m.method = "logistic" then
    some (sigmoid exp (m.a * decimalDiv (clampScore score) 100 + m.b))
  else none

/-- The score on the scale of the models has no more places than a decimal division leaves. -/
def ShortScore (score : ℚ) : Prop := HasPlaces 16 (clampScore score / 100)

/-- What the consumer answers comes from validated models. -/
structure Validated (exp : K → K) (c : Consumer) (seen : List CalibrationFile) : Prop where
  calibrate : Trusted seen (JsonModel.mirrored exp) (c.calibrate exp)
  probabilityFor : Trusted seen (fun m score => some (m.probability exp score)) (c.probabilityFor exp)
  agree : ∀ id score p p', ShortScore score → c.calibrate exp id score = some p →
    c.probabilityFor exp id score = some p' → p = p'

/-! ## What a run must not register -/

/-- A file that gets past the incumbent rises with the score, and an isotonic one does not come over a
model of the other table. -/
def Fits (c : Consumer) (f : CalibrationFile) : Prop :=
  match f.model with
  | none => True
  | some m =>
    c.keeps m = false →
      if m.method = "logistic" then 0 ≤ m.a
      else ((c.models m.strategyId).map (·.eligible)).getD false = false

instance decidableFits (c : Consumer) (f : CalibrationFile) : Decidable (Fits c f) := by
  unfold Fits
  cases f.model with
  | none => exact .isTrue trivial
  | some m => infer_instance

/-! ## What a file's model says -/

/-- What the checks leave of a file. -/
structure CalibrationFile.Accepts (f : CalibrationFile) (m : JsonModel) : Prop where
  strategyId : m.strategyId = f.strategy
  nSamples : m.nSamples = f.nSamples
  sameMethod : m.method = f.method
  method : m.method = "logistic" ∨ m.method = "isotonic"
  oosAuc : 52 / 100 ≤ f.oosAuc
  enough : 100 ≤ f.nSamples
  line : m.method = "logistic" → m.a = f.param "a" ∧ m.b = f.param "b"
  knots : m.method = "isotonic" → m.bins = f.monotonicBins
  bins : m.method = "isotonic" → binsMonotonic m.bins

/-- A file that gives a model is accepted. -/
theorem model_spec {f : CalibrationFile} {m : JsonModel} (h : f.model = some m) : f.Accepts m := by
  unfold CalibrationFile.model at h
  split_ifs at h with hversion hstrategy hauc hsamples hbins hlogistic hisotonic
  · obtain rfl := Option.some.inj h
    have hno (hmethod : f.method = "isotonic") : False :=
      absurd (hlogistic.symm.trans hmethod) (by decide)
    exact ⟨rfl, rfl, rfl, .inl hlogistic, not_lt.mp hauc, not_lt.mp hsamples, fun _ => ⟨rfl, rfl⟩,
      fun hmethod => (hno hmethod).elim, fun hmethod => (hno hmethod).elim⟩
  · obtain rfl := Option.some.inj h
    refine ⟨rfl, rfl, rfl, .inr hisotonic, not_lt.mp hauc, not_lt.mp hsamples, ?_, fun _ => rfl, ?_⟩
    · intro hmethod
      exact absurd hmethod hlogistic
    · intro _
      simpa [hisotonic] using hbins

/-! ## Bins -/

theorem clampProb_mem (p : ℚ) : 0 ≤ clampProb p ∧ clampProb p ≤ 1 := by
  unfold clampProb
  split_ifs <;> constructor <;> linarith

theorem clampProb_mono : Monotone clampProb := by
  intro p q hpq
  unfold clampProb
  split_ifs <;> linarith

/-- The point of a bin. -/
def CalibrationBin.knot (b : CalibrationBin) : ℚ × ℚ := (b.x, b.p)

theorem interpFrom_eq (x : ℚ) (prev : CalibrationBin) (bins : List CalibrationBin) :
    interpFrom x prev bins = clampProb (walk prev.knot (bins.map (·.knot)) x) := by
  induction bins generalizing prev with
  | nil => rfl
  | cons b bins ih =>
      show _ = clampProb (if x ≤ b.x then if b.x = prev.x then prev.p
        else line prev.knot b.knot x else walk b.knot (bins.map (·.knot)) x)
      unfold interpFrom
      split_ifs
      · rfl
      · rfl
      · exact ih b

/-- `interpBins` is the interpolation of its knots, cut off at the ends of the unit interval. -/
theorem interpBins_cons (b : CalibrationBin) (bins : List CalibrationBin) (x : ℚ) :
    interpBins (b :: bins) x = clampProb (interpolate b.knot (bins.map (·.knot)) x) := by
  unfold interpolate
  rw [List.getLastD_map]
  show (if x ≤ b.x then clampProb b.p
    else if x ≥ (bins.getLastD b).x then clampProb (bins.getLastD b).p else interpFrom x b bins) =
      clampProb (if x ≤ b.x then b.p
        else if (bins.getLastD b).x ≤ x then (bins.getLastD b).p
        else walk b.knot (bins.map (·.knot)) x)
  rw [interpFrom_eq]
  split_ifs <;> rfl

theorem neverFalls_rising {b : CalibrationBin} {bins : List CalibrationBin}
    (h : neverFalls b.p bins) : Rising b.knot (bins.map (·.knot)) := by
  induction bins generalizing b with
  | nil => exact List.isChain_singleton _
  | cons b' bins ih =>
      unfold neverFalls at h
      split at h
      · cases h
      · next hle => exact List.isChain_cons_cons.mpr ⟨not_lt.mp hle, ih h⟩

theorem interpBins_mono {bins : List CalibrationBin} (h : binsMonotonic bins) :
    Monotone (interpBins bins) := by
  cases bins with
  | nil => cases h
  | cons b bins =>
      intro x y hxy
      rw [interpBins_cons, interpBins_cons]
      exact clampProb_mono (interpolate_mono (neverFalls_rising h) hxy)

theorem interpBins_mem {bins : List CalibrationBin} (h : binsMonotonic bins) (x : ℚ) :
    0 ≤ interpBins bins x ∧ interpBins bins x ≤ 1 := by
  cases bins with
  | nil => cases h
  | cons b bins =>
      rw [interpBins_cons]
      exact clampProb_mem _

/-! ## Scores -/

theorem clampScore_mono : Monotone clampScore := by
  intro s t hst
  unfold clampScore
  split_ifs <;> linarith

theorem clampScore_nonneg (s : ℚ) : 0 ≤ clampScore s := by
  unfold clampScore
  split_ifs <;> linarith

theorem normalized_mono : Monotone fun s : ℚ => clampScore s / 100 :=
  fun _ _ hst => div_le_div_of_nonneg_right (clampScore_mono hst) (by norm_num)

/-- The rounded division never falls either. -/
theorem divided_mono : Monotone fun s : ℚ => decimalDiv (clampScore s) 100 := by
  intro s t hst
  have hle : clampScore s / 100 ≤ clampScore t / 100 := normalized_mono hst
  have hs : 0 ≤ clampScore s / 100 := div_nonneg (clampScore_nonneg s) (by norm_num)
  exact roundPlaces_mono_of_nonneg hs hle

theorem ShortScore.decimalDiv {score : ℚ} (h : ShortScore score) :
    decimalDiv (clampScore score) 100 = clampScore score / 100 :=
  roundPlaces_of_hasPlaces h

/-! ## The sigmoid -/

section
variable [IsStrictOrderedRing K] {exp : K → K}

theorem sigmoid_mem (hpos : ∀ z, 0 < exp z) (z : ℚ) : 0 ≤ sigmoid exp z ∧ sigmoid exp z ≤ 1 := by
  have h : 0 < 1 + exp (-(z : K)) := add_pos one_pos (hpos _)
  unfold sigmoid
  constructor
  · exact (div_pos one_pos h).le
  · rw [div_le_one h]
    linarith [hpos (-(z : K))]

theorem sigmoid_strictMono (hpos : ∀ z, 0 < exp z) (hexp : StrictMono exp) :
    StrictMono fun z : ℚ => sigmoid exp z := by
  intro y z hyz
  have hcast : (y : K) < z := Rat.cast_lt.mpr hyz
  have hlt : exp (-(z : K)) < exp (-(y : K)) := hexp (neg_lt_neg hcast)
  have hz : 0 < 1 + exp (-(z : K)) := add_pos one_pos (hpos _)
  exact one_div_lt_one_div_of_lt hz (by linarith)

/-- A model that the checks let through and that rises gives probabilities that do. -/
theorem probability_mem (hpos : ∀ z, 0 < exp z) {f : CalibrationFile} {m : JsonModel} (h : f.Accepts m)
    (score : ℚ) : 0 ≤ m.probability exp score ∧ m.probability exp score ≤ 1 := by
  unfold JsonModel.probability
  dsimp only
  split
  · next hisotonic =>
      obtain ⟨hlow, hhigh⟩ := interpBins_mem (h.bins hisotonic) (clampScore score / 100)
      exact ⟨Rat.cast_nonneg.mpr hlow, by exact_mod_cast hhigh⟩
  · exact sigmoid_mem hpos _

theorem sigmoid_line_mono (hpos : ∀ z, 0 < exp z) (hexp : StrictMono exp) {a : ℚ} (ha : 0 ≤ a) (b : ℚ)
    {x : ℚ → ℚ} (hx : Monotone x) : Monotone fun s => sigmoid exp (a * x s + b) := by
  intro s t hst
  apply (sigmoid_strictMono hpos hexp).monotone
  have hmul := mul_le_mul_of_nonneg_left (hx hst) ha
  linarith

theorem probability_mono (hpos : ∀ z, 0 < exp z) (hexp : StrictMono exp) {f : CalibrationFile}
    {m : JsonModel} (h : f.Accepts m) (ha : m.method = "logistic" → 0 ≤ m.a) :
    Monotone (m.probability exp) := by
  intro s t hst
  unfold JsonModel.probability
  dsimp only
  split
  · next hisotonic =>
      have hle := interpBins_mono (h.bins hisotonic) (normalized_mono hst)
      exact_mod_cast hle
  · next hno =>
      have hlogistic := h.method.resolve_right hno
      exact sigmoid_line_mono hpos hexp (ha hlogistic) m.b normalized_mono hst

end

/-! ## What the tables hold -/

/-- The tables after these files: the first one has the best file of each strategy, and what `Calibrate`
takes is the model that the first one has. -/
structure Held (c : Consumer) (seen : List CalibrationFile) : Prop where
  held : ∀ id m, c.jsonModels id = some m → ∃ f ∈ seen, f.model = some m ∧ f.Best seen id
  missing : ∀ id, c.jsonModels id = none → ∀ f ∈ seen, f.model.isSome → f.strategy ≠ id
  rises : ∀ id m, c.jsonModels id = some m → m.method = "logistic" → 0 ≤ m.a
  mirrors : ∀ id cm, c.models id = some cm → cm.eligible →
    ∃ m, c.jsonModels id = some m ∧ m.method = "logistic" ∧ cm.sigmoidA = m.a ∧ cm.sigmoidB = m.b

theorem Best.snoc {f f' : CalibrationFile} {seen : List CalibrationFile} {id : StrategyId}
    (h : f.Best seen id) (hle : f'.model.isSome → f'.strategy = id → f'.nSamples ≤ f.nSamples) :
    f.Best (seen ++ [f']) id := by
  refine ⟨h.strategy, h.oosAuc, h.nSamples, ?_⟩
  intro g hg
  rcases List.mem_append.mp hg with hold | hnew
  · exact h.most g hold
  · rw [List.mem_singleton.mp hnew]
    exact hle

namespace Held
variable {c : Consumer} {seen : List CalibrationFile} {f : CalibrationFile} {m : JsonModel}

/-- A file that registers nothing. -/
theorem skip (h : Held c seen)
    (hle : f.model.isSome → ∃ m, c.jsonModels f.strategy = some m ∧ f.nSamples ≤ m.nSamples) :
    Held c (seen ++ [f]) where
  held := by
    intro id m hm
    obtain ⟨g, hg, hmodel, hbest⟩ := h.held id m hm
    refine ⟨g, List.mem_append_left _ hg, hmodel, Best.snoc hbest ?_⟩
    rintro hsome rfl
    obtain ⟨m', hm', hn⟩ := hle hsome
    obtain rfl := Option.some.inj (hm.symm.trans hm')
    rwa [(model_spec hmodel).nSamples] at hn
  missing := by
    intro id hnone g hg hsome
    rcases List.mem_append.mp hg with hold | hnew
    · exact h.missing id hnone g hold hsome
    · obtain rfl := List.mem_singleton.mp hnew
      rintro rfl
      obtain ⟨m', hm', -⟩ := hle hsome
      rw [hnone] at hm'
      cases hm'
  rises := h.rises
  mirrors := h.mirrors

/-- Nothing that was seen before has as many samples as a file that gets past the incumbent. -/
theorem lt_of_not_keeps (h : Held c seen) (hm : c.keeps m = false) :
    ∀ g ∈ seen, g.model.isSome → g.strategy = m.strategyId → g.nSamples < m.nSamples := by
  intro g hg hsome hstrategy
  unfold Consumer.keeps at hm
  cases hexisting : c.jsonModels m.strategyId with
  | none => exact absurd hstrategy (h.missing _ hexisting g hg hsome)
  | some existing =>
      rw [hexisting] at hm
      obtain ⟨f₀, -, hmodel, hbest⟩ := h.held _ _ hexisting
      have hle := hbest.most g hg hsome hstrategy
      rw [← (model_spec hmodel).nSamples] at hle
      exact hle.trans_lt (not_le.mp (of_decide_eq_false hm))

theorem register_models (hisotonic : m.method ≠ "logistic") : (c.register m).models = c.models :=
  if_neg hisotonic

/-- A file that registers its model. -/
theorem register (h : Held c seen) (hmodel : f.model = some m) (hkeeps : c.keeps m = false)
    (hfits : if m.method = "logistic" then 0 ≤ m.a
      else ((c.models m.strategyId).map (·.eligible)).getD false = false) :
    Held (c.register m) (seen ++ [f]) := by
  have hspec := model_spec hmodel
  have hless := h.lt_of_not_keeps hkeeps
  have hbest : f.Best (seen ++ [f]) m.strategyId := by
    refine ⟨hspec.strategyId.symm, hspec.oosAuc, hspec.enough, ?_⟩
    intro g hg hsome hstrategy
    rcases List.mem_append.mp hg with hold | hnew
    · rw [← hspec.nSamples]
      exact (hless g hold hsome hstrategy).le
    · rw [List.mem_singleton.mp hnew]
  have hother (id : StrategyId) (hid : id ≠ m.strategyId) :
      (c.register m).jsonModels id = c.jsonModels id := Function.update_of_ne hid _ _
  have hown : (c.register m).jsonModels m.strategyId = some m := Function.update_self ..
  refine ⟨?_, ?_, ?_, ?_⟩
  · intro id m' hm'
    by_cases hid : id = m.strategyId
    · subst hid
      obtain rfl := Option.some.inj (hown.symm.trans hm')
      exact ⟨f, List.mem_append_right _ (List.mem_singleton_self f), hmodel, hbest⟩
    · rw [hother id hid] at hm'
      obtain ⟨g, hg, hgm, hgbest⟩ := h.held id m' hm'
      refine ⟨g, List.mem_append_left _ hg, hgm, Best.snoc hgbest ?_⟩
      intro _ hstrategy
      exact absurd (hstrategy.symm.trans hspec.strategyId.symm) hid
  · intro id hnone g hg hsome
    have hid : id ≠ m.strategyId := by
      rintro rfl
      rw [hown] at hnone
      cases hnone
    rcases List.mem_append.mp hg with hold | hnew
    · exact h.missing id (hother id hid ▸ hnone) g hold hsome
    · rw [List.mem_singleton.mp hnew, ← hspec.strategyId]
      exact Ne.symm hid
  · intro id m' hm' hlogistic
    by_cases hid : id = m.strategyId
    · subst hid
      obtain rfl := Option.some.inj (hown.symm.trans hm')
      rwa [if_pos hlogistic] at hfits
    · exact h.rises id m' (hother id hid ▸ hm') hlogistic
  · intro id cm hcm heligible
    by_cases hlogistic : m.method = "logistic"
    · simp only [Consumer.register, if_pos hlogistic] at hcm
      by_cases hid : id = m.strategyId
      · subst hid
        rw [Function.update_self, Option.some.injEq] at hcm
        subst hcm
        exact ⟨m, hown, hlogistic, rfl, rfl⟩
      · rw [Function.update_of_ne hid] at hcm
        obtain ⟨m', hm', hrest⟩ := h.mirrors id cm hcm heligible
        exact ⟨m', (hother id hid).trans hm', hrest⟩
    · rw [register_models hlogistic] at hcm
      -- no model of the second table is behind an isotonic one of the first
      have hid : id ≠ m.strategyId := by
        rintro rfl
        rw [if_neg hlogistic, hcm] at hfits
        exact absurd (hfits.symm.trans heligible) (by decide)
      obtain ⟨m', hm', hrest⟩ := h.mirrors id cm hcm heligible
      exact ⟨m', (hother id hid).trans hm', hrest⟩

theorem loadFile (h : Held c seen) (hfits : Fits c f) : Held (c.loadFile f) (seen ++ [f]) := by
  unfold Fits at hfits
  unfold Consumer.loadFile
  cases hmodel : f.model with
  | none =>
      apply h.skip
      intro hsome
      rw [hmodel] at hsome
      cases hsome
  | some m =>
      rw [hmodel] at hfits
      cases hkeeps : c.keeps m with
      | false =>
          show Held (if c.keeps m = true then c else c.register m) _
          rw [hkeeps, if_neg Bool.false_ne_true]
          exact h.register hmodel hkeeps (hfits hkeeps)
      | true =>
          show Held (if c.keeps m = true then c else c.register m) _
          rw [if_pos hkeeps]
          apply h.skip
          intro _
          unfold Consumer.keeps at hkeeps
          rw [(model_spec hmodel).strategyId] at hkeeps
          cases hexisting : c.jsonModels f.strategy with
          | none =>
              rw [hexisting] at hkeeps
              cases hkeeps
          | some existing =>
              rw [hexisting] at hkeeps
              refine ⟨existing, rfl, ?_⟩
              rw [← (model_spec hmodel).nSamples]
              exact of_decide_eq_true hkeeps

variable {exp : K → K}

omit [LinearOrder K] in
/-- What `Calibrate` answers is what it makes of the model in the first table. -/
theorem calibrate_eq (h : Held c seen) {id : StrategyId} {score : ℚ} {p : K}
    (hp : c.calibrate exp id score = some p) :
    ∃ m, c.jsonModels id = some m ∧ m.method = "logistic" ∧
      p = sigmoid exp (m.a * decimalDiv (clampScore score) 100 + m.b) := by
  unfold Consumer.calibrate at hp
  cases hcm : c.models id with
  | none =>
      rw [hcm] at hp
      cases hp
  | some cm =>
      rw [hcm] at hp
      cases heligible : cm.eligible with
      | false => simp [heligible] at hp
      | true =>
          obtain ⟨m, hm, hlogistic, ha, hb⟩ := h.mirrors id cm hcm heligible
          simp only [heligible, Bool.not_true, Bool.false_eq_true, if_false, Option.some.injEq] at hp
          rw [ha, hb] at hp
          exact ⟨m, hm, hlogistic, hp.symm⟩

omit [LinearOrder K] in
theorem probabilityFor_eq {id : StrategyId} {score : ℚ} {p : K}
    (hp : c.probabilityFor exp id score = some p) :
    ∃ m, c.jsonModels id = some m ∧ p = m.probability exp score := by
  obtain ⟨m, hm, rfl⟩ := Option.map_eq_some_iff.mp hp
  exact ⟨m, hm, rfl⟩

section
variable [IsStrictOrderedRing K]

theorem validated (h : Held c seen) (hpos : ∀ z, 0 < exp z) (hexp : StrictMono exp) :
    Validated exp c seen where
  calibrate := by
    refine ⟨?_, ?_, ?_⟩
    · intro id score p hp
      obtain ⟨m, -, -, rfl⟩ := h.calibrate_eq hp
      exact sigmoid_mem hpos _
    · intro id score score' p p' hle hp hp'
      obtain ⟨m, hm, hlogistic, rfl⟩ := h.calibrate_eq hp
      obtain ⟨m', hm', -, rfl⟩ := h.calibrate_eq hp'
      obtain rfl := Option.some.inj (hm.symm.trans hm')
      exact sigmoid_line_mono hpos hexp (h.rises id m hm hlogistic) m.b divided_mono hle
    · intro id score p hp
      obtain ⟨m, hm, hlogistic, rfl⟩ := h.calibrate_eq hp
      obtain ⟨f, hf, hmodel, hbest⟩ := h.held id m hm
      exact ⟨f, hf, hbest, m, hmodel, if_pos hlogistic⟩
  probabilityFor := by
    refine ⟨?_, ?_, ?_⟩
    · intro id score p hp
      obtain ⟨m, hm, rfl⟩ := probabilityFor_eq hp
      obtain ⟨f, -, hmodel, -⟩ := h.held id m hm
      exact probability_mem hpos (model_spec hmodel) score
    · intro id score score' p p' hle hp hp'
      obtain ⟨m, hm, rfl⟩ := probabilityFor_eq hp
      obtain ⟨m', hm', rfl⟩ := probabilityFor_eq hp'
      obtain rfl := Option.some.inj (hm.symm.trans hm')
      obtain ⟨f, -, hmodel, -⟩ := h.held id m hm
      exact probability_mono hpos hexp (model_spec hmodel) (h.rises id m hm) hle
    · intro id score p hp
      obtain ⟨m, hm, rfl⟩ := probabilityFor_eq hp
      obtain ⟨f, hf, hmodel, hbest⟩ := h.held id m hm
      exact ⟨f, hf, hbest, m, hmodel, rfl⟩
  agree := by
    intro id score p p' hshort hp hp'
    obtain ⟨m, hm, hlogistic, rfl⟩ := h.calibrate_eq hp
    obtain ⟨m', hm', rfl⟩ := probabilityFor_eq hp'
    obtain rfl := Option.some.inj (hm.symm.trans hm')
    have hne : m.method ≠ "isotonic" := by
      rw [hlogistic]
      decide
    unfold JsonModel.probability
    rw [hshort.decimalDiv, if_neg hne]

/-! ## The other direction -/

/-- A file that must not be registered shows as soon as it is. -/
theorem not_validated (h : Held c seen) (hpos : ∀ z, 0 < exp z) (hexp : StrictMono exp)
    (hfits : ¬Fits c f) : ¬Validated exp (c.loadFile f) (seen ++ [f]) := by
  intro hvalid
  unfold Fits at hfits
  cases hmodel : f.model with
  | none => exact hfits (by simp [hmodel])
  | some m =>
      simp only [hmodel, Classical.not_imp] at hfits
      obtain ⟨hkeeps, hfits⟩ := hfits
      have hload : c.loadFile f = c.register m := by
        unfold Consumer.loadFile
        rw [hmodel]
        exact if_neg (by simp [hkeeps])
      have hown : (c.register m).jsonModels m.strategyId = some m := Function.update_self ..
      rw [hload] at hvalid
      by_cases hlogistic : m.method = "logistic"
      · rw [if_pos hlogistic, not_le] at hfits
        -- the score `100` gets less than the score `0`
        have hne : m.method ≠ "isotonic" := by
          rw [hlogistic]
          decide
        have hprob (score : ℚ) : (c.register m).probabilityFor exp m.strategyId score =
            some (sigmoid exp (m.a * (clampScore score / 100) + m.b)) := by
          unfold Consumer.probabilityFor
          rw [hown]
          exact congrArg some (if_neg hne)
        have hle := hvalid.probabilityFor.monotone _ 0 100 _ _ (by norm_num) (hprob 0) (hprob 100)
        have hline := (sigmoid_strictMono hpos hexp).le_iff_le.mp hle
        norm_num [clampScore] at hline
        linarith
      · rw [if_neg hlogistic] at hfits
        cases hcm : c.models m.strategyId with
        | none => simp [hcm] at hfits
        | some cm =>
            have heligible : cm.eligible = true := by simpa [hcm] using hfits
            have hcalibrate : (c.register m).calibrate exp m.strategyId 0 =
                some (sigmoid exp (cm.sigmoidA * decimalDiv (clampScore 0) 100 + cm.sigmoidB)) := by
              unfold Consumer.calibrate
              rw [register_models hlogistic, hcm]
              simp [heligible]
            obtain ⟨g, hg, hbest, m', hmodel', horigin⟩ := hvalid.calibrate.source _ _ _ hcalibrate
            have hlogistic' : m'.method = "logistic" := by
              by_contra hno
              rw [JsonModel.mirrored, if_neg hno] at horigin
              cases horigin
            have hsome : g.model.isSome := by rw [hmodel']; rfl
            rcases List.mem_append.mp hg with hold | hnew
            · -- an earlier file has fewer samples than this one
              have hlt := h.lt_of_not_keeps hkeeps g hold hsome hbest.strategy
              have hle := hbest.most f (List.mem_append_right _ (List.mem_singleton_self f))
                (by rw [hmodel]; rfl) (model_spec hmodel).strategyId.symm
              rw [← (model_spec hmodel).nSamples] at hle
              omega
            · rw [List.mem_singleton.mp hnew, hmodel, Option.some.injEq] at hmodel'
              exact hlogistic (hmodel' ▸ hlogistic')

end

end Held

/-! ## Whole runs -/

/-- The consumer, and the files that were seen. -/
abbrev Loaded := Consumer × List CalibrationFile

/-- The consumer before any file, seeded or not. -/
def Loaded.start (seeded : Bool) : Loaded :=
  (if seeded then Consumer.seedDefaultModels {} else {}, [])

/-- The consumer after one more file. -/
def Loaded.see (s : Loaded) (f : CalibrationFile) : Loaded := (s.1.loadFile f, s.2 ++ [f])

/-- One call of `LoadJSONModels`. -/
def Loaded.load (s : Loaded) (dir : Option (List DirEntry)) : Loaded :=
  (s.1.loadJsonModels dir, s.2 ++ Consumer.filesOf dir)

/-- The file fits what the consumer holds. -/
def Loaded.Fits (s : Loaded) (f : CalibrationFile) : Prop := Calibration.Fits s.1 f

instance decidableLoadedFits (s : Loaded) (f : CalibrationFile) : Decidable (s.Fits f) :=
  decidableFits s.1 f

theorem load_eq (s : Loaded) (dir : Option (List DirEntry)) :
    s.load dir = run Loaded.see s (Consumer.filesOf dir) := by
  unfold Loaded.load Consumer.loadJsonModels
  generalize Consumer.filesOf dir = files
  induction files generalizing s with
  | nil => simp
  | cons f files ih =>
      rw [run_cons, ← ih]
      simp [Loaded.see]

/-- Loading directories is loading their files. -/
theorem run_load (s : Loaded) (calls : List (Option (List DirEntry))) :
    run Loaded.load s calls = run Loaded.see s (calls.flatMap Consumer.filesOf) := by
  induction calls generalizing s with
  | nil => rfl
  | cons dir calls ih => rw [run_cons, ih, load_eq, List.flatMap_cons, run_append]

/-- The seeded models are not eligible. -/
theorem start_models {seeded : Bool} {id : StrategyId} {cm : CalibrationModel}
    (h : (Loaded.start seeded).1.models id = some cm) : cm.eligible = false := by
  cases seeded with
  | false => cases h
  | true =>
      simp only [Loaded.start, if_true, Consumer.seedDefaultModels, List.foldl_cons, List.foldl_nil,
        Function.update_apply] at h
      split_ifs at h <;> (obtain rfl := Option.some.inj h; rfl)

/-- The tables of a consumer before any file. -/
theorem start_held (seeded : Bool) : Held (Loaded.start seeded).1 (Loaded.start seeded).2 := by
  have hnone (id : StrategyId) : (Loaded.start seeded).1.jsonModels id = none := by
    cases seeded <;> rfl
  refine ⟨?_, ?_, ?_, ?_⟩
  · intro id m hm
    rw [hnone] at hm
    cases hm
  · intro id _ g hg
    cases hg
  · intro id m hm
    rw [hnone] at hm
    cases hm
  · intro id cm hcm heligible
    rw [start_models hcm] at heligible
    cases heligible

section
variable [IsStrictOrderedRing K] {exp : K → K}

/-- Over files one by one, the condition is the exact one. -/
theorem throughout_see_iff (hpos : ∀ z, 0 < exp z) (hexp : StrictMono exp) (seeded : Bool)
    (files : List CalibrationFile) :
    Throughout Loaded.see (fun s => Validated exp s.1 s.2) (.start seeded) files ↔
      Along Loaded.see Loaded.Fits (.start seeded) files := by
  apply throughout_iff_along (J := fun s => Held s.1 s.2)
  · intro s h
    exact h.validated hpos hexp
  · intro s f h hfits
    exact h.loadFile hfits
  · intro s f h hfits
    exact h.not_validated hpos hexp hfits
  · exact start_held seeded

/-- **Validated probabilities.** A run whose files all fit goes through validated states only. -/
theorem validated_of_fits (hpos : ∀ z, 0 < exp z) (hexp : StrictMono exp) (seeded : Bool)
    (calls : List (Option (List DirEntry)))
    (hfits : Along Loaded.see Loaded.Fits (.start seeded) (calls.flatMap Consumer.filesOf)) :
    Throughout Loaded.load (fun s => Validated exp s.1 s.2) (.start seeded) calls := by
  rintro pre ⟨post, rfl⟩
  rw [List.flatMap_append, along_append] at hfits
  rw [run_load]
  exact (throughout_see_iff hpos hexp seeded _).mpr hfits.1 _ List.prefix_rfl

end

/-- A falling logistic model passes the checks. -/
def falling : CalibrationFile where
  version := "1.0.0"
  strategy := "TREND_SWING"
  oosAuc := 6 / 10
  nSamples := 100
  method := "logistic"
  params := [("a", -1), ("b", 0)]

/-- A rising one. -/
def rising : CalibrationFile := { falling with params := [("a", 1), ("b", 0)] }

/-- A logistic model that falls is loaded, and the consumer answers by it. -/
theorem falling_breaks :
    ¬∀ (seeded : Bool) (calls : List (Option (List DirEntry))),
      Throughout Loaded.load (fun s => Validated Real.exp s.1 s.2) (.start seeded) calls := by
  intro h
  have hrun := h false [some [⟨"trend_swing.json", false, some falling⟩]] _ List.prefix_rfl
  have hfiles : [some [(⟨"trend_swing.json", false, some falling⟩ : DirEntry)]].flatMap
      Consumer.filesOf = [falling] := by
    decide +kernel
  rw [run_load, hfiles] at hrun
  exact (start_held false).not_validated Real.exp_pos Real.exp_strictMono (by decide +kernel) hrun

/-- A directory with a file whose model rises. -/
theorem validated_of_fits_rising :
    (∀ z, 0 < Real.exp z) ∧ StrictMono Real.exp ∧
      Throughout Loaded.load (fun s => Validated Real.exp s.1 s.2) (.start true)
        [some [⟨"trend_swing.json", false, some rising⟩]] :=
  ⟨Real.exp_pos, Real.exp_strictMono,
    validated_of_fits Real.exp_pos Real.exp_strictMono true _ (by decide +kernel)⟩

end PredictATrade.Calibration
