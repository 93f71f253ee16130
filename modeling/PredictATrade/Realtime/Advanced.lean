import PredictATrade.Realtime.Executable
import PredictATrade.Realtime.Recovery

/-!
# `Realtime.Advanced` — recovery and RL after the hard gates

`DecideWithAdvanced` runs `Decide` and then asks the recovery manager and the RL filter, which turn
a signal they refuse into a BLOCKED one. It returns before asking when the gates did not all pass
and when the direction is not BUY or SELL, on the view that nothing executable is lost there. But a
candidate can be executable, and it takes one of these exits.

`screened_iff`: every executable signal was let through by the managers exactly when the input is
not a candidate that `Decide` delivers, or the managers would have let it through.
-/

namespace PredictATrade.Realtime

/-! ## The managers and their context -/

/-- `adaptation.ContextInput`. -/
structure ContextInput where
  regime : String := ""
  volatilityState : String := ""
  manipulationIndex : Float64 := 0
  liquidityScore : Float64 := 0
  spread : Float64 := 0
  atr : Float64 := 0
  session : String := ""
  marketStructure : String := ""
  dxyContext : String := ""
  realYields : String := ""
  deriving DecidableEq, Repr

/-- `ml.FeatureVector`, with the features that the engine fills in. -/
structure FeatureVector where
  regime : Float64
  confluence : Float64
  confidence : Float64
  manipulationIndex : Float64
  volatility : Float64
  spread : Float64
  atr : Float64
  deriving DecidableEq, Repr

/-- The adaptation manager, by what it computes; `A` is its result. -/
structure AdaptationManager (A : Type) where
  enabled : Bool
  adapt : ContextInput → A

/-- The ML manager, by what it computes; `M` is its prediction. -/
structure MLManager (M : Type) where
  enabled : Bool
  predict : FeatureVector → M

/-- `AdvancedManagers`; a manager that is absent is disabled. Sentiment is its current influence. -/
structure AdvancedManagers (A M : Type) where
  recovery : Option RecoveryManager := none
  adaptation : Option (AdaptationManager A) := none
  ml : Option (MLManager M) := none
  rl : Option RLManager := none
  sentiment : Option Float64 := none

/-- `AdvancedDecisionInput`. -/
structure AdvancedDecisionInput where
  base : DecisionInput
  accountID : String
  confluence : Float64
  setupGrade : String
  confidence : Float64
  marketContext : ContextInput := {}
  rlObservation : Observation := {}
  rlInferenceFn : Option (Observation → RLAction × Float64) := none

/-- `AdvancedDecisionResult`. -/
structure AdvancedDecisionResult (A M : Type) where
  decision : DecisionResult
  recoveryState : Option RecoveryState := none
  sizeMultiplier : Float64 := 0
  adaptationResult : Option A := none
  mlPrediction : Option M := none
  rlDecision : Option RLDecision := none
  sentimentScore : Float64 := 0
  blockedByAdvanced : Bool := false
  advancedBlockReason : String := ""

variable {V A M : Type}

/-! ## DecideWithAdvanced -/

/-- `regimeToFloat`. -/
def regimeToFloat (regime : String) : Float64 :=
  if regime = "TRENDING_BULLISH" ∨ regime = "TRENDING_BEARISH" ∨ regime = "BREAKOUT" then 1 else 0

/-- `strToFloat`. -/
def strToFloat (s : String) : Float64 :=
  if s = "HIGH" ∨ s = "EXTREME" then 5 / 1000
  else if s = "LOW" then 5 / 10000
  else 1 / 1000

/-- The key of the account's recovery record. -/
def AdvancedDecisionInput.key (input : AdvancedDecisionInput) : AccountStrategyKey :=
  ⟨input.accountID, input.base.strategyID, symbolXAUUSD⟩

/-- The features of the input. -/
def AdvancedDecisionInput.features (input : AdvancedDecisionInput) : FeatureVector :=
  { regime := regimeToFloat input.marketContext.regime
    confluence := input.confluence
    confidence := input.confidence
    manipulationIndex := input.marketContext.manipulationIndex
    volatility := strToFloat input.marketContext.volatilityState
    spread := input.marketContext.spread
    atr := input.marketContext.atr }

/-- Turn the signal into a BLOCKED one. -/
def DecisionResult.block (d : DecisionResult) : DecisionResult :=
  { d with
    signal := d.signal.map fun s =>
      { s with direction := .blocked, grade := .blocked, executable := false }
    allGatesPass := false }

/-- What the recovery manager says of the signal; without a manager, nothing. -/
def recoveryBlock (input : AdvancedDecisionInput) (adv : AdvancedManagers A M) (now : Time) :
    Option BlockReason :=
  adv.recovery.bind fun m =>
    m.checkSignal input.key now input.confluence input.setupGrade input.confidence

/-- The decision of the RL manager, which is asked in filter and live mode once there is a model
to infer with. -/
def rlDecision (input : AdvancedDecisionInput) (adv : AdvancedManagers A M) : Option RLDecision :=
  match adv.rl, input.rlInferenceFn with
  | some m, some f =>
    if m.mode = .filterOnly ∨ m.mode = .liveApproved then some (m.evaluate input.rlObservation f)
    else none
  | _, _ => none

/-- The RL manager is in filter mode and its decision is NO_TRADE. -/
def rlVeto (input : AdvancedDecisionInput) (adv : AdvancedManagers A M) : Bool :=
  match adv.rl, rlDecision input adv with
  | some m, some dec => dec.action == .noTrade && m.mode == .filterOnly
  | _, _ => false

/-- The steps after the two early returns. -/
def applyManagers (input : AdvancedDecisionInput) (adv : AdvancedManagers A M) (now : Time)
    (d : DecisionResult) : AdvancedDecisionResult A M :=
  let result : AdvancedDecisionResult A M :=
    { decision := d
      recoveryState := adv.recovery.map fun m => m.getState input.key
      sizeMultiplier := match adv.recovery with
        | some m => m.getSizeMultiplier input.key
        | none => 1 }
  match recoveryBlock input adv now with
  | some reason =>
    { result with
      decision := { d.block with noTradeReasons := d.noTradeReasons ++ ["RECOVERY_BLOCKED"] }
      blockedByAdvanced := true
      advancedBlockReason := reason.text }
  | none =>
    let result :=
      { result with
        adaptationResult := adv.adaptation.bind fun m =>
          if m.enabled then some (m.adapt input.marketContext) else none
        mlPrediction := adv.ml.bind fun m =>
          if m.enabled then some (m.predict input.features) else none
        rlDecision := rlDecision input adv }
    if rlVeto input adv then
      { result with
        decision := d.block
        blockedByAdvanced := true
        advancedBlockReason := "RL_FILTER_VETO" }
    else { result with sentimentScore := adv.sentiment.getD 0 }

/-- The decision has a full direction, BUY or SELL. -/
def DecisionResult.isFull (d : DecisionResult) : Bool :=
  match d.signal with
  | none => false
  | some s => s.direction == .buy || s.direction == .sell

/-- `DecideWithAdvanced`; `now` is the time at which the managers are asked. -/
def Engine.decideWithAdvanced (e : Engine V) (input : AdvancedDecisionInput)
    (adv : AdvancedManagers A M) (clock : ℕ → Time) (now : Time) :
    Option (AdvancedDecisionResult A M) :=
  (e.decide input.base clock).map fun d =>
    if !d.allGatesPass then { decision := d }
    else if !d.isFull then { decision := d }
    else applyManagers input adv now d

/-! ## What the managers let through -/

/-- The managers let the signal through: recovery, if present, allows it, and an RL manager in
filter mode, once it has a model to infer with, does not decide on NO_TRADE. -/
structure Allowed (input : AdvancedDecisionInput) (adv : AdvancedManagers A M) (now : Time) :
    Prop where
  recovery : ∀ m, adv.recovery = some m →
    m.checkSignal input.key now input.confluence input.setupGrade input.confidence = none
  filter : ∀ m f, adv.rl = some m → m.mode = .filterOnly → input.rlInferenceFn = some f →
    (m.evaluate input.rlObservation f).action ≠ .noTrade

/-- An executable signal is one that the managers let through. -/
def Screened (e : Engine V) (input : AdvancedDecisionInput) (adv : AdvancedManagers A M)
    (clock : ℕ → Time) (now : Time) : Prop :=
  ∀ r s, e.decideWithAdvanced input adv clock now = some r → r.decision.signal = some s →
    s.executable = true → Allowed input adv now

section
variable {e : Engine V} {input : AdvancedDecisionInput} {adv : AdvancedManagers A M}
variable {clock : ℕ → Time} {now : Time} {d : DecisionResult} {s : Signal}

/-- When the recovery does not block. -/
theorem recoveryBlock_eq_none_iff : recoveryBlock input adv now = none ↔
    ∀ m, adv.recovery = some m →
      m.checkSignal input.key now input.confluence input.setupGrade input.confidence = none := by
  unfold recoveryBlock
  cases adv.recovery <;> simp

/-- When the learned filter does not veto. -/
theorem rlVeto_eq_false_iff : rlVeto input adv = false ↔
    ∀ m f, adv.rl = some m → m.mode = .filterOnly → input.rlInferenceFn = some f →
      (m.evaluate input.rlObservation f).action ≠ .noTrade := by
  unfold rlVeto rlDecision
  cases adv.rl with
  | none => simp
  | some m =>
    cases input.rlInferenceFn with
    | none => simp
    | some f => cases hm : m.mode <;> simp [hm]

/-- When both managers allow the signal. -/
theorem allowed_iff : Allowed input adv now ↔
    recoveryBlock input adv now = none ∧ rlVeto input adv = false := by
  rw [recoveryBlock_eq_none_iff, rlVeto_eq_false_iff]
  exact ⟨fun h => ⟨h.recovery, h.filter⟩, fun h => ⟨h.1, h.2⟩⟩

instance : Decidable (Allowed input adv now) := decidable_of_iff _ allowed_iff.symm

instance : Decidable (Screened e input adv clock now) :=
  decidable_of_iff ((e.decideWithAdvanced input adv clock now).all (fun r =>
      r.decision.signal.all fun s => !s.executable || decide (Allowed input adv now)) = true) (by
    simp only [Screened, Option.all_eq_true, Bool.or_eq_true, Bool.not_eq_true',
      decide_eq_true_eq]
    constructor
    · intro h r s hr hs hx
      exact (h r hr s hs).resolve_left (by simp [hx])
    · intro h r hr s hs
      cases hx : s.executable with
      | false => exact Or.inl rfl
      | true => exact Or.inr (h r s hr hs hx))

/-- A signal that the managers are asked about is executable only if they let it through. -/
theorem applyManagers_executable (hs : (applyManagers input adv now d).decision.signal = some s)
    (hx : s.executable = true) : Allowed input adv now := by
  have hblock : ∀ {s : Signal}, d.block.signal = some s → s.executable = false := by
    intro s hs
    obtain ⟨s', -, rfl⟩ := Option.map_eq_some_iff.mp hs
    rfl
  rw [allowed_iff]
  cases hrec : recoveryBlock input adv now with
  | some reason =>
    simp only [applyManagers, hrec] at hs
    exact absurd hx (by simp [hblock hs])
  | none =>
    cases hrl : rlVeto input adv with
    | true =>
      simp only [applyManagers, hrec, hrl, if_true] at hs
      exact absurd hx (by simp [hblock hs])
    | false => exact ⟨rfl, rfl⟩

/-- A full direction that `Decide` delivers reaches the managers. -/
theorem reaches_managers (h : e.decide input.base clock = some d) (hs : d.signal = some s)
    (hx : s.executable = true) (hc : input.base.direction.isCandidate = false) :
    d.allGatesPass = true ∧ d.isFull = true := by
  obtain ⟨hdel, hall, -⟩ := Delivers.of_executable h hs hx
  constructor
  · have hpass := hdel.passes.resolve_left (by simp [hc])
    rw [hall, Registry.evaluateAll_of_letBy hdel.letBy]
    exact List.all_eq_true.mpr hpass
  · have hdir := hdel.directional
    simp only [Direction.isDirectional, hc, Bool.or_false] at hdir
    simpa only [DecisionResult.isFull, hs, direction_of_executable h hs hx] using hdir

/-- A candidate that `Decide` delivers returns before the managers are asked. -/
theorem candidate_not_full (h : e.decide input.base clock = some d) (hs : d.signal = some s)
    (hx : s.executable = true) (hc : input.base.direction.isCandidate = true) :
    d.isFull = false := by
  simp only [DecisionResult.isFull, hs, direction_of_executable h hs hx]
  cases hd : input.base.direction <;> simp_all [Direction.isCandidate]

end

/-- **Screening.** Every executable signal is one that the managers let through exactly when the
input is not a candidate that `Decide` delivers, or the managers would let it through. -/
theorem screened_iff (e : Engine V) (input : AdvancedDecisionInput) (adv : AdvancedManagers A M)
    (clock : ℕ → Time) (now : Time) :
    Screened e input adv clock now ↔
      (input.base.direction.isCandidate = true → Delivers e input.base clock →
        Allowed input adv now) := by
  constructor
  · intro h hc hdel
    obtain ⟨d, s, hdec, hs, hx⟩ := hdel.executable
    have hres : e.decideWithAdvanced input adv clock now = some { decision := d } := by
      simp only [Engine.decideWithAdvanced, hdec, Option.map_some,
        candidate_not_full hdec hs hx hc, Bool.not_false, if_true, ite_self]
    exact h _ s hres hs hx
  · intro h r s hres hs hx
    obtain ⟨d, hdec, hr⟩ := Option.map_eq_some_iff.mp hres
    -- Both early returns hand back the decision of `Decide`.
    have early : r.decision = d → d.allGatesPass = false ∨ d.isFull = false →
        Allowed input adv now := by
      intro heq hearly
      rw [heq] at hs
      cases hc : input.base.direction.isCandidate with
      | true => exact h hc (Delivers.of_executable hdec hs hx).1
      | false =>
        obtain ⟨hall, hfull⟩ := reaches_managers hdec hs hx hc
        rcases hearly with hearly | hearly
        · exact absurd hall (by simp [hearly])
        · exact absurd hfull (by simp [hearly])
    split at hr
    · rename_i hall
      exact early (by rw [← hr]) (Or.inl (by simpa using hall))
    · split at hr
      · rename_i hfull
        exact early (by rw [← hr]) (Or.inr (by simpa using hfull))
      · rw [← hr] at hs
        exact applyManagers_executable hs hx

/-! ## A halted account -/

/-- A candidate on an account at its daily loss limit. -/
def haltedInput : AdvancedDecisionInput :=
  { base := swingInput .sellCandidate, accountID := "PAT-XAUUSD", confluence := 85,
    setupGrade := "A", confidence := 80,
    rlInferenceFn := some fun _ => (.noTrade, 9 / 10) }

/-- Recovery at the daily limit for every account, and an RL manager in filter mode. -/
def strictManagers : AdvancedManagers Unit Unit :=
  { recovery := some { config := {}, states := fun _ => some { state := .dailyLimit } }
    rl := some { mode := .filterOnly, minConfidence := 1 / 2 } }

/-- All gates pass, recovery is at its daily limit and the RL filter says NO_TRADE, and still the
candidate is executable. -/
theorem candidate_is_not_screened :
    ¬ Screened ⟨steadyRegistry (fun _ => .pass) (fun _ => none), "BALANCED"⟩ haltedInput
      strictManagers (fun _ => 1000) 1000 := by
  decide +kernel

end PredictATrade.Realtime
