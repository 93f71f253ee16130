import PredictATrade.Realtime.Types

/-!
# `Realtime.Gates` — the gate registry

`Registry.EvaluateAll` walks the gates in their short-circuit order. A gate that is not registered,
has no cached state, or whose state is stale and risk-critical is recorded as a veto and the walk
goes on; a gate that evaluates to VETO or UNKNOWN ends it. A stale state of any other gate is
recorded as DEGRADED, and the gate is then evaluated on it as if it were fresh.

The gates themselves are code behind an interface: here, any functions of the input and the state.
-/

namespace PredictATrade.Realtime

/-- `GateScope`: the key of a cached state; an empty strategy or timeframe is `none`. -/
structure GateScope where
  gateID : GateID
  strategyID : Option StrategyID := none
  timeframe : Option Timeframe := none
  deriving DecidableEq, Repr

/-- `GateState`: the cached state of a gate. `value` is the gate's own datum. -/
structure GateState (V : Type) where
  value : V
  state : GateResult
  reasonCode : String := ""
  evaluatedAt : Time := 0
  validUntil : Option Time := none
  generation : ℕ := 0
  deriving DecidableEq, Repr

/-- `GateInput`: the snapshot every gate is given. -/
structure GateInput where
  tick : Option Tick
  strategyID : StrategyID
  timeframe : Option Timeframe
  direction : Direction
  regime : Option Regime
  spread : Float64
  atr : Float64
  signalScore : Float64 := 0
  entryPrice : Float64
  stopLoss : Float64
  takeProfit1 : Float64
  takeProfit2 : Float64
  takeProfit3 : Float64
  roundTripCost : Float64
  currentExposure : Float64
  maxExposure : Float64
  newsRisk : String
  sessionAllowed : Bool
  entitlementOK : Bool
  licenseActive : Bool
  executionPermitted : Bool
  structuralLow : Float64
  structuralHigh : Float64
  accountEquity : Float64
  accountFreeMargin : Float64
  accountLeverage : Float64
  symbolTickValue : Float64
  symbolTickSize : Float64
  lotStep : Float64
  lotMin : Float64
  requestedLot : Float64
  positionsKnown : Bool
  openBuyPositions : ℤ
  openSellPositions : ℤ
  strategyOpenPositions : ℤ
  isLossCandidate : Bool
  entryGatePassed : Bool
  refinementProvided : Bool
  qualityTier : String
  shadowExecutable : Bool
  deriving DecidableEq, Repr

/-- `Gate`: a deterministic, pure evaluation. -/
structure Gate (V : Type) where
  evaluate : GateInput → GateState V → GateEvaluation

/-- `Registry`: the registered gates, their cached states and the short-circuit order. -/
structure Registry (V : Type) where
  gates : GateID → Option (Gate V)
  states : GateScope → Option (GateState V)
  order : List GateID

variable {V : Type}

/-- The order of `NewRegistry`. -/
def canonicalOrder : List GateID :=
  [.dataQuality, .session, .news, .spread, .slippage, .totalCost, .minATR, .regimeDirection,
   .stopHuntFilter, .exposure, .margin, .rrNetExpectancy, .profitability, .entitlement, .license,
   .executionPermit]

/-- `NewRegistry`. -/
def newRegistry : Registry V :=
  { gates := fun _ => none, states := fun _ => none, order := canonicalOrder }

/-- `Register`. -/
def Registry.register (r : Registry V) (id : GateID) (g : Gate V) : Registry V :=
  { r with gates := fun i => if i = id then some g else r.gates i }

/-- Insert a gate right after the first occurrence of another, or at the end. -/
def insertAfter (id after : GateID) : List GateID → List GateID
  | [] => [id]
  | g :: rest => if g = after then g :: id :: rest else g :: insertAfter id after rest

/-- `RegisterOrdered`. -/
def Registry.registerOrdered (r : Registry V) (id : GateID) (g : Gate V) (after : GateID) :
    Registry V :=
  { r.register id g with order := insertAfter id after r.order }

section
variable {id after : GateID} {order : List GateID}

/-- Nothing is lost, and what was there keeps its order. -/
theorem sublist_insertAfter : order.Sublist (insertAfter id after order) := by
  induction order with
  | nil => exact List.nil_sublist _
  | cons g order ih =>
    unfold insertAfter
    split
    · exact (List.sublist_cons_self id order).cons_cons g
    · exact ih.cons_cons g

theorem insertAfter_perm : (insertAfter id after order).Perm (id :: order) := by
  induction order with
  | nil => exact List.Perm.refl _
  | cons g order ih =>
    unfold insertAfter
    split
    · exact List.Perm.swap id g order
    · exact (ih.cons g).trans (List.Perm.swap id g order)

/-- The new one stands behind the first occurrence of the other. -/
theorem insertAfter_of_mem (h : after ∈ order) :
    ∃ pre post, order = pre ++ after :: post ∧ after ∉ pre ∧
      insertAfter id after order = pre ++ after :: id :: post := by
  induction order with
  | nil => cases h
  | cons g order ih =>
    by_cases hg : g = after
    · exact ⟨[], order, by rw [hg]; rfl, List.not_mem_nil, by simp [insertAfter, hg]⟩
    · obtain ⟨pre, post, rfl, hpre, hins⟩ := ih ((List.mem_cons.mp h).resolve_left (Ne.symm hg))
      refine ⟨g :: pre, post, rfl, ?_, ?_⟩
      · simp [hpre, Ne.symm hg]
      · simp [insertAfter, hg, hins]

theorem insertAfter_of_notMem (h : after ∉ order) : insertAfter id after order = order ++ [id] := by
  induction order with
  | nil => rfl
  | cons g order ih =>
    rw [List.mem_cons, not_or] at h
    simp [insertAfter, Ne.symm h.1, ih h.2]

end

/-- `UpdateStateScoped`. -/
def Registry.updateStateScoped (r : Registry V) (scope : GateScope) (state : GateState V) :
    Registry V :=
  { r with states := fun s => if s = scope then some state else r.states s }

/-- The cached state a gate is evaluated on: that of the strategy and timeframe, of the strategy,
or the global one. -/
def Registry.resolveState (r : Registry V) (input : GateInput) (id : GateID) :
    Option (GateState V) :=
  match r.states ⟨id, some input.strategyID, input.timeframe⟩ with
  | some s => some s
  | none =>
    match (if input.timeframe.isSome then r.states ⟨id, some input.strategyID, none⟩ else none) with
    | some s => some s
    | none => r.states ⟨id, none, none⟩

/-- The cached state is past its validity. -/
def GateState.isStale (s : GateState V) (now : Time) : Bool :=
  match s.validUntil with
  | none => false
  | some t => decide (t < now)

/-- The gates that must have a fresh state. -/
def isRiskCritical (id : GateID) : Bool := id == .exposure || id == .margin

/-! ## Evaluation -/

/-- What `EvaluateAll` has gathered so far, and at the end what it returns. -/
structure Evaluations where
  allPass : Bool := true
  evaluations : List GateEvaluation := []
  firstVeto : Option GateEvaluation := none
  deriving DecidableEq, Repr

/-- Record a check and leave the verdict as it is. -/
def Evaluations.note (acc : Evaluations) (ev : GateEvaluation) : Evaluations :=
  { acc with evaluations := acc.evaluations ++ [ev] }

/-- Record a check that is not a pass. -/
def Evaluations.degrade (acc : Evaluations) (ev : GateEvaluation) : Evaluations :=
  { acc.note ev with allPass := false }

/-- Record a check that fails closed; the first one is the veto. -/
def Evaluations.close (acc : Evaluations) (ev : GateEvaluation) : Evaluations :=
  { acc.degrade ev with firstVeto := acc.firstVeto.or (some ev) }

/-- The record of a gate that is not registered. -/
def notRegistered (id : GateID) (now : Time) : GateEvaluation :=
  { gateID := id, result := .unknown, reasonCodes := ["GATE_NOT_REGISTERED"],
    evaluatedAt := some now }

/-- The record of a gate without a cached state. -/
def notInitialized (id : GateID) (now : Time) : GateEvaluation :=
  { gateID := id, result := .unknown, reasonCodes := ["GATE_NOT_INITIALIZED"],
    evaluatedAt := some now }

/-- The record of a stale state, whose age is its freshness. -/
def stateStale (id : GateID) (result : GateResult) (s : GateState V) (now : Time) :
    GateEvaluation :=
  { gateID := id, result := result, reasonCodes := ["GATE_STATE_STALE"],
    evaluatedAt := some now, freshnessMs := now - s.evaluatedAt }

/-- The loop of `EvaluateAll` over the gates still to be visited, each with its position; `clock`
is the time at which the gate of a position is visited. -/
def Registry.evaluateFrom (r : Registry V) (input : GateInput) (clock : ℕ → Time) :
    List (GateID × ℕ) → Evaluations → Evaluations
  | [], acc => acc
  | (id, n) :: rest, acc =>
    match r.gates id with
    | none => r.evaluateFrom input clock rest (acc.close (notRegistered id (clock n)))
    | some gate =>
      match r.resolveState input id with
      | none => r.evaluateFrom input clock rest (acc.close (notInitialized id (clock n)))
      | some state =>
        if state.isStale (clock n) && isRiskCritical id then
          r.evaluateFrom input clock rest (acc.close (stateStale id .veto state (clock n)))
        else
          -- A stale state is recorded as degraded, but `allPass` is left alone.
          let acc := if state.isStale (clock n) then
              acc.note (stateStale id .degraded state (clock n)) else acc
          let eval := gate.evaluate input state
          match eval.result with
          | .veto | .unknown => acc.close eval
          | .degraded => r.evaluateFrom input clock rest (acc.degrade eval)
          | .pass => r.evaluateFrom input clock rest (acc.note eval)

/-- `EvaluateAll`. -/
def Registry.evaluateAll (r : Registry V) (input : GateInput) (clock : ℕ → Time) : Evaluations :=
  r.evaluateFrom input clock r.order.zipIdx {}

/-! ## What one gate does -/

/-- What a gate that does not stop the candidate adds to the record: the mark of a stale state, if
it is stale, and the gate's own evaluation. `none` when the gate fails closed. -/
def Registry.passage (r : Registry V) (input : GateInput) (clock : ℕ → Time) (g : GateID × ℕ) :
    Option (List GateEvaluation × GateEvaluation) :=
  match r.gates g.1, r.resolveState input g.1 with
  | some gate, some state =>
    let stale := state.isStale (clock g.2)
    let eval := gate.evaluate input state
    if (stale && isRiskCritical g.1) || eval.result == .veto || eval.result == .unknown then none
    else some (if stale then [stateStale g.1 .degraded state (clock g.2)] else [], eval)
  | _, _ => none

/-- The gate lets the candidate by: it is registered, has a state that is not both stale and
risk-critical, and evaluates to PASS or DEGRADED. -/
def Registry.LetsBy (r : Registry V) (input : GateInput) (clock : ℕ → Time) (g : GateID × ℕ) :
    Prop :=
  ∃ gate state, r.gates g.1 = some gate ∧ r.resolveState input g.1 = some state ∧
    ¬ (state.isStale (clock g.2) = true ∧ isRiskCritical g.1 = true) ∧
    ((gate.evaluate input state).result = .pass ∨ (gate.evaluate input state).result = .degraded)

/-- The gate evaluates to PASS. -/
def Registry.evaluatesPass (r : Registry V) (input : GateInput) (g : GateID × ℕ) : Bool :=
  match r.gates g.1, r.resolveState input g.1 with
  | some gate, some state => decide ((gate.evaluate input state).result = .pass)
  | _, _ => false

/-- The state the gate is evaluated on is fresh. -/
def Registry.isFresh (r : Registry V) (input : GateInput) (clock : ℕ → Time) (g : GateID × ℕ) :
    Bool :=
  match r.resolveState input g.1 with
  | some state => !state.isStale (clock g.2)
  | none => false

/-- The checks a gate leaves on the record. -/
def Registry.added (r : Registry V) (input : GateInput) (clock : ℕ → Time) (g : GateID × ℕ) :
    List GateEvaluation :=
  match r.passage input clock g with
  | some (marks, ev) => marks ++ [ev]
  | none => []

/-- A walk that can no longer pass. -/
def Evaluations.Failed (acc : Evaluations) : Prop :=
  acc.allPass = false ∧ acc.firstVeto.isSome = true

section
variable {r : Registry V} {input : GateInput} {clock : ℕ → Time} {acc : Evaluations}
variable {g : GateID × ℕ} {gs rest : List (GateID × ℕ)} {ev : GateEvaluation}

theorem Evaluations.close_failed (acc : Evaluations) (ev : GateEvaluation) :
    (acc.close ev).Failed := by
  refine ⟨rfl, ?_⟩
  cases h : acc.firstVeto <;> simp [Evaluations.close, h]

/-- When a gate lets the candidate by. -/
theorem Registry.passage_isSome_iff : (r.passage input clock g).isSome ↔ r.LetsBy input clock g := by
  unfold Registry.passage Registry.LetsBy
  cases hg : r.gates g.1 with
  | none => simp
  | some gate =>
    cases hs : r.resolveState input g.1 with
    | none => simp
    | some state =>
      cases hr : (gate.evaluate input state).result <;>
        cases hc : isRiskCritical g.1 <;> cases ht : state.isStale (clock g.2) <;> simp [hr, ht]

/-- A gate that lets the candidate by leaves its marks and its evaluation, and spoils the verdict
exactly when it evaluates to DEGRADED. -/
theorem Registry.evaluateFrom_of_passage {marks : List GateEvaluation}
    (h : r.passage input clock g = some (marks, ev)) :
    r.evaluateFrom input clock (g :: rest) acc = r.evaluateFrom input clock rest
      { allPass := acc.allPass && decide (ev.result = .pass),
        evaluations := acc.evaluations ++ (marks ++ [ev]), firstVeto := acc.firstVeto } := by
  obtain ⟨id, n⟩ := g
  unfold Registry.passage at h
  cases hg : r.gates id with
  | none => simp [hg] at h
  | some gate =>
    cases hs : r.resolveState input id with
    | none => simp [hg, hs] at h
    | some state =>
      simp only [hg, hs] at h
      split at h
      · exact absurd h (by simp)
      · rename_i hopen
        obtain ⟨rfl, rfl⟩ : _ = marks ∧ gate.evaluate input state = ev := by simpa using h
        simp only [Bool.or_eq_true, beq_iff_eq, not_or, Bool.not_eq_true] at hopen
        obtain ⟨⟨hcrit, hveto⟩, hunk⟩ := hopen
        simp only [Registry.evaluateFrom, hg, hs, hcrit, Bool.false_eq_true, if_false]
        cases ht : state.isStale (clock n) <;>
          cases hr : (gate.evaluate input state).result <;>
            simp_all [Evaluations.note, Evaluations.degrade]

/-- Of the two things a gate can leave, its evaluation is PASS exactly when it evaluates to PASS,
and there is a mark, which is never a PASS, exactly when its state is stale. -/
theorem Registry.passage_spec {marks : List GateEvaluation}
    (h : r.passage input clock g = some (marks, ev)) :
    r.evaluatesPass input g = decide (ev.result = .pass) ∧
      ((∀ m ∈ marks, m.result = .pass) ↔ r.isFresh input clock g = true) := by
  unfold Registry.passage at h
  cases hg : r.gates g.1 with
  | none => simp [hg] at h
  | some gate =>
    cases hs : r.resolveState input g.1 with
    | none => simp [hg, hs] at h
    | some state =>
      simp only [hg, hs] at h
      split at h
      · exact absurd h (by simp)
      · obtain ⟨rfl, rfl⟩ : _ = marks ∧ gate.evaluate input state = ev := by simpa using h
        refine ⟨by simp only [Registry.evaluatesPass, hg, hs], ?_⟩
        cases ht : state.isStale (clock g.2) <;> simp [Registry.isFresh, hs, ht, stateStale]

/-- A gate that fails closed leaves the walk failed, whether or not it goes on. -/
theorem Registry.evaluateFrom_of_closed (h : r.passage input clock g = none)
    (rest : List (GateID × ℕ)) (acc : Evaluations) :
    ∃ acc' : Evaluations, acc'.Failed ∧
      (r.evaluateFrom input clock (g :: rest) acc = acc' ∨
        r.evaluateFrom input clock (g :: rest) acc = r.evaluateFrom input clock rest acc') := by
  obtain ⟨id, n⟩ := g
  unfold Registry.passage at h
  cases hg : r.gates id with
  | none =>
    exact ⟨_, acc.close_failed (notRegistered id (clock n)), Or.inr (by
      simp only [Registry.evaluateFrom, hg])⟩
  | some gate =>
    cases hs : r.resolveState input id with
    | none =>
      exact ⟨_, acc.close_failed (notInitialized id (clock n)), Or.inr (by
        simp only [Registry.evaluateFrom, hg, hs])⟩
    | some state =>
      simp only [hg, hs] at h
      split at h
      · rename_i hclosed
        cases hcrit : state.isStale (clock n) && isRiskCritical id with
        | true =>
          exact ⟨_, acc.close_failed (stateStale id .veto state (clock n)), Or.inr (by
            simp only [Registry.evaluateFrom, hg, hs, hcrit, if_true])⟩
        | false =>
          have hres : (gate.evaluate input state).result = .veto ∨
              (gate.evaluate input state).result = .unknown := by
            simpa [hcrit] using hclosed
          refine ⟨_, Evaluations.close_failed (if state.isStale (clock n) then
            acc.note (stateStale id .degraded state (clock n)) else acc)
            (gate.evaluate input state), Or.inl ?_⟩
          rcases hres with hres | hres <;>
            simp only [Registry.evaluateFrom, hg, hs, hcrit, hres, Bool.false_eq_true, if_false]
      · exact absurd h (by simp)

/-! ## What a walk amounts to -/

/-- A failed walk stays failed. -/
theorem Registry.evaluateFrom_failed (h : acc.Failed) :
    (r.evaluateFrom input clock gs acc).Failed := by
  induction gs generalizing acc with
  | nil => exact h
  | cons g rest ih =>
    cases hp : r.passage input clock g with
    | none =>
      obtain ⟨acc', hf, he | he⟩ := Registry.evaluateFrom_of_closed hp rest acc
      · rw [he]; exact hf
      · rw [he]; exact ih hf
    | some p =>
      rw [Registry.evaluateFrom_of_passage hp]
      exact ih ⟨by simp [h.1], h.2⟩

/-- One gate that fails closed anywhere in the order fails the walk. -/
theorem Registry.evaluateFrom_of_mem_closed (hg : g ∈ gs) (h : ¬ r.LetsBy input clock g) :
    (r.evaluateFrom input clock gs acc).Failed := by
  induction gs generalizing acc with
  | nil => exact absurd hg (by simp)
  | cons g' rest ih =>
    cases hp : r.passage input clock g' with
    | none =>
      obtain ⟨acc', hf, he | he⟩ := Registry.evaluateFrom_of_closed hp rest acc
      · rw [he]; exact hf
      · rw [he]; exact Registry.evaluateFrom_failed hf
    | some p =>
      rw [Registry.evaluateFrom_of_passage hp]
      rcases List.mem_cons.mp hg with rfl | hg
      · exact absurd (Registry.passage_isSome_iff.mp (by simp [hp])) h
      · exact ih hg

/-- When every gate lets the candidate by, the record is what each adds, in order, and the verdict
is that each evaluates to PASS. A stale mark plays no part in it. -/
theorem Registry.evaluateFrom_of_letsBy (h : ∀ g ∈ gs, r.LetsBy input clock g) :
    r.evaluateFrom input clock gs acc =
      { allPass := acc.allPass && gs.all (r.evaluatesPass input),
        evaluations := acc.evaluations ++ gs.flatMap (r.added input clock),
        firstVeto := acc.firstVeto } := by
  induction gs generalizing acc with
  | nil => simp [Registry.evaluateFrom]
  | cons g rest ih =>
    obtain ⟨⟨marks, ev⟩, hp⟩ :=
      Option.isSome_iff_exists.mp (Registry.passage_isSome_iff.mpr (h g (by simp)))
    rw [Registry.evaluateFrom_of_passage hp, ih fun g hg => h g (List.mem_cons_of_mem _ hg)]
    have hadd : r.added input clock g = marks ++ [ev] := by simp only [Registry.added, hp]
    simp only [List.all_cons, List.flatMap_cons, (Registry.passage_spec hp).1, hadd,
      Bool.and_assoc, List.append_assoc]

/-- Everything a gate that lets the candidate by adds is a PASS exactly when its state is fresh
and it evaluates to PASS. -/
theorem Registry.added_pass_iff (h : r.LetsBy input clock g) :
    (∀ ev ∈ r.added input clock g, ev.result = .pass) ↔
      r.isFresh input clock g = true ∧ r.evaluatesPass input g = true := by
  obtain ⟨⟨marks, ev⟩, hp⟩ := Option.isSome_iff_exists.mp (Registry.passage_isSome_iff.mpr h)
  obtain ⟨hpass, hfresh⟩ := Registry.passage_spec hp
  simp only [Registry.added, hp, List.forall_mem_append, List.mem_singleton, forall_eq, hfresh,
    hpass, decide_eq_true_eq]

end

/-- Every gate is evaluated on a fresh state and passes. -/
def Registry.AllFreshPass (r : Registry V) (input : GateInput) (clock : ℕ → Time) : Prop :=
  ∀ g ∈ r.order.zipIdx, r.isFresh input clock g = true ∧ r.evaluatesPass input g = true

/-- Every gate lets the candidate by. -/
def Registry.AllLetBy (r : Registry V) (input : GateInput) (clock : ℕ → Time) : Prop :=
  ∀ g ∈ r.order.zipIdx, r.LetsBy input clock g

section
variable {r : Registry V} {input : GateInput} {clock : ℕ → Time}

/-- A vetoed walk does not pass. -/
theorem Registry.allPass_of_veto (h : ¬ r.AllLetBy input clock) :
    (r.evaluateAll input clock).Failed := by
  obtain ⟨g, hg, hclosed⟩ : ∃ g ∈ r.order.zipIdx, ¬ r.LetsBy input clock g := by
    simpa [Registry.AllLetBy] using h
  exact Registry.evaluateFrom_of_mem_closed hg hclosed

theorem Registry.evaluateAll_of_letBy (h : r.AllLetBy input clock) :
    r.evaluateAll input clock =
      { allPass := r.order.zipIdx.all (r.evaluatesPass input),
        evaluations := r.order.zipIdx.flatMap (r.added input clock), firstVeto := none } := by
  rw [Registry.evaluateAll, Registry.evaluateFrom_of_letsBy h]
  simp

/-- Once every gate lets the candidate by, the record holds only passes exactly when every state
was fresh and every gate passed. -/
theorem Registry.evaluations_pass_iff (h : r.AllLetBy input clock) :
    (∀ ev ∈ (r.evaluateAll input clock).evaluations, ev.result = .pass) ↔
      r.AllFreshPass input clock := by
  simp only [Registry.evaluateAll_of_letBy h, List.mem_flatMap, Registry.AllFreshPass]
  constructor
  · intro hall g hg
    exact (Registry.added_pass_iff (h g hg)).mp fun ev hev => hall ev ⟨g, hg, hev⟩
  · rintro hall ev ⟨g, hg, hev⟩
    exact (Registry.added_pass_iff (h g hg)).mpr (hall g hg) ev hev

end

end PredictATrade.Realtime
