import PredictATrade.Realtime.EntryGate
import PredictATrade.Realtime.GateWalk
import PredictATrade.Realtime.CapitalGates

/-!
# `Realtime.Profitability` — which tier decides delivery

`ProfitabilityGate` takes over the tier and the shadow mark a strategy has given, when the tier is
of delivery grade, and otherwise works a tier out from score and levels. `Decide` does not hand it
the score, so there is nothing to work it out from: the gate then passes without a tier and without
a shadow mark, and `Decide` delivers what has no tier. `contained_iff`: of the inputs that are marked
as shadows or carry a tier below delivery grade, those are contained that keep a delivery-grade tier
beside their mark, and those that something else stops.
-/

namespace PredictATrade.Realtime
open Strategy

variable {V : Type} {e : Engine V} {r : Registry V} {input : DecisionInput} {gi : GateInput}
variable {clock : ℕ → Time} {profile : GateProfile} {state : GateState V}

/-! ## The gate -/

/-- The class of a gate that is advice. -/
def classSoftAlpha : String := "SOFT_ALPHA"

/-- `isDeliveryGradeTier`. -/
def isDeliveryGradeTier (tier : String) : Bool := tier = "A_PLUS" || tier = "A" || tier = "B"

/-- `qualityTierForEV`, with the thresholds of the strategies' own tier. -/
def qualityTierForEV (evPerRisk score : Float64) : String := qualifiedTier evPerRisk score

/-- `qualityTierScore`. -/
def qualityTierScore (tier : String) : Float64 :=
  if tier = "A_PLUS" then 1
  else if tier = "A" then 7 / 10
  else if tier = "B" then 4 / 10
  else if tier = "C" then 1 / 10
  else if tier = "WATCH" then -(3 / 10)
  else if tier = "REJECT" then -1
  else 0

/-- The distance to the farthest target that is present. -/
def GateInput.bestWin (input : GateInput) : Float64 :=
  input.targets.foldl (fun best tp =>
    if tp = 0 then best
    else if best < |tp - input.entryPrice| then |tp - input.entryPrice| else best) 0

/-- A pass without a tier. -/
def untiered : GateEvaluation :=
  { gateID := .profitability, result := .pass, classification := classSoftAlpha }

/-- The tier that score and levels give; where they give none, the gate passes without one. -/
def independentTier (profile : GateProfile) (input : GateInput) : GateEvaluation :=
  if input.signalScore = 0 ∨ input.entryPrice = 0 ∨ input.stopLoss = 0 then untiered
  else if input.bestWin = 0 then untiered
  else
    let risk := |input.entryPrice - input.stopLoss| + input.roundTripCost
    let netWin := input.bestWin - input.roundTripCost
    if risk ≤ 0 then untiered
    else
      let sp := profile.strategy input.strategyID
      let wr := costAwareWinRate input.signalScore sp
      let evPerRisk := (wr * netWin - (1 - wr) * risk) / risk
      if evPerRisk ≤ -(25 / 100) then
        { untiered with
          result := .veto, reasonCodes := ["NEGATIVE_EXPECTANCY"], qualityTier := "REJECT" }
      else if netWin / risk < sp.minNetRR then
        { untiered with shadowExecutable := true, qualityTier := "WATCH", softScore := -(3 / 10) }
      else if evPerRisk ≤ -(10 / 100) then
        { untiered with shadowExecutable := true, qualityTier := "WATCH", softScore := -(1 / 10) }
      else
        let tier := qualityTierForEV evPerRisk input.signalScore
        { untiered with qualityTier := tier, softScore := qualityTierScore tier }

/-- `ProfitabilityGate.Evaluate`. -/
def profitabilityGate (profile : GateProfile) : Gate V where
  evaluate input _ :=
    if input.refinementProvided && input.isLossCandidate then
      { untiered with
        result := .veto, reasonCodes := ["NEGATIVE_EXPECTANCY"], qualityTier := "REJECT" }
    else if input.refinementProvided && isDeliveryGradeTier input.qualityTier then
      { untiered with
        qualityTier := input.qualityTier
        softScore := qualityTierScore input.qualityTier
        shadowExecutable := input.shadowExecutable }
    else independentTier profile input

/-- Without a score the gate has nothing to work a tier out from. -/
theorem independentTier_of_noScore (h : gi.signalScore = 0) :
    independentTier profile gi = untiered := by
  simp only [independentTier, h, true_or, if_true]

/-- What the gate says of a decision: it knows the strategy's own tier, or none. -/
theorem profitability_snapshot (input : DecisionInput) (hloss : input.isLossCandidate = false) :
    (profitabilityGate profile : Gate V).evaluate input.snapshot state =
      if isDeliveryGradeTier input.qualityTier then
        { untiered with
          qualityTier := input.qualityTier
          softScore := qualityTierScore input.qualityTier
          shadowExecutable := input.shadowExecutable }
      else untiered := by
  have hl : input.snapshot.isLossCandidate = false := by
    simp only [DecisionInput.snapshot, DecisionInput.gateInput, DecisionInput.rounded]
    split <;> exact hloss
  have ht : input.snapshot.qualityTier = input.qualityTier := by
    simp only [DecisionInput.snapshot, DecisionInput.gateInput, DecisionInput.rounded]
    split <;> rfl
  have hs : input.snapshot.shadowExecutable = input.shadowExecutable := by
    simp only [DecisionInput.snapshot, DecisionInput.gateInput, DecisionInput.rounded]
    split <;> rfl
  have href : input.snapshot.refinementProvided = true := rfl
  have hscore : input.snapshot.signalScore = 0 := rfl
  simp only [profitabilityGate, hl, ht, hs, href, Bool.and_false, Bool.true_and,
    Bool.false_eq_true, if_false, independentTier_of_noScore hscore]

/-! ## The tier a walk ends with -/

/-- Every registered gate puts its own id on its evaluations (`Gate.ID`). -/
def Registry.Stamped (r : Registry V) : Prop :=
  ∀ id gate, r.gates id = some gate → ∀ gi state, (gate.evaluate gi state).gateID = id

/-- Records of another gate do not say what the tier is. -/
theorem profitabilityTier_append_of_none {evs fs : List GateEvaluation}
    (h : ∀ ev ∈ fs, ev.gateID ≠ .profitability) :
    profitabilityTier (evs ++ fs) = profitabilityTier evs := by
  have hnil : fs.filter (·.gateID == .profitability) = [] := by
    rw [List.filter_eq_nil_iff]
    intro ev hev
    simpa using h ev hev
  simp only [profitabilityTier, List.filter_append, hnil, List.append_nil]

/-- The last record of the gate is what counts. -/
theorem profitabilityTier_append {evs fs : List GateEvaluation}
    (h : ∃ ev ∈ fs, ev.gateID = .profitability) :
    profitabilityTier (evs ++ fs) = profitabilityTier fs := by
  have hne : fs.filter (·.gateID == .profitability) ≠ [] := by
    obtain ⟨ev, hev, hid⟩ := h
    exact List.ne_nil_of_mem (List.mem_filter.mpr ⟨hev, by simpa using hid⟩)
  simp only [profitabilityTier, List.filter_append, List.getLast?_append_of_ne_nil _ hne]

/-- A gate that lets the candidate by leaves records of its own, the last of them its evaluation. -/
theorem added_stamped (hst : r.Stamped) {g : GateID × ℕ} (h : r.LetsBy gi clock g) :
    ∃ gate state marks, r.gates g.1 = some gate ∧
      r.added gi clock g = marks ++ [gate.evaluate gi state] ∧
      ∀ ev ∈ r.added gi clock g, ev.gateID = g.1 := by
  obtain ⟨gate, state, hg, hs, hfresh, hres⟩ := h
  have hopen : (state.isStale (clock g.2) && isRiskCritical g.1) = false := by
    rw [Bool.eq_false_iff]
    exact fun hb => hfresh (by simpa using hb)
  have hadd : r.added gi clock g = (if state.isStale (clock g.2) then
      [stateStale g.1 .degraded state (clock g.2)] else []) ++ [gate.evaluate gi state] := by
    rcases hres with hres | hres <;> simp [Registry.added, Registry.passage, hg, hs, hopen, hres]
  refine ⟨gate, state, _, hg, hadd, fun ev hev => ?_⟩
  rw [hadd, List.mem_append, List.mem_singleton] at hev
  rcases hev with hev | rfl
  · split at hev
    · obtain rfl := List.mem_singleton.mp hev
      rfl
    · cases hev
  · exact hst g.1 gate hg gi state

/-- **The gate's own word.** Where the gates stamp their evaluations and all let the candidate by,
the tier and the mark that decide delivery are those of the profitability gate. -/
theorem profitabilityTier_added (hst : r.Stamped)
    (hg : r.gates .profitability = some (profitabilityGate profile)) (gs : List (GateID × ℕ))
    (hlet : ∀ g ∈ gs, r.LetsBy gi clock g) (hmem : ∃ g ∈ gs, g.1 = .profitability) :
    ∃ state, profitabilityTier (gs.flatMap (r.added gi clock)) =
      (((profitabilityGate profile : Gate V).evaluate gi state).qualityTier,
        ((profitabilityGate profile : Gate V).evaluate gi state).shadowExecutable) := by
  induction gs with
  | nil => obtain ⟨g, hg, -⟩ := hmem; cases hg
  | cons g gs ih =>
    have hletg := hlet g List.mem_cons_self
    have hletgs : ∀ g ∈ gs, r.LetsBy gi clock g := fun g' h => hlet g' (List.mem_cons_of_mem g h)
    rw [List.flatMap_cons]
    by_cases hlater : ∃ g ∈ gs, g.1 = .profitability
    · -- a later visit has the last word
      obtain ⟨state, hstate⟩ := ih hletgs hlater
      refine ⟨state, ?_⟩
      rw [← hstate]
      apply profitabilityTier_append
      obtain ⟨g', hg', hid⟩ := hlater
      obtain ⟨gate, st, marks, -, hadd, hids⟩ := added_stamped hst (hletgs g' hg')
      have hev : gate.evaluate gi st ∈ r.added gi clock g' := by rw [hadd]; simp
      exact ⟨_, List.mem_flatMap.mpr ⟨g', hg', hev⟩, (hids _ hev).trans hid⟩
    · have hid : g.1 = .profitability := by
        obtain ⟨g', hg', hid⟩ := hmem
        rcases List.mem_cons.mp hg' with rfl | hg'
        · exact hid
        · exact absurd ⟨g', hg', hid⟩ hlater
      obtain ⟨gate, st, marks, hgate, hadd, hids⟩ := added_stamped hst hletg
      rw [hid, hg] at hgate
      obtain rfl := Option.some.inj hgate
      refine ⟨st, ?_⟩
      rw [profitabilityTier_append_of_none, hadd]
      · have hown : ((profitabilityGate profile : Gate V).evaluate gi st).gateID =
            .profitability := hst _ _ hg gi st
        simp [profitabilityTier, List.filter_append, hown]
      · intro ev hev hev'
        obtain ⟨g', hg', hin⟩ := List.mem_flatMap.mp hev
        obtain ⟨_, _, _, -, -, hids'⟩ := added_stamped hst (hletgs g' hg')
        exact hlater ⟨g', hg', (hids' ev hin).symm.trans hev'⟩

/-! ## Containment -/

/-- The input is marked as a shadow, or its tier is below delivery grade. -/
def DecisionInput.Shadowed (input : DecisionInput) : Prop :=
  input.shadowExecutable = true ∨ input.qualityTier = "WATCH" ∨ input.qualityTier = "C" ∨
    input.qualityTier = "REJECT"

/-- The decision on the input is not executable. -/
def Contained (e : Engine V) (input : DecisionInput) (clock : ℕ → Time) : Prop :=
  ∀ d s, e.decide input clock = some d → d.signal = some s → s.executable = false

/-- Nothing stops the input short of the branch that emits: the market is open, the direction is one
that the gates are run on, no gate fails closed, for a full direction each evaluates to PASS, and
the stop is not at the entry. -/
structure Unstopped (e : Engine V) (input : DecisionInput) (clock : ℕ → Time) : Prop where
  isOpen : input.marketClosed = false
  directional : input.direction.isDirectional = true
  letBy : e.gateRegistry.AllLetBy input.snapshot clock
  passes : input.direction.isCandidate = true ∨
    ∀ g ∈ e.gateRegistry.order.zipIdx, e.gateRegistry.evaluatesPass input.snapshot g = true
  risk : input.rounded.stopLoss = 0 ∨ input.rounded.entryPrice ≠ input.rounded.stopLoss

theorem Unstopped.of_delivers (h : Delivers e input clock) : Unstopped e input clock :=
  ⟨h.isOpen, h.directional, h.letBy, h.passes, h.risk⟩

/-- The gate vetoes what the strategy calls a loss candidate. -/
theorem isLossCandidate_of_letBy
    (hp : e.gateRegistry.Runs .profitability (profitabilityGate profile))
    (hlet : e.gateRegistry.AllLetBy input.snapshot clock) : input.isLossCandidate = false := by
  obtain ⟨state, hres⟩ := hp.letsBy hlet
  cases hl : input.isLossCandidate with
  | false => rfl
  | true =>
    have hsnap : input.snapshot.isLossCandidate = true := by
      simp only [DecisionInput.snapshot, DecisionInput.gateInput, DecisionInput.rounded]
      split <;> exact hl
    have href : input.snapshot.refinementProvided = true := rfl
    simp [profitabilityGate, hsnap, href] at hres

/-- On an input that nothing stops, delivery is up to the strategy's tier and mark. -/
theorem deliverable_iff (hp : e.gateRegistry.Runs .profitability (profitabilityGate profile))
    (hst : e.gateRegistry.Stamped) (h : Unstopped e input clock) :
    deliverable (e.gateRegistry.order.zipIdx.flatMap
        (e.gateRegistry.added input.snapshot clock)) = true ↔
      (isDeliveryGradeTier input.qualityTier = true → input.shadowExecutable = false) := by
  have hmem : ∃ g ∈ e.gateRegistry.order.zipIdx, g.1 = .profitability := by
    obtain ⟨n, hn, hid⟩ := List.getElem_of_mem hp.ordered
    exact ⟨(.profitability, n), by rw [List.mem_zipIdx_iff_getElem?]; simp [hn, hid], rfl⟩
  obtain ⟨state, htier⟩ := profitabilityTier_added hst hp.registered _ h.letBy hmem
  unfold deliverable
  rw [htier, profitability_snapshot input (isLossCandidate_of_letBy hp h.letBy)]
  cases hgrade : isDeliveryGradeTier input.qualityTier with
  | false => simp [untiered, isDeliveryGrade]
  | true =>
    have hd : isDeliveryGrade input.qualityTier = true := by
      simp only [isDeliveryGradeTier, isDeliveryGrade, Bool.or_eq_true] at hgrade ⊢
      exact Or.inl hgrade
    simp [hd]

/-- **When shadows are contained.** With the profitability gate registered and ordered, whatever the
other gates and the states: a shadowed input never becomes executable exactly when its tier is of
delivery grade all the same, so that its mark is read, or when something stops it short of the
branch that emits. -/
theorem contained_iff (hp : e.gateRegistry.Runs .profitability (profitabilityGate profile))
    (hst : e.gateRegistry.Stamped) (input : DecisionInput) (clock : ℕ → Time)
    (h : input.Shadowed) :
    Contained e input clock ↔
      (isDeliveryGradeTier input.qualityTier = true ∨ ¬ Unstopped e input clock) := by
  constructor
  · intro hc
    by_contra hnot
    obtain ⟨hgrade, hun⟩ := not_or.mp hnot
    have hun := not_not.mp hun
    have hdel : Delivers e input clock :=
      ⟨hun.isOpen, hun.directional, hun.letBy, hun.passes,
        (deliverable_iff hp hst hun).mpr fun hg => absurd hg hgrade, hun.risk⟩
    obtain ⟨d, s, hd, hs, hx⟩ := hdel.executable
    have hcs := hc d s hd hs
    rw [hx] at hcs
    cases hcs
  · intro hcond d s hd hs
    by_contra hx
    have hx : s.executable = true := by simpa using hx
    obtain ⟨hdel, -, -⟩ := Delivers.of_executable hd hs hx
    have hun := Unstopped.of_delivers hdel
    have hgrade : isDeliveryGradeTier input.qualityTier = true :=
      hcond.resolve_right (not_not.mpr hun)
    have hmark := (deliverable_iff hp hst hun).mp hdel.tier hgrade
    -- of the shadowed inputs, only the marked ones have a delivery-grade tier
    rcases h with hs | ht | ht | ht
    · rw [hmark] at hs; cases hs
    · rw [ht] at hgrade; exact absurd hgrade (by decide)
    · rw [ht] at hgrade; exact absurd hgrade (by decide)
    · rw [ht] at hgrade; exact absurd hgrade (by decide)

/-- The canonical gates passing, with the profitability gate among them. -/
def tieredEngine : Engine Unit :=
  { gateRegistry := (steadyRegistry (fun _ => .pass) fun _ => none).register .profitability
      (profitabilityGate ⟨fun _ => ⟨52 / 100, 8 / 10, 35 / 100, 50, 0⟩, 2⟩)
    gatePolicyVersion := "BALANCED" }

/-- The gate of the engine runs. -/
theorem tieredEngine_runs : tieredEngine.gateRegistry.Runs .profitability
    (profitabilityGate ⟨fun _ => ⟨52 / 100, 8 / 10, 35 / 100, 50, 0⟩, 2⟩) := ⟨rfl, by decide⟩

theorem tieredEngine_stamped : tieredEngine.gateRegistry.Stamped := by
  intro id gate hg gi state
  by_cases hid : id = .profitability
  · subst hid
    obtain rfl := Option.some.inj hg
    simp only [profitabilityGate, independentTier]
    split_ifs <;> rfl
  · have hgate : tieredEngine.gateRegistry.gates id =
        some { evaluate := fun _ _ => { gateID := id, result := .pass } } := if_neg hid
    rw [hgate] at hg
    obtain rfl := Option.some.inj hg
    rfl

/-- The swing trade as a strategy leaves it that has no evidence: on watch, and marked. -/
def watchedInput (tier : String) : DecisionInput :=
  { swingInput .buyCandidate with qualityTier := tier, shadowExecutable := true }

/-- **A shadow that is executed.** On watch and marked as a shadow, the trade is executable. -/
theorem watched_is_executed : ¬ Contained tieredEngine (watchedInput "WATCH") (fun _ => 1000) := by
  have hx : ((tieredEngine.decide (watchedInput "WATCH") fun _ => 1000).bind (·.signal)).map
      (·.executable) = some true := by decide +kernel
  intro h
  obtain ⟨s, hs, hx⟩ := Option.map_eq_some_iff.mp hx
  obtain ⟨d, hd, hds⟩ := Option.bind_eq_some_iff.mp hs
  have hfalse := h d s hd hds
  rw [hx] at hfalse
  cases hfalse

/-- With the tier B beside its mark the same trade is contained. -/
theorem gradedShadow_is_contained : Contained tieredEngine (watchedInput "B") (fun _ => 1000) :=
  (contained_iff tieredEngine_runs tieredEngine_stamped (watchedInput "B") _ (Or.inl rfl)).mpr
    (Or.inl (by decide))

end PredictATrade.Realtime
