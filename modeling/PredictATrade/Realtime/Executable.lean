import PredictATrade.Realtime.Engine

/-!
# `Realtime.Executable` — what stands behind an executable signal

A signal that the terminals may execute should have passed every gate. Two things let one through
that did not. A candidate falls through the branch for DEGRADED gates into the one that emits
executable signals; and a stale state is recorded as DEGRADED without spoiling the verdict, so that
full directions get through as well.

`executable_passed_iff`: the engine delivers only on passes exactly when the input is not one that
it delivers (`Delivers`), or every gate is evaluated on a fresh state and passes (`AllFreshPass`).
-/

namespace PredictATrade.Realtime

variable {V : Type} {e : Engine V} {input : DecisionInput} {clock : ℕ → Time}
variable {d : DecisionResult} {s : Signal} {ev : Evaluations}

/-- An executable signal has only passes on its record. -/
def ExecutablePassed (e : Engine V) (input : DecisionInput) (clock : ℕ → Time) : Prop :=
  ∀ d s, e.decide input clock = some d → d.signal = some s → s.executable = true →
    d.allGatesPass = true ∧ ∀ ge ∈ d.gateResults, ge.result = .pass

instance : Decidable (ExecutablePassed e input clock) :=
  decidable_of_iff ((e.decide input clock).all (fun d => d.signal.all fun s =>
      !s.executable || (d.allGatesPass && d.gateResults.all (·.result == .pass))) = true) (by
    simp only [ExecutablePassed, Option.all_eq_true, Bool.or_eq_true, Bool.not_eq_true',
      Bool.and_eq_true, List.all_eq_true, beq_iff_eq]
    constructor
    · intro h d s hd hs hx
      exact (h d hd s hs).resolve_left (by simp [hx])
    · intro h d hd s hs
      cases hx : s.executable with
      | false => exact Or.inl rfl
      | true => exact Or.inr (h d s hd hs hx))

/-- The gates are given the input with its prices rounded. -/
def DecisionInput.snapshot (input : DecisionInput) : GateInput := input.rounded.gateInput

/-- What makes the engine emit an executable signal: the market is open and the direction is one
that the gates are run on; no gate fails closed, and for a full direction each evaluates to PASS;
the tier is of delivery grade and not shadowed; and the stop is not at the entry. -/
structure Delivers (e : Engine V) (input : DecisionInput) (clock : ℕ → Time) : Prop where
  isOpen : input.marketClosed = false
  directional : input.direction.isDirectional = true
  letBy : e.gateRegistry.AllLetBy input.snapshot clock
  passes : input.direction.isCandidate = true ∨
    ∀ g ∈ e.gateRegistry.order.zipIdx, e.gateRegistry.evaluatesPass input.snapshot g = true
  tier : deliverable
    (e.gateRegistry.order.zipIdx.flatMap (e.gateRegistry.added input.snapshot clock)) = true
  risk : input.rounded.stopLoss = 0 ∨ input.rounded.entryPrice ≠ input.rounded.stopLoss

/-! ## Rounding -/

@[simp] theorem rounded_direction (input : DecisionInput) :
    input.rounded.direction = input.direction := by
  simp only [DecisionInput.rounded]; split <;> rfl

/-! ## The branches -/

/-- When there is a ratio to compute. -/
theorem grossRR1_isSome_iff (input : DecisionInput) :
    input.grossRR1.isSome ↔ input.stopLoss = 0 ∨ input.entryPrice ≠ input.stopLoss := by
  unfold DecisionInput.grossRR1 Decimal.div
  by_cases h0 : input.stopLoss = 0
  · simp [h0]
  · by_cases hr : input.entryPrice = input.stopLoss
    · simp [h0, hr]
    · have hne : input.entryPrice - input.stopLoss ≠ 0 := sub_ne_zero.mpr hr
      simp [h0, hr, hne]

/-- The emitted signal is executable exactly when its tier is deliverable. -/
theorem emit_spec (h : e.emit input ev = some d) (hs : d.signal = some s) :
    s.executable = deliverable ev.evaluations ∧ d.allGatesPass = ev.allPass ∧
      d.gateResults = ev.evaluations := by
  obtain ⟨rr, -, rfl⟩ := Option.map_eq_some_iff.mp h
  obtain rfl := Option.some.inj hs
  exact ⟨rfl, rfl, rfl⟩

theorem emit_direction (h : e.emit input ev = some d) (hs : d.signal = some s) :
    s.direction = input.direction := by
  obtain ⟨rr, -, rfl⟩ := Option.map_eq_some_iff.mp h
  obtain rfl := Option.some.inj hs
  rfl

/-- When a signal is emitted. -/
theorem emit_isSome_iff : (∃ d s, e.emit input ev = some d ∧ d.signal = some s) ↔
    input.stopLoss = 0 ∨ input.entryPrice ≠ input.stopLoss := by
  rw [← grossRR1_isSome_iff]
  cases h : input.grossRR1 with
  | none => simp [Engine.emit, h]
  | some rr => simp [Engine.emit, h, Engine.delivered]

/-- Only the emitting branch makes a signal executable: the market is open, the direction is one
that the gates are run on, and nothing vetoed or, for a full direction, was DEGRADED. -/
theorem decide_executable (h : e.decide input clock = some d) (hs : d.signal = some s)
    (hx : s.executable = true) :
    input.marketClosed = false ∧ input.direction.isDirectional = true ∧
      ((e.gateRegistry.evaluateAll input.snapshot clock).allPass = true ∨
        ((e.gateRegistry.evaluateAll input.snapshot clock).firstVeto = none ∧
          input.direction.isCandidate = true)) ∧
      e.emit input.rounded (e.gateRegistry.evaluateAll input.snapshot clock) = some d := by
  unfold Engine.decide at h
  simp only [rounded_direction] at h
  split at h
  · obtain rfl : input.closedMarket = d := by simpa using h
    obtain rfl : _ = s := by simpa [DecisionInput.closedMarket] using hs
    exact absurd hx (by simp)
  · rename_i hopen
    split at h
    · obtain rfl : input.rounded.nonDirectional = d := by simpa using h
      obtain rfl : _ = s := by simpa [DecisionInput.nonDirectional] using hs
      exact absurd hx (by simp [DecisionInput.draft, Signal.withRefinement])
    · rename_i hdir
      refine ⟨by simpa using hopen, by simpa using hdir, ?_⟩
      split at h
      · rename_i hpass
        split at h
        · obtain rfl := Option.some.inj h
          obtain rfl : _ = s := by simpa [DecisionInput.gateBlocked] using hs
          exact absurd hx (by simp)
        · rename_i hveto
          split at h
          · obtain rfl := Option.some.inj h
            obtain rfl : _ = s := by simpa [DecisionInput.gateBlocked] using hs
            exact absurd hx (by simp)
          · rename_i hcand
            exact ⟨Or.inr ⟨hveto, by simpa using hcand⟩, h⟩
      · rename_i hpass
        exact ⟨Or.inl (by simpa [DecisionInput.snapshot] using hpass), h⟩

/-- The emitting branch is reached when nothing vetoed and, for a full direction, all passed. -/
theorem decide_of_emit (hopen : input.marketClosed = false)
    (hdir : input.direction.isDirectional = true)
    (hveto : (e.gateRegistry.evaluateAll input.snapshot clock).firstVeto = none)
    (hpass : input.direction.isCandidate = true ∨
      (e.gateRegistry.evaluateAll input.snapshot clock).allPass = true) :
    e.decide input clock =
      e.emit input.rounded (e.gateRegistry.evaluateAll input.snapshot clock) := by
  have hv : (e.gateRegistry.evaluateAll input.rounded.gateInput clock).firstVeto = none := hveto
  simp only [Engine.decide, hopen, rounded_direction, hdir, hv, Bool.false_eq_true, if_false,
    Bool.not_true]
  rcases hpass with hc | hp
  · simp only [hc, Bool.not_true, Bool.false_eq_true, if_false, ite_self]
    rfl
  · simp only [show (e.gateRegistry.evaluateAll input.rounded.gateInput clock).allPass = true from hp,
      Bool.not_true, Bool.false_eq_true, if_false]
    rfl

/-! ## Delivery -/

/-- A decision with an executable signal is one the engine delivers, and carries the record of a
walk in which every gate let the candidate by. -/
theorem Delivers.of_executable (h : e.decide input clock = some d) (hs : d.signal = some s)
    (hx : s.executable = true) :
    Delivers e input clock ∧
      d.allGatesPass = (e.gateRegistry.evaluateAll input.snapshot clock).allPass ∧
      d.gateResults = (e.gateRegistry.evaluateAll input.snapshot clock).evaluations := by
  obtain ⟨hopen, hdir, hpass, hemit⟩ := decide_executable h hs hx
  obtain ⟨hexec, hall, hres⟩ := emit_spec hemit hs
  have hlet : e.gateRegistry.AllLetBy input.snapshot clock := by
    by_contra hclosed
    obtain ⟨hfail, hveto⟩ := Registry.allPass_of_veto hclosed
    rcases hpass with hpass | ⟨hnone, -⟩
    · exact absurd hpass (by simp [hfail])
    · exact absurd hveto (by simp [hnone])
  have hev := Registry.evaluateAll_of_letBy hlet
  refine ⟨⟨hopen, hdir, hlet, ?_, ?_, ?_⟩, hall, hres⟩
  · rcases hpass with hpass | ⟨-, hcand⟩
    · right; simpa [hev, List.all_eq_true] using hpass
    · exact Or.inl hcand
  · rw [hx, hev] at hexec; exact hexec.symm
  · exact emit_isSome_iff.mp ⟨d, s, hemit, hs⟩

/-- An executable signal keeps the direction of the input. -/
theorem direction_of_executable (h : e.decide input clock = some d) (hs : d.signal = some s)
    (hx : s.executable = true) : s.direction = input.direction := by
  obtain ⟨-, -, -, hemit⟩ := decide_executable h hs hx
  rw [emit_direction hemit hs, rounded_direction]

theorem Delivers.executable (h : Delivers e input clock) :
    ∃ d s, e.decide input clock = some d ∧ d.signal = some s ∧ s.executable = true := by
  have hev := Registry.evaluateAll_of_letBy h.letBy
  have hdec : e.decide input clock = _ := decide_of_emit h.isOpen h.directional
    (by rw [hev]) (h.passes.imp id fun hp => by rw [hev]; simpa [List.all_eq_true] using hp)
  obtain ⟨d, s, hemit, hs⟩ : ∃ d s, e.emit input.rounded
      (e.gateRegistry.evaluateAll input.snapshot clock) = some d ∧ d.signal = some s :=
    emit_isSome_iff.mpr h.risk
  refine ⟨d, s, hdec.trans hemit, hs, ?_⟩
  rw [(emit_spec hemit hs).1, hev]
  exact h.tier

/-- Where every gate is fresh and passes, each lets the candidate by. -/
theorem Registry.AllFreshPass.allPass {r : Registry V} {input : GateInput}
    (hl : r.AllLetBy input clock) (h : r.AllFreshPass input clock) :
    (r.evaluateAll input clock).allPass = true := by
  rw [Registry.evaluateAll_of_letBy hl]
  exact List.all_eq_true.mpr fun g hg => (h g hg).2

/-- **Executable on passes.** An executable signal has nothing but passes behind it exactly when
the input is one the engine does not deliver, or every gate is fresh and passes. -/
theorem executable_passed_iff (e : Engine V) (input : DecisionInput) (clock : ℕ → Time) :
    ExecutablePassed e input clock ↔
      (Delivers e input clock → e.gateRegistry.AllFreshPass input.snapshot clock) := by
  constructor
  · intro h hdel
    obtain ⟨d, s, hdec, hs, hx⟩ := hdel.executable
    obtain ⟨-, -, hres⟩ := Delivers.of_executable hdec hs hx
    rw [← Registry.evaluations_pass_iff hdel.letBy, ← hres]
    exact (h d s hdec hs hx).2
  · intro h d s hdec hs hx
    obtain ⟨hdel, hall, hres⟩ := Delivers.of_executable hdec hs hx
    have hfresh := h hdel
    rw [hall, hres]
    exact ⟨Registry.AllFreshPass.allPass hdel.letBy hfresh,
      (Registry.evaluations_pass_iff hdel.letBy).mpr hfresh⟩

/-! ## The two ways through -/

/-- The canonical gates, each with a verdict of its own and one global state. -/
def steadyRegistry (verdict : GateID → GateResult) (validUntil : GateID → Option Time) :
    Registry Unit :=
  { gates := fun id => some { evaluate := fun _ _ => { gateID := id, result := verdict id } }
    states := fun scope =>
      if scope.strategyID.isSome then none
      else some { value := (), state := .pass, validUntil := validUntil scope.gateID }
    order := canonicalOrder }

/-- A swing trade with ten dollars at risk. -/
def swingInput (direction : Direction) : DecisionInput :=
  { strategyID := .standardSwing, direction := direction, timeframe := some .h4
    entryPrice := 2000, stopLoss := 1990, tp1 := 2015, tp2 := 2025, tp3 := 2040 }

/-- A candidate is executable while the spread gate is DEGRADED, and a full direction is while the
state of the session gate is out of date. -/
theorem degraded_is_executed :
    ¬ ExecutablePassed ⟨steadyRegistry (fun id => if id = .spread then .degraded else .pass)
        (fun _ => none), "BALANCED"⟩ (swingInput .buyCandidate) (fun _ => 1000) ∧
      ¬ ExecutablePassed ⟨steadyRegistry (fun _ => .pass)
        (fun id => if id = .session then some 999 else none), "BALANCED"⟩
        (swingInput .buy) (fun _ => 1000) := by
  decide +kernel

/-- With a fresh state and a PASS everywhere the same trade is delivered on passes alone. -/
example : ExecutablePassed ⟨steadyRegistry (fun _ => .pass) (fun _ => some 1000), "BALANCED"⟩
    (swingInput .buy) (fun _ => 1000) := by
  decide +kernel

end PredictATrade.Realtime
