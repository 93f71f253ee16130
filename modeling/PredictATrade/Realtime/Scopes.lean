import PredictATrade.Lib.Lookup
import PredictATrade.Realtime.Executable

/-!
# `Realtime.Scopes` — whose state a gate is evaluated on

The states of the gates are kept by gate, strategy and timeframe. `EvaluateAll` reads the state of a
gate along a chain of at most three keys (`GateInput.chain`): that of the strategy and timeframe of
the input, that of the strategy, the global one. A key of another strategy, or of another timeframe,
is not on the chain (`not_mem_chain_of_foreign`), and behind a state of exactly the strategy and
timeframe nothing is read. `evaluateAll_isolated` draws the conclusion for whole histories of
published states.
-/

namespace PredictATrade.Realtime
open Lib.Lookup

variable {V : Type} {r r' : Registry V} {input : GateInput} {clock : ℕ → Time}

/-! ## The chain of keys -/

/-- The key of exactly the strategy and timeframe of the input. -/
def GateInput.exactScope (input : GateInput) (id : GateID) : GateScope :=
  ⟨id, some input.strategyID, input.timeframe⟩

/-- The keys under which the state of a gate is looked up. -/
def GateInput.chain (input : GateInput) (id : GateID) : List GateScope :=
  [input.exactScope id, ⟨id, some input.strategyID, none⟩, ⟨id, none, none⟩]

/-- The strategy-wide key is skipped when the input has no timeframe; it is then the first key. -/
theorem resolveState_eq (r : Registry V) (input : GateInput) (id : GateID) :
    r.resolveState input id = firstOf r.states (input.chain id) := by
  unfold Registry.resolveState firstOf GateInput.chain GateInput.exactScope
  cases ht : input.timeframe with
  | none =>
    cases h₁ : r.states ⟨id, some input.strategyID, none⟩ <;>
      cases h₂ : r.states ⟨id, none, none⟩ <;> simp [h₁, h₂]
  | some tf =>
    cases h₁ : r.states ⟨id, some input.strategyID, some tf⟩ <;>
      cases h₂ : r.states ⟨id, some input.strategyID, none⟩ <;>
        cases h₃ : r.states ⟨id, none, none⟩ <;> simp [h₁, h₂, h₃]

/-- The key is another strategy's, or another timeframe's of the same strategy. -/
def GateScope.Foreign (scope : GateScope) (s : StrategyID) (tf : Option Timeframe) : Prop :=
  (∃ s', scope.strategyID = some s' ∧ s' ≠ s) ∨
    (scope.strategyID = some s ∧ ∃ tf', scope.timeframe = some tf' ∧ tf ≠ some tf')

/-- The key is not that of exactly the strategy and timeframe, but that of the strategy or the
global one. -/
def GateScope.LessSpecific (scope : GateScope) (s : StrategyID) (tf : Option Timeframe) : Prop :=
  scope ≠ ⟨scope.gateID, some s, tf⟩ ∧
    (scope = ⟨scope.gateID, some s, none⟩ ∨ scope = ⟨scope.gateID, none, none⟩)

theorem not_mem_chain_of_foreign {scope : GateScope}
    (h : scope.Foreign input.strategyID input.timeframe) (id : GateID) :
    scope ∉ input.chain id := by
  intro hmem
  simp only [GateInput.chain, GateInput.exactScope, List.mem_cons, List.not_mem_nil, or_false]
    at hmem
  rcases h with ⟨s', hs, hne⟩ | ⟨hs, tf', ht, hne⟩
  · rcases hmem with rfl | rfl | rfl
    · exact hne (Option.some.inj hs).symm
    · exact hne (Option.some.inj hs).symm
    · cases hs
  · rcases hmem with rfl | rfl | rfl
    · exact hne ht
    · cases ht
    · cases ht

/-- A key of another gate is not on the chain. -/
theorem not_mem_chain_of_ne {scope : GateScope} {id : GateID} (h : id ≠ scope.gateID) :
    scope ∉ input.chain id := by
  intro hmem
  simp only [GateInput.chain, GateInput.exactScope, List.mem_cons, List.not_mem_nil, or_false]
    at hmem
  rcases hmem with rfl | rfl | rfl <;> exact h rfl

/-! ## Publishing -/

/-- A history of `UpdateStateScoped`, the oldest first. -/
def Registry.publish (r : Registry V) (us : List (GateScope × GateState V)) : Registry V :=
  us.foldl (fun r u => r.updateStateScoped u.1 u.2) r

/-- Publishing writes the table of states and nothing else. -/
theorem publish_eq (r : Registry V) (us : List (GateScope × GateState V)) :
    r.publish us = { r with states := writes r.states us } := by
  induction us generalizing r with
  | nil => rfl
  | cons u us ih => exact ih (r.updateStateScoped u.1 u.2)

/-- The walk reads of the states what `resolveState` reads of them. -/
theorem evaluateFrom_congr (hg : r.gates = r'.gates)
    (hs : ∀ id, r.resolveState input id = r'.resolveState input id) (gs : List (GateID × ℕ))
    (acc : Evaluations) :
    r.evaluateFrom input clock gs acc = r'.evaluateFrom input clock gs acc := by
  induction gs generalizing acc with
  | nil => rfl
  | cons g gs ih =>
    obtain ⟨id, n⟩ := g
    simp only [Registry.evaluateFrom, hg, hs id, ih]

theorem evaluateAll_congr (hg : r.gates = r'.gates) (ho : r.order = r'.order)
    (hs : ∀ id, r.resolveState input id = r'.resolveState input id) :
    r.evaluateAll input clock = r'.evaluateAll input clock := by
  unfold Registry.evaluateAll
  rw [ho]
  exact evaluateFrom_congr hg hs _ _

/-! ## Isolation -/

/-- **Gate states are isolated.** Whatever states were published before and after it, and whatever
the registry held: that a state was published for another strategy or timeframe makes no difference
to an evaluation, and neither does one under a less specific key of a gate that has a state for
exactly the strategy and timeframe evaluated. -/
theorem evaluateAll_isolated (r : Registry V) (older newer : List (GateScope × GateState V))
    (scope : GateScope) (state : GateState V) (input : GateInput) (clock : ℕ → Time)
    (h : scope.Foreign input.strategyID input.timeframe ∨
      (scope.LessSpecific input.strategyID input.timeframe ∧
        ((r.publish (older ++ newer)).states (input.exactScope scope.gateID)).isSome = true)) :
    (r.publish (older ++ (scope, state) :: newer)).evaluateAll input clock =
      (r.publish (older ++ newer)).evaluateAll input clock := by
  simp only [publish_eq] at h ⊢
  refine evaluateAll_congr rfl rfl fun id => ?_
  simp only [resolveState_eq]
  rcases h with hforeign | ⟨⟨hne, -⟩, hexact⟩
  · exact firstOf_writes_of_not_mem (not_mem_chain_of_foreign hforeign id)
  · by_cases hid : id = scope.gateID
    · -- the gate itself: its exact state stands in front of what was published
      subst hid
      exact firstOf_writes_of_isSome hexact (Ne.symm hne)
    · exact firstOf_writes_of_not_mem (not_mem_chain_of_ne hid)

/-- The state of a gate of the four-hour swing trade. -/
def ownState : GateScope × GateState Unit :=
  (⟨.minATR, some .standardSwing, some .h4⟩, { value := (), state := .pass })

/-- The walk of the swing trade after its own state and another have been published. -/
def swingWalk (published : List (GateScope × GateState Unit)) :=
  ((steadyRegistry (fun _ => .pass) fun _ => none).publish ([ownState] ++ published)).evaluateAll
    (swingInput .buy).gateInput (fun _ => 1000)

/-- A veto that was published for a scope. -/
def publishedVeto (scope : GateScope) : GateScope × GateState Unit :=
  (scope, { value := (), state := .veto })

/-- The swing trade's gates say the same with and without a veto published for the scalping strategy,
for its own one-hour timeframe, or globally over its own state. -/
theorem swing_isolated :
    swingWalk [publishedVeto ⟨.minATR, some .standardScalping, some .h4⟩] = swingWalk [] ∧
    swingWalk [publishedVeto ⟨.minATR, some .standardSwing, some .h1⟩] = swingWalk [] ∧
    swingWalk [publishedVeto ⟨.minATR, none, none⟩] = swingWalk [] := by
  refine ⟨?_, ?_, ?_⟩
  · exact evaluateAll_isolated _ [ownState] [] _ _ _ _ (Or.inl (Or.inl ⟨_, rfl, by decide⟩))
  · exact evaluateAll_isolated _ [ownState] [] _ _ _ _ (Or.inl (Or.inr ⟨rfl, _, rfl, by decide⟩))
  · exact evaluateAll_isolated _ [ownState] [] _ _ _ _ (Or.inr ⟨⟨by decide, Or.inr rfl⟩, rfl⟩)

end PredictATrade.Realtime
