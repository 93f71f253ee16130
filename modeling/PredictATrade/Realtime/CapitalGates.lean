import Mathlib
import PredictATrade.Lib.Largest
import PredictATrade.Realtime.Executable

/-!
# `Realtime.CapitalGates` — where the levels of an executable signal lie

Two gates look at the levels of a trade. `wrongSideSLGate` asks for a positive entry and stop, the
stop on its side; `rrNetExpectancyGate` asks for every target on its side, and for one that is worth
the risk. Both are evaluated on the levels as rounded to the broker's digits, and these are the
levels a signal carries. `executable_wellPlaced` puts the two together: an executable signal is well
placed, and no decision divides by a zero risk.

The gates see the levels as doubles. Rounding keeps their order, so what lies on one side of the entry as a double
lies there; but it can lift a ratio of reward to risk over a floor that it misses (`executable_below_floor`), and a
target that is nothing as a double is not looked at. A level of `2 ^ 1024` or more, an infinity as a double, is
beyond what is modelled.
-/

namespace PredictATrade.Realtime
open Lib.Binary64 Lib.Largest

variable {V : Type} {e : Engine V} {input : DecisionInput} {clock : ℕ → Time} {gi : GateInput}

/-! ## The gates -/

/-- The reason of a stop on the wrong side. -/
def reasonWrongSideSL : String := "wrong_side_sl"

/-- The reward is too small for the risk. -/
def ntPoorRR : NoTradeReason := "POOR_RR"

/-- The veto of the gate. -/
def wrongSideVeto : GateEvaluation :=
  { gateID := .wrongSideSL, result := .veto, reasonCodes := [reasonWrongSideSL] }

/-- `WrongSideSLGate.Evaluate`. -/
def wrongSideSLGate : Gate V where
  evaluate input _ :=
    if input.entryPrice ≤ 0 ∨ input.stopLoss ≤ 0 then wrongSideVeto
    else
      match input.direction with
      | .buy =>
        if input.entryPrice ≤ input.stopLoss then wrongSideVeto
        else { gateID := .wrongSideSL, result := .pass }
      | .sell =>
        if input.stopLoss ≤ input.entryPrice then wrongSideVeto
        else { gateID := .wrongSideSL, result := .pass }
      | _ => wrongSideVeto

/-- The configuration of `RRNetExpectancyGate`; its `MinNetExpectancy` is read nowhere. -/
structure RRNetExpectancyGate where
  minGrossRR : Float64
  deriving DecidableEq, Repr

/-- The targets of an input. -/
def GateInput.targets (input : GateInput) : List Float64 :=
  [input.takeProfit1, input.takeProfit2, input.takeProfit3]

/-- A target that is present lies on its side of the entry. -/
def GateInput.brackets (input : GateInput) (tp : Float64) : Bool :=
  if tp = 0 then true
  else if input.direction = .buy then decide (input.entryPrice < tp)
  else if input.direction = .sell then decide (tp < input.entryPrice)
  else true

/-- `abs(a - b)`. -/
def distance (a b : Float64) : Float64 := |fl (a - b)|

/-- Reward over risk; a `float64` divided by zero is infinite. -/
def rewardRisk (d risk : Float64) : WithTop Float64 :=
  if risk = 0 then ⊤ else (fl (d / risk) : Float64)

/-- The best ratio over the targets that are present and away from the entry. -/
def GateInput.bestRR (input : GateInput) : WithTop Float64 :=
  input.targets.foldl (fun best tp =>
    if tp = 0 ∨ distance tp input.entryPrice = 0 then best
    else
      let rr := rewardRisk (distance tp input.entryPrice) (distance input.entryPrice input.stopLoss)
      if best < rr then rr else best) 0

/-- The floor of one reward to one risk, whatever the configuration. -/
def RRNetExpectancyGate.minRR (cfg : RRNetExpectancyGate) : Float64 :=
  if cfg.minGrossRR < 1 then 1 else cfg.minGrossRR

/-- `RRNetExpectancyGate.Evaluate`. -/
def rrNetExpectancyGate (cfg : RRNetExpectancyGate) : Gate V where
  evaluate input _ :=
    if input.stopLoss ≠ 0 ∧ input.entryPrice ≠ 0 then
      if ¬ input.targets.all input.brackets then
        { gateID := .rrNetExpectancy, result := .veto
          reasonCodes := [ntPoorRR, "INVALID_SLTP_GEOMETRY"] }
      else if input.bestRR < cfg.minRR then
        { gateID := .rrNetExpectancy, result := .veto, reasonCodes := [ntPoorRR] }
      else { gateID := .rrNetExpectancy, result := .pass }
    else { gateID := .rrNetExpectancy, result := .pass }

/-! ## What a pass says -/

/-- The gate is registered, and has a place in the order. -/
structure Registry.Runs (r : Registry V) (id : GateID) (g : Gate V) : Prop where
  registered : r.gates id = some g
  ordered : id ∈ r.order

/-- A gate that is registered in the order runs. -/
theorem runs_registerOrdered (r : Registry V) (id after : GateID) (g : Gate V) :
    (r.registerOrdered id g after).Runs id g := by
  refine ⟨?_, ?_⟩
  · simp [Registry.registerOrdered, Registry.register]
  · show id ∈ insertAfter id after r.order
    exact insertAfter_perm.mem_iff.mpr List.mem_cons_self

/-- A gate that runs in a walk without veto evaluates to neither VETO nor UNKNOWN. -/
theorem Registry.Runs.letsBy {r : Registry V} {id : GateID} {g : Gate V} (h : r.Runs id g)
    (hlet : r.AllLetBy gi clock) :
    ∃ state, (g.evaluate gi state).result = .pass ∨ (g.evaluate gi state).result = .degraded := by
  obtain ⟨n, hn, hid⟩ := List.getElem_of_mem h.ordered
  have hmem : (id, n) ∈ r.order.zipIdx := by
    rw [List.mem_zipIdx_iff_getElem?]
    simp [hn, hid]
  obtain ⟨gate, state, hg, -, -, hres⟩ := hlet (id, n) hmem
  rw [h.registered] at hg
  obtain rfl := Option.some.inj hg
  exact ⟨state, hres⟩

/-- The stop is on its side of a positive entry. -/
def GateInput.StopPlaced (input : GateInput) : Prop :=
  0 < input.entryPrice ∧ 0 < input.stopLoss ∧
    ((input.direction = .buy ∧ input.stopLoss < input.entryPrice) ∨
      (input.direction = .sell ∧ input.entryPrice < input.stopLoss))

/-- What the gate has found where it lets a stop by. -/
theorem wrongSideSL_spec {state : GateState V}
    (h : ((wrongSideSLGate : Gate V).evaluate gi state).result = .pass ∨
      ((wrongSideSLGate : Gate V).evaluate gi state).result = .degraded) : gi.StopPlaced := by
  simp only [wrongSideSLGate] at h
  by_cases hpos : gi.entryPrice ≤ 0 ∨ gi.stopLoss ≤ 0
  · simp [hpos, wrongSideVeto] at h
  · obtain ⟨he, hs⟩ := not_or.mp hpos
    simp only [hpos, if_false] at h
    refine ⟨not_le.mp he, not_le.mp hs, ?_⟩
    cases hd : gi.direction with
    | buy =>
      refine Or.inl ⟨rfl, ?_⟩
      by_contra hge
      simp [hd, not_lt.mp hge, wrongSideVeto] at h
    | sell =>
      refine Or.inr ⟨rfl, ?_⟩
      by_contra hge
      simp [hd, not_lt.mp hge, wrongSideVeto] at h
    | buyCandidate | sellCandidate | wait | noTrade | blocked | error =>
      simp [hd, wrongSideVeto] at h

/-- A fold that keeps the larger value ends at its start or at a value it was offered. -/
theorem foldl_best_mem {α β : Type*} [LinearOrder β] (skip : α → Prop) [DecidablePred skip]
    (f : α → β) (l : List α) (b : β) :
    l.foldl (fun best a => if skip a then best else if best < f a then f a else best) b = b ∨
      ∃ a ∈ l, ¬ skip a ∧
        l.foldl (fun best a => if skip a then best else if best < f a then f a else best) b =
          f a := by
  -- what is skipped is not among the values
  have hlargest : l.foldl (fun best a => if skip a then best else if best < f a then f a else best) b =
      largest b ((l.filter fun a => decide (¬ skip a)).map f) := by
    unfold largest
    rw [List.foldl_map, List.foldl_filter]
    simp only [decide_eq_true_eq, ite_not]
  rw [hlargest]
  rcases largest_mem b ((l.filter fun a => decide (¬ skip a)).map f) with h | h
  · exact Or.inl h
  · obtain ⟨a, ha, hfa⟩ := List.mem_map.mp h
    obtain ⟨hmem, hskip⟩ := List.mem_filter.mp ha
    exact Or.inr ⟨a, hmem, of_decide_eq_true hskip, hfa.symm⟩

theorem minRR_eq (cfg : RRNetExpectancyGate) : cfg.minRR = max 1 cfg.minGrossRR := by
  unfold RRNetExpectancyGate.minRR
  split
  · rw [max_eq_left (le_of_lt ‹_›)]
  · rw [max_eq_right (not_lt.mp ‹_›)]

/-- Every target that is present lies on its side, and one is worth its risk. -/
theorem rrNetExpectancy_spec {cfg : RRNetExpectancyGate} {state : GateState V}
    (h : ((rrNetExpectancyGate cfg : Gate V).evaluate gi state).result = .pass ∨
      ((rrNetExpectancyGate cfg : Gate V).evaluate gi state).result = .degraded)
    (hsl : gi.stopLoss ≠ 0) (hentry : gi.entryPrice ≠ 0)
    (hrisk : distance gi.entryPrice gi.stopLoss ≠ 0) :
    (∀ tp ∈ gi.targets, gi.brackets tp = true) ∧
      ∃ tp ∈ gi.targets, tp ≠ 0 ∧
        max 1 cfg.minGrossRR ≤
          fl (distance tp gi.entryPrice / distance gi.entryPrice gi.stopLoss) := by
  simp only [rrNetExpectancyGate, hsl, hentry, ne_eq, not_false_eq_true, and_self, if_true] at h
  by_cases hb : gi.targets.all gi.brackets = true
  · by_cases hrr : gi.bestRR < cfg.minRR
    · simp [hb, hrr] at h
    · refine ⟨List.all_eq_true.mp hb, ?_⟩
      have hone : (1 : Float64) ≤ cfg.minRR := by rw [minRR_eq]; exact le_max_left _ _
      rcases foldl_best_mem (fun tp => tp = 0 ∨ distance tp gi.entryPrice = 0)
          (fun tp => rewardRisk (distance tp gi.entryPrice) (distance gi.entryPrice gi.stopLoss))
          gi.targets 0 with hbest | ⟨tp, hmem, hskip, hbest⟩
      · -- no target counted, and nothing is below the floor of one
        have hzero : gi.bestRR = 0 := hbest
        rw [hzero] at hrr
        exact absurd (WithTop.coe_lt_coe.mpr (lt_of_lt_of_le zero_lt_one hone)) hrr
      · have htp : gi.bestRR =
            rewardRisk (distance tp gi.entryPrice) (distance gi.entryPrice gi.stopLoss) := hbest
        refine ⟨tp, hmem, fun h0 => hskip (Or.inl h0), ?_⟩
        rw [htp, rewardRisk, if_neg hrisk, not_lt, WithTop.coe_le_coe, minRR_eq] at hrr
        exact hrr
  · simp [hb] at h

/-! ## Executable signals -/

/-- The targets of a signal. -/
def Signal.targets (s : Signal) : List Decimal := [s.tp1, s.tp2, s.tp3]

/-- The ratio of a target's reward to the risk, as the gate computes it. -/
def Signal.computedRR (s : Signal) (tp : Decimal) : Float64 :=
  fl (distance tp.float64 s.entryPrice.float64 / distance s.entryPrice.float64 s.stopLoss.float64)

/-- The ratio of a target's reward to the risk, between the doubles that stand for the levels. -/
def Signal.exactRR (s : Signal) (tp : Decimal) : ℚ :=
  |tp.float64 - s.entryPrice.float64| / |s.entryPrice.float64 - s.stopLoss.float64|

/-- The levels of a signal lie as they should: entry and stop are positive, the stop is behind and
every target that is present ahead of the entry, and one target is worth its risk, as computed and so, but for three
roundings, in fact. A target is present if it is one as a double. -/
structure Signal.WellPlaced (s : Signal) (minGrossRR : Float64) : Prop where
  entry : 0 < s.entryPrice
  stop : 0 < s.stopLoss
  sides : (s.direction.gateDir = .buy ∧ s.stopLoss < s.entryPrice ∧
      ∀ tp ∈ s.targets, tp.float64 ≠ 0 → s.entryPrice < tp) ∨
    (s.direction.gateDir = .sell ∧ s.entryPrice < s.stopLoss ∧
      ∀ tp ∈ s.targets, tp.float64 ≠ 0 → tp < s.entryPrice)
  reward : ∃ tp ∈ s.targets, tp.float64 ≠ 0 ∧ max 1 minGrossRR ≤ s.computedRR tp ∧
    (1 - 3 / 2 ^ 53) * max 1 minGrossRR ≤ s.exactRR tp

/-- The levels of an emitted signal are those of the input it was emitted for. -/
theorem emit_levels {input : DecisionInput} {ev : Evaluations} {d : DecisionResult} {s : Signal}
    (h : e.emit input ev = some d) (hs : d.signal = some s) :
    s.direction = input.direction ∧ s.entryPrice = input.entryPrice ∧
      s.stopLoss = input.stopLoss ∧ s.targets = [input.tp1, input.tp2, input.tp3] := by
  obtain ⟨rr, -, rfl⟩ := Option.map_eq_some_iff.mp h
  obtain rfl := Option.some.inj hs
  exact ⟨rfl, rfl, rfl, rfl⟩

/-- Where the stop gate lets the candidate by, there is a risk to divide by. -/
theorem grossRR1_isSome_of_stopPlaced (h : input.snapshot.StopPlaced) :
    (input.rounded.grossRR1).isSome = true := by
  rw [grossRR1_isSome_iff]
  obtain ⟨-, -, ⟨-, hlt⟩ | ⟨-, hlt⟩⟩ := h
  · exact Or.inr (ne_of_gt (lt_of_fl_lt hlt))
  · exact Or.inr (ne_of_lt (lt_of_fl_lt hlt))

/-- A decision panics only in the emitting branch. -/
theorem decide_eq_none (h : e.decide input clock = none) :
    (e.gateRegistry.evaluateAll input.snapshot clock).firstVeto = none ∨
      (e.gateRegistry.evaluateAll input.snapshot clock).allPass = true := by
  unfold Engine.decide at h
  split at h
  · cases h
  · simp only at h
    split at h
    · cases h
    · split at h
      · split at h
        · cases h
        · rename_i hveto
          exact Or.inl hveto
      · rename_i hpass
        right
        simpa [DecisionInput.snapshot] using hpass

/-- With the stop gate in the order, no decision divides by a zero risk. -/
theorem decide_isSome (hw : e.gateRegistry.Runs .wrongSideSL wrongSideSLGate)
    (input : DecisionInput) (clock : ℕ → Time) : (e.decide input clock).isSome = true := by
  by_contra hnone
  have hpanic : e.decide input clock = none := by simpa using hnone
  have hlet : e.gateRegistry.AllLetBy input.snapshot clock := by
    by_contra hclosed
    obtain ⟨hfail, hveto⟩ := Registry.allPass_of_veto hclosed
    rcases decide_eq_none hpanic with hv | hp
    · simp [hv] at hveto
    · simp [hp] at hfail
  obtain ⟨state, hpass⟩ := hw.letsBy hlet
  have hrr := grossRR1_isSome_of_stopPlaced (wrongSideSL_spec hpass)
  obtain ⟨rr, hrr⟩ := Option.isSome_iff_exists.mp hrr
  -- every branch gives a result once the ratio is computed
  unfold Engine.decide at hpanic
  simp only [Engine.emit, hrr, Option.map_some] at hpanic
  split at hpanic
  · cases hpanic
  · split at hpanic
    · cases hpanic
    · split at hpanic
      · split at hpanic
        · cases hpanic
        · split at hpanic <;> cases hpanic
      · cases hpanic

/-- **Executable signals are well placed.** With the two gates registered and ordered, whatever the
other gates, the states and the broker's digits: no decision divides by zero, and every executable
signal is well placed, with the levels it carries. -/
theorem executable_wellPlaced (cfg : RRNetExpectancyGate)
    (hw : e.gateRegistry.Runs .wrongSideSL wrongSideSLGate)
    (hr : e.gateRegistry.Runs .rrNetExpectancy (rrNetExpectancyGate cfg))
    (input : DecisionInput) (clock : ℕ → Time) :
    (e.decide input clock).isSome = true ∧
      ∀ d s, e.decide input clock = some d → d.signal = some s → s.executable = true →
        s.WellPlaced cfg.minGrossRR ∧ s.entryPrice = input.rounded.entryPrice ∧
          s.stopLoss = input.rounded.stopLoss ∧
          s.targets = [input.rounded.tp1, input.rounded.tp2, input.rounded.tp3] := by
  refine ⟨decide_isSome hw input clock, fun d s hd hs hx => ?_⟩
  obtain ⟨hdel, -, -⟩ := Delivers.of_executable hd hs hx
  obtain ⟨-, -, -, hemit⟩ := decide_executable hd hs hx
  obtain ⟨hdir, hentry, hstop, htargets⟩ := emit_levels hemit hs
  obtain ⟨_, hpass⟩ := hw.letsBy hdel.letBy
  obtain ⟨_, hreward⟩ := hr.letsBy hdel.letBy
  have hplaced : input.snapshot.StopPlaced := wrongSideSL_spec hpass
  obtain ⟨hpos, hspos, hsides⟩ := hplaced
  have hrisk : input.snapshot.entryPrice ≠ input.snapshot.stopLoss := by
    rcases hsides with ⟨-, hlt⟩ | ⟨-, hlt⟩
    · exact ne_of_gt hlt
    · exact ne_of_lt hlt
  have hdistance : distance input.snapshot.entryPrice input.snapshot.stopLoss ≠ 0 :=
    abs_ne_zero.mpr (fl_sub_ne_zero (double_fl _) (double_fl _) hrisk)
  obtain ⟨hbrackets, tp, htp, hpresent, hbest⟩ :=
    rrNetExpectancy_spec hreward (ne_of_gt hspos) (ne_of_gt hpos) hdistance
  -- the gates have seen the doubles of the levels that the signal carries
  have htgt : input.snapshot.targets = s.targets.map Decimal.float64 := by rw [htargets]; rfl
  have he : input.snapshot.entryPrice = s.entryPrice.float64 := by rw [hentry]; rfl
  have hst : input.snapshot.stopLoss = s.stopLoss.float64 := by rw [hstop]; rfl
  have hgd : s.direction.gateDir = input.snapshot.direction := by rw [hdir]; rfl
  have hbracket : ∀ tp ∈ s.targets, input.snapshot.brackets tp.float64 = true := by
    intro tp htp
    exact hbrackets _ (htgt ▸ List.mem_map_of_mem htp)
  rw [he] at hpos hsides hrisk hbest
  rw [hst] at hspos hsides hrisk hbest
  refine ⟨⟨pos_of_fl_pos hpos, pos_of_fl_pos hspos, ?_, ?_⟩, hentry, hstop, htargets⟩
  · rcases hsides with ⟨hbuy, hlt⟩ | ⟨hsell, hlt⟩
    · refine Or.inl ⟨hgd.trans hbuy, lt_of_fl_lt hlt, fun tp htp hne => lt_of_fl_lt ?_⟩
      have hb := hbracket tp htp
      simp only [GateInput.brackets, hne, hbuy, he, if_false, if_true, decide_eq_true_eq] at hb
      exact hb
    · refine Or.inr ⟨hgd.trans hsell, lt_of_fl_lt hlt, fun tp htp hne => lt_of_fl_lt ?_⟩
      have hb := hbracket tp htp
      simp only [GateInput.brackets, hne, hsell, he, reduceCtorEq, if_false, if_true,
        decide_eq_true_eq] at hb
      exact hb
  · rw [htgt] at htp
    obtain ⟨tp, hmem, rfl⟩ := List.mem_map.mp htp
    refine ⟨tp, hmem, hpresent, hbest, ?_⟩
    exact le_div_of_computed (double_fl _) (double_fl _) (double_fl _) (double_fl _) hrisk
      (le_max_left _ _) hbest

/-- The canonical gates passing, with the two gates of this module among them. -/
def guardedEngine : Engine Unit :=
  { gateRegistry :=
      (((steadyRegistry (fun _ => .pass) fun _ => none).register .rrNetExpectancy
        (rrNetExpectancyGate ⟨12 / 10⟩)).registerOrdered .wrongSideSL wrongSideSLGate .dataQuality)
    gatePolicyVersion := "BALANCED" }

/-- The swing trade, at two digits, is executable and well placed. -/
theorem swing_wellPlaced :
    (guardedEngine.decide { swingInput .buyCandidate with brokerDigits := 2 }
        (fun _ => 1000)).isSome = true ∧
      ∀ d s, guardedEngine.decide { swingInput .buyCandidate with brokerDigits := 2 }
          (fun _ => 1000) = some d → d.signal = some s → s.executable = true →
        s.WellPlaced (12 / 10) ∧ s.entryPrice = 2000 ∧ s.stopLoss = 1990 ∧
          s.targets = [2015, 2025, 2040] := by
  have hrounded : ({ swingInput .buyCandidate with brokerDigits := 2 } : DecisionInput).rounded =
      { swingInput .buyCandidate with brokerDigits := 2 } := by decide +kernel
  have hw : guardedEngine.gateRegistry.Runs .wrongSideSL wrongSideSLGate := runs_registerOrdered _ _ _ _
  have hr : guardedEngine.gateRegistry.Runs .rrNetExpectancy (rrNetExpectancyGate ⟨12 / 10⟩) :=
    ⟨rfl, by decide⟩
  have h := executable_wellPlaced ⟨12 / 10⟩ hw hr { swingInput .buyCandidate with brokerDigits := 2 } (fun _ => 1000)
  rw [hrounded] at h
  exact h

/-- It is executable indeed. -/
example : ((guardedEngine.decide (swingInput .buyCandidate) fun _ => 1000).bind (·.signal)).map
    (·.executable) = some true := by
  decide +kernel

/-- The same gates with a floor of one. -/
def flooredEngine : Engine Unit :=
  { guardedEngine with
    gateRegistry := guardedEngine.gateRegistry.register .rrNetExpectancy (rrNetExpectancyGate ⟨1⟩) }

/-- A buy at 2000 with a stop at 1999. -/
def nearMiss (tp1 tp2 : Decimal) : DecisionInput :=
  { swingInput .buy with stopLoss := 1999, tp1, tp2, tp3 := 0 }

/-- The executable signal of a decision. -/
def Engine.executed (e : Engine Unit) (input : DecisionInput) : Option Signal :=
  ((e.decide input fun _ => 1000).bind (·.signal)).filter (·.executable)

/-- A target just under the risk is at the risk as a double: the signal is executable, with its best ratio below
one. And a target that is nothing as a double may be where it likes. -/
theorem executable_below_floor :
    ((flooredEngine.executed (nearMiss (2001 - 1 / 10 ^ 16) 0)).any fun s =>
        decide (∀ tp ∈ s.targets, tp ≠ 0 → |tp - s.entryPrice| / |s.entryPrice - s.stopLoss| < 1)) = true ∧
      ((flooredEngine.executed (nearMiss 2010 (1 / 10 ^ 400))).any fun s =>
        decide (∃ tp ∈ s.targets, tp ≠ 0 ∧ tp < s.entryPrice)) = true := by
  decide +kernel

end PredictATrade.Realtime
