import PredictATrade.Realtime.Scopes

/-!
# `Realtime.GateWalk` — what `EvaluateAll` returns

A visit to one gate leaves one record, or two when the state is stale, and may end the walk
(`Registry.visit`). `walk_visits` is the loop in these terms: the records of a prefix of the order,
one gate after the other, where only the last visit of a shortened walk ended it. The first veto is
the first record that blocks, always. That all pass is said of the evaluations and not of the marks,
so it agrees with the records except on a walk in which everything passes on a stale state. A gate that
cannot be evaluated is recorded as UNKNOWN or VETO and the walk goes on, so the record that cuts a walk
short is the first to block unless such a gate came before it (`lawful_iff`).
-/

namespace PredictATrade.Realtime

variable {V : Type} {r : Registry V} {input : GateInput} {clock : ℕ → Time}

/-! ## A visit -/

/-- The result blocks: VETO or UNKNOWN. -/
def GateResult.blocks : GateResult → Bool
  | .veto | .unknown => true
  | .pass | .degraded => false

/-- The records a visit to a gate leaves, and whether it ends the walk. -/
def Registry.visit (r : Registry V) (input : GateInput) (clock : ℕ → Time) (g : GateID × ℕ) :
    List GateEvaluation × Bool :=
  match r.gates g.1 with
  | none => ([notRegistered g.1 (clock g.2)], false)
  | some gate =>
    match r.resolveState input g.1 with
    | none => ([notInitialized g.1 (clock g.2)], false)
    | some state =>
      if state.isStale (clock g.2) && isRiskCritical g.1 then
        ([stateStale g.1 .veto state (clock g.2)], false)
      else
        let marks := if state.isStale (clock g.2) then
          [stateStale g.1 .degraded state (clock g.2)] else []
        (marks ++ [gate.evaluate input state], (gate.evaluate input state).result.blocks)

/-- The records of a walk along some gates. -/
def Registry.records (r : Registry V) (input : GateInput) (clock : ℕ → Time)
    (gs : List (GateID × ℕ)) : List GateEvaluation :=
  gs.flatMap fun g => (r.visit input clock g).1

/-- Some gates visited one after the other: none but the last has ended the walk, and the last has
if any gate is left unvisited. -/
structure Registry.Visits (r : Registry V) (input : GateInput) (clock : ℕ → Time)
    (visited rest : List (GateID × ℕ)) : Prop where
  goesOn : ∀ g ∈ visited.dropLast, (r.visit input clock g).2 = false
  cut : rest ≠ [] → ∃ g ∈ visited.getLast?, (r.visit input clock g).2 = true

/-- More records are gathered; the first of them that blocks is the veto, unless there is one already. -/
structure Evaluations.Gathers (acc : Evaluations) (evs : List GateEvaluation) (acc' : Evaluations) :
    Prop where
  evaluations : acc'.evaluations = acc.evaluations ++ evs
  firstVeto : acc'.firstVeto = acc.firstVeto.or (evs.find? (·.result.blocks))

theorem Evaluations.Gathers.trans {acc acc' acc'' : Evaluations} {evs evs' : List GateEvaluation}
    (h : acc.Gathers evs acc') (h' : acc'.Gathers evs' acc'') : acc.Gathers (evs ++ evs') acc'' where
  evaluations := by rw [h'.evaluations, h.evaluations, List.append_assoc]
  firstVeto := by rw [h'.firstVeto, h.firstVeto, Option.or_assoc, List.find?_append]

section
variable (acc : Evaluations) {ev : GateEvaluation}

theorem gathers_note (h : ev.result.blocks = false) : acc.Gathers [ev] (acc.note ev) :=
  ⟨rfl, by simp [Evaluations.note, h]⟩

theorem gathers_degrade (h : ev.result.blocks = false) : acc.Gathers [ev] (acc.degrade ev) :=
  ⟨rfl, (gathers_note acc h).firstVeto⟩

theorem gathers_close (h : ev.result.blocks = true) : acc.Gathers [ev] (acc.close ev) :=
  ⟨rfl, by simp [Evaluations.close, h]⟩

end

/-- What is gathered after a visit, but for `allPass`. -/
theorem evaluateFrom_visit (r : Registry V) (input : GateInput) (clock : ℕ → Time)
    (g : GateID × ℕ) (rest : List (GateID × ℕ)) (acc : Evaluations) :
    ∃ acc' : Evaluations, acc.Gathers (r.visit input clock g).1 acc' ∧
      r.evaluateFrom input clock (g :: rest) acc =
        if (r.visit input clock g).2 then acc' else r.evaluateFrom input clock rest acc' := by
  obtain ⟨id, n⟩ := g
  simp only [Registry.visit, Registry.evaluateFrom]
  cases r.gates id with
  | none => exact ⟨_, gathers_close acc rfl, rfl⟩
  | some gate =>
    dsimp only
    cases r.resolveState input id with
    | none => exact ⟨_, gathers_close acc rfl, rfl⟩
    | some state =>
      dsimp only
      by_cases hc : (state.isStale (clock n) && isRiskCritical id) = true
      · simp only [if_pos hc]
        exact ⟨_, gathers_close acc rfl, rfl⟩
      · simp only [if_neg hc]
        -- a stale mark blocks nothing, so it is the evaluation that decides
        have hmarks : acc.Gathers
            (if state.isStale (clock n) then [stateStale id .degraded state (clock n)] else [])
            (if state.isStale (clock n) then acc.note (stateStale id .degraded state (clock n))
              else acc) := by
          split
          · exact gathers_note acc rfl
          · exact ⟨(List.append_nil _).symm, Option.or_none.symm⟩
        cases hr : (gate.evaluate input state).result with
        | veto | unknown => exact ⟨_, hmarks.trans (gathers_close _ (by rw [hr]; rfl)), rfl⟩
        | degraded => exact ⟨_, hmarks.trans (gathers_degrade _ (by rw [hr]; rfl)), rfl⟩
        | pass => exact ⟨_, hmarks.trans (gathers_note _ (by rw [hr]; rfl)), rfl⟩

/-- A visit leaves a record. -/
theorem visit_ne_nil (r : Registry V) (input : GateInput) (clock : ℕ → Time) (g : GateID × ℕ) :
    (r.visit input clock g).1 ≠ [] := by
  unfold Registry.visit
  split
  · simp
  · split
    · simp
    · split <;> simp

/-- A visit that ends the walk leaves a record that blocks, and it is the last one. -/
theorem visit_cut {g : GateID × ℕ} (h : (r.visit input clock g).2 = true) :
    ∃ ev ∈ (r.visit input clock g).1.getLast?, ev.result.blocks = true := by
  obtain ⟨id, n⟩ := g
  cases hg : r.gates id with
  | none => simp [Registry.visit, hg] at h
  | some gate =>
    cases hs : r.resolveState input id with
    | none => simp [Registry.visit, hg, hs] at h
    | some state =>
      cases hc : state.isStale (clock n) && isRiskCritical id with
      | true => simp [Registry.visit, hg, hs, hc] at h
      | false =>
        refine ⟨gate.evaluate input state, ?_, ?_⟩
        · simp [Registry.visit, hg, hs, hc]
        · simpa [Registry.visit, hg, hs, hc] using h

/-- The gate is evaluated when the walk comes to it: it is registered, has a cached state, and the state is
not both stale and risk-critical. -/
def Registry.isEvaluated (r : Registry V) (input : GateInput) (clock : ℕ → Time) (g : GateID × ℕ) :
    Bool :=
  match r.gates g.1, r.resolveState input g.1 with
  | some _, some state => !(state.isStale (clock g.2) && isRiskCritical g.1)
  | _, _ => false

/-- The gate is evaluated, to VETO or UNKNOWN. -/
def Registry.refuses (r : Registry V) (input : GateInput) (clock : ℕ → Time) (g : GateID × ℕ) : Bool :=
  match r.gates g.1, r.resolveState input g.1 with
  | some gate, some state =>
    !(state.isStale (clock g.2) && isRiskCritical g.1) && (gate.evaluate input state).result.blocks
  | _, _ => false

/-- The visits that end a walk are those to the gates that refuse. -/
theorem visit_ends (r : Registry V) (input : GateInput) (clock : ℕ → Time) (g : GateID × ℕ) :
    (r.visit input clock g).2 = r.refuses input clock g := by
  unfold Registry.visit Registry.refuses
  cases r.gates g.1 with
  | none => rfl
  | some gate =>
    cases r.resolveState input g.1 with
    | none => rfl
    | some state =>
      cases hc : state.isStale (clock g.2) && isRiskCritical g.1
      · simp only [hc, Bool.false_eq_true, if_false, Bool.not_false, Bool.true_and]
      · simp only [hc, if_true, Bool.not_true, Bool.false_and]

/-- A gate that is evaluated leaves a mark of a stale state, if any, and its evaluation. -/
theorem visit_of_evaluated {g : GateID × ℕ} (h : r.isEvaluated input clock g = true) :
    ∃ marks ev, (r.visit input clock g).1 = marks ++ [ev] ∧ (∀ m ∈ marks, m.result.blocks = false) ∧
      ev.result.blocks = r.refuses input clock g := by
  unfold Registry.isEvaluated at h
  unfold Registry.visit Registry.refuses
  cases hg : r.gates g.1 with
  | none => simp [hg] at h
  | some gate =>
    cases hs : r.resolveState input g.1 with
    | none => simp [hg, hs] at h
    | some state =>
      simp only [hg, hs, Bool.not_eq_true'] at h
      refine ⟨if state.isStale (clock g.2) then [stateStale g.1 .degraded state (clock g.2)] else [],
        gate.evaluate input state, ?_, ?_, ?_⟩
      · simp [h]
      · intro m hm
        split at hm
        · rw [List.mem_singleton.mp hm]
          rfl
        · cases hm
      · simp [h]

/-- A gate that is not evaluated is recorded as UNKNOWN or VETO. -/
theorem visit_of_not_evaluated {g : GateID × ℕ} (h : r.isEvaluated input clock g = false) :
    ∃ ev ∈ (r.visit input clock g).1, ev.result.blocks = true := by
  unfold Registry.isEvaluated at h
  unfold Registry.visit
  cases hg : r.gates g.1 with
  | none => exact ⟨_, List.mem_singleton_self _, rfl⟩
  | some gate =>
    cases hs : r.resolveState input g.1 with
    | none => exact ⟨_, List.mem_singleton_self _, rfl⟩
    | some state =>
      simp only [hg, hs, Bool.not_eq_false'] at h
      simp only [h, if_true]
      exact ⟨_, List.mem_singleton_self _, rfl⟩

/-- Only a gate that is evaluated refuses. -/
theorem evaluated_of_refuses {g : GateID × ℕ} (h : r.refuses input clock g = true) :
    r.isEvaluated input clock g = true := by
  unfold Registry.refuses at h
  unfold Registry.isEvaluated
  cases hg : r.gates g.1 with
  | none => simp [hg] at h
  | some gate =>
    cases hs : r.resolveState input g.1 with
    | none => simp [hg, hs] at h
    | some state =>
      simp only [hg, hs, Bool.and_eq_true] at h
      exact h.1

/-! ## The walk -/

/-- **The walk, visit by visit.** From any point on, the walk visits a prefix of the gates that are
left, adds their records in order, and keeps as the veto the first record that blocks. -/
theorem walk_visits (r : Registry V) (input : GateInput) (clock : ℕ → Time)
    (gs : List (GateID × ℕ)) (acc : Evaluations) :
    ∃ visited rest, gs = visited ++ rest ∧ r.Visits input clock visited rest ∧
      (r.evaluateFrom input clock gs acc).evaluations =
        acc.evaluations ++ r.records input clock visited ∧
      (r.evaluateFrom input clock gs acc).firstVeto =
        acc.firstVeto.or ((r.records input clock visited).find? (·.result.blocks)) := by
  induction gs generalizing acc with
  | nil =>
    refine ⟨[], [], rfl, ⟨?_, ?_⟩, ?_, ?_⟩
    · intro g hg; cases hg
    · intro h; exact absurd rfl h
    · simp [Registry.records, Registry.evaluateFrom]
    · simp [Registry.records, Registry.evaluateFrom]
  | cons g gs ih =>
    obtain ⟨acc', ⟨hev, hveto⟩, hwalk⟩ := evaluateFrom_visit r input clock g gs acc
    cases hcut : (r.visit input clock g).2 with
    | true =>
      -- the walk ends here, whatever is left
      refine ⟨[g], gs, rfl, ⟨?_, ?_⟩, ?_, ?_⟩
      · intro g' hg; cases hg
      · intro _; exact ⟨g, rfl, hcut⟩
      · simp [hwalk, hcut, hev, Registry.records]
      · simp [hwalk, hcut, hveto, Registry.records]
    | false =>
      obtain ⟨visited, rest, rfl, hvis, hrec, hfirst⟩ := ih acc'
      refine ⟨g :: visited, rest, rfl, ⟨?_, ?_⟩, ?_, ?_⟩
      · intro g' hg
        cases visited with
        | nil => cases hg
        | cons v vs =>
          rcases List.mem_cons.mp hg with rfl | hg
          · exact hcut
          · exact hvis.goesOn g' hg
      · intro hrest
        obtain ⟨g', hlast, hg'⟩ := hvis.cut hrest
        refine ⟨g', ?_, hg'⟩
        cases visited with
        | nil => cases hlast
        | cons v vs => simpa using hlast
      · simp [hwalk, hcut, hrec, hev, Registry.records]
      · simp [hwalk, hcut, hfirst, hveto, Registry.records, Option.or_assoc]

/-! ## The law of the result -/

/-- What the three results of `EvaluateAll` say of each other. -/
structure Registry.Lawful (r : Registry V) (input : GateInput) (clock : ℕ → Time) : Prop where
  /-- All pass exactly when every evaluation on the record is a PASS. -/
  allPass : (r.evaluateAll input clock).allPass = true ↔
    ∀ ev ∈ (r.evaluateAll input clock).evaluations, ev.result = .pass
  /-- The veto is the first evaluation that is a VETO or UNKNOWN, and there is none without one. -/
  firstVeto : (r.evaluateAll input clock).firstVeto =
    (r.evaluateAll input clock).evaluations.find? (·.result.blocks)
  /-- The gates evaluated are a prefix of the order, each with its records, and where gates are left
  out the record ends with its first VETO or UNKNOWN. -/
  inOrder : ∃ visited rest, r.order.zipIdx = visited ++ rest ∧ r.Visits input clock visited rest ∧
    (r.evaluateAll input clock).evaluations = r.records input clock visited ∧
    (∀ g ∈ visited, (r.visit input clock g).1 ≠ []) ∧
    (rest ≠ [] → ∃ before ev, (r.evaluateAll input clock).evaluations = before ++ [ev] ∧
      ev.result.blocks = true ∧ ∀ ev' ∈ before, ev'.result.blocks = false)

/-- The records of a walk end with those of the last gate visited. -/
theorem records_getLast? {visited : List (GateID × ℕ)} {g : GateID × ℕ}
    (h : g ∈ visited.getLast?) :
    (r.records input clock visited).getLast? = (r.visit input clock g).1.getLast? := by
  obtain ⟨before, rfl⟩ : ∃ before, visited = before ++ [g] :=
    ⟨visited.dropLast, (List.dropLast_append_getLast? g h).symm⟩
  have hne := visit_ne_nil r input clock g
  simp only [Registry.records, List.flatMap_append, List.flatMap_singleton]
  rw [List.getLast?_append_of_ne_nil _ hne]

theorem firstVeto_eq_find? (r : Registry V) (input : GateInput) (clock : ℕ → Time) :
    (r.evaluateAll input clock).firstVeto =
      (r.evaluateAll input clock).evaluations.find? (·.result.blocks) := by
  obtain ⟨visited, rest, -, -, hrec, hveto⟩ := walk_visits r input clock r.order.zipIdx {}
  simp only [Registry.evaluateAll, hrec, hveto, List.nil_append, Option.none_or]

theorem evaluated_inOrder (r : Registry V) (input : GateInput) (clock : ℕ → Time) :
    ∃ visited rest, r.order.zipIdx = visited ++ rest ∧ r.Visits input clock visited rest ∧
      (r.evaluateAll input clock).evaluations = r.records input clock visited ∧
      (∀ g ∈ visited, (r.visit input clock g).1 ≠ []) ∧
      (rest ≠ [] →
        ∃ ev ∈ (r.evaluateAll input clock).evaluations.getLast?, ev.result.blocks = true) := by
  obtain ⟨visited, rest, hord, hvis, hrec, -⟩ := walk_visits r input clock r.order.zipIdx {}
  have hev : (r.evaluateAll input clock).evaluations = r.records input clock visited := by
    simpa [Registry.evaluateAll] using hrec
  refine ⟨visited, rest, hord, hvis, hev, fun g _ => visit_ne_nil r input clock g, fun hrest => ?_⟩
  obtain ⟨g, hlast, hcut⟩ := hvis.cut hrest
  rw [hev, records_getLast? hlast]
  exact visit_cut hcut

/-- The first gate that refuses, unless it is the last of the order, stands behind gates that are all
evaluated. -/
def Registry.CutsInTime (r : Registry V) (input : GateInput) (clock : ℕ → Time) : Prop :=
  ∀ before g after, r.order.zipIdx = before ++ g :: after → after ≠ [] →
    r.refuses input clock g = true → (∀ b ∈ before, r.refuses input clock b = false) →
    ∀ b ∈ before, r.isEvaluated input clock b = true

/-- A walk that leaves gates out has come to the first gate that refuses, and stops behind it. -/
theorem Registry.Visits.cut_at {visited rest : List (GateID × ℕ)} (h : r.Visits input clock visited rest)
    (hrest : rest ≠ []) : ∃ before g, visited = before ++ [g] ∧ r.refuses input clock g = true ∧
      ∀ b ∈ before, r.refuses input clock b = false := by
  obtain ⟨g, hlast, hcut⟩ := h.cut hrest
  have hsplit : visited.dropLast ++ [g] = visited := List.dropLast_append_getLast? g hlast
  refine ⟨visited.dropLast, g, hsplit.symm, ?_, fun b hb => ?_⟩
  · rw [← visit_ends]
    exact hcut
  · rw [← visit_ends]
    exact h.goesOn b hb

/-- Two walks that stop at the first gate that refuses stop at the same place. -/
theorem cut_unique {before before' after after' : List (GateID × ℕ)} {g g' : GateID × ℕ}
    (h : before ++ g :: after = before' ++ g' :: after') (hg : r.refuses input clock g = true)
    (hg' : r.refuses input clock g' = true) (hb : ∀ b ∈ before, r.refuses input clock b = false)
    (hb' : ∀ b ∈ before', r.refuses input clock b = false) :
    before = before' ∧ g = g' ∧ after = after' := by
  induction before generalizing before' with
  | nil =>
    cases before' with
    | nil => exact ⟨rfl, List.cons.inj h⟩
    | cons b bs =>
      obtain ⟨rfl, -⟩ := List.cons.inj h
      simp [hb' g List.mem_cons_self] at hg
  | cons b bs ih =>
    cases before' with
    | nil =>
      obtain ⟨rfl, -⟩ := List.cons.inj h
      simp [hb b List.mem_cons_self] at hg'
    | cons b' bs' =>
      obtain ⟨rfl, htail⟩ := List.cons.inj h
      obtain ⟨rfl, hrest⟩ := ih htail (fun c hc => hb c (List.mem_cons_of_mem b hc))
        fun c hc => hb' c (List.mem_cons_of_mem b hc)
      exact ⟨rfl, hrest⟩

/-- A walk in which every gate comes to its visit does not stop at one that refuses. -/
theorem Registry.Visits.refuses_last {before after visited : List (GateID × ℕ)} {g : GateID × ℕ}
    (h : r.Visits input clock visited []) (hsplit : visited = before ++ g :: after)
    (hg : r.refuses input clock g = true) : after = [] := by
  by_contra hne
  obtain ⟨last, tail, rfl⟩ := List.exists_cons_of_ne_nil hne
  have hmem : g ∈ visited.dropLast := by
    rw [hsplit, List.dropLast_append_of_ne_nil (by simp)]
    exact List.mem_append_right _ (by simp [List.dropLast])
  have := h.goesOn g hmem
  rw [visit_ends, hg] at this
  cases this

/-- The records of gates that are evaluated and do not refuse block nothing. -/
theorem records_open {before : List (GateID × ℕ)}
    (heval : ∀ b ∈ before, r.isEvaluated input clock b = true)
    (hopen : ∀ b ∈ before, r.refuses input clock b = false) :
    ∀ ev ∈ r.records input clock before, ev.result.blocks = false := by
  intro ev hev
  obtain ⟨b, hb, hmem⟩ := List.mem_flatMap.mp hev
  obtain ⟨marks, last, hvisit, hmarks, hlast⟩ := visit_of_evaluated (heval b hb)
  rw [hvisit] at hmem
  rcases List.mem_append.mp hmem with hm | hm
  · exact hmarks ev hm
  · rw [List.mem_singleton.mp hm, hlast, hopen b hb]

/-- **Where a walk is cut.** The record that cuts it short is the first one to block, exactly when the
gates before the first that refuses are all evaluated. -/
theorem inOrder_iff (r : Registry V) (input : GateInput) (clock : ℕ → Time) :
    (∃ visited rest, r.order.zipIdx = visited ++ rest ∧ r.Visits input clock visited rest ∧
      (r.evaluateAll input clock).evaluations = r.records input clock visited ∧
      (∀ g ∈ visited, (r.visit input clock g).1 ≠ []) ∧
      (rest ≠ [] → ∃ before ev, (r.evaluateAll input clock).evaluations = before ++ [ev] ∧
        ev.result.blocks = true ∧ ∀ ev' ∈ before, ev'.result.blocks = false)) ↔
      r.CutsInTime input clock := by
  constructor
  · rintro ⟨visited, rest, hord, hvis, hev, -, hcut⟩ before g after hsplit hafter hg hbefore b hb
    by_cases hrest : rest = []
    · subst hrest
      rw [List.append_nil] at hord
      exact absurd (hvis.refuses_last (hord.symm.trans hsplit) hg) hafter
    · obtain ⟨before', g', rfl, hg', hbefore'⟩ := hvis.cut_at hrest
      have hsame : before ++ g :: after = before' ++ g' :: rest := by
        rw [← hsplit, hord, List.append_assoc, List.singleton_append]
      obtain ⟨rfl, rfl, rfl⟩ := cut_unique hsame hg hg' hbefore hbefore'
      -- the records of a gate before the last one are among those that do not block
      obtain ⟨marks, last, hvisit, -, -⟩ := visit_of_evaluated (evaluated_of_refuses hg)
      obtain ⟨firsts, ev, heq, -, hfirsts⟩ := hcut hrest
      have hrecords : r.records input clock before ++ marks = firsts := by
        rw [hev, Registry.records, List.flatMap_append, List.flatMap_singleton, hvisit,
          ← List.append_assoc] at heq
        exact (List.append_inj' heq rfl).1
      rw [← Bool.not_eq_false]
      intro hnot
      obtain ⟨ev', hmem, hblocks⟩ := visit_of_not_evaluated hnot
      have hin : ev' ∈ firsts := by
        rw [← hrecords]
        exact List.mem_append_left _ (List.mem_flatMap.mpr ⟨b, hb, hmem⟩)
      rw [hfirsts ev' hin] at hblocks
      cases hblocks
  · intro h
    obtain ⟨visited, rest, hord, hvis, hev, hne, -⟩ := evaluated_inOrder r input clock
    refine ⟨visited, rest, hord, hvis, hev, hne, fun hrest => ?_⟩
    obtain ⟨before, g, rfl, hg, hbefore⟩ := hvis.cut_at hrest
    have heval := h before g rest (by simpa using hord) hrest hg hbefore
    obtain ⟨marks, last, hvisit, hmarks, hlast⟩ := visit_of_evaluated (evaluated_of_refuses hg)
    refine ⟨r.records input clock before ++ marks, last, ?_, by rw [hlast, hg], ?_⟩
    · rw [hev, Registry.records, List.flatMap_append, List.flatMap_singleton, hvisit,
        ← List.append_assoc]
      rfl
    · intro ev' hmem
      rcases List.mem_append.mp hmem with hm | hm
      · exact records_open heval hbefore ev' hm
      · exact hmarks ev' hm

/-- **When the result is lawful.** For every order, state map, clock and input: exactly when the
walk is not one in which every gate is evaluated and passes, some of them on a stale state, and the first
gate that refuses, unless it is the last, is not behind one that could not be evaluated. -/
theorem lawful_iff (r : Registry V) (input : GateInput) (clock : ℕ → Time) :
    r.Lawful input clock ↔
      (r.AllLetBy input clock → (∀ g ∈ r.order.zipIdx, r.evaluatesPass input g = true) →
        ∀ g ∈ r.order.zipIdx, r.isFresh input clock g = true) ∧ r.CutsInTime input clock := by
  constructor
  · intro h
    refine ⟨fun hlet hpass g hg => ?_, (inOrder_iff r input clock).mp h.inOrder⟩
    have hall : (r.evaluateAll input clock).allPass = true := by
      rw [Registry.evaluateAll_of_letBy hlet]
      exact List.all_eq_true.mpr hpass
    exact ((Registry.evaluations_pass_iff hlet).mp (h.allPass.mp hall) g hg).1
  · rintro ⟨h, hcut⟩
    refine ⟨?_, firstVeto_eq_find? r input clock, (inOrder_iff r input clock).mpr hcut⟩
    by_cases hlet : r.AllLetBy input clock
    · rw [Registry.evaluations_pass_iff hlet]
      constructor
      · intro hall
        rw [Registry.evaluateAll_of_letBy hlet] at hall
        have hpass := List.all_eq_true.mp hall
        exact fun g hg => ⟨h hlet hpass g hg, hpass g hg⟩
      · exact Registry.AllFreshPass.allPass hlet
    · -- a gate failed closed: the verdict is negative, and its veto is on the record
      obtain ⟨hnot, hveto⟩ := Registry.allPass_of_veto hlet
      constructor
      · intro hall; rw [hnot] at hall; cases hall
      · intro hall
        rw [firstVeto_eq_find?] at hveto
        obtain ⟨ev, hev⟩ := Option.isSome_iff_exists.mp hveto
        have hblocks := List.find?_some hev
        simp only [hall ev (List.mem_of_find?_eq_some hev)] at hblocks
        cases hblocks

/-- The registry with every gate passing but one, which is not registered, and one that vetoes. -/
def unregisteredRegistry (missing refusing : GateID) : Registry Unit :=
  { steadyRegistry (fun id => if id = refusing then .veto else .pass) fun _ => none with
    gates := fun id =>
      if id = missing then none
      else (steadyRegistry (fun id => if id = refusing then .veto else .pass) fun _ => none).gates id }

/-- Every gate passes, the session gate on a state that is out of date: all pass, with a DEGRADED
on the record. And with the session gate not registered the walk goes on behind its UNKNOWN, to be cut by
the news gate. -/
theorem unlawful_walks :
    (((steadyRegistry (fun _ => .pass) fun id => if id = .session then some 999 else none).evaluateAll
        (swingInput .buy).gateInput (fun _ => 1000)).allPass = true ∧
      ¬ (steadyRegistry (fun _ => .pass) fun id =>
        if id = .session then some 999 else none).Lawful (swingInput .buy).gateInput
          (fun _ => 1000)) ∧
    ¬ (unregisteredRegistry .session .news).Lawful (swingInput .buy).gateInput (fun _ => 1000) := by
  have hall : ((steadyRegistry (fun _ => .pass) fun id =>
      if id = .session then some 999 else none).evaluateAll (swingInput .buy).gateInput
        (fun _ => 1000)).allPass = true := by decide +kernel
  refine ⟨⟨hall, fun h => ?_⟩, fun h => ?_⟩
  · have hrecord : ¬ ∀ ev ∈ ((steadyRegistry (fun _ => .pass) fun id =>
        if id = .session then some 999 else none).evaluateAll (swingInput .buy).gateInput
          (fun _ => 1000)).evaluations, ev.result = .pass := by decide +kernel
    exact hrecord (h.allPass.mp hall)
  · have hcut := (inOrder_iff _ _ _).mp h.inOrder
    have hevaluated := hcut [(.dataQuality, 0), (.session, 1)] (.news, 2)
      ((canonicalOrder.drop 3).zipIdx 3) (by decide +kernel) (by decide +kernel) (by decide +kernel)
      (by decide +kernel) (.session, 1) (by decide +kernel)
    exact absurd hevaluated (by decide +kernel)

end PredictATrade.Realtime
