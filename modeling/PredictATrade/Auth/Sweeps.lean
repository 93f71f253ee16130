import PredictATrade.Auth.SessionSteps

/-!
# `Auth.Sweeps` — what a statement on many sessions reaches

From its snapshot to its commit, such a statement has each row it is to reach still before it, or
holds it with a version that no longer meets its condition. So after the commit no row that it was
to reach meets the condition. Rows that were committed after the snapshot are not among them.

Which rows those are is the caller's affair: `Reaches` speaks of one row, and a step keeps it as long
as it does not insert that row (`Fades`).
-/

namespace PredictATrade.Auth

open Lib.ReadCommitted

/-! ## Conditions -/

theorem apply_not_matches (query : SessionQuery) (now : ℤ) (r : Session) {r' : Session}
    (h : query.apply now r = some r') : query.matches r' = false := by
  cases query with
  | allOf user => cases h
  | _ =>
      rw [← Option.some.inj h]
      simp [SessionQuery.matches, Session.revoke]

/-- A row that meets a condition after some of its life was taken met it before. -/
theorem Fades.matches_of {com v : Option Session} (h : Fades com v) {query : SessionQuery}
    {r' : Session} (hv : v = some r') (hm : query.matches r' = true) :
    ∃ r, com = some r ∧ query.matches r = true := by
  rcases h with rfl | ⟨r, hr, rfl | ⟨t, rfl⟩⟩
  · exact ⟨r', hv, hm⟩
  · cases hv
  · rw [Option.some.injEq] at hv
    subst hv
    refine ⟨r, hr, ?_⟩
    cases query with
    | allOf user => exact hm
    | _ => simp [SessionQuery.matches, Session.revoke] at hm

namespace State

variable {env : Env} {s s' : State} {c : CallId} {pick k : SessionId} {query : SessionQuery}
  {todo : List SessionId} {after : SweepEnd} {i : Input}

/-! ## Reaching a row -/

/-- The sweep of the call `c` that has the rows `todo` before it reaches the row `k`. -/
def Reaches (s : State) (c : CallId) (query : SessionQuery) (todo : List SessionId)
    (k : SessionId) : Prop :=
  ∀ r, (s.sessions k).committed = some r → query.matches r = true →
    k ∈ todo ∨ ∃ v, (s.sessions k).held = some (c, v) ∧
      ∀ r', v = some r' → query.matches r' = false

/-- `Reaches` of the library, for the sessions. -/
theorem reaches_iff : Reaches s c query todo k ↔
    Lib.ReadCommitted.Reaches s.sessions c query.matches todo k := Iff.rfl

/-- The snapshot has every row that meets the condition. -/
theorem reaches_scan (h : s.SessionInv) (hc : s.calls c = some (.scan query after)) :
    Reaches s c query (s.sessions.scan c query.matches (List.range s.next)) k := by
  apply reaches_iff.mpr
  apply Lib.ReadCommitted.reaches_scan
  · intro r hr
    exact List.mem_range.mpr (h.lt_next_of_row hr)
  · intro v hheld
    exact h.holding hc hheld

/-- Steps of others, which cannot touch what the sweep holds. -/
theorem Reaches.others (hr : Reaches s c query todo k)
    (hheld : ∀ v, (s.sessions k).held = some (c, v) → (s'.sessions k).held = some (c, v))
    (hf : Fades (s.sessions k).committed (s'.sessions k).committed) :
    Reaches s' c query todo k := by
  apply reaches_iff.mpr
  apply Lib.ReadCommitted.Reaches.others (reaches_iff.mp hr) hheld
  intro r' hr' hm
  exact hf.matches_of hr' hm

/-- The sweep takes its next row. -/
theorem Reaches.sweepRow (hr : Reaches s c query todo k)
    (hfree : (s.sessions pick).free c = true) :
    Reaches ((s.setSessions (s.sessions.sweepRow c query.matches (query.apply s.now) pick)).goto c
      (.sweep query (todo.erase pick) after)) c query (todo.erase pick) k := by
  apply reaches_iff.mpr
  apply Lib.ReadCommitted.Reaches.sweepRow (reaches_iff.mp hr) hfree
  intro r r' hr'
  exact apply_not_matches query s.now r hr'

/-- **After the commit** the row does not meet the condition. -/
theorem Reaches.commit (hr : Reaches s c query [] k)
    (hsessions : s'.sessions = s.sessions.commit c)
    (hf : Fades (s.sessions k).committed (s'.sessions k).committed) {r : Session}
    (hrow : (s'.sessions k).committed = some r) : query.matches r = false := by
  rw [hsessions] at hrow hf
  refine Lib.ReadCommitted.Reaches.commit (reaches_iff.mp hr) hrow ?_
  intro v hv r' hr' hm
  have hcom : ((s.sessions.commit c) k).committed = v := by
    show ((s.sessions k).commit c).committed = v
    rw [commit_of_held hv]
  exact (hcom ▸ hf).matches_of hr' hm

/-- Where a call that sweeps has come from. -/
theorem sweep_step (h' : (s.step env i).calls c = some (.sweep query todo after)) :
    (s.calls c = some (.scan query after) ∧ i.actor = some c) ∨
      ∃ todo', s.calls c = some (.sweep query todo' after) := by
  rcases step_follows h' with ⟨hsame, -⟩ | ⟨-, -, hstart⟩ | hdone | ⟨pick, p, hi, hp, hfollows⟩
  · exact Or.inr ⟨todo, hsame⟩
  · cases hstart
  · cases hdone
  · cases hfollows with
    | next hnext =>
        cases hnext with
        | scan =>
            left
            rw [hi]
            exact ⟨hp, rfl⟩
    | refreshLock _ _ _ _ hlocked => cases hlocked
    | sweepRow => exact Or.inr ⟨_, hp⟩

/-- **One step of a sweep**, or of anything else while it stands: what it was to reach it still
reaches. A sweep that has just taken its snapshot reaches every row. -/
theorem reaches_step (h : s.SessionInv)
    (h' : (s.step env i).calls c = some (.sweep query todo after))
    (hf : Fades (s.sessions k).committed ((s.step env i).sessions k).committed) :
    (s.calls c = some (.scan query after) ∧ Reaches (s.step env i) c query todo k) ∨
      ∃ todo', s.calls c = some (.sweep query todo' after) ∧
        (Reaches s c query todo' k → Reaches (s.step env i) c query todo k) := by
  have heffect := step_effect env h i
  rcases step_calls h' with ⟨hsame, hidle⟩ | ⟨-, -, hstart⟩ | ⟨-, hdone⟩ |
    ⟨pick, p, -, hp, hout⟩
  · refine Or.inr ⟨todo, hsame, fun hr => ?_⟩
    rcases hidle with hactor | hidle
    · exact hr.others (fun v hv => (heffect.others k c v hactor).mpr hv) hf
    · rw [hidle]
      exact hr
  · cases hstart
  · cases hdone
  · generalize s.step env i = s' at *
    cases hout with
    | wait => exact Or.inr ⟨todo, h', id⟩
    | move hnext =>
        rw [goto_calls_self, Option.some.injEq] at h'
        cases hnext with
        | scan query₀ after₀ =>
            injection h' with hq ht ha
            subst hq ha
            left
            rw [← ht]
            refine ⟨hp, ?_⟩
            show Reaches s c query₀ _ k
            exact reaches_scan h hp
        | _ => cases h'
    | sweepRow hpick hfree =>
        rw [goto_calls_self, Option.some.injEq] at h'
        injection h' with hq ht ha
        subst hq ht ha
        exact Or.inr ⟨_, hp, fun hr => hr.sweepRow hfree⟩
    | createSession user origin =>
        rw [goto_calls_self, Option.some.injEq] at h'
        have hplain := origin_after_plain user origin
        rw [h'] at hplain
        cases hplain
    | deviceInsert user consumed =>
        rw [goto_calls_self, Option.some.injEq] at h'
        cases consumed <;> cases h'
    | refreshLock hfree hview htoken huser hlocked =>
        rw [goto_calls_self, Option.some.injEq] at h'
        subst h'
        cases hlocked
    | rotateInsert user session family =>
        unfold rotateInsert at h'
        rw [goto_calls_self, Option.some.injEq] at h'
        cases h'
    | _ =>
        rw [goto_calls_self, Option.some.injEq] at h'
        cases h'

end State

end PredictATrade.Auth
