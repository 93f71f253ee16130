import PredictATrade.Auth.SessionSteps

/-!
# `Auth.Tokens` — which session a refresh token opens

A refresh token is written into one session row and, whatever becomes of that row, into no other. So
once the row is revoked or deleted no refresh accepts the token again (`never_accepted`). The first
part is an invariant over all versions of a row, those included that a transaction has not committed
yet; the second is `Spent`, which no step takes back.
-/

namespace PredictATrade.Auth

open Lib.ReadCommitted Lib.Runs

namespace State

variable {env : Env} {s s₀ s' : State} {c : CallId} {p : Call} {i : Input} {k j : SessionId}
  {token : ℕ} {r : Session}

/-! ## Versions -/

/-- A version that a step brings has the token of one that was there, or a new one, in a new row. -/
def FromOld (s s' : State) (k : SessionId) (r : Session) : Prop :=
  (∃ r₀, (s.sessions k).Has r₀ ∧ r₀.refreshTokenHash = r.refreshTokenHash) ∨
    (k = s.next ∧ r.refreshTokenHash = s.next + 1 ∧ s'.next = s.next + 3)

theorem fromOld_of_has (h : (s.sessions k).Has r) : FromOld s s' k r := Or.inl ⟨r, h, rfl⟩

theorem revokeLocked_has (h : ((s.revokeLocked c j).sessions k).Has r) : FromOld s s' k r := by
  unfold revokeLocked at h
  split at h
  · rename_i r₀ hview
    rcases has_of_write h with hold | ⟨rfl, hr⟩
    · exact fromOld_of_has hold
    · rw [Option.some.injEq] at hr
      subst hr
      exact Or.inl ⟨r₀, has_of_view hview, rfl⟩
  · exact fromOld_of_has h

theorem apply_token {query : SessionQuery} {now : ℤ} {r₀ : Session}
    (h : query.apply now r₀ = some r) : r₀.refreshTokenHash = r.refreshTokenHash := by
  cases query with
  | allOf user => cases h
  | _ =>
      rw [← Option.some.inj h]
      rfl

theorem outcome_version (h : Outcome env s c p s') (hr : (s'.sessions k).Has r) :
    FromOld s s' k r := by
  cases h with
  | createSession user origin =>
      rcases has_of_put hr with hold | ⟨hk, hv⟩
      · exact fromOld_of_has hold
      · rw [Option.some.injEq] at hv
        subst hv
        exact Or.inr ⟨hk, rfl, rfl⟩
  | refreshLock hfree hview htoken huser hlocked =>
      rcases has_of_write hr with hold | ⟨rfl, hv⟩
      · exact fromOld_of_has hold
      · exact fromOld_of_has (has_of_view hv)
  | rotateRevoke session user family => exact revokeLocked_has hr
  | closeRevoke session => exact revokeLocked_has hr
  | rotateInsert session user family =>
      rcases has_of_write hr with hold | ⟨hk, hv⟩
      · exact fromOld_of_has hold
      · rw [Option.some.injEq] at hv
        subst hv
        exact Or.inr ⟨hk, rfl, rfl⟩
  | commit hp => exact fromOld_of_has (has_of_commit hr)
  | completeReset query sub jti => exact fromOld_of_has (has_of_commit hr)
  | @sweepRow query todo after pick hpick hfree =>
      change ((s.sessions.sweepRow c query.matches (query.apply s.now) pick) k).Has r at hr
      rcases sweepRow_cases (t := c) (k := pick) query.matches (query.apply s.now) with
        ⟨-, heq⟩ | ⟨r₀, hview, -, heq⟩
      · rw [heq] at hr
        exact fromOld_of_has hr
      · rw [heq] at hr
        rcases has_of_write hr with hold | ⟨rfl, hv⟩
        · exact fromOld_of_has hold
        · exact Or.inl ⟨r₀, has_of_view hview, apply_token hv⟩
  | resetUsed token password => exact fromOld_of_has (has_of_rollback hr)
  | resetInactive token password => exact fromOld_of_has (has_of_rollback hr)
  | _ => exact fromOld_of_has hr

/-- A version after a step has a token that was there, or a new one in a new row. -/
theorem step_version (hr : ((s.step env i).sessions k).Has r) : FromOld s (s.step env i) k r := by
  have hstep := step_inv env s i
  generalize s.step env i = s' at hstep hr ⊢
  cases hstep with
  | exec pick hc => exact outcome_version (advance_outcome env s _ pick _) hr
  | abort hc => exact fromOld_of_has (has_of_rollback hr)
  | _ => exact fromOld_of_has hr

/-! ## One session a token -/

/-- Tokens are drawn, and no two rows have the same one. -/
structure TokenInv (s : State) : Prop where
  bound : ∀ k r, (s.sessions k).Has r → r.refreshTokenHash < s.next
  unique : ∀ k j r r', (s.sessions k).Has r → (s.sessions j).Has r' →
    r.refreshTokenHash = r'.refreshTokenHash → k = j

/-- The token is in no row but `k`, and will be in no other. -/
structure Opens (s : State) (token : ℕ) (k : SessionId) : Prop where
  drawn : token < s.next
  only : ∀ j r, (s.sessions j).Has r → r.refreshTokenHash = token → j = k

theorem TokenInv.opens (h : TokenInv s) (hr : (s.sessions k).Has r) :
    Opens s r.refreshTokenHash k :=
  ⟨h.bound k r hr, fun j r' hr' ht => h.unique j k r' r hr' hr ht⟩

/-- **Step.** A token that opens one row goes on opening that one only. -/
theorem opens_step (hnext : s.next ≤ (s.step env i).next) (h : Opens s token k) :
    Opens (s.step env i) token k := by
  refine ⟨Nat.lt_of_lt_of_le h.drawn hnext, ?_⟩
  intro j r hr ht
  rcases step_version hr with ⟨r₀, hr₀, ht₀⟩ | ⟨-, hnew, -⟩
  · exact h.only j r₀ hr₀ (ht₀.trans ht)
  · have := h.drawn
    omega

/-- **Step.** No two rows have the same token. -/
theorem tokenInv_step (hnext : s.next ≤ (s.step env i).next) (h : TokenInv s) :
    TokenInv (s.step env i) := by
  constructor
  · intro k r hr
    rcases step_version hr with ⟨r₀, hr₀, ht₀⟩ | ⟨-, hnew, hdraw⟩
    · have := h.bound k r₀ hr₀
      omega
    · omega
  · intro k j r r' hr hr' ht
    rcases step_version hr with ⟨r₀, hr₀, ht₀⟩ | ⟨hk, hnew, -⟩
    · rcases step_version hr' with ⟨r₁, hr₁, ht₁⟩ | ⟨-, hnew', -⟩
      · exact h.unique k j r₀ r₁ hr₀ hr₁ (by rw [ht₀, ht, ht₁])
      · have := h.bound k r₀ hr₀
        omega
    · rcases step_version hr' with ⟨r₁, hr₁, ht₁⟩ | ⟨hj, -, -⟩
      · have := h.bound j r₁ hr₁
        omega
      · rw [hk, hj]

/-- No two rows have the same token at the start. -/
theorem tokenInv_of_quiescent (h : Quiescent s₀) : TokenInv s₀ := by
  have hcom : ∀ k r, (s₀.sessions k).Has r → (s₀.sessions k).committed = some r := by
    rintro k r (hr | ⟨c, hc⟩)
    · exact hr
    · rw [h.sessions k] at hc
      cases hc
  constructor
  · intro k r hr
    exact h.token k r (hcom k r hr)
  · intro k j r r' hr hr' ht
    exact h.oneToken k j r r' (hcom k r hr) (hcom j r' hr') ht

/-! ## Old rows -/

/-- The key of a row that has been committed, and that nobody inserts again. -/
structure Old (s : State) (k : SessionId) : Prop where
  lt_next : k < s.next
  kept : ∀ c j u f, s.calls c ≠ some (.rotateCommit j u k f)

theorem SessionInv.old (h : s.SessionInv) (hr : (s.sessions k).committed = some r) : Old s k := by
  refine ⟨h.lt_next_of_row hr, ?_⟩
  intro c j u f hc
  rw [(h.inserted c j u k f hc).1] at hr
  cases hr

/-- **Step.** The key of an old row is not inserted again. -/
theorem old_step (h : s.SessionInv) (hk : Old s k) : Old (s.step env i) k := by
  refine ⟨Nat.lt_of_lt_of_le hk.lt_next (step_effect env h i).next, ?_⟩
  intro c j u f hc
  rcases rotateCommit_step hc with ⟨hsame, -⟩ | ⟨family, pick, -, -, hnew, -⟩
  · exact hk.kept c j u f hsame
  · exact absurd hnew (Nat.ne_of_lt hk.lt_next)

/-- A step takes life from an old row, or leaves it as it is. -/
theorem Old.fades (hk : Old s k) (h : s.SessionInv) :
    Fades (s.sessions k).committed ((s.step env i).sessions k).committed := by
  rcases (step_effect env h i).change k with hfades | ⟨c, user, origin, -, -, hnew, -⟩ |
    ⟨c, session, user, f, -, hc, -, -⟩
  · exact hfades
  · exact absurd hnew (Nat.ne_of_lt hk.lt_next)
  · exact absurd hc (hk.kept c session user f)

end State

theorem Fades.spent {com v : Option Session} (h : Fades com v) (hs : Spent com) : Spent v := by
  rcases h with rfl | ⟨r, hr, rfl | ⟨t, rfl⟩⟩
  · exact hs
  · intro r' hr'
    cases hr'
  · intro r' hr'
    rw [← Option.some.inj hr']
    exact fun he => nomatch he

theorem Fades.user {com v : Option Session} (h : Fades com v) {u : UserId}
    (hu : ∀ r, com = some r → r.userId = u) : ∀ r, v = some r → r.userId = u := by
  rcases h with rfl | ⟨r, hr, rfl | ⟨t, rfl⟩⟩
  · exact hu
  · intro r' hr'
    cases hr'
  · intro r' hr'
    rw [← Option.some.inj hr']
    exact hu r hr

namespace State

/-! ## Accepting a token -/

/-- The refresh token that the step accepts: its call goes on to rotate the session. -/
def refreshAccepted (env : Env) (s : State) : Input → Option ℕ
  | .exec c pick =>
    match s.calls c, (s.step env (.exec c pick)).calls c with
    | some (.refreshLock token _ _ _), some (.rotateRevoke ..) => some token
    | _, _ => none
  | _ => none

/-- A token is accepted for a committed row that is not revoked. -/
theorem refreshAccepted_row (h : s.SessionInv) (ha : refreshAccepted env s i = some token) :
    ∃ k r, (s.sessions k).committed = some r ∧ r.refreshTokenHash = token ∧ r.revokedAt = none := by
  unfold refreshAccepted at ha
  split at ha
  · split at ha
    · rename_i c pick _ _ token' session user status _ _ _ hc hc'
      rw [Option.some.injEq] at ha
      subst ha
      have hnone : s.HoldsNone c := h.holdsNone hc fun _ _ _ => id
      rcases step_follows hc' with ⟨hsame, -⟩ | ⟨⟨request, hcall⟩, -⟩ | hdone |
        ⟨pick', p, -, hp, hfollows⟩
      · rw [hc] at hsame
        cases hsame
      · cases hcall
      · cases hdone
      · rw [hc, Option.some.injEq] at hp
        subst hp
        cases hfollows with
        | next hnext => cases hnext
        | @refreshLock _ _ _ _ r _ hfree hview htoken huser hlocked =>
            cases hlocked with
            | rotate hrev hactive =>
                refine ⟨session, r, ?_, htoken, hrev⟩
                rw [← view_of_holdsNone hnone session, hview]
    · cases ha
  · cases ha

/-- The token opens a row that is revoked or gone for good. -/
structure Dead (s : State) (token : ℕ) (k : SessionId) : Prop where
  opens : Opens s token k
  old : Old s k
  spent : Spent (s.sessions k).committed

/-- **Step.** A token whose row is revoked or gone stays dead. -/
theorem dead_step (h : s.SessionInv) (hd : Dead s token k) : Dead (s.step env i) token k :=
  ⟨opens_step (step_effect env h i).next hd.opens, old_step h hd.old,
    (hd.old.fades h).spent hd.spent⟩

theorem Dead.not_accepted (hd : Dead s token k) (h : s.SessionInv) :
    refreshAccepted env s i ≠ some token := by
  intro ha
  obtain ⟨j, r, hr, ht, hrev⟩ := refreshAccepted_row h ha
  have hj := hd.opens.only j r (Or.inl hr) ht
  rw [hj] at hr
  exact hd.spent r hr hrev

/-- **A dead token is never accepted again**, by no run. -/
theorem never_accepted (env : Env) (h : s.SessionInv) (hd : Dead s token k) (is : List Input)
    (i : Input) : refreshAccepted env (run (State.step env) s is) i ≠ some token := by
  have hrun : (run (State.step env) s is).SessionInv ∧ Dead (run (State.step env) s is) token k :=
    run_keeps (I := fun s => s.SessionInv ∧ Dead s token k)
      (fun s i hs => ⟨(step_effect env hs.1 i).inv, dead_step hs.1 hs.2⟩) ⟨h, hd⟩ is
  exact hrun.2.not_accepted hrun.1

end State

end PredictATrade.Auth
