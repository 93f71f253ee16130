import PredictATrade.Auth.Spared
import PredictATrade.Auth.Sweeps
import PredictATrade.Auth.Tokens

/-!
# `Auth.Credentials` — what a new password ends

`resetPassword` revokes the sessions of the user, in the transaction that stores the new password;
`changePassword` deletes them. Once that has committed, no refresh accepts the token of a session that
was committed before the statement began, and a reset token that was used is not accepted again
(`credential_change`). Trusted devices are trusted as devices, and a reset link is good until it is
used or expires: no step of the two calls touches a device or a link that is not its own, and both are
accepted after it (`device_outlives_change`).
-/

namespace PredictATrade.Auth

open Lib.ReadCommitted Lib.Runs

/-- The call is about to revoke or delete all sessions of the user, after it has set a password. -/
def Call.endsSessions (user : UserId) : Call → Bool
  | .scan (.user u) (.completeReset _ _) | .scan (.allOf u) _ => u = user
  | _ => false

/-- The call is about to commit that. -/
def Call.commitsEnd (user : UserId) : Call → Bool
  | .sweep (.user u) [] (.completeReset _ _) | .sweep (.allOf u) [] _ => u = user
  | _ => false

namespace State

variable {env : Env} {s s₀ : State} {c : CallId} {p p' : Call} {i : Input} {user : UserId}
  {k : SessionId} {token : ℕ} {query : SessionQuery} {after : SweepEnd} {r : Session}

/-! ## The conditions of the two statements -/

/-- The conditions that reach every live session of the user. -/
def Covers (query : SessionQuery) (user : UserId) : Prop :=
  query = .user user ∨ query = .allOf user

theorem spent_of_not_matches (hq : Covers query user) (hm : query.matches r = false)
    (hu : r.userId = user) : r.revokedAt ≠ none := by
  intro hrev
  rcases hq with rfl | rfl
  · simp [SessionQuery.matches, hu, hrev] at hm
  · simp [SessionQuery.matches, hu] at hm

/-- A call that ends sessions scans them for the user. -/
theorem endsSessions_spec (h : p.endsSessions user = true) :
    ∃ query after, p = .scan query after ∧ Covers query user := by
  cases p with
  | scan query after =>
      cases query with
      | user u =>
          cases after with
          | commit => cases h
          | completeReset sub jti => exact ⟨_, _, rfl, Or.inl (congrArg _ (of_decide_eq_true h))⟩
      | allOf u => exact ⟨_, _, rfl, Or.inr (congrArg _ (of_decide_eq_true h))⟩
      | _ => cases h
  | _ => cases h

/-- A call that commits the end has no row left to update. -/
theorem commitsEnd_spec (h : p.commitsEnd user = true) :
    ∃ query after, p = .sweep query [] after := by
  cases p with
  | sweep query todo after =>
      cases todo with
      | nil => exact ⟨_, _, rfl⟩
      | cons k ks => cases query <;> cases h
  | _ => cases h

/-! ## From the snapshot to the commit -/

theorem done_stays (hc : s.calls c = some .done) : (s.step env i).calls c = some .done := by
  obtain ⟨p', hp'⟩ := step_calls_some env i hc
  rcases step_follows hp' with ⟨hsame, -⟩ | ⟨-, hnone, -⟩ | rfl | ⟨pick, p, -, hp, hfollows⟩
  · rw [hp', ← hsame, hc]
  · rw [hc] at hnone
    cases hnone
  · exact hp'
  · rw [hc, Option.some.injEq] at hp
    subst hp
    cases hfollows with
    | next hnext =>
        cases hnext with
        | stop => exact hp'

/-- A row of the user while the statement runs, and where the statement stands. -/
structure Ending (c : CallId) (query : SessionQuery) (after : SweepEnd) (user : UserId)
    (token : ℕ) (k : SessionId) (s : State) : Prop where
  inv : s.SessionInv
  old : Old s k
  opens : Opens s token k
  owner : ∀ r, (s.sessions k).committed = some r → r.userId = user
  stands : s.calls c = some .done ∨
    ∃ todo, s.calls c = some (.sweep query todo after) ∧ Reaches s c query todo k

/-- The statement takes its snapshot. -/
theorem ending_of_scan (env : Env) (pick : SessionId) (hinv : s.SessionInv) (hold : Old s k)
    (hopens : Opens s token k) (howner : ∀ r, (s.sessions k).committed = some r → r.userId = user)
    (hc : s.calls c = some (.scan query after)) :
    Ending c query after user token k (s.step env (.exec c pick)) := by
  have heffect := step_effect env hinv (.exec c pick)
  have hfades : Fades (s.sessions k).committed
      ((s.step env (.exec c pick)).sessions k).committed := hold.fades hinv
  have hsweep : (s.step env (.exec c pick)).calls c = some (.sweep query
      (s.sessions.scan c query.matches (List.range s.next)) after) := by
    rw [step_exec hc]
    exact goto_calls_self
  refine ⟨heffect.inv, old_step hinv hold, opens_step heffect.next hopens, hfades.user howner,
    Or.inr ⟨_, hsweep, ?_⟩⟩
  rcases reaches_step hinv hsweep hfades with ⟨-, hr⟩ | ⟨todo, hc', -⟩
  · exact hr
  · rw [hc] at hc'
    cases hc'

/-- **Step.** An update that is ending the sessions goes on doing so. -/
theorem ending_step (h : Ending c query after user token k s) (i : Input) :
    Ending c query after user token k (s.step env i) := by
  have heffect := step_effect env h.inv i
  have hfades : Fades (s.sessions k).committed ((s.step env i).sessions k).committed :=
    h.old.fades h.inv
  refine ⟨heffect.inv, old_step h.inv h.old, opens_step heffect.next h.opens,
    hfades.user h.owner, ?_⟩
  rcases h.stands with hdone | ⟨todo, hc, hr⟩
  · exact Or.inl (done_stays hdone)
  · obtain ⟨p', hp'⟩ := step_calls_some env i hc
    have hp'_cases : p' = .done ∨ ∃ todo', p' = .sweep query todo' after := by
      rcases step_follows hp' with ⟨hsame, -⟩ | ⟨-, hnone, -⟩ | rfl | ⟨pick, p, -, hp, hfollows⟩
      · rw [hc, Option.some.injEq] at hsame
        exact Or.inr ⟨todo, hsame.symm⟩
      · rw [hc] at hnone
        cases hnone
      · exact Or.inl rfl
      · rw [hc, Option.some.injEq] at hp
        subst hp
        cases hfollows with
        | next hnext =>
            cases hnext with
            | stop => exact Or.inl rfl
        | sweepRow hpick htodo => exact Or.inr ⟨_, rfl⟩
    rcases hp'_cases with rfl | ⟨todo', rfl⟩
    · exact Or.inl hp'
    · rcases reaches_step h.inv hp' hfades with ⟨hscan, -⟩ | ⟨todo₀, hc₀, hkeep⟩
      · rw [hc] at hscan
        cases hscan
      · rw [hc, Option.some.injEq] at hc₀
        injection hc₀ with _ htodo _
        subst htodo
        exact Or.inr ⟨todo', hp', hkeep hr⟩

/-- **The commit of the statement** leaves the token dead. -/
theorem dead_of_commit {pick : SessionId} (h : Ending c query after user token k s)
    (hq : Covers query user) (hc : s.calls c = some (.sweep query [] after)) :
    Dead (s.step env (.exec c pick)) token k := by
  have heffect := step_effect env h.inv (.exec c pick)
  have hfades : Fades (s.sessions k).committed
      ((s.step env (.exec c pick)).sessions k).committed := h.old.fades h.inv
  refine ⟨opens_step heffect.next h.opens, old_step h.inv h.old, ?_⟩
  intro r hr
  have hsessions : (s.step env (.exec c pick)).sessions = s.sessions.commit c := by
    rw [step_exec hc]
    cases after <;> rfl
  rcases h.stands with hdone | ⟨todo, hc', hreaches⟩
  · rw [hc] at hdone
    cases hdone
  · rw [hc, Option.some.injEq] at hc'
    injection hc' with _ htodo _
    subst htodo
    exact spent_of_not_matches hq (hreaches.commit hsessions hfades hr) (hfades.user h.owner r hr)

/-! ## Runs -/

/-- An old row, through any run. -/
theorem old_run (env : Env) {s : State} (h : s.SessionInv) (hold : Old s k) (hopens : Opens s token k)
    (howner : ∀ r, (s.sessions k).committed = some r → r.userId = user) (is : List Input) :
    (run (State.step env) s is).SessionInv ∧ Old (run (State.step env) s is) k ∧
      Opens (run (State.step env) s is) token k ∧
      ∀ r, ((run (State.step env) s is).sessions k).committed = some r → r.userId = user :=
  run_keeps (I := fun s => s.SessionInv ∧ Old s k ∧ Opens s token k ∧
      ∀ r, (s.sessions k).committed = some r → r.userId = user)
    (fun _ i hs => ⟨(step_effect env hs.1 i).inv, old_step hs.1 hs.2.1,
      opens_step (step_effect env hs.1 i).next hs.2.2.1,
      (hs.2.1.fades hs.1).user hs.2.2.2⟩) ⟨h, hold, hopens, howner⟩ is

/-- **Run.** Sessions and tokens keep their invariants. -/
theorem tokenInv_run (env : Env) (h : Quiescent s₀) (is : List Input) :
    (run (State.step env) s₀ is).SessionInv ∧ TokenInv (run (State.step env) s₀ is) :=
  run_keeps (I := fun s => s.SessionInv ∧ TokenInv s)
    (fun _ i hs => ⟨(step_effect env hs.1 i).inv,
      tokenInv_step (step_effect env hs.1 i).next hs.2⟩)
    ⟨sessionInv_of_quiescent h, tokenInv_of_quiescent h⟩ is

/-- The token of a session that was committed before the statement began is dead after its commit. -/
theorem dead_after_change (env : Env) (h : Quiescent s₀) {pre rest during : List Input}
    {pick : SessionId} (pick' : SessionId)
    (hrow : ((run (State.step env) s₀ pre).sessions k).committed = some r) (hu : r.userId = user)
    (hbegin : (run (State.step env) s₀ (pre ++ rest)).calls c = some p)
    (hp : p.endsSessions user = true)
    (hend : (run (State.step env) s₀ (pre ++ rest ++ .exec c pick :: during)).calls c = some p')
    (hp' : p'.commitsEnd user = true) :
    Dead (run (State.step env) s₀ (pre ++ rest ++ .exec c pick :: during ++ [.exec c pick']))
      r.refreshTokenHash k := by
  obtain ⟨query, after, rfl, hq⟩ := endsSessions_spec hp
  obtain ⟨hinv, htoken⟩ := tokenInv_run env h pre
  have howner : ∀ r', ((run (State.step env) s₀ pre).sessions k).committed = some r' →
      r'.userId = user := by
    intro r' hr'
    rw [hrow, Option.some.injEq] at hr'
    rw [← hr', hu]
  -- the row, when the statement begins
  have hbefore := old_run env hinv (hinv.old hrow) (htoken.opens (Or.inl hrow)) howner rest
  rw [← run_append] at hbefore
  obtain ⟨hinv₁, hold₁, hopens₁, howner₁⟩ := hbefore
  -- the snapshot has it, and the statement keeps it in reach
  have hstart := ending_of_scan env pick hinv₁ hold₁ hopens₁ howner₁ hbegin
  have hstands : Ending c query after user r.refreshTokenHash k
      (run (State.step env) _ during) :=
    run_keeps (I := Ending c query after user r.refreshTokenHash k) (fun _ i hs => ending_step hs i)
      hstart during
  rw [← run_cons, ← run_append] at hstands
  obtain ⟨query', after', rfl⟩ := commitsEnd_spec hp'
  rw [run_snoc]
  rcases hstands.stands with hdone | ⟨todo, hc, -⟩
  · rw [hend] at hdone
    cases hdone
  · have hsame := hend
    rw [hc, Option.some.injEq] at hsame
    injection hsame with hquery htodo hafter
    subst hquery htodo hafter
    exact dead_of_commit hstands hq hc

theorem commitsEnd_changes (h : p.commitsEnd user = true) : p.changes = true := by
  cases p with
  | sweep query todo after =>
      cases todo with
      | cons k ks => cases query <;> cases h
      | nil =>
          cases query with
          | user u =>
              cases after with
              | commit => cases h
              | completeReset => rfl
          | allOf u => cases after <;> rfl
          | _ => cases h
  | _ => cases h

/-- Throughout a run in which it is seen about to commit the end of the sessions, a call changes the
password and does nothing else. -/
theorem onChange_of_commitsEnd (env : Env) {is pre : List Input} {rest : List Input}
    (hend : (run (State.step env) s₀ is).calls c = some p') (hp' : p'.commitsEnd user = true)
    (hpre : pre <+: is ++ rest) : OnChange (run (State.step env) s₀ pre) c := by
  have hchanges := commitsEnd_changes hp'
  rcases List.prefix_or_prefix_of_prefix hpre (List.prefix_append is rest) with ⟨more, rfl⟩ | ⟨more, rfl⟩
  · rw [run_append] at hend
    exact fun q hq => Or.inl (changes_of_later env more hend hchanges q hq)
  · rw [run_append]
    refine changes_stays env more hend fun q hq => Or.inl ?_
    rw [hend, Option.some.injEq] at hq
    rw [← hq, hchanges]

/-- **Credential change.** A call is about to end the sessions of a user whose password it has set,
and later to commit that. After the commit no refresh token of a session of the user that was
committed before the call began to end them is accepted, and the reset token of the call, if it has one,
changes no password again. No step of the call, from its first to its last, touches a trusted device, or
what a reset link other than its own is checked for; and a device or a link that is good anywhere in the run
is good at its end, unless it has been used in between or has expired. -/
theorem credential_change (env : Env) (h : Quiescent s₀) {before during : List Input}
    {pick pick' : SessionId}
    (hbegin : (run (State.step env) s₀ before).calls c = some p) (hp : p.endsSessions user = true)
    (hend : (run (State.step env) s₀ (before ++ .exec c pick :: during)).calls c = some p')
    (hp' : p'.commitsEnd user = true) (later : List Input) (i : Input) :
    (∀ pre, pre <+: before → ∀ k r, ((run (State.step env) s₀ pre).sessions k).committed = some r →
      r.userId = user →
      refreshAccepted env (run (State.step env) s₀
        (before ++ .exec c pick :: during ++ .exec c pick' :: later)) i ≠
          some r.refreshTokenHash) ∧
    (∀ query sub jti, p' = .sweep query [] (.completeReset sub jti) →
      resetCompleted (run (State.step env) s₀
        (before ++ .exec c pick :: during ++ .exec c pick' :: later)) i ≠ some (sub, jti)) ∧
    (∀ pre j, pre ++ [j] <+: before ++ .exec c pick :: during ++ .exec c pick' :: later →
      j.actor = some c →
      (run (State.step env) s₀ (pre ++ [j])).devices = (run (State.step env) s₀ pre).devices ∧
      (∀ user' hash, (run (State.step env) s₀ (pre ++ [j])).findDevice user' hash =
        (run (State.step env) s₀ pre).findDevice user' hash) ∧
      ∀ token : ResetToken,
        resetCompleted (run (State.step env) s₀ pre) j ≠ some (token.sub, token.jti) →
        (LinkGood (run (State.step env) s₀ (pre ++ [j])) token ↔
          LinkGood (run (State.step env) s₀ pre) token)) ∧
    ∀ pre mid, pre ++ mid = before ++ .exec c pick :: during ++ .exec c pick' :: later →
      (∀ user' hash d r, (run (State.step env) s₀ pre).findDevice user' hash = some d →
        (run (State.step env) s₀ pre).devices d = some r →
        d ∉ trace (State.step env) deviceConsumed (run (State.step env) s₀ pre) mid →
        (run (State.step env) s₀ (pre ++ mid)).now < r.expiresAt →
        ((run (State.step env) s₀ (pre ++ mid)).findDevice user' hash).isSome = true) ∧
      ∀ token : ResetToken, LinkGood (run (State.step env) s₀ pre) token →
        (token.sub, token.jti) ∉
          trace (State.step env) resetCompleted (run (State.step env) s₀ pre) mid →
        (run (State.step env) s₀ (pre ++ mid)).now < token.expiresAt →
        LinkGood (run (State.step env) s₀ (pre ++ mid)) token := by
  have hlater : before ++ .exec c pick :: during ++ .exec c pick' :: later =
      before ++ .exec c pick :: during ++ [.exec c pick'] ++ later := by
    rw [List.append_assoc _ [_] later]
    rfl
  refine ⟨?_, ?_, ?_, ?_⟩
  · rintro pre ⟨rest, rfl⟩ k r hrow hu
    have hdead := dead_after_change env h pick' hrow hu hbegin hp hend hp'
    rw [hlater, run_append]
    exact never_accepted env (sessionInv_run env h _) hdead later i
  · rintro query sub jti rfl hagain
    rw [hlater] at hagain
    have hdone := resetsDone_run env h
      (before ++ .exec c pick :: during ++ [.exec c pick'] ++ later)
    have hnow : resetCompleted (run (State.step env) s₀ (before ++ .exec c pick :: during))
        (.exec c pick') = some (sub, jti) := by
      unfold resetCompleted
      simp only [hend]
    refine (resetCompleted_spec hdone.inv hagain).1 (hdone.completed sub jti ?_)
    rw [trace_append, trace_snoc, hnow]
    exact List.mem_append_left _ (List.mem_append_right _ (List.mem_singleton_self _))
  · intro pre j hpre hactor
    have hon := onChange_of_commitsEnd env hend hp' ((List.prefix_append pre [j]).trans hpre)
    rw [run_snoc]
    exact spared_step hon hactor
  · intro pre mid _
    rw [run_append]
    exact ⟨fun user' hash d r hfound hrow hno hexp => device_run env mid hfound hrow hno hexp,
      fun token hgood hno hexp => link_run env mid hgood hno hexp⟩

/-- A user with an authenticator answers a challenge, with the device remembered, and asks for a reset
link: session 2 with token 3, device 5 with token 6, link 7. -/
def rememberRun : List Input :=
  challengeRun ++ [.call 2 (.verifyOtp 1 "123456" true)] ++ execs 2 [0, 0, 0, 0, 0, 0] ++
  [.call 3 (.forgotPassword "user")] ++ execs 3 [0]

/-- The link is used, up to the statement that revokes the sessions. -/
def resetRun : List Input :=
  rememberRun ++ [.call 4 (.resetPassword ⟨0, 7, resetTokenExpiry⟩ "other password")] ++
    execs 4 [0, 0, 0, 0]

/-- The link is used: the session of before is dead, the link is not accepted again, and the device is still
remembered. -/
theorem credential_change_resetRun :
    refreshAccepted Env.transparent (run (State.step Env.transparent) {}
        (resetRun ++ .exec 4 0 :: execs 4 [2] ++ .exec 4 0 :: [.call 5 (.refresh 3), .exec 5 0]))
      (.exec 5 0) ≠ some 3 ∧
    resetCompleted (run (State.step Env.transparent) {}
        (resetRun ++ .exec 4 0 :: execs 4 [2] ++ .exec 4 0 :: [.call 5 (.refresh 3), .exec 5 0]))
      (.exec 5 0) ≠ some (0, 7) ∧
    ((run (State.step Env.transparent) {} (rememberRun ++
        ([.call 4 (.resetPassword ⟨0, 7, resetTokenExpiry⟩ "other password")] ++ execs 4 [0, 0, 0, 0] ++
          .exec 4 0 :: execs 4 [2] ++ .exec 4 0 :: [.call 5 (.refresh 3), .exec 5 0]))).findDevice 0
      6).isSome = true := by
  have hbegin : (run (State.step Env.transparent) {} resetRun).calls 4 =
      some (.scan (.user 0) (.completeReset 0 7)) := by decide +kernel
  have hend : (run (State.step Env.transparent) {}
      (resetRun ++ .exec 4 0 :: execs 4 [2])).calls 4 =
        some (.sweep (.user 0) [] (.completeReset 0 7)) := by decide +kernel
  have hp : (Call.scan (.user 0) (.completeReset 0 7)).endsSessions 0 = true := rfl
  obtain ⟨hrefresh, hreset, -, hgood⟩ := credential_change Env.transparent quiescent_empty hbegin hp hend
    rfl [.call 5 (.refresh 3), .exec 5 0] (.exec 5 0)
  refine ⟨?_, hreset _ 0 7 rfl, ?_⟩
  · exact hrefresh resetRun List.prefix_rfl 2 ⟨0, 3, some 4, refreshTokenExpiry, none⟩
      (by decide +kernel) rfl
  · exact (hgood rememberRun _ (by decide +kernel)).1 0 6 5 ⟨0, 6, trustedDeviceExpiry, none⟩
      (by decide +kernel) (by decide +kernel) (by decide +kernel) (by decide +kernel)

/-- The password is changed in the settings; the call is left at its commit. -/
def changeRun : List Input :=
  rememberRun ++ [.call 4 (.changePassword 0 "password" "new password")] ++ execs 4 [0, 0, 0, 2]

/-- After it the remembered device is accepted at a login, and the link that was sent before resets
the password. -/
theorem device_outlives_change :
    Quiescent {} ∧
      ((run (State.step Env.transparent) {} rememberRun).devices 5).isSome = true ∧
      (run (State.step Env.transparent) {} changeRun).calls 4 =
        some (.sweep (.allOf 0) [] .commit) ∧
      trace (State.step Env.transparent) deviceConsumed {}
        (changeRun ++ [.exec 4 0] ++ [.call 5 (.login "user" "new password" none (some 6))] ++
          execs 5 [0, 0, 0, 0, 0, 0]) = [5] ∧
      trace (State.step Env.transparent) resetCompleted {}
        (changeRun ++ [.exec 4 0] ++
          [.call 5 (.resetPassword ⟨0, 7, resetTokenExpiry⟩ "another password")] ++
          execs 5 [0, 0, 0, 0, 0, 0]) = [(0, 7)] :=
  ⟨quiescent_empty, by decide +kernel, by decide +kernel, by decide +kernel, by decide +kernel⟩

end State

end PredictATrade.Auth
