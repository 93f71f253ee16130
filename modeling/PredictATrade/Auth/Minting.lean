import PredictATrade.Auth.SessionSteps

/-!
# `Auth.Minting` — who gets a session

`login` and `refresh` create sessions only after they have read that the account is ACTIVE;
`register` creates one for the PENDING account it has just made, and `verifyOtp` one for the account
of a challenge, whatever has become of that account since. So a run gives sessions to checked accounts
only exactly when neither of these two inserts one (`onlyForActive_iff`).
-/

namespace PredictATrade.Auth

open Lib.ReadCommitted Lib.Runs

/-- The paths that look at the status before they create a session. -/
def Origin.checked : Origin → Bool
  | .login | .trustedDevice => true
  | .register | .verifyOtp .. => false

/-- The user whose ACTIVE status the call has read, where it stands on the way to a session. -/
def Call.vouched : Call → Option UserId
  | .loginCompare user _ _ _ _ | .loginMfa user _ _ | .loginRole user _ _ _
  | .deviceLookup user _ | .deviceRevoke user _ | .deviceInsert user (some _)
  | .refreshLock _ _ user .active | .rotateRevoke _ user _ | .rotateInsert _ user _
  | .rotateCommit _ user _ _ => some user
  | .resetFailures user origin | .createSession user origin =>
    if origin.checked then some user else none
  | _ => none

/-- The way of a call that creates a session without a look at the status. -/
def Call.unchecked : Call → Bool
  | .registerLookup .. | .registerInsert .. | .otpLookup .. | .otpMfa .. | .otpCount .. => true
  | .resetFailures _ origin | .createSession _ origin => !origin.checked
  | _ => false

namespace State

variable {env : Env} {s s₀ : State} {c : CallId} {p p' : Call} {u : UserId} {i : Input}

/-! ## What is claimed -/

/-- The status is ACTIVE in the committed row of the user. -/
def isActive (s : State) (user : UserId) : Bool :=
  (s.users user).committed.any fun r => r.status = .active

/-- The user that a statement reads as ACTIVE. -/
def readBy (s : State) : Call → Option UserId
  | .loginLookup email _ _ _ => (s.findUser email).filter s.isActive
  | .refreshLookup token =>
    ((s.findSession token).bind fun k => (s.sessions k).committed.map Session.userId).filter
      s.isActive
  | .resetCheckUser token _ => if s.isActive token.sub then some token.sub else none
  | _ => none

/-- The call that reads in this step that the status of a user is ACTIVE, and the user. -/
def readsActive (s : State) : Input → Option (CallId × UserId)
  | .exec c _ => ((s.calls c).bind s.readBy).map fun u => (c, u)
  | _ => none

/-- Each session row that appears is inserted by a call that has read before, in this run, that the
status of its user is ACTIVE. -/
def OnlyForActive (env : Env) (s₀ : State) (is : List Input) : Prop :=
  ∀ pre i post, is = pre ++ i :: post → ∀ k r,
    ((run (State.step env) s₀ pre).sessions k).committed = none →
    (((run (State.step env) s₀ pre).step env i).sessions k).committed = some r →
    ∃ c, i.actor = some c ∧ (c, r.userId) ∈ trace (State.step env) readsActive s₀ pre

/-- The step does not insert the session of a registration or of an answered challenge. -/
def InsertsChecked (s : State) : Input → Bool
  | .exec c _ =>
    match s.calls c with
    | some (.createSession _ origin) => origin.checked
    | _ => true
  | _ => true

/-! ## Calls that have read the status -/

theorem isActive_of_row {user : UserId} {r : User} (hr : (s.users user).committed = some r)
    (h : r.status = .active) : s.isActive user = true := by
  unfold isActive
  rw [hr]
  exact decide_eq_true h

theorem readsActive_of_call {pick : SessionId} (hp : s.calls c = some p) :
    readsActive s (.exec c pick) = (s.readBy p).map fun u => (c, u) := by
  show ((s.calls c).bind s.readBy).map _ = _
  rw [hp]
  rfl

theorem readsActive_eq (h : readsActive s i = some (c, u)) :
    ∃ pick p, i = .exec c pick ∧ s.calls c = some p ∧ s.readBy p = some u := by
  unfold readsActive at h
  split at h
  · rename_i c' pick
    obtain ⟨u', hu', he⟩ := Option.map_eq_some_iff.mp h
    obtain ⟨p, hp, hread⟩ := Option.bind_eq_some_iff.mp hu'
    injection he with hc hu
    subst hc hu
    exact ⟨pick, p, rfl, hp, hread⟩
  · cases h

theorem readBy_of_unchecked (h : p.unchecked = true) : s.readBy p = none := by
  cases p <;> first | rfl | cases h

/-- A call vouches for a user from the moment it reads that the user is active. -/
theorem vouched_step (h' : (s.step env i).calls c = some p') (hv : p'.vouched = some u) :
    (∃ p, s.calls c = some p ∧ p.vouched = some u) ∨ readsActive s i = some (c, u) := by
  rcases step_follows h' with ⟨hsame, -⟩ | ⟨-, -, hstart⟩ | rfl | ⟨pick, p, rfl, hp, hfollows⟩
  · exact Or.inl ⟨p', hsame, hv⟩
  · cases hstart <;> cases hv
  · cases hv
  · cases hfollows with
    | next hnext =>
        cases hnext with
        | loginLookup hfind hrow hopen hactive =>
            right
            have hu := Option.some.inj hv
            subst hu
            rw [readsActive_of_call hp]
            simp only [readBy, hfind, Option.filter, isActive_of_row hrow hactive, if_true,
              Option.map_some]
        | @refreshLookup token k r x hfind hr hu =>
            right
            cases hst : x.status with
            | active =>
                rw [hst] at hv
                have hu' : r.userId = u := Option.some.inj hv
                have hactive : s.isActive u = true := by
                  rw [← hu']
                  exact isActive_of_row hu hst
                rw [readsActive_of_call hp]
                simp only [readBy, hfind, hr, Option.bind_some, Option.map_some, Option.filter,
                  hu', hactive, if_true]
            | _ =>
                rw [hst] at hv
                cases hv
        | _ => first | exact Or.inl ⟨_, hp, hv⟩ | cases hv
    | refreshLock hfree hview htoken huser hlocked =>
        cases hlocked with
        | rotate hrev hactive =>
            subst hactive
            exact Or.inl ⟨_, hp, hv⟩
        | _ => cases hv
    | _ => exact Or.inl ⟨_, hp, hv⟩

/-! ## Calls that never read the status -/

/-- A call on a way without a look at the status was on it before, or has just begun. -/
theorem unchecked_step (h' : (s.step env i).calls c = some p') (hp' : p'.unchecked = true) :
    (s.calls c = none ∨ ∃ p, s.calls c = some p ∧ p.unchecked = true) ∧
      ∀ u, readsActive s i ≠ some (c, u) := by
  rcases step_follows h' with ⟨hsame, -⟩ | ⟨⟨request, rfl⟩, hc, -⟩ | rfl |
    ⟨pick, p, rfl, hp, hfollows⟩
  · refine ⟨Or.inr ⟨p', hsame, hp'⟩, ?_⟩
    intro u hr
    obtain ⟨pick, p, -, hp, hread⟩ := readsActive_eq hr
    rw [hsame, Option.some.injEq] at hp
    rw [← hp, readBy_of_unchecked hp'] at hread
    cases hread
  · exact ⟨Or.inl hc, fun u hr => nomatch hr⟩
  · cases hp'
  · have hun : p.unchecked = true := by
      cases hfollows with
      | next hnext =>
          cases hnext with
          | noUser => exact hp'
          | _ => first | rfl | cases hp'
      | refreshLock _ _ _ _ hlocked => cases hlocked <;> cases hp'
      | _ => first | rfl | cases hp'
    refine ⟨Or.inr ⟨p, hp, hun⟩, ?_⟩
    intro u hr
    rw [readsActive_of_call hp, readBy_of_unchecked hun] at hr
    cases hr

/-! ## Runs -/

/-- What the calls have read of the accounts, after a run that has shown `shown`. -/
structure Read (s : State) (shown : List (CallId × UserId)) : Prop where
  vouched : ∀ c p u, s.calls c = some p → p.vouched = some u → (c, u) ∈ shown
  unchecked : ∀ c p, s.calls c = some p → p.unchecked = true → ∀ u, (c, u) ∉ shown
  unknown : ∀ c, s.calls c = none → ∀ u, (c, u) ∉ shown

/-- **Step.** A call that creates a session has read an active user. -/
theorem read_step {shown : List (CallId × UserId)} (h : Read s shown) (i : Input) :
    Read (s.step env i) (shown ++ (readsActive s i).toList) := by
  refine ⟨?_, ?_, ?_⟩
  · intro c p' u hp' hv
    rcases vouched_step hp' hv with ⟨p, hp, hpv⟩ | hread
    · exact List.mem_append_left _ (h.vouched c p u hp hpv)
    · rw [hread]
      exact List.mem_append_right _ (List.mem_singleton_self _)
  · intro c p' hp' hun u hmem
    obtain ⟨hbefore, hno⟩ := unchecked_step hp' hun
    rcases List.mem_append.mp hmem with hold | hnew
    · rcases hbefore with hnone | ⟨p, hp, hpun⟩
      · exact h.unknown c hnone u hold
      · exact h.unchecked c p hp hpun u hold
    · exact hno u (Option.mem_toList.mp hnew)
  · intro c hnone u hmem
    have hnone₀ : s.calls c = none := by
      cases hc : s.calls c with
      | none => rfl
      | some p =>
          obtain ⟨p', hp'⟩ := step_calls_some env i hc
          rw [hnone] at hp'
          cases hp'
    rcases List.mem_append.mp hmem with hold | hnew
    · exact h.unknown c hnone₀ u hold
    · obtain ⟨pick, p, -, hp, -⟩ := readsActive_eq (Option.mem_toList.mp hnew)
      rw [hnone₀] at hp
      cases hp

/-- **Run.** A call that creates a session has read an active user. -/
theorem read_run (env : Env) (h : Quiescent s₀) (is : List Input) :
    Read (run (State.step env) s₀ is) (trace (State.step env) readsActive s₀ is) := by
  have h₀ : Read s₀ [] := by
    refine ⟨?_, ?_, fun c _ u hmem => nomatch hmem⟩
    · intro c p u hp
      rw [h.calls c] at hp
      cases hp
    · intro c p hp
      rw [h.calls c] at hp
      cases hp
  exact traced (J := Read) (P := fun _ _ => True) (fun s i shown hr _ => read_step hr i) h₀
    (along_iff.mpr fun _ _ _ _ => trivial)

/-- A session row that appears was inserted for a user that its call vouches for, unless it is the
session of a registration or of an answered challenge. -/
theorem vouched_of_new_row (h : s.SessionInv) (hi : InsertsChecked s i = true) {k : SessionId}
    {r : Session} (hnone : (s.sessions k).committed = none)
    (hr : ((s.step env i).sessions k).committed = some r) :
    ∃ c p, i.actor = some c ∧ s.calls c = some p ∧ p.vouched = some r.userId := by
  have huser : ∀ {user family}, Rotates ((s.step env i).sessions k).committed user family →
      r.userId = user := by
    rintro user family ⟨r', hr', hu, -⟩
    rw [hr, Option.some.injEq] at hr'
    rw [hr', hu]
  rcases (step_effect env h i).change k with hfades | ⟨c, user, origin, ha, hc, -, hv⟩ |
    ⟨c, session, user, f, ha, hc, -, hv⟩
  · rw [hnone, hr] at hfades
    rcases hfades with he | ⟨r₀, he, -⟩ <;> cases he
  · refine ⟨c, _, ha, hc, ?_⟩
    have hexec : ∃ c' pick, i = .exec c' pick := by
      by_contra hno
      rw [committed_of_not_exec (fun c pick he => hno ⟨c, pick, he⟩), hnone] at hr
      cases hr
    obtain ⟨c', pick, rfl⟩ := hexec
    have hcc : c' = c := Option.some.inj ha
    subst hcc
    unfold InsertsChecked at hi
    simp only [hc] at hi
    rw [huser hv]
    exact if_pos hi
  · refine ⟨c, _, ha, hc, ?_⟩
    rw [huser hv]
    rfl

/-- The session of a registration or of an answered challenge is inserted by a call that has read
nobody's status. -/
theorem new_row_of_unchecked (env : Env) (h : s.SessionInv) (hi : InsertsChecked s i = false) :
    ∃ c p r, i.actor = some c ∧ s.calls c = some p ∧ p.unchecked = true ∧
      (s.sessions s.next).committed = none ∧
      ((s.step env i).sessions s.next).committed = some r := by
  unfold InsertsChecked at hi
  split at hi
  · rename_i c pick
    split at hi
    · rename_i user origin hc
      refine ⟨c, _, ?_, rfl, hc, ?_, ?_, ?_⟩
      · exact { userId := user, refreshTokenHash := s.next + 1, tokenFamily := some (s.next + 2),
                expiresAt := s.now + refreshTokenExpiry }
      · show (!origin.checked) = true
        rw [hi]
        rfl
      · rw [h.empty s.next (Nat.le_refl _)]
      · rw [step_exec hc]
        show ((s.insertSession user).sessions s.next).committed = _
        rw [insertSession_sessions_self]
    · cases hi
  · cases hi

/-- **Tokens only for active accounts.** In a run every new session is inserted by a call that has
read that its user is ACTIVE, if and only if no step of the run inserts the session of a
registration or of an answered challenge. -/
theorem onlyForActive_iff (env : Env) (h : Quiescent s₀) (is : List Input) :
    OnlyForActive env s₀ is ↔
      Along (State.step env) (fun s i => InsertsChecked s i = true) s₀ is := by
  rw [along_iff]
  constructor
  · intro honly pre i post he
    have hread := read_run env h pre
    have hinv := sessionInv_run env h pre
    cases hi : InsertsChecked (run (State.step env) s₀ pre) i with
    | true => rfl
    | false =>
        obtain ⟨c, p, r, ha, hp, hun, hnone, hr⟩ := new_row_of_unchecked env hinv hi
        obtain ⟨c', ha', hmem⟩ := honly pre i post he _ r hnone hr
        rw [ha, Option.some.injEq] at ha'
        rw [← ha'] at hmem
        exact absurd hmem (hread.unchecked c p hp hun r.userId)
  · intro hal pre i post he k r hnone hr
    have hread := read_run env h pre
    have hinv := sessionInv_run env h pre
    obtain ⟨c, p, ha, hp, hv⟩ := vouched_of_new_row hinv (hal pre i post he) hnone hr
    exact ⟨c, ha, hread.vouched c p r.userId hp hv⟩

/-- A user registers, without a session; the account is approved, and the user logs in. -/
def loginRun : List Input :=
  [.call 0 (.register true "user" "password")] ++ execs 0 [0, 0] ++ [.abort 0] ++
  [.setStatus 0 .active] ++ [.call 1 (.login "user" "password" none none)] ++
  execs 1 [0, 0, 0, 0, 0, 0]

/-- An active user logs in. -/
theorem onlyForActive_loginRun :
    OnlyForActive Env.transparent {} loginRun ∧
      ((run (State.step Env.transparent) {} loginRun).sessions 1).committed =
        some ⟨0, 2, some 3, refreshTokenExpiry, none⟩ :=
  ⟨(onlyForActive_iff Env.transparent quiescent_empty loginRun).mpr (by decide +kernel),
    by decide +kernel⟩

/-- A registration, and nothing else. -/
def registerRun : List Input := [.call 0 (.register true "user" "password")] ++ execs 0 [0, 0, 0]

/-- A registration creates a session for a user who is pending. -/
theorem register_mints_for_pending :
    Quiescent {} ∧ ¬ OnlyForActive Env.transparent {} registerRun ∧
      (((run (State.step Env.transparent) {} registerRun).users 0).committed.map User.status =
        some .pending) ∧
      ((run (State.step Env.transparent) {} registerRun).sessions 1).committed =
        some ⟨0, 2, some 3, refreshTokenExpiry, none⟩ := by
  refine ⟨quiescent_empty, ?_, by decide +kernel, by decide +kernel⟩
  intro honly
  obtain ⟨c, -, hmem⟩ := honly (registerRun.take 3) (.exec 0 0) [] rfl 1
    ⟨0, 2, some 3, refreshTokenExpiry, none⟩ (by decide +kernel) (by decide +kernel)
  have hnothing : trace (State.step Env.transparent) readsActive {} (registerRun.take 3) = [] := by
    decide +kernel
  rw [hnothing] at hmem
  cases hmem

end State

end PredictATrade.Auth
