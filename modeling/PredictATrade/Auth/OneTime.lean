import Mathlib.Data.List.Induction
import PredictATrade.Auth.Events
import PredictATrade.Auth.SessionSteps

/-!
# `Auth.OneTime` — credentials that are meant to be used once

Three mechanisms, and what each comes to under interleaving (`one_time`):

* a **reset token** changes a password at most once, in every run: the advisory lock of its `jti` is
  held from the check for the completion event to the commit that writes the event;
* a **trusted device** is consumed at most once, and has at most one successor, unless two calls look
  it up before either has revoked it;
* a **challenge** is consumed by nothing: it gives a session for every right code, so at most one only
  where no second right code is given for it.
-/

namespace PredictATrade.Auth

open Lib.ReadCommitted Lib.Runs

/-- The reset that a call has in hand, from its advisory lock on. -/
def Call.resets : Call → Option (UserId × ℕ)
  | .resetCheckUsed token _ | .resetCheckUser token _ | .resetUpdateUser token _ =>
    some (token.sub, token.jti)
  | .scan _ (.completeReset sub jti) | .sweep _ _ (.completeReset sub jti) => some (sub, jti)
  | _ => none

/-- The reset that a call has in hand, once it has found that the token is unused. -/
def Call.unused : Call → Option (UserId × ℕ)
  | .resetCheckUsed _ _ => none
  | p => p.resets

/-- The challenge that a call has answered, and not yet got a session for. -/
def Call.answers : Call → Option ℕ
  | .resetFailures _ (.verifyOtp challengeId _) | .createSession _ (.verifyOtp challengeId _) =>
    some challengeId
  | _ => none

namespace State

variable {env : Env} {s s₀ s' : State} {c c' : CallId} {p p' : Call} {i : Input} {sub : UserId}
  {jti d : ℕ}

/-! ## What is observed -/

/-- The reset token whose password change the step commits. -/
def resetCompleted (s : State) : Input → Option (UserId × ℕ)
  | .exec c _ =>
    match s.calls c with
    | some (.sweep _ [] (.completeReset sub jti)) => some (sub, jti)
    | _ => none
  | _ => none

/-- The challenge for which the step accepts a code. -/
def answered (env : Env) (s : State) : Input → Option ℕ
  | .exec c _ =>
    match s.calls c with
    | some (.otpCount user challengeId createdAt secret code _) =>
      if s.failedCodes user createdAt < maxOtpAttempts ∧ env.totp code secret s.now = true then
        some challengeId
      else none
    | _ => none
  | _ => none

/-- The challenge for which the step inserts a session. -/
def challengeSession (s : State) : Input → Option ℕ
  | .exec c _ =>
    match s.calls c with
    | some (.createSession _ (.verifyOtp challengeId _)) => some challengeId
    | _ => none
  | _ => none

/-- The trusted device that the step consumes. -/
def deviceConsumed (s : State) : Input → Option ℕ
  | .exec c _ =>
    match s.calls c with
    | some (.deviceRevoke _ d) => some d
    | _ => none
  | _ => none

/-- The trusted device to which the step inserts a successor. -/
def deviceSucceeded (s : State) : Input → Option ℕ
  | .exec c _ =>
    match s.calls c with
    | some (.deviceInsert _ (some d)) => some d
    | _ => none
  | _ => none

/-- The step looks up a trusted device that another call has looked up and not yet revoked. -/
def SharesDevice (s : State) (i : Input) : Prop :=
  ∃ c pick user token d c' user', i = .exec c pick ∧ s.calls c = some (.deviceLookup user token) ∧
    s.findDevice user token = some d ∧ s.calls c' = some (.deviceRevoke user' d)

/-! ## Reset tokens -/

/-- The event that marks a reset token as used. -/
def Completed (s : State) (sub : UserId) (jti : ℕ) : Prop :=
  ∃ e ∈ s.events, e.userId = sub ∧ e.eventType = .passwordResetCompleted jti

/-- A call that resets a password holds the lock of its token, and once it has passed the check its
token is unused. -/
structure ResetInv (env : Env) (s : State) : Prop where
  locks : ∀ c p sub jti, s.calls c = some p → p.resets = some (sub, jti) →
    s.advisory (env.lockKey jti) = some c
  unused : ∀ c p sub jti, s.calls c = some p → p.unused = some (sub, jti) → ¬ Completed s sub jti

theorem resets_of_unused {x : UserId × ℕ} (h : p.unused = some x) : p.resets = some x := by
  cases p <;> first | exact h | cases h

theorem origin_after_resets (user : UserId) (origin : Origin) :
    (origin.after user).resets = none := by
  unfold Origin.after
  split <;> rfl

/-- A lock is released by its holder only. -/
theorem outcome_advisory (h : Outcome env s c p s') {key : ℕ} (hk : s.advisory key = some c')
    (hc : c' ≠ c) : s'.advisory key = some c' := by
  have hrelease : (if s.advisory key = some c then none else s.advisory key) = some c' := by
    rw [hk, if_neg]
    exact fun he => hc (Option.some.inj he)
  cases h with
  | commit => exact hrelease
  | completeReset => exact hrelease
  | resetUsed => exact hrelease
  | resetInactive => exact hrelease
  | rotateRevoke session | closeRevoke session =>
      obtain ⟨sessions, heq⟩ := revokeLocked_eq s c session
      rw [heq]
      exact hk
  | @resetAdvisory token password hnone =>
      show Function.update s.advisory (env.lockKey token.jti) (some c) key = some c'
      rw [Function.update_of_ne, hk]
      rintro rfl
      rw [hnone] at hk
      cases hk
  | _ => exact hk

/-- A lock is held until its call takes a step. -/
theorem step_advisory {key : ℕ} (hk : s.advisory key = some c) (ha : i.actor ≠ some c) :
    (s.step env i).advisory key = some c := by
  have hstep := step_inv env s i
  generalize s.step env i = s' at hstep
  cases hstep with
  | @exec c' p pick hc =>
      exact outcome_advisory (advance_outcome env s c' pick p) hk fun he =>
        ha (congrArg some he.symm)
  | @abort c' p hc =>
      show (if s.advisory key = some c' then none else s.advisory key) = some c
      rw [hk, if_neg]
      exact fun he => ha he.symm
  | _ => exact hk

/-- A call that resets a password holds the lock of its token. -/
theorem locks_step (h : ResetInv env s) (h' : (s.step env i).calls c = some p')
    (hx : p'.resets = some (sub, jti)) :
    (s.step env i).advisory (env.lockKey jti) = some c := by
  rcases step_calls h' with ⟨hsame, hidle⟩ | ⟨-, -, hstart⟩ | ⟨-, rfl⟩ | ⟨pick, p, -, hp, hout⟩
  · rcases hidle with hactor | hidle
    · exact step_advisory (h.locks c p' sub jti hsame hx) hactor
    · rw [hidle]
      exact h.locks c p' sub jti hsame hx
  · cases hstart <;> cases hx
  · cases hx
  · generalize s.step env i = s' at *
    cases hout with
    | wait => exact h.locks c p' sub jti h' hx
    | move hnext =>
        rw [goto_calls_self, Option.some.injEq] at h'
        subst h'
        cases hnext with
        | unused => exact h.locks c _ sub jti hp hx
        | resetCheckUser => exact h.locks c _ sub jti hp hx
        | scan query after =>
            cases after with
            | commit => cases hx
            | completeReset => exact h.locks c _ sub jti hp hx
        | _ => cases hx
    | @resetAdvisory token password hnone =>
        rw [goto_calls_self, Option.some.injEq] at h'
        subst h'
        injection Option.some.inj hx with hsub hjti
        subst hjti
        exact Function.update_self _ _ _
    | resetUpdateUser hfree =>
        rw [goto_calls_self, Option.some.injEq] at h'
        subst h'
        exact h.locks c _ sub jti hp hx
    | @sweepRow query todo after pick hpick hfree =>
        rw [goto_calls_self, Option.some.injEq] at h'
        subst h'
        cases after with
        | commit => cases hx
        | completeReset => exact h.locks c _ sub jti hp hx
    | createSession user origin =>
        rw [goto_calls_self, Option.some.injEq] at h'
        rw [← h', origin_after_resets] at hx
        cases hx
    | deviceInsert user consumed =>
        rw [goto_calls_self, Option.some.injEq] at h'
        subst h'
        cases consumed <;> cases hx
    | refreshLock hfree hview htoken huser hlocked =>
        rw [goto_calls_self, Option.some.injEq] at h'
        subst h'
        cases hlocked <;> cases hx
    | rotateInsert user session family =>
        unfold rotateInsert at h'
        rw [goto_calls_self, Option.some.injEq] at h'
        subst h'
        cases hx
    | _ =>
        rw [goto_calls_self, Option.some.injEq] at h'
        subst h'
        cases hx

/-- The statement that marks a reset token as used is the commit of its reset. -/
theorem sweep_of_logs (h : s.logs p = some (sub, .passwordResetCompleted jti)) :
    ∃ query, p = .sweep query [] (.completeReset sub jti) := by
  cases p with
  | sweep query todo after =>
      cases todo with
      | cons k ks => cases h
      | nil =>
          cases after with
          | commit => cases h
          | completeReset sub' jti' =>
              cases Option.some.inj h
              exact ⟨query, rfl⟩
  | logFailed => cases h
  | insertChallenge => cases h
  | _ => cases h

theorem resets_of_logs (h : s.logs p = some (sub, .passwordResetCompleted jti)) :
    p.resets = some (sub, jti) := by
  obtain ⟨query, rfl⟩ := sweep_of_logs h
  rfl

/-- The token of a call that has passed the check stays unused. -/
theorem unused_step (h : ResetInv env s) (h' : (s.step env i).calls c = some p')
    (hx : p'.unused = some (sub, jti)) : ¬ Completed (s.step env i) sub jti := by
  rintro ⟨e, he, huser, htype⟩
  rw [step_events] at he
  rcases step_follows h' with ⟨hsame, hidle⟩ | ⟨-, -, hstart⟩ | rfl | ⟨pick, p, rfl, hp, hfollows⟩
  · rcases List.mem_append.mp he with hold | hnew
    · exact h.unused c p' sub jti hsame hx ⟨e, hold, huser, htype⟩
    · -- the reset that completes holds the lock of the token, and so does this call
      obtain ⟨c₂, pick, p₂, rfl, hp₂, hlog, -⟩ := logged_eq (Option.mem_toList.mp hnew)
      rw [huser, htype] at hlog
      have hlock := h.locks c p' sub jti hsame (resets_of_unused hx)
      rw [h.locks c₂ p₂ sub jti hp₂ (resets_of_logs hlog), Option.some.injEq] at hlock
      subst hlock
      rcases hidle with hactor | hidle
      · exact hactor rfl
      · have hevents := step_events env s (.exec c₂ pick)
        rw [hidle, Option.mem_toList.mp hnew] at hevents
        have hlength := congrArg List.length hevents
        simp at hlength
  · cases hstart <;> cases hx
  · cases hx
  · -- a statement that leads on with the reset in hand writes no event
    have hold : s.logs p = none → e ∈ s.events := by
      intro hnone
      rw [logged_exec hp, hnone] at he
      exact (List.mem_append.mp he).resolve_right fun hnew => nomatch hnew
    cases hfollows with
    | next hnext =>
        cases hnext with
        | unused hno =>
            injection Option.some.inj hx with hsub hjti
            subst hsub hjti
            have hany := List.any_eq_false.mp hno e (hold rfl)
            simp [huser, htype] at hany
        | resetCheckUser => exact h.unused c _ sub jti hp hx ⟨e, hold rfl, huser, htype⟩
        | scan query after =>
            cases after with
            | commit => cases hx
            | completeReset => exact h.unused c _ sub jti hp hx ⟨e, hold rfl, huser, htype⟩
        | _ => cases hx
    | @sweepRow query todo todo' after pick hpick htodo =>
        cases after with
        | commit => cases hx
        | completeReset =>
            cases todo with
            | nil => cases hpick
            | cons k ks => exact h.unused c _ sub jti hp hx ⟨e, hold rfl, huser, htype⟩
    | resetUpdateUser => exact h.unused c _ sub jti hp hx ⟨e, hold rfl, huser, htype⟩
    | refreshLock hfree hview htoken huser hlocked => cases hlocked <;> cases hx
    | _ => cases hx

/-- **Step.** A reset that is under way holds the lock of its token. -/
theorem resetInv_step (h : ResetInv env s) : ResetInv env (s.step env i) :=
  ⟨fun _ _ _ _ hc hx => locks_step h hc hx, fun _ _ _ _ hc hx => unused_step h hc hx⟩

/-- No reset is under way at the start. -/
theorem resetInv_of_quiescent (h : Quiescent s₀) : ResetInv env s₀ := by
  constructor
  · intro c p sub jti hc
    rw [h.calls c] at hc
    cases hc
  · intro c p sub jti hc
    rw [h.calls c] at hc
    cases hc

/-- **Step.** A completed reset stays on record. -/
theorem completed_step (h : Completed s sub jti) : Completed (s.step env i) sub jti := by
  obtain ⟨e, he, hrest⟩ := h
  refine ⟨e, ?_, hrest⟩
  rw [step_events]
  exact List.mem_append_left _ he

/-- A password change by a reset marks its token, and finds it unmarked. -/
theorem resetCompleted_spec (h : ResetInv env s) (hr : resetCompleted s i = some (sub, jti)) :
    ¬ Completed s sub jti ∧ Completed (s.step env i) sub jti := by
  unfold resetCompleted at hr
  split at hr
  · split at hr
    · rename_i c pick query sub' jti' hc
      cases Option.some.inj hr
      refine ⟨h.unused _ _ sub jti hc rfl, ⟨sub, .passwordResetCompleted jti, s.now⟩, ?_, rfl, rfl⟩
      rw [step_events, logged_exec hc]
      exact List.mem_append_right _ (List.mem_singleton_self _)
    · cases hr
  · cases hr

/-- After a run: the invariant, and the tokens that have changed a password, each once. -/
structure ResetsDone (env : Env) (s : State) (shown : List (UserId × ℕ)) : Prop where
  inv : ResetInv env s
  completed : ∀ sub jti, (sub, jti) ∈ shown → Completed s sub jti
  nodup : shown.Nodup

/-- **Step.** Each reset is completed once. -/
theorem resetsDone_step {shown : List (UserId × ℕ)} (h : ResetsDone env s shown) (i : Input) :
    ResetsDone env (s.step env i) (shown ++ (resetCompleted s i).toList) := by
  refine ⟨resetInv_step h.inv, ?_, ?_⟩
  · intro sub jti hmem
    rcases List.mem_append.mp hmem with hold | hnew
    · exact completed_step (h.completed sub jti hold)
    · exact (resetCompleted_spec h.inv (Option.mem_toList.mp hnew)).2
  · refine nodup_shown h.nodup ?_
    rintro ⟨sub, jti⟩ hr hmem
    exact (resetCompleted_spec h.inv hr).1 (h.completed sub jti hmem)

/-- **Run.** Each reset is completed once. -/
theorem resetsDone_run (env : Env) (h : Quiescent s₀) (is : List Input) :
    ResetsDone env (run (State.step env) s₀ is) (trace (State.step env) resetCompleted s₀ is) :=
  traced (J := ResetsDone env) (P := fun _ _ => True) (fun _ i _ hd _ => resetsDone_step hd i)
    ⟨resetInv_of_quiescent h, (fun _ _ hmem => absurd hmem List.not_mem_nil), List.nodup_nil⟩
    (along_iff.mpr fun _ _ _ _ => trivial)

/-! ## Challenges -/

variable {q : ℕ} {ans ses : List ℕ}

/-- A call that has answered a challenge had answered it before, or answers it now. -/
theorem answers_step (h' : (s.step env i).calls c = some p') (hq : p'.answers = some q) :
    (∃ p, s.calls c = some p ∧ p.answers = some q) ∨
      (answered env s i = some q ∧ i.actor = some c) := by
  rcases step_follows h' with ⟨hsame, -⟩ | ⟨-, -, hstart⟩ | rfl | ⟨pick, p, rfl, hp, hfollows⟩
  · exact Or.inl ⟨p', hsame, hq⟩
  · cases hstart <;> cases hq
  · cases hq
  · cases hfollows with
    | next hnext =>
        cases hnext with
        | otpRight hfew hright =>
            right
            cases Option.some.inj hq
            refine ⟨?_, rfl⟩
            unfold answered
            simp only [hp]
            exact if_pos ⟨hfew, hright⟩
        | noUser user origin =>
            cases origin with
            | verifyOtp challengeId trustDevice => exact Or.inl ⟨_, hp, hq⟩
            | _ => cases hq
        | _ => cases hq
    | refreshLock hfree hview htoken huser hlocked => cases hlocked <;> cases hq
    | _ => cases hq

theorem challengeSession_eq (h : challengeSession s i = some q) :
    ∃ c pick user trustDevice, i = .exec c pick ∧
      s.calls c = some (.createSession user (.verifyOtp q trustDevice)) := by
  unfold challengeSession at h
  split at h
  · split at h
    · rename_i hc
      cases Option.some.inj h
      exact ⟨_, _, _, _, rfl, hc⟩
    · cases h
  · cases h

theorem answered_eq (h : answered env s i = some q) :
    ∃ c pick user createdAt secret code trustDevice, i = .exec c pick ∧
      s.calls c = some (.otpCount user q createdAt secret code trustDevice) := by
  unfold answered at h
  split at h
  · split at h
    · rename_i hc
      split at h
      · cases Option.some.inj h
        exact ⟨_, _, _, _, _, _, _, rfl, hc⟩
      · cases h
    · cases h
  · cases h

/-- The calls on their way from an answer to its session, and the answers and sessions so far. -/
structure ChallengeInv (s : State) (ans ses : List ℕ) : Prop where
  known : ∀ c p q, s.calls c = some p → p.answers = some q → q ∈ ans ∧ q ∉ ses
  alone : ∀ c c' p p' q, s.calls c = some p → s.calls c' = some p' → p.answers = some q →
    p'.answers = some q → c = c'
  subset : ∀ q, q ∈ ses → q ∈ ans
  nodup : ses.Nodup

/-- **Step.** While no challenge is answered twice, each gives at most one session. -/
theorem challengeInv_step (h : ChallengeInv s ans ses)
    (hans : (ans ++ (answered env s i).toList).Nodup) :
    ChallengeInv (s.step env i) (ans ++ (answered env s i).toList)
      (ses ++ (challengeSession s i).toList) := by
  -- an answer that is given now has not been given before
  have hfresh : ∀ q, answered env s i = some q → q ∉ ans := by
    intro q hq hmem
    rw [hq] at hans
    exact (List.nodup_append.mp hans).2.2 q hmem q (List.mem_singleton_self q) rfl
  -- the call that gets its session now has its challenge no longer in hand
  have hgone : ∀ q c p', challengeSession s i = some q → (s.step env i).calls c = some p' →
      p'.answers ≠ some q := by
    intro q c p' hses hc hq
    obtain ⟨c₂, pick, user, trustDevice, rfl, hc₂⟩ := challengeSession_eq hses
    rcases answers_step hc hq with ⟨p, hp, hpq⟩ | ⟨hnow, -⟩
    · have hcc := h.alone c c₂ p _ q hp hc₂ hpq rfl
      subst hcc
      rw [step_exec hc₂] at hc
      change ((s.insertSession user).goto c (Origin.after user (.verifyOtp q trustDevice))).calls c =
        some p' at hc
      rw [goto_calls_self, Option.some.injEq] at hc
      subst hc
      cases trustDevice <;> cases hq
    · obtain ⟨c₃, pick₃, user₃, createdAt, secret, code, trustDevice₃, he, hc₃⟩ := answered_eq hnow
      injection he with hcc
      subst hcc
      rw [hc₂] at hc₃
      cases hc₃
  refine ⟨?_, ?_, ?_, ?_⟩
  · intro c p' q hc hq
    have hses : q ∉ ses ∧ q ∈ ans ++ (answered env s i).toList := by
      rcases answers_step hc hq with ⟨p, hp, hpq⟩ | ⟨hnow, -⟩
      · obtain ⟨hmem, hno⟩ := h.known c p q hp hpq
        exact ⟨hno, List.mem_append_left _ hmem⟩
      · refine ⟨fun hmem => hfresh q hnow (h.subset q hmem), ?_⟩
        exact List.mem_append_right _ (Option.mem_toList.mpr hnow)
    refine ⟨hses.2, fun hmem => ?_⟩
    rcases List.mem_append.mp hmem with hold | hnew
    · exact hses.1 hold
    · exact hgone q c p' (Option.mem_toList.mp hnew) hc hq
  · intro c c' p p' q hc hc' hq hq'
    rcases answers_step hc hq with ⟨p₀, hp₀, hpq₀⟩ | ⟨hnow, hactor⟩
    · rcases answers_step hc' hq' with ⟨p₁, hp₁, hpq₁⟩ | ⟨hnow', -⟩
      · exact h.alone c c' p₀ p₁ q hp₀ hp₁ hpq₀ hpq₁
      · exact absurd (h.known c p₀ q hp₀ hpq₀).1 (hfresh q hnow')
    · rcases answers_step hc' hq' with ⟨p₁, hp₁, hpq₁⟩ | ⟨-, hactor'⟩
      · exact absurd (h.known c' p₁ q hp₁ hpq₁).1 (hfresh q hnow)
      · rw [hactor, Option.some.injEq] at hactor'
        exact hactor'
  · intro q hmem
    rcases List.mem_append.mp hmem with hold | hnew
    · exact List.mem_append_left _ (h.subset q hold)
    · obtain ⟨c, pick, user, trustDevice, -, hc⟩ := challengeSession_eq (Option.mem_toList.mp hnew)
      exact List.mem_append_left _ (h.known c _ q hc rfl).1
  · refine nodup_shown h.nodup ?_
    intro q hq
    obtain ⟨c, pick, user, trustDevice, -, hc⟩ := challengeSession_eq hq
    exact (h.known c _ q hc rfl).2

/-- A run in which no challenge is answered twice. -/
theorem challengeInv_run (env : Env) (h : Quiescent s₀) (is : List Input)
    (hans : (trace (State.step env) (answered env) s₀ is).Nodup) :
    ChallengeInv (run (State.step env) s₀ is) (trace (State.step env) (answered env) s₀ is)
      (trace (State.step env) challengeSession s₀ is) := by
  induction is using List.reverseRecOn with
  | nil =>
      refine ⟨?_, ?_, (fun _ hmem => absurd hmem List.not_mem_nil), List.nodup_nil⟩
      · intro c p q hc
        rw [run_nil, h.calls c] at hc
        cases hc
      · intro c c' p p' q hc
        rw [run_nil, h.calls c] at hc
        cases hc
  | append_singleton is i ih =>
      rw [trace_snoc] at hans ⊢
      rw [trace_snoc, run_snoc]
      exact challengeInv_step (ih (List.nodup_append.mp hans).1) hans

/-! ## Trusted devices -/

variable {acc succ : List ℕ} {user : UserId} {token : ℕ}

/-- The device is there no more, for good: its key has been drawn, and no row of it is unrevoked. -/
structure Consumed (s : State) (d : ℕ) : Prop where
  drawn : d < s.next
  revoked : ∀ r, s.devices d = some r → r.revokedAt ≠ none

/-- A device that is found is on record and not revoked. -/
theorem findDevice_spec (h : s.findDevice user token = some d) :
    d < s.next ∧ ∃ r, s.devices d = some r ∧ r.revokedAt = none := by
  unfold findDevice at h
  have hmem := List.mem_of_find?_eq_some h
  have hfound := List.find?_some h
  refine ⟨List.mem_range.mp hmem, ?_⟩
  obtain ⟨r, hr, hcond⟩ := (Option.any_eq_true _ _).mp hfound
  refine ⟨r, hr, ?_⟩
  simp only [Bool.and_eq_true, Option.isNone_iff_eq_none] at hcond
  exact hcond.1.2

theorem outcome_consumed (h : Outcome env s c p s') (hd : Consumed s d) : Consumed s' d := by
  obtain ⟨hlt, hrev⟩ := hd
  cases h with
  | deviceRevoke user d' =>
      refine ⟨hlt, ?_⟩
      intro r hr
      change Function.update s.devices d' _ d = some r at hr
      by_cases hdd : d = d'
      · subst hdd
        rw [Function.update_self, Option.map_eq_some_iff] at hr
        obtain ⟨r₀, -, rfl⟩ := hr
        exact fun he => nomatch he
      · rw [Function.update_of_ne hdd] at hr
        exact hrev r hr
  | deviceInsert user consumed =>
      refine ⟨Nat.lt_of_lt_of_le hlt (Nat.le_add_right _ _), ?_⟩
      intro r hr
      change Function.update s.devices s.next _ d = some r at hr
      rw [Function.update_of_ne (Nat.ne_of_lt hlt)] at hr
      exact hrev r hr
  | rotateRevoke session | closeRevoke session =>
      obtain ⟨sessions, heq⟩ := revokeLocked_eq s c session
      rw [heq]
      exact ⟨hlt, hrev⟩
  | registerInsert | createSession | insertChallenge | rotateInsert | forgot =>
      exact ⟨Nat.lt_of_lt_of_le hlt (Nat.le_add_right _ _), hrev⟩
  | _ => exact ⟨hlt, hrev⟩

/-- **Step.** A device that was used stays revoked. -/
theorem consumed_step (hd : Consumed s d) : Consumed (s.step env i) d := by
  have hstep := step_inv env s i
  generalize s.step env i = s' at hstep
  cases hstep with
  | exec pick hc => exact outcome_consumed (advance_outcome env s _ pick _) hd
  | _ => exact ⟨hd.drawn, hd.revoked⟩

theorem deviceConsumed_eq (h : deviceConsumed s i = some d) :
    ∃ c pick user, i = .exec c pick ∧ s.calls c = some (.deviceRevoke user d) := by
  unfold deviceConsumed at h
  split at h
  · split at h
    · rename_i hc
      cases Option.some.inj h
      exact ⟨_, _, _, rfl, hc⟩
    · cases h
  · cases h

theorem deviceSucceeded_eq (h : deviceSucceeded s i = some d) :
    ∃ c pick user, i = .exec c pick ∧ s.calls c = some (.deviceInsert user (some d)) := by
  unfold deviceSucceeded at h
  split at h
  · split at h
    · rename_i hc
      cases Option.some.inj h
      exact ⟨_, _, _, rfl, hc⟩
    · cases h
  · cases h

/-- A call that is about to consume a device was so before, or has just looked it up. -/
theorem deviceRevoke_step (h' : (s.step env i).calls c = some (.deviceRevoke user d)) :
    (s.calls c = some (.deviceRevoke user d) ∧ (i.actor ≠ some c ∨ s.step env i = s)) ∨
      ∃ pick token, i = .exec c pick ∧ s.calls c = some (.deviceLookup user token) ∧
        s.findDevice user token = some d := by
  rcases step_follows h' with hsame | ⟨-, -, hstart⟩ | hdone | ⟨pick, p, hi, hp, hfollows⟩
  · exact Or.inl hsame
  · cases hstart
  · cases hdone
  · right
    cases hfollows with
    | next hnext =>
        cases hnext with
        | deviceFound hfound => exact ⟨pick, _, hi, hp, hfound⟩
    | refreshLock hfree hview htoken huser hlocked => cases hlocked

/-- A call that is about to insert a successor was so before, or has just consumed the device. -/
theorem deviceInsert_step (h' : (s.step env i).calls c = some (.deviceInsert user (some d))) :
    (s.calls c = some (.deviceInsert user (some d)) ∧ (i.actor ≠ some c ∨ s.step env i = s)) ∨
      ∃ pick, i = .exec c pick ∧ s.calls c = some (.deviceRevoke user d) := by
  rcases step_follows h' with hsame | ⟨-, -, hstart⟩ | hdone | ⟨pick, p, hi, hp, hfollows⟩
  · exact Or.inl hsame
  · cases hstart
  · cases hdone
  · right
    cases hfollows with
    | next hnext => cases hnext
    | refreshLock hfree hview htoken huser hlocked => cases hlocked
    | deviceRevoke => exact ⟨pick, hi, hp⟩

/-- The calls on their way through a device, and the devices consumed and succeeded so far. -/
structure DeviceInv (s : State) (acc succ : List ℕ) : Prop where
  revoking : ∀ c user d, s.calls c = some (.deviceRevoke user d) → d < s.next ∧ d ∉ acc
  alone : ∀ c c' user user' d, s.calls c = some (.deviceRevoke user d) →
    s.calls c' = some (.deviceRevoke user' d) → c = c'
  consumed : ∀ d, d ∈ acc → Consumed s d
  inserting : ∀ c user d, s.calls c = some (.deviceInsert user (some d)) → d ∈ acc ∧ d ∉ succ
  insertsAlone : ∀ c c' user user' d, s.calls c = some (.deviceInsert user (some d)) →
    s.calls c' = some (.deviceInsert user' (some d)) → c = c'
  subset : ∀ d, d ∈ succ → d ∈ acc
  nodup : acc.Nodup ∧ succ.Nodup

theorem consumes_moves {pick : SessionId} (hc : s.calls c = some (.deviceRevoke user d)) :
    (s.step env (.exec c pick)).calls c = some (.deviceInsert user (some d)) := by
  rw [step_exec hc]
  exact goto_calls_self

theorem succeeds_moves {pick : SessionId} (hc : s.calls c = some (.deviceInsert user (some d))) :
    (s.step env (.exec c pick)).calls c = some (.createSession user .trustedDevice) := by
  rw [step_exec hc]
  exact goto_calls_self

theorem consumed_of_revoke {pick : SessionId} (hc : s.calls c = some (.deviceRevoke user d))
    (hd : d < s.next) : Consumed (s.step env (.exec c pick)) d := by
  rw [step_exec hc]
  refine ⟨hd, ?_⟩
  intro r hr
  change Function.update s.devices d _ d = some r at hr
  rw [Function.update_self, Option.map_eq_some_iff] at hr
  obtain ⟨r₀, -, rfl⟩ := hr
  exact fun he => nomatch he

/-- Whoever is about to consume a device is alone with it, and nobody has consumed it. -/
theorem revoking_step (h : DeviceInv s acc succ)
    (hnext : s.next ≤ (s.step env i).next)
    (h' : (s.step env i).calls c = some (.deviceRevoke user d)) :
    d < (s.step env i).next ∧ d ∉ acc ++ (deviceConsumed s i).toList := by
  have hd : d < s.next ∧ d ∉ acc := by
    rcases deviceRevoke_step h' with ⟨hsame, -⟩ | ⟨pick, token, -, -, hfound⟩
    · exact h.revoking c user d hsame
    · obtain ⟨hlt, r, hr, hrev⟩ := findDevice_spec hfound
      exact ⟨hlt, fun hmem => (h.consumed d hmem).revoked r hr hrev⟩
  refine ⟨Nat.lt_of_lt_of_le hd.1 hnext, ?_⟩
  intro hmem
  rcases List.mem_append.mp hmem with hold | hnew
  · exact hd.2 hold
  · obtain ⟨c₂, pick, user₂, rfl, hc₂⟩ := deviceConsumed_eq (Option.mem_toList.mp hnew)
    rcases deviceRevoke_step h' with ⟨hsame, -⟩ | ⟨pick', token, he, hc, -⟩
    · have hcc := h.alone c c₂ user user₂ d hsame hc₂
      subst hcc
      rw [consumes_moves hc₂] at h'
      cases h'
    · injection he with hcc
      subst hcc
      rw [hc₂] at hc
      cases hc

/-- Two calls do not revoke the same device. -/
theorem alone_step (h : DeviceInv s acc succ) (hno : ¬ SharesDevice s i) {user' : UserId}
    (hc : (s.step env i).calls c = some (.deviceRevoke user d))
    (hc' : (s.step env i).calls c' = some (.deviceRevoke user' d)) : c = c' := by
  rcases deviceRevoke_step hc with ⟨hsame, -⟩ | ⟨pick, token, he, hlookup, hfound⟩
  · rcases deviceRevoke_step hc' with ⟨hsame', -⟩ | ⟨pick', token', he', hlookup', hfound'⟩
    · exact h.alone c c' user user' d hsame hsame'
    · exact absurd ⟨c', pick', user', token', d, c, user, he', hlookup', hfound', hsame⟩ hno
  · rcases deviceRevoke_step hc' with ⟨hsame', -⟩ | ⟨pick', token', he', -, -⟩
    · exact absurd ⟨c, pick, user, token, d, c', user', he, hlookup, hfound, hsame'⟩ hno
    · rw [he] at he'
      injection he'

/-- Whoever is about to insert a successor has consumed the device, which has none yet. -/
theorem inserting_step (h : DeviceInv s acc succ)
    (h' : (s.step env i).calls c = some (.deviceInsert user (some d))) :
    d ∈ acc ++ (deviceConsumed s i).toList ∧ d ∉ succ ++ (deviceSucceeded s i).toList := by
  rcases deviceInsert_step h' with ⟨hsame, -⟩ | ⟨pick, rfl, hrevoke⟩
  · obtain ⟨hacc, hsucc⟩ := h.inserting c user d hsame
    refine ⟨List.mem_append_left _ hacc, fun hmem => ?_⟩
    rcases List.mem_append.mp hmem with hold | hnew
    · exact hsucc hold
    · obtain ⟨c₂, pick, user₂, rfl, hc₂⟩ := deviceSucceeded_eq (Option.mem_toList.mp hnew)
      have hcc := h.insertsAlone c c₂ user user₂ d hsame hc₂
      subst hcc
      rw [succeeds_moves hc₂] at h'
      cases h'
  · have hnow : deviceConsumed s (.exec c pick) = some d := by
      unfold deviceConsumed
      simp only [hrevoke]
    refine ⟨List.mem_append_right _ (Option.mem_toList.mpr hnow), fun hmem => ?_⟩
    rcases List.mem_append.mp hmem with hold | hnew
    · exact (h.revoking c user d hrevoke).2 (h.subset d hold)
    · obtain ⟨c₂, pick₂, user₂, he, hc₂⟩ := deviceSucceeded_eq (Option.mem_toList.mp hnew)
      injection he with hcc
      subst hcc
      rw [hrevoke] at hc₂
      cases hc₂

/-- Two calls do not replace the same device. -/
theorem insertsAlone_step (h : DeviceInv s acc succ) {user' : UserId}
    (hc : (s.step env i).calls c = some (.deviceInsert user (some d)))
    (hc' : (s.step env i).calls c' = some (.deviceInsert user' (some d))) : c = c' := by
  rcases deviceInsert_step hc with ⟨hsame, -⟩ | ⟨pick, he, hrevoke⟩
  · rcases deviceInsert_step hc' with ⟨hsame', -⟩ | ⟨pick', -, hrevoke'⟩
    · exact h.insertsAlone c c' user user' d hsame hsame'
    · exact absurd (h.inserting c user d hsame).1 (h.revoking c' user' d hrevoke').2
  · rcases deviceInsert_step hc' with ⟨hsame', -⟩ | ⟨pick', he', -⟩
    · exact absurd (h.inserting c' user' d hsame').1 (h.revoking c user d hrevoke).2
    · rw [he] at he'
      injection he'

/-- **Step.** A device that one call at a time looks up is used once. -/
theorem deviceInv_step (h : DeviceInv s acc succ) (hno : ¬ SharesDevice s i)
    (hnext : s.next ≤ (s.step env i).next) :
    DeviceInv (s.step env i) (acc ++ (deviceConsumed s i).toList)
      (succ ++ (deviceSucceeded s i).toList) := by
  refine ⟨fun c user d hc => revoking_step h hnext hc,
    fun c c' user user' d hc hc' => alone_step h hno hc hc', ?_,
    fun c user d hc => inserting_step h hc,
    fun c c' user user' d hc hc' => insertsAlone_step h hc hc', ?_, ?_, ?_⟩
  · intro d hmem
    rcases List.mem_append.mp hmem with hold | hnew
    · exact consumed_step (h.consumed d hold)
    · obtain ⟨c, pick, user, rfl, hc⟩ := deviceConsumed_eq (Option.mem_toList.mp hnew)
      exact consumed_of_revoke hc (h.revoking c user d hc).1
  · intro d hmem
    rcases List.mem_append.mp hmem with hold | hnew
    · exact List.mem_append_left _ (h.subset d hold)
    · obtain ⟨c, pick, user, -, hc⟩ := deviceSucceeded_eq (Option.mem_toList.mp hnew)
      exact List.mem_append_left _ (h.inserting c user d hc).1
  · refine nodup_shown h.nodup.1 ?_
    intro d hd
    obtain ⟨c, pick, user, -, hc⟩ := deviceConsumed_eq hd
    exact (h.revoking c user d hc).2
  · refine nodup_shown h.nodup.2 ?_
    intro d hd
    obtain ⟨c, pick, user, -, hc⟩ := deviceSucceeded_eq hd
    exact (h.inserting c user d hc).2

/-- A run in which no device is looked up by two calls at a time. -/
theorem deviceInv_run (env : Env) (h : Quiescent s₀) (is : List Input)
    (hp : Along (State.step env) (fun s i => ¬ SharesDevice s i) s₀ is) :
    DeviceInv (run (State.step env) s₀ is) (trace (State.step env) deviceConsumed s₀ is)
      (trace (State.step env) deviceSucceeded s₀ is) := by
  induction is using List.reverseRecOn with
  | nil =>
      have hnone : ∀ c p, s₀.calls c ≠ some p := by
        intro c p hc
        rw [h.calls c] at hc
        cases hc
      refine ⟨?_, ?_, (fun _ hmem => absurd hmem List.not_mem_nil), ?_, ?_,
        (fun _ hmem => absurd hmem List.not_mem_nil), List.nodup_nil, List.nodup_nil⟩
      · intro c user d hc
        exact absurd hc (hnone c _)
      · intro c c' user user' d hc
        exact absurd hc (hnone c _)
      · intro c user d hc
        exact absurd hc (hnone c _)
      · intro c c' user user' d hc
        exact absurd hc (hnone c _)
  | append_singleton is i ih =>
      obtain ⟨hbefore, hno, -⟩ := along_append.mp hp
      rw [trace_snoc, trace_snoc, run_snoc]
      exact deviceInv_step (ih hbefore) hno
        (step_effect env (sessionInv_run env h is) i).next

/-! ## One-time credentials -/

/-- **One-time credentials.** A reset token changes a password at most once. If no challenge is
answered twice with a right code, a challenge gives at most one session. If no trusted device is
looked up while another call is about to consume it, a device is consumed at most once, and succeeded
at most once. -/
theorem one_time (env : Env) (h : Quiescent s₀) (is : List Input) :
    (trace (State.step env) resetCompleted s₀ is).Nodup ∧
      ((trace (State.step env) (answered env) s₀ is).Nodup →
        (trace (State.step env) challengeSession s₀ is).Nodup) ∧
      (Along (State.step env) (fun s i => ¬ SharesDevice s i) s₀ is →
        (trace (State.step env) deviceConsumed s₀ is).Nodup ∧
        (trace (State.step env) deviceSucceeded s₀ is).Nodup) :=
  ⟨(resetsDone_run env h is).nodup, fun hans => (challengeInv_run env h is hans).nodup,
    fun hp => (deviceInv_run env h is hp).nodup⟩

/-- A user registers, without a session; the account is approved and gets an authenticator. Call 1
logs in and gets a challenge. -/
def challengeRun : List Input :=
  [.call 0 (.register true "user" "password")] ++ execs 0 [0, 0] ++
  [.abort 0, .setStatus 0 .active, .setMfa 0 (some "123456")] ++
  [.call 1 (.login "user" "password" none none)] ++ execs 1 [0, 0, 0, 0, 0]

/-- The challenge is answered, a reset link is sent, and two calls reset the password with it. -/
def usedOnceRun : List Input :=
  challengeRun ++ [.call 2 (.verifyOtp 1 "123456" false)] ++ execs 2 [0, 0, 0, 0, 0] ++
  [.call 3 (.forgotPassword "user")] ++ execs 3 [0] ++
  [.call 4 (.resetPassword ⟨0, 5, resetTokenExpiry⟩ "other")] ++ execs 4 [0, 0] ++
  [.call 5 (.resetPassword ⟨0, 5, resetTokenExpiry⟩ "another")] ++ execs 5 [0] ++
  execs 4 [0, 0, 0, 2, 0] ++ execs 5 [0, 0]

/-- A reset token, a challenge and a device, each used once. -/
theorem one_time_usedOnceRun :
    trace (State.step Env.transparent) resetCompleted {} usedOnceRun = [(0, 5)] ∧
      (trace (State.step Env.transparent) resetCompleted {} usedOnceRun).Nodup ∧
      trace (State.step Env.transparent) challengeSession {} usedOnceRun = [1] ∧
      (trace (State.step Env.transparent) challengeSession {} usedOnceRun).Nodup := by
  have hspec := one_time Env.transparent quiescent_empty usedOnceRun
  exact ⟨by decide +kernel, hspec.1, by decide +kernel, hspec.2.1 (by decide +kernel)⟩

/-- The challenge is answered twice with the same code. -/
def replayRun : List Input :=
  challengeRun ++ [.call 2 (.verifyOtp 1 "123456" false)] ++ execs 2 [0, 0, 0, 0, 0] ++
  [.call 3 (.verifyOtp 1 "123456" false)] ++ execs 3 [0, 0, 0, 0, 0]

/-- The challenge is answered and the device remembered. Two logins present its token, and both look
it up before either revokes it. -/
def deviceRaceRun : List Input :=
  challengeRun ++ [.call 2 (.verifyOtp 1 "123456" true)] ++ execs 2 [0, 0, 0, 0, 0, 0] ++
  [.call 3 (.login "user" "password" none (some 6))] ++ execs 3 [0, 0, 0, 0, 0] ++
  [.call 4 (.login "user" "password" none (some 6))] ++ execs 4 [0, 0, 0, 0, 0] ++
  execs 3 [0, 0, 0] ++ execs 4 [0, 0, 0]

/-- Two answers to a challenge give two sessions, and two logins use a device twice. -/
theorem challenge_and_device_used_twice :
    Quiescent {} ∧
      trace (State.step Env.transparent) challengeSession {} replayRun = [1, 1] ∧
      trace (State.step Env.transparent) deviceConsumed {} deviceRaceRun = [5, 5] ∧
      trace (State.step Env.transparent) deviceSucceeded {} deviceRaceRun = [5, 5] :=
  ⟨quiescent_empty, by decide +kernel, by decide +kernel, by decide +kernel⟩

end State

end PredictATrade.Auth
