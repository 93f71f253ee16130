import PredictATrade.Auth.Flow

/-!
# `Auth.Events` — the login events that are read back

What a step appends to `iam.login_events`: at most one event, of the statement that its call executes,
and stamped with the present. Nothing is ever removed, and the clock never goes back.
-/

namespace PredictATrade.Auth

open Lib.ReadCommitted

namespace State

variable {env : Env} {s s' : State} {c : CallId} {p : Call} {i : Input}

/-- The event that a statement writes, of those that are read back. -/
def logs (s : State) : Call → Option (UserId × EventType)
  | .logFailed user => some (user, .mfaFailed)
  | .insertChallenge user => some (user, .mfaChallenge s.next)
  | .sweep _ [] (.completeReset sub jti) => some (sub, .passwordResetCompleted jti)
  | _ => none

/-- The event that a step writes. -/
def logged (s : State) : Input → Option LoginEvent
  | .exec c _ => ((s.calls c).bind s.logs).map fun x => ⟨x.1, x.2, s.now⟩
  | _ => none

theorem outcome_events (h : Outcome env s c p s') (hp : s.logs p = none) :
    s'.events = s.events := by
  cases h with
  | rotateRevoke session | closeRevoke session =>
      obtain ⟨sessions, heq⟩ := revokeLocked_eq s c session
      rw [heq]
      rfl
  | logFailed | insertChallenge | completeReset => cases hp
  | _ => rfl

/-- **The events of one statement.** -/
theorem advance_events (env : Env) (s : State) (c : CallId) (pick : SessionId) (p : Call) :
    (s.advance env c pick p).events =
      s.events ++ ((s.logs p).map fun x => (⟨x.1, x.2, s.now⟩ : LoginEvent)).toList := by
  cases hp : s.logs p with
  | none =>
      rw [outcome_events (advance_outcome env s c pick p) hp]
      exact (List.append_nil _).symm
  | some x =>
      cases p with
      | logFailed user =>
          rw [← Option.some.inj hp]
          rfl
      | insertChallenge user =>
          rw [← Option.some.inj hp]
          rfl
      | sweep query todo after =>
          cases todo with
          | cons k ks => cases hp
          | nil =>
              cases after with
              | commit => cases hp
              | completeReset sub jti =>
                  rw [← Option.some.inj hp]
                  rfl
      | _ => cases hp

theorem logged_exec {pick : SessionId} (hc : s.calls c = some p) :
    logged s (.exec c pick) = (s.logs p).map fun x => ⟨x.1, x.2, s.now⟩ := by
  show ((s.calls c).bind s.logs).map _ = _
  rw [hc]
  rfl

/-- Only a statement writes an event. -/
theorem step_events_of_not_exec (hi : ∀ c pick, i ≠ .exec c pick) :
    (s.step env i).events = s.events := by
  have hstep := step_inv env s i
  generalize s.step env i = s' at hstep
  cases hstep with
  | @exec c p pick hc => exact absurd rfl (hi c pick)
  | _ => rfl

/-- **The events of one step.** -/
theorem step_events (env : Env) (s : State) (i : Input) :
    (s.step env i).events = s.events ++ (logged s i).toList := by
  cases i with
  | exec c pick =>
      cases hc : s.calls c with
      | none =>
          have hnone : logged s (.exec c pick) = none := by
            show ((s.calls c).bind s.logs).map _ = none
            rw [hc]
            rfl
          rw [step_exec_unknown hc, hnone]
          exact (List.append_nil _).symm
      | some p =>
          rw [step_exec hc, logged_exec hc]
          exact advance_events env s c pick p
  | _ =>
      refine (step_events_of_not_exec ?_).trans (List.append_nil _).symm
      rintro c pick ⟨⟩

/-- The event that a step writes is the one of the statement that its call stands at. -/
theorem logged_eq {e : LoginEvent} (h : logged s i = some e) :
    ∃ c pick p, i = .exec c pick ∧ s.calls c = some p ∧ s.logs p = some (e.userId, e.eventType) ∧
      e.createdAt = s.now := by
  unfold logged at h
  split at h
  · rename_i c pick
    obtain ⟨x, hx, rfl⟩ := Option.map_eq_some_iff.mp h
    obtain ⟨p, hp, hlog⟩ := Option.bind_eq_some_iff.mp hx
    exact ⟨c, pick, p, rfl, hp, hlog, rfl⟩
  · cases h

/-! ## The clock -/

theorem outcome_now (h : Outcome env s c p s') : s'.now = s.now := by
  cases h with
  | rotateRevoke session | closeRevoke session =>
      obtain ⟨sessions, heq⟩ := revokeLocked_eq s c session
      rw [heq]
      rfl
  | _ => rfl

/-- The clock does not go back. -/
theorem step_now (env : Env) (s : State) (i : Input) : s.now ≤ (s.step env i).now := by
  have hstep := step_inv env s i
  generalize s.step env i = s' at hstep
  cases hstep with
  | exec pick hc => exact Int.le_of_eq (outcome_now (advance_outcome env s _ pick _)).symm
  | tick millis => exact Int.le_add_of_nonneg_right (Int.natCast_nonneg millis)
  | _ => exact Int.le_refl _

end State

end PredictATrade.Auth
