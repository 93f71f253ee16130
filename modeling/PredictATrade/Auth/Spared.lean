import PredictATrade.Auth.OneTime

/-!
# `Auth.Spared` — what a new password leaves alone

Trusted devices are trusted as devices, and a reset link is checked against its signature, its expiry and its
own completion event. Two laws say what that comes to:

* `device_run` and `link_run`: in every run, a remembered device opens the account until it is consumed or
  expires, and a link that was sent is good until it completes a reset or expires;
* `spared_step`: no step of a call that changes a password touches a device, a signed link or an event, the
  completion event of its own link apart.

`Call.changes` is every place such a call can stand at. A call that is there has been there since it
began (`changes_of_later`) and stays there until it is done (`changes_stays`).
-/

namespace PredictATrade.Auth

open Lib.ReadCommitted Lib.Runs

/-- The call is on its way through `resetPassword` or `changePassword`. -/
def Call.changes : Call → Bool
  | .resetAdvisory _ _ | .resetCheckUsed _ _ | .resetCheckUser _ _ | .resetUpdateUser _ _ => true
  | .changeLookup _ _ _ | .changeUpdate _ _ => true
  | .scan _ (.completeReset _ _) | .sweep _ _ (.completeReset _ _) => true
  | .scan (.allOf _) _ | .sweep (.allOf _) _ _ => true
  | _ => false

namespace State

variable {env : Env} {s s' : State} {c : CallId} {p p' : Call} {i : Input} {d : ℕ} {r : TrustedDevice}
  {token : ResetToken} {sub : UserId} {jti : ℕ}

/-! ## Remembered devices -/

/-- The row of a device whose key has been drawn. -/
structure Remembered (s : State) (d : ℕ) (r : TrustedDevice) : Prop where
  drawn : d < s.next
  row : s.devices d = some r

theorem outcome_remembered (h : Outcome env s c p s') (hr : Remembered s d r)
    (hno : ∀ user, p ≠ .deviceRevoke user d) : Remembered s' d r := by
  obtain ⟨hlt, hrow⟩ := hr
  cases h with
  | deviceRevoke user d' =>
      refine ⟨hlt, ?_⟩
      show Function.update s.devices d' _ d = some r
      rw [Function.update_of_ne fun he => hno user (by rw [he]), hrow]
  | deviceInsert user consumed =>
      refine ⟨Nat.lt_of_lt_of_le hlt (Nat.le_add_right _ _), ?_⟩
      show Function.update s.devices s.next _ d = some r
      rw [Function.update_of_ne (Nat.ne_of_lt hlt), hrow]
  | rotateRevoke session | closeRevoke session =>
      obtain ⟨sessions, heq⟩ := revokeLocked_eq s c session
      rw [heq]
      exact ⟨hlt, hrow⟩
  | registerInsert | createSession | insertChallenge | rotateInsert | forgot =>
      exact ⟨Nat.lt_of_lt_of_le hlt (Nat.le_add_right _ _), hrow⟩
  | _ => exact ⟨hlt, hrow⟩

/-- Only the step that consumes a device touches its row. -/
theorem remembered_step (hr : Remembered s d r) (hno : deviceConsumed s i ≠ some d) :
    Remembered (s.step env i) d r := by
  have hstep := step_inv env s i
  generalize s.step env i = s' at hstep
  cases hstep with
  | @exec c p pick hc =>
      refine outcome_remembered (advance_outcome env s c pick p) hr ?_
      rintro user rfl
      exact hno (by simp only [deviceConsumed, hc])
  | _ => exact ⟨hr.drawn, hr.row⟩

/-- **Run.** A device that no login uses stays on record. -/
theorem remembered_run (env : Env) (is : List Input) (hr : Remembered s d r)
    (hno : d ∉ trace (State.step env) deviceConsumed s is) :
    Remembered (run (State.step env) s is) d r := by
  induction is generalizing s with
  | nil => exact hr
  | cons i is ih =>
      obtain ⟨hhead, htail⟩ := not_or.mp (mt List.mem_append.mpr hno)
      exact ih (remembered_step hr fun he => hhead (Option.mem_toList.mpr he)) htail

/-- A device that is not revoked and not expired is found by its token. -/
theorem findDevice_of_remembered (hr : Remembered s d r) (hrev : r.revokedAt = none)
    (hexp : s.now < r.expiresAt) : (s.findDevice r.userId r.tokenHash).isSome = true := by
  unfold findDevice
  rw [List.find?_isSome]
  refine ⟨d, List.mem_range.mpr hr.drawn, ?_⟩
  rw [hr.row]
  simp [hrev, hexp]

/-- **Remembered devices.** A device that its token opens in one state of a run is opened by it in every
later one, unless it has been consumed in between or has expired. -/
theorem device_run (env : Env) {user : UserId} {hash : ℕ} (is : List Input)
    (hfound : s.findDevice user hash = some d) (hrow : s.devices d = some r)
    (hno : d ∉ trace (State.step env) deviceConsumed s is)
    (hexp : (run (State.step env) s is).now < r.expiresAt) :
    ((run (State.step env) s is).findDevice user hash).isSome = true := by
  have hlt : d < s.next := (findDevice_spec hfound).1
  have hcond := List.find?_some hfound
  rw [hrow] at hcond
  simp only [Option.any_some, Bool.and_eq_true, decide_eq_true_eq, Option.isNone_iff_eq_none] at hcond
  obtain ⟨⟨⟨huser, hhash⟩, hrev⟩, -⟩ := hcond
  rw [← huser, ← hhash]
  exact findDevice_of_remembered (remembered_run env is ⟨hlt, hrow⟩ hno) hrev hexp

/-! ## Reset links -/

/-- The link passes the checks of `resetPassword`: its signature, its expiry, and that it has not been
used. -/
def LinkGood (s : State) (token : ResetToken) : Prop :=
  token ∈ s.signed ∧ s.now < token.expiresAt ∧ ¬ Completed s token.sub token.jti

theorem outcome_signed (h : Outcome env s c p s') (ht : token ∈ s.signed) : token ∈ s'.signed := by
  cases h with
  | forgot => exact List.mem_cons_of_mem _ ht
  | rotateRevoke session | closeRevoke session =>
      obtain ⟨sessions, heq⟩ := revokeLocked_eq s c session
      rw [heq]
      exact ht
  | _ => exact ht

/-- **Step.** A reset token stays signed. -/
theorem signed_step (ht : token ∈ s.signed) : token ∈ (s.step env i).signed := by
  have hstep := step_inv env s i
  generalize s.step env i = s' at hstep
  cases hstep with
  | exec pick hc => exact outcome_signed (advance_outcome env s _ pick _) ht
  | _ => exact ht

/-- A link is marked as used by the step that commits its reset, and by no other. -/
theorem completed_of_step (h : Completed (s.step env i) sub jti) :
    Completed s sub jti ∨ resetCompleted s i = some (sub, jti) := by
  obtain ⟨e, he, huser, htype⟩ := h
  rw [step_events] at he
  rcases List.mem_append.mp he with hold | hnew
  · exact Or.inl ⟨e, hold, huser, htype⟩
  · obtain ⟨c, pick, p, rfl, hp, hlog, -⟩ := logged_eq (Option.mem_toList.mp hnew)
    rw [huser, htype] at hlog
    obtain ⟨query, rfl⟩ := sweep_of_logs hlog
    exact Or.inr (by simp only [resetCompleted, hp])

/-- **Reset links.** A link that is good in one state of a run is good in every later one, unless it has
completed a reset in between or has expired. -/
theorem link_run (env : Env) (is : List Input) (h : LinkGood s token)
    (hno : (token.sub, token.jti) ∉ trace (State.step env) resetCompleted s is)
    (hexp : (run (State.step env) s is).now < token.expiresAt) :
    LinkGood (run (State.step env) s is) token := by
  have hkept : token ∈ (run (State.step env) s is).signed ∧
      ¬ Completed (run (State.step env) s is) token.sub token.jti := by
    clear hexp
    obtain ⟨hsigned, -, hfresh⟩ := h
    induction is generalizing s with
    | nil => exact ⟨hsigned, hfresh⟩
    | cons i is ih =>
        obtain ⟨hhead, htail⟩ := not_or.mp (mt List.mem_append.mpr hno)
        refine ih htail (signed_step hsigned) fun hnow => ?_
        rcases completed_of_step hnow with hold | hreset
        · exact hfresh hold
        · exact hhead (Option.mem_toList.mpr hreset)
  exact ⟨hkept.1, hexp, hkept.2⟩

/-! ## The steps of a call that changes a password -/

/-- Only such a call goes on to where such a call stands. -/
theorem changes_of_follows (h : Follows env s c p p') (hp' : p'.changes = true) : p.changes = true := by
  cases h with
  | next hnext =>
      cases hnext with
      | stop => cases hp'
      | scan query after => cases query <;> cases after <;> exact hp'
      | unused => rfl
      | resetCheckUser => rfl
      | changeLookup => rfl
      | changeNoUser => rfl
      | _ => cases hp'
  | @sweepRow query todo todo' after pick => cases query <;> cases after <;> exact hp'
  | resetAdvisory => rfl
  | resetUpdateUser => rfl
  | refreshLock hfree hview htoken huser hlocked => cases hlocked <;> cases hp'
  | _ => cases hp'

/-- And it goes on to nowhere else, but to its end. -/
theorem follows_of_changes (h : Follows env s c p p') (hp : p.changes = true) :
    p'.changes = true ∨ p' = .done := by
  cases h with
  | next hnext =>
      cases hnext with
      | stop => exact Or.inr rfl
      | scan query after =>
          refine Or.inl ?_
          cases query <;> cases after <;> exact hp
      | unused => exact Or.inl rfl
      | resetCheckUser => exact Or.inl rfl
      | changeLookup => exact Or.inl rfl
      | changeNoUser => exact Or.inl rfl
      | _ => cases hp
  | @sweepRow query todo todo' after pick =>
      refine Or.inl ?_
      cases query <;> cases after <;> exact hp
  | resetAdvisory => exact Or.inl rfl
  | resetUpdateUser => exact Or.inl rfl
  | _ => cases hp

/-- Where a call that changes a password stands, if it has begun. -/
def OnChange (s : State) (c : CallId) : Prop :=
  ∀ p, s.calls c = some p → p.changes = true ∨ p = .done

/-- A call that is seen changing a password has done nothing else before. -/
theorem changes_of_later (env : Env) (is : List Input)
    (hlater : (run (State.step env) s is).calls c = some p') (hp' : p'.changes = true) :
    ∀ p, s.calls c = some p → p.changes = true := by
  induction is generalizing s with
  | nil =>
      intro p hp
      rw [run_nil, hp, Option.some.injEq] at hlater
      rw [hlater, hp']
  | cons i is ih =>
      intro p hp
      obtain ⟨q, hq⟩ := step_calls_some env i hp
      have hqc : q.changes = true := ih hlater q hq
      rcases step_follows hq with ⟨hsame, -⟩ | ⟨-, hnone, -⟩ | rfl | ⟨pick, p₀, -, hp₀, hfollows⟩
      · rw [hp, Option.some.injEq] at hsame
        rw [hsame, hqc]
      · rw [hp] at hnone
        cases hnone
      · cases hqc
      · rw [hp, Option.some.injEq] at hp₀
        rw [hp₀]
        exact changes_of_follows hfollows hqc

/-- **Step.** A change of the password stays one. -/
theorem onChange_step (hbegun : s.calls c = some p) (h : OnChange s c) : OnChange (s.step env i) c := by
  intro q hq
  rcases step_follows hq with ⟨hsame, -⟩ | ⟨-, hnone, -⟩ | rfl | ⟨pick, p₀, -, hp₀, hfollows⟩
  · exact h q hsame
  · rw [hbegun] at hnone
    cases hnone
  · exact Or.inr rfl
  · rcases h p₀ hp₀ with hchanges | rfl
    · exact follows_of_changes hfollows hchanges
    · cases hfollows with
      | next hnext => cases hnext with | stop => exact Or.inr rfl

/-- It changes the password, and nothing else, until it is done. -/
theorem changes_stays (env : Env) (is : List Input) (hbegun : s.calls c = some p) (h : OnChange s c) :
    OnChange (run (State.step env) s is) c :=
  (run_keeps (I := fun s => (∃ p, s.calls c = some p) ∧ OnChange s c)
    (fun _ i hs => ⟨step_calls_some env i hs.1.choose_spec, onChange_step hs.1.choose_spec hs.2⟩)
    ⟨⟨p, hbegun⟩, h⟩ is).2

/-- Nothing is drawn or signed, no device is touched and the clock stands still. -/
structure Spares (s s' : State) : Prop where
  now : s'.now = s.now
  next : s'.next = s.next
  devices : s'.devices = s.devices
  signed : s'.signed = s.signed

theorem outcome_spares (h : Outcome env s c p s') (hp : p.changes = true ∨ p = .done) : Spares s s' := by
  have hno : ∀ {q : Call}, q.changes = false → q ≠ .done → p ≠ q := by
    rintro q hq hdone rfl
    rcases hp with hp | rfl
    · rw [hq] at hp
      cases hp
    · exact hdone rfl
  cases h with
  | wait => exact ⟨rfl, rfl, rfl, rfl⟩
  | move => exact ⟨rfl, rfl, rfl, rfl⟩
  | changeUpdate => exact ⟨rfl, rfl, rfl, rfl⟩
  | commit => exact ⟨rfl, rfl, rfl, rfl⟩
  | completeReset => exact ⟨rfl, rfl, rfl, rfl⟩
  | sweepRow => exact ⟨rfl, rfl, rfl, rfl⟩
  | resetAdvisory => exact ⟨rfl, rfl, rfl, rfl⟩
  | resetUsed => exact ⟨rfl, rfl, rfl, rfl⟩
  | resetInactive => exact ⟨rfl, rfl, rfl, rfl⟩
  | resetUpdateUser => exact ⟨rfl, rfl, rfl, rfl⟩
  | _ => exact absurd rfl (hno rfl (by simp))

/-- **Spared.** A step of a call that changes a password leaves every device as it is, and every link that is
not the one it completes. -/
theorem spared_step (h : OnChange s c) (ha : i.actor = some c) :
    (s.step env i).devices = s.devices ∧
      (∀ user hash, (s.step env i).findDevice user hash = s.findDevice user hash) ∧
      ∀ token : ResetToken, resetCompleted s i ≠ some (token.sub, token.jti) →
        (LinkGood (s.step env i) token ↔ LinkGood s token) := by
  have hspares : Spares s (s.step env i) := by
    have hstep := step_inv env s i
    generalize s.step env i = s' at hstep
    cases hstep with
    | @exec c' p pick hc =>
        rw [show c' = c from Option.some.inj ha] at hc
        exact outcome_spares (advance_outcome env s c' pick p) (h p hc)
    | tick => cases ha
    | setStatus => cases ha
    | setMfa => cases ha
    | _ => exact ⟨rfl, rfl, rfl, rfl⟩
  refine ⟨hspares.devices, fun user hash => ?_, fun token hno => ?_⟩
  · unfold findDevice
    rw [hspares.next, hspares.devices, hspares.now]
  · unfold LinkGood
    rw [hspares.signed, hspares.now]
    refine and_congr_right fun _ => and_congr_right fun _ => not_congr ⟨fun hc => ?_, completed_step⟩
    exact (completed_of_step hc).resolve_right hno

end State

end PredictATrade.Auth
