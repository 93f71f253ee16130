import PredictATrade.Auth.Guesses

/-!
# `Auth.Throttle` — how often passwords and codes are guessed

A wrong password is counted by three statements of `login`: the row is read, the password compared,
and the new count and lock written back. A wrong code is counted by the event that follows it, and
only `verifyOtp` reads these events, from the creation of its challenge on. So neither bound holds
of every run.

The bounds hold of the runs in which every guess is `Orderly`: a password is compared only while the
row that was read is still current, a code only while the events show all that the bound is about.
Two invariants carry them. `PasswordInv`: the row remembers every wrong password since the last
success, unless one call is about to write it. `CodeInv`: the events show every wrong code, unless
one call is about to log it.
-/

namespace PredictATrade.Auth

open Lib.ReadCommitted Lib.Runs

namespace State

variable {env : Env} {u : UserId} {s s' : State} {c c' : CallId} {pick : SessionId}
  {p : Call} {i : Input} {t : ℤ}

/-! ## Throttling, and its condition -/

/-- The ten minutes from a time on. -/
def inWindow (since t : ℤ) : Bool := since ≤ t && t ≤ since + otpChallengeExpiry

/-- The user is locked at present. -/
def LockedUntil (s : State) (u : UserId) (l : ℤ) : Prop :=
  s.now < l ∧ ∃ r, (s.users u).committed = some r ∧ r.lockedUntil = some l

/-- **Throttled guessing.** No password is compared before the locks of the fifth wrong password
since the last success, and of those after it, have expired. No failure removes or shortens a lock.
No more than five wrong codes without a success fall in a window of ten minutes. -/
structure Throttled (env : Env) (u : UserId) (s₀ : State) (is : List Input) : Prop where
  compared : ∀ pre c pick post row password mfaCode device, is = pre ++ .exec c pick :: post →
    (run (step env) s₀ pre).calls c = some (.loginCompare u row password mfaCode device) →
    ∀ t ∈ (streak Guess.password (guesses env u s₀ pre)).drop (maxLoginFailures - 1),
      t + lockout ≤ (run (step env) s₀ pre).now
  locked : ∀ pre c pick post count lockedUntil l, is = pre ++ .exec c pick :: post →
    (run (step env) s₀ pre).calls c = some (.recordFailure u count lockedUntil) →
    (run (step env) s₀ pre).LockedUntil u l →
    ∃ l', l ≤ l' ∧ (run (step env) s₀ (pre ++ [.exec c pick])).LockedUntil u l'
  codes : ∀ pre, pre <+: is → ∀ since,
    (streak Guess.code (guesses env u s₀ pre)).countP (inWindow since) ≤ maxOtpAttempts

/-- The row that a login has read is not out of date: the account has no more failures now, and is
not locked now. -/
def current (s : State) (u : UserId) (row : User) : Bool :=
  (s.users u).committed.any fun r =>
    r.failedLoginCount ≤ row.failedLoginCount &&
      !(r.lockedUntil.any fun l => decide (s.now < l))

/-- A statement that may be executed: what it goes by is up to date. -/
def InOrder (env : Env) (u : UserId) (s : State) (idle : (Call → Bool) → Prop) : Call → Prop
  | .loginCompare user row _ _ _ =>
    user = u → idle (Call.recordsFailure u) ∧ s.current u row = true
  | .loginRole user (some secret) (some code) _ =>
    user = u → env.totp code secret s.now = false → idle (Call.logsFailure u) ∧
      s.failedCodes u (s.now - otpChallengeExpiry) < maxOtpAttempts
  | .otpCount user _ createdAt secret code _ =>
    user = u → s.failedCodes u createdAt < maxOtpAttempts → env.totp code secret s.now = false →
      idle (Call.logsFailure u) ∧ ∀ e ∈ s.events, e.userId = u → e.eventType = .mfaFailed →
        s.now - otpChallengeExpiry ≤ e.createdAt → createdAt ≤ e.createdAt
  | _ => True

/-- A step that keeps guessing in order; `idle` says which statements no call stands at. -/
def Orderly (env : Env) (u : UserId) (idle : State → (Call → Bool) → Prop) (s : State) :
    Input → Prop
  | .exec c _ => ∀ p ∈ s.calls c, s.InOrder env u (idle s) p
  | .abort c => ∀ p ∈ s.calls c, p.recordsFailure u = false ∧ p.logsFailure u = false
  | _ => True

/-! ## Passwords -/

/-- The count and the lock of a row remember the wrong passwords: each is counted, and from the
fifth on each has its lock. -/
def Remembers (wrong : List ℤ) (count : ℕ) (lockedUntil : Option ℤ) : Prop :=
  wrong.length ≤ count ∧
    ∀ t ∈ wrong.drop (maxLoginFailures - 1), ∃ l, lockedUntil = some l ∧ t + lockout ≤ l

theorem remembers_nil (count : ℕ) (lockedUntil : Option ℤ) : Remembers [] count lockedUntil :=
  ⟨Nat.zero_le _, fun _ ht => nomatch ht⟩

/-- The wrong passwords of a user since the last success, and the row. -/
structure PasswordInv (u : UserId) (s : State) (wrong : List ℤ) : Prop where
  past : ∀ t ∈ wrong, t ≤ s.now
  one : s.AtMostOne (Call.recordsFailure u)
  settled : s.Idle (Call.recordsFailure u) →
    wrong = [] ∨ ∃ x, s.counters u = some x ∧ Remembers wrong x.1 x.2
  pending : ∀ c count lockedUntil, s.calls c = some (.recordFailure u count lockedUntil) →
    Remembers wrong count lockedUntil ∧
      ∃ x, s.counters u = some x ∧ ∀ l, x.2 = some l → l ≤ s.now

theorem current_eq {row : User} (h : s.current u row = true) :
    ∃ x, s.counters u = some x ∧ x.1 ≤ row.failedLoginCount ∧ ∀ l, x.2 = some l → l ≤ s.now := by
  obtain ⟨r, hr, hrow⟩ := (Option.any_eq_true _ _).mp h
  rw [Bool.and_eq_true, Bool.not_eq_true'] at hrow
  refine ⟨(r.failedLoginCount, r.lockedUntil), ?_, of_decide_eq_true hrow.1, ?_⟩
  · unfold counters
    rw [hr]
    rfl
  · intro l hl
    have hopen := hrow.2
    change r.lockedUntil = some l at hl
    rw [hl, Option.any_some] at hopen
    exact Int.not_lt.mp (of_decide_eq_false hopen)

/-- A comparison in order goes by a row that is up to date. -/
theorem compare_inOrder {row : User} {password mfaCode device}
    (hord : Orderly env u Idle s (.exec c pick))
    (hc : s.calls c = some (.loginCompare u row password mfaCode device)) :
    s.Idle (Call.recordsFailure u) ∧ s.current u row = true := hord _ hc rfl

section Passwords

variable {wrong wrong' : List ℤ} {row : User} {count : ℕ} {lockedUntil : Option ℤ}

/-- Where a password is compared, the row that was read counts every wrong one, and the lock of each
from the fifth on has expired. -/
theorem PasswordInv.compare (h : PasswordInv u s wrong) (hidle : s.Idle (Call.recordsFailure u))
    (hcurrent : s.current u row = true) :
    wrong.length ≤ row.failedLoginCount ∧
      ∀ t ∈ wrong.drop (maxLoginFailures - 1), t + lockout ≤ s.now := by
  obtain ⟨x, hx, hcount, hopen⟩ := current_eq hcurrent
  rcases h.settled hidle with rfl | ⟨y, hy, hlength, hlocks⟩
  · exact ⟨Nat.zero_le _, fun t ht => nomatch ht⟩
  · rw [hx, Option.some.injEq] at hy
    subst hy
    refine ⟨Nat.le_trans hlength hcount, ?_⟩
    intro t ht
    obtain ⟨l, hl, hle⟩ := hlocks t ht
    exact Int.le_trans hle (hopen l hl)

/-- The count and the lock that follow a wrong password remember it too. -/
theorem PasswordInv.remembers (h : PasswordInv u s wrong) (hlength : wrong.length ≤ count) :
    Remembers (wrong ++ [s.now]) (count + 1)
      (if maxLoginFailures ≤ count + 1 then some (s.now + lockout) else none) := by
  refine ⟨?_, ?_⟩
  · rw [List.length_append]
    exact Nat.succ_le_succ hlength
  · intro t ht
    have hlong := List.length_pos_of_mem ht
    rw [List.length_drop, List.length_append, List.length_singleton] at hlong
    have hlock : maxLoginFailures ≤ count + 1 := by omega
    refine ⟨s.now + lockout, if_pos hlock, ?_⟩
    rcases List.mem_append.mp (List.mem_of_mem_drop ht) with hold | hnew
    · exact Int.add_le_add_right (h.past t hold) lockout
    · exact Int.le_of_eq (congrArg (· + lockout) (List.mem_singleton.mp hnew))

/-- While no wrong password is to be written, the row remembers them all. -/
theorem PasswordInv.settled_step (h : PasswordInv u s wrong) (husers : s.UserInv)
    (hord : Orderly env u Idle s i) (hstreak : Streak Guess.password (guess env u s i) wrong wrong')
    (hidle' : (s.step env i).Idle (Call.recordsFailure u)) :
    wrong' = [] ∨ ∃ x, (s.step env i).counters u = some x ∧ Remembers wrong' x.1 x.2 := by
  cases hstreak with
  | reset => exact Or.inl rfl
  | added hadded =>
      -- the statement that writes it is to come
      obtain ⟨c, pick, row, password, mfaCode, device, rfl, hc, hwrong, -⟩ :=
        wrongPassword_eq (eq_wrongPassword hadded)
      exact (hidle'.not_at (compare_exec hc hwrong) (recordsFailure_self u _ _)).elim
  | kept hsuccess hnone =>
      rcases s.idle_or (Call.recordsFailure u) with hidle | ⟨c, p, hc, hp⟩
      · rcases h.settled hidle with hnil | ⟨x, hx, hremembers⟩
        · exact Or.inl hnil
        · right
          have hcounts := (husers.step env i).counts u
          generalize (s.step env i).counters u = y at hcounts
          cases hcounts with
          | same => exact ⟨x, hx, hremembers⟩
          | failed hi hc => exact (hidle.not_at hc (recordsFailure_self u _ _)).elim
          | reset hi hc hfree =>
              subst hi
              rw [guess_exec hc] at hsuccess
              exact absurd (if_pos ⟨rfl, hfree⟩) hsuccess
          | inserted hnone =>
              rw [hx] at hnone
              cases hnone
      · -- the one that was to be written is written now
        obtain ⟨count, lockedUntil, rfl⟩ := recordsFailure_eq hp
        obtain ⟨hremembers, x, hx, -⟩ := h.pending c count lockedUntil hc
        have hmoved : (s.step env i).calls c ≠ some (.recordFailure u count lockedUntil) :=
          fun hsame => hidle'.not_at hsame (recordsFailure_self u _ _)
        rcases step_moved hc hmoved with ⟨pick, rfl⟩ | rfl
        · obtain ⟨r, hr, -⟩ := counters_eq hx
          rcases recordFailure_exec env pick hc hr with heq | hcounters
          · rw [heq] at hmoved
            exact absurd hc hmoved
          · exact Or.inr ⟨_, hcounters, hremembers⟩
        · have haborted := (hord _ hc).1
          rw [hp] at haborted
          cases haborted

/-- A row that is not locked stays so, unless a wrong password is written to it. -/
theorem open_step (husers : s.UserInv) {x : ℕ × Option ℤ} (hx : s.counters u = some x)
    (hopen : ∀ l, x.2 = some l → l ≤ s.now)
    (hfailed : ∀ c pick count lockedUntil, i = .exec c pick →
      s.calls c ≠ some (.recordFailure u count lockedUntil)) :
    ∃ x', (s.step env i).counters u = some x' ∧ ∀ l, x'.2 = some l → l ≤ (s.step env i).now := by
  have hcounts := (husers.step env i).counts u
  generalize (s.step env i).counters u = y at hcounts
  cases hcounts with
  | same => exact ⟨x, hx, fun l hl => Int.le_trans (hopen l hl) (step_now env s i)⟩
  | failed hi hc => exact absurd hc (hfailed _ _ _ _ hi)
  | reset => exact ⟨_, rfl, fun _ hl => nomatch hl⟩
  | inserted hnone =>
      rw [hx] at hnone
      cases hnone

/-- Whoever is about to write a wrong password goes by a row that nobody has locked meanwhile. -/
theorem PasswordInv.pending_step (h : PasswordInv u s wrong) (husers : s.UserInv)
    (hord : Orderly env u Idle s i) (hstreak : Streak Guess.password (guess env u s i) wrong wrong')
    (hc : (s.step env i).calls c = some (.recordFailure u count lockedUntil)) :
    Remembers wrong' count lockedUntil ∧
      ∃ x, (s.step env i).counters u = some x ∧ ∀ l, x.2 = some l → l ≤ (s.step env i).now := by
  rcases recordFailure_step hc with ⟨hsame, hactor⟩ |
    ⟨pick, row, password, mfaCode, device, rfl, hcompare, hwrong, rfl, rfl⟩
  · obtain ⟨hremembers, x, hx, hopen⟩ := h.pending c count lockedUntil hsame
    refine ⟨?_, ?_⟩
    · cases hstreak with
      | reset => exact remembers_nil count lockedUntil
      | kept => exact hremembers
      | added hadded =>
          -- no password is compared before this one is written
          obtain ⟨c', pick, row, password, mfaCode, device, rfl, hcompare, -⟩ :=
            wrongPassword_eq (eq_wrongPassword hadded)
          exact ((compare_inOrder hord hcompare).1.not_at hsame (recordsFailure_self u _ _)).elim
    · rcases hactor with hactor | heq
      · refine open_step husers hx hopen ?_
        rintro c' pick count' lockedUntil' rfl hfailed
        apply hactor
        exact congrArg some (h.one _ _ (at_any hfailed (recordsFailure_self u _ _))
          (at_any hsame (recordsFailure_self u _ _)))
      · rw [heq]
        exact ⟨x, hx, hopen⟩
  · obtain ⟨hidle, hcurrent⟩ := compare_inOrder hord hcompare
    obtain ⟨x, hx, -, hopen⟩ := current_eq hcurrent
    refine ⟨?_, open_step husers hx hopen fun c' pick' count lockedUntil _ hfailed =>
      hidle.not_at hfailed (recordsFailure_self u _ _)⟩
    have hguess : guess env u s (.exec c pick) = some (.wrongPassword s.now) := by
      rw [guess_exec hcompare]
      exact if_pos ⟨rfl, hwrong⟩
    rw [hguess] at hstreak
    cases hstreak with
    | reset he => cases he
    | kept _ hnone => cases hnone
    | added ht =>
        rw [← Option.some.inj ht]
        exact h.remembers (h.compare hidle hcurrent).1

/-- **Step.** The row goes on telling the wrong passwords since the last success. -/
theorem PasswordInv.step (h : PasswordInv u s wrong) (husers : s.UserInv)
    (hord : Orderly env u Idle s i)
    (hstreak : Streak Guess.password (guess env u s i) wrong wrong') :
    PasswordInv u (s.step env i) wrong' := by
  refine ⟨?_, ?_, h.settled_step husers hord hstreak,
    fun c count lockedUntil hc => h.pending_step husers hord hstreak hc⟩
  · have hpast : ∀ t ∈ wrong, t ≤ (s.step env i).now :=
      fun t ht => Int.le_trans (h.past t ht) (step_now env s i)
    cases hstreak with
    | reset => exact fun _ ht => nomatch ht
    | kept => exact hpast
    | added hadded =>
        obtain ⟨-, -, -, -, -, -, -, -, -, rfl⟩ := wrongPassword_eq (eq_wrongPassword hadded)
        intro t ht
        rcases List.mem_append.mp ht with hold | hnew
        · exact hpast t hold
        · rw [List.mem_singleton.mp hnew]
          exact step_now env s i
  · refine h.one.step (i := i) fun c hc => ?_
    obtain ⟨p, hp, hrecords⟩ := (Option.any_eq_true _ _).mp hc
    obtain ⟨count, lockedUntil, rfl⟩ := recordsFailure_eq hrecords
    rcases recordFailure_step hp with ⟨hsame, -⟩ |
      ⟨pick, row, password, mfaCode, device, rfl, hcompare, -⟩
    · exact Or.inl (at_any hsame hrecords)
    · exact Or.inr ⟨rfl, (compare_inOrder hord hcompare).1⟩

end Passwords

/-! ## Codes -/

section Codes

variable {codes : List ℤ}

/-- The wrong codes of a user, and the events. -/
structure CodeInv (u : UserId) (s : State) (codes : List ℤ) : Prop where
  past : ∀ t ∈ codes, t ≤ s.now
  one : s.AtMostOne (Call.logsFailure u)
  settled : s.Idle (Call.logsFailure u) →
    ∀ since, codes.countP (fun t => since ≤ t) ≤ s.failedCodes u since
  counted : ∀ since, codes.countP (fun t => since ≤ t) ≤ s.failedCodes u since + 1
  window : ∀ since, codes.countP (inWindow since) ≤ maxOtpAttempts

/-- The events of a challenge that is older than every recent failure show all of them. -/
theorem failedCodes_le {createdAt since : ℤ}
    (h : ∀ e ∈ s.events, e.userId = u → e.eventType = .mfaFailed → since ≤ e.createdAt →
      createdAt ≤ e.createdAt) : s.failedCodes u since ≤ s.failedCodes u createdAt := by
  apply List.countP_mono_left
  intro e he hfailed
  simp only [Bool.and_eq_true, decide_eq_true_eq] at hfailed ⊢
  exact ⟨hfailed.1, h e he hfailed.1.1 hfailed.1.2 hfailed.2⟩

/-- If a wrong code is checked in order, the events show fewer than five in the last ten minutes,
and none is still to be logged. -/
theorem wrongCode_inOrder (hord : Orderly env u Idle s i)
    (h : guess env u s i = some (.wrongCode t)) :
    s.Idle (Call.logsFailure u) ∧
      s.failedCodes u (s.now - otpChallengeExpiry) < maxOtpAttempts := by
  obtain ⟨c, pick, p, rfl, hp, hwrong, -⟩ := wrongCode_eq h
  have hin := hord p hp
  cases hwrong with
  | inline htotp => exact hin rfl htotp
  | verify hfew htotp =>
      obtain ⟨hidle, hevents⟩ := hin rfl hfew htotp
      exact ⟨hidle, Nat.lt_of_le_of_lt (failedCodes_le hevents) hfew⟩

/-- No wrong code was checked later than now. -/
theorem CodeInv.none_later (h : CodeInv u s codes) {since : ℤ} (hsince : s.now < since) :
    codes.countP (fun t => since ≤ t) = 0 := by
  apply List.countP_eq_zero.mpr
  intro t ht
  have := h.past t ht
  simp only [decide_eq_true_eq]
  omega

/-- A step that checks no wrong code. -/
theorem CodeInv.step_of_none (h : CodeInv u s codes) (hord : Orderly env u Idle s i)
    (hguess : ∀ t, guess env u s i ≠ some (.wrongCode t)) : CodeInv u (s.step env i) codes := by
  have hstay : ∀ c, (s.step env i).calls c = some (.logFailed u) →
      s.calls c = some (.logFailed u) := by
    intro c hc
    rcases logFailed_step hc with ⟨hsame, -⟩ | ⟨-, hwrong⟩
    · exact hsame
    · exact absurd hwrong (hguess s.now)
  refine ⟨fun t ht => Int.le_trans (h.past t ht) (step_now env s i), ?_, ?_, ?_, h.window⟩
  · refine h.one.step (i := i) fun c hc => ?_
    obtain ⟨p, hp, hlogs⟩ := (Option.any_eq_true _ _).mp hc
    have hlogFailed := logsFailure_eq hlogs
    subst hlogFailed
    exact Or.inl (at_any (hstay c hp) hlogs)
  · intro hidle' since
    rcases s.idle_or (Call.logsFailure u) with hidle | ⟨c, p, hc, hp⟩
    · exact Nat.le_trans (h.settled hidle since) (failedCodes_step env i since)
    · -- the code that was to be logged is logged now
      have hlogFailed := logsFailure_eq hp
      subst hlogFailed
      rcases step_moved hc fun hsame => hidle'.not_at hsame hp with ⟨pick, rfl⟩ | rfl
      · by_cases hlater : s.now < since
        · rw [h.none_later hlater]
          exact Nat.zero_le _
        · rw [failedCodes_logged hc (Int.not_lt.mp hlater)]
          exact h.counted since
      · have haborted := (hord _ hc).2
        rw [hp] at haborted
        cases haborted
  · intro since
    exact Nat.le_trans (h.counted since) (Nat.succ_le_succ (failedCodes_step env i since))

/-- A step that checks a wrong code, in order. -/
theorem CodeInv.step_of_wrong (h : CodeInv u s codes) (hord : Orderly env u Idle s i)
    (hguess : guess env u s i = some (.wrongCode t)) :
    CodeInv u (s.step env i) (codes ++ [t]) := by
  obtain ⟨hidle, hfew⟩ := wrongCode_inOrder hord hguess
  obtain ⟨-, -, -, -, -, -, rfl⟩ := wrongCode_eq hguess
  have hcounted : ∀ since, (codes ++ [s.now]).countP (fun t => since ≤ t) ≤
      s.failedCodes u since + 1 := by
    intro since
    rw [List.countP_append]
    exact Nat.add_le_add (h.settled hidle since) List.countP_le_length
  refine ⟨?_, ?_, ?_, ?_, ?_⟩
  · intro t ht
    rcases List.mem_append.mp ht with hold | hnew
    · exact Int.le_trans (h.past t hold) (step_now env s i)
    · rw [List.mem_singleton.mp hnew]
      exact step_now env s i
  · refine h.one.step (i := i) fun c hc => ?_
    obtain ⟨p, hp, hlogs⟩ := (Option.any_eq_true _ _).mp hc
    have hlogFailed := logsFailure_eq hlogs
    subst hlogFailed
    rcases logFailed_step hp with ⟨hsame, -⟩ | ⟨hactor, -⟩
    · exact Or.inl (at_any hsame hlogs)
    · exact Or.inr ⟨hactor, hidle⟩
  · intro hidle'
    obtain ⟨c, hc⟩ := wrongCode_moves hguess
    exact (hidle'.not_at hc (logsFailure_self u)).elim
  · intro since
    exact Nat.le_trans (hcounted since) (Nat.succ_le_succ (failedCodes_step env i since))
  · intro since
    rw [List.countP_append]
    by_cases hin : inWindow since s.now = true
    · -- the codes before this one lie in the ten minutes that end now
      have hold : codes.countP (inWindow since) ≤
          s.failedCodes u (s.now - otpChallengeExpiry) := by
        refine Nat.le_trans (List.countP_mono_left fun t ht hwin => ?_) (h.settled hidle _)
        simp only [inWindow, Bool.and_eq_true, decide_eq_true_eq] at hin hwin ⊢
        omega
      have hone : [s.now].countP (inWindow since) ≤ 1 := List.countP_le_length
      omega
    · have hzero : [s.now].countP (inWindow since) = 0 := by
        rw [List.countP_eq_zero]
        intro t ht
        rw [List.mem_singleton.mp ht]
        exact hin
      rw [hzero]
      exact h.window since

end Codes

/-! ## Runs -/

section Runs

variable {s₀ : State}

/-- The users keep the invariant while no call is under way. -/
theorem userInv_of_quiescent (h : Quiescent s₀) : s₀.UserInv := by
  refine ⟨h.freshUser, ?_⟩
  intro u c v hv
  rw [h.users u] at hv
  cases hv

/-- **Run.** The users keep the invariant. -/
theorem userInv_run (env : Env) (h : Quiescent s₀) (is : List Input) :
    (run (step env) s₀ is).UserInv :=
  run_keeps (I := UserInv) (fun _ i hi => (hi.step env i).inv) (userInv_of_quiescent h) is

theorem atMostOne_of_quiescent (h : Quiescent s₀) (f : Call → Bool) : s₀.AtMostOne f := by
  intro c c' hc
  rw [h.calls c] at hc
  cases hc

/-- **Run.** The row tells the wrong passwords since the last success. -/
theorem passwordInv_run (h : Quiescent s₀) (is : List Input)
    (hp : Along (step env) (Orderly env u Idle) s₀ is) :
    PasswordInv u (run (step env) s₀ is) (streak Guess.password (guesses env u s₀ is)) := by
  induction is using List.reverseRecOn with
  | nil =>
      refine ⟨(fun _ ht => nomatch ht), atMostOne_of_quiescent h _, fun _ => Or.inl rfl, ?_⟩
      intro c count lockedUntil hc
      change s₀.calls c = _ at hc
      rw [h.calls c] at hc
      cases hc
  | append_singleton is i ih =>
      obtain ⟨hbefore, hord, -⟩ := along_append.mp hp
      rw [run_snoc, guesses, trace_snoc]
      exact (ih hbefore).step (userInv_run env h is) hord (streak_step _ _ _)

/-- **Run.** The events tell the wrong codes. -/
theorem codeInv_run (h : Quiescent s₀) (is : List Input)
    (hp : Along (step env) (Orderly env u Idle) s₀ is) :
    CodeInv u (run (step env) s₀ is) ((guesses env u s₀ is).filterMap Guess.code) := by
  induction is using List.reverseRecOn with
  | nil =>
      exact ⟨(fun _ ht => nomatch ht), atMostOne_of_quiescent h _, fun _ _ => Nat.zero_le _,
        fun _ => Nat.zero_le _, fun _ => Nat.zero_le _⟩
  | append_singleton is i ih =>
      obtain ⟨hbefore, hord, -⟩ := along_append.mp hp
      have hinv := ih hbefore
      rw [run_snoc, guesses, trace_snoc, List.filterMap_append]
      cases hg : guess env u (run (step env) s₀ is) i with
      | none =>
          rw [show List.filterMap Guess.code (none : Option Guess).toList = [] from rfl,
            List.append_nil]
          refine hinv.step_of_none hord fun t ht => ?_
          rw [hg] at ht
          cases ht
      | some g =>
          cases g with
          | wrongCode t => exact hinv.step_of_wrong hord hg
          | wrongPassword | success =>
              refine List.append_nil _ ▸ hinv.step_of_none hord fun t ht => ?_
              rw [hg] at ht
              cases ht

/-- **Guessing is throttled** in every run whose guesses are in order. -/
theorem throttled (env : Env) (u : UserId) (h : Quiescent s₀) (is : List Input)
    (hp : Along (step env) (Orderly env u Idle) s₀ is) : Throttled env u s₀ is := by
  refine ⟨?_, ?_, ?_⟩
  · rintro pre c pick post row password mfaCode device rfl hc
    obtain ⟨hbefore, hord, -⟩ := along_append.mp hp
    obtain ⟨hidle, hcurrent⟩ := compare_inOrder hord hc
    exact ((passwordInv_run h pre hbefore).compare hidle hcurrent).2
  · rintro pre c pick post count lockedUntil l rfl hc ⟨hlocked, r, hr, hl⟩
    -- nobody has locked the row since the password was compared
    obtain ⟨hbefore, -⟩ := along_append.mp hp
    obtain ⟨-, x, hx, hopen⟩ := (passwordInv_run h pre hbefore).pending c count lockedUntil hc
    obtain ⟨r', hr', rfl⟩ := counters_eq hx
    rw [hr, Option.some.injEq] at hr'
    subst hr'
    exact absurd hlocked (Int.not_lt.mpr (hopen l hl))
  · rintro pre ⟨post, rfl⟩ since
    obtain ⟨hbefore, -⟩ := along_append.mp hp
    exact Nat.le_trans ((streak_sublist Guess.code _).countP_le)
      ((codeInv_run h pre hbefore).window since)

end Runs

/-! ## Evaluating the condition -/

/-- None of the first calls stands at such a statement. -/
def IdleBelow (n : ℕ) (s : State) (f : Call → Bool) : Prop := ∀ c < n, (s.calls c).any f = false

instance decidableIdleBelow (n : ℕ) (f : Call → Bool) : Decidable (s.IdleBelow n f) :=
  inferInstanceAs (Decidable (∀ c < n, (s.calls c).any f = false))

instance decidableInOrder {idle : (Call → Bool) → Prop} [∀ f, Decidable (idle f)] :
    Decidable (s.InOrder env u idle p) := by
  cases p with
  | loginCompare => exact inferInstanceAs (Decidable (_ = u → _ ∧ s.current u _ = true))
  | loginRole user secret mfaCode device =>
      cases secret with
      | none => exact .isTrue trivial
      | some secret =>
          cases mfaCode with
          | none => exact .isTrue trivial
          | some code =>
              exact inferInstanceAs (Decidable (user = u → env.totp code secret s.now = false →
                idle (Call.logsFailure u) ∧ _ < maxOtpAttempts))
  | otpCount user challengeId createdAt secret code trustDevice =>
      exact inferInstanceAs (Decidable (user = u → s.failedCodes u createdAt < maxOtpAttempts →
        env.totp code secret s.now = false → idle (Call.logsFailure u) ∧
          ∀ e ∈ s.events, e.userId = u → e.eventType = .mfaFailed →
            s.now - otpChallengeExpiry ≤ e.createdAt → createdAt ≤ e.createdAt))
  | _ => exact .isTrue trivial

instance decidableOrderly {idle : State → (Call → Bool) → Prop}
    [∀ s f, Decidable (idle s f)] : Decidable (Orderly env u idle s i) :=
  match i with
  | .exec c _ => inferInstanceAs (Decidable (∀ p ∈ s.calls c, s.InOrder env u (idle s) p))
  | .abort c => inferInstanceAs
      (Decidable (∀ p ∈ s.calls c, p.recordsFailure u = false ∧ p.logsFailure u = false))
  | .call _ _ | .tick _ | .setStatus _ _ | .setMfa _ _ => .isTrue trivial

theorem InOrder.imp {idle idle' : (Call → Bool) → Prop} (himp : ∀ f, idle f → idle' f)
    (h : s.InOrder env u idle p) : s.InOrder env u idle' p := by
  unfold InOrder at h ⊢
  split at h
  · exact fun huser => (h huser).imp_left (himp _)
  · exact fun huser hwrong => (h huser hwrong).imp_left (himp _)
  · exact fun huser hfew hwrong => (h huser hfew hwrong).imp_left (himp _)
  · trivial

/-- In a run of the first calls only, the others stand nowhere. -/
theorem orderly_of_below {n : ℕ} {s : State} {is : List Input} (hs : ∀ c, n ≤ c → s.calls c = none)
    (hacts : ∀ i ∈ is, ∀ c ∈ i.actor, c < n)
    (hp : Along (step env) (Orderly env u (IdleBelow n)) s is) :
    Along (step env) (Orderly env u Idle) s is := by
  induction is generalizing s with
  | nil => trivial
  | cons i is ih =>
      have hidle : ∀ f, s.IdleBelow n f → s.Idle f := by
        intro f hf c
        rcases Nat.lt_or_ge c n with hlt | hge
        · exact hf c hlt
        · rw [hs c hge]
          rfl
      refine ⟨?_, ih ?_ (fun j hj => hacts j (List.mem_cons_of_mem i hj)) hp.2⟩
      · have hfirst := hp.1
        cases i with
        | exec c pick => exact fun p hc => (hfirst p hc).imp hidle
        | abort c => exact hfirst
        | _ => trivial
      · intro c hc
        rw [step_calls_of_ne fun ha => Nat.not_lt.mpr hc (hacts i List.mem_cons_self c ha)]
        exact hs c hc

/-- A user registers, without a session, and the account is approved. -/
def accountRun : List Input :=
  [.call 0 (.register true "user" "password")] ++ execs 0 [0, 0] ++
  [.abort 0, .setStatus 0 .active]

/-- A login with a wrong password, from its first statement to its last. -/
def failureRun (c : CallId) : List Input :=
  .call c (.login "user" "guess" none none) :: execs c [0, 0, 0]

/-- Five logins fail, the sixth is refused, and fifteen minutes pass. Then the right password gets a
challenge, which is answered with a wrong code and with the right one. -/
def patientRun : List Input :=
  accountRun ++ [.setMfa 0 (some "123456")] ++
  (List.range 6).flatMap (fun c => failureRun (c + 1)) ++
  [.tick 900000, .call 7 (.login "user" "password" none none)] ++ execs 7 [0, 0, 0, 0, 0] ++
  [.call 8 (.verifyOtp 1 "000000" false)] ++ execs 8 [0, 0, 0, 0] ++
  [.call 9 (.verifyOtp 1 "123456" false)] ++ execs 9 [0, 0, 0, 0, 0]

/-- Five wrong passwords, a wait of fifteen minutes, a wrong code and a success. -/
theorem throttled_patientRun :
    guesses Env.transparent 0 {} patientRun =
        List.replicate 5 (.wrongPassword 0) ++ [.wrongCode 900000, .success] ∧
      Throttled Env.transparent 0 {} patientRun :=
  ⟨by decide +kernel, throttled Env.transparent 0 quiescent_empty patientRun
    (orderly_of_below (fun _ _ => rfl) (by decide +kernel) (by decide +kernel : Along _
      (Orderly Env.transparent 0 (IdleBelow 10)) _ _))⟩

/-- Six logins read the row before any of them compares its password; five compare. -/
def raceRun : List Input :=
  accountRun ++
  (List.range 6).flatMap (fun c =>
    .call (c + 1) (.login "user" "guess" none none) :: execs (c + 1) [0]) ++
  (List.range 5).map (fun c => .exec (c + 1) 0)

/-- A login reads the row, five others fail, and then it compares its password, wrong too. -/
def unlockRun : List Input :=
  accountRun ++ [.call 6 (.login "user" "guess" none none)] ++ execs 6 [0] ++
  (List.range 5).flatMap (fun c => failureRun (c + 1)) ++ execs 6 [0]

/-- Six logins with the right password and a wrong code, one after the other. -/
def inlineRun : List Input :=
  accountRun ++ [.setMfa 0 (some "123456")] ++
  (List.range 6).flatMap (fun c =>
    .call (c + 1) (.login "user" "password" (some "000000") none) ::
      execs (c + 1) [0, 0, 0, 0, 0])

/-- Five wrong codes for a challenge, and a sixth for the next challenge. -/
def challengesRun : List Input :=
  accountRun ++ [.setMfa 0 (some "123456")] ++
  [.call 1 (.login "user" "password" none none)] ++ execs 1 [0, 0, 0, 0, 0] ++
  (List.range 5).flatMap (fun c =>
    .call (c + 2) (.verifyOtp 1 "000000" false) :: execs (c + 2) [0, 0, 0, 0]) ++
  [.tick 1, .call 7 (.login "user" "password" none none)] ++ execs 7 [0, 0, 0, 0, 0] ++
  [.call 8 (.verifyOtp 2 "000000" false)] ++ execs 8 [0, 0, 0, 0]

/-- Guesses that race, or come by a way that counts none, are not throttled. -/
theorem guessing_not_throttled :
    Quiescent {} ∧
      ¬ Throttled Env.transparent 0 {} (raceRun ++ [.exec 6 0]) ∧
      ¬ Throttled Env.transparent 0 {} (unlockRun ++ [.exec 6 0]) ∧
      ¬ Throttled Env.transparent 0 {} inlineRun ∧
      ¬ Throttled Env.transparent 0 {} challengesRun := by
  refine ⟨quiescent_empty, ?_, ?_, ?_, ?_⟩
  · intro h
    -- the sixth password is compared at the time of the fifth
    have hexpired := h.compared raceRun 6 0 [] ⟨"user", "password", .active, 0, none⟩ "guess" none
      none rfl (by decide +kernel) 0 (by decide +kernel)
    exact absurd hexpired (by decide +kernel)
  · intro h
    -- the row is locked, and the late failure writes no lock
    obtain ⟨l', -, -, r, hr, hl⟩ := h.locked unlockRun 6 0 [] 1 none 900000 rfl
      (by decide +kernel)
      ⟨by decide +kernel, ⟨"user", "password", .active, 5, some 900000⟩, by decide +kernel, rfl⟩
    have hafter : ((run (step Env.transparent) {} (unlockRun ++ [.exec 6 0])).users 0).committed =
        some ⟨"user", "password", .active, 1, none⟩ := by decide +kernel
    rw [hafter, Option.some.injEq] at hr
    subst hr
    cases hl
  · intro h
    exact absurd (h.codes inlineRun List.prefix_rfl 0) (by decide +kernel)
  · intro h
    exact absurd (h.codes challengesRun List.prefix_rfl 0) (by decide +kernel)

end State

end PredictATrade.Auth
