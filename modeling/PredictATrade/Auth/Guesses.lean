import Mathlib.Data.List.Induction
import PredictATrade.Auth.Events
import PredictATrade.Auth.SessionSteps

/-!
# `Auth.Guesses` — guesses at the credentials of a user

What a step shows of guessing: a wrong password where one is compared, a wrong code where one is
checked, and the statement that resets the counter of failures. A wrong password takes its call to
the statement that writes it to the row, a wrong code to the one that logs it. No other statement
counts a failure.
-/

namespace PredictATrade.Auth

open Lib.ReadCommitted Lib.Runs

/-! ## Guesses -/

/-- What a step shows of guessing at the credentials of a user. -/
inductive Guess where
  | wrongPassword (time : ℤ)
  | wrongCode (time : ℤ)
  | success
  deriving DecidableEq, Repr

/-- When a wrong password was guessed. -/
def Guess.password : Guess → Option ℤ
  | .wrongPassword t => some t
  | _ => none

/-- When a wrong code was guessed. -/
def Guess.code : Guess → Option ℤ
  | .wrongCode t => some t
  | _ => none

/-- The times of the guesses of a kind since the last success. -/
def streak (f : Guess → Option ℤ) (guesses : List Guess) : List ℤ :=
  guesses.foldl (fun times g => if g = .success then [] else times ++ (f g).toList) []

/-- A success ends the streak, and a failure goes to its end. -/
theorem streak_snoc (f : Guess → Option ℤ) (guesses : List Guess) (g : Guess) :
    streak f (guesses ++ [g]) =
      if g = .success then [] else streak f guesses ++ (f g).toList := by
  unfold streak
  rw [List.foldl_append]
  rfl

theorem streak_sublist (f : Guess → Option ℤ) (guesses : List Guess) :
    (streak f guesses).Sublist (guesses.filterMap f) := by
  induction guesses using List.reverseRecOn with
  | nil => exact List.Sublist.refl _
  | append_singleton guesses g ih =>
      rw [streak_snoc, List.filterMap_append]
      split
      · exact List.nil_sublist _
      · apply ih.append
        show (f g).toList.Sublist (List.filterMap f [g])
        cases h : f g with
        | none => exact List.nil_sublist _
        | some t =>
            rw [List.filterMap_cons_some h]
            exact List.Sublist.refl _

/-- What one more step makes of a streak. -/
inductive Streak (f : Guess → Option ℤ) (o : Option Guess) (times : List ℤ) : List ℤ → Prop where
  | reset (h : o = some .success) : Streak f o times []
  | kept (h : o ≠ some .success) (hf : o.bind f = none) : Streak f o times times
  | added {t : ℤ} (h : o.bind f = some t) : Streak f o times (times ++ [t])

/-- What a guess does to the streak. -/
theorem streak_step (f : Guess → Option ℤ) (guesses : List Guess) (o : Option Guess) :
    Streak f o (streak f guesses) (streak f (guesses ++ o.toList)) := by
  cases o with
  | none =>
      show Streak f none _ (streak f (guesses ++ []))
      rw [List.append_nil]
      exact .kept (fun h => nomatch h) rfl
  | some g =>
      show Streak f (some g) _ (streak f (guesses ++ [g]))
      rw [streak_snoc]
      by_cases hg : g = .success
      · rw [if_pos hg, hg]
        exact .reset rfl
      · rw [if_neg hg]
        cases hf : f g with
        | none =>
            show Streak f (some g) _ (streak f guesses ++ [])
            rw [List.append_nil]
            exact .kept (fun h => hg (Option.some.inj h)) hf
        | some t => exact .added hf

theorem eq_wrongPassword {o : Option Guess} {t : ℤ} (h : o.bind Guess.password = some t) :
    o = some (.wrongPassword t) := by
  obtain ⟨g, rfl, hg⟩ := Option.bind_eq_some_iff.mp h
  cases g with
  | wrongPassword time =>
      injection hg with ht
      rw [ht]
  | _ => cases hg

/-- The statement that writes a wrong password of the user. -/
def Call.recordsFailure (u : UserId) : Call → Bool
  | .recordFailure user _ _ => user = u
  | _ => false

/-- The statement that logs a wrong code of the user. -/
def Call.logsFailure (u : UserId) : Call → Bool
  | .logFailed user => user = u
  | _ => false

namespace State

variable {env : Env} {u : UserId} {s s' : State} {c c' : CallId} {pick : SessionId}
  {p : Call} {i : Input} {t : ℤ}

/-- The guess that a statement makes. A success is the statement that resets the counter. -/
def guessOf (env : Env) (u : UserId) (s : State) (c : CallId) : Call → Option Guess
  | .loginCompare user row password _ _ =>
    if user = u ∧ env.compare password row.passwordHash = false then some (.wrongPassword s.now)
    else none
  | .loginRole user (some secret) (some code) _ =>
    if user = u ∧ env.totp code secret s.now = false then some (.wrongCode s.now) else none
  | .otpCount user _ createdAt secret code _ =>
    if user = u ∧ s.failedCodes user createdAt < maxOtpAttempts ∧
        env.totp code secret s.now = false then some (.wrongCode s.now)
    else none
  | .resetFailures user _ =>
    if user = u ∧ (s.users user).free c = true then some .success else none
  | _ => none

/-- The guess that a step makes. -/
def guess (env : Env) (u : UserId) (s : State) : Input → Option Guess
  | .exec c _ => (s.calls c).bind (s.guessOf env u c)
  | _ => none

/-- The guesses of a run. -/
abbrev guesses (env : Env) (u : UserId) (s₀ : State) (is : List Input) : List Guess :=
  trace (step env) (guess env u) s₀ is

/-! ## The counter and the lock of a row -/

/-- The columns that failures and successes write. -/
def counters (s : State) (u : UserId) : Option (ℕ × Option ℤ) :=
  (s.users u).committed.map fun r => (r.failedLoginCount, r.lockedUntil)

/-- Rows are inserted at the counter of fresh values, and a version to come differs from the
committed one in its password only. -/
structure UserInv (s : State) : Prop where
  fresh : ∀ u, s.next ≤ u → (s.users u).committed = none
  held : ∀ u c v, (s.users u).held = some (c, v) →
    v.map (fun r => (r.failedLoginCount, r.lockedUntil)) = s.counters u

/-- What a step may make of the two columns; in a row that it inserts, anything. -/
inductive Counts (s : State) (i : Input) (u : UserId) : Option (ℕ × Option ℤ) → Prop where
  | same : Counts s i u (s.counters u)
  | failed {c pick count lockedUntil} (hi : i = .exec c pick)
      (hc : s.calls c = some (.recordFailure u count lockedUntil)) :
      Counts s i u (some (count, lockedUntil))
  | reset {c pick origin} (hi : i = .exec c pick)
      (hc : s.calls c = some (.resetFailures u origin)) (hfree : (s.users u).free c = true) :
      Counts s i u (some (0, none))
  | inserted (hnone : s.counters u = none) (x : Option (ℕ × Option ℤ)) : Counts s i u x

/-- What a step does to the users. -/
structure UserEffect (s : State) (i : Input) (s' : State) : Prop where
  inv : s'.UserInv
  counts : ∀ u, Counts s i u (s'.counters u)

theorem UserInv.still (h : s.UserInv) (husers : s'.users = s.users) (hnext : s.next ≤ s'.next) :
    UserEffect s i s' := by
  have hcounters : ∀ u, s'.counters u = s.counters u := by
    intro u
    unfold counters
    rw [husers]
  refine ⟨⟨?_, ?_⟩, ?_⟩
  · intro u hu
    rw [husers]
    exact h.fresh u (Nat.le_trans hnext hu)
  · intro u c v hv
    rw [husers] at hv
    rw [hcounters]
    exact h.held u c v hv
  · intro u
    rw [hcounters]
    exact .same

/-- A statement on one row that commits at once. -/
theorem UserInv.put (h : s.UserInv) {k : UserId} {r : User}
    (husers : s'.users = s.users.put k (some r)) (hk : k < s'.next) (hnext : s.next ≤ s'.next)
    (hcounts : Counts s i k (some (r.failedLoginCount, r.lockedUntil))) : UserEffect s i s' := by
  have hself : s'.users k = { committed := some r } := by
    rw [husers]
    exact put_self
  have hne : ∀ u, u ≠ k → s'.users u = s.users u := by
    intro u hu
    rw [husers]
    exact put_of_ne hu
  refine ⟨⟨?_, ?_⟩, ?_⟩
  · intro u hu
    rw [hne u (Nat.ne_of_gt (Nat.lt_of_lt_of_le hk hu))]
    exact h.fresh u (Nat.le_trans hnext hu)
  · intro u c v hv
    by_cases hu : u = k
    · subst hu
      rw [hself] at hv
      cases hv
    · rw [hne u hu] at hv
      unfold counters
      rw [hne u hu]
      exact h.held u c v hv
  · intro u
    unfold counters
    by_cases hu : u = k
    · subst hu
      rw [hself]
      exact hcounts
    · rw [hne u hu]
      exact .same

/-- A row that exists lies below the counter. -/
theorem UserInv.lt_next (h : s.UserInv) {k : UserId} {r : User}
    (hr : (s.users k).committed = some r) : k < s.next := by
  rcases Nat.lt_or_ge k s.next with hlt | hge
  · exact hlt
  · rw [h.fresh k hge] at hr
    cases hr

/-- A statement that rewrites a committed row and leaves the counter of fresh values. -/
theorem UserInv.update (h : s.UserInv) {k : UserId} {r r' : User}
    (hr : (s.users k).committed = some r) (husers : s'.users = s.users.put k (some r'))
    (hnext : s'.next = s.next)
    (hcounts : Counts s i k (some (r'.failedLoginCount, r'.lockedUntil))) : UserEffect s i s' :=
  h.put husers (hnext ▸ h.lt_next hr) (Nat.le_of_eq hnext.symm) hcounts

/-- Rewriting the other columns of a row leaves these two as they are. -/
theorem counts_same {k : UserId} {r r' : User} (hr : (s.users k).committed = some r)
    (hcount : r'.failedLoginCount = r.failedLoginCount) (hlock : r'.lockedUntil = r.lockedUntil) :
    Counts s i k (some (r'.failedLoginCount, r'.lockedUntil)) := by
  have hsame : s.counters k = some (r'.failedLoginCount, r'.lockedUntil) := by
    unfold counters
    rw [hr, hcount, hlock]
    rfl
  rw [← hsame]
  exact .same

/-- A transaction of which the users keep what it held, or drop it. -/
theorem UserInv.release (h : s.UserInv) (hnext : s'.next = s.next)
    (husers : ∀ k, s'.users k = (s.users k).commit c ∨ s'.users k = (s.users k).rollback c) :
    UserEffect s i s' := by
  have hcounters : ∀ k, s'.counters k = s.counters k := by
    intro k
    unfold counters
    rcases husers k with heq | heq
    · rw [heq]
      by_cases hc : ∃ v, (s.users k).held = some (c, v)
      · obtain ⟨v, hv⟩ := hc
        rw [commit_of_held hv]
        exact h.held k c v hv
      · rw [commit_of_not_held fun v hv => hc ⟨v, hv⟩]
    · rw [heq, rollback_committed]
  refine ⟨⟨?_, ?_⟩, ?_⟩
  · intro k hk
    rw [hnext] at hk
    have hnone := hcounters k
    unfold counters at hnone
    rw [h.fresh k hk] at hnone
    exact Option.map_eq_none_iff.mp hnone
  · intro k c' v hv
    rw [hcounters]
    rcases husers k with heq | heq
    · rw [heq, commit_held] at hv
      exact h.held k c' v hv.1
    · rw [heq, rollback_held] at hv
      exact h.held k c' v hv.1
  · intro k
    rw [hcounters]
    exact .same

/-- A new password that the transaction has not committed yet. -/
theorem UserInv.write (h : s.UserInv) {k : UserId} {passwordHash : String}
    (husers : s'.users = s.users.write c k ((s.users k).committed.map fun r =>
      { r with passwordHash := passwordHash })) (hnext : s'.next = s.next) :
    UserEffect s i s' := by
  have hcounters : ∀ u, s'.counters u = s.counters u := by
    intro u
    unfold counters
    rw [husers, write_committed]
  refine ⟨⟨?_, ?_⟩, ?_⟩
  · intro u hu
    rw [husers, write_committed]
    exact h.fresh u (hnext ▸ hu)
  · intro u c' v hv
    rw [hcounters]
    rw [husers] at hv
    by_cases huk : u = k
    · subst huk
      rw [write_self, Option.some.injEq, Prod.mk.injEq] at hv
      rw [← hv.2, Option.map_map]
      rfl
    · rw [write_of_ne huk] at hv
      exact h.held u c' v hv
  · intro u
    rw [hcounters]
    exact .same

/-- **The users, by one statement.** -/
theorem UserInv.outcome (h : s.UserInv) (hc : s.calls c = some p) (hout : Outcome env s c p s') :
    UserEffect s (.exec c pick) s' := by
  cases hout with
  | registerInsert email password =>
      refine h.put rfl (Nat.lt_succ_self _) (Nat.le_succ _) ?_
      apply Counts.inserted
      unfold counters
      rw [h.fresh s.next (Nat.le_refl _)]
      rfl
  | recordFailure hfree hrow => exact h.update hrow rfl rfl (.failed rfl hc)
  | resetFailures hfree hrow => exact h.update hrow rfl rfl (.reset rfl hc hfree)
  | changeUpdate hfree hrow => exact h.update hrow rfl rfl (counts_same hrow rfl rfl)
  | commit | completeReset => exact h.release rfl fun k => Or.inl rfl
  | resetUsed | resetInactive => exact h.release rfl fun k => Or.inr rfl
  | resetUpdateUser hfree => exact h.write rfl rfl
  | rotateRevoke session | closeRevoke session =>
      obtain ⟨sessions, heq⟩ := revokeLocked_eq s c session
      rw [heq]
      exact h.still rfl (Nat.le_refl _)
  | createSession | deviceInsert | rotateInsert | insertChallenge | forgot =>
      exact h.still rfl (Nat.le_add_right _ _)
  | _ => exact h.still rfl (Nat.le_refl _)

/-- **The users, by one step.** -/
theorem UserInv.step (h : s.UserInv) (env : Env) (i : Input) :
    UserEffect s i (s.step env i) := by
  have hstep := step_inv env s i
  generalize s.step env i = s' at hstep
  cases hstep with
  | exec pick hc => exact h.outcome hc (advance_outcome env s _ pick _)
  | abort hc => exact h.release rfl fun k => Or.inr rfl
  | setStatus status hheld hr => exact h.update hr rfl rfl (counts_same hr rfl rfl)
  | _ => exact h.still rfl (Nat.le_refl _)

/-! ## Statements at which at most one call stands -/

/-- No call stands at such a statement. -/
def Idle (s : State) (f : Call → Bool) : Prop := ∀ c, (s.calls c).any f = false

/-- No two calls stand at such a statement. -/
def AtMostOne (s : State) (f : Call → Bool) : Prop :=
  ∀ c c', (s.calls c).any f = true → (s.calls c').any f = true → c = c'

theorem idle_or (s : State) (f : Call → Bool) :
    s.Idle f ∨ ∃ c p, s.calls c = some p ∧ f p = true := by
  by_cases h : ∃ c, (s.calls c).any f = true
  · obtain ⟨c, hc⟩ := h
    obtain ⟨p, hp, hf⟩ := (Option.any_eq_true _ _).mp hc
    exact Or.inr ⟨c, p, hp, hf⟩
  · exact Or.inl fun c => Bool.eq_false_iff.mpr fun hc => h ⟨c, hc⟩

theorem Idle.not_at {f : Call → Bool} (h : s.Idle f) (hc : s.calls c = some p)
    (hp : f p = true) : False := by
  have hidle := h c
  rw [hc, Option.any_some, hp] at hidle
  cases hidle

theorem at_any {f : Call → Bool} (hc : s.calls c = some p) (hp : f p = true) :
    (s.calls c).any f = true := by
  rw [hc, Option.any_some, hp]

/-- It stays so, if a call comes to the statement only while no other stands there. -/
theorem AtMostOne.step {f : Call → Bool} (h : s.AtMostOne f)
    (henter : ∀ c, (s'.calls c).any f = true →
      (s.calls c).any f = true ∨ (i.actor = some c ∧ s.Idle f)) : s'.AtMostOne f := by
  have hboth : ∀ c c', (s.calls c).any f = true → ¬ (i.actor = some c' ∧ s.Idle f) := by
    rintro c c' hc ⟨-, hidle⟩
    rw [hidle c] at hc
    cases hc
  intro c c' hc hc'
  rcases henter c hc with hold | hnew
  · rcases henter c' hc' with hold' | hnew'
    · exact h c c' hold hold'
    · exact absurd hnew' (hboth c c' hold)
  · rcases henter c' hc' with hold' | hnew'
    · exact absurd hnew (hboth c' c hold')
    · exact Option.some.inj (hnew.1.symm.trans hnew'.1)

/-- A call leaves a statement by executing it, or by failing there. -/
theorem step_moved (hc : s.calls c = some p) (hmoved : (s.step env i).calls c ≠ some p) :
    (∃ pick, i = .exec c pick) ∨ i = .abort c := by
  by_cases ha : i.actor = some c
  · cases i with
    | call c' request =>
        rw [show c' = c from Option.some.inj ha, step_call_known hc] at hmoved
        exact absurd hc hmoved
    | exec c' pick => exact Or.inl ⟨pick, by rw [show c' = c from Option.some.inj ha]⟩
    | abort c' => exact Or.inr (by rw [show c' = c from Option.some.inj ha])
    | _ => cases ha
  · rw [step_calls_of_ne ha] at hmoved
    exact absurd hc hmoved

theorem recordsFailure_eq (h : p.recordsFailure u = true) :
    ∃ count lockedUntil, p = .recordFailure u count lockedUntil := by
  cases p with
  | recordFailure user count lockedUntil =>
      have huser : user = u := of_decide_eq_true h
      subst huser
      exact ⟨count, lockedUntil, rfl⟩
  | _ => cases h

theorem logsFailure_eq (h : p.logsFailure u = true) : p = .logFailed u := by
  cases p with
  | logFailed user =>
      have huser : user = u := of_decide_eq_true h
      rw [huser]
  | _ => cases h

theorem recordsFailure_self (u : UserId) (count : ℕ) (lockedUntil : Option ℤ) :
    (Call.recordFailure u count lockedUntil).recordsFailure u = true := decide_eq_true rfl

theorem logsFailure_self (u : UserId) : (Call.logFailed u).logsFailure u = true :=
  decide_eq_true rfl

/-! ## What a guess is -/

theorem guess_exec (hc : s.calls c = some p) :
    guess env u s (.exec c pick) = s.guessOf env u c p := by
  show (s.calls c).bind _ = _
  rw [hc]
  rfl

theorem guess_eq {g : Guess} (h : guess env u s i = some g) :
    ∃ c pick p, i = .exec c pick ∧ s.calls c = some p ∧ s.guessOf env u c p = some g := by
  cases i with
  | exec c pick =>
      obtain ⟨p, hp, hg⟩ := Option.bind_eq_some_iff.mp h
      exact ⟨c, pick, p, rfl, hp, hg⟩
  | _ => cases h

/-- A wrong password takes its call from the comparison to the statement that writes it. -/
theorem wrongPassword_eq (h : guess env u s i = some (.wrongPassword t)) :
    ∃ c pick row password mfaCode device, i = .exec c pick ∧
      s.calls c = some (.loginCompare u row password mfaCode device) ∧
      env.compare password row.passwordHash = false ∧ t = s.now := by
  obtain ⟨c, pick, p, rfl, hp, hg⟩ := guess_eq h
  unfold guessOf at hg
  split at hg
  · rename_i user row password mfaCode device
    split_ifs at hg with hwrong
    obtain ⟨rfl, hcompare⟩ := hwrong
    injection hg with hg
    injection hg with ht
    exact ⟨c, pick, row, password, mfaCode, device, rfl, hp, hcompare, ht.symm⟩
  · split_ifs at hg
    injection hg with hg
    cases hg
  · split_ifs at hg
    injection hg with hg
    cases hg
  · split_ifs at hg
    injection hg with hg
    cases hg
  · cases hg

/-- A call comes to write a wrong password from the comparison. -/
theorem recordFailure_step {count : ℕ} {lockedUntil : Option ℤ}
    (h : (s.step env i).calls c = some (.recordFailure u count lockedUntil)) :
    (s.calls c = some (.recordFailure u count lockedUntil) ∧
        (i.actor ≠ some c ∨ s.step env i = s)) ∨
      ∃ pick row password mfaCode device, i = .exec c pick ∧
        s.calls c = some (.loginCompare u row password mfaCode device) ∧
        env.compare password row.passwordHash = false ∧ count = row.failedLoginCount + 1 ∧
        lockedUntil = if maxLoginFailures ≤ count then some (s.now + lockout) else none := by
  rcases step_follows h with hsame | ⟨-, -, hstart⟩ | hdone | ⟨pick, p, hi, hp, hfollows⟩
  · exact Or.inl hsame
  · cases hstart
  · cases hdone
  · right
    cases hfollows with
    | next hnext =>
        cases hnext with
        | wrongPassword hwrong => exact ⟨pick, _, _, _, _, hi, hp, hwrong, rfl, rfl⟩
    | refreshLock _ _ _ _ hlocked => cases hlocked

/-- A call comes to log a wrong code from its check. -/
theorem logFailed_step (h : (s.step env i).calls c = some (.logFailed u)) :
    (s.calls c = some (.logFailed u) ∧ (i.actor ≠ some c ∨ s.step env i = s)) ∨
      (i.actor = some c ∧ guess env u s i = some (.wrongCode s.now)) := by
  rcases step_follows h with hsame | ⟨-, -, hstart⟩ | hdone | ⟨pick, p, hi, hp, hfollows⟩
  · exact Or.inl hsame
  · cases hstart
  · cases hdone
  · right
    subst hi
    refine ⟨rfl, ?_⟩
    rw [guess_exec hp]
    cases hfollows with
    | next hnext =>
        cases hnext with
        | inlineWrong hwrong => exact if_pos ⟨rfl, hwrong⟩
        | otpWrong hfew hwrong => exact if_pos ⟨rfl, hfew, hwrong⟩
    | refreshLock _ _ _ _ hlocked => cases hlocked

/-- A wrong password takes its call to the statement that writes it. -/
theorem compare_exec {row : User} {password mfaCode device}
    (hc : s.calls c = some (.loginCompare u row password mfaCode device))
    (hwrong : env.compare password row.passwordHash = false) :
    (s.step env (.exec c pick)).calls c = some (.recordFailure u (row.failedLoginCount + 1)
      (if maxLoginFailures ≤ row.failedLoginCount + 1 then some (s.now + lockout) else none)) := by
  rw [step_exec hc]
  show (s.loginCompare env c u row password mfaCode device).calls c = _
  unfold loginCompare
  rw [if_neg (Bool.eq_false_iff.mp hwrong), goto_calls_self]

/-- The statement that writes a wrong password, on a row that exists. -/
theorem recordFailure_exec (env : Env) (pick : SessionId) {r : User} {count : ℕ}
    {lockedUntil : Option ℤ}
    (hc : s.calls c = some (.recordFailure u count lockedUntil))
    (hr : (s.users u).committed = some r) :
    s.step env (.exec c pick) = s ∨
      (s.step env (.exec c pick)).counters u = some (count, lockedUntil) := by
  rw [step_exec hc]
  show s.updateUser c u _ _ = s ∨ (s.updateUser c u _ _).counters u = _
  unfold updateUser
  split
  · right
    rw [hr]
    show ((s.users.put u _) u).committed.map _ = _
    rw [put_self]
    rfl
  · exact Or.inl rfl

theorem counters_eq {x : ℕ × Option ℤ} (h : s.counters u = some x) :
    ∃ r, (s.users u).committed = some r ∧ x = (r.failedLoginCount, r.lockedUntil) := by
  obtain ⟨r, hr, hx⟩ := Option.map_eq_some_iff.mp h
  exact ⟨r, hr, hx.symm⟩

/-- The statements that check a wrong code. -/
inductive WrongCode (env : Env) (u : UserId) (s : State) : Call → Prop where
  | inline {secret code : String} {device : Option ℕ} (h : env.totp code secret s.now = false) :
      WrongCode env u s (.loginRole u (some secret) (some code) device)
  | verify {challengeId : ℕ} {createdAt : ℤ} {secret code : String} {trustDevice : Bool}
      (hfew : s.failedCodes u createdAt < maxOtpAttempts)
      (h : env.totp code secret s.now = false) :
      WrongCode env u s (.otpCount u challengeId createdAt secret code trustDevice)

theorem wrongCode_eq (h : guess env u s i = some (.wrongCode t)) :
    ∃ c pick p, i = .exec c pick ∧ s.calls c = some p ∧ WrongCode env u s p ∧ t = s.now := by
  obtain ⟨c, pick, p, rfl, hp, hg⟩ := guess_eq h
  refine ⟨c, pick, p, rfl, hp, ?_⟩
  unfold guessOf at hg
  split at hg
  · split_ifs at hg
    injection hg with hg
    cases hg
  · split_ifs at hg with hwrong
    injection hg with hg
    injection hg with ht
    obtain ⟨rfl, htotp⟩ := hwrong
    exact ⟨.inline htotp, ht.symm⟩
  · split_ifs at hg with hwrong
    injection hg with hg
    injection hg with ht
    obtain ⟨rfl, hfew, htotp⟩ := hwrong
    exact ⟨.verify hfew htotp, ht.symm⟩
  · split_ifs at hg
    injection hg with hg
    cases hg
  · cases hg

/-- A wrong code takes its call to the statement that logs it. -/
theorem wrongCode_moves (h : guess env u s i = some (.wrongCode t)) :
    ∃ c, (s.step env i).calls c = some (.logFailed u) := by
  obtain ⟨c, pick, p, rfl, hp, hwrong, -⟩ := wrongCode_eq h
  refine ⟨c, ?_⟩
  rw [step_exec hp]
  cases hwrong with
  | @inline secret code device htotp =>
      show (s.loginRole env c u (some secret) (some code) device).calls c = _
      unfold loginRole
      simp only [htotp, Bool.false_eq_true, if_false, goto_calls_self]
  | @verify challengeId createdAt secret code trustDevice hfew htotp =>
      show (s.otpCount env c u challengeId createdAt secret code trustDevice).calls c = _
      unfold otpCount
      rw [if_neg (Nat.not_le.mpr hfew), if_neg (Bool.eq_false_iff.mp htotp), goto_calls_self]

/-! ## The events of wrong codes -/

theorem failedCodes_append {s' : State} {events : List LoginEvent} (since : ℤ)
    (h : s'.events = s.events ++ events) :
    s'.failedCodes u since = s.failedCodes u since + events.countP fun e =>
      e.userId = u && e.eventType = .mfaFailed && decide (since ≤ e.createdAt) := by
  unfold failedCodes
  rw [h, List.countP_append]

/-- The failed codes on record are not taken back. -/
theorem failedCodes_step (env : Env) (i : Input) (since : ℤ) :
    s.failedCodes u since ≤ (s.step env i).failedCodes u since := by
  rw [failedCodes_append since (step_events env s i)]
  exact Nat.le_add_right _ _

/-- A wrong code that is logged shows from any time of the past on. -/
theorem failedCodes_logged (hc : s.calls c = some (.logFailed u)) {since : ℤ}
    (hsince : since ≤ s.now) :
    (s.step env (.exec c pick)).failedCodes u since = s.failedCodes u since + 1 := by
  rw [failedCodes_append since (step_events env s _), logged_exec hc]
  simp [logs, hsince]

end State

end PredictATrade.Auth
