import Mathlib.Order.Basic
import Mathlib.Tactic.SplitIfs
import PredictATrade.Auth.Service

/-!
# `Auth.Flow` — what one statement of a call can do

The inversion of `State.advance`. `Next` lists the moves that write nothing, from one statement of a
call to the next, each with what the code has read and checked on the way. `Outcome` adds the
statements that write, with the state they lead to. `advance_outcome` says that there is nothing
else, so that a fact about steps is proved by cases on an outcome and never unfolds the service.
-/

namespace PredictATrade.Auth

open Lib.ReadCommitted

variable {env : Env} {s : State} {c : CallId} {pick : SessionId} {p p' : Call}

/-! ## Moves that write nothing -/

/-- From one statement of a call to the next. -/
inductive Next (env : Env) (s : State) (c : CallId) : Call → Call → Prop where
  | stop (p : Call) : Next env s c p .done
  | registerLookup (email password : String) :
      Next env s c (.registerLookup email password) (.registerInsert email password)
  | loginLookup {email password mfaCode device user r} (hfind : s.findUser email = some user)
      (hrow : (s.users user).committed = some r)
      (hopen : (r.lockedUntil.any fun l => decide (s.now < l)) = false)
      (hactive : r.status = .active) :
      Next env s c (.loginLookup email password mfaCode device)
        (.loginCompare user r password mfaCode device)
  | rightPassword {user r password mfaCode device}
      (h : env.compare password r.passwordHash = true) :
      Next env s c (.loginCompare user r password mfaCode device) (.loginMfa user mfaCode device)
  | wrongPassword {user r password mfaCode device}
      (h : env.compare password r.passwordHash = false) :
      Next env s c (.loginCompare user r password mfaCode device)
        (.recordFailure user (r.failedLoginCount + 1)
          (if maxLoginFailures ≤ r.failedLoginCount + 1 then some (s.now + lockout) else none))
  | loginMfa (user mfaCode device) :
      Next env s c (.loginMfa user mfaCode device)
        (.loginRole user (s.mfaSecret user) mfaCode device)
  | noMfa (user mfaCode device) :
      Next env s c (.loginRole user none mfaCode device) (.resetFailures user .login)
  | inlineRight {user secret code device} (h : env.totp code secret s.now = true) :
      Next env s c (.loginRole user (some secret) (some code) device) (.resetFailures user .login)
  | inlineWrong {user secret code device} (h : env.totp code secret s.now = false) :
      Next env s c (.loginRole user (some secret) (some code) device) (.logFailed user)
  | trustedDevice (user secret token) :
      Next env s c (.loginRole user (some secret) none (some token)) (.deviceLookup user token)
  | challenge (user secret) :
      Next env s c (.loginRole user (some secret) none none) (.insertChallenge user)
  | noUser (user origin) :
      Next env s c (.resetFailures user origin) (.createSession user origin)
  | deviceFound {user token d} (h : s.findDevice user token = some d) :
      Next env s c (.deviceLookup user token) (.deviceRevoke user d)
  | deviceMissing {user token} (h : s.findDevice user token = none) :
      Next env s c (.deviceLookup user token) (.insertChallenge user)
  | otpLookup {challengeId code trustDevice e} (he : s.findChallenge challengeId = some e)
      (hage : s.now - e.createdAt ≤ otpChallengeExpiry) :
      Next env s c (.otpLookup challengeId code trustDevice)
        (.otpMfa e.userId challengeId e.createdAt code trustDevice)
  | otpMfa {user challengeId createdAt code trustDevice secret}
      (h : s.mfaSecret user = some secret) :
      Next env s c (.otpMfa user challengeId createdAt code trustDevice)
        (.otpCount user challengeId createdAt secret code trustDevice)
  | otpRight {user challengeId createdAt secret code trustDevice}
      (hfew : s.failedCodes user createdAt < maxOtpAttempts)
      (h : env.totp code secret s.now = true) :
      Next env s c (.otpCount user challengeId createdAt secret code trustDevice)
        (.resetFailures user (.verifyOtp challengeId trustDevice))
  | otpWrong {user challengeId createdAt secret code trustDevice}
      (hfew : s.failedCodes user createdAt < maxOtpAttempts)
      (h : env.totp code secret s.now = false) :
      Next env s c (.otpCount user challengeId createdAt secret code trustDevice) (.logFailed user)
  | refreshLookup {token k r u} (hfind : s.findSession token = some k)
      (hr : (s.sessions k).committed = some r)
      (hu : (s.users r.userId).committed = some u) :
      Next env s c (.refreshLookup token) (.refreshLock token k r.userId u.status)
  | scan (query after) :
      Next env s c (.scan query after)
        (.sweep query (s.sessions.scan c query.matches (List.range s.next)) after)
  | unused {token : ResetToken} {password}
      (h : (s.events.any fun e =>
        e.userId = token.sub && e.eventType = .passwordResetCompleted token.jti) = false) :
      Next env s c (.resetCheckUsed token password) (.resetCheckUser token password)
  | resetCheckUser {token : ResetToken} {password r}
      (hr : (s.users token.sub).committed = some r) (hactive : r.status = .active) :
      Next env s c (.resetCheckUser token password) (.resetUpdateUser token password)
  | changeLookup {user currentPassword newPassword r}
      (hr : (s.users user).committed = some r)
      (hcurrent : env.compare currentPassword r.passwordHash = true) :
      Next env s c (.changeLookup user currentPassword newPassword)
        (.changeUpdate user (env.hash newPassword))
  | changeNoUser (user passwordHash) :
      Next env s c (.changeUpdate user passwordHash) (.scan (.allOf user) .commit)

/-- Where a refresh goes on from its lock, with the row `r` that it has locked. -/
inductive Locked (s : State) (token : ℕ) (session : SessionId) (user : UserId)
    (status : UserStatus) (r : Session) : Call → Prop where
  | reuse {f} (hrev : r.revokedAt ≠ none) (hfam : r.tokenFamily = some f) :
      Locked s token session user status r (.scan (.family f) .commit)
  | reuseNoFamily (hrev : r.revokedAt ≠ none) :
      Locked s token session user status r (.closeCommit session)
  | close (hrev : r.revokedAt = none) :
      Locked s token session user status r (.closeRevoke session)
  | rotate (hrev : r.revokedAt = none) (hactive : status = .active) :
      Locked s token session user status r (.rotateRevoke session user r.tokenFamily)

/-- Calls that end their transaction by a commit and nothing more. -/
def Call.commits : Call → Bool
  | .rotateCommit .. | .closeCommit _ | .sweep _ [] .commit => true
  | _ => false

/-! ## Outcomes -/

/-- What a statement can lead to. -/
inductive Outcome (env : Env) (s : State) (c : CallId) : Call → State → Prop where
  | wait (p : Call) : Outcome env s c p s
  | move {p p' : Call} (h : Next env s c p p') : Outcome env s c p (s.goto c p')
  | registerInsert (email password : String) :
      Outcome env s c (.registerInsert email password)
        (((s.setUsers (s.users.put s.next (some
          { email := email
            passwordHash := env.hash password
            status := .pending }))).draw 1).goto c (.createSession s.next .register))
  | createSession (user origin) :
      Outcome env s c (.createSession user origin)
        ((s.insertSession user).goto c (origin.after user))
  | recordFailure {user count lockedUntil r} (hfree : (s.users user).free c = true)
      (hrow : (s.users user).committed = some r) :
      Outcome env s c (.recordFailure user count lockedUntil)
        ((s.setUsers (s.users.put user (some
          { r with failedLoginCount := count, lockedUntil := lockedUntil }))).goto c .done)
  | resetFailures {user origin r} (hfree : (s.users user).free c = true)
      (hrow : (s.users user).committed = some r) :
      Outcome env s c (.resetFailures user origin)
        ((s.setUsers (s.users.put user (some
          { r with failedLoginCount := 0, lockedUntil := none }))).goto c
            (.createSession user origin))
  | changeUpdate {user passwordHash r} (hfree : (s.users user).free c = true)
      (hrow : (s.users user).committed = some r) :
      Outcome env s c (.changeUpdate user passwordHash)
        ((s.setUsers (s.users.put user (some { r with passwordHash := passwordHash }))).goto c
          (.scan (.allOf user) .commit))
  | logFailed (user) :
      Outcome env s c (.logFailed user) ((s.logEvent user .mfaFailed).goto c .done)
  | insertChallenge (user) :
      Outcome env s c (.insertChallenge user)
        (((s.logEvent user (.mfaChallenge s.next)).draw 1).goto c .done)
  | deviceRevoke (user d) :
      Outcome env s c (.deviceRevoke user d)
        ((s.setDevices (Function.update s.devices d
          ((s.devices d).map fun r => { r with revokedAt := some s.now }))).goto c
            (.deviceInsert user (some d)))
  | deviceInsert (user consumed) :
      Outcome env s c (.deviceInsert user consumed)
        ((s.insertDevice user).goto c
          (if consumed.isSome then .createSession user .trustedDevice else .done))
  | refreshLock {token session user status r p'} (hfree : (s.sessions session).free c = true)
      (hview : (s.sessions session).view c = some r) (htoken : r.refreshTokenHash = token)
      (huser : r.userId = user) (h : Locked s token session user status r p') :
      Outcome env s c (.refreshLock token session user status)
        ((s.setSessions (s.sessions.lock c session)).goto c p')
  | rotateRevoke (session user family) :
      Outcome env s c (.rotateRevoke session user family)
        ((s.revokeLocked c session).goto c (.rotateInsert session user family))
  | rotateInsert (session user family) :
      Outcome env s c (.rotateInsert session user family) (s.rotateInsert c session user family)
  | closeRevoke (session) :
      Outcome env s c (.closeRevoke session)
        ((s.revokeLocked c session).goto c (.closeCommit session))
  | commit {p : Call} (hp : p.commits = true) : Outcome env s c p ((s.commit c).goto c .done)
  | completeReset (query sub jti) :
      Outcome env s c (.sweep query [] (.completeReset sub jti))
        (((s.commit c).logEvent sub (.passwordResetCompleted jti)).goto c .done)
  | sweepRow {query todo after pick} (hpick : pick ∈ todo)
      (hfree : (s.sessions pick).free c = true) :
      Outcome env s c (.sweep query todo after)
        ((s.setSessions (s.sessions.sweepRow c query.matches (query.apply s.now) pick)).goto c
          (.sweep query (todo.erase pick) after))
  | forgot {email user r} (hr : (s.users user).committed = some r) (hactive : r.status = .active) :
      Outcome env s c (.forgotLookup email)
        (((s.sign ⟨user, s.next, s.now + resetTokenExpiry⟩).draw 1).goto c .done)
  | resetAdvisory {token : ResetToken} {password}
      (h : s.advisory (env.lockKey token.jti) = none) :
      Outcome env s c (.resetAdvisory token password)
        ((s.setAdvisory (Function.update s.advisory (env.lockKey token.jti) (some c))).goto c
          (.resetCheckUsed token password))
  | resetUsed (token password) :
      Outcome env s c (.resetCheckUsed token password) ((s.rollback c).goto c .done)
  | resetInactive (token password) :
      Outcome env s c (.resetCheckUser token password) ((s.rollback c).goto c .done)
  | resetUpdateUser {token : ResetToken} {password}
      (hfree : (s.users token.sub).free c = true) :
      Outcome env s c (.resetUpdateUser token password)
        ((s.setUsers (s.users.write c token.sub ((s.users token.sub).committed.map fun r =>
          { r with passwordHash := env.hash password }))).goto c
            (.scan (.user token.sub) (.completeReset token.sub token.jti)))

/-- The first statement of a call. -/
inductive Starts (s : State) : Call → Prop where
  | done : Starts s .done
  | register (email password) : Starts s (.registerLookup email password)
  | login (email password mfaCode device) : Starts s (.loginLookup email password mfaCode device)
  | verifyOtp (challengeId code trustDevice) : Starts s (.otpLookup challengeId code trustDevice)
  | refresh (token) : Starts s (.refreshLookup token)
  | logout (user token) : Starts s (.scan (.token user token) .commit)
  | logoutAll (user) : Starts s (.scan (.user user) .commit)
  | forgotPassword (email) : Starts s (.forgotLookup email)
  | resetPassword {token : ResetToken} (hsigned : token ∈ s.signed)
      (hexp : s.now < token.expiresAt) (password) : Starts s (.resetAdvisory token password)
  | changePassword (user currentPassword newPassword) :
      Starts s (.changeLookup user currentPassword newPassword)

/-- From one statement of a call to the next, whether it writes or not. -/
inductive Follows (env : Env) (s : State) (c : CallId) : Call → Call → Prop where
  | next {p p' : Call} (h : Next env s c p p') : Follows env s c p p'
  | registerInsert (email password) :
      Follows env s c (.registerInsert email password) (.createSession s.next .register)
  | remember (user challengeId) :
      Follows env s c (.createSession user (.verifyOtp challengeId true)) (.deviceInsert user none)
  | deviceRevoke (user d) : Follows env s c (.deviceRevoke user d) (.deviceInsert user (some d))
  | deviceInsert (user d) :
      Follows env s c (.deviceInsert user (some d)) (.createSession user .trustedDevice)
  | refreshLock {token session user status r p'} (hfree : (s.sessions session).free c = true)
      (hview : (s.sessions session).view c = some r) (htoken : r.refreshTokenHash = token)
      (huser : r.userId = user) (h : Locked s token session user status r p') :
      Follows env s c (.refreshLock token session user status) p'
  | rotateRevoke (session user family) :
      Follows env s c (.rotateRevoke session user family) (.rotateInsert session user family)
  | rotateInsert {session user family new f} (hnew : new = s.next)
      (hf : f = family.getD (s.next + 2)) :
      Follows env s c (.rotateInsert session user family) (.rotateCommit session user new f)
  | closeRevoke (session) : Follows env s c (.closeRevoke session) (.closeCommit session)
  | sweepRow {query todo todo' after pick} (hpick : pick ∈ todo) (htodo : todo' = todo.erase pick) :
      Follows env s c (.sweep query todo after) (.sweep query todo' after)
  | resetAdvisory (token password) :
      Follows env s c (.resetAdvisory token password) (.resetCheckUsed token password)
  | resetUpdateUser (token : ResetToken) (password) :
      Follows env s c (.resetUpdateUser token password)
        (.scan (.user token.sub) (.completeReset token.sub token.jti))

namespace State

/-- A call starts at its first statement. -/
theorem request_starts (s : State) (request : Request) : Starts s (request.start s) := by
  cases request with
  | register agreed email password =>
      cases agreed with
      | true => exact .register email password
      | false => exact .done
  | login email password mfaCode device => exact .login email password (mfaCode.filter (· ≠ "")) device
  | verifyOtp challengeId code trustDevice => exact .verifyOtp challengeId code trustDevice
  | refresh token => exact .refresh token
  | logout user token =>
      cases token with
      | some token => exact .logout user token
      | none => exact .logoutAll user
  | forgotPassword email => exact .forgotPassword email
  | resetPassword token password =>
      show Starts s (if token ∈ s.signed ∧ s.now < token.expiresAt then
        .resetAdvisory token password else .done)
      by_cases h : token ∈ s.signed ∧ s.now < token.expiresAt
      · rw [if_pos h]
        exact .resetPassword h.1 h.2 password
      · rw [if_neg h]
        exact .done
  | changePassword user currentPassword newPassword =>
      show Starts s (if 8 ≤ newPassword.length ∧ currentPassword ≠ "" then
        .changeLookup user currentPassword newPassword else .done)
      split
      · exact .changePassword user currentPassword newPassword
      · exact .done

/-! ## The inversion -/

/-- A call can stop. -/
theorem stop_outcome : Outcome env s c p (s.goto c .done) := .move (.stop p)

theorem updateUser_outcome {user : UserId} {f : User → User} (hnone : Next env s c p p')
    (hsome : ∀ r, (s.users user).free c = true → (s.users user).committed = some r →
      Outcome env s c p ((s.setUsers (s.users.put user (some (f r)))).goto c p')) :
    Outcome env s c p (s.updateUser c user f p') := by
  unfold updateUser
  split
  · rename_i hfree
    split
    · rename_i r hrow
      exact hsome r hfree hrow
    · exact .move hnone
  · exact .wait p

theorem loginLookup_outcome (email password mfaCode device) :
    Outcome env s c (.loginLookup email password mfaCode device)
      (s.loginLookup c email password mfaCode device) := by
  unfold loginLookup
  split
  · exact stop_outcome
  · rename_i u hfind
    split
    · exact stop_outcome
    · rename_i r hrow
      split_ifs with hlocked hactive
      · exact stop_outcome
      · exact stop_outcome
      · exact .move (.loginLookup hfind hrow (Bool.eq_false_iff.mpr hlocked)
          (Classical.not_not.mp hactive))

theorem loginRole_outcome (user secret mfaCode device) :
    Outcome env s c (.loginRole user secret mfaCode device)
      (s.loginRole env c user secret mfaCode device) := by
  unfold loginRole
  split
  · exact .move (.noMfa _ _ _)
  · split
    · exact .move (.trustedDevice _ _ _)
    · exact .move (.challenge _ _)
  · split_ifs with h
    · exact .move (.inlineRight h)
    · exact .move (.inlineWrong (Bool.eq_false_iff.mpr h))

theorem otpLookup_outcome (challengeId code trustDevice) :
    Outcome env s c (.otpLookup challengeId code trustDevice)
      (s.otpLookup c challengeId code trustDevice) := by
  unfold otpLookup
  split
  · exact stop_outcome
  · rename_i e he
    split_ifs with hage
    · exact stop_outcome
    · exact .move (.otpLookup he (Int.not_lt.mp hage))

theorem otpCount_outcome (user challengeId createdAt secret code trustDevice) :
    Outcome env s c (.otpCount user challengeId createdAt secret code trustDevice)
      (s.otpCount env c user challengeId createdAt secret code trustDevice) := by
  unfold otpCount
  split_ifs with hmany h
  · exact stop_outcome
  · exact .move (.otpRight (Nat.not_le.mp hmany) h)
  · exact .move (.otpWrong (Nat.not_le.mp hmany) (Bool.eq_false_iff.mpr h))

theorem refreshLookup_outcome (token) :
    Outcome env s c (.refreshLookup token) (s.refreshLookup c token) := by
  unfold refreshLookup
  split
  · exact stop_outcome
  · rename_i k hfind
    split
    · exact stop_outcome
    · rename_i r hr
      split
      · exact stop_outcome
      · rename_i u hu
        exact .move (.refreshLookup hfind hr hu)

theorem refreshLock_outcome (token session user status) :
    Outcome env s c (.refreshLock token session user status)
      (s.refreshLock c token session user status) := by
  unfold refreshLock
  by_cases hfree : (s.sessions session).free c = true
  · rw [if_pos hfree]
    cases hview : (s.sessions session).view c with
    | none => exact stop_outcome
    | some r =>
        show Outcome env s c _ (if r.refreshTokenHash = token ∧ r.userId = user then _ else _)
        by_cases hmatch : r.refreshTokenHash = token ∧ r.userId = user
        · rw [if_pos hmatch]
          obtain ⟨htoken, huser⟩ := hmatch
          by_cases hrev : r.revokedAt = none
          · rw [if_neg (Classical.not_not.mpr hrev)]
            split_ifs with hexp hst
            · exact .refreshLock hfree hview htoken huser (.close hrev)
            · exact .refreshLock hfree hview htoken huser (.close hrev)
            · exact .refreshLock hfree hview htoken huser
                (.rotate hrev (Classical.not_not.mp hst))
          · rw [if_pos hrev]
            cases hfam : r.tokenFamily with
            | some f => exact .refreshLock hfree hview htoken huser (.reuse hrev hfam)
            | none => exact .refreshLock hfree hview htoken huser (.reuseNoFamily hrev)
        · rw [if_neg hmatch]
          exact stop_outcome
  · rw [if_neg hfree]
    exact .wait _

theorem sweepSessions_outcome (query todo after) :
    Outcome env s c (.sweep query todo after) (s.sweepSessions c query todo after pick) := by
  cases todo with
  | nil =>
      cases after with
      | commit => exact .commit rfl
      | completeReset sub jti => exact .completeReset query sub jti
  | cons k ks =>
      show Outcome env s c _ (if pick ∈ k :: ks ∧ (s.sessions pick).free c = true then _ else s)
      by_cases hpick : pick ∈ k :: ks ∧ (s.sessions pick).free c = true
      · rw [if_pos hpick]
        exact .sweepRow hpick.1 hpick.2
      · rw [if_neg hpick]
        exact .wait _

theorem forgotLookup_outcome (email) :
    Outcome env s c (.forgotLookup email) (s.forgotLookup c email) := by
  unfold forgotLookup
  split
  · exact stop_outcome
  · split_ifs with h
    · obtain ⟨r, hr, hactive⟩ := (Option.any_eq_true _ _).mp h
      exact .forgot hr (of_decide_eq_true hactive)
    · exact stop_outcome

theorem resetCheckUsed_outcome (token : ResetToken) (password) :
    Outcome env s c (.resetCheckUsed token password) (s.resetCheckUsed c token password) := by
  unfold resetCheckUsed
  split_ifs with h
  · exact .resetUsed token password
  · exact .move (.unused (Bool.eq_false_iff.mpr h))

theorem resetCheckUser_outcome (token : ResetToken) (password) :
    Outcome env s c (.resetCheckUser token password) (s.resetCheckUser c token password) := by
  unfold resetCheckUser
  split_ifs with h
  · obtain ⟨r, hr, hactive⟩ := (Option.any_eq_true _ _).mp h
    exact .move (.resetCheckUser hr (of_decide_eq_true hactive))
  · exact .resetInactive token password

theorem changeLookup_outcome (user currentPassword newPassword) :
    Outcome env s c (.changeLookup user currentPassword newPassword)
      (s.changeLookup env c user currentPassword newPassword) := by
  unfold changeLookup
  split
  · exact stop_outcome
  · rename_i r hr
    split_ifs with h
    · rw [Bool.and_eq_true] at h
      exact .move (.changeLookup hr h.1)
    · exact stop_outcome

/-- **The inversion.** A call's next statement leads to one of its outcomes. -/
theorem advance_outcome (env : Env) (s : State) (c : CallId) (pick : SessionId) (p : Call) :
    Outcome env s c p (s.advance env c pick p) := by
  cases p with
  | done => exact .wait _
  | registerLookup email password =>
      show Outcome env s c _ (s.registerLookup c email password)
      unfold registerLookup
      split
      · exact stop_outcome
      · exact .move (.registerLookup _ _)
  | registerInsert email password =>
      show Outcome env s c _ (s.registerInsert env c email password)
      unfold registerInsert
      split
      · exact stop_outcome
      · exact .registerInsert email password
  | createSession user origin => exact .createSession user origin
  | loginLookup email password mfaCode device => exact loginLookup_outcome _ _ _ _
  | loginCompare user row password mfaCode device =>
      show Outcome env s c _ (s.loginCompare env c user row password mfaCode device)
      unfold loginCompare
      split_ifs with h
      · exact .move (.rightPassword h)
      · exact .move (.wrongPassword (Bool.eq_false_iff.mpr h))
  | recordFailure user count lockedUntil =>
      exact updateUser_outcome (.stop _) fun r hfree hrow => .recordFailure hfree hrow
  | loginMfa user mfaCode device => exact .move (.loginMfa _ _ _)
  | loginRole user secret mfaCode device => exact loginRole_outcome _ _ _ _
  | logFailed user => exact .logFailed user
  | resetFailures user origin =>
      exact updateUser_outcome (.noUser _ _) fun r hfree hrow => .resetFailures hfree hrow
  | insertChallenge user => exact .insertChallenge user
  | deviceLookup user token =>
      cases hd : s.findDevice user token with
      | some d =>
          simp only [advance, hd]
          exact .move (.deviceFound hd)
      | none =>
          simp only [advance, hd]
          exact .move (.deviceMissing hd)
  | deviceRevoke user d => exact .deviceRevoke user d
  | deviceInsert user consumed => exact .deviceInsert user consumed
  | otpLookup challengeId code trustDevice => exact otpLookup_outcome _ _ _
  | otpMfa user challengeId createdAt code trustDevice =>
      cases hsecret : s.mfaSecret user with
      | none =>
          simp only [advance, hsecret]
          exact stop_outcome
      | some secret =>
          simp only [advance, hsecret]
          exact .move (.otpMfa hsecret)
  | otpCount user challengeId createdAt secret code trustDevice =>
      exact otpCount_outcome _ _ _ _ _ _
  | refreshLookup token => exact refreshLookup_outcome token
  | refreshLock token session user status => exact refreshLock_outcome _ _ _ _
  | rotateRevoke session user family => exact .rotateRevoke _ _ _
  | rotateInsert session user family => exact .rotateInsert _ _ _
  | rotateCommit session user new f => exact .commit rfl
  | closeRevoke session => exact .closeRevoke session
  | closeCommit session => exact .commit rfl
  | scan query after => exact .move (.scan query after)
  | sweep query todo after => exact sweepSessions_outcome _ _ _
  | forgotLookup email => exact forgotLookup_outcome email
  | resetAdvisory token password =>
      show Outcome env s c _ (s.resetAdvisory env c token password)
      unfold resetAdvisory
      split_ifs with h
      · exact .resetAdvisory h
      · exact .wait _
  | resetCheckUsed token password => exact resetCheckUsed_outcome token password
  | resetCheckUser token password => exact resetCheckUser_outcome token password
  | resetUpdateUser token password =>
      show Outcome env s c _ (s.resetUpdateUser env c token password)
      unfold resetUpdateUser
      split_ifs with h
      · exact .resetUpdateUser h
      · exact .wait _
  | changeLookup user currentPassword newPassword => exact changeLookup_outcome _ _ _
  | changeUpdate user passwordHash =>
      exact updateUser_outcome (.changeNoUser _ _) fun r hfree hrow => .changeUpdate hfree hrow

/-! ## Calls -/

@[simp] theorem goto_calls_self : (s.goto c p).calls c = some p := Function.update_self _ _ _

@[simp] theorem goto_calls_of_ne {c' : CallId} (h : c' ≠ c) : (s.goto c p).calls c' = s.calls c' :=
  Function.update_of_ne h _ _

/-- The revocation of a locked session writes to the sessions, and to nothing else. -/
theorem revokeLocked_eq (s : State) (c : CallId) (k : SessionId) :
    ∃ sessions, s.revokeLocked c k = s.setSessions sessions := by
  unfold revokeLocked
  split
  · exact ⟨_, rfl⟩
  · exact ⟨s.sessions, rfl⟩

/-- An outcome leaves its call where it stands, or takes it on. -/
theorem outcome_follows {s' : State} (h : Outcome env s c p s') :
    s' = s ∨ ∃ p', s'.calls = Function.update s.calls c (some p') ∧ Follows env s c p p' := by
  cases h with
  | wait => exact Or.inl rfl
  | move hnext => exact Or.inr ⟨_, rfl, .next hnext⟩
  | registerInsert email password => exact Or.inr ⟨_, rfl, .registerInsert email password⟩
  | createSession user origin =>
      cases origin with
      | verifyOtp challengeId trustDevice =>
          cases trustDevice with
          | true => exact Or.inr ⟨_, rfl, .remember user challengeId⟩
          | false => exact Or.inr ⟨.done, rfl, .next (.stop _)⟩
      | _ => exact Or.inr ⟨.done, rfl, .next (.stop _)⟩
  | recordFailure => exact Or.inr ⟨.done, rfl, .next (.stop _)⟩
  | resetFailures => exact Or.inr ⟨_, rfl, .next (.noUser _ _)⟩
  | changeUpdate => exact Or.inr ⟨_, rfl, .next (.changeNoUser _ _)⟩
  | logFailed | insertChallenge | commit | completeReset | forgot | resetUsed | resetInactive =>
      exact Or.inr ⟨.done, rfl, .next (.stop _)⟩
  | deviceRevoke user d => exact Or.inr ⟨_, rfl, .deviceRevoke user d⟩
  | deviceInsert user consumed =>
      cases consumed with
      | none => exact Or.inr ⟨.done, rfl, .next (.stop _)⟩
      | some d => exact Or.inr ⟨_, rfl, .deviceInsert user d⟩
  | refreshLock hfree hview htoken huser hlocked =>
      exact Or.inr ⟨_, rfl, .refreshLock hfree hview htoken huser hlocked⟩
  | rotateRevoke session user family =>
      obtain ⟨sessions, heq⟩ := revokeLocked_eq s c session
      rw [heq]
      exact Or.inr ⟨_, rfl, .rotateRevoke session user family⟩
  | closeRevoke session =>
      obtain ⟨sessions, heq⟩ := revokeLocked_eq s c session
      rw [heq]
      exact Or.inr ⟨_, rfl, .closeRevoke session⟩
  | rotateInsert session user family => exact Or.inr ⟨_, rfl, .rotateInsert rfl rfl⟩
  | sweepRow hpick hfree => exact Or.inr ⟨_, rfl, .sweepRow hpick rfl⟩
  | resetAdvisory => exact Or.inr ⟨_, rfl, .resetAdvisory _ _⟩
  | resetUpdateUser => exact Or.inr ⟨_, rfl, .resetUpdateUser _ _⟩

end State

/-- What a step can do. -/
inductive Step (env : Env) (s : State) : Input → State → Prop where
  | idle (i : Input) : Step env s i s
  | call {c : CallId} {request : Request} (hc : s.calls c = none) :
      Step env s (.call c request) (s.goto c (request.start s))
  | exec {c : CallId} {p : Call} (pick : SessionId) (hc : s.calls c = some p) :
      Step env s (.exec c pick) (s.advance env c pick p)
  | abort {c : CallId} {p : Call} (hc : s.calls c = some p) :
      Step env s (.abort c) ((s.rollback c).goto c .done)
  | tick (millis : ℕ) : Step env s (.tick millis) { s with now := s.now + millis }
  | setStatus {user : UserId} {r : User} (status : UserStatus) (hheld : (s.users user).held = none)
      (hr : (s.users user).committed = some r) :
      Step env s (.setStatus user status)
        (s.setUsers (s.users.put user (some { r with status := status })))
  | setMfa (user : UserId) (secret : Option String) :
      Step env s (.setMfa user secret)
        { s with mfaSecret := Function.update s.mfaSecret user secret }

/-- The call that takes the step, if one does. -/
def Input.actor : Input → Option CallId
  | .call c _ | .exec c _ | .abort c => some c
  | _ => none

namespace State

section Steps

variable {request : Request}

/-- A new call starts. -/
theorem step_call (hc : s.calls c = none) :
    s.step env (.call c request) = s.goto c (request.start s) := by
  unfold step
  simp only [hc]

/-- A call is not started twice. -/
theorem step_call_known (hc : s.calls c = some p) : s.step env (.call c request) = s := by
  unfold step
  simp only [hc]

/-- A call takes its next step. -/
theorem step_exec (hc : s.calls c = some p) :
    s.step env (.exec c pick) = s.advance env c pick p := by
  unfold step
  simp only [hc]

/-- A call that was not started takes no step. -/
theorem step_exec_unknown (hc : s.calls c = none) : s.step env (.exec c pick) = s := by
  unfold step
  simp only [hc]

/-- A call that is aborted rolls back. -/
theorem step_abort (hc : s.calls c = some p) :
    s.step env (.abort c) = (s.rollback c).goto c .done := by
  unfold step
  simp only [hc]

/-- A call that was not started is not aborted. -/
theorem step_abort_unknown (hc : s.calls c = none) : s.step env (.abort c) = s := by
  unfold step
  simp only [hc]

end Steps

/-- A statement moves no other call. -/
theorem outcome_calls_of_ne {s' : State} {c' : CallId} (h : Outcome env s c p s') (hc : c' ≠ c) :
    s'.calls c' = s.calls c' := by
  rcases outcome_follows h with heq | ⟨p', heq, -⟩
  · rw [heq]
  · rw [heq, Function.update_of_ne hc]

/-- **The inversion of a step.** -/
theorem step_inv (env : Env) (s : State) (i : Input) : Step env s i (s.step env i) := by
  cases i with
  | call c request =>
      cases hc : s.calls c with
      | none =>
          rw [step_call hc]
          exact .call hc
      | some p =>
          rw [step_call_known hc]
          exact .idle _
  | exec c pick =>
      cases hc : s.calls c with
      | none =>
          rw [step_exec_unknown hc]
          exact .idle _
      | some p =>
          rw [step_exec hc]
          exact .exec pick hc
  | abort c =>
      cases hc : s.calls c with
      | none =>
          rw [step_abort_unknown hc]
          exact .idle _
      | some p =>
          rw [step_abort hc]
          exact .abort hc
  | tick millis => exact .tick millis
  | setStatus user status =>
      cases hheld : (s.users user).held with
      | some x =>
          simp only [step, hheld]
          exact .idle _
      | none =>
          cases hr : (s.users user).committed with
          | none =>
              simp only [step, hheld, hr]
              exact .idle _
          | some r =>
              simp only [step, hheld, hr]
              exact .setStatus status hheld hr
  | setMfa user secret => exact .setMfa user secret

/-- A step moves no other call. -/
theorem step_calls_of_ne {i : Input} (h : i.actor ≠ some c) :
    (s.step env i).calls c = s.calls c := by
  have hstep := step_inv env s i
  generalize s.step env i = s' at hstep
  cases hstep with
  | call hc => exact goto_calls_of_ne fun he => h (congrArg some he.symm)
  | exec pick hc =>
      exact outcome_calls_of_ne (advance_outcome env s _ pick _) fun he => h (congrArg some he.symm)
  | abort hc => exact goto_calls_of_ne fun he => h (congrArg some he.symm)
  | _ => rfl

/-- A call that has begun stays known. -/
theorem step_calls_some (env : Env) (i : Input) (hc : s.calls c = some p) :
    ∃ p', (s.step env i).calls c = some p' := by
  by_cases ha : i.actor = some c
  · cases i with
    | call c' request =>
        rw [show c' = c from Option.some.inj ha, step_call_known hc]
        exact ⟨p, hc⟩
    | exec c' pick =>
        rw [show c' = c from Option.some.inj ha, step_exec hc]
        rcases outcome_follows (advance_outcome env s c pick p) with heq | ⟨p', heq, -⟩
        · rw [heq]
          exact ⟨p, hc⟩
        · rw [heq]
          exact ⟨p', Function.update_self _ _ _⟩
    | abort c' =>
        rw [show c' = c from Option.some.inj ha, step_abort hc]
        exact ⟨.done, goto_calls_self⟩
    | tick => cases ha
    | setStatus => cases ha
    | setMfa => cases ha
  · rw [step_calls_of_ne ha]
    exact ⟨p, hc⟩

/-- Where a call stands after a step: where it stood, at its first statement, at its end, or where
an outcome of its statement has led it. -/
theorem step_calls {i : Input} (h : (s.step env i).calls c = some p') :
    (s.calls c = some p' ∧ (i.actor ≠ some c ∨ s.step env i = s)) ∨
      ((∃ request, i = .call c request) ∧ s.calls c = none ∧ Starts s p') ∨
      (i = .abort c ∧ p' = .done) ∨
      ∃ pick p, i = .exec c pick ∧ s.calls c = some p ∧ Outcome env s c p (s.step env i) := by
  by_cases ha : i.actor = some c
  · cases i with
    | call c' request =>
        rw [show c' = c from Option.some.inj ha] at h ⊢
        cases hc : s.calls c with
        | some p =>
            have hsame : s.step env (.call c request) = s := step_call_known hc
            rw [hsame, hc] at h
            exact Or.inl ⟨h, Or.inr hsame⟩
        | none =>
            rw [step_call hc, goto_calls_self, Option.some.injEq] at h
            rw [← h]
            exact Or.inr (Or.inl ⟨⟨request, rfl⟩, rfl, request_starts s request⟩)
    | exec c' pick =>
        rw [show c' = c from Option.some.inj ha] at h ⊢
        cases hc : s.calls c with
        | none =>
            rw [step_exec_unknown hc, hc] at h
            cases h
        | some p =>
            refine Or.inr (Or.inr (Or.inr ⟨pick, p, rfl, rfl, ?_⟩))
            rw [step_exec hc]
            exact advance_outcome env s c pick p
    | abort c' =>
        rw [show c' = c from Option.some.inj ha] at h ⊢
        cases hc : s.calls c with
        | none =>
            rw [step_abort_unknown hc, hc] at h
            cases h
        | some p =>
            rw [step_abort hc, goto_calls_self, Option.some.injEq] at h
            exact Or.inr (Or.inr (Or.inl ⟨rfl, h.symm⟩))
    | tick => cases ha
    | setStatus => cases ha
    | setMfa => cases ha
  · rw [step_calls_of_ne ha] at h
    exact Or.inl ⟨h, Or.inl ha⟩

/-- The same, by the statements only. -/
theorem step_follows {i : Input} (h : (s.step env i).calls c = some p') :
    (s.calls c = some p' ∧ (i.actor ≠ some c ∨ s.step env i = s)) ∨
      ((∃ request, i = .call c request) ∧ s.calls c = none ∧ Starts s p') ∨
      p' = .done ∨
      ∃ pick p, i = .exec c pick ∧ s.calls c = some p ∧ Follows env s c p p' := by
  rcases step_calls h with hsame | hcall | ⟨-, hdone⟩ | ⟨pick, p, hi, hp, hout⟩
  · exact Or.inl hsame
  · exact Or.inr (Or.inl hcall)
  · exact Or.inr (Or.inr (Or.inl hdone))
  · rcases outcome_follows hout with heq | ⟨p'', heq, hfollows⟩
    · rw [heq] at h
      exact Or.inl ⟨h, Or.inr heq⟩
    · rw [heq, Function.update_self, Option.some.injEq] at h
      subst h
      exact Or.inr (Or.inr (Or.inr ⟨pick, p, hi, hp, hfollows⟩))

end State

end PredictATrade.Auth
