import PredictATrade.Auth.Schema

/-!
# `Auth.Service` — the calls of `auth.service.ts`, statement by statement

Calls run concurrently. A `Call` is where one call stands: the next SQL statement it will execute,
with the local variables it still needs. `State.advance` executes that statement together with the
code up to the next one, so everything a call does between two statements of other calls is one
step. Statements that wait for a row lock leave the state as it is until the lock is free.

`refresh` and `resetPassword` run in transactions of their own; every other statement commits at
once. An `UPDATE` or `DELETE` of many sessions is a `scan`, which takes the snapshot, and a `sweep`,
which goes through the rows in any order and commits at its end, or with its transaction.

Statements that only write what nothing here reads back (audit and consent records, the other login
events, roles, licences) are not steps.
-/

namespace PredictATrade.Auth

open Lib.ReadCommitted

/-! ## What the service is given -/

/-- The libraries the service calls: `bcrypt.compare`, `bcrypt.hash`, `authenticator.verify` of a
code against a secret at a time, and the advisory lock key it derives from a `jti`. -/
structure Env where
  compare : String → String → Bool
  hash : String → String
  totp : String → String → ℤ → Bool
  lockKey : ℕ → ℕ

/-! ## Calls -/

/-- The path on which a session is created. -/
inductive Origin where
  | register
  | login
  | trustedDevice
  | verifyOtp (challengeId : ℕ) (trustDevice : Bool)
  deriving DecidableEq, Repr

/-- What the end of a sweep completes: its statement or transaction, or a password reset. -/
inductive SweepEnd where
  | commit
  | completeReset (sub : UserId) (jti : ℕ)
  deriving DecidableEq, Repr

/-- The next statement of a call. -/
inductive Call where
  | done
  /- `register` -/
  | registerLookup (email password : String)
  | registerInsert (email password : String)
  | createSession (user : UserId) (origin : Origin)
  /- `login` -/
  | loginLookup (email password : String) (mfaCode : Option String) (device : Option ℕ)
  | loginCompare (user : UserId) (row : User) (password : String) (mfaCode : Option String)
      (device : Option ℕ)
  | recordFailure (user : UserId) (count : ℕ) (lockedUntil : Option ℤ)
  | loginMfa (user : UserId) (mfaCode : Option String) (device : Option ℕ)
  | loginRole (user : UserId) (secret : Option String) (mfaCode : Option String)
      (device : Option ℕ)
  | logFailed (user : UserId)
  | resetFailures (user : UserId) (origin : Origin)
  | insertChallenge (user : UserId)
  | deviceLookup (user : UserId) (token : ℕ)
  | deviceRevoke (user : UserId) (device : ℕ)
  | deviceInsert (user : UserId) (consumed : Option ℕ)
  /- `verifyOtp` -/
  | otpLookup (challengeId : ℕ) (code : String) (trustDevice : Bool)
  | otpMfa (user : UserId) (challengeId : ℕ) (createdAt : ℤ) (code : String) (trustDevice : Bool)
  | otpCount (user : UserId) (challengeId : ℕ) (createdAt : ℤ) (secret code : String)
      (trustDevice : Bool)
  /- `refresh` -/
  | refreshLookup (token : ℕ)
  | refreshLock (token : ℕ) (session : SessionId) (user : UserId) (status : UserStatus)
  | rotateRevoke (session : SessionId) (user : UserId) (family : Option ℕ)
  | rotateInsert (session : SessionId) (user : UserId) (family : Option ℕ)
  | rotateCommit (session : SessionId) (user : UserId) (new : SessionId) (family : ℕ)
  | closeRevoke (session : SessionId)
  | closeCommit (session : SessionId)
  /- statements on many sessions -/
  | scan (query : SessionQuery) (after : SweepEnd)
  | sweep (query : SessionQuery) (todo : List SessionId) (after : SweepEnd)
  /- `forgotPassword`, `resetPassword`, `changePassword` -/
  | forgotLookup (email : String)
  | resetAdvisory (token : ResetToken) (password : String)
  | resetCheckUsed (token : ResetToken) (password : String)
  | resetCheckUser (token : ResetToken) (password : String)
  | resetUpdateUser (token : ResetToken) (password : String)
  | changeLookup (user : UserId) (currentPassword newPassword : String)
  | changeUpdate (user : UserId) (passwordHash : String)
  deriving DecidableEq, Repr

/-- What follows the session: `verifyOtp` may remember the device. -/
def Origin.after (user : UserId) : Origin → Call
  | .verifyOtp _ true => .deviceInsert user none
  | _ => .done

/-- The tables, the clock, the counter of fresh values, the reset links that were signed, the
advisory locks and the calls. -/
structure State where
  now : ℤ := 0
  next : ℕ := 0
  users : Table UserId User CallId := fun _ => {}
  sessions : Table SessionId Session CallId := fun _ => {}
  devices : ℕ → Option TrustedDevice := fun _ => none
  events : List LoginEvent := []
  mfaSecret : UserId → Option String := fun _ => none
  signed : List ResetToken := []
  advisory : ℕ → Option CallId := fun _ => none
  calls : CallId → Option Call := fun _ => none

namespace State

/-! ## Statements -/

/-- Let the call go on to its next statement. -/
def goto (s : State) (c : CallId) (p : Call) : State :=
  { s with
    calls := Function.update s.calls c (some p) }

/-- Draw fresh values. -/
def draw (s : State) (n : ℕ) : State :=
  { s with
    next := s.next + n }

/-- The state with other users. -/
def setUsers (s : State) (users : Table UserId User CallId) : State :=
  { s with
    users := users }

/-- The state with other sessions. -/
def setSessions (s : State) (sessions : Table SessionId Session CallId) : State :=
  { s with
    sessions := sessions }

/-- The state with other trusted devices. -/
def setDevices (s : State) (devices : ℕ → Option TrustedDevice) : State :=
  { s with
    devices := devices }

/-- `INSERT INTO iam.login_events`. -/
def logEvent (s : State) (user : UserId) (eventType : EventType) : State :=
  { s with
    events := s.events ++ [⟨user, eventType, s.now⟩] }

/-- The state with other advisory locks. -/
def setAdvisory (s : State) (advisory : ℕ → Option CallId) : State :=
  { s with
    advisory := advisory }

/-- The state after a reset token was signed. -/
def sign (s : State) (token : ResetToken) : State :=
  { s with
    signed := token :: s.signed }

/-- `SELECT … FROM iam.users WHERE email = $1`. -/
def findUser (s : State) (email : String) : Option UserId :=
  (List.range s.next).find? fun u => (s.users u).committed.any fun r => r.email = email

/-- `SELECT … FROM iam.sessions WHERE refresh_token_hash = $1`. -/
def findSession (s : State) (token : ℕ) : Option SessionId :=
  (List.range s.next).find? fun k => (s.sessions k).committed.any fun r => r.refreshTokenHash = token

/-- The device row of a user that a token still opens. -/
def findDevice (s : State) (user : UserId) (token : ℕ) : Option ℕ :=
  (List.range s.next).find? fun d => (s.devices d).any fun r =>
    r.userId = user && r.tokenHash = token && r.revokedAt.isNone && decide (s.now < r.expiresAt)

/-- The latest event of a challenge. -/
def findChallenge (s : State) (challengeId : ℕ) : Option LoginEvent :=
  (s.events.reverse.find? fun e => e.eventType = .mfaChallenge challengeId)

/-- `SELECT count(*)` of the failed codes of a user since a time. -/
def failedCodes (s : State) (user : UserId) (since : ℤ) : ℕ :=
  s.events.countP fun e =>
    e.userId = user && e.eventType = .mfaFailed && decide (since ≤ e.createdAt)

/-- Drop what the call's transaction holds. -/
def rollback (s : State) (c : CallId) : State :=
  { s with
    users := s.users.rollback c
    sessions := s.sessions.rollback c
    advisory := fun key => if s.advisory key = some c then none else s.advisory key }

/-- `COMMIT` of the call's transaction. -/
def commit (s : State) (c : CallId) : State :=
  { s with
    users := s.users.commit c
    sessions := s.sessions.commit c
    advisory := fun key => if s.advisory key = some c then none else s.advisory key }

/-- A single-row `UPDATE iam.users`, which waits while another transaction holds the row. -/
def updateUser (s : State) (c : CallId) (user : UserId) (f : User → User) (next : Call) : State :=
  if (s.users user).free c then
    match (s.users user).committed with
    | some r => (s.setUsers (s.users.put user (some (f r)))).goto c next
    | none => s.goto c next
  else s

/-! ## `createSession` and `registerTrustedDevice` -/

/-- `INSERT INTO iam.sessions`, in a new family. -/
def insertSession (s : State) (user : UserId) : State :=
  (s.setSessions (s.sessions.put s.next (some
    { userId := user
      refreshTokenHash := s.next + 1
      tokenFamily := some (s.next + 2)
      expiresAt := s.now + refreshTokenExpiry }))).draw 3

/-- `INSERT INTO iam.trusted_devices`. -/
def insertDevice (s : State) (user : UserId) : State :=
  (s.setDevices (Function.update s.devices s.next (some
    { userId := user
      tokenHash := s.next + 1
      expiresAt := s.now + trustedDeviceExpiry }))).draw 2

/-! ## `login` -/

/-- The row is read, and the call goes on unless the account is locked or not active. -/
def loginLookup (s : State) (c : CallId) (email password : String) (mfaCode : Option String)
    (device : Option ℕ) : State :=
  match s.findUser email with
  | none => s.goto c .done
  | some u =>
    match (s.users u).committed with
    | none => s.goto c .done
    | some r =>
      if r.lockedUntil.any fun l => decide (s.now < l) then s.goto c .done
      else if r.status ≠ .active then s.goto c .done
      else s.goto c (.loginCompare u r password mfaCode device)

/-- `bcrypt.compare`, and for a wrong password the new count and lock. -/
def loginCompare (env : Env) (s : State) (c : CallId) (user : UserId) (row : User)
    (password : String) (mfaCode : Option String) (device : Option ℕ) : State :=
  if env.compare password row.passwordHash then s.goto c (.loginMfa user mfaCode device)
  else
    let count := row.failedLoginCount + 1
    s.goto c (.recordFailure user count
      (if maxLoginFailures ≤ count then some (s.now + lockout) else none))

/-- After the role is known: the second factor, if an authenticator is enabled. -/
def loginRole (env : Env) (s : State) (c : CallId) (user : UserId) (secret : Option String)
    (mfaCode : Option String) (device : Option ℕ) : State :=
  match secret, mfaCode with
  | none, _ => s.goto c (.resetFailures user .login)
  | some _, none =>
    match device with
    | some token => s.goto c (.deviceLookup user token)
    | none => s.goto c (.insertChallenge user)
  | some secret, some code =>
    if env.totp code secret s.now then s.goto c (.resetFailures user .login)
    else s.goto c (.logFailed user)

/-! ## `verifyOtp` -/

/-- The challenge that an answer names. -/
def otpLookup (s : State) (c : CallId) (challengeId : ℕ) (code : String) (trustDevice : Bool) :
    State :=
  match s.findChallenge challengeId with
  | none => s.goto c .done
  | some e =>
    if otpChallengeExpiry < s.now - e.createdAt then s.goto c .done
    else s.goto c (.otpMfa e.userId challengeId e.createdAt code trustDevice)

/-- The failed codes are counted, and if there are not too many the code is checked. -/
def otpCount (env : Env) (s : State) (c : CallId) (user : UserId) (challengeId : ℕ)
    (createdAt : ℤ) (secret code : String) (trustDevice : Bool) : State :=
  if maxOtpAttempts ≤ s.failedCodes user createdAt then s.goto c .done
  else if env.totp code secret s.now then
    s.goto c (.resetFailures user (.verifyOtp challengeId trustDevice))
  else s.goto c (.logFailed user)

/-! ## `refresh` -/

/-- The statement's snapshot: the session of the token, and its user's status. -/
def refreshLookup (s : State) (c : CallId) (token : ℕ) : State :=
  match s.findSession token with
  | none => s.goto c .done
  | some k =>
    match (s.sessions k).committed with
    | none => s.goto c .done
    | some r =>
      match (s.users r.userId).committed with
      | none => s.goto c .done
      | some u => s.goto c (.refreshLock token k r.userId u.status)

/-- `FOR UPDATE OF s`: once the row is locked its conditions are checked on its latest version, and
the checks of the method follow. -/
def refreshLock (s : State) (c : CallId) (token : ℕ) (session : SessionId) (user : UserId)
    (status : UserStatus) : State :=
  if (s.sessions session).free c then
    match (s.sessions session).view c with
    | none => s.goto c .done
    | some r =>
      if r.refreshTokenHash = token ∧ r.userId = user then
        let locked := s.setSessions (s.sessions.lock c session)
        if r.revokedAt ≠ none then
          match r.tokenFamily with
          | some f => locked.goto c (.scan (.family f) .commit)
          | none => locked.goto c (.closeCommit session)
        else if r.expiresAt < s.now then locked.goto c (.closeRevoke session)
        else if status ≠ .active then locked.goto c (.closeRevoke session)
        else locked.goto c (.rotateRevoke session user r.tokenFamily)
      else s.goto c .done
  else s

/-- The revocation of a session that the transaction has locked. -/
def revokeLocked (s : State) (c : CallId) (session : SessionId) : State :=
  match (s.sessions session).view c with
  | some r => s.setSessions (s.sessions.write c session (some (r.revoke s.now)))
  | none => s

/-- The successor of a session, in its family, or in a new one if it has none. -/
def rotateInsert (s : State) (c : CallId) (session : SessionId) (user : UserId)
    (family : Option ℕ) : State :=
  let f := family.getD (s.next + 2)
  ((s.setSessions (s.sessions.write c s.next (some
    { userId := user
      refreshTokenHash := s.next + 1
      tokenFamily := some f
      expiresAt := s.now + refreshTokenExpiry }))).draw 3).goto c
        (.rotateCommit session user s.next f)

/-! ## Statements on many sessions -/

/-- The sessions that an update of the sessions will go through. -/
def scanSessions (s : State) (c : CallId) (query : SessionQuery) (after : SweepEnd) : State :=
  s.goto c (.sweep query (s.sessions.scan c query.matches (List.range s.next)) after)

/-- The next row of the statement, or, when there is none left, its end. -/
def sweepSessions (s : State) (c : CallId) (query : SessionQuery) (todo : List SessionId)
    (after : SweepEnd) (pick : SessionId) : State :=
  match todo with
  | [] =>
    match after with
    | .commit => (s.commit c).goto c .done
    | .completeReset sub jti =>
      ((s.commit c).logEvent sub (.passwordResetCompleted jti)).goto c .done
  | _ :: _ =>
    if pick ∈ todo ∧ (s.sessions pick).free c then
      (s.setSessions (s.sessions.sweepRow c query.matches (query.apply s.now) pick)).goto c
        (.sweep query (todo.erase pick) after)
    else s

/-! ## `forgotPassword`, `resetPassword`, `changePassword` -/

/-- The user who has forgotten the password. -/
def forgotLookup (s : State) (c : CallId) (email : String) : State :=
  match s.findUser email with
  | none => s.goto c .done
  | some u =>
    if (s.users u).committed.any fun r => r.status = .active then
      ((s.sign ⟨u, s.next, s.now + resetTokenExpiry⟩).draw 1).goto c .done
    else s.goto c .done

/-- `pg_advisory_xact_lock`. -/
def resetAdvisory (env : Env) (s : State) (c : CallId) (token : ResetToken) (password : String) :
    State :=
  if s.advisory (env.lockKey token.jti) = none then
    (s.setAdvisory (Function.update s.advisory (env.lockKey token.jti) (some c))).goto c
      (.resetCheckUsed token password)
  else s

/-- Whether the reset token was used before. -/
def resetCheckUsed (s : State) (c : CallId) (token : ResetToken) (password : String) : State :=
  if s.events.any fun e =>
      e.userId = token.sub && e.eventType = .passwordResetCompleted token.jti then
    (s.rollback c).goto c .done
  else s.goto c (.resetCheckUser token password)

/-- Whether the user is active. -/
def resetCheckUser (s : State) (c : CallId) (token : ResetToken) (password : String) : State :=
  if (s.users token.sub).committed.any fun r => r.status = .active then
    s.goto c (.resetUpdateUser token password)
  else (s.rollback c).goto c .done

/-- The new password, which nobody sees before the commit. -/
def resetUpdateUser (env : Env) (s : State) (c : CallId) (token : ResetToken)
    (password : String) : State :=
  if (s.users token.sub).free c then
    let updated := (s.users token.sub).committed.map fun r =>
      { r with passwordHash := env.hash password }
    (s.setUsers (s.users.write c token.sub updated)).goto c
      (.scan (.user token.sub) (.completeReset token.sub token.jti))
  else s

/-- The user who changes the password. -/
def changeLookup (env : Env) (s : State) (c : CallId) (user : UserId)
    (currentPassword newPassword : String) : State :=
  match (s.users user).committed with
  | none => s.goto c .done
  | some r =>
    if env.compare currentPassword r.passwordHash && !env.compare newPassword r.passwordHash then
      s.goto c (.changeUpdate user (env.hash newPassword))
    else s.goto c .done

/-! ## `register` -/

/-- Whether there is a user with this address already. -/
def registerLookup (s : State) (c : CallId) (email password : String) : State :=
  match s.findUser email with
  | some _ => s.goto c .done
  | none => s.goto c (.registerInsert email password)

/-- `INSERT INTO iam.users`, with status PENDING; the email is unique. -/
def registerInsert (env : Env) (s : State) (c : CallId) (email password : String) : State :=
  match s.findUser email with
  | some _ => s.goto c .done
  | none =>
    ((s.setUsers (s.users.put s.next (some
      { email := email
        passwordHash := env.hash password
        status := .pending }))).draw 1).goto c (.createSession s.next .register)

/-! ## One step of a call -/

/-- Execute the next statement of a call. `pick` is the row a sweep takes next. -/
def advance (env : Env) (s : State) (c : CallId) (pick : SessionId) : Call → State
  | .done => s
  | .registerLookup email password => s.registerLookup c email password
  | .registerInsert email password => s.registerInsert env c email password
  | .createSession user origin => (s.insertSession user).goto c (origin.after user)
  | .loginLookup email password mfaCode device => s.loginLookup c email password mfaCode device
  | .loginCompare user row password mfaCode device =>
    s.loginCompare env c user row password mfaCode device
  | .recordFailure user count lockedUntil =>
    s.updateUser c user
      (fun r => { r with failedLoginCount := count, lockedUntil := lockedUntil }) .done
  | .loginMfa user mfaCode device => s.goto c (.loginRole user (s.mfaSecret user) mfaCode device)
  | .loginRole user secret mfaCode device => s.loginRole env c user secret mfaCode device
  | .logFailed user => (s.logEvent user .mfaFailed).goto c .done
  | .resetFailures user origin =>
    s.updateUser c user (fun r => { r with failedLoginCount := 0, lockedUntil := none })
      (.createSession user origin)
  | .insertChallenge user => ((s.logEvent user (.mfaChallenge s.next)).draw 1).goto c .done
  | .deviceLookup user token =>
    match s.findDevice user token with
    | some d => s.goto c (.deviceRevoke user d)
    | none => s.goto c (.insertChallenge user)
  | .deviceRevoke user d =>
    (s.setDevices (Function.update s.devices d
      ((s.devices d).map fun r => { r with revokedAt := some s.now }))).goto c
        (.deviceInsert user (some d))
  | .deviceInsert user consumed =>
    (s.insertDevice user).goto c
      (if consumed.isSome then .createSession user .trustedDevice else .done)
  | .otpLookup challengeId code trustDevice => s.otpLookup c challengeId code trustDevice
  | .otpMfa user challengeId createdAt code trustDevice =>
    match s.mfaSecret user with
    | none => s.goto c .done
    | some secret => s.goto c (.otpCount user challengeId createdAt secret code trustDevice)
  | .otpCount user challengeId createdAt secret code trustDevice =>
    s.otpCount env c user challengeId createdAt secret code trustDevice
  | .refreshLookup token => s.refreshLookup c token
  | .refreshLock token session user status => s.refreshLock c token session user status
  | .rotateRevoke session user family =>
    (s.revokeLocked c session).goto c (.rotateInsert session user family)
  | .rotateInsert session user family => s.rotateInsert c session user family
  | .rotateCommit _ _ _ _ => (s.commit c).goto c .done
  | .closeRevoke session => (s.revokeLocked c session).goto c (.closeCommit session)
  | .closeCommit _ => (s.commit c).goto c .done
  | .scan query after => s.scanSessions c query after
  | .sweep query todo after => s.sweepSessions c query todo after pick
  | .forgotLookup email => s.forgotLookup c email
  | .resetAdvisory token password => s.resetAdvisory env c token password
  | .resetCheckUsed token password => s.resetCheckUsed c token password
  | .resetCheckUser token password => s.resetCheckUser c token password
  | .resetUpdateUser token password => s.resetUpdateUser env c token password
  | .changeLookup user currentPassword newPassword =>
    s.changeLookup env c user currentPassword newPassword
  | .changeUpdate user passwordHash =>
    s.updateUser c user (fun r => { r with passwordHash := passwordHash })
      (.scan (.allOf user) .commit)

end State

/-! ## The system -/

/-- A request, as it reaches the service. -/
inductive Request where
  | register (agreed : Bool) (email password : String)
  | login (email password : String) (mfaCode : Option String) (trustedDeviceToken : Option ℕ)
  | verifyOtp (challengeId : ℕ) (code : String) (trustDevice : Bool)
  | refresh (rawRefreshToken : ℕ)
  | logout (userId : UserId) (rawRefreshToken : Option ℕ)
  | forgotPassword (email : String)
  | resetPassword (token : ResetToken) (password : String)
  | changePassword (userId : UserId) (currentPassword newPassword : String)
  deriving DecidableEq, Repr

/-- The first statement of a call, after the checks on its arguments. -/
def Request.start (s : State) : Request → Call
  | .register agreed email password => if agreed then .registerLookup email password else .done
  | .login email password mfaCode device =>
    -- an empty code is none
    .loginLookup email password (mfaCode.filter (· ≠ "")) device
  | .verifyOtp challengeId code trustDevice => .otpLookup challengeId code trustDevice
  | .refresh token => .refreshLookup token
  | .logout userId (some token) => .scan (.token userId token) .commit
  | .logout userId none => .scan (.user userId) .commit
  | .forgotPassword email => .forgotLookup email
  | .resetPassword token password =>
    -- the signature and the expiry of the link
    if token ∈ s.signed ∧ s.now < token.expiresAt then .resetAdvisory token password else .done
  | .changePassword userId currentPassword newPassword =>
    if 8 ≤ newPassword.length ∧ currentPassword ≠ "" then
      .changeLookup userId currentPassword newPassword
    else .done

/-- What can happen next: a call arrives, a call executes its next statement, a call fails there (its
transaction is rolled back), time passes, an account's status or authenticator is changed. -/
inductive Input where
  | call (c : CallId) (request : Request)
  | exec (c : CallId) (pick : SessionId)
  | abort (c : CallId)
  | tick (millis : ℕ)
  | setStatus (user : UserId) (status : UserStatus)
  | setMfa (user : UserId) (secret : Option String)
  deriving DecidableEq, Repr

/-- The service after one more input: a new call, or the next statement of one. -/
def State.step (env : Env) (s : State) : Input → State
  | .call c request =>
    match s.calls c with
    | none => s.goto c (request.start s)
    | some _ => s
  | .exec c pick =>
    match s.calls c with
    | none => s
    | some p => s.advance env c pick p
  | .abort c =>
    match s.calls c with
    | none => s
    | some _ => (s.rollback c).goto c .done
  | .tick millis =>
    { s with
      now := s.now + millis }
  | .setStatus user status =>
    match (s.users user).held, (s.users user).committed with
    | none, some r => s.setUsers (s.users.put user (some { r with status := status }))
    | _, _ => s
  | .setMfa user secret =>
    { s with
      mfaSecret := Function.update s.mfaSecret user secret }

end PredictATrade.Auth
