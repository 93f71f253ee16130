import Mathlib.Data.Int.Notation
import Mathlib.Data.Nat.Notation
import PredictATrade.Lib.ReadCommitted

/-!
# `Auth.Schema` — the tables of the authentication service

The columns of `iam.users`, `iam.sessions`, `iam.trusted_devices` and `iam.login_events` that
`auth.service.ts` reads, and the authenticators of `iam.mfa_methods`. Users and sessions are rows
that transactions lock; trusted devices and login events are only ever written by single statements,
the completion event of a reset apart, which comes with its transaction's commit.

UUIDs, opaque tokens and the `jti` of a reset link are numbers drawn from one counter, so that no two
of them are ever the same. A token and its hash are one value. Times are milliseconds.
-/

namespace PredictATrade.Auth

open Lib.ReadCommitted

/-! ## Constants -/

/-- How many wrong codes a challenge takes. -/
def maxOtpAttempts : ℕ := 5

/-- How many failed logins lock an account. -/
def maxLoginFailures : ℕ := 5

/-- Minutes in milliseconds. -/
def minutes (n : ℤ) : ℤ := n * 60000

/-- Days in milliseconds. -/
def days (n : ℤ) : ℤ := n * 86400000

/-- How long a challenge can be answered. -/
def otpChallengeExpiry : ℤ := minutes 10

/-- How long an account stays locked. -/
def lockout : ℤ := minutes 15

/-- How long a refresh token can be used. -/
def refreshTokenExpiry : ℤ := days 7

/-- How long a reset token can be used. -/
def resetTokenExpiry : ℤ := minutes 30

/-- How long a device is trusted. -/
def trustedDeviceExpiry : ℤ := days 30

/-! ## Rows -/

/-- A user. -/
abbrev UserId := ℕ

/-- The key of a session. -/
abbrev SessionId := ℕ

/-- A call of the service. -/
abbrev CallId := ℕ

/-- The statuses of an account. -/
inductive UserStatus where
  | pending | active | suspended | locked | deleted
  deriving DecidableEq, Repr

/-- A row of the users. -/
structure User where
  email : String
  passwordHash : String
  status : UserStatus
  failedLoginCount : ℕ := 0
  lockedUntil : Option ℤ := none
  deriving DecidableEq, Repr

/-- A row of the sessions. -/
structure Session where
  userId : UserId
  refreshTokenHash : ℕ
  tokenFamily : Option ℕ
  expiresAt : ℤ
  revokedAt : Option ℤ := none
  deriving DecidableEq, Repr

/-- A row of the trusted devices. -/
structure TrustedDevice where
  userId : UserId
  tokenHash : ℕ
  expiresAt : ℤ
  revokedAt : Option ℤ := none
  deriving DecidableEq, Repr

/-- The events that the service reads back, with the metadata it reads. -/
inductive EventType where
  | mfaChallenge (challengeId : ℕ)
  | mfaFailed
  | passwordResetCompleted (jti : ℕ)
  deriving DecidableEq, Repr

/-- A row of the login events. -/
structure LoginEvent where
  userId : UserId
  eventType : EventType
  createdAt : ℤ
  deriving DecidableEq, Repr

/-- The payload of a signed `password_reset` token. -/
structure ResetToken where
  sub : UserId
  jti : ℕ
  expiresAt : ℤ
  deriving DecidableEq, Repr

/-! ## Conditions on sessions -/

/-- The conditions of the statements that revoke or delete many sessions. The first three ask for
`revoked_at IS NULL`. -/
inductive SessionQuery where
  | family (tokenFamily : ℕ)
  | user (userId : UserId)
  | token (userId : UserId) (refreshTokenHash : ℕ)
  | allOf (userId : UserId)
  deriving DecidableEq, Repr

/-- The session is one that the statement updates. -/
def SessionQuery.matches : SessionQuery → Session → Bool
  | .family f, r => r.tokenFamily = some f && r.revokedAt.isNone
  | .user u, r => r.userId = u && r.revokedAt.isNone
  | .token u h, r => r.userId = u && r.refreshTokenHash = h && r.revokedAt.isNone
  | .allOf u, r => r.userId = u

/-- The session, revoked. -/
def Session.revoke (r : Session) (now : ℤ) : Session :=
  { r with
    revokedAt := some now }

/-- What the statement makes of a row: `DELETE` for `allOf`, else `SET revoked_at = now()`. -/
def SessionQuery.apply (now : ℤ) : SessionQuery → Session → Option Session
  | .allOf _, _ => none
  | _, r => some (r.revoke now)

/-- A row that no refresh will ever accept again. -/
def Spent (v : Option Session) : Prop := ∀ r, v = some r → r.revokedAt ≠ none

end PredictATrade.Auth
