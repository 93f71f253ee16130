import Mathlib.Algebra.GroupWithZero.Nat
import PredictATrade.Lib.Table
import PredictATrade.Lib.Attempt

/-!
# `DeviceAuth.Schema` — licenses, devices, tokens and leases

The tables of the `licensing` schema that decide who may hold a token: licenses, the devices bound to
them, the credentials and refresh tokens issued to devices, and the session leases. A secret is
stored by its hash and found by it, so a refresh token *is* its hash here; the unique index on it is
checked when a token is inserted. What `crypto` draws for a call is an argument of the call.
-/

namespace PredictATrade.DeviceAuth
open Lib.Table Lib.Attempt

/-- An identifier of a row. -/
abbrev Id := ℕ

/-- The hash of a refresh token. -/
abbrev TokenHash := ℕ

/-- The hash of a fingerprint component. -/
abbrev ComponentHash := ℕ

/-- Times are in milliseconds. -/
abbrev Time := ℤ

/-- `interval 'n days'`. -/
def days (n : ℤ) : Time := n * 86400000

/-- `interval '45 seconds'`, the life of a lease. -/
def leaseTtl : Time := 45000

/-! ## Failures -/

/-- What a call throws: a Nest exception with its text, or a unique violation of the database. -/
inductive Failure where
  | notFound (text : String)
  | unauthorized (text : String)
  | conflict (text : String)
  | badRequest (text : String)
  | uniqueViolation
  deriving DecidableEq, Repr

/-! ## Rows -/

/-- The statuses of a license. -/
inductive LicenseStatus where
  | pending | active | suspended | expired | revoked | grace
  deriving DecidableEq, Repr

/-- The text of a status, for the refusal that names it. -/
def LicenseStatus.text : LicenseStatus → String
  | .pending => "PENDING"
  | .active => "ACTIVE"
  | .suspended => "SUSPENDED"
  | .expired => "EXPIRED"
  | .revoked => "REVOKED"
  | .grace => "GRACE"

/-- A row of the licenses. -/
structure License where
  id : Id
  licenseKey : String
  status : LicenseStatus
  maxDevices : ℤ := 1
  expiresAt : Option Time := none
  revokedAt : Option Time := none
  deriving DecidableEq, Repr

/-- The components of a hardware fingerprint, each by its peppered hash. -/
structure Fingerprint where
  machineGuid : Option ComponentHash := none
  systemUuid : Option ComponentHash := none
  motherboard : Option ComponentHash := none
  installationId : Option ComponentHash := none
  disk : Option ComponentHash := none
  deriving DecidableEq, Repr

/-- The transport role of a device. -/
inductive Role where
  | data | exec
  deriving DecidableEq, Repr

/-- A row of the devices. -/
structure Device where
  id : Id
  boundLicenseId : Option Id
  fingerprint : Fingerprint
  role : Option Role
  revokedAt : Option Time := none
  deriving DecidableEq, Repr

/-- A row of the device credentials. -/
structure Credential where
  deviceId : Id
  tokenFamily : Id
  expiresAt : Time
  revokedAt : Option Time := none
  deriving DecidableEq, Repr

/-- A row of the refresh tokens. -/
structure RefreshToken where
  tokenHash : TokenHash
  deviceId : Id
  tokenFamily : Id
  expiresAt : Time
  usedAt : Option Time := none
  revokedAt : Option Time := none
  deriving DecidableEq, Repr

/-- The statuses of a lease. -/
inductive LeaseStatus where
  | active | expired | revoked
  deriving DecidableEq, Repr

/-- A row of the leases. -/
structure Lease where
  id : Id
  licenseId : Id
  deviceId : Id
  sessionId : Id
  status : LeaseStatus
  leaseExpiresAt : Time
  revokedAt : Option Time := none
  deriving DecidableEq, Repr

/-- The tables. -/
structure Db where
  licenses : List License := []
  devices : List Device := []
  credentials : List Credential := []
  tokens : List RefreshToken := []
  leases : List Lease := []
  deriving DecidableEq, Repr

/-! ## Lookups and updates -/

/-- The license with this identifier. -/
def Db.license (db : Db) (id : Id) : Option License := db.licenses.find? (·.id == id)

/-- The license with this key. -/
def Db.licenseByKey (db : Db) (key : String) : Option License :=
  db.licenses.find? (·.licenseKey == key)

/-- The refresh token with this hash. -/
def Db.token (db : Db) (h : TokenHash) : Option RefreshToken := db.tokens.find? (·.tokenHash == h)

/-- The devices bound to a license. -/
def Db.boundTo (db : Db) (licenseId : Id) : List Device :=
  db.devices.filter (·.boundLicenseId == some licenseId)

/-- Those of them that are not revoked. -/
def Db.usableDevices (db : Db) (licenseId : Id) : List Device :=
  (db.boundTo licenseId).filter (·.revokedAt.isNone)

/-- An update of one license. -/
def Db.updateLicense (db : Db) (id : Id) (f : License → License) : Db :=
  { db with licenses := updateWhere (·.id == id) f db.licenses }

/-- An update of the devices that match. -/
def Db.updateDevices (db : Db) (p : Device → Bool) (f : Device → Device) : Db :=
  { db with devices := updateWhere p f db.devices }

/-- Revoke the credentials that meet `p` and are not revoked yet. -/
def Db.revokeCredentials (db : Db) (p : Credential → Bool) (now : Time) : Db :=
  { db with
    credentials := updateWhere (fun c => p c && c.revokedAt.isNone)
      (fun c => { c with revokedAt := some now }) db.credentials }

/-- Close the ACTIVE leases that meet `p`. -/
def Db.closeLeases (db : Db) (p : Lease → Bool) (status : LeaseStatus) (now : Time) : Db :=
  { db with
    leases := updateWhere (fun l => p l && l.status == .active)
      (fun l => { l with status := status, revokedAt := some now }) db.leases }

/-- `INSERT INTO licensing.refresh_tokens`, whose hash is unique. -/
def Db.insertToken (db : Db) (t : RefreshToken) : Except Failure Db :=
  if db.tokens.any (·.tokenHash == t.tokenHash) then .error .uniqueViolation
  else .ok { db with tokens := db.tokens ++ [t] }

/-- A new refresh token of a family, good for thirty days. -/
def newToken (h : TokenHash) (deviceId family : Id) (now : Time) : RefreshToken :=
  { tokenHash := h, deviceId := deviceId, tokenFamily := family, expiresAt := now + days 30 }

/-- A token that `refresh` takes: not used, not revoked, not expired. -/
def RefreshToken.isLive (t : RefreshToken) (now : Time) : Bool :=
  t.usedAt.isNone && t.revokedAt.isNone && !decide (t.expiresAt < now)

end PredictATrade.DeviceAuth
