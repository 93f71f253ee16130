import PredictATrade.DeviceAuth.Schema

/-!
# `DeviceAuth.Service` — activation, refresh, heartbeat and revocation

The methods of `device-auth.service.ts` and the license changes of `licensing.service.ts`. Each runs
at a time `now` and returns its response, or what it throws, with the tables it leaves behind.

`refresh` looks at the token's own row and at nothing else: neither the device's `revoked_at` nor the
status of its license is read. And neither `revokeDevice` nor `revokeLicense` touches the tokens.
-/

namespace PredictATrade.DeviceAuth
open Lib.Table Lib.Attempt

/-- The claims of a minted access token. -/
structure AccessToken where
  sub : Id
  role : Option Role
  sid : Option Id := none
  lic : Option Id := none
  deriving DecidableEq, Repr

/-! ## Matching a fingerprint -/

/-- The components with their weights, as the incoming and the stored fingerprint have them. -/
def weightedComponents (newFp storedFp : Fingerprint) :
    List (ℕ × Option ComponentHash × Option ComponentHash) :=
  [(25, newFp.machineGuid, storedFp.machineGuid), (25, newFp.systemUuid, storedFp.systemUuid),
   (20, newFp.motherboard, storedFp.motherboard),
   (20, newFp.installationId, storedFp.installationId), (10, newFp.disk, storedFp.disk)]

/-- `computeMatchScore`: the matching share of the components the stored device has, in percent,
rounded to the nearest. -/
def computeMatchScore (newFp storedFp : Fingerprint) : ℕ :=
  let present := (weightedComponents newFp storedFp).filter (·.2.2.isSome)
  let storedPresent := (present.map (·.1)).sum
  let matchedWeight := ((present.filter fun c => c.2.1 == c.2.2).map (·.1)).sum
  if storedPresent = 0 then 0 else (200 * matchedWeight + storedPresent) / (2 * storedPresent)

/-- `MATCH_THRESHOLD`. -/
def matchThreshold : ℕ := 75

/-- The first of the devices with the best score, if that reaches the threshold. -/
def bestMatch (fp : Fingerprint) (devices : List Device) : Option Device :=
  let best := devices.foldl (fun (acc : Option (Device × ℕ)) d =>
    let score := computeMatchScore fp d.fingerprint
    match acc with
    | none => some (d, score)
    | some (_, top) => if top < score then some (d, score) else acc) none
  match best with
  | some (d, score) => if matchThreshold ≤ score then some d else none
  | none => none

/-! ## activate -/

/-- The parts of an `ActivationRequest` that decide it. -/
structure ActivationRequest where
  licenseKey : String
  role : Option Role := none
  fingerprint : Fingerprint
  deriving DecidableEq, Repr

/-- What `crypto` draws for an activation. -/
structure Draws where
  deviceId : Id
  tokenFamily : Id
  refreshToken : TokenHash
  sessionId : Id
  leaseId : Id
  deriving DecidableEq, Repr

/-- What an activation returns. -/
structure ActivationResponse where
  deviceId : Id
  sessionId : Id
  refreshToken : TokenHash
  accessToken : AccessToken
  tokenFamily : Id
  fingerprintMatchScore : Option ℕ
  deriving DecidableEq, Repr

/-- Refuse a license that does not allow an activation. -/
def checkLicense (license : License) (now : Time) : Except Failure Unit :=
  if license.status = .revoked then throw (.unauthorized "License revoked")
  else if license.status = .suspended then throw (.unauthorized "License suspended")
  else if license.status = .expired ∨ (license.expiresAt.any fun t => decide (t < now)) = true then
    throw (.unauthorized "License expired")
  else if license.status ≠ .active ∧ license.status ≠ .pending then
    throw (.unauthorized s!"License status: {license.status.text}")
  else pure ()

/-- How many devices the plan of a license has room for. -/
def License.deviceLimit (license : License) : ℤ :=
  if license.maxDevices = 0 then 1 else license.maxDevices

/-- Bind the request to a device of the license: a known one that matches, or a new one while the
plan has room. The flag says that the device is new. -/
def bindDevice (license : License) (req : ActivationRequest) (draws : Draws) (db : Db) :
    Except Failure ((Id × Bool) × Db) :=
  match bestMatch req.fingerprint (db.usableDevices license.id) with
  | some d =>
    pure ((d.id, false), db.updateDevices (·.id == d.id) fun d => { d with role := req.role })
  | none =>
    if (db.usableDevices license.id).isEmpty ∨
        ((db.usableDevices license.id).length : ℤ) < license.deviceLimit then
      if db.devices.any (·.id == draws.deviceId) then throw .uniqueViolation
      else
        let device : Device :=
          { id := draws.deviceId, boundLicenseId := some license.id,
            fingerprint := req.fingerprint, role := req.role }
        pure ((draws.deviceId, true),
          { db with devices := db.devices ++ [device] }.updateLicense license.id
            fun l => { l with status := .active })
    else throw (.conflict "DEVICE_LIMIT_EXCEEDED")

/-- Open a session for the device: a new lease, in place of the active ones of the license. -/
def Db.openLease (db : Db) (license : License) (deviceId : Id) (draws : Draws) (now : Time) :
    Except Failure Db :=
  let db := db.closeLeases (·.licenseId == license.id) .expired now
  if db.leases.any (·.id == draws.leaseId) then .error .uniqueViolation
  else
    .ok { db with
      leases := db.leases ++
        [{ id := draws.leaseId, licenseId := license.id, deviceId := deviceId,
           sessionId := draws.sessionId, status := .active, leaseExpiresAt := now + leaseTtl }] }

/-- Replace the device's credential by one of a new family. -/
def Db.issueCredential (db : Db) (deviceId family : Id) (now : Time) : Db :=
  let db := db.revokeCredentials (·.deviceId == deviceId) now
  { db with
    credentials := db.credentials ++
      [{ deviceId := deviceId, tokenFamily := family, expiresAt := now + days 30 }] }

/-- The transaction of `activate`. -/
def activateTx (now : Time) (req : ActivationRequest) (draws : Draws) (db : Db) :
    Except Failure (ActivationResponse × Db) := do
  match db.licenseByKey req.licenseKey with
  | none => throw (.notFound "License not found")
  | some license =>
    checkLicense license now
    let ((deviceId, isNewDevice), db) ← bindDevice license req draws db
    let db ← (db.issueCredential deviceId draws.tokenFamily now).insertToken
      (newToken draws.refreshToken deviceId draws.tokenFamily now)
    let db ← db.openLease license deviceId draws now
    pure
      ({ deviceId := deviceId
         sessionId := draws.sessionId
         refreshToken := draws.refreshToken
         accessToken := ⟨deviceId, req.role, some draws.sessionId, some license.id⟩
         tokenFamily := draws.tokenFamily
         fingerprintMatchScore := if isNewDevice then some 100 else none }, db)

/-- `activate`. -/
def activate (now : Time) (req : ActivationRequest) (draws : Draws) :
    Db → Except Failure ActivationResponse × Db :=
  transaction (activateTx now req draws)

/-! ## refresh -/

/-- What a refresh returns. -/
structure RefreshResponse where
  accessToken : AccessToken
  refreshToken : TokenHash
  deriving DecidableEq, Repr

/-- The role that a refreshed token carries: the one on the device's row, `exec` by default. -/
def Db.deviceRole (db : Db) (deviceId : Id) : Role :=
  match (db.devices.find? (·.id == deviceId)).bind (·.role) with
  | some .data => .data
  | _ => .exec

/-- What a reused token sets off: its family's tokens and credentials and its device's active leases
are revoked. -/
def Db.revokeFamily (db : Db) (token : RefreshToken) (now : Time) : Db :=
  let db : Db :=
    { db with
      tokens := updateWhere (fun t => t.tokenFamily == token.tokenFamily && t.revokedAt.isNone)
        (fun t => { t with revokedAt := some now }) db.tokens }
  (db.revokeCredentials (·.tokenFamily == token.tokenFamily) now).closeLeases
    (·.deviceId == token.deviceId) .revoked now

/-- Rotate a token: mark it used, issue `drawn` in its place, renew the device's active leases. -/
def rotate (now : Time) (token : RefreshToken) (drawn : TokenHash) (db : Db) :
    Except Failure (RefreshResponse × Db) := do
  let db : Db :=
    { db with
      tokens := updateWhere (·.tokenHash == token.tokenHash)
        (fun t => { t with usedAt := some now }) db.tokens }
  let db ← db.insertToken (newToken drawn token.deviceId token.tokenFamily now)
  let db : Db :=
    { db with
      leases := updateWhere (fun l => l.deviceId == token.deviceId && l.status == .active)
        (fun l => { l with leaseExpiresAt := now + leaseTtl }) db.leases }
  pure (⟨⟨token.deviceId, some (db.deviceRole token.deviceId), none, none⟩, drawn⟩, db)

/-- `refresh`. The device that the caller names, if any, must be the token's; the role it sends is
not read. -/
def refresh (now : Time) (h : TokenHash) (deviceId : Option Id) (drawn : TokenHash) (db : Db) :
    Except Failure RefreshResponse × Db :=
  match db.token h with
  | none => (.error (.unauthorized "Invalid refresh token"), db)
  | some token =>
    if token.usedAt.isSome || token.revokedAt.isSome then
      -- committed before the exception is thrown
      (.error (.unauthorized "Session invalidated due to token reuse"),
        db.revokeFamily token now)
    else if token.expiresAt < now then (.error (.unauthorized "Refresh token expired"), db)
    else if deviceId.any (· != token.deviceId) then (.error (.unauthorized "Device mismatch"), db)
    else transaction (rotate now token drawn) db

/-! ## heartbeat -/

/-- `heartbeat`: renew the lease of a session and report the status of its license. -/
def heartbeat (now : Time) (deviceId sessionId : Id) (db : Db) :
    Except Failure LicenseStatus × Db :=
  match db.leases.find? fun l =>
      l.deviceId == deviceId && l.sessionId == sessionId && (db.license l.licenseId).isSome with
  | none => (.error (.unauthorized "Session not found"), db)
  | some lease =>
    match db.license lease.licenseId with
    | none => (.error (.unauthorized "Session not found"), db)
    | some license =>
      if lease.status = .revoked then (.error (.unauthorized "Session revoked"), db)
      else
        (.ok license.status,
          { db with
            leases := updateWhere (·.id == lease.id)
              (fun l => { l with leaseExpiresAt := now + leaseTtl, status := .active })
              db.leases })

/-! ## Revocation and the status of a license -/

/-- `revokeDevice` of the device service: the device, its active leases and its credentials. -/
def revokeDevice (now : Time) (deviceId : Id) (db : Db) : Db :=
  ((db.updateDevices (·.id == deviceId) fun d => { d with revokedAt := some now }).closeLeases
    (·.deviceId == deviceId) .revoked now).revokeCredentials (·.deviceId == deviceId) now

/-- An update of a license that must exist. -/
def changeLicense (id : Id) (f : Db → Db) (db : Db) : Except Failure Unit × Db :=
  match db.license id with
  | none => (.error (.notFound "License not found"), db)
  | some _ => (.ok (), f db)

/-- `suspendLicense`, refused once the license is revoked. -/
def suspendLicense (id : Id) (db : Db) : Except Failure Unit × Db :=
  match db.license id with
  | none => (.error (.notFound "License not found"), db)
  | some license =>
    if license.revokedAt.isSome then
      (.error (.badRequest "License is revoked and cannot be suspended"), db)
    else (.ok (), db.updateLicense id fun l => { l with status := .suspended })

/-- `deactivateLicense`. -/
def deactivateLicense (id : Id) : Db → Except Failure Unit × Db :=
  changeLicense id fun db => db.updateLicense id fun l => { l with status := .suspended }

/-- `revokeLicense`: its status and its time of revocation, and nothing else. -/
def revokeLicense (now : Time) (id : Id) : Db → Except Failure Unit × Db :=
  changeLicense id fun db =>
    db.updateLicense id fun l => { l with status := .revoked, revokedAt := some now }

/-- `activateLicense`: a clean re-enable, which also un-revokes the devices of the license. -/
def activateLicense (now : Time) (id : Id) : Db → Except Failure Unit × Db :=
  changeLicense id fun db =>
    (db.updateLicense id fun l =>
        { l with
          status := .active
          revokedAt := none
          expiresAt := some (max (l.expiresAt.getD now) (now + days 30)) }).updateDevices
      (fun d => d.boundLicenseId == some id && d.revokedAt.isSome)
      fun d => { d with revokedAt := none }

/-- `renewLicense`, for 365 days unless a positive number of days is given. -/
def renewLicense (now : Time) (id : Id) (validDays : Option ℤ) : Db → Except Failure Unit × Db :=
  let n := match validDays with
    | some n => if 0 < n then n else 365
    | none => 365
  changeLicense id fun db =>
    db.updateLicense id fun l =>
      { l with
        status := .active
        revokedAt := none
        expiresAt := some (max (l.expiresAt.getD now) now + days n) }

/-- `forceLogoutLicense`: revoke every device bound to the license. -/
def forceLogoutLicense (now : Time) (id : Id) : Db → Except Failure Unit × Db :=
  changeLicense id fun db =>
    db.updateDevices (·.boundLicenseId == some id) fun d => { d with revokedAt := some now }

end PredictATrade.DeviceAuth
