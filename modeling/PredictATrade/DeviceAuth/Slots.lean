import Mathlib.Data.Rat.Defs
import PredictATrade.DeviceAuth.Service

/-!
# `DeviceAuth.Slots` — the statements that fill and empty the device slots of a license

`registerDevice`, `activate`, `activateLicense`, `ensureActiveLicenseForSubscription`, `renewLicense`,
`changeLicensePlan`, `resetLicense`, `forceLogoutLicense` and `revokeDevice`, one SQL statement at a
time, over the licenses and the devices. `activate` and `changeLicensePlan` are transactions: they
lock the row of their license first, and what they write is seen by others when they commit. All
others commit statement by statement.

A statement that needs the row of a license waits while another transaction has it locked: every
`UPDATE` of it, and the `INSERT` of a device that refers to it.
-/

namespace PredictATrade.DeviceAuth.Slots

open Lib.Table Lib.Attempt

/-! ## Tables -/

/-- A license with the columns that provisioning reads. -/
structure LicenseRow extends License where
  userId : Id
  planId : Id
  subscriptionId : Option Id := none
  issuedAt : Time
  deriving DecidableEq, Repr

/-- A device with the columns that activation reads. -/
structure DeviceRow extends Device where
  userId : Id
  fingerprintHash : String := ""
  deletedAt : Option Time := none
  deriving DecidableEq, Repr

/-- A row of the plans. -/
structure Plan where
  id : Id
  maxDevices : Option ℤ := none
  deriving DecidableEq, Repr

/-- A row of the subscriptions. -/
structure Subscription where
  id : Id
  userId : Id
  planId : Id
  deriving DecidableEq, Repr

/-- The tables of billing, which the methods read. -/
structure Billing where
  plans : List Plan := []
  subscriptions : List Subscription := []

/-- The licenses, with their primary key, and the devices. A device is bound to a license that
exists. -/
structure Tables where
  licenses : List LicenseRow
  devices : List DeviceRow
  key : (licenses.map (·.id)).Nodup
  bound : ∀ d ∈ devices, ∀ l ∈ d.boundLicenseId, l ∈ licenses.map (·.id)

/-- What is fixed for a deployment: how `computeFingerprintHash` digests the components, and whether
`control.plans` has the column `max_devices`, which no migration adds. -/
structure Env where
  computeFingerprintHash : Fingerprint → String
  plansHaveMaxDevices : Bool

namespace DeviceRow

/-- Bound to the license. -/
def boundTo (license : Id) (d : DeviceRow) : Bool := d.boundLicenseId == some license

/-- Bound to the license and not revoked. -/
def usableOn (license : Id) (d : DeviceRow) : Bool := d.boundTo license && d.revokedAt.isNone

end DeviceRow

namespace Tables

variable (t : Tables)

/-- The license with this identifier. -/
def license (id : Id) : Option LicenseRow := t.licenses.find? (·.id == id)

/-- The rows that `activate` selects: the devices of the license that are not revoked. -/
def usableDevices (license : Id) : List DeviceRow := t.devices.filter (·.usableOn license)

/-- The number of them. -/
def usable (license : Id) : ℕ := t.devices.countP (·.usableOn license)

/-- The number of devices bound to the license, revoked or not. -/
def boundTo (license : Id) : ℕ := t.devices.countP (·.boundTo license)

/-- The `count(*)` of `registerDevice`. -/
def registered (license : Id) : ℕ :=
  t.devices.countP fun d => d.usableOn license && d.deletedAt.isNone

/-- Is the primary key of `licensing.devices` taken? -/
def hasDevice (id : Id) : Bool := t.devices.any (·.id == id)

/-- Is the primary key of `licensing.licenses` taken, or the license key? -/
def hasLicense (id : Id) (key : String) : Bool :=
  t.licenses.any fun l => l.id == id || l.licenseKey == key

/-! ## Writes -/

/-- An update of one license that keeps its key. -/
def updateLicense (id : Id) (f : LicenseRow → LicenseRow) (hf : ∀ l, (f l).id = l.id) : Tables where
  licenses := updateWhere (·.id == id) f t.licenses
  devices := t.devices
  key := by
    rw [map_updateWhere hf]
    exact t.key
  bound d hd l hl := by
    rw [map_updateWhere hf]
    exact t.bound d hd l hl

/-- An update of the devices that match, which binds none. -/
def updateDevices (p : DeviceRow → Bool) (f : DeviceRow → DeviceRow)
    (hf : ∀ d, ∀ l ∈ (f d).boundLicenseId, l ∈ d.boundLicenseId) : Tables where
  licenses := t.licenses
  devices := updateWhere p f t.devices
  key := t.key
  bound d hd l hl := by
    obtain ⟨e, he, rfl⟩ := mem_updateWhere.mp hd
    refine t.bound e he l ?_
    by_cases hp : p e = true
    · rw [if_pos hp] at hl
      exact hf e l hl
    · rwa [if_neg hp] at hl

/-- `INSERT INTO licensing.devices`: the primary key must be new, and the license must exist. -/
def insertDevice (d : DeviceRow) : Option Tables :=
  if t.hasDevice d.id then none
  else if h : ∀ l ∈ d.boundLicenseId, l ∈ t.licenses.map (·.id) then
    some
      { licenses := t.licenses
        devices := t.devices ++ [d]
        key := t.key
        bound := by
          intro e he l hl
          rcases List.mem_append.mp he with he | he
          · exact t.bound e he l hl
          · rw [List.mem_singleton.mp he] at hl
            exact h l hl }
  else none

/-- `INSERT INTO licensing.licenses`, whose primary key and license key are unique. -/
def insertLicense (l : LicenseRow) : Option Tables :=
  if hnew : t.hasLicense l.id l.licenseKey = true then none
  else
    some
      { licenses := t.licenses ++ [l]
        devices := t.devices
        key := by
          rw [List.map_append]
          refine List.nodup_append.mpr ⟨t.key, List.nodup_singleton _, ?_⟩
          rintro a ha b hb rfl
          obtain ⟨m, hm, heq⟩ := List.mem_map.mp ha
          rw [List.map_singleton, List.mem_singleton] at hb
          refine hnew (List.any_eq_true.mpr ⟨m, hm, ?_⟩)
          rw [beq_iff_eq.mpr (heq.trans hb)]
          rfl
        bound := by
          intro d hd k hk
          rw [List.map_append]
          exact List.mem_append_left _ (t.bound d hd k hk) }

/-- `activateLicense` and `ensureActiveLicenseForSubscription`: un-revoke the devices of a license. -/
def unrevoke (license : Id) : Tables :=
  t.updateDevices (fun d => d.boundTo license && d.revokedAt.isSome)
    (fun d => { d with revokedAt := none }) fun _ _ h => h

/-- `resetLicense`: unbind the devices of a license. -/
def unbind (license : Id) : Tables :=
  t.updateDevices (·.boundTo license) (fun d => { d with boundLicenseId := none })
    fun _ _ h => nomatch h

/-- `forceLogoutLicense` and `revokeDevice`: revoke the devices that meet `p`. -/
def revoke (p : DeviceRow → Bool) (now : Time) : Tables :=
  t.updateDevices p (fun d => { d with revokedAt := some now }) fun _ _ h => h

end Tables

/-! ## Calls -/

/-- What `registerDevice` is called with. -/
structure RegisterBody where
  userId : Id
  fingerprintHash : String := ""
  fingerprintComponents : Fingerprint := {}
  licenseKey : String := ""
  deriving DecidableEq, Repr

/-- The body of `changeLicensePlan`; a `max_devices` that is no finite number is `none`. -/
structure ChangePlanBody where
  planId : Option Id
  maxDevices : Option ℚ := none

/-- Where a `registerDevice` call stands. -/
inductive RegisterAt where
  | lookup
  | update (device : Id)
  | license
  | count (license : Id) (maxDevices : ℤ)
  | insert (license : Option Id)

/-- Where an `activate` call stands; at `commit` it binds a new device, or reuses one. -/
inductive ActivateAt where
  | lock
  | devices (license : LicenseRow)
  | commit (license : LicenseRow) (reused : Option Id)

/-- How far `activateLicense` is. -/
inductive ActivateLicenseAt where
  | read
  | update
  | unrevoke

/-- How far `ensureActiveLicenseForSubscription` is. -/
inductive EnsureAt where
  | subscription
  | plan (userId planId : Id)
  | existing (userId : Id) (plan : Plan)
  | syncPlan (license : Id) (plan : Plan)
  | syncSubscription (license : Id)
  | reactivate (license : Id) (plan : Plan)
  | unrevoke (license : Id)
  | issue (userId : Id) (plan : Plan)

/-- `renewLicense` counts from the expiry it has read, or from now. -/
inductive RenewAt where
  | read
  | update (fromExpiry : Bool)

/-- How far `changeLicensePlan` is. -/
inductive ChangePlanAt where
  | lock
  | plan (license planId : Id)
  | commit (license planId : Id)

/-- How far `resetLicense` is. -/
inductive ResetAt where
  | read
  | unbind

/-- How far `forceLogoutLicense` is. -/
inductive ForceLogoutAt where
  | read
  | revoke

/-- What a call returns. -/
inductive Answer where
  | device (id : Id)
  | license (id : Id) (action : String)
  | success
  | null
  deriving DecidableEq, Repr

/-- A call and its next statement. `drawn` is what `crypto.randomUUID` draws for it. -/
inductive Call where
  | registerDevice (body : RegisterBody) (drawn : Id) (pc : RegisterAt)
  | activate (req : ActivationRequest) (drawn : Id) (pc : ActivateAt)
  | activateLicense (id : Id) (pc : ActivateLicenseAt)
  | ensureActive (subscription drawn : Id) (licenseKey : String) (pc : EnsureAt)
  | renewLicense (id : Id) (validDays : Option ℤ) (pc : RenewAt)
  | changeLicensePlan (id : Id) (body : ChangePlanBody) (pc : ChangePlanAt)
  | resetLicense (id : Id) (pc : ResetAt)
  | forceLogoutLicense (id : Id) (pc : ForceLogoutAt)
  | revokeDevice (id : Id)
  | done (result : Except Failure Answer)
  /-- The database refused a statement, or the connection is lost. -/
  | aborted

/-- The license whose row the open transaction of a call has locked. -/
def Call.holds : Call → Option Id
  | .activate _ _ (.devices l) | .activate _ _ (.commit l _) => some l.id
  | .changeLicensePlan _ _ (.plan l _) | .changeLicensePlan _ _ (.commit l _) => some l
  | _ => none

/-! ## Statements

Each executes one statement of its method, at `now`, while `locked` says which licenses others have
locked. The result is the tables that the others see from then on and where the call stands; `none`
is a call that has to wait.
-/

section

variable (env : Env) (now : Time) (billing : Billing) (locked : Id → Bool) (t : Tables)

/-- `registerDevice`. A device of the user with the same fingerprint is updated, and no license is
looked at. Else the license, the number of its devices and the new row are three statements. -/
def registerDevice (body : RegisterBody) (drawn : Id) : RegisterAt → Option (Tables × Call)
  | .lookup =>
    let known := t.devices.find? fun d =>
      d.userId == body.userId && d.fingerprintHash == body.fingerprintHash && d.deletedAt.isNone
    match if body.fingerprintHash = "" then none else known with
    | some d => some (t, .registerDevice body drawn (.update d.id))
    | none =>
      some (t, .registerDevice body drawn (if body.licenseKey = "" then .insert none else .license))
  | .update device =>
    some (t.updateDevices (fun d => d.id == device && d.userId == body.userId)
        (fun d => { d with fingerprint := body.fingerprintComponents }) fun _ _ h => h,
      .done (.ok (.device device)))
  | .license =>
    match t.licenses.find? fun l => l.licenseKey == body.licenseKey && l.userId == body.userId &&
        l.status == .active && l.revokedAt.isNone with
    | none => some (t, .done (.error (.badRequest "Invalid or inactive license key")))
    | some l => some (t, .registerDevice body drawn (.count l.id l.maxDevices))
  | .count license maxDevices =>
    -- the check; the insert is another statement, and nothing is locked in between
    if maxDevices ≤ t.registered license then
      some (t, .done (.error (.badRequest "Maximum device limit reached for this license")))
    else some (t, .registerDevice body drawn (.insert (some license)))
  | .insert license =>
    -- the check of the foreign key waits for the row of the license
    if license.any locked then none
    else
      match t.insertDevice
          { id := drawn, boundLicenseId := license, fingerprint := body.fingerprintComponents,
            role := none, userId := body.userId, fingerprintHash := body.fingerprintHash } with
      | none => some (t, .aborted)
      | some t' => some (t', .done (.ok (.device drawn)))

/-- The device of `rows` that an activation reuses; `none` is a new device, while the plan has
room. -/
def chooseDevice (license : License) (fp : Fingerprint) (rows : List Device) :
    Except Failure (Option Id) :=
  match bestMatch fp rows with
  | some d => .ok (some d.id)
  | none =>
    if rows.isEmpty ∨ (rows.length : ℤ) < license.deviceLimit then .ok none
    else .error (.conflict "DEVICE_LIMIT_EXCEEDED")

/-- The device that an activation binds. -/
def newDevice (license : LicenseRow) (req : ActivationRequest) (drawn : Id) : DeviceRow :=
  { id := drawn, boundLicenseId := some license.id, fingerprint := req.fingerprint,
    role := req.role, userId := license.userId,
    fingerprintHash := env.computeFingerprintHash req.fingerprint }

/-- `activate`: lock the license, select its devices, write. -/
def activate (req : ActivationRequest) (drawn : Id) : ActivateAt → Option (Tables × Call)
  | .lock =>
    match t.licenses.find? (·.licenseKey == req.licenseKey) with
    | none => some (t, .done (.error (.notFound "License not found")))
    | some l =>
      -- `FOR UPDATE`
      if locked l.id then none
      else
        match checkLicense l.toLicense now with
        | .error e => some (t, .done (.error e))
        | .ok () => some (t, .activate req drawn (.devices l))
  | .devices l =>
    match chooseDevice l.toLicense req.fingerprint
        ((t.usableDevices l.id).map (·.toDevice)) with
    | .error e => some (t, .done (.error e))
    | .ok reused => some (t, .activate req drawn (.commit l reused))
  | .commit _ (some device) =>
    some (t.updateDevices (·.id == device) (fun d => { d with role := req.role }) fun _ _ h => h,
      .done (.ok (.device device)))
  | .commit l none =>
    match t.insertDevice (newDevice env l req drawn) with
    | none => some (t, .aborted)
    | some t' =>
      some (t'.updateLicense l.id (fun l => { l with status := .active }) fun _ => rfl,
        .done (.ok (.device drawn)))

/-- `activateLicense`, and after it the devices of the license. -/
def activateLicense (id : Id) : ActivateLicenseAt → Option (Tables × Call)
  | .read =>
    match t.license id with
    | none => some (t, .done (.error (.notFound "License not found")))
    | some _ => some (t, .activateLicense id .update)
  | .update =>
    if locked id then none
    else
      some (t.updateLicense id (fun l =>
          { l with
            status := .active
            revokedAt := none
            expiresAt := some (max (l.expiresAt.getD now) (now + days 30)) }) fun _ => rfl,
        .activateLicense id .unrevoke)
  | .unrevoke => some (t.unrevoke id, .done (.ok .success))

/-- The license of a user that `ensureActiveLicenseForSubscription` looks at: an ACTIVE one rather
than another, then the one issued last. -/
def existingLicense (userId : Id) : Option LicenseRow :=
  (t.licenses.filter (·.userId == userId)).foldl (fun acc l =>
    match acc with
    | none => some l
    | some m =>
      if l.status = .active ∧ m.status ≠ .active ∨
          ((l.status = .active ↔ m.status = .active) ∧ m.issuedAt < l.issuedAt) then some l
      else acc) none

/-- `ensureActiveLicenseForSubscription`. -/
def ensureActive (subscription drawn : Id) (licenseKey : String) :
    EnsureAt → Option (Tables × Call)
  | .subscription =>
    match billing.subscriptions.find? fun s =>
        s.id == subscription && billing.plans.any (·.id == s.planId) with
    | none => some (t, .done (.ok .null))
    | some s => some (t, .ensureActive subscription drawn licenseKey (.plan s.userId s.planId))
  | .plan userId planId =>
    if env.plansHaveMaxDevices then
      match billing.plans.find? (·.id == planId) with
      | none => some (t, .done (.ok .null))
      | some p => some (t, .ensureActive subscription drawn licenseKey (.existing userId p))
    -- the column does not exist
    else some (t, .aborted)
  | .existing userId p =>
    match existingLicense t userId with
    | none =>
      -- case 3: the first license
      some (t, .ensureActive subscription drawn licenseKey (.issue userId p))
    | some l =>
      if l.status = .active then
        -- case 1: the active license follows the plan, and keeps its slots
        if l.planId ≠ p.id then
          some (t, .ensureActive subscription drawn licenseKey (.syncPlan l.id p))
        else if l.subscriptionId ≠ some subscription then
          some (t, .ensureActive subscription drawn licenseKey (.syncSubscription l.id))
        else some (t, .done (.ok (.license l.id "already_active")))
      -- case 2: a license that is not active is activated again
      else some (t, .ensureActive subscription drawn licenseKey (.reactivate l.id p))
  | .syncPlan license p =>
    if locked license then none
    else
      some (t.updateLicense license (fun l =>
          { l with planId := p.id, subscriptionId := some subscription }) fun _ => rfl,
        .done (.ok (.license license "plan_synced")))
  | .syncSubscription license =>
    if locked license then none
    else
      some (t.updateLicense license (fun l => { l with subscriptionId := some subscription })
          fun _ => rfl,
        .done (.ok (.license license "already_active")))
  | .reactivate license p =>
    if locked license then none
    else
      some (t.updateLicense license (fun l =>
          { l with
            status := .active
            planId := p.id
            subscriptionId := some subscription
            revokedAt := none
            expiresAt := some (max (l.expiresAt.getD (now + days 30)) (now + days 30)) })
          fun _ => rfl,
        .ensureActive subscription drawn licenseKey (.unrevoke license))
  | .unrevoke license => some (t.unrevoke license, .done (.ok (.license license "reactivated")))
  | .issue userId p =>
    match t.insertLicense
        { id := drawn, licenseKey := licenseKey, status := .active,
          maxDevices := p.maxDevices.getD 1, expiresAt := some (now + days 30), userId := userId,
          planId := p.id, subscriptionId := some subscription, issuedAt := now } with
    | none => some (t, .aborted)
    | some t' => some (t', .done (.ok (.license drawn "issued")))

/-- `renewLicense`, for 365 days unless a positive number of days is given. -/
def renewLicense (id : Id) (validDays : Option ℤ) : RenewAt → Option (Tables × Call)
  | .read =>
    match t.license id with
    | none => some (t, .done (.error (.notFound "License not found")))
    | some l =>
      some (t, .renewLicense id validDays (.update (l.expiresAt.any fun e => decide (now < e))))
  | .update fromExpiry =>
    let n := match validDays with
      | some n => if 0 < n then n else 365
      | none => 365
    if locked id then none
    else
      some (t.updateLicense id (fun l =>
          { l with
            status := .active
            revokedAt := none
            expiresAt :=
              some ((if fromExpiry then max (l.expiresAt.getD now) now else now) + days n) })
          fun _ => rfl,
        .done (.ok .success))

/-- The `max_devices` that `changeLicensePlan` writes: a positive number, rounded down. -/
def ChangePlanBody.slots (body : ChangePlanBody) : Option ℤ :=
  match body.maxDevices with
  | some q => if 0 < q then some q.floor else none
  | none => none

/-- The largest `INTEGER`. -/
def int4Max : ℤ := 2147483647

/-- `changeLicensePlan`: lock the license, look the plan up, write. -/
def changeLicensePlan (id : Id) (body : ChangePlanBody) : ChangePlanAt → Option (Tables × Call)
  | .lock =>
    match body.planId with
    | none => some (t, .done (.error (.badRequest "plan_id is required")))
    | some planId =>
      match t.license id with
      | none => some (t, .done (.error (.notFound "License not found")))
      | some l =>
        if locked id then none
        else if l.revokedAt.isSome then
          some (t, .done (.error
            (.badRequest "License is revoked — reissue a new license instead")))
        else if l.planId = planId then
          some (t, .done (.error (.badRequest "License is already on that plan")))
        else some (t, .changeLicensePlan id body (.plan id planId))
  | .plan license planId =>
    if billing.plans.any (·.id == planId) then
      some (t, .changeLicensePlan id body (.commit license planId))
    else some (t, .done (.error (.badRequest "plan_id does not exist")))
  | .commit license planId =>
    -- the column takes no larger number, and the transaction is rolled back
    if body.slots.any (int4Max < ·) then some (t, .aborted)
    else
      some (t.updateLicense license (fun l =>
          { l with planId := planId, maxDevices := body.slots.getD l.maxDevices }) fun _ => rfl,
        .done (.ok .success))

/-- `resetLicense`. -/
def resetLicense (id : Id) : ResetAt → Option (Tables × Call)
  | .read =>
    match t.license id with
    | none => some (t, .done (.error (.notFound "License not found")))
    | some _ => some (t, .resetLicense id .unbind)
  | .unbind => some (t.unbind id, .done (.ok .success))

/-- `forceLogoutLicense`. -/
def forceLogoutLicense (id : Id) : ForceLogoutAt → Option (Tables × Call)
  | .read =>
    match t.license id with
    | none => some (t, .done (.error (.notFound "License not found")))
    | some _ => some (t, .forceLogoutLicense id .revoke)
  | .revoke => some (t.revoke (fun d => d.boundTo id && d.deletedAt.isNone) now, .done (.ok .success))

/-- The next statement of a call. -/
def advance : Call → Option (Tables × Call)
  | .registerDevice body drawn pc => registerDevice locked t body drawn pc
  | .activate req drawn pc => activate env now locked t req drawn pc
  | .activateLicense id pc => activateLicense now locked t id pc
  | .ensureActive subscription drawn licenseKey pc =>
    ensureActive env now billing locked t subscription drawn licenseKey pc
  | .renewLicense id validDays pc => renewLicense now locked t id validDays pc
  | .changeLicensePlan id body pc => changeLicensePlan billing locked t id body pc
  | .resetLicense id pc => resetLicense t id pc
  | .forceLogoutLicense id pc => forceLogoutLicense now t id pc
  | .revokeDevice id => some (t.revoke (·.id == id) now, .done (.ok .success))
  | .done _ | .aborted => none

end

/-! ## Without interleaving -/

namespace Tables

variable {t t' : Tables}

/-- The licenses and the devices, as `Service` has them. -/
def db (t : Tables) : Db :=
  { licenses := t.licenses.map (·.toLicense), devices := t.devices.map (·.toDevice) }

/-- `activate` selects the devices that `bindDevice` looks at. -/
theorem usableDevices_db (k : Id) :
    (t.usableDevices k).map (·.toDevice) = t.db.usableDevices k := by
  simp only [usableDevices, Db.usableDevices, Db.boundTo, db, List.filter_filter, List.filter_map]
  refine congrArg _ (List.filter_congr fun d _ => ?_)
  exact Bool.and_comm _ _

theorem hasDevice_db (id : Id) : t.db.devices.any (·.id == id) = t.hasDevice id := by
  simp only [db, hasDevice, List.any_map]
  rfl

theorem updateDevices_db {p : DeviceRow → Bool} {f : DeviceRow → DeviceRow}
    {hf : ∀ d, ∀ l ∈ (f d).boundLicenseId, l ∈ d.boundLicenseId} {q : Device → Bool}
    {g : Device → Device} (hp : ∀ d, p d = q d.toDevice) (hg : ∀ d, (f d).toDevice = g d.toDevice) :
    (t.updateDevices p f hf).db = t.db.updateDevices q g := by
  have hrows := map_updateWhere_comm (t := t.devices) hp hg
  simp only [db, updateDevices, Db.updateDevices, hrows]

theorem updateLicense_db {id : Id} {f : LicenseRow → LicenseRow} {hf : ∀ l, (f l).id = l.id}
    {g : License → License} (hg : ∀ l, (f l).toLicense = g l.toLicense) :
    (t.updateLicense id f hf).db = t.db.updateLicense id g := by
  have hrows : (updateWhere (·.id == id) f t.licenses).map (·.toLicense) =
      updateWhere (·.id == id) g (t.licenses.map (·.toLicense)) :=
    map_updateWhere_comm (fun _ => rfl) hg
  simp only [db, updateLicense, Db.updateLicense, hrows]

theorem insertDevice_db {d : DeviceRow} (hins : t.insertDevice d = some t') :
    t'.db = { t.db with devices := t.db.devices ++ [d.toDevice] } ∧ t.hasDevice d.id = false := by
  unfold insertDevice at hins
  split at hins
  · cases hins
  · rename_i hnew
    split at hins
    · cases hins
      refine ⟨?_, Bool.eq_false_iff.mpr hnew⟩
      simp only [db, List.map_append, List.map_cons, List.map_nil]
    · cases hins

end Tables

/-- The choice of `bindDevice`: a known device, or a new one. -/
theorem bindDevice_reused {license : License} {req : ActivationRequest} {draws : Draws} {db : Db}
    {id : Id}
    (h : chooseDevice license req.fingerprint (db.usableDevices license.id) = .ok (some id)) :
    bindDevice license req draws db =
      .ok ((id, false), db.updateDevices (·.id == id) fun d => { d with role := req.role }) := by
  cases hbest : bestMatch req.fingerprint (db.usableDevices license.id) with
  | some d =>
      simp only [chooseDevice, hbest] at h
      cases h
      simp only [bindDevice, hbest, pure_eq_ok]
  | none =>
      simp only [chooseDevice, hbest] at h
      split at h <;> cases h

theorem bindDevice_new {license : License} {req : ActivationRequest} {draws : Draws} {db : Db}
    (h : chooseDevice license req.fingerprint (db.usableDevices license.id) = .ok none)
    (hnew : db.devices.any (·.id == draws.deviceId) = false) :
    bindDevice license req draws db =
      .ok ((draws.deviceId, true),
        Db.updateLicense
          { db with
            devices := db.devices ++
              [{ id := draws.deviceId, boundLicenseId := some license.id,
                 fingerprint := req.fingerprint, role := req.role }] }
          license.id fun l => { l with status := .active }) := by
  cases hbest : bestMatch req.fingerprint (db.usableDevices license.id) with
  | some d =>
      simp only [chooseDevice, hbest] at h
      cases h
  | none =>
      simp only [chooseDevice, hbest] at h
      split at h
      · rename_i hroom
        simp only [bindDevice, hbest, if_pos hroom, hnew, Bool.false_eq_true, if_false, pure_eq_ok]
      · cases h

/-- The statements of an activation that binds a device, with nothing in between, do to the licenses
and the devices what `bindDevice` does. -/
theorem activate_bindDevice {env : Env} {now : Time} {locked : Id → Bool} {t t' : Tables}
    {req : ActivationRequest} {draws : Draws} {l : LicenseRow} {reused : Option Id} {id : Id}
    (hsel : activate env now locked t req draws.deviceId (.devices l) =
      some (t, .activate req draws.deviceId (.commit l reused)))
    (hcommit : activate env now locked t req draws.deviceId (.commit l reused) =
      some (t', .done (.ok (.device id)))) :
    bindDevice l.toLicense req draws t.db = .ok ((id, reused.isNone), t'.db) := by
  have hchoose : chooseDevice l.toLicense req.fingerprint (t.db.usableDevices l.id) = .ok reused := by
    simp only [activate] at hsel
    rw [← Tables.usableDevices_db]
    split at hsel
    · cases hsel
    · rename_i r heq
      cases hsel
      exact heq
  cases reused with
  | some d =>
      cases hcommit
      rw [bindDevice_reused hchoose, Tables.updateDevices_db]
      · rfl
      · intro d
        rfl
      · intro d
        rfl
  | none =>
      simp only [activate] at hcommit
      split at hcommit
      · cases hcommit
      · rename_i hins
        cases hcommit
        obtain ⟨hdb, hnew⟩ := Tables.insertDevice_db hins
        rw [bindDevice_new hchoose ((Tables.hasDevice_db _).trans hnew), Tables.updateLicense_db, hdb]
        · rfl
        · intro m
          rfl

end PredictATrade.DeviceAuth.Slots
