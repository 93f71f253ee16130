import PredictATrade.DeviceAuth.SlotLocks

/-!
# `DeviceAuth.Revocation` — the two marks of a revoked license

A license says twice that it is revoked: in its `status` and in `revoked_at`. `activate` tests the
one, `suspendLicense` and `changeLicensePlan` the other, so the two have to agree. The methods here
join those of `Slots`; each is one statement on the row, and waits while a transaction has it locked.

`deactivateLicense` writes `status` whatever `revoked_at` says. `agrees_throughout_iff`: from tables
that agree, a run keeps to them exactly when it deactivates no license that is REVOKED. That an
activation sets a license ACTIVE without a look at `revoked_at` does no harm: it has read the status
under the lock of the row (`Kept`), and `revokeLicense` waits for that lock.
-/

namespace PredictATrade.DeviceAuth.Slots

open Lib.Runs Lib.Table Lib.Attempt

/-! ## Methods -/

/-- The body of `createLicense`; a missing or empty id is `none`. -/
structure CreateLicenseBody where
  userId : Option Id
  planId : Option Id
  maxDevices : Option ℤ := none
  validDays : Option ℤ := none

/-- `createLicense`. The users are not modelled: `userExists` is what the look at them finds. -/
def createLicense (now : Time) (billing : Billing) (userExists : Bool) (body : CreateLicenseBody)
    (drawn : Id) (licenseKey : String) (t : Tables) : Except Failure LicenseRow × Tables :=
  match body.userId, body.planId with
  | some userId, some planId =>
    if !userExists then (.error (.badRequest "user_id does not exist"), t)
    else if !billing.plans.any (·.id == planId) then
      (.error (.badRequest "plan_id does not exist"), t)
    else
      let validDays := match body.validDays with
        | some n => if 0 < n then n else 365
        | none => 365
      let row : LicenseRow :=
        { id := drawn, licenseKey := licenseKey, status := .active,
          maxDevices := body.maxDevices.getD 1, expiresAt := some (now + days validDays),
          userId := userId, planId := planId, issuedAt := now }
      match t.insertLicense row with
      | none => (.error .uniqueViolation, t)
      | some t' => (.ok row, t')
  | _, _ => (.error (.badRequest "user_id and plan_id are required"), t)

/-- `suspendLicense`. -/
def suspendLicense (id : Id) (t : Tables) : Except Failure Unit × Tables :=
  match t.license id with
  | none => (.error (.notFound "License not found"), t)
  | some l =>
    if l.revokedAt.isSome then (.error (.badRequest "License is revoked and cannot be suspended"), t)
    else (.ok (), t.updateLicense id (fun l => { l with status := .suspended }) fun _ => rfl)

/-- `revokeLicense`. -/
def revokeLicense (now : Time) (id : Id) (t : Tables) : Except Failure Unit × Tables :=
  match t.license id with
  | none => (.error (.notFound "License not found"), t)
  | some _ =>
    (.ok (), t.updateLicense id (fun l => { l with status := .revoked, revokedAt := some now })
      fun _ => rfl)

/-- `deactivateLicense`. -/
def deactivateLicense (id : Id) (t : Tables) : Except Failure Unit × Tables :=
  match t.license id with
  | none => (.error (.notFound "License not found"), t)
  | some _ => (.ok (), t.updateLicense id (fun l => { l with status := .suspended }) fun _ => rfl)

/-- What happens next: a step of the methods of `Slots`, or the statement of one of these. -/
inductive Operation where
  | slots (i : Input)
  | createLicense (body : CreateLicenseBody) (userExists : Bool) (drawn : Id) (licenseKey : String)
  | suspendLicense (id : Id)
  | revokeLicense (id : Id)
  | deactivateLicense (id : Id)

namespace State

/-- A transaction has the row of the license locked. -/
def held (s : State) (id : Id) : Bool := s.calls.any fun p => p.holds == some id

/-- Write the tables, unless the row of the license is locked: the statement then still waits. -/
def write (s : State) (id : Id) (t : Tables) : State :=
  if s.held id then s else { s with tables := t }

/-- The state after an operation. -/
def operate (env : Env) (s : State) : Operation → State
  | .slots i => s.step env i
  | .createLicense body userExists drawn licenseKey =>
    { s with
      tables := (createLicense s.now s.billing userExists body drawn licenseKey s.tables).2 }
  | .suspendLicense id => s.write id (suspendLicense id s.tables).2
  | .revokeLicense id => s.write id (revokeLicense s.now id s.tables).2
  | .deactivateLicense id => s.write id (deactivateLicense id s.tables).2

/-- The step does not deactivate a license that is REVOKED. -/
def SparesRevoked (s : State) : Operation → Prop
  | .deactivateLicense id =>
    s.held id = true ∨ ∀ l ∈ s.tables.licenses, l.id = id → l.status ≠ .revoked
  | _ => True

end State

/-! ## The marks -/

/-- A license is revoked by its status exactly when it is by its timestamp. -/
def LicenseRow.Agrees (l : LicenseRow) : Prop := l.revokedAt.isSome = true ↔ l.status = .revoked

instance (l : LicenseRow) : Decidable l.Agrees := inferInstanceAs (Decidable (_ ↔ _))

/-- `revoked_at` is set exactly on the REVOKED licenses. -/
def Tables.Agrees (t : Tables) : Prop := ∀ l ∈ t.licenses, l.Agrees

instance (t : Tables) : Decidable t.Agrees := inferInstanceAs (Decidable (∀ l ∈ t.licenses, _))

/-- The license is there, and `revoked_at` is not set. -/
def Tables.Unrevoked (t : Tables) (k : Id) : Prop :=
  ∃ l ∈ t.licenses, l.id = k ∧ l.revokedAt = none

/-- The license whose row an open activation has locked and read. -/
def Call.activates : Call → Option Id
  | .activate _ _ (.devices l) | .activate _ _ (.commit l _) => some l.id
  | _ => none

/-- An open activation has found its license not revoked, and it still is not. -/
def Call.Kept (t : Tables) (p : Call) : Prop := ∀ k, p.activates = some k → t.Unrevoked k

/-! ## What a statement does to the marks -/

/-- What a statement does to the marks: nothing; or it writes one license, and leaves it in agreement
and unrevoked if it was so before; or it issues a license that agrees. -/
inductive Marks (t : Tables) : Tables → Prop where
  | same {t' : Tables} (h : t'.licenses = t.licenses) : Marks t t'
  | license {t' : Tables} (h : t'.licenses = t.licenses) {k : Id} {f : LicenseRow → LicenseRow}
      {hf : ∀ l, (f l).id = l.id} (hmark : ∀ l ∈ t.licenses, l.id = k → l.Agrees →
        (f l).Agrees ∧ (l.revokedAt = none → (f l).revokedAt = none)) :
      Marks t (t'.updateLicense k f hf)
  | issue {t' : Tables} {l : LicenseRow} (hins : t.insertLicense l = some t') (hl : l.Agrees) :
      Marks t t'

/-- A license set ACTIVE and not revoked agrees. -/
theorem agrees_of_active {l : LicenseRow} (hs : l.status = .active) (hr : l.revokedAt = none) :
    l.Agrees := by
  unfold LicenseRow.Agrees
  rw [hs, hr]
  decide

/-- A write that leaves both marks leaves them in agreement. -/
theorem agrees_congr {l m : LicenseRow} (hs : m.status = l.status) (hr : m.revokedAt = l.revokedAt)
    (h : l.Agrees) : m.Agrees := by
  unfold LicenseRow.Agrees
  rw [hs, hr]
  exact h

theorem insertLicense_licenses {t t' : Tables} {l : LicenseRow} (hins : t.insertLicense l = some t') :
    t'.licenses = t.licenses ++ [l] := by
  unfold Tables.insertLicense at hins
  split at hins
  · cases hins
  · cases hins
    rfl

namespace Marks

variable {t t' : Tables} {k : Id}

theorem agrees (hm : Marks t t') (h : t.Agrees) : t'.Agrees := by
  cases hm with
  | same hl => exact fun l hl' => h l (hl ▸ hl')
  | @license t'' hl k f hf hmark =>
      intro l hl'
      obtain ⟨m, hm, rfl⟩ := mem_updateWhere.mp hl'
      rw [hl] at hm
      by_cases hid : (m.id == k) = true
      · rw [if_pos hid]
        exact (hmark m hm (beq_iff_eq.mp hid) (h m hm)).1
      · rw [if_neg hid]
        exact h m hm
  | issue hins hl =>
      intro m hm
      rw [insertLicense_licenses hins, List.mem_append, List.mem_singleton] at hm
      rcases hm with hm | rfl
      · exact h m hm
      · exact hl

theorem unrevoked (hm : Marks t t') (h : t.Agrees) (hk : t.Unrevoked k) : t'.Unrevoked k := by
  obtain ⟨l, hl, hid, hr⟩ := hk
  cases hm with
  | same heq => exact ⟨l, heq ▸ hl, hid, hr⟩
  | @license t'' heq j f hf hmark =>
      refine ⟨_, mem_updateWhere.mpr ⟨l, heq ▸ hl, rfl⟩, ?_⟩
      by_cases hj : (l.id == j) = true
      · rw [if_pos hj]
        exact ⟨(hf l).trans hid, (hmark l hl (beq_iff_eq.mp hj) (h l hl)).2 hr⟩
      · rw [if_neg hj]
        exact ⟨hid, hr⟩
  | issue hins hl' =>
      refine ⟨l, ?_, hid, hr⟩
      rw [insertLicense_licenses hins]
      exact List.mem_append_left _ hl

/-- A license set ACTIVE and not revoked. -/
theorem enable {f : LicenseRow → LicenseRow} {hf : ∀ l, (f l).id = l.id}
    (hs : ∀ l, (f l).status = .active) (hr : ∀ l, (f l).revokedAt = none) :
    Marks t (t.updateLicense k f hf) :=
  .license rfl fun l _ _ _ => ⟨agrees_of_active (hs l) (hr l), fun _ => hr l⟩

/-- Other columns of a license written. -/
theorem other {f : LicenseRow → LicenseRow} {hf : ∀ l, (f l).id = l.id}
    (hs : ∀ l, (f l).status = l.status) (hr : ∀ l, (f l).revokedAt = l.revokedAt) :
    Marks t (t.updateLicense k f hf) :=
  .license rfl fun l _ _ hl => ⟨agrees_congr (hs l) (hr l) hl, fun hn => (hr l).trans hn⟩

theorem insertDevice {d : DeviceRow} (hins : t.insertDevice d = some t') :
    t'.licenses = t.licenses :=
  (Tables.usable_insertDevice hins 0).1

end Marks

section

variable {env : Env} {now : Time} {billing : Billing} {locked : Id → Bool} {t t' : Tables}
  {p p' : Call} {k : Id}

theorem registerDevice_marks {body : RegisterBody} {drawn : Id} {pc : RegisterAt}
    (hadv : registerDevice locked t body drawn pc = some (t', p')) : Marks t t' := by
  cases pc with
  | insert license =>
      simp only [registerDevice] at hadv
      split at hadv
      · cases hadv
      · split at hadv
        · cases hadv
          exact .same rfl
        · rename_i hins
          cases hadv
          exact .same (Marks.insertDevice hins)
  | lookup =>
      simp only [registerDevice] at hadv
      split at hadv <;> cases hadv <;> exact .same rfl
  | update device =>
      cases hadv
      exact .same rfl
  | license =>
      simp only [registerDevice] at hadv
      split at hadv <;> cases hadv <;> exact .same rfl
  | count license maxDevices =>
      simp only [registerDevice] at hadv
      split at hadv <;> cases hadv <;> exact .same rfl

/-- The commit of an activation sets a license ACTIVE that it has found not revoked. -/
theorem activate_marks {req : ActivationRequest} {drawn : Id} {pc : ActivateAt}
    (hkept : (Call.activate req drawn pc).Kept t)
    (hadv : activate env now locked t req drawn pc = some (t', p')) : Marks t t' := by
  cases pc with
  | lock =>
      simp only [activate] at hadv
      repeat' split at hadv
      all_goals cases hadv
      all_goals exact .same rfl
  | devices l =>
      simp only [activate] at hadv
      split at hadv <;> cases hadv <;> exact .same rfl
  | commit l reused =>
      cases reused with
      | some device =>
          cases hadv
          exact .same rfl
      | none =>
          simp only [activate] at hadv
          split at hadv
          · cases hadv
            exact .same rfl
          · rename_i hins
            cases hadv
            obtain ⟨m, hm, hid, hr⟩ := hkept l.id rfl
            refine .license (Marks.insertDevice hins) fun r hr' hrid hagr => ?_
            have hsame : r = m := eq_of_key t.key hr' hm (hrid.trans hid.symm)
            exact ⟨agrees_of_active rfl (hsame ▸ hr), fun hn => hn⟩

theorem activateLicense_marks {id : Id} {pc : ActivateLicenseAt}
    (hadv : activateLicense now locked t id pc = some (t', p')) : Marks t t' := by
  cases pc with
  | read =>
      simp only [activateLicense] at hadv
      split at hadv <;> cases hadv <;> exact .same rfl
  | update =>
      simp only [activateLicense] at hadv
      split at hadv
      · cases hadv
      · cases hadv
        exact .enable (fun _ => rfl) fun _ => rfl
  | unrevoke =>
      cases hadv
      exact .same rfl

theorem ensureActive_marks {subscription drawn : Id} {licenseKey : String} {pc : EnsureAt}
    (hadv : ensureActive env now billing locked t subscription drawn licenseKey pc = some (t', p')) :
    Marks t t' := by
  cases pc with
  | subscription =>
      simp only [ensureActive] at hadv
      split at hadv <;> cases hadv <;> exact .same rfl
  | plan userId planId =>
      simp only [ensureActive] at hadv
      repeat' split at hadv
      all_goals cases hadv
      all_goals exact .same rfl
  | existing userId plan =>
      simp only [ensureActive] at hadv
      repeat' split at hadv
      all_goals cases hadv
      all_goals exact .same rfl
  | syncPlan license plan =>
      simp only [ensureActive] at hadv
      split at hadv
      · cases hadv
      · cases hadv
        exact .other (fun _ => rfl) fun _ => rfl
  | syncSubscription license =>
      simp only [ensureActive] at hadv
      split at hadv
      · cases hadv
      · cases hadv
        exact .other (fun _ => rfl) fun _ => rfl
  | reactivate license plan =>
      simp only [ensureActive] at hadv
      split at hadv
      · cases hadv
      · cases hadv
        exact .enable (fun _ => rfl) fun _ => rfl
  | unrevoke license =>
      cases hadv
      exact .same rfl
  | issue userId plan =>
      simp only [ensureActive] at hadv
      split at hadv
      · cases hadv
        exact .same rfl
      · rename_i hins
        cases hadv
        exact .issue hins (agrees_of_active rfl rfl)

theorem renewLicense_marks {id : Id} {validDays : Option ℤ} {pc : RenewAt}
    (hadv : renewLicense now locked t id validDays pc = some (t', p')) : Marks t t' := by
  cases pc with
  | read =>
      simp only [renewLicense] at hadv
      split at hadv <;> cases hadv <;> exact .same rfl
  | update fromExpiry =>
      simp only [renewLicense] at hadv
      split at hadv
      · cases hadv
      · cases hadv
        exact .enable (fun _ => rfl) fun _ => rfl

theorem changeLicensePlan_marks {id : Id} {body : ChangePlanBody} {pc : ChangePlanAt}
    (hadv : changeLicensePlan billing locked t id body pc = some (t', p')) : Marks t t' := by
  cases pc with
  | lock =>
      simp only [changeLicensePlan] at hadv
      repeat' split at hadv
      all_goals cases hadv
      all_goals exact .same rfl
  | plan license planId =>
      simp only [changeLicensePlan] at hadv
      split at hadv <;> cases hadv <;> exact .same rfl
  | commit license planId =>
      simp only [changeLicensePlan] at hadv
      split at hadv
      · cases hadv
        exact .same rfl
      · cases hadv
        exact .other (fun _ => rfl) fun _ => rfl

/-- **What a statement of `Slots` does to the marks.** -/
theorem advance_marks (hkept : p.Kept t) (hadv : advance env now billing locked t p = some (t', p')) :
    Marks t t' := by
  cases p with
  | registerDevice body drawn pc => exact registerDevice_marks hadv
  | activate req drawn pc => exact activate_marks hkept hadv
  | activateLicense id pc => exact activateLicense_marks hadv
  | ensureActive subscription drawn licenseKey pc => exact ensureActive_marks hadv
  | renewLicense id validDays pc => exact renewLicense_marks hadv
  | changeLicensePlan id body pc => exact changeLicensePlan_marks hadv
  | resetLicense id pc =>
      cases pc <;> simp only [advance, resetLicense] at hadv <;> repeat' split at hadv
      all_goals cases hadv
      all_goals exact .same rfl
  | forceLogoutLicense id pc =>
      cases pc <;> simp only [advance, forceLogoutLicense] at hadv <;> repeat' split at hadv
      all_goals cases hadv
      all_goals exact .same rfl
  | revokeDevice id =>
      cases hadv
      exact .same rfl
  | done result => cases hadv
  | aborted => cases hadv

/-! ## What an open activation has found -/

theorem activates_holds (h : p.activates = some k) : p.holds = some k := by
  cases p with
  | activate req drawn pc =>
      cases pc with
      | lock => cases h
      | devices l => exact h
      | commit l reused => exact h
  | registerDevice | activateLicense | ensureActive | renewLicense | changeLicensePlan
  | resetLicense | forceLogoutLicense | revokeDevice | done | aborted => cases h

/-- A license that `checkLicense` lets pass is not revoked, where the marks agree. -/
theorem unrevoked_of_check {l : LicenseRow} (hl : l.Agrees)
    (h : checkLicense l.toLicense now = .ok ()) : l.revokedAt = none := by
  have hs : l.status ≠ .revoked := by
    intro heq
    simp only [checkLicense, heq, if_true] at h
    cases h
  exact Option.not_isSome_iff_eq_none.mp fun hr => hs (hl.mp hr)

/-- An activation that goes on has found its license before, or finds it now. -/
theorem activate_activates (ht : t.Agrees) {req : ActivationRequest} {drawn : Id} {pc : ActivateAt}
    (hadv : activate env now locked t req drawn pc = some (t', p')) (hk : p'.activates = some k) :
    (Call.activate req drawn pc).activates = some k ∨ t.Unrevoked k := by
  cases pc with
  | lock =>
      simp only [activate] at hadv
      split at hadv
      · cases hadv
        cases hk
      · rename_i l hl
        split at hadv
        · cases hadv
        · split at hadv
          · cases hadv
            cases hk
          · rename_i hcheck
            cases hadv
            cases hk
            have hmem := List.mem_of_find?_eq_some hl
            exact .inr ⟨l, hmem, rfl, unrevoked_of_check (ht l hmem) hcheck⟩
  | devices l =>
      simp only [activate] at hadv
      split at hadv
      · cases hadv
        cases hk
      · cases hadv
        exact .inl hk
  | commit l reused =>
      cases reused with
      | some device =>
          cases hadv
          cases hk
      | none =>
          simp only [activate] at hadv
          split at hadv <;> cases hadv <;> cases hk

theorem changeLicensePlan_activates {id : Id} {body : ChangePlanBody} {pc : ChangePlanAt}
    (hadv : changeLicensePlan billing locked t id body pc = some (t', p')) : p'.activates = none := by
  cases pc <;> simp only [changeLicensePlan] at hadv <;> repeat' split at hadv
  all_goals cases hadv
  all_goals rfl

/-- **What a call has found stays found.** -/
theorem advance_kept (ht : t.Agrees) (hkept : p.Kept t)
    (hadv : advance env now billing locked t p = some (t', p')) : p'.Kept t' := by
  intro k hk
  apply (advance_marks hkept hadv).unrevoked ht
  by_cases hact : ∃ req drawn pc, p = .activate req drawn pc
  · obtain ⟨req, drawn, pc, rfl⟩ := hact
    rcases activate_activates ht hadv hk with hold | hnew
    · exact hkept k hold
    · exact hnew
  · by_cases hplan : ∃ id body pc, p = .changeLicensePlan id body pc
    · obtain ⟨id, body, pc, rfl⟩ := hplan
      rw [changeLicensePlan_activates hadv] at hk
      cases hk
    · have hfree : p'.holds = none :=
        advance_free (fun req drawn pc h => hact ⟨req, drawn, pc, h⟩)
          (fun id body pc h => hplan ⟨id, body, pc, h⟩) hadv
      rw [activates_holds hk] at hfree
      cases hfree

end

/-! ## What the other methods do to the marks -/

section

variable {t : Tables} {id : Id}

theorem license_mem {l : LicenseRow} (h : t.license id = some l) : l ∈ t.licenses ∧ l.id = id := by
  have hid := List.find?_some h
  exact ⟨List.mem_of_find?_eq_some h, by simpa using hid⟩

/-- The license found by an id is the only one with it. -/
theorem license_unique {l m : LicenseRow} (h : t.license id = some l) (hm : m ∈ t.licenses)
    (hid : m.id = id) : m = l :=
  eq_of_key t.key hm (license_mem h).1 (hid.trans (license_mem h).2.symm)

theorem createLicense_marks (now : Time) (billing : Billing) (userExists : Bool)
    (body : CreateLicenseBody) (drawn : Id) (licenseKey : String) :
    Marks t (createLicense now billing userExists body drawn licenseKey t).2 := by
  unfold createLicense
  split
  · split
    · exact .same rfl
    · split
      · exact .same rfl
      · dsimp only
        split
        · exact .same rfl
        · rename_i hins
          exact .issue hins (agrees_of_active rfl rfl)
  · exact .same rfl

/-- A license that is not revoked is set SUSPENDED. -/
theorem suspend_marks (h : ∀ l ∈ t.licenses, l.id = id → l.revokedAt = none) :
    Marks t (t.updateLicense id (fun l => { l with status := .suspended }) fun _ => rfl) := by
  refine .license rfl fun l hl hid _ => ⟨?_, fun hn => hn⟩
  unfold LicenseRow.Agrees
  simp [h l hl hid]

theorem suspendLicense_marks : Marks t (suspendLicense id t).2 := by
  unfold suspendLicense
  cases hl : t.license id with
  | none => exact .same rfl
  | some l =>
      cases hr : l.revokedAt with
      | some at_ =>
          simp only [hr, Option.isSome_some, if_true]
          exact .same rfl
      | none =>
          simp only [hr, Option.isSome_none, Bool.false_eq_true, if_false]
          refine suspend_marks fun m hm hid => ?_
          rw [license_unique hl hm hid]
          exact hr

/-- A revocation sets both marks, and touches no other license. -/
theorem revokeLicense_agrees {now : Time} (h : t.Agrees) : (revokeLicense now id t).2.Agrees := by
  unfold revokeLicense
  cases hl : t.license id with
  | none => exact h
  | some l =>
      intro r hr
      obtain ⟨m, hm, rfl⟩ := mem_updateWhere.mp hr
      by_cases hid : (m.id == id) = true
      · rw [if_pos hid]
        exact iff_of_true rfl rfl
      · rw [if_neg hid]
        exact h m hm

theorem revokeLicense_unrevoked {now : Time} {k : Id} (h : t.Unrevoked k) (hne : k ≠ id) :
    (revokeLicense now id t).2.Unrevoked k := by
  unfold revokeLicense
  cases hl : t.license id with
  | none => exact h
  | some l =>
      obtain ⟨m, hm, rfl, hr⟩ := h
      refine ⟨m, mem_updateWhere.mpr ⟨m, hm, ?_⟩, rfl, hr⟩
      rw [if_neg (by simpa using hne)]

theorem deactivateLicense_marks (h : t.Agrees)
    (hspare : ∀ l ∈ t.licenses, l.id = id → l.status ≠ .revoked) :
    Marks t (deactivateLicense id t).2 := by
  unfold deactivateLicense
  cases hl : t.license id with
  | none => exact .same rfl
  | some l =>
      refine suspend_marks fun m hm hid => ?_
      exact Option.not_isSome_iff_eq_none.mp fun hr => hspare m hm hid ((h m hm).mp hr)

/-- **The slip.** A REVOKED license that is deactivated keeps its `revoked_at`. -/
theorem deactivateLicense_disagrees (h : t.Agrees) {l : LicenseRow} (hl : l ∈ t.licenses)
    (hid : l.id = id) (hs : l.status = .revoked) : ¬ (deactivateLicense id t).2.Agrees := by
  intro hafter
  unfold deactivateLicense at hafter
  cases hf : t.license id with
  | none =>
      have hnone := List.find?_eq_none.mp hf l hl
      simp [hid] at hnone
  | some m =>
      simp only [hf] at hafter
      have hrow := hafter { l with status := .suspended }
        (mem_updateWhere.mpr ⟨l, hl, if_pos (by simpa using hid)⟩)
      have hsome : l.revokedAt.isSome = true := (h l hl).mpr hs
      cases hrow.mp hsome

end

/-! ## Runs -/

namespace State

variable {env : Env} {s : State}

/-- The marks agree, and what the open activations have found is so. -/
structure Marked (s : State) : Prop where
  agrees : s.tables.Agrees
  kept : ∀ p ∈ s.calls, p.Kept s.tables

/-- Tables written by a statement of no open call. -/
theorem Marked.write (h : s.Marked) {t : Tables} (hm : Marks s.tables t) :
    Marked { s with tables := t } :=
  ⟨hm.agrees h.agrees, fun p hp k hk => hm.unrevoked h.agrees (h.kept p hp k hk)⟩

/-- A call that begins has found nothing yet. -/
theorem Marked.begin (h : s.Marked) {p : Call} (hp : p.activates = none) : (s.begin p).Marked := by
  refine ⟨h.agrees, fun q hq k hk => ?_⟩
  rcases List.mem_append.mp hq with hq | hq
  · exact h.kept q hq k hk
  · rw [List.mem_singleton.mp hq, hp] at hk
    cases hk

theorem Marked.exec (h : s.Marked) (n : ℕ) : (s.step env (.exec n)).Marked := by
  simp only [step]
  cases hnext : s.next env n with
  | none => exact h
  | some r =>
      obtain ⟨p, hc, hadv⟩ := Option.bind_eq_some_iff.mp hnext
      obtain ⟨hn, hget⟩ := List.getElem?_eq_some_iff.mp hc
      have hp : p ∈ s.calls := hget ▸ List.getElem_mem hn
      have hmarks := advance_marks (h.kept p hp) hadv
      refine ⟨hmarks.agrees h.agrees, fun q hq => ?_⟩
      rcases List.mem_or_eq_of_mem_set hq with hq | rfl
      · exact fun k hk => hmarks.unrevoked h.agrees (h.kept q hq k hk)
      · exact advance_kept h.agrees (h.kept p hp) hadv

/-- **Step.** The marks go on agreeing, and with what the open activations have found. -/
theorem Marked.step (h : s.Marked) (i : Input) : (s.step env i).Marked := by
  cases i with
  | exec n => exact h.exec n
  | abort n =>
      refine ⟨h.agrees, fun q hq => ?_⟩
      rcases List.mem_or_eq_of_mem_set hq with hq | rfl
      · exact h.kept q hq
      · intro k hk
        cases hk
  | time t | billing b => exact ⟨h.agrees, h.kept⟩
  | registerDevice body drawn | activate req drawn | activateLicense id
  | ensureActive subscription drawn licenseKey | renewLicense id validDays
  | changeLicensePlan id body | resetLicense id | forceLogoutLicense id | revokeDevice id =>
      exact h.begin rfl

/-- A license that is not locked is not the one of an open activation. -/
theorem ne_of_not_held {id k : Id} (hfree : ¬ s.held id = true) {p : Call} (hp : p ∈ s.calls)
    (hk : p.activates = some k) : k ≠ id := by
  rintro rfl
  exact hfree (List.any_eq_true.mpr ⟨p, hp, beq_iff_eq.mpr (activates_holds hk)⟩)

/-- **The step lemma.** -/
theorem marked_operate {o : Operation} (h : s.Marked) (hs : s.SparesRevoked o) :
    (s.operate env o).Marked := by
  cases o with
  | slots i => exact h.step i
  | createLicense body userExists drawn licenseKey => exact h.write (createLicense_marks _ _ _ _ _ _)
  | suspendLicense id =>
      simp only [operate, State.write]
      split
      · exact h
      · exact h.write suspendLicense_marks
  | revokeLicense id =>
      simp only [operate, State.write]
      split
      · exact h
      · rename_i hfree
        refine ⟨revokeLicense_agrees h.agrees, fun p hp k hk => ?_⟩
        exact revokeLicense_unrevoked (h.kept p hp k hk) (ne_of_not_held hfree hp hk)
  | deactivateLicense id =>
      simp only [operate, State.write]
      split
      · exact h
      · rename_i hfree
        rcases hs with hheld | hspare
        · exact absurd hheld hfree
        · exact h.write (deactivateLicense_marks h.agrees hspare)

/-- A REVOKED license deactivated breaks the agreement at once. -/
theorem not_agrees_operate {o : Operation} (h : s.Marked) (hs : ¬ s.SparesRevoked o) :
    ¬ (s.operate env o).tables.Agrees := by
  cases o with
  | deactivateLicense id =>
      simp only [SparesRevoked, not_or, not_forall, not_not] at hs
      obtain ⟨hfree, l, hl, hid, hrevoked⟩ := hs
      simp only [operate, State.write, if_neg hfree]
      exact deactivateLicense_disagrees h.agrees hl hid hrevoked
  | slots | createLicense | suspendLicense | revokeLicense => exact absurd trivial hs

/-- **When the two marks agree.** Over any tables and any run of the methods, statement by statement:
`revoked_at` is set exactly on the REVOKED licenses in every state reached, exactly when it is so at
the start and no step deactivates a license that is REVOKED. -/
theorem agrees_throughout_iff (env : Env) (now : Time) (billing : Billing) (t : Tables)
    (os : List Operation) :
    Throughout (operate env) (fun s => s.tables.Agrees) (start now billing t) os ↔
      t.Agrees ∧ Along (operate env) SparesRevoked (start now billing t) os := by
  by_cases ht : t.Agrees
  · have h0 : (start now billing t).Marked := ⟨ht, fun p hp => absurd hp List.not_mem_nil⟩
    rw [throughout_iff_along (J := Marked) (fun _ h => h.agrees) (fun _ _ h hs => marked_operate h hs)
      (fun _ _ h hs => not_agrees_operate h hs) h0]
    exact (and_iff_right ht).symm
  · exact iff_of_false (fun h => ht (h [] List.nil_prefix)) fun h => ht h.1

/-- An ACTIVE license, revoked and then deactivated. -/
def deactivateRevoked : List Operation := [.revokeLicense 1, .deactivateLicense 1]

/-- **SUSPENDED, with `revoked_at` set**, from tables that agree. -/
theorem deactivateRevoked_disagrees :
    oneSlot.Agrees ∧
      (run (operate someEnv) (start 5 ⟨[], []⟩ oneSlot) deactivateRevoked).tables.licenses.map
        (fun l => (l.status, l.revokedAt)) = [(.suspended, some 5)] ∧
      ¬ Throughout (operate someEnv) (fun s => s.tables.Agrees) (start 5 ⟨[], []⟩ oneSlot)
        deactivateRevoked := by
  have hrun : ¬ (run (operate someEnv) (start 5 ⟨[], []⟩ oneSlot)
      deactivateRevoked).tables.Agrees := by
    decide +kernel
  refine ⟨by decide, by decide +kernel, fun h => ?_⟩
  exact hrun (h deactivateRevoked List.prefix_rfl)

end State

end PredictATrade.DeviceAuth.Slots
