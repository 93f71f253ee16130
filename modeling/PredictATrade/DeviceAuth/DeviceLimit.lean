import PredictATrade.Lib.Runs
import PredictATrade.DeviceAuth.Slots

/-!
# `DeviceAuth.DeviceLimit` — no more devices than the license has slots

Any number of calls of the methods of `Slots`, statement by statement, over any licenses and devices.
What a statement does to the slots is its `Change`, and `advance_writes` says once what it makes of the
tables. From tables within the limit a write leads to tables within it exactly when its change fits
(`Writes.limit`), and so a run stays within the limit exactly when each of its changes fits
(`device_limit`).

Four changes need not fit. A device is inserted after the statement that counted; a license is
re-enabled with devices that were revoked and have been replaced since; a plan change writes fewer
slots than are taken; and a license is issued for a plan with a negative number of slots.
-/

namespace PredictATrade.DeviceAuth.Slots

open Lib.Runs Lib.Table

/-! ## Runs -/

/-- The tables, the subscriptions, and how far each call is. -/
structure State where
  now : Time
  billing : Billing
  tables : Tables
  calls : List Call

/-- What happens next: the clock is read anew, billing changes, a call begins, call number `n`
executes its next statement, or it fails there. -/
inductive Input where
  | time (t : Time)
  | billing (b : Billing)
  | registerDevice (body : RegisterBody) (drawn : Id)
  | activate (req : ActivationRequest) (drawn : Id)
  | activateLicense (id : Id)
  | ensureActive (subscription drawn : Id) (licenseKey : String)
  | renewLicense (id : Id) (validDays : Option ℤ)
  | changeLicensePlan (id : Id) (body : ChangePlanBody)
  | resetLicense (id : Id)
  | forceLogoutLicense (id : Id)
  | revokeDevice (id : Id)
  | exec (n : ℕ)
  | abort (n : ℕ)

namespace State

variable (env : Env)

/-- The state with one more call. -/
def begin (s : State) (p : Call) : State := { s with calls := s.calls ++ [p] }

/-- Another call than number `n` has the license locked. -/
def locked (s : State) (n : ℕ) (license : Id) : Bool :=
  (s.calls.eraseIdx n).any fun p => p.holds == some license

/-- What the next statement of call number `n` leads to, unless it has to wait. -/
def next (s : State) (n : ℕ) : Option (Tables × Call) :=
  s.calls[n]?.bind fun p => advance env s.now s.billing (s.locked n) s.tables p

/-- The state after one more input. -/
def step (s : State) : Input → State
  | .time t => { s with now := t }
  | .billing b => { s with billing := b }
  | .registerDevice body drawn => s.begin (.registerDevice body drawn .lookup)
  | .activate req drawn => s.begin (.activate req drawn .lock)
  | .activateLicense id => s.begin (.activateLicense id .read)
  | .ensureActive subscription drawn licenseKey =>
    s.begin (.ensureActive subscription drawn licenseKey .subscription)
  | .renewLicense id validDays => s.begin (.renewLicense id validDays .read)
  | .changeLicensePlan id body => s.begin (.changeLicensePlan id body .lock)
  | .resetLicense id => s.begin (.resetLicense id .read)
  | .forceLogoutLicense id => s.begin (.forceLogoutLicense id .read)
  | .revokeDevice id => s.begin (.revokeDevice id)
  | .exec n =>
    match s.next env n with
    | none => s
    | some (t, p) => { s with tables := t, calls := s.calls.set n p }
  | .abort n => { s with calls := s.calls.set n .aborted }

/-- Before the first call. -/
def start (now : Time) (billing : Billing) (t : Tables) : State := ⟨now, billing, t, []⟩

end State

/-! ## The limit -/

/-- A license has no more usable devices than slots. -/
def Tables.Limit (t : Tables) : Prop := ∀ l ∈ t.licenses, (t.usable l.id : ℤ) ≤ l.maxDevices

instance (t : Tables) : Decidable t.Limit :=
  inferInstanceAs (Decidable (∀ l ∈ t.licenses, _))

/-- What a statement does to the slots: nothing that fills one, a new device, the devices of a
license un-revoked, a number of slots, a new license. -/
inductive Change where
  | keep
  | add (license : Id)
  | unrevoke (license : Id)
  | slots (license : Id) (n : ℤ)
  | issue (n : ℤ)

/-- The change fits: the license of a new device has a free slot, an un-revoked license has slots for
all devices bound to it, the slots written are enough for the usable devices. -/
def Change.Fits (t : Tables) : Change → Prop
  | .keep => True
  | .add k => ∀ l ∈ t.licenses, l.id = k → (t.usable k : ℤ) < l.maxDevices
  | .unrevoke k => ∀ l ∈ t.licenses, l.id = k → (t.boundTo k : ℤ) ≤ l.maxDevices
  | .slots k n => ∀ l ∈ t.licenses, l.id = k → (t.usable k : ℤ) ≤ n
  | .issue n => 0 ≤ n

/-- The change that the insert of a device makes, unless its primary key is taken. -/
def Tables.insertChange (t : Tables) (id k : Id) : Change :=
  if t.hasDevice id then .keep else .add k

/-- The change that the insert of a license makes, unless one of its keys is taken. -/
def Tables.issueChange (t : Tables) (id : Id) (key : String) (n : ℤ) : Change :=
  if t.hasLicense id key then .keep else .issue n

/-- The change that the next statement of a call makes, if it need not wait. -/
def Call.change (t : Tables) : Call → Change
  | .registerDevice _ drawn (.insert (some l)) => t.insertChange drawn l
  | .activate _ drawn (.commit l none) => t.insertChange drawn l.id
  | .activateLicense id .unrevoke => .unrevoke id
  | .ensureActive _ _ _ (.unrevoke l) => .unrevoke l
  | .ensureActive _ drawn licenseKey (.issue _ p) =>
    t.issueChange drawn licenseKey (p.maxDevices.getD 1)
  | .changeLicensePlan _ body (.commit l _) =>
    match body.slots with
    | some n => if int4Max < n then .keep else .slots l n
    | none => .keep
  | _ => .keep

/-- The change that a step makes. -/
def State.change (env : Env) (s : State) : Input → Change
  | .exec n => if (s.next env n).isSome then (s.calls[n]?.getD .aborted).change s.tables else .keep
  | _ => .keep

/-- The change that the step makes fits. -/
def State.Orderly (env : Env) (s : State) (i : Input) : Prop := (s.change env i).Fits s.tables

/-! ## What a write does to the slots -/

namespace Tables

variable {t t' : Tables} {k : Id}

/-- Tables with the licenses of others and no more usable devices. -/
theorem Limit.of_le (h : t.Limit) (hl : t'.licenses = t.licenses)
    (hd : ∀ k, t'.usable k ≤ t.usable k) : t'.Limit := by
  intro l hm
  rw [hl] at hm
  have hle := hd l.id
  have := h l hm
  omega

/-- A write of a license leaves the devices alone, and writes its own slots. -/
theorem limit_updateLicense {id : Id} {f : LicenseRow → LicenseRow} {hf : ∀ l, (f l).id = l.id} :
    (t.updateLicense id f hf).Limit ↔ ∀ l ∈ t.licenses,
      (t.usable l.id : ℤ) ≤ if l.id = id then (f l).maxDevices else l.maxDevices := by
  -- the limit of a row after the update, said of the row before it
  have hrow : ∀ l : LicenseRow,
      ((t.usable (if l.id == id then f l else l).id : ℤ) ≤
          (if l.id == id then f l else l).maxDevices) ↔
        (t.usable l.id : ℤ) ≤ if l.id = id then (f l).maxDevices else l.maxDevices := by
    intro l
    by_cases hid : l.id = id
    · simp only [beq_iff_eq, if_pos hid, hf]
    · simp only [beq_iff_eq, if_neg hid]
  constructor
  · intro h l hm
    exact (hrow l).mp (h _ (mem_updateWhere.mpr ⟨l, hm, rfl⟩))
  · intro h l hm
    obtain ⟨m, hmem, rfl⟩ := mem_updateWhere.mp hm
    exact (hrow m).mpr (h m hmem)

theorem limit_slots {f : LicenseRow → LicenseRow} {hf : ∀ l, (f l).id = l.id} {n : ℤ}
    (hmax : ∀ l, (f l).maxDevices = n) (h : t.Limit) :
    (t.updateLicense k f hf).Limit ↔ (Change.slots k n).Fits t := by
  rw [limit_updateLicense]
  constructor
  · rintro h' l hm rfl
    have := h' l hm
    rwa [if_pos rfl, hmax] at this
  · intro hfit l hm
    by_cases heq : l.id = k
    · rw [if_pos heq, hmax, heq]
      exact hfit l hm heq
    · rw [if_neg heq]
      exact h l hm

theorem bound_of_usableOn {d : DeviceRow} (hd : d.usableOn k = true) :
    d.boundLicenseId = some k := by
  simp only [DeviceRow.usableOn, DeviceRow.boundTo, Bool.and_eq_true, beq_iff_eq] at hd
  exact hd.1

theorem not_bound_of_none {d : DeviceRow} (hd : d.boundLicenseId = none) :
    d.boundLicenseId ≠ some k := by
  rw [hd]
  exact Option.some_ne_none k |>.symm

theorem not_usableOn {d : DeviceRow} (hd : d.boundLicenseId ≠ some k) : d.usableOn k = false := by
  rw [DeviceRow.usableOn, DeviceRow.boundTo, beq_false_of_ne hd, Bool.false_and]

/-- After a license is un-revoked, all devices bound to it are usable. -/
theorem usable_unrevoke : (t.unrevoke k).usable k = t.boundTo k := by
  apply countP_updateWhere
  intro d
  unfold DeviceRow.usableOn DeviceRow.boundTo
  by_cases hb : (d.boundLicenseId == some k) = true <;> cases hr : d.revokedAt <;> simp [hb, hr]

/-- No device of another license changes. -/
theorem usable_unrevoke_other {j : Id} (hne : j ≠ k) : (t.unrevoke k).usable j = t.usable j := by
  apply countP_updateWhere
  intro d
  by_cases hp : (d.boundTo k && d.revokedAt.isSome) = true
  · have hk : d.boundLicenseId = some k := by
      simp only [DeviceRow.boundTo, Bool.and_eq_true, beq_iff_eq] at hp
      exact hp.1
    have hj : d.boundLicenseId ≠ some j := by
      rw [hk]
      exact fun heq => hne (Option.some.inj heq).symm
    rw [if_pos hp, not_usableOn hj]
    exact not_usableOn hj
  · rw [if_neg hp]

theorem limit_unrevoke (h : t.Limit) : (t.unrevoke k).Limit ↔ (Change.unrevoke k).Fits t := by
  constructor
  · rintro h' l hm rfl
    have := h' l hm
    rwa [usable_unrevoke] at this
  · intro hfit l hm
    by_cases heq : l.id = k
    · rw [heq, usable_unrevoke]
      exact hfit l hm heq
    · rw [usable_unrevoke_other heq]
      exact h l hm

/-- What a device that is inserted takes. -/
theorem usable_insertDevice {d : DeviceRow} (hins : t.insertDevice d = some t') (j : Id) :
    t'.licenses = t.licenses ∧ t'.usable j = t.usable j + if d.usableOn j then 1 else 0 := by
  unfold Tables.insertDevice at hins
  split at hins
  · cases hins
  · split at hins
    · rw [Option.some.injEq] at hins
      subst hins
      refine ⟨rfl, ?_⟩
      simp only [usable, List.countP_append, List.countP_cons, List.countP_nil, Nat.zero_add]
    · cases hins

/-- It takes nothing of a license that it is not bound to. -/
theorem usable_insertDevice_other {d : DeviceRow} (hins : t.insertDevice d = some t')
    (hd : d.boundLicenseId ≠ some k) : t'.usable k = t.usable k := by
  rw [(usable_insertDevice hins k).2, not_usableOn hd]
  rfl

theorem limit_insertDevice {d : DeviceRow} (hins : t.insertDevice d = some t')
    (hd : d.usableOn k = true) (h : t.Limit) : t'.Limit ↔ (Change.add k).Fits t := by
  have hl := (usable_insertDevice hins k).1
  have hk : t'.usable k = t.usable k + 1 := by
    rw [(usable_insertDevice hins k).2, if_pos hd]
  constructor
  · rintro h' l hm rfl
    have := h' l (hl ▸ hm)
    omega
  · intro hfit l hm
    rw [hl] at hm
    by_cases heq : l.id = k
    · have := hfit l hm heq
      rw [heq]
      omega
    · have hother : d.boundLicenseId ≠ some l.id := by
        rw [bound_of_usableOn hd]
        exact fun h => heq (Option.some.inj h).symm
      rw [usable_insertDevice_other hins hother]
      exact h l hm

/-- A license that is issued has no devices yet. -/
theorem limit_insertLicense {l : LicenseRow} (hins : t.insertLicense l = some t') (h : t.Limit) :
    t'.Limit ↔ (Change.issue l.maxDevices).Fits t := by
  unfold Tables.insertLicense at hins
  split at hins
  · cases hins
  · rename_i hnew
    rw [Option.some.injEq] at hins
    subst hins
    -- a device bound to the new id would be bound to a license that exists
    have hnone : t.usable l.id = 0 := by
      apply List.countP_eq_zero.mpr
      intro d hd hu
      obtain ⟨m, hm, hid⟩ := List.mem_map.mp (t.bound d hd l.id (bound_of_usableOn hu))
      refine hnew (List.any_eq_true.mpr ⟨m, hm, ?_⟩)
      rw [beq_iff_eq.mpr hid]
      rfl
    constructor
    · intro h'
      have := h' l (List.mem_append_right _ (List.mem_singleton.mpr rfl))
      show 0 ≤ l.maxDevices
      calc (0 : ℤ) = (t.usable l.id : ℤ) := by rw [hnone]; rfl
        _ ≤ l.maxDevices := this
    · intro hfit m hm
      rcases List.mem_append.mp hm with hm | hm
      · exact h m hm
      · rw [List.mem_singleton.mp hm]
        show (t.usable l.id : ℤ) ≤ l.maxDevices
        rw [hnone]
        exact hfit

end Tables

/-! ## What a statement writes -/

/-- What a statement with a change makes of the tables. -/
inductive Writes (t : Tables) : Change → Tables → Prop where
  | same : Writes t .keep t
  /-- No device becomes usable. -/
  | devices {p : DeviceRow → Bool} {f : DeviceRow → DeviceRow}
      {hf : ∀ d, ∀ l ∈ (f d).boundLicenseId, l ∈ d.boundLicenseId}
      (hd : ∀ k d, (f d).usableOn k = true → d.usableOn k = true) :
      Writes t .keep (t.updateDevices p f hf)
  /-- After `t'`, a license is written, but not its slots. -/
  | license {c : Change} {t' : Tables} {id : Id} {f : LicenseRow → LicenseRow}
      {hf : ∀ l, (f l).id = l.id} (h : Writes t c t') (hmax : ∀ l, (f l).maxDevices = l.maxDevices) :
      Writes t c (t'.updateLicense id f hf)
  | unbound {d : DeviceRow} {t' : Tables} (hins : t.insertDevice d = some t')
      (hd : d.boundLicenseId = none) : Writes t .keep t'
  | device {d : DeviceRow} {t' : Tables} {k : Id} (hins : t.insertDevice d = some t')
      (hd : d.usableOn k = true) : Writes t (.add k) t'
  /-- The insert is refused, for there is no such license. -/
  | refused {k : Id} (hno : ∀ l ∈ t.licenses, l.id ≠ k) : Writes t (.add k) t
  | unrevoke (k : Id) : Writes t (.unrevoke k) (t.unrevoke k)
  | slots {k : Id} {n : ℤ} {f : LicenseRow → LicenseRow} {hf : ∀ l, (f l).id = l.id}
      (hmax : ∀ l, (f l).maxDevices = n) : Writes t (.slots k n) (t.updateLicense k f hf)
  | issue {l : LicenseRow} {t' : Tables} (hins : t.insertLicense l = some t') :
      Writes t (.issue l.maxDevices) t'

namespace Writes

variable {t t' : Tables} {c : Change} {k : Id}

theorem insert {d : DeviceRow} (hins : t.insertDevice d = some t') (hd : d.usableOn k = true) :
    Writes t (t.insertChange d.id k) t' := by
  have hnew : ¬ t.hasDevice d.id = true := by
    intro hold
    unfold Tables.insertDevice at hins
    rw [if_pos hold] at hins
    cases hins
  rw [Tables.insertChange, if_neg hnew]
  exact .device hins hd

/-- An insert that is refused under a new primary key is for no license that exists. -/
theorem insert_refused {d : DeviceRow} (hins : t.insertDevice d = none)
    (hd : d.usableOn k = true) : Writes t (t.insertChange d.id k) t := by
  unfold Tables.insertChange
  split
  · exact .same
  · rename_i hnew
    refine .refused ?_
    rintro l hm rfl
    unfold Tables.insertDevice at hins
    rw [if_neg hnew] at hins
    split at hins
    · cases hins
    · rename_i hno
      refine absurd ?_ hno
      intro j hj
      rw [Tables.bound_of_usableOn hd, Option.mem_some_iff] at hj
      exact hj ▸ List.mem_map_of_mem hm

theorem insertLicense {l : LicenseRow} (hins : t.insertLicense l = some t') :
    Writes t (t.issueChange l.id l.licenseKey l.maxDevices) t' := by
  have hnew : ¬ t.hasLicense l.id l.licenseKey = true := by
    intro hold
    unfold Tables.insertLicense at hins
    rw [dif_pos hold] at hins
    cases hins
  rw [Tables.issueChange, if_neg hnew]
  exact .issue hins

theorem insertLicense_refused {l : LicenseRow} (hins : t.insertLicense l = none) :
    Writes t (t.issueChange l.id l.licenseKey l.maxDevices) t := by
  unfold Tables.insertLicense at hins
  split at hins
  · rename_i hold
    rw [Tables.issueChange, if_pos hold]
    exact .same
  · cases hins

theorem revoke {p : DeviceRow → Bool} {now : Time} : Writes t .keep (t.revoke p now) := by
  apply devices
  intro k d hq
  simp [DeviceRow.usableOn] at hq

theorem unbind : Writes t .keep (t.unbind k) := by
  apply devices
  intro j d hq
  simp [DeviceRow.usableOn, DeviceRow.boundTo] at hq

/-- **A write keeps the limit exactly when its change fits.** -/
theorem limit (h : t.Limit) (hw : Writes t c t') : t'.Limit ↔ c.Fits t := by
  induction hw with
  | same => exact iff_of_true h trivial
  | devices hd =>
      refine iff_of_true (h.of_le rfl fun k => ?_) trivial
      exact countP_updateWhere_le fun d _ _ hq => hd k d hq
  | license _ hmax ih =>
      -- the write after the write leaves the slots and the devices alone
      rw [Tables.limit_updateLicense, ← ih]
      simp only [hmax, ite_self]
      rfl
  | unbound hins hd =>
      refine iff_of_true (h.of_le (Tables.usable_insertDevice hins 0).1 fun k => ?_) trivial
      have hother := Tables.not_bound_of_none (k := k) hd
      exact (Tables.usable_insertDevice_other hins hother).le
  | device hins hd => exact Tables.limit_insertDevice hins hd h
  | refused hno => exact iff_of_true h fun l hm heq => absurd heq (hno l hm)
  | unrevoke k => exact Tables.limit_unrevoke h
  | slots hmax => exact Tables.limit_slots hmax h
  | issue hins => exact Tables.limit_insertLicense hins h

end Writes

section

variable {env : Env} {now : Time} {billing : Billing} {locked : Id → Bool} {t t' : Tables}
  {p' : Call}

theorem registerDevice_writes {body : RegisterBody} {drawn : Id} {pc : RegisterAt}
    (hadv : registerDevice locked t body drawn pc = some (t', p')) :
    Writes t (Call.change t (.registerDevice body drawn pc)) t' := by
  cases pc with
  | lookup =>
      simp only [registerDevice] at hadv
      split at hadv <;> cases hadv <;> exact .same
  | update device =>
      cases hadv
      exact .devices fun _ _ hq => hq
  | license =>
      simp only [registerDevice] at hadv
      split at hadv <;> cases hadv <;> exact .same
  | count license maxDevices =>
      simp only [registerDevice] at hadv
      split at hadv <;> cases hadv <;> exact .same
  | insert license =>
      simp only [registerDevice] at hadv
      split at hadv
      · cases hadv
      · cases license with
        | none =>
            split at hadv
            · cases hadv
              exact .same
            · rename_i hins
              cases hadv
              exact .unbound hins rfl
        | some k =>
            have hd : DeviceRow.usableOn k
                { id := drawn, boundLicenseId := some k, fingerprint := body.fingerprintComponents,
                  role := none, userId := body.userId,
                  fingerprintHash := body.fingerprintHash } = true := by
              simp [DeviceRow.usableOn, DeviceRow.boundTo]
            split at hadv
            · rename_i hins
              cases hadv
              exact .insert_refused hins hd
            · rename_i hins
              cases hadv
              exact .insert hins hd

theorem activate_writes {req : ActivationRequest} {drawn : Id} {pc : ActivateAt}
    (hadv : activate env now locked t req drawn pc = some (t', p')) :
    Writes t (Call.change t (.activate req drawn pc)) t' := by
  cases pc with
  | lock =>
      simp only [activate] at hadv
      repeat' split at hadv
      all_goals cases hadv
      all_goals exact .same
  | devices l =>
      simp only [activate] at hadv
      split at hadv <;> cases hadv <;> exact .same
  | commit l reused =>
      cases reused with
      | some device =>
          cases hadv
          exact .devices fun _ _ hq => hq
      | none =>
          have hd : (newDevice env l req drawn).usableOn l.id = true := by
            simp [DeviceRow.usableOn, DeviceRow.boundTo, newDevice]
          simp only [activate] at hadv
          split at hadv
          · rename_i hins
            cases hadv
            exact .insert_refused hins hd
          · rename_i hins
            cases hadv
            apply Writes.license (.insert hins hd)
            intro m
            rfl

theorem activateLicense_writes {id : Id} {pc : ActivateLicenseAt}
    (hadv : activateLicense now locked t id pc = some (t', p')) :
    Writes t (Call.change t (.activateLicense id pc)) t' := by
  cases pc with
  | read =>
      simp only [activateLicense] at hadv
      split at hadv <;> cases hadv <;> exact .same
  | update =>
      simp only [activateLicense] at hadv
      split at hadv
      · cases hadv
      · cases hadv
        apply Writes.same.license
        intro l
        rfl
  | unrevoke =>
      cases hadv
      exact .unrevoke id

theorem ensureActive_writes {subscription drawn : Id} {licenseKey : String} {pc : EnsureAt}
    (hadv : ensureActive env now billing locked t subscription drawn licenseKey pc = some (t', p')) :
    Writes t (Call.change t (.ensureActive subscription drawn licenseKey pc)) t' := by
  cases pc with
  | subscription | plan userId planId | existing userId p =>
      simp only [ensureActive] at hadv
      repeat' split at hadv
      all_goals cases hadv
      all_goals exact .same
  | syncPlan license p | syncSubscription license | reactivate license p =>
      simp only [ensureActive] at hadv
      split at hadv
      · cases hadv
      · cases hadv
        apply Writes.same.license
        intro l
        rfl
  | unrevoke license =>
      cases hadv
      exact .unrevoke license
  | issue userId p =>
      simp only [ensureActive] at hadv
      split at hadv
      · rename_i hins
        cases hadv
        exact .insertLicense_refused hins
      · rename_i hins
        cases hadv
        exact .insertLicense hins

theorem renewLicense_writes {id : Id} {validDays : Option ℤ} {pc : RenewAt}
    (hadv : renewLicense now locked t id validDays pc = some (t', p')) : Writes t .keep t' := by
  cases pc with
  | read =>
      simp only [renewLicense] at hadv
      split at hadv <;> cases hadv <;> exact .same
  | update fromExpiry =>
      simp only [renewLicense] at hadv
      split at hadv
      · cases hadv
      · cases hadv
        apply Writes.same.license
        intro l
        rfl

theorem changeLicensePlan_writes {id : Id} {body : ChangePlanBody} {pc : ChangePlanAt}
    (hadv : changeLicensePlan billing locked t id body pc = some (t', p')) :
    Writes t (Call.change t (.changeLicensePlan id body pc)) t' := by
  cases pc with
  | lock | plan license planId =>
      simp only [changeLicensePlan] at hadv
      repeat' split at hadv
      all_goals cases hadv
      all_goals exact .same
  | commit license planId =>
      simp only [changeLicensePlan] at hadv
      simp only [Call.change]
      cases hs : body.slots with
      | none =>
          rw [hs] at hadv
          cases hadv
          apply Writes.same.license
          intro l
          rfl
      | some n =>
          rw [hs] at hadv
          by_cases hbig : int4Max < n
          · -- the number is no INTEGER
            rw [if_pos (by simpa using hbig)] at hadv
            cases hadv
            simp only [if_pos hbig]
            exact .same
          · rw [if_neg (by simpa using hbig)] at hadv
            cases hadv
            simp only [if_neg hbig]
            apply Writes.slots
            intro l
            rfl

theorem resetLicense_writes {id : Id} {pc : ResetAt}
    (hadv : resetLicense t id pc = some (t', p')) : Writes t .keep t' := by
  cases pc with
  | read =>
      simp only [resetLicense] at hadv
      split at hadv <;> cases hadv <;> exact .same
  | unbind =>
      cases hadv
      exact .unbind

theorem forceLogoutLicense_writes {id : Id} {pc : ForceLogoutAt}
    (hadv : forceLogoutLicense now t id pc = some (t', p')) : Writes t .keep t' := by
  cases pc with
  | read =>
      simp only [forceLogoutLicense] at hadv
      split at hadv <;> cases hadv <;> exact .same
  | revoke =>
      cases hadv
      exact .revoke

/-- What a statement writes is its change. -/
theorem advance_writes {p : Call}
    (hadv : advance env now billing locked t p = some (t', p')) : Writes t (p.change t) t' := by
  cases p with
  | registerDevice body drawn pc => exact registerDevice_writes hadv
  | activate req drawn pc => exact activate_writes hadv
  | activateLicense id pc => exact activateLicense_writes hadv
  | ensureActive subscription drawn licenseKey pc => exact ensureActive_writes hadv
  | renewLicense id validDays pc => exact renewLicense_writes hadv
  | changeLicensePlan id body pc => exact changeLicensePlan_writes hadv
  | resetLicense id pc => exact resetLicense_writes hadv
  | forceLogoutLicense id pc => exact forceLogoutLicense_writes hadv
  | revokeDevice id =>
      cases hadv
      exact .revoke
  | done result => cases hadv
  | aborted => cases hadv

end

/-! ## Runs within the limit -/

namespace State

variable {env : Env}

/-- **Step.** The limit stays exactly when the step is orderly. -/
theorem step_limit (s : State) (i : Input) (h : s.tables.Limit) :
    (s.step env i).tables.Limit ↔ s.Orderly env i := by
  cases i with
  | exec n =>
      simp only [step, Orderly, change]
      cases hnext : s.next env n with
      | none => exact iff_of_true h trivial
      | some r =>
          obtain ⟨p, hp, hadv⟩ := Option.bind_eq_some_iff.mp hnext
          rw [hp]
          exact (advance_writes hadv).limit h
  | time t | billing b | registerDevice body drawn | activate req drawn | activateLicense id
  | ensureActive subscription drawn licenseKey | renewLicense id validDays
  | changeLicensePlan id body | resetLicense id | forceLogoutLicense id | revokeDevice id
  | abort n => exact iff_of_true h trivial

/-- **Device limit.** A run stays within the limit exactly when it starts there and each of its
changes fits. -/
theorem device_limit (now : Time) (billing : Billing) (t : Tables) (is : List Input) :
    Throughout (step env) (fun s => s.tables.Limit) (start now billing t) is ↔
      t.Limit ∧ Along (step env) (Orderly env) (start now billing t) is := by
  apply throughout_iff_of_step
  intro s i hs
  exact step_limit s i hs

end State

/-! ## Runs over the limit -/

section

/-- An environment. -/
def someEnv : Env := ⟨fun _ => "fp", true⟩

/-- An ACTIVE license of user 7. -/
def someLicense (slots : ℤ) : LicenseRow :=
  { id := 1, licenseKey := "PAT-1", status := .active, maxDevices := slots, userId := 7, planId := 3,
    issuedAt := 0 }

/-- A device on the license. -/
def someDevice (id : Id) : DeviceRow :=
  { id := id, boundLicenseId := some 1, fingerprint := {}, role := none, userId := 7 }

/-- One license with one slot, and no devices. -/
def oneSlot : Tables := ⟨[someLicense 1], [], by decide, by decide⟩

/-- One license with two slots, both taken. -/
def twoTaken : Tables := ⟨[someLicense 2], [someDevice 11, someDevice 12], by decide, by decide⟩

/-- Two devices register at once: both count before either inserts. -/
def registerRun : List Input :=
  let body : RegisterBody := { userId := 7, licenseKey := "PAT-1" }
  [.registerDevice body 11, .registerDevice body 12, .exec 0, .exec 1, .exec 0, .exec 1, .exec 0,
   .exec 1, .exec 0, .exec 1]

/-- The devices of a license are logged out, a new device takes the place of the old one, and the
license is activated again. -/
def replacedRun : List Input :=
  [.registerDevice { userId := 7, licenseKey := "PAT-1" } 11, .exec 0, .exec 0, .exec 0, .exec 0,
   .forceLogoutLicense 1, .exec 1, .exec 1,
   .activate { licenseKey := "PAT-1", fingerprint := {} } 12, .exec 2, .exec 2, .exec 2,
   .activateLicense 1, .exec 3, .exec 3, .exec 3]

/-- A plan change to half a slot, which is rounded down to none. -/
def planRun : List Input :=
  [.changeLicensePlan 1 ⟨some 4, some (1 / 2)⟩, .exec 0, .exec 0, .exec 0]

/-- The devices that the license has at the end of a run, and its slots. -/
def taken (t : Tables) (is : List Input) : ℕ × List ℤ :=
  let s := run (State.step someEnv) (State.start 0 ⟨[⟨4, none⟩], []⟩ t) is
  (s.tables.usable 1, s.tables.licenses.map (·.maxDevices))

/-- **Over the limit**, from tables within it. -/
theorem over_limit :
    oneSlot.Limit ∧ twoTaken.Limit ∧ taken oneSlot registerRun = (2, [1]) ∧
      taken oneSlot replacedRun = (2, [1]) ∧ taken twoTaken planRun = (2, [0]) ∧
      ¬ ∀ (env : Env) (now : Time) (billing : Billing) (t : Tables) (is : List Input), t.Limit →
        Throughout (State.step env) (fun s => s.tables.Limit) (State.start now billing t) is := by
  have hrun : ¬ (run (State.step someEnv) (State.start 0 ⟨[⟨4, none⟩], []⟩ oneSlot)
      registerRun).tables.Limit := by
    decide +kernel
  refine ⟨by decide, by decide, by decide +kernel, by decide +kernel, by decide +kernel, ?_⟩
  intro hall
  exact hrun (hall someEnv 0 ⟨[⟨4, none⟩], []⟩ oneSlot registerRun (by decide) registerRun
    List.prefix_rfl)

end

end PredictATrade.DeviceAuth.Slots
