import PredictATrade.DeviceAuth.Finality

/-!
# `DeviceAuth.Leases` — one active session for a license

An activation supersedes the active leases of its license: it closes them as EXPIRED and opens one of
its own. Of the other calls only `heartbeat` makes a lease ACTIVE, and it refuses none but a REVOKED
one, so a superseded session that goes on sending heartbeats is active again.

`one_active_iff`: in every state of a run a license has at most one active lease, and no superseded
lease is active, exactly when no heartbeat of the run comes from a session whose lease has EXPIRED.
All that the calls do to the leases is said once, by `Calmed` and `activate_leases`.
-/

namespace PredictATrade.DeviceAuth
open Lib.Runs Lib.Table Lib.Attempt

/-- The ACTIVE leases of a license. -/
def Db.activeLeases (db : Db) (licenseId : Id) : List Lease :=
  db.leases.filter fun l => l.licenseId == licenseId && l.status == .active

/-- The lease that a heartbeat of a session looks up. -/
def Db.sessionLease (db : Db) (deviceId sessionId : Id) : Option Lease :=
  db.leases.find? fun l =>
    l.deviceId == deviceId && l.sessionId == sessionId && (db.license l.licenseId).isSome

/-- The leases that a call supersedes: those its activation finds active. -/
def Call.supersedes (now : Time) (db : Db) : Call → List Id
  | .activate req draws =>
    match (DeviceAuth.activate now req draws db).1, db.licenseByKey req.licenseKey with
    | .ok _, some license => (db.activeLeases license.id).map (·.id)
    | _, _ => []
  | _ => []

/-- The tables, the time, and the leases that have been superseded. -/
structure Sessions where
  db : Db
  now : Time
  superseded : List Id
  deriving DecidableEq

namespace Sessions

/-- Any tables, before the first session. -/
def start (db : Db) (now : Time) : Sessions :=
  { db := { db with leases := [] }, now := now, superseded := [] }

/-- A call, some time after the one before. -/
def step (s : Sessions) (event : ℕ × Call) : Sessions where
  db := exec (s.now + event.1) event.2 s.db
  now := s.now + event.1
  superseded := s.superseded ++ event.2.supersedes (s.now + event.1) s.db

/-- A license has one active lease at most, and none that has been superseded. -/
structure OneActive (s : Sessions) : Prop where
  atMostOne : ∀ licenseId, (s.db.activeLeases licenseId).length ≤ 1
  gone : ∀ l ∈ s.db.leases, l.id ∈ s.superseded → l.status ≠ .active

/-- No heartbeat comes from a session whose lease has expired. -/
def NoRevival (s : Sessions) (event : ℕ × Call) : Prop :=
  ∀ deviceId sessionId, event.2 = .heartbeat deviceId sessionId →
    ∀ l, s.db.sessionLease deviceId sessionId = some l → l.status ≠ .expired

end Sessions

/-! ## What the calls do to the leases -/

/-- The same lease later, at most revoked. -/
structure Calm (l l' : Lease) : Prop where
  id : l'.id = l.id
  licenseId : l'.licenseId = l.licenseId
  status : l'.status = l.status ∨ l'.status = .revoked

/-- The leases stay, each as it is or revoked. -/
def Calmed (db db' : Db) : Prop :=
  ∃ f : Lease → Lease, (∀ l ∈ db.leases, Calm l (f l)) ∧ db'.leases = db.leases.map f

section
variable {now : Time} {db db' db'' : Db} {l : Lease}

theorem Calm.refl (l : Lease) : Calm l l := ⟨rfl, rfl, .inl rfl⟩

theorem Calmed.of_same (h : db'.leases = db.leases) : Calmed db db' :=
  ⟨fun l => l, fun l _ => Calm.refl l, by rw [h, List.map_id']⟩

/-- An update that leaves the leases it touches as they are, or revokes them. -/
theorem Calmed.of_update (p : Lease → Bool) (f : Lease → Lease)
    (hf : ∀ l ∈ db.leases, p l = true → Calm l (f l))
    (h : db'.leases = updateWhere p f db.leases) : Calmed db db' := by
  refine ⟨fun l => if p l then f l else l, fun l hl => ?_, h⟩
  by_cases hp : p l = true
  · simp only [hp, if_true]; exact hf l hl hp
  · simp only [hp]; exact Calm.refl l

theorem Calmed.of_close (p : Lease → Bool) (now : Time)
    (h : db'.leases = (db.closeLeases p .revoked now).leases) : Calmed db db' :=
  Calmed.of_update (fun l => p l && l.status == .active)
    (fun l => { l with status := .revoked, revokedAt := some now })
    (fun _ _ _ => ⟨rfl, rfl, .inr rfl⟩) h

theorem rotate_calmed {t : RefreshToken} {drawn : TokenHash} {r : RefreshResponse × Db}
    (hr : rotate now t drawn db = .ok r) : Calmed db r.2 := by
  obtain ⟨db1, hins, heq⟩ := bind_ok hr
  obtain ⟨-, rfl⟩ := insertToken_ok hins
  obtain rfl := Except.ok.inj heq
  exact Calmed.of_update (fun l => l.deviceId == t.deviceId && l.status == .active)
    (fun l => { l with leaseExpiresAt := now + leaseTtl }) (fun _ _ _ => ⟨rfl, rfl, .inl rfl⟩) rfl

theorem refresh_calmed (now : Time) (h : TokenHash) (deviceId : Option Id) (drawn : TokenHash)
    (db : Db) : Calmed db (refresh now h deviceId drawn db).2 := by
  unfold refresh
  cases db.token h with
  | none => exact Calmed.of_same rfl
  | some t =>
      by_cases hreuse : (t.usedAt.isSome || t.revokedAt.isSome) = true
      · simp only [hreuse, if_true]
        exact Calmed.of_close (·.deviceId == t.deviceId) now rfl
      · simp only [hreuse, Bool.false_eq_true, if_false]
        by_cases hexp : t.expiresAt < now
        · rw [if_pos hexp]; exact Calmed.of_same rfl
        · rw [if_neg hexp]
          by_cases hdev : deviceId.any (· != t.deviceId) = true
          · rw [if_pos hdev]; exact Calmed.of_same rfl
          · rw [if_neg hdev]
            cases hr : rotate now t drawn db with
            | error e => rw [transaction_of_error hr]; exact Calmed.of_same rfl
            | ok r => rw [transaction_of_ok hr]; exact rotate_calmed hr

/-- The lease that `heartbeat` renews. -/
def renewed (now : Time) (l : Lease) : Lease :=
  { l with leaseExpiresAt := now + leaseTtl, status := .active }

theorem sessionLease_license {deviceId sessionId : Id}
    (hl : db.sessionLease deviceId sessionId = some l) : (db.license l.licenseId).isSome = true := by
  have hfound := List.find?_some hl
  simp only [Bool.and_eq_true] at hfound
  exact hfound.2

/-- `heartbeat` renews the lease that it finds, unless that is revoked. -/
theorem heartbeat_leases (now : Time) {deviceId sessionId : Id}
    (hl : db.sessionLease deviceId sessionId = some l) (hr : l.status ≠ .revoked) :
    (heartbeat now deviceId sessionId db).2.leases =
      updateWhere (·.id == l.id) (renewed now) db.leases := by
  obtain ⟨license, hlicense⟩ := Option.isSome_iff_exists.mp (sessionLease_license hl)
  unfold Db.sessionLease at hl
  unfold heartbeat
  simp only [hl, hlicense, hr, if_false]
  rfl

theorem heartbeat_refused {deviceId sessionId : Id}
    (h : ∀ l, db.sessionLease deviceId sessionId = some l → l.status = .revoked) :
    (heartbeat now deviceId sessionId db).2 = db := by
  unfold heartbeat
  cases hl : db.sessionLease deviceId sessionId with
  | none =>
      unfold Db.sessionLease at hl
      simp only [hl]
  | some l =>
      obtain ⟨license, hlicense⟩ := Option.isSome_iff_exists.mp (sessionLease_license hl)
      have hr := h l hl
      unfold Db.sessionLease at hl
      simp only [hl, hlicense, hr, if_true]

theorem bindDevice_leases {license : License} {req : ActivationRequest} {draws : Draws}
    {r : (Id × Bool) × Db} (h : bindDevice license req draws db = .ok r) :
    r.2.leases = db.leases := by
  cases hm : bestMatch req.fingerprint (db.usableDevices license.id) with
  | some d =>
      simp only [bindDevice, hm] at h
      obtain rfl := Except.ok.inj h
      rfl
  | none =>
      simp only [bindDevice, hm] at h
      split at h
      · obtain ⟨-, h⟩ := guard_ok h
        obtain rfl := Except.ok.inj h
        rfl
      · cases h

/-- A lease that an activation has superseded. -/
def closed (now : Time) (l : Lease) : Lease := { l with status := .expired, revokedAt := some now }

/-- What an activation makes of the leases, where it succeeds: those active are superseded, and a
new one is opened. -/
theorem activate_leases {req : ActivationRequest} {draws : Draws} {resp : ActivationResponse}
    (h : (activate now req draws db).1 = .ok resp) :
    ∃ license lease, db.licenseByKey req.licenseKey = some license ∧
      lease.licenseId = license.id ∧ lease.status = .active ∧
      (∀ l ∈ db.leases, l.id ≠ lease.id) ∧
      (activate now req draws db).2.leases =
        updateWhere (fun l => l.licenseId == license.id && l.status == .active)
          (closed now) db.leases ++ [lease] := by
  cases hb : activateTx now req draws db with
  | error e => rw [activate, transaction_of_error hb] at h; cases h
  | ok r =>
      rw [activate, transaction_of_ok hb]
      unfold activateTx at hb
      cases hk : db.licenseByKey req.licenseKey with
      | none => rw [hk] at hb; cases hb
      | some license =>
          rw [hk] at hb
          obtain ⟨-, -, hb⟩ := bind_ok hb
          obtain ⟨⟨⟨deviceId, isNew⟩, db1⟩, hbind, hb⟩ := bind_ok hb
          obtain ⟨db2, hins, hb⟩ := bind_ok hb
          obtain ⟨-, rfl⟩ := insertToken_ok hins
          obtain ⟨db3, hopen, hb⟩ := bind_ok hb
          obtain ⟨hfresh, hopen⟩ := guard_ok hopen
          obtain rfl := Except.ok.inj hopen
          obtain rfl := Except.ok.inj hb
          have hsame : db1.leases = db.leases := bindDevice_leases hbind
          refine ⟨license,
            { id := draws.leaseId, licenseId := license.id, deviceId := deviceId,
              sessionId := draws.sessionId, status := .active, leaseExpiresAt := now + leaseTtl },
            rfl, rfl, rfl, ?_, ?_⟩
          · intro l hl hid
            refine hfresh (List.any_eq_true.mpr ⟨_, mem_updateWhere.mpr ⟨l, ?_, rfl⟩, ?_⟩)
            · exact hsame ▸ hl
            · split <;> simpa using hid
          · show updateWhere _ _ db1.leases ++ _ = _
            rw [hsame]
            rfl

theorem activate_refused {req : ActivationRequest} {draws : Draws} {e : Failure}
    (h : (activate now req draws db).1 = .error e) : (activate now req draws db).2 = db := by
  cases hb : activateTx now req draws db with
  | error e => rw [activate, transaction_of_error hb]
  | ok r => rw [activate, transaction_of_ok hb] at h; cases h

/-- Of the other calls none makes a lease active. -/
theorem exec_calmed (now : Time) (call : Call) (db : Db)
    (ha : ∀ req draws, call ≠ .activate req draws)
    (hb : ∀ deviceId sessionId, call ≠ .heartbeat deviceId sessionId) :
    Calmed db (exec now call db) := by
  have hchange : ∀ {id : Id} {f : Db → Db}, (f db).leases = db.leases →
      Calmed db (changeLicense id f db).2 := by
    intro id f hf
    unfold changeLicense
    cases db.license id with
    | none => exact Calmed.of_same rfl
    | some license => exact Calmed.of_same hf
  cases call with
  | activate req draws => exact absurd rfl (ha req draws)
  | refresh h deviceId drawn => exact refresh_calmed now h deviceId drawn db
  | heartbeat deviceId sessionId => exact absurd rfl (hb deviceId sessionId)
  | revokeDevice deviceId =>
      exact Calmed.of_close (·.deviceId == deviceId) now rfl
  | suspendLicense id =>
      show Calmed db (suspendLicense id db).2
      unfold suspendLicense
      cases db.license id with
      | none => exact Calmed.of_same rfl
      | some license => by_cases hr : license.revokedAt.isSome = true <;>
          simp only [hr] <;> exact Calmed.of_same rfl
  | deactivateLicense id => exact hchange rfl
  | revokeLicense id => exact hchange rfl
  | activateLicense id => exact hchange rfl
  | renewLicense id validDays => exact hchange rfl
  | forceLogoutLicense id => exact hchange rfl

end

/-! ## Runs -/

namespace Sessions

variable {s : Sessions} {event : ℕ × Call}

/-- The leases have ids of their own, and the superseded ones include all that have expired. -/
structure Inv (s : Sessions) : Prop where
  ids : (s.db.leases.map (·.id)).Nodup
  expired : ∀ l ∈ s.db.leases, l.status = .expired → l.id ∈ s.superseded
  known : ∀ i ∈ s.superseded, i ∈ s.db.leases.map (·.id)
  one : s.OneActive

/-- A step on leases that are at most revoked, and that supersedes none. -/
theorem Inv.of_calmed {db' : Db} {now : Time} (hi : s.Inv) (hc : Calmed s.db db') :
    Inv { db := db', now := now, superseded := s.superseded } := by
  obtain ⟨f, hf, hleases⟩ := hc
  have hids : db'.leases.map (·.id) = s.db.leases.map (·.id) := by
    rw [hleases, List.map_map]
    exact List.map_congr_left fun l hl => (hf l hl).id
  refine ⟨?_, ?_, ?_, ?_, ?_⟩
  · show (db'.leases.map (·.id)).Nodup
    rw [hids]; exact hi.ids
  · intro l' hl' he
    change l' ∈ db'.leases at hl'
    rw [hleases] at hl'
    obtain ⟨l, hl, rfl⟩ := List.mem_map.mp hl'
    rw [(hf l hl).id]
    rcases (hf l hl).status with hs | hs
    · exact hi.expired l hl (hs ▸ he)
    · rw [hs] at he; cases he
  · intro i hi'
    show i ∈ db'.leases.map (·.id)
    rw [hids]; exact hi.known i hi'
  · intro licenseId
    show (db'.leases.filter _).length ≤ 1
    rw [hleases, ← List.countP_eq_length_filter, List.countP_map]
    refine le_trans (List.countP_mono_left fun l hl hp => ?_)
      ((List.countP_eq_length_filter ..).trans_le (hi.one.atMostOne licenseId))
    simp only [Function.comp_apply, Bool.and_eq_true, beq_iff_eq] at hp ⊢
    rw [(hf l hl).licenseId] at hp
    rcases (hf l hl).status with hs | hs
    · exact ⟨hp.1, hs ▸ hp.2⟩
    · rw [hs] at hp; exact absurd hp.2 (by decide)
  · intro l' hl' hsup hactive
    change l' ∈ db'.leases at hl'
    rw [hleases] at hl'
    obtain ⟨l, hl, rfl⟩ := List.mem_map.mp hl'
    rw [(hf l hl).id] at hsup
    rcases (hf l hl).status with hs | hs
    · exact hi.one.gone l hl hsup (hs ▸ hactive)
    · rw [hs] at hactive; cases hactive

/-- Closing the active leases of a license makes no lease active. -/
theorem countP_closed_le {now : Time} {k j : Id} {leases : List Lease} :
    (updateWhere (fun l => l.licenseId == k && l.status == .active) (closed now) leases).countP
        (fun l => l.licenseId == j && l.status == .active) ≤
      leases.countP fun l => l.licenseId == j && l.status == .active := by
  apply countP_updateWhere_le
  intro l _ _ hp
  simp [closed] at hp

/-- It leaves no active lease of that license. -/
theorem countP_closed_self {now : Time} {k : Id} {leases : List Lease} :
    (updateWhere (fun l => l.licenseId == k && l.status == .active) (closed now) leases).countP
      (fun l => l.licenseId == k && l.status == .active) = 0 := by
  rw [List.countP_eq_zero]
  intro l' hl' hp
  obtain ⟨l, hl, rfl⟩ := mem_updateWhere.mp hl'
  by_cases hq : (l.licenseId == k && l.status == .active) = true
  · rw [if_pos hq] at hp
    simp [closed] at hp
  · rw [if_neg hq] at hp
    exact hq hp

/-- A lease after an activation is the new one, one just closed, or one that it passes by. -/
theorem mem_activated {now : Time} {k : Id} {leases : List Lease} {lease l' : Lease}
    (h : l' ∈ updateWhere (fun l => l.licenseId == k && l.status == .active) (closed now) leases ++
      [lease]) :
    l' = lease ∨
      (l'.status = .expired ∧
        ∃ l ∈ leases.filter (fun l => l.licenseId == k && l.status == .active), l.id = l'.id) ∨
      (l' ∈ leases ∧ (l'.status = .active → l'.licenseId ≠ k)) := by
  rw [List.mem_append, List.mem_singleton, mem_updateWhere] at h
  rcases h with ⟨l, hl, rfl⟩ | rfl
  · by_cases hp : (l.licenseId == k && l.status == .active) = true
    · rw [if_pos hp]
      exact .inr (.inl ⟨rfl, l, List.mem_filter.mpr ⟨hl, hp⟩, rfl⟩)
    · rw [if_neg hp]
      refine .inr (.inr ⟨hl, fun hs hid => hp ?_⟩)
      simp [hs, hid]
  · exact .inl rfl

/-- An activation supersedes the active leases and opens a new one. -/
theorem Inv.of_activate {db' : Db} {now : Time} {license : License} {lease : Lease} (hi : s.Inv)
    (hlic : lease.licenseId = license.id) (hfresh : ∀ l ∈ s.db.leases, l.id ≠ lease.id)
    (hleases : db'.leases = updateWhere (fun l => l.licenseId == license.id && l.status == .active)
      (closed now) s.db.leases ++ [lease])
    (hactive : lease.status = .active) :
    Inv { db := db', now := now,
          superseded := s.superseded ++ (s.db.activeLeases license.id).map (·.id) } := by
  have hnew : lease.id ∉ s.db.leases.map (·.id) := fun h => by
    obtain ⟨l, hl, he⟩ := List.mem_map.mp h
    exact hfresh l hl he
  have hids : db'.leases.map (·.id) = s.db.leases.map (·.id) ++ [lease.id] := by
    rw [hleases, List.map_append, map_updateWhere fun l => (rfl : (closed now l).id = l.id)]
    rfl
  have hcases : ∀ l' ∈ db'.leases, l' = lease ∨
      (l'.status = .expired ∧ ∃ l ∈ s.db.activeLeases license.id, l.id = l'.id) ∨
      (l' ∈ s.db.leases ∧ (l'.status = .active → l'.licenseId ≠ license.id)) := fun l' hl' =>
    mem_activated (hleases ▸ hl')
  refine ⟨?_, ?_, ?_, ?_, ?_⟩
  · show (db'.leases.map (·.id)).Nodup
    rw [hids]
    exact List.nodup_append.mpr ⟨hi.ids, List.nodup_singleton _, by
      rintro i hi' j hj rfl
      exact hnew (List.mem_singleton.mp hj ▸ hi')⟩
  · intro l' hl' he
    refine List.mem_append.mpr ?_
    rcases hcases l' hl' with rfl | ⟨-, l, hl, hid⟩ | ⟨hl, -⟩
    · rw [hactive] at he; cases he
    · exact .inr (List.mem_map.mpr ⟨l, hl, hid⟩)
    · exact .inl (hi.expired l' hl he)
  · intro i hi'
    show i ∈ db'.leases.map (·.id)
    rw [hids]
    refine List.mem_append_left _ ?_
    rcases List.mem_append.mp hi' with hi' | hi'
    · exact hi.known i hi'
    · obtain ⟨l, hl, rfl⟩ := List.mem_map.mp hi'
      exact List.mem_map_of_mem (List.mem_filter.mp hl).1
  · intro licenseId
    show (db'.leases.filter _).length ≤ 1
    rw [hleases, ← List.countP_eq_length_filter, List.countP_append]
    by_cases hid : licenseId = license.id
    · rw [hid, countP_closed_self, Nat.zero_add]
      exact List.countP_le_length
    · have hlast : [lease].countP (fun l => l.licenseId == licenseId && l.status == .active) = 0 := by
        simp [hlic, Ne.symm hid]
      rw [hlast, Nat.add_zero]
      exact countP_closed_le.trans
        ((List.countP_eq_length_filter ..).trans_le (hi.one.atMostOne licenseId))
  · intro l' hl' hsup hs
    change l'.id ∈ s.superseded ++ _ at hsup
    rcases hcases l' hl' with rfl | ⟨he, -⟩ | ⟨hl, hother⟩
    · refine hnew ?_
      rcases List.mem_append.mp hsup with h | h
      · exact hi.known _ h
      · obtain ⟨l, hl, hid⟩ := List.mem_map.mp h
        exact hid ▸ List.mem_map_of_mem (List.mem_filter.mp hl).1
    · rw [he] at hs; cases hs
    · rcases List.mem_append.mp hsup with h | h
      · exact hi.one.gone l' hl h hs
      · obtain ⟨l, hl', hid⟩ := List.mem_map.mp h
        obtain ⟨hmem, hp⟩ := List.mem_filter.mp hl'
        rw [eq_of_key hi.ids hmem hl hid] at hp
        simp only [Bool.and_eq_true, beq_iff_eq] at hp
        exact hother hs hp.1

theorem supersedes_of_error {now : Time} {db : Db} {req : ActivationRequest} {draws : Draws}
    {e : Failure} (h : (activate now req draws db).1 = .error e) :
    (Call.activate req draws).supersedes now db = [] := by
  simp only [Call.supersedes, h]

theorem supersedes_of_ok {now : Time} {db : Db} {req : ActivationRequest} {draws : Draws}
    {resp : ActivationResponse} {license : License}
    (h : (activate now req draws db).1 = .ok resp)
    (hk : db.licenseByKey req.licenseKey = some license) :
    (Call.activate req draws).supersedes now db = (db.activeLeases license.id).map (·.id) := by
  simp only [Call.supersedes, h, hk]

theorem supersedes_of_not_activate {call : Call} {now : Time} {db : Db}
    (ha : ∀ req draws, call ≠ .activate req draws) : call.supersedes now db = [] := by
  cases call with
  | activate req draws => exact absurd rfl (ha req draws)
  | _ => rfl

/-- **Step.** The invariant is kept, unless a lease is revived. -/
theorem step_inv (hi : s.Inv) (hn : s.NoRevival event) : (s.step event).Inv := by
  obtain ⟨wait, call⟩ := event
  by_cases ha : ∃ req draws, call = .activate req draws
  · obtain ⟨req, draws, rfl⟩ := ha
    unfold step
    cases hr : (activate (s.now + wait) req draws s.db).1 with
    | error e =>
        rw [supersedes_of_error hr, List.append_nil]
        refine hi.of_calmed (Calmed.of_same ?_)
        exact congrArg Db.leases (activate_refused hr)
    | ok resp =>
        obtain ⟨license, lease, hk, hlic, hactive, hfresh, hleases⟩ := activate_leases hr
        rw [supersedes_of_ok hr hk]
        exact hi.of_activate hlic hfresh hleases hactive
  · have ha : ∀ req draws, call ≠ .activate req draws := fun req draws h => ha ⟨req, draws, h⟩
    unfold step
    rw [supersedes_of_not_activate ha, List.append_nil]
    refine hi.of_calmed ?_
    by_cases hb : ∃ deviceId sessionId, call = .heartbeat deviceId sessionId
    · obtain ⟨deviceId, sessionId, rfl⟩ := hb
      show Calmed s.db (heartbeat (s.now + wait) deviceId sessionId s.db).2
      by_cases hl : ∃ l, s.db.sessionLease deviceId sessionId = some l ∧ l.status ≠ .revoked
      · obtain ⟨l, hl, hr⟩ := hl
        have hactive : l.status = .active := by
          have hexp := hn deviceId sessionId rfl l hl
          cases hs : l.status with
          | active => rfl
          | expired => exact absurd hs hexp
          | revoked => exact absurd hs hr
        -- the lease has been active, and the renewal leaves it so
        refine Calmed.of_update (·.id == l.id) (renewed (s.now + wait)) ?_ (heartbeat_leases _ hl hr)
        intro l' hl' hid
        obtain rfl := eq_of_key hi.ids hl' (List.mem_of_find?_eq_some hl) (beq_iff_eq.mp hid)
        exact ⟨rfl, rfl, .inl hactive.symm⟩
      · refine Calmed.of_same (congrArg Db.leases (heartbeat_refused fun l hl' => ?_))
        by_contra hr
        exact hl ⟨l, hl', hr⟩
    · exact exec_calmed _ call s.db ha fun d sid h => hb ⟨d, sid, h⟩

/-- A heartbeat that finds an expired lease makes a superseded one active. -/
theorem step_revived (hi : s.Inv) (hn : ¬ s.NoRevival event) : ¬ (s.step event).OneActive := by
  obtain ⟨wait, call⟩ := event
  unfold NoRevival at hn
  push Not at hn
  obtain ⟨deviceId, sessionId, rfl, l, hl, hexp⟩ := hn
  have hmem : l ∈ s.db.leases := List.mem_of_find?_eq_some hl
  have hleases := heartbeat_leases (s.now + wait) hl (by rw [hexp]; decide)
  intro h
  refine h.gone (renewed (s.now + wait) l) ?_
    (List.mem_append_left _ (hi.expired l hmem hexp)) rfl
  show _ ∈ (heartbeat (s.now + wait) deviceId sessionId s.db).2.leases
  rw [hleases]
  exact mem_updateWhere.mpr ⟨l, hmem, if_pos (beq_self_eq_true _)⟩

/-- The invariant holds at the start. -/
theorem start_inv (db : Db) (now : Time) : (start db now).Inv where
  ids := List.nodup_nil
  expired := fun _ hl => absurd hl List.not_mem_nil
  known := fun _ hi => absurd hi List.not_mem_nil
  one :=
    { atMostOne := fun _ => Nat.zero_le 1
      gone := fun _ hl => absurd hl List.not_mem_nil }

/-- **One active session.** From tables with any licenses, devices and tokens but no session yet, a
license has at most one active lease in every state of a run, and no superseded lease is active
again, exactly when no heartbeat of the run finds the lease of its session expired. -/
theorem one_active_iff (db : Db) (now : Time) (events : List (ℕ × Call)) :
    Throughout step OneActive (start db now) events ↔
      Along step NoRevival (start db now) events := by
  apply throughout_iff_along (J := Inv)
  · exact fun s hi => hi.one
  · exact fun s event => step_inv
  · exact fun s event => step_revived
  · exact start_inv db now

/-- A license with room for two devices. -/
def twoSeats : Db where
  licenses := [{ id := 1, licenseKey := "K", status := .active, maxDevices := 2 }]

/-- The first terminal activates, then the second, and the first sends a heartbeat. -/
def supersededRun : List (ℕ × Call) :=
  [(0, .activate ⟨"K", some .exec, { machineGuid := some 1 }⟩ ⟨1, 1, 1, 1, 1⟩),
    (1000, .activate ⟨"K", some .exec, { machineGuid := some 2 }⟩ ⟨2, 2, 2, 2, 2⟩),
    (1000, .heartbeat 1 1)]

/-- Two leases of the license are active then, one of them superseded. -/
theorem superseded_revived : ¬ Throughout step OneActive (start twoSeats 0) supersededRun := by
  intro h
  have hone := (h supersededRun List.prefix_rfl).atMostOne 1
  exact absurd hone (by decide +kernel)

end Sessions
end PredictATrade.DeviceAuth
