import Mathlib.Data.Fintype.EquivFin
import PredictATrade.Lib.Runs
import PredictATrade.DeviceAuth.Service

/-!
# `DeviceAuth.Finality` — is a revocation final for tokens?

Once a device or its license is revoked, none of the refresh tokens issued to it so far should be
taken again, and nothing should be minted for it before it activates anew. The system remembers both
as it runs: the tokens that a revocation has `doomed`, and the devices that it has `barred`.

`revocation_final_iff`: a run keeps to that in every state it reaches exactly when each call of it
that revokes a device finds no live refresh token of the device.
-/

namespace PredictATrade.DeviceAuth
open Lib.Runs Lib.Table Lib.Attempt

/-! ## The system -/

/-- A call of the services. -/
inductive Call where
  | activate (req : ActivationRequest) (draws : Draws)
  | refresh (h : TokenHash) (deviceId : Option Id) (drawn : TokenHash)
  | heartbeat (deviceId sessionId : Id)
  | revokeDevice (deviceId : Id)
  | suspendLicense (id : Id)
  | deactivateLicense (id : Id)
  | revokeLicense (id : Id)
  | activateLicense (id : Id)
  | renewLicense (id : Id) (validDays : Option ℤ)
  | forceLogoutLicense (id : Id)

/-- The tables after a call made at `now`. -/
def exec (now : Time) : Call → Db → Db
  | .activate req draws, db => (activate now req draws db).2
  | .refresh h deviceId drawn, db => (refresh now h deviceId drawn db).2
  | .heartbeat deviceId sessionId, db => (heartbeat now deviceId sessionId db).2
  | .revokeDevice deviceId, db => revokeDevice now deviceId db
  | .suspendLicense id, db => (suspendLicense id db).2
  | .deactivateLicense id, db => (deactivateLicense id db).2
  | .revokeLicense id, db => (revokeLicense now id db).2
  | .activateLicense id, db => (activateLicense now id db).2
  | .renewLicense id validDays, db => (renewLicense now id validDays db).2
  | .forceLogoutLicense id, db => (forceLogoutLicense now id db).2

/-- The devices bound to a license that exists. -/
def Db.devicesOf (db : Db) (licenseId : Id) : List Id :=
  if (db.license licenseId).isSome then (db.boundTo licenseId).map (·.id) else []

/-- The devices that a call revokes, by themselves or with their license. -/
def Call.revokes (db : Db) : Call → List Id
  | .revokeDevice deviceId => [deviceId]
  | .revokeLicense id => db.devicesOf id
  | .forceLogoutLicense id => db.devicesOf id
  | _ => []

/-- The device that a call activates. -/
def Call.activates (now : Time) (db : Db) : Call → Option Id
  | .activate req draws => ((DeviceAuth.activate now req draws db).1.toOption).map (·.deviceId)
  | _ => none

/-- The tables, the time, and what the revocations so far have put an end to. -/
structure Sys where
  db : Db
  now : Time
  barred : List Id := []
  doomed : List TokenHash := []
  deriving DecidableEq, Repr

/-- The hashes of the tokens issued to one of the devices. -/
def Db.tokensOf (db : Db) (devices : List Id) : List TokenHash :=
  (db.tokens.filter (·.deviceId ∈ devices)).map (·.tokenHash)

/-- A call, some time after the one before. -/
def step (s : Sys) (event : ℕ × Call) : Sys :=
  let now := s.now + event.1
  let revoked := event.2.revokes s.db
  { db := exec now event.2 s.db
    now := now
    barred := (s.barred ++ revoked).filter (some · ≠ event.2.activates now s.db)
    doomed := s.doomed ++ s.db.tokensOf revoked }

/-- Revocation is final: no doomed token is taken now or later, and nothing is minted for a barred
device. -/
structure Final (s : Sys) : Prop where
  refused : ∀ (wait : ℕ) (h : TokenHash) (deviceId : Option Id) (drawn : TokenHash),
    h ∈ s.doomed → ∀ resp, (refresh (s.now + wait) h deviceId drawn s.db).1 ≠ .ok resp
  notMinted : ∀ (wait : ℕ) (h : TokenHash) (deviceId : Option Id) (drawn : TokenHash) resp,
    (refresh (s.now + wait) h deviceId drawn s.db).1 = .ok resp →
      resp.accessToken.sub ∉ s.barred

/-- The call revokes no device that still has a live refresh token. -/
def LeavesNoToken (s : Sys) (event : ℕ × Call) : Prop :=
  ∀ t ∈ s.db.tokens, t.deviceId ∈ event.2.revokes s.db → t.isLive (s.now + event.1) = false

instance (s : Sys) (event : ℕ × Call) : Decidable (LeavesNoToken s event) :=
  inferInstanceAs (Decidable (∀ t ∈ s.db.tokens, _ → _))

/-! ## What a refresh does -/

section
variable {now : Time} {h drawn : TokenHash} {deviceId : Option Id} {db db' : Db}
variable {t t' : RefreshToken} {resp : RefreshResponse}

theorem token_mem (ht : db.token h = some t) : t ∈ db.tokens ∧ t.tokenHash = h :=
  ⟨List.mem_of_find?_eq_some ht, by simpa using List.find?_some ht⟩

theorem token_of_mem (hnd : (db.tokens.map (·.tokenHash)).Nodup) (ht : t ∈ db.tokens) :
    db.token t.tokenHash = some t :=
  find?_of_key hnd ht

theorem insertToken_ok (hi : db.insertToken t = .ok db') :
    (∀ u ∈ db.tokens, u.tokenHash ≠ t.tokenHash) ∧
      db' = { db with tokens := db.tokens ++ [t] } := by
  obtain ⟨hfresh, heq⟩ := guard_ok hi
  refine ⟨?_, (Except.ok.inj heq).symm⟩
  simpa [List.any_eq_true] using hfresh

/-- The token table after a rotation: the old token used, the drawn one added. -/
theorem rotate_ok {r : RefreshResponse × Db} (hr : rotate now t drawn db = .ok r) :
    r.1.accessToken.sub = t.deviceId ∧
      (∀ u ∈ db.tokens, u.tokenHash ≠ drawn) ∧
      r.2.tokens = updateWhere (·.tokenHash == t.tokenHash)
        (fun u => { u with usedAt := some now }) db.tokens ++
          [newToken drawn t.deviceId t.tokenFamily now] := by
  obtain ⟨db1, hins, heq⟩ := bind_ok hr
  obtain ⟨hfresh, rfl⟩ := insertToken_ok hins
  obtain rfl := Except.ok.inj heq
  refine ⟨rfl, ?_, rfl⟩
  intro u hu
  have hu' := hfresh (if u.tokenHash == t.tokenHash then { u with usedAt := some now } else u)
    (mem_updateWhere.mpr ⟨u, hu, rfl⟩)
  intro heq
  refine hu' ?_
  split <;> exact heq

/-- A refresh succeeds only on a token that is live, and mints for the device of the token. -/
theorem refresh_ok (hr : (refresh now h deviceId drawn db).1 = .ok resp) :
    ∃ t, db.token h = some t ∧ t.isLive now = true ∧ resp.accessToken.sub = t.deviceId ∧
      ∃ db', rotate now t drawn db = .ok (resp, db') ∧
        (refresh now h deviceId drawn db).2 = db' := by
  unfold refresh at hr ⊢
  cases ht : db.token h with
  | none => simp [ht] at hr
  | some t =>
    simp only [ht] at hr ⊢
    split at hr
    · cases hr
    · rename_i hunused
      split at hr
      · cases hr
      · rename_i hunexpired
        split at hr
        · cases hr
        · rename_i hmatch
          cases hrot : rotate now t drawn db with
          | error e => rw [transaction_of_error hrot] at hr; cases hr
          | ok r =>
            obtain ⟨resp', db'⟩ := r
            rw [transaction_of_ok hrot] at hr
            obtain rfl := Except.ok.inj hr
            refine ⟨t, rfl, ?_, (rotate_ok hrot).1, db', hrot, ?_⟩
            · simp only [Bool.or_eq_true, not_or, Bool.not_eq_true,
                Option.isSome_eq_false_iff] at hunused
              simp [RefreshToken.isLive, hunused.1, hunused.2, hunexpired]
            · simp only [hunused, hunexpired, hmatch, Bool.false_eq_true, if_false,
                transaction_of_ok hrot]

/-- A live token is taken, whatever has become of its device or license. -/
theorem refresh_of_live (ht : db.token h = some t) (hl : t.isLive now = true)
    (hfresh : ∀ u ∈ db.tokens, u.tokenHash ≠ drawn) :
    ∃ resp, (refresh now h none drawn db).1 = .ok resp := by
  simp only [RefreshToken.isLive, Bool.and_eq_true, Option.isNone_iff_eq_none, Bool.not_eq_true',
    decide_eq_false_iff_not] at hl
  obtain ⟨⟨hu, hv⟩, he⟩ := hl
  have hany : (updateWhere (fun u : RefreshToken => u.tokenHash == t.tokenHash)
      (fun u => { u with usedAt := some now }) db.tokens).any
        (fun u => u.tokenHash == drawn) = false := by
    rw [List.any_eq_false]
    intro u hu
    obtain ⟨v, hv, rfl⟩ := mem_updateWhere.mp hu
    have := hfresh v hv
    split <;> simpa using this
  unfold refresh
  simp only [ht, hu, hv, he, Option.isSome_none, Bool.or_self, Bool.false_eq_true, if_false,
    Option.any_none]
  simp only [transaction, rotate, Db.insertToken, newToken, hany, Bool.false_eq_true, if_false,
    ok_bind, pure_eq_ok]
  exact ⟨_, rfl⟩

/-- A token that is not live will not be. -/
theorem not_live_later (hl : t.isLive now = false) (wait : ℕ) :
    t.isLive (now + wait) = false := by
  cases hlive : t.isLive (now + wait) with
  | false => rfl
  | true =>
    simp only [RefreshToken.isLive, Bool.and_eq_true, Bool.not_eq_true',
      decide_eq_false_iff_not] at hlive
    have hexp : ¬ t.expiresAt < now :=
      not_lt.mpr ((Int.le_add_of_nonneg_right (Int.natCast_nonneg wait)).trans (not_lt.mp hlive.2))
    simp [RefreshToken.isLive, hlive.1, hexp] at hl

end

/-! ## What a call does to the tokens -/

/-- The same token later: never less used, less revoked or longer lived. -/
structure Ages (t t' : RefreshToken) : Prop where
  tokenHash : t'.tokenHash = t.tokenHash
  deviceId : t'.deviceId = t.deviceId
  live : ∀ now, t.isLive now = false → t'.isLive now = false

/-- The token table grows: tokens age in place, and a new one, of a hash not seen before, belongs
to a device in `mints`. -/
structure Grows (mints : Id → Prop) (db db' : Db) : Prop where
  nodup : (db.tokens.map (·.tokenHash)).Nodup → (db'.tokens.map (·.tokenHash)).Nodup
  kept : ∀ t ∈ db.tokens, ∃ t' ∈ db'.tokens, Ages t t'
  origin : ∀ t' ∈ db'.tokens, (∃ t ∈ db.tokens, Ages t t') ∨
    ((∀ t ∈ db.tokens, t.tokenHash ≠ t'.tokenHash) ∧ mints t'.deviceId)

section
variable {now : Time} {db db' : Db} {mints : Id → Prop} {t : RefreshToken}

theorem Ages.refl (t : RefreshToken) : Ages t t := ⟨rfl, rfl, fun _ h => h⟩

theorem Grows.of_same (h : db'.tokens = db.tokens) : Grows mints db db' :=
  ⟨fun hnd => by rw [h]; exact hnd, fun t ht => ⟨t, by rw [h]; exact ht, Ages.refl t⟩,
    fun t ht => Or.inl ⟨t, by rw [← h]; exact ht, Ages.refl t⟩⟩

/-- An update that ages the tokens it touches. -/
theorem Grows.of_update {p : RefreshToken → Bool} {f : RefreshToken → RefreshToken}
    (hf : ∀ t, Ages t (f t)) (h : db'.tokens = updateWhere p f db.tokens) :
    Grows mints db db' := by
  have hage : ∀ t, Ages t (if p t then f t else t) := fun t => by
    split
    · exact hf t
    · exact Ages.refl t
  refine ⟨fun hnd => ?_, fun t ht => ?_, fun t' ht' => ?_⟩
  · rw [h, map_updateWhere fun t => (hf t).tokenHash]; exact hnd
  · exact ⟨_, by rw [h]; exact mem_updateWhere.mpr ⟨t, ht, rfl⟩, hage t⟩
  · rw [h] at ht'
    obtain ⟨t, ht, rfl⟩ := mem_updateWhere.mp ht'
    exact Or.inl ⟨t, ht, hage t⟩

/-- A token of a new hash is added. -/
theorem Grows.insert {db0 : Db} (hg : Grows mints db0 db)
    (hfresh : ∀ u ∈ db.tokens, u.tokenHash ≠ t.tokenHash) (hm : mints t.deviceId)
    (h : db'.tokens = db.tokens ++ [t]) : Grows mints db0 db' := by
  refine ⟨fun hnd => ?_, fun u hu => ?_, fun u hu => ?_⟩
  · rw [h, List.map_append, List.map_singleton]
    refine List.nodup_append.mpr ⟨hg.nodup hnd, List.nodup_singleton _, ?_⟩
    intro a ha b hb
    obtain ⟨u, hu, rfl⟩ := List.mem_map.mp ha
    rw [List.mem_singleton.mp hb]
    exact hfresh u hu
  · obtain ⟨u', hu', hage⟩ := hg.kept u hu
    exact ⟨u', by rw [h]; exact List.mem_append_left _ hu', hage⟩
  · rw [h] at hu
    rcases List.mem_append.mp hu with hu | hu
    · exact hg.origin u hu
    · obtain rfl := List.mem_singleton.mp hu
      refine Or.inr ⟨fun v hv heq => ?_, hm⟩
      obtain ⟨v', hv', hage⟩ := hg.kept v hv
      exact hfresh v' hv' (hage.tokenHash.trans heq)

theorem bindDevice_tokens {license : License} {req : ActivationRequest} {draws : Draws}
    {r : (Id × Bool) × Db} (h : bindDevice license req draws db = .ok r) :
    r.2.tokens = db.tokens := by
  cases hm : bestMatch req.fingerprint (db.usableDevices license.id) with
  | some d =>
    simp only [bindDevice, hm] at h
    obtain rfl := Except.ok.inj h
    rfl
  | none =>
    simp only [bindDevice, hm] at h
    split at h
    · obtain ⟨-, h⟩ := guard_ok h
      obtain rfl := Except.ok.inj h
      rfl
    · cases h

/-- An activation adds one token, for the device it activates. -/
theorem activate_grows (now : Time) (req : ActivationRequest) (draws : Draws) (db : Db) :
    Grows (fun d => (Call.activate req draws).activates now db = some d) db
      (activate now req draws db).2 := by
  cases hb : activateTx now req draws db with
  | error e => rw [activate, transaction_of_error hb]; exact Grows.of_same rfl
  | ok r =>
    obtain ⟨resp, db'⟩ := r
    have hact : (Call.activate req draws).activates now db = some resp.deviceId := by
      simp only [Call.activates, activate, transaction_of_ok hb, Except.toOption, Option.map_some]
    rw [show (activate now req draws db).2 = db' by rw [activate, transaction_of_ok hb]]
    unfold activateTx at hb
    split at hb
    · cases hb
    · obtain ⟨-, -, hb⟩ := bind_ok hb
      obtain ⟨⟨⟨deviceId, isNew⟩, db1⟩, hbind, hb⟩ := bind_ok hb
      obtain ⟨db2, hins, hb⟩ := bind_ok hb
      obtain ⟨hfresh, rfl⟩ := insertToken_ok hins
      obtain ⟨db3, hopen, hb⟩ := bind_ok hb
      obtain ⟨-, hopen⟩ := guard_ok hopen
      obtain rfl := Except.ok.inj hopen
      obtain ⟨rfl, rfl⟩ := Prod.mk.inj (Except.ok.inj hb)
      have hsame : db1.tokens = db.tokens := bindDevice_tokens hbind
      refine (Grows.of_same rfl).insert (t := newToken draws.refreshToken deviceId
        draws.tokenFamily now) ?_ hact ?_
      · rw [← hsame]; exact hfresh
      · rw [← hsame]; rfl

/-- A refresh adds at most one token, for the device it mints for. -/
theorem refresh_grows (now : Time) (h : TokenHash) (deviceId : Option Id) (drawn : TokenHash)
    (db : Db) :
    Grows (fun d => ∃ resp, (refresh now h deviceId drawn db).1 = .ok resp ∧
      resp.accessToken.sub = d) db (refresh now h deviceId drawn db).2 := by
  cases hr : (refresh now h deviceId drawn db).1 with
  | ok resp =>
    obtain ⟨t, ht, -, hsub, db', hrot, heq⟩ := refresh_ok hr
    obtain ⟨-, hfresh, htok⟩ := rotate_ok hrot
    rw [heq]
    have hused : Grows (fun d => ∃ resp', (Except.ok resp : Except Failure RefreshResponse) =
        .ok resp' ∧ resp'.accessToken.sub = d) db
        { db with
          tokens := updateWhere (·.tokenHash == t.tokenHash)
            (fun u => { u with usedAt := some now }) db.tokens } :=
      Grows.of_update (p := fun u => u.tokenHash == t.tokenHash)
        (f := fun u => { u with usedAt := some now })
        (fun u => ⟨rfl, rfl, fun _ _ => by simp [RefreshToken.isLive]⟩) rfl
    refine hused.insert (t := newToken drawn t.deviceId t.tokenFamily now) ?_
      ⟨resp, rfl, hsub⟩ htok
    intro u hu
    obtain ⟨v, hv, rfl⟩ := mem_updateWhere.mp hu
    have := hfresh v hv
    split <;> exact this
  | error e =>
    unfold refresh at hr ⊢
    split
    · exact Grows.of_same rfl
    · rename_i t ht
      simp only [ht] at hr
      split
      · -- reuse: the family is revoked
        refine Grows.of_update (p := fun u => u.tokenFamily == t.tokenFamily && u.revokedAt.isNone)
          (f := fun u => { u with revokedAt := some now }) ?_ rfl
        exact fun u => ⟨rfl, rfl, fun _ _ => by simp [RefreshToken.isLive]⟩
      · rename_i hunused
        simp only [hunused, Bool.false_eq_true, if_false] at hr
        split
        · exact Grows.of_same rfl
        · rename_i hexp
          simp only [hexp, if_false] at hr
          split
          · exact Grows.of_same rfl
          · rename_i hmatch
            simp only [hmatch, Bool.false_eq_true, if_false] at hr
            cases hrot : rotate now t drawn db with
            | error e => rw [transaction_of_error hrot]; exact Grows.of_same rfl
            | ok r => rw [transaction_of_ok hrot] at hr; cases hr

theorem changeLicense_tokens {id : Id} {f : Db → Db} (hf : ∀ db, (f db).tokens = db.tokens) :
    (changeLicense id f db).2.tokens = db.tokens := by
  unfold changeLicense
  split
  · rfl
  · exact hf db

/-- Only activations and refreshes touch the tokens. -/
theorem exec_tokens {call : Call} (ha : ∀ req draws, call ≠ .activate req draws)
    (hr : ∀ h deviceId drawn, call ≠ .refresh h deviceId drawn) :
    (exec now call db).tokens = db.tokens := by
  cases call with
  | activate req draws => exact absurd rfl (ha req draws)
  | refresh h deviceId drawn => exact absurd rfl (hr h deviceId drawn)
  | heartbeat deviceId sessionId =>
    show (heartbeat now deviceId sessionId db).2.tokens = db.tokens
    unfold heartbeat
    split
    · rfl
    · split
      · rfl
      · split <;> rfl
  | revokeDevice deviceId => rfl
  | suspendLicense id =>
    show (suspendLicense id db).2.tokens = db.tokens
    unfold suspendLicense
    split
    · rfl
    · split <;> rfl
  | deactivateLicense id => exact changeLicense_tokens fun _ => rfl
  | revokeLicense id => exact changeLicense_tokens fun _ => rfl
  | activateLicense id => exact changeLicense_tokens fun _ => rfl
  | renewLicense id validDays => exact changeLicense_tokens fun _ => rfl
  | forceLogoutLicense id => exact changeLicense_tokens fun _ => rfl

end

/-- The device that a call adds a token for: the one it activates, or mints for. -/
def Call.mints (now : Time) (db : Db) (d : Id) : Call → Prop
  | .refresh h deviceId drawn => ∃ resp,
      (DeviceAuth.refresh now h deviceId drawn db).1 = .ok resp ∧ resp.accessToken.sub = d
  | call => call.activates now db = some d

/-- **One call, for the tokens.** -/
theorem exec_grows (now : Time) (call : Call) (db : Db) :
    Grows (fun d => call.mints now db d) db (exec now call db) := by
  cases call with
  | activate req draws => exact activate_grows now req draws db
  | refresh h deviceId drawn => exact refresh_grows now h deviceId drawn db
  | heartbeat => exact Grows.of_same (exec_tokens (by simp) (by simp))
  | revokeDevice => exact Grows.of_same (exec_tokens (by simp) (by simp))
  | suspendLicense => exact Grows.of_same (exec_tokens (by simp) (by simp))
  | deactivateLicense => exact Grows.of_same (exec_tokens (by simp) (by simp))
  | revokeLicense => exact Grows.of_same (exec_tokens (by simp) (by simp))
  | activateLicense => exact Grows.of_same (exec_tokens (by simp) (by simp))
  | renewLicense => exact Grows.of_same (exec_tokens (by simp) (by simp))
  | forceLogoutLicense => exact Grows.of_same (exec_tokens (by simp) (by simp))

/-- A call that revokes a device leaves the tokens as they are. -/
theorem exec_tokens_of_revokes {now : Time} {call : Call} {db : Db} {d : Id}
    (h : d ∈ call.revokes db) : (exec now call db).tokens = db.tokens := by
  refine exec_tokens (fun req draws heq => ?_) fun _ _ _ heq => ?_
  · rw [heq] at h; cases h
  · rw [heq] at h; cases h

/-! ## The invariant -/

/-- The hashes of the tokens are unique, as the index on them has it. -/
def UniqueTokens (db : Db) : Prop := (db.tokens.map (·.tokenHash)).Nodup

instance (db : Db) : Decidable (UniqueTokens db) :=
  inferInstanceAs (Decidable (List.Nodup _))

/-- Why revocation is final as long as it is: the doomed tokens are on file and dead, and every token
of a barred device is doomed. -/
structure Spent (s : Sys) : Prop where
  unique : UniqueTokens s.db
  onFile : ∀ h ∈ s.doomed, ∃ t ∈ s.db.tokens, t.tokenHash = h
  dead : ∀ t ∈ s.db.tokens, t.tokenHash ∈ s.doomed → t.isLive s.now = false
  barred : ∀ t ∈ s.db.tokens, t.deviceId ∈ s.barred → t.tokenHash ∈ s.doomed

section
variable {s : Sys} {event : ℕ × Call} {d : Id} {h : TokenHash}

theorem Spent.final (hs : Spent s) : Final s := by
  have hrefuse : ∀ (wait : ℕ) h deviceId drawn resp,
      (refresh (s.now + wait) h deviceId drawn s.db).1 = .ok resp → h ∉ s.doomed := by
    intro wait h deviceId drawn resp hr hd
    obtain ⟨t, ht, hl, -⟩ := refresh_ok hr
    obtain ⟨hmem, rfl⟩ := token_mem ht
    exact absurd hl (by simp [not_live_later (hs.dead t hmem hd) wait])
  refine ⟨fun wait h deviceId drawn hd resp hr => hrefuse wait h deviceId drawn resp hr hd, ?_⟩
  intro wait h deviceId drawn resp hr hbar
  obtain ⟨t, ht, -, hsub, -⟩ := refresh_ok hr
  obtain ⟨hmem, rfl⟩ := token_mem ht
  rw [hsub] at hbar
  exact hrefuse wait _ deviceId drawn resp hr (hs.barred t hmem hbar)

theorem mem_tokensOf {db : Db} {devices : List Id} :
    h ∈ db.tokensOf devices ↔ ∃ t ∈ db.tokens, t.deviceId ∈ devices ∧ t.tokenHash = h := by
  simp only [Db.tokensOf, List.mem_map, List.mem_filter, decide_eq_true_eq, and_assoc]

/-- A call that revokes no device with a live token keeps the invariant. -/
theorem Spent.step (hs : Spent s) (hc : LeavesNoToken s event) : Spent (step s event) := by
  obtain ⟨wait, call⟩ := event
  have hg := exec_grows (s.now + wait) call s.db
  have honFile : ∀ h ∈ s.doomed ++ s.db.tokensOf (call.revokes s.db),
      ∃ t ∈ s.db.tokens, t.tokenHash = h := by
    intro h hh
    rcases List.mem_append.mp hh with hh | hh
    · exact hs.onFile h hh
    · obtain ⟨t, ht, -, heq⟩ := mem_tokensOf.mp hh
      exact ⟨t, ht, heq⟩
  refine ⟨hg.nodup hs.unique, ?_, ?_, ?_⟩
  · -- no token leaves the file
    intro h hh
    obtain ⟨t, ht, rfl⟩ := honFile h hh
    obtain ⟨t', ht', hage⟩ := hg.kept t ht
    exact ⟨t', ht', hage.tokenHash⟩
  · -- a doomed token was dead already, or is one that the call has just doomed
    intro t' ht' hd
    rcases hg.origin t' ht' with ⟨t, ht, hage⟩ | ⟨hnew, -⟩
    · refine hage.live _ ?_
      rw [hage.tokenHash] at hd
      rcases List.mem_append.mp hd with hd | hd
      · exact not_live_later (hs.dead t ht hd) wait
      · obtain ⟨u, hu, hrev, heq⟩ := mem_tokensOf.mp hd
        obtain rfl := eq_of_key hs.unique hu ht heq
        exact hc u hu hrev
    · obtain ⟨t, ht, heq⟩ := honFile _ hd
      exact absurd heq (hnew t ht)
  · -- a token of a barred device is old: what is minted is minted for other devices
    intro t' ht' hbar
    obtain ⟨hbar, hact⟩ := List.mem_filter.mp hbar
    have hact : some t'.deviceId ≠ call.activates (s.now + wait) s.db := by simpa using hact
    rcases hg.origin t' ht' with ⟨t, ht, hage⟩ | ⟨-, hmint⟩
    · rw [hage.deviceId] at hbar
      rw [hage.tokenHash]
      rcases List.mem_append.mp hbar with hbar | hbar
      · exact List.mem_append_left _ (hs.barred t ht hbar)
      · exact List.mem_append_right _ (mem_tokensOf.mpr ⟨t, ht, hbar, rfl⟩)
    · exfalso
      cases call with
      | refresh h deviceId drawn =>
        obtain ⟨resp, hr, hsub⟩ := hmint
        have hbar' : t'.deviceId ∈ s.barred := by simpa [Call.revokes] using hbar
        exact hs.final.notMinted wait h deviceId drawn resp hr (hsub ▸ hbar')
      | _ => exact hact hmint.symm

/-- A draw that no token on file has. -/
theorem exists_fresh (db : Db) : ∃ drawn, ∀ u ∈ db.tokens, u.tokenHash ≠ drawn := by
  obtain ⟨drawn, hd⟩ := Infinite.exists_notMem_finset (db.tokens.map (·.tokenHash)).toFinset
  exact ⟨drawn, fun u hu heq => hd (by simpa [heq] using ⟨u, hu, heq⟩)⟩

/-- A call that revokes a device with a live token leaves the token to be taken at once. -/
theorem not_final_step (hs : Spent s) (hc : ¬ LeavesNoToken s event) : ¬ Final (step s event) := by
  obtain ⟨wait, call⟩ := event
  intro hfin
  obtain ⟨t, ht, hrev, hlive⟩ : ∃ t ∈ s.db.tokens, t.deviceId ∈ call.revokes s.db ∧
      t.isLive (s.now + wait) = true := by
    simpa [LeavesNoToken] using hc
  have hsame : (exec (s.now + wait) call s.db).tokens = s.db.tokens := exec_tokens_of_revokes hrev
  have hfound : (exec (s.now + wait) call s.db).token t.tokenHash = some t := by
    rw [Db.token, hsame]; exact token_of_mem hs.unique ht
  obtain ⟨drawn, hfresh⟩ := exists_fresh (exec (s.now + wait) call s.db)
  obtain ⟨resp, hr⟩ := refresh_of_live hfound hlive hfresh
  have hdoomed : t.tokenHash ∈ (step s (wait, call)).doomed :=
    List.mem_append_right _ (mem_tokensOf.mpr ⟨t, ht, hrev, rfl⟩)
  have hnow : (step s (wait, call)).now + ((0 : ℕ) : Time) = s.now + wait := by simp [step]
  refine hfin.refused 0 t.tokenHash none drawn hdoomed resp ?_
  rw [hnow]
  exact hr

end

/-- The start of a run, from any tables. Only revocations of the run itself doom tokens and bar
devices: what the tables already hold as revoked is not counted. -/
def start (db : Db) (now : Time) : Sys := { db := db, now := now }

/-- Nothing is doomed at the start. -/
theorem spent_start {db : Db} (h : UniqueTokens db) (now : Time) : Spent (start db now) :=
  ⟨h, fun h hh => absurd hh (by simp [start]), fun t _ hh => absurd hh (by simp [start]),
    fun t _ hh => absurd hh (by simp [start])⟩

/-- **When revocation is final.** In every state of a run of the services, from any tables with
unique tokens, the tokens that a revocation of the run has doomed are refused and nothing is minted
for a device it has barred, exactly when each call that revokes a device finds no live refresh token
of the device. -/
theorem revocation_final_iff (db : Db) (h : UniqueTokens db) (now : Time)
    (calls : List (ℕ × Call)) :
    Throughout step Final (start db now) calls ↔ Along step LeavesNoToken (start db now) calls :=
  throughout_iff_along (J := Spent) (fun _ hs => hs.final) (fun _ _ hs hc => hs.step hc)
    (fun _ _ hs hc => not_final_step hs hc) (spent_start h now)

/-! ## Two runs -/

/-- One license with room for a device, and nothing issued yet. -/
def oneLicense : Db :=
  { licenses := [{ id := 1, licenseKey := "PAT-1", status := .active }] }

/-- The activation of a terminal on the license: device 10, token 500. -/
def firstActivation : Call :=
  .activate { licenseKey := "PAT-1", role := some .exec, fingerprint := { machineGuid := some 7 } }
    { deviceId := 10, tokenFamily := 20, refreshToken := 500, sessionId := 30, leaseId := 40 }

/-- A device revoked a month after its only token has expired leaves nothing behind. -/
theorem revocation_final_of_expired :
    Throughout step Final (start oneLicense 0)
      [(0, firstActivation), (31 * 86400000, .revokeDevice 10), (5, .refresh 500 none 501)] :=
  (revocation_final_iff oneLicense (by decide) 0 _).mpr (by
    refine ⟨?_, ?_, ?_, trivial⟩ <;> decide +kernel)

/-- The activation and a revocation, a minute later. -/
def revokedRun (revocation : Call) : Sys :=
  run step (start oneLicense 0) [(0, firstActivation), (60, revocation)]

/-- The token of the activation is still taken after a revocation: the answer is an access token for
the device, and a refresh token that is taken in turn. -/
def StillTaken (revocation : Call) : Prop :=
  let s := revokedRun revocation
  (refresh (s.now + 60) 500 none 501 s.db).1 = .ok ⟨⟨10, some .exec, none, none⟩, 501⟩ ∧
    (refresh (s.now + 120) 501 none 502 (refresh (s.now + 60) 500 none 501 s.db).2).1 =
      .ok ⟨⟨10, some .exec, none, none⟩, 502⟩

instance (revocation : Call) : Decidable (StillTaken revocation) :=
  inferInstanceAs (Decidable (_ ∧ _))

theorem StillTaken.not_final {revocation : Call} (h : StillTaken revocation)
    (hdoomed : 500 ∈ (revokedRun revocation).doomed) :
    ¬ Throughout step Final (start oneLicense 0) [(0, firstActivation), (60, revocation)] :=
  fun hfin => (hfin _ List.prefix_rfl).refused 60 500 none 501 hdoomed _ h.1

/-- **Tokens after a revocation.** Whether the device or its license is revoked, the token of the
activation is still taken afterwards. -/
theorem revoked_device_refreshes :
    (¬ Throughout step Final (start oneLicense 0) [(0, firstActivation), (60, .revokeDevice 10)] ∧
      StillTaken (.revokeDevice 10)) ∧
    (¬ Throughout step Final (start oneLicense 0) [(0, firstActivation), (60, .revokeLicense 1)] ∧
      StillTaken (.revokeLicense 1)) := by
  have hdevice : StillTaken (.revokeDevice 10) := by decide +kernel
  have hlicense : StillTaken (.revokeLicense 1) := by decide +kernel
  refine ⟨⟨hdevice.not_final ?_, hdevice⟩, hlicense.not_final ?_, hlicense⟩ <;> decide +kernel

end PredictATrade.DeviceAuth
