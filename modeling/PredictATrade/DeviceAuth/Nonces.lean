import Mathlib.Logic.Function.Basic
import PredictATrade.Lib.Runs
import PredictATrade.DeviceAuth.Schema

/-!
# `DeviceAuth.Nonces` — signed requests and their nonces

`verifyRequestSignature`, statement by statement: the credential is looked up, the nonce is looked
up, the nonce is stored, and the signature is compared. Every statement commits at once, and the
statements of any number of calls interleave in any order. What the other methods do to devices,
credentials and licenses is an input of its own, which changes what the first statement finds.

The look-up and the `INSERT … ON CONFLICT DO NOTHING` are two statements, and the result of the
second is not looked at. And the nonce is stored before the signature is compared. So a nonce is used
once, and by a request whose signature is accepted, in the runs in which every nonce that is stored
is new at that moment, and belongs to a request whose signature is right (`single_use`).
-/

namespace PredictATrade.DeviceAuth.Nonces

open Lib.Runs

/-- A call of the service. -/
abbrev CallId := ℕ

/-! ## What a request says -/

/-- A signed request. -/
structure Request where
  deviceId : Id
  method : String
  path : String
  bodyHash : String
  timestamp : String
  nonce : String
  signature : String
  version : Option String := none
  deriving DecidableEq, Repr

/-- How far the timestamp of a request may be off. -/
def clockSkewSeconds : ℤ := 30

/-- The white space `parseInt` skips: tab to carriage return, the line separators, the byte order
mark, and the Unicode space separators. -/
def isSpace (c : Char) : Bool :=
  (9 ≤ c.toNat && c.toNat ≤ 13) || (0x2000 ≤ c.toNat && c.toNat ≤ 0x200A) ||
    c.toNat ∈ [0x20, 0xA0, 0x1680, 0x2028, 0x2029, 0x202F, 0x205F, 0x3000, 0xFEFF]

/-- `parseInt(text, 10)`: the leading integer, after white space; `none` is NaN. -/
def parseInt (text : String) : Option ℤ :=
  let value (cs : List Char) : Option ℤ :=
    let digits := cs.takeWhile Char.isDigit
    if digits = [] then none
    else some (digits.foldl (fun n c => 10 * n + (c.toNat - '0'.toNat : ℕ)) 0)
  match text.toList.dropWhile isSpace with
  | '-' :: cs => (value cs).map (- ·)
  | '+' :: cs => value cs
  | cs => value cs

/-- The value of a hexadecimal digit. -/
def hexDigit (c : Char) : Option ℕ :=
  if '0' ≤ c ∧ c ≤ '9' then some (c.toNat - '0'.toNat)
  else if 'a' ≤ c ∧ c ≤ 'f' then some (c.toNat - 'a'.toNat + 10)
  else if 'A' ≤ c ∧ c ≤ 'F' then some (c.toNat - 'A'.toNat + 10)
  else none

/-- `Buffer.from(text, 'hex')`: the bytes up to the first pair that is not hexadecimal. -/
def fromHex : List Char → List ℕ
  | a :: b :: cs =>
    match hexDigit a, hexDigit b with
    | some x, some y => (16 * x + y) :: fromHex cs
    | _, _ => []
  | _ => []

/-- The text that the device signs. -/
def Request.canonical (req : Request) : String :=
  let version := match req.version with
    | some v => if v = "" then "v1" else v
    | none => "v1"
  s!"{version}\n{req.timestamp}\n{req.nonce}\n{req.method.toUpper}\n{req.path}\n{req.bodyHash}\n" ++
    s!"{req.deviceId}"

/-- `crypto`: the stored secret decrypted, unless that fails, and the HMAC-SHA256 of a text. -/
structure Crypto where
  decryptSecret : String → Option String
  hmac : String → String → List ℕ

/-! ## Verdicts -/

/-- Why a request is refused. -/
inductive Reason where
  | invalidTimestamp
  | timestampOutOfWindow
  | noActiveCredential
  | deviceRevoked
  | credentialExpired
  | licenseNotActive
  | nonceAlreadyUsed
  | secretDecryptionFailed
  | signatureMismatch
  deriving DecidableEq, Repr

/-- The text of a reason. -/
def Reason.text : Reason → String
  | invalidTimestamp => "INVALID_TIMESTAMP"
  | timestampOutOfWindow => "TIMESTAMP_OUT_OF_WINDOW"
  | noActiveCredential => "NO_ACTIVE_CREDENTIAL"
  | deviceRevoked => "DEVICE_REVOKED"
  | credentialExpired => "CREDENTIAL_EXPIRED"
  | licenseNotActive => "LICENSE_NOT_ACTIVE"
  | nonceAlreadyUsed => "NONCE_ALREADY_USED"
  | secretDecryptionFailed => "SECRET_DECRYPTION_FAILED"
  | signatureMismatch => "SIGNATURE_MISMATCH"

/-- What a call comes to; storing a nonce of more than a hundred characters throws. -/
inductive Verdict where
  | valid
  | invalid (reason : Reason)
  | threw
  deriving DecidableEq, Repr

/-- The row the first statement finds: the newest credential of the device that is not revoked, with
the device and the license it is bound to, if any. -/
structure CredentialRow where
  credentialHash : String
  expiresAt : Option Time
  deviceRevoked : Option Time
  licenseStatus : Option LicenseStatus
  deriving DecidableEq, Repr

/-- The checks of the timestamp, before the first statement. -/
def checkTimestamp (now : Time) (req : Request) : Option Reason :=
  match parseInt req.timestamp with
  | none => some .invalidTimestamp
  | some ts =>
    if clockSkewSeconds * 1000 < (now - ts).natAbs then some .timestampOutOfWindow else none

/-- The checks of the credential, after the first statement. -/
def checkCredential (now : Time) (cred : CredentialRow) : Option Reason :=
  if cred.deviceRevoked.isSome then some .deviceRevoked
  else if cred.expiresAt.any fun t => decide (t < now) then some .credentialExpired
  else if cred.licenseStatus.any (· ≠ .active) then some .licenseNotActive
  else none

/-- The comparison of the signatures, after the last statement. -/
def compareSignature (k : Crypto) (req : Request) (cred : CredentialRow) : Verdict :=
  match k.decryptSecret cred.credentialHash with
  | none => .invalid .secretDecryptionFailed
  | some deviceSecret =>
    if fromHex req.signature.toList = k.hmac deviceSecret req.canonical then .valid
    else .invalid .signatureMismatch

/-! ## The system -/

/-- Where a call stands: the statement it will execute next, or what it has come to. -/
inductive Call where
  | lookupCredential (req : Request)
  | lookupNonce (req : Request) (cred : CredentialRow)
  | storeNonce (req : Request) (cred : CredentialRow)
  | compare (req : Request) (cred : CredentialRow)
  | done (req : Request) (verdict : Verdict)
  deriving DecidableEq, Repr

/-- The nonce that a call is about to store. -/
def Call.stores : Call → Option (Request × CredentialRow)
  | .storeNonce req cred => some (req, cred)
  | _ => none

/-- A position before the nonce is stored, or a refusal. -/
def Call.Short : Call → Prop
  | .compare _ _ => False
  | .done _ verdict => verdict ≠ .valid
  | _ => True

/-- A stored nonce, with the call that stored it, if that is one of the run. -/
structure NonceRow where
  deviceId : Id
  storedBy : Option CallId
  deriving DecidableEq, Repr

/-- The tables, the clock, and how far each call is. -/
structure State where
  now : Time
  credentials : Id → Option CredentialRow
  nonces : String → Option NonceRow
  calls : CallId → Option Call

/-- What happens: the clock moves, a credential changes, a call comes in or takes its next step. -/
inductive Input where
  | time (t : Time)
  | credential (deviceId : Id) (row : Option CredentialRow)
  | call (c : CallId) (req : Request)
  | exec (c : CallId)

namespace State

/-- Before the first call, with the nonces that earlier ones have stored. -/
def start (now : Time) (credentials : Id → Option CredentialRow) (used : String → Option Id) :
    State where
  now := now
  credentials := credentials
  nonces := fun n => (used n).map fun d => ⟨d, none⟩
  calls := fun _ => none

/-- The state with a call at another point. -/
def setCall (s : State) (c : CallId) (p : Call) : State :=
  { s with calls := Function.update s.calls c (some p) }

/-- Answer a call with the first check that fails, or let it go on. -/
def check (s : State) (c : CallId) (req : Request) (reason : Option Reason) (next : Call) : State :=
  s.setCall c <| match reason with
    | some r => .done req (.invalid r)
    | none => next

/-- `INSERT … ON CONFLICT DO NOTHING`. -/
def insertNonce (s : State) (c : CallId) (req : Request) : State :=
  match s.nonces req.nonce with
  | some _ => s
  | none => { s with nonces := Function.update s.nonces req.nonce (some ⟨req.deviceId, some c⟩) }

/-- The next statement of a call, with the code up to the one after it. -/
def advance (k : Crypto) (s : State) (c : CallId) : Call → State
  | .lookupCredential req =>
    match s.credentials req.deviceId with
    | none => s.setCall c (.done req (.invalid .noActiveCredential))
    | some cred => s.check c req (checkCredential s.now cred) (.lookupNonce req cred)
  | .lookupNonce req cred =>
    s.setCall c <|
      if (s.nonces req.nonce).isSome then .done req (.invalid .nonceAlreadyUsed)
      else .storeNonce req cred
  | .storeNonce req cred =>
    if 100 < req.nonce.length then s.setCall c (.done req .threw)
    else (s.insertNonce c req).setCall c (.compare req cred)
  | .compare req cred => s.setCall c (.done req (compareSignature k req cred))
  | .done _ _ => s

/-- The state after one more input. -/
def step (k : Crypto) (s : State) : Input → State
  | .time t => { s with now := t }
  | .credential d row => { s with credentials := Function.update s.credentials d row }
  | .call c req =>
    match s.calls c with
    | some _ => s
    | none => s.check c req (checkTimestamp s.now req) (.lookupCredential req)
  | .exec c =>
    match s.calls c with
    | some p => s.advance k c p
    | none => s

/-! ## Single use, and its condition -/

/-- The device and nonce of the request that the step accepts. -/
def accepted (k : Crypto) (s : State) : Input → Option (Id × String)
  | .exec c =>
    match s.calls c with
    | some (.compare req cred) =>
      if compareSignature k req cred = .valid then some (req.deviceId, req.nonce) else none
    | _ => none
  | _ => none

/-- No nonce in the table was stored by a call that has been refused. -/
def Unconsumed (s : State) : Prop :=
  ∀ nonce row c req verdict, s.nonces nonce = some row → row.storedBy = some c →
    s.calls c = some (.done req verdict) → verdict = .valid

/-- **Single use.** No device and nonce are accepted twice, and no refused request consumes a
nonce. -/
structure SingleUse (k : Crypto) (s₀ : State) (is : List Input) : Prop where
  once : (trace (step k) (accepted k) s₀ is).Nodup
  unconsumed : Throughout (step k) Unconsumed s₀ is

/-- The nonce that the step stores, if it is not too long. -/
def storing (s : State) : Input → Option (Request × CredentialRow)
  | .exec c => ((s.calls c).bind Call.stores).filter fun p => p.1.nonce.length ≤ 100
  | _ => none

/-- A nonce is stored only while it is still new, and for a request whose signature is right. -/
def Orderly (k : Crypto) (s : State) (i : Input) : Prop :=
  ∀ p ∈ s.storing i, s.nonces p.1.nonce = none ∧ compareSignature k p.1 p.2 = .valid

instance (k : Crypto) (s : State) : DecidablePred (Orderly k s) := fun i =>
  inferInstanceAs (Decidable
    (∀ p ∈ s.storing i, s.nonces p.1.nonce = none ∧ compareSignature k p.1 p.2 = .valid))

/-! ## The invariant -/

/-- A call that has stored its nonce, and has been accepted or will be. -/
def Passed (k : Crypto) (req : Request) (p : Call) : Prop :=
  (∃ cred, p = .compare req cred ∧ compareSignature k req cred = .valid) ∨ p = .done req .valid

/-- A nonce stored in the run and the call that has stored it belong together, and what has been
accepted was accepted for calls that are done. -/
structure Inv (k : Crypto) (s : State) (shown : List (Id × String)) : Prop where
  stored : ∀ c req p, s.calls c = some p →
    (∃ cred, p = .compare req cred) ∨ p = .done req .valid →
    ∃ row, s.nonces req.nonce = some row ∧ row.storedBy = some c
  passed : ∀ nonce row c, s.nonces nonce = some row → row.storedBy = some c →
    ∃ p req, s.calls c = some p ∧ Passed k req p
  answered : ∀ x ∈ shown, ∃ c req, s.calls c = some (.done req .valid) ∧
    (req.deviceId, req.nonce) = x
  nodup : shown.Nodup

section
variable {k : Crypto} {s : State} {shown : List (Id × String)} {c : CallId} {req : Request}
  {cred : CredentialRow} {p q : Call}

/-- The invariant holds at the start. -/
theorem start_inv (k : Crypto) (now : Time) (credentials : Id → Option CredentialRow)
    (used : String → Option Id) : Inv k (start now credentials used) [] where
  stored := fun c req p h => nomatch h
  passed := fun nonce row c h hby => by
    obtain ⟨d, -, rfl⟩ := Option.map_eq_some_iff.mp h
    cases hby
  answered := fun x hx => absurd hx List.not_mem_nil
  nodup := List.nodup_nil

theorem setCall_calls_self : (s.setCall c q).calls c = some q := Function.update_self _ _ _

theorem setCall_calls_of_ne {c' : CallId} (h : c' ≠ c) : (s.setCall c q).calls c' = s.calls c' :=
  Function.update_of_ne h _ _

/-- A call that has not stored its nonce moves on, and does not store it. -/
theorem Inv.setCall (hi : Inv k s shown)
    (hp : ∀ p, s.calls c = some p → ∀ req, ¬ Passed k req p)
    (hq : ∀ req, ¬ ((∃ cred, q = .compare req cred) ∨ q = .done req .valid)) :
    Inv k (s.setCall c q) shown where
  stored := fun c' req p h hpast => by
    by_cases hc : c' = c
    · subst hc
      rw [setCall_calls_self] at h
      obtain rfl := Option.some.inj h
      exact absurd hpast (hq req)
    · rw [setCall_calls_of_ne hc] at h
      exact hi.stored c' req p h hpast
  passed := fun nonce row c' h hby => by
    obtain ⟨p, req, hcall, hpast⟩ := hi.passed nonce row c' h hby
    have hc : c' ≠ c := by
      rintro rfl
      exact hp p hcall req hpast
    exact ⟨p, req, by rw [setCall_calls_of_ne hc]; exact hcall, hpast⟩
  answered := fun x hx => by
    obtain ⟨c', req, hcall, hreq⟩ := hi.answered x hx
    have hc : c' ≠ c := by
      rintro rfl
      exact hp _ hcall req (.inr rfl)
    exact ⟨c', req, by rw [setCall_calls_of_ne hc]; exact hcall, hreq⟩
  nodup := hi.nodup

theorem Inv.setCall_short (hi : Inv k s shown) (hp : ∀ p, s.calls c = some p → p.Short)
    (hq : q.Short) : Inv k (s.setCall c q) shown := by
  apply hi.setCall
  · intro p hcall req hpast
    have hshort := hp p hcall
    rcases hpast with ⟨cred, rfl, -⟩ | rfl
    · exact hshort
    · exact hshort rfl
  · rintro req (⟨cred, rfl⟩ | rfl)
    · exact hq
    · exact hq rfl

theorem Inv.check (hi : Inv k s shown) (hp : ∀ p, s.calls c = some p → p.Short)
    {reason : Option Reason} (hq : q.Short) : Inv k (s.check c req reason q) shown := by
  apply hi.setCall_short hp
  cases reason with
  | none => exact hq
  | some r => exact fun h => nomatch h

/-- A new nonce is stored, for a request whose signature is right. -/
theorem Inv.store (hi : Inv k s shown) (hcall : s.calls c = some (.storeNonce req cred))
    (hnew : s.nonces req.nonce = none) (hok : compareSignature k req cred = .valid) :
    Inv k ((s.insertNonce c req).setCall c (.compare req cred)) shown := by
  have hins : s.insertNonce c req =
      { s with nonces := Function.update s.nonces req.nonce (some ⟨req.deviceId, some c⟩) } := by
    unfold insertNonce
    rw [hnew]
  rw [hins]
  have hnonces : ∀ n row, s.nonces n = some row →
      Function.update s.nonces req.nonce (some ⟨req.deviceId, some c⟩) n = some row := by
    intro n row h
    rw [Function.update_of_ne, h]
    rintro rfl
    rw [hnew] at h
    cases h
  refine ⟨?_, ?_, ?_, hi.nodup⟩
  · intro c' req' p h hpast
    by_cases hc : c' = c
    · subst hc
      obtain rfl := Option.some.inj (setCall_calls_self.symm.trans h)
      rcases hpast with ⟨cred', he⟩ | he
      · cases he
        exact ⟨_, Function.update_self _ _ _, rfl⟩
      · cases he
    · rw [setCall_calls_of_ne hc] at h
      obtain ⟨row, hrow, hby⟩ := hi.stored c' req' p h hpast
      exact ⟨row, hnonces _ _ hrow, hby⟩
  · intro n row c' h hby
    by_cases hn : n = req.nonce
    · subst hn
      change Function.update s.nonces req.nonce _ req.nonce = some row at h
      rw [Function.update_self, Option.some.injEq] at h
      subst h
      obtain rfl := Option.some.inj hby
      exact ⟨_, req, setCall_calls_self, .inl ⟨cred, rfl, hok⟩⟩
    · change Function.update s.nonces req.nonce _ n = some row at h
      rw [Function.update_of_ne hn] at h
      obtain ⟨p, req', hc', hpast⟩ := hi.passed n row c' h hby
      have hc : c' ≠ c := by
        rintro rfl
        obtain rfl := Option.some.inj (hcall.symm.trans hc')
        rcases hpast with ⟨cred', he, -⟩ | he <;> cases he
      exact ⟨p, req', by rw [setCall_calls_of_ne hc]; exact hc', hpast⟩
  · intro x hx
    obtain ⟨c', req', hc', hreq⟩ := hi.answered x hx
    have hc : c' ≠ c := by
      rintro rfl
      cases hcall.symm.trans hc'
    exact ⟨c', req', by rw [setCall_calls_of_ne hc]; exact hc', hreq⟩

/-- The signature of a call that has stored its nonce is right. -/
theorem Inv.verdict (hi : Inv k s shown) (hcall : s.calls c = some (.compare req cred)) :
    compareSignature k req cred = .valid := by
  obtain ⟨row, hrow, hby⟩ := hi.stored c req _ hcall (.inl ⟨cred, rfl⟩)
  obtain ⟨p, req', hc, hpast⟩ := hi.passed _ row c hrow hby
  obtain rfl := Option.some.inj (hcall.symm.trans hc)
  rcases hpast with ⟨cred', he, hok⟩ | he
  · cases he; exact hok
  · cases he

/-- What is accepted has not been accepted before: there is one row for a nonce, and one call that
has stored it. -/
theorem Inv.accept (hi : Inv k s shown) (hcall : s.calls c = some (.compare req cred)) :
    Inv k (s.setCall c (.done req .valid)) (shown ++ [(req.deviceId, req.nonce)]) := by
  obtain ⟨row, hrow, hby⟩ := hi.stored c req _ hcall (.inl ⟨cred, rfl⟩)
  have hother : ∀ c' req', s.calls c' = some (.done req' .valid) → c' ≠ c := by
    rintro c' req' h rfl
    cases hcall.symm.trans h
  have hnew : (req.deviceId, req.nonce) ∉ shown := by
    intro hx
    obtain ⟨c', req', hc', hreq⟩ := hi.answered _ hx
    obtain ⟨row', hrow', hby'⟩ := hi.stored c' req' _ hc' (.inr rfl)
    rw [(Prod.mk.inj hreq).2, hrow] at hrow'
    obtain rfl := Option.some.inj hrow'
    exact hother c' req' hc' (Option.some.inj (hby'.symm.trans hby))
  refine ⟨?_, ?_, ?_, ?_⟩
  · intro c' req' p h hpast
    by_cases hc : c' = c
    · subst hc
      obtain rfl := Option.some.inj (setCall_calls_self.symm.trans h)
      rcases hpast with ⟨cred', he⟩ | he
      · cases he
      · cases he
        exact ⟨row, hrow, hby⟩
    · rw [setCall_calls_of_ne hc] at h
      exact hi.stored c' req' p h hpast
  · intro n row' c' h hby'
    obtain ⟨p, req', hc', hpast⟩ := hi.passed n row' c' h hby'
    by_cases hc : c' = c
    · subst hc
      exact ⟨_, req, setCall_calls_self, .inr rfl⟩
    · exact ⟨p, req', by rw [setCall_calls_of_ne hc]; exact hc', hpast⟩
  · intro x hx
    rcases List.mem_append.mp hx with hx | hx
    · obtain ⟨c', req', hc', hreq⟩ := hi.answered x hx
      exact ⟨c', req', by rw [setCall_calls_of_ne (hother c' req' hc')]; exact hc', hreq⟩
    · exact ⟨c, req, setCall_calls_self, (List.mem_singleton.mp hx).symm⟩
  · exact nodup_shown (o := some (req.deviceId, req.nonce)) hi.nodup fun x hx => by
      cases hx; exact hnew

end

/-! ## Runs -/

/-- **Step.** Stored nonces and the calls that have stored them go on belonging together. -/
theorem step_inv {k : Crypto} {s : State} {shown : List (Id × String)} {i : Input}
    (hi : Inv k s shown) (ho : Orderly k s i) :
    Inv k (s.step k i) (shown ++ (accepted k s i).toList) := by
  cases i with
  | time t => rw [show accepted k s (.time t) = none from rfl, Option.toList_none, List.append_nil]
              exact ⟨hi.stored, hi.passed, hi.answered, hi.nodup⟩
  | credential d row =>
      rw [show accepted k s (.credential d row) = none from rfl, Option.toList_none,
        List.append_nil]
      exact ⟨hi.stored, hi.passed, hi.answered, hi.nodup⟩
  | call c req =>
      rw [show accepted k s (.call c req) = none from rfl, Option.toList_none, List.append_nil]
      unfold step
      cases hc : s.calls c with
      | some p => simp only [hc]; exact hi
      | none =>
          simp only [hc]
          exact hi.check (fun p h => by rw [hc] at h; cases h) trivial
  | exec c =>
      unfold step accepted
      cases hc : s.calls c with
      | none => simp only [hc, Option.toList_none, List.append_nil]; exact hi
      | some p =>
          have hself : p.Short → ∀ p', s.calls c = some p' → p'.Short := fun h p' hp' =>
            Option.some.inj (hc.symm.trans hp') ▸ h
          cases p with
          | lookupCredential req =>
              simp only [hc, Option.toList_none, List.append_nil]
              simp only [advance]
              cases s.credentials req.deviceId with
              | none => exact hi.setCall_short (hself trivial) fun h => nomatch h
              | some cred => exact hi.check (hself trivial) trivial
          | lookupNonce req cred =>
              simp only [hc, Option.toList_none, List.append_nil]
              simp only [advance]
              apply hi.setCall_short (hself trivial)
              split_ifs
              · exact fun h => nomatch h
              · trivial
          | storeNonce req cred =>
              simp only [hc, Option.toList_none, List.append_nil]
              simp only [advance]
              by_cases hlong : 100 < req.nonce.length
              · rw [if_pos hlong]
                exact hi.setCall_short (hself trivial) fun h => nomatch h
              · rw [if_neg hlong]
                have hstores : s.storing (.exec c) = some (req, cred) := by
                  simp [storing, hc, Call.stores, not_lt.mp hlong]
                obtain ⟨hnew, hok⟩ := ho (req, cred) hstores
                exact hi.store hc hnew hok
          | compare req cred =>
              simp only [hc, hi.verdict hc, if_true, advance]
              exact hi.accept hc
          | done req verdict =>
              simp only [hc, Option.toList_none, List.append_nil]
              exact hi

theorem Inv.unconsumed {k : Crypto} {s : State} {shown : List (Id × String)} (hi : Inv k s shown) :
    Unconsumed s := by
  intro nonce row c req verdict hrow hby hcall
  obtain ⟨p, req', hc, hpast⟩ := hi.passed nonce row c hrow hby
  obtain rfl := Option.some.inj (hcall.symm.trans hc)
  rcases hpast with ⟨cred, he, -⟩ | he
  · cases he
  · cases he; rfl

/-- **Nonces are used once.** From any stored nonces and any credentials, in a run that stores each
nonce while it is new and for a request whose signature is right, no device and nonce are accepted
twice, and no refused request has consumed a nonce. -/
theorem single_use (k : Crypto) (now : Time) (credentials : Id → Option CredentialRow)
    (used : String → Option Id) (is : List Input)
    (h : Along (step k) (Orderly k) (start now credentials used) is) :
    SingleUse k (start now credentials used) is := by
  have hrun : ∀ pre, pre <+: is → Inv k (run (step k) (start now credentials used) pre)
      ([] ++ trace (step k) (accepted k) (start now credentials used) pre) := by
    rintro pre ⟨post, rfl⟩
    exact traced (fun s i shown hi ho => step_inv hi ho) (start_inv k now credentials used)
      (along_append.mp h).1
  constructor
  · exact (hrun is List.prefix_rfl).nodup
  · exact fun pre hp => (hrun pre hp).unconsumed

/-! ## Runs of one request, and of two at a time -/

/-- The key of the sample device, with the one text that it signs. -/
def sampleCrypto : Crypto where
  decryptSecret _ := some "test-device-secret"
  hmac secret text :=
    if secret = "test-device-secret" ∧ text = "v1\n1700000000000\nn1\nPOST\n" ++
        "/api/v1/devices/edge-poll\n" ++
        "44136fa355b3678a1146ad16f7e8649e94fb4fc21fe77e8310c060f61caaff8a\n1" then
      [69, 220, 103, 208, 105, 222, 9, 111, 231, 48, 212, 173, 142, 7, 244, 51, 160, 222, 237, 107,
        62, 5, 57, 141, 170, 8, 185, 253, 38, 85, 151, 234]
    else []

/-- A request to the poll, under this signature. -/
def sampleRequest (signature : String) : Request where
  deviceId := 1
  method := "POST"
  path := "/api/v1/devices/edge-poll"
  bodyHash := "44136fa355b3678a1146ad16f7e8649e94fb4fc21fe77e8310c060f61caaff8a"
  timestamp := "1700000000000"
  nonce := "n1"
  signature := signature

/-- The signature that fits it. -/
def rightSignature : String := "45dc67d069de096fe730d4ad8e07f433a0deed6b3e05398daa08b9fd265597ea"

/-- Device 1 has a credential, and no nonce is stored. -/
def sampleState : State :=
  start 1700000000000 (fun d => if d = 1 then some ⟨"c", none, none, some .active⟩ else none)
    fun _ => none

/-- The genuine request, and a replay of it afterwards. -/
def replayRun : List Input :=
  [.call 0 (sampleRequest rightSignature), .exec 0, .exec 0, .exec 0, .exec 0,
    .call 1 (sampleRequest rightSignature), .exec 1, .exec 1]

/-- A request that is sent twice is accepted once. -/
theorem single_use_replay :
    Along (step sampleCrypto) (Orderly sampleCrypto) sampleState replayRun ∧
      SingleUse sampleCrypto sampleState replayRun :=
  have h : Along (step sampleCrypto) (Orderly sampleCrypto) sampleState replayRun := by
    decide +kernel
  ⟨h, single_use _ _ _ _ _ h⟩

/-- The request and its replay arrive together: both look the nonce up before either stores it. -/
def togetherRun : List Input :=
  [.call 0 (sampleRequest rightSignature), .call 1 (sampleRequest rightSignature),
    .exec 0, .exec 1, .exec 0, .exec 1, .exec 0, .exec 1, .exec 0, .exec 1]

/-- A forged request with the nonce of the genuine one, which comes after it. -/
def forgedRun : List Input :=
  [.call 0 (sampleRequest "00"), .exec 0, .exec 0, .exec 0, .exec 0,
    .call 1 (sampleRequest rightSignature), .exec 1, .exec 1]

/-- A nonce is accepted twice in the first run, and in the second the refused request has consumed
the nonce of the genuine one, which is refused for it. -/
theorem nonce_reused_and_consumed :
    ¬ SingleUse sampleCrypto sampleState togetherRun ∧
      ¬ SingleUse sampleCrypto sampleState forgedRun ∧
      (run (step sampleCrypto) sampleState forgedRun).calls 1 =
        some (.done (sampleRequest rightSignature) (.invalid .nonceAlreadyUsed)) := by
  refine ⟨fun h => ?_, fun h => ?_, by decide +kernel⟩
  · exact absurd h.once (by decide +kernel)
  · have hrefused := h.unconsumed forgedRun List.prefix_rfl "n1" ⟨1, some 0⟩ 0 (sampleRequest "00")
      (.invalid .signatureMismatch) (by decide +kernel) rfl (by decide +kernel)
    cases hrefused

end State
end PredictATrade.DeviceAuth.Nonces
