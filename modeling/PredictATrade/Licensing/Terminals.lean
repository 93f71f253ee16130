import PredictATrade.Lib.Runs
import PredictATrade.Lib.Table

/-!
# `Licensing.Terminals` — one active terminal a device

`registerTerminal` switches the active terminals of a device off, counts those that are left, and
inserts a new one, each in a statement of its own and without a transaction. So three things can go
wrong: two calls for a device both insert; a call throws when it has switched terminals off already
(the insertion of a login that is on file is refused by a unique index); and the terminals of a license
are counted on one device only.

`kept_throughout_iff` says which runs of any number of calls stay clear of all three.
-/

namespace PredictATrade.Licensing

open Lib.Runs Lib.Table

/-- An identifier of a row. -/
abbrev Id := ℕ

/-- A point in time. -/
abbrev Time := ℤ

/-! ## Tables -/

/-- A row of `licensing.licenses`. -/
structure License where
  id : Id
  userId : Id
  licenseKey : String
  active : Bool
  maxMtAccounts : ℤ
  deriving DecidableEq, Repr

/-- A row of `licensing.devices`. -/
structure Device where
  id : Id
  userId : Id
  boundLicenseId : Option Id := none
  deleted : Bool := false
  lastSeenAt : Option Time := none
  fingerprintHash : String := ""
  deriving DecidableEq, Repr

/-- A row of `licensing.device_activations`. -/
structure Activation where
  id : Id
  licenseId : Id
  deviceId : Id
  clientType : String
  terminalBuild : Option String
  eaVersion : Option String
  brokerName : Option String
  brokerServer : Option String
  mtAccountLogin : Option String
  installationId : String
  fingerprintHash : String
  activatedAt : Time
  deactivatedAt : Option Time := none
  deriving DecidableEq, Repr

/-- The activation is the device's, and active. -/
def Activation.activeOf (device : Id) (a : Activation) : Bool :=
  a.deactivatedAt.isNone && a.deviceId == device

/-- The activation is on the license, and active. -/
def Activation.activeOn (license : Id) (a : Activation) : Bool :=
  a.deactivatedAt.isNone && a.licenseId == license

/-- What a client sends. A text that is missing where an empty one is read the same is empty. -/
structure Body where
  deviceId : Option Id := none
  licenseKey : String := ""
  clientType : Option String := none
  terminalBuild : Option String := none
  eaVersion : Option String := none
  brokerName : Option String := none
  brokerServer : Option String := none
  mtAccountLogin : Option String := none
  installationId : String := ""
  fingerprintHash : String := ""
  /-- Machine, system, board, disk and installation. -/
  fingerprint : Option (List String) := none

/-- The hash that is sent, else that of the fingerprint. -/
def Body.hash (sha256 : String → String) (b : Body) : String :=
  if b.fingerprintHash ≠ "" then b.fingerprintHash
  else
    match b.fingerprint with
    | some parts => sha256 ("|".intercalate parts)
    | none => ""

/-! ## Calls -/

/-- How a call fails. -/
inductive Failure where
  | badRequest (text : String)
  | query
  deriving DecidableEq, Repr

/-- A call, with the id that it draws for the new row. -/
structure Task where
  userId : Id
  body : Body
  drawn : Id

/-- How far a call is. `off` are the rows it has switched off; `put` says that it has inserted one. -/
inductive Phase where
  | start
  /-- The license of the key has been found. -/
  | licensed (license : Id)
  | found (device : Id)
  | deactivated (device : Id) (off : List Id)
  /-- The license of the device has been read. -/
  | counting (device : Id) (license : License) (off : List Id)
  | inserting (device : Id) (license : Option Id) (off : List Id)
  | inserted (device : Id) (off : List Id)
  | returned
  | threw (e : Failure) (off : List Id) (put : Bool)
  deriving DecidableEq, Repr

/-- The licenses, with their primary key, the calls that are made, and the hash function. -/
structure System where
  licenses : List License
  key : (licenses.map (·.id)).Nodup
  tasks : ℕ → Task
  sha256 : String → String

/-- The tables, and how far each call is. -/
structure State where
  devices : List Device
  activations : List Activation
  calls : ℕ → Phase

/-- The tables before any call. -/
def start (devices : List Device) (activations : List Activation) : State where
  devices := devices
  activations := activations
  calls _ := .start

namespace State

/-- The active terminals of a device. -/
def activeOf (s : State) (device : Id) : ℕ := s.activations.countP (·.activeOf device)

/-- The active terminals of a license. -/
def activeOn (s : State) (license : Id) : ℕ := s.activations.countP (·.activeOn license)

/-- The state with a call at another point. -/
def goto (s : State) (c : ℕ) (p : Phase) : State := { s with calls := Function.update s.calls c p }

end State

/-- `last_seen_at` is earlier; a missing one is the latest of all, as `ORDER BY … DESC` has it. -/
def Device.seenBefore (a b : Device) : Bool :=
  match a.lastSeenAt, b.lastSeenAt with
  | none, _ => false
  | some _, none => true
  | some x, some y => decide (x < y)

/-- `ORDER BY last_seen_at DESC LIMIT 1`. -/
def latest (ds : List Device) : Option Device :=
  ds.foldl (fun best d => if best.all (·.seenBefore d) then some d else best) none

/-- The failure of a call for a device that is not registered. -/
def deviceNotFound : Failure := .badRequest "Device not found. Register the device first."

namespace System

variable (y : System)

/-- The first query of a call: the device that is named, or the license of the key. -/
def find (s : State) (task : Task) (ok : Bool) : Phase :=
  match task.body.deviceId with
  | some d =>
    if !ok then .threw .query [] false
    else if s.devices.any fun r => r.id == d && r.userId == task.userId && !r.deleted then .found d
    else .threw (.badRequest "Device not found for this user") [] false
  | none =>
    if task.body.licenseKey = "" then .threw deviceNotFound [] false
    else if !ok then .threw .query [] false
    else
      match y.licenses.find? fun l =>
        l.licenseKey == task.body.licenseKey && l.userId == task.userId && l.active with
      | some l => .licensed l.id
      | none => .threw (.badRequest "Invalid license key") [] false

/-- The device that is bound to the license. -/
def findBound (s : State) (task : Task) (license : Id) (ok : Bool) : Phase :=
  if !ok then .threw .query [] false
  else
    match latest (s.devices.filter fun r =>
      r.boundLicenseId == some license && r.userId == task.userId && !r.deleted) with
    | some d => .found d.id
    | none => .threw deviceNotFound [] false

/-- The license that the device is bound to. -/
def licenseOf (s : State) (device : Id) : Option License :=
  ((s.devices.find? (·.id == device)).bind (·.boundLicenseId)).bind fun id =>
    y.licenses.find? (·.id == id)

/-- The row to insert. The license and the client type may not be missing. -/
def newActivation (task : Task) (device : Id) (license : Option Id) (now : Time) : Option Activation :=
  match license, task.body.clientType with
  | some licenseId, some clientType =>
    some {
      id := task.drawn, licenseId, deviceId := device, clientType
      terminalBuild := task.body.terminalBuild, eaVersion := task.body.eaVersion
      brokerName := task.body.brokerName, brokerServer := task.body.brokerServer
      mtAccountLogin := task.body.mtAccountLogin, installationId := task.body.installationId
      fingerprintHash := task.body.hash y.sha256, activatedAt := now }
  | _, _ => none

end System

/-- The primary key, and the unique index of license and login. -/
def State.conflicts (s : State) (row : Activation) : Bool :=
  s.activations.any fun r =>
    r.id == row.id ||
      (r.licenseId == row.licenseId && r.mtAccountLogin == row.mtAccountLogin &&
        row.mtAccountLogin.any (· != ""))

/-- Call number `call` comes to its next statement, which may fail. -/
structure Act where
  call : ℕ
  ok : Bool := true
  now : Time := 0

namespace System

variable (y : System)

/-- The row that the insertion puts in the table, if it succeeds. -/
def inserts (s : State) (a : Act) (device : Id) (license : Option Id) : Option Activation :=
  if a.ok then
    (y.newActivation (y.tasks a.call) device license a.now).filter fun row => !s.conflicts row
  else none

/-- `UPDATE licensing.device_activations SET deactivated_at = now()`, for a device. -/
def deactivate (s : State) (a : Act) (device : Id) : State :=
  { s with
    activations := updateWhere (·.activeOf device) (fun r => { r with deactivatedAt := some a.now })
      s.activations }

/-- `UPDATE licensing.devices`, at the end. -/
def touchDevice (s : State) (a : Act) (device : Id) : State :=
  { s with
    devices := updateWhere (·.id == device)
      (fun r =>
        { r with
          lastSeenAt := some a.now
          fingerprintHash := (y.tasks a.call).body.hash y.sha256 })
      s.devices }

/-- One statement of `registerTerminal`. -/
def step (s : State) (a : Act) : State :=
  match s.calls a.call with
  | .start => s.goto a.call (y.find s (y.tasks a.call) a.ok)
  | .licensed license => s.goto a.call (findBound s (y.tasks a.call) license a.ok)
  | .found device =>
    if a.ok then
      (deactivate s a device).goto a.call
        (.deactivated device ((s.activations.filter (·.activeOf device)).map (·.id)))
    else s.goto a.call (.threw .query [] false)
  | .deactivated device off =>
    if !a.ok then s.goto a.call (.threw .query off false)
    else
      match y.licenseOf s device with
      | some license => s.goto a.call (.counting device license off)
      | none => s.goto a.call (.inserting device none off)
  | .counting device license off =>
    if !a.ok then s.goto a.call (.threw .query off false)
    else if license.maxMtAccounts ≤ s.activeOf device then
      s.goto a.call
        (.threw (.badRequest "Maximum MT account limit reached for this license") off false)
    else s.goto a.call (.inserting device (some license.id) off)
  | .inserting device license off =>
    match y.inserts s a device license with
    | some row => { s with activations := s.activations ++ [row] }.goto a.call (.inserted device off)
    | none => s.goto a.call (.threw .query off false)
  | .inserted device off =>
    if a.ok then (y.touchDevice s a device).goto a.call .returned
    else s.goto a.call (.threw .query off true)
  | .returned => s
  | .threw _ _ _ => s

end System

/-! ## What has to hold -/

/-- A call that has thrown has switched nothing off, and inserted nothing. -/
def Phase.Clean : Phase → Prop
  | .threw _ off put => off = [] ∧ put = false
  | _ => True

/-- A device has at most one active terminal, a license no more than its `max_mt_accounts`, and a call
that throws leaves the active terminals as they were. -/
structure System.Kept (y : System) (s : State) : Prop where
  device : ∀ d, s.activeOf d ≤ 1
  license : ∀ l ∈ y.licenses, (s.activeOn l.id : ℤ) ≤ l.maxMtAccounts
  clean : ∀ c, (s.calls c).Clean

/-- What a statement needs. One that makes the call throw needs that the call has switched nothing off;
an insertion needs a device without an active terminal and room on the license. -/
def System.Safe (y : System) (s : State) (a : Act) : Prop :=
  match s.calls a.call with
  | .deactivated _ off => a.ok = true ∨ off = []
  | .counting device license off =>
    (a.ok = true ∧ (s.activeOf device : ℤ) < license.maxMtAccounts) ∨ off = []
  | .inserting device license off =>
    (y.inserts s a device license = none → off = []) ∧
      ∀ row, y.inserts s a device license = some row →
        s.activeOf row.deviceId = 0 ∧
          ∀ l ∈ y.licenses, l.id = row.licenseId → (s.activeOn l.id : ℤ) < l.maxMtAccounts
  | .inserted _ _ => a.ok = true
  | _ => True

variable {y : System} {s s' : State} {a : Act} {c : ℕ} {p : Phase} {row : Activation}

/-! ## Steps -/

@[simp] theorem goto_calls_self : (s.goto c p).calls c = p := Function.update_self _ _ _

@[simp] theorem goto_calls_of_ne {c' : ℕ} (h : c' ≠ c) : (s.goto c p).calls c' = s.calls c' :=
  Function.update_of_ne h _ _

/-- Where no device and no license gets more active terminals, all depends on how the call goes on. -/
theorem System.Kept.goto_iff (h : y.Kept s) (hcalls : s'.calls = s.calls)
    (hdevice : ∀ d, s'.activeOf d ≤ s.activeOf d) (hlicense : ∀ l, s'.activeOn l ≤ s.activeOn l) :
    y.Kept (s'.goto c p) ↔ p.Clean := by
  constructor
  · intro h'
    have hclean := h'.clean c
    rw [goto_calls_self] at hclean
    exact hclean
  · intro hp
    refine ⟨?_, ?_, ?_⟩
    · intro d
      exact Nat.le_trans (hdevice d) (h.device d)
    · intro l hl
      have hle : (s'.activeOn l.id : ℤ) ≤ s.activeOn l.id := by exact_mod_cast hlicense l.id
      exact Int.le_trans hle (h.license l hl)
    · intro c'
      by_cases hc : c' = c
      · subst hc
        rw [goto_calls_self]
        exact hp
      · rw [goto_calls_of_ne hc, hcalls]
        exact h.clean c'

/-- A call can get to a point exactly when the point is clean. -/
theorem System.Kept.goto_self_iff (h : y.Kept s) : y.Kept (s.goto c p) ↔ p.Clean :=
  h.goto_iff rfl (fun _ => Nat.le_refl _) fun _ => Nat.le_refl _

/-- A call that throws before its insertion may have switched nothing off. -/
theorem System.Kept.throw_iff (h : y.Kept s) {e : Failure} {off : List Id} :
    y.Kept (s.goto c (.threw e off false)) ↔ off = [] := by
  rw [h.goto_self_iff]
  exact and_iff_left rfl

/-- The deactivation makes no terminal active. -/
theorem deactivate_le (s : State) (a : Act) (device : Id) {q : Activation → Bool}
    (hq : ∀ r, q r = true → r.deactivatedAt.isNone = true) :
    (System.deactivate s a device).activations.countP q ≤ s.activations.countP q := by
  refine countP_updateWhere_le ?_
  intro r _ _ hr
  cases hq _ hr

theorem activeOf_isNone {d : Id} (r : Activation) (h : r.activeOf d = true) :
    r.deactivatedAt.isNone = true := by
  unfold Activation.activeOf at h
  exact (Bool.and_eq_true _ _ ▸ h).1

theorem activeOn_isNone {l : Id} (r : Activation) (h : r.activeOn l = true) :
    r.deactivatedAt.isNone = true := by
  unfold Activation.activeOn at h
  exact (Bool.and_eq_true _ _ ▸ h).1

/-- The row of an insertion is active, on the device of the call and the license that was read. -/
theorem inserts_some {device : Id} {license : Option Id} (h : y.inserts s a device license = some row) :
    row.deactivatedAt = none ∧ row.deviceId = device ∧ license = some row.licenseId := by
  unfold System.inserts at h
  split at h
  · obtain ⟨h, -⟩ := Option.filter_eq_some_iff.mp h
    unfold System.newActivation at h
    split at h
    · cases h
      exact ⟨rfl, rfl, rfl⟩
    · cases h
  · cases h

/-- What an insertion of an active row adds to the counts. -/
theorem countP_insert (rows : List Activation) (q : Activation → Bool) (row : Activation) :
    (rows ++ [row]).countP q = rows.countP q + if q row then 1 else 0 := by
  rw [List.countP_append, List.countP_singleton]

/-- **The insertion** needs a device without an active terminal, and room on the license. -/
theorem kept_insert_iff (h : y.Kept s) (hactive : row.deactivatedAt = none) (hp : p.Clean) :
    y.Kept ({ s with activations := s.activations ++ [row] }.goto c p) ↔
      s.activeOf row.deviceId = 0 ∧
        ∀ l ∈ y.licenses, l.id = row.licenseId → (s.activeOn l.id : ℤ) < l.maxMtAccounts := by
  have hof : ∀ d, row.activeOf d = (row.deviceId == d) := by
    intro d
    unfold Activation.activeOf
    rw [hactive]
    rfl
  have hon : ∀ l, row.activeOn l = (row.licenseId == l) := by
    intro l
    unfold Activation.activeOn
    rw [hactive]
    rfl
  constructor
  · intro h'
    constructor
    · -- with the new terminal there is one, so there was none
      have hone := h'.device row.deviceId
      change (s.activations ++ [row]).countP _ ≤ 1 at hone
      rw [countP_insert, hof, beq_self_eq_true, if_pos rfl] at hone
      show s.activations.countP _ = 0
      omega
    · intro l hl hid
      have hroom := h'.license l hl
      change (((s.activations ++ [row]).countP _ : ℕ) : ℤ) ≤ _ at hroom
      rw [countP_insert, hon, hid, beq_self_eq_true, if_pos rfl] at hroom
      show ((s.activations.countP (·.activeOn l.id) : ℕ) : ℤ) < _
      rw [hid]
      omega
  · rintro ⟨hfree, hroom⟩
    refine ⟨?_, ?_, ?_⟩
    · intro d
      show (s.activations ++ [row]).countP _ ≤ 1
      rw [countP_insert, hof]
      -- only the device of the new terminal has one more
      by_cases hd : row.deviceId = d
      · subst hd
        have hfree : s.activations.countP (·.activeOf row.deviceId) = 0 := hfree
        rw [hfree, beq_self_eq_true, if_pos rfl]
      · rw [if_neg (by simpa using hd)]
        exact h.device d
    · intro l hl
      show (((s.activations ++ [row]).countP _ : ℕ) : ℤ) ≤ _
      rw [countP_insert, hon]
      -- and so has only its license
      by_cases hid : row.licenseId = l.id
      · have hroom : ((s.activations.countP (·.activeOn l.id) : ℕ) : ℤ) < _ := hroom l hl hid.symm
        rw [hid, beq_self_eq_true, if_pos rfl]
        omega
      · rw [if_neg (by simpa using hid)]
        exact h.license l hl
    · intro c'
      by_cases hc : c' = c
      · subst hc
        rw [goto_calls_self]
        exact hp
      · rw [goto_calls_of_ne hc]
        exact h.clean c'

theorem find_clean (y : System) (s : State) (task : Task) (ok : Bool) : (y.find s task ok).Clean := by
  unfold System.find
  split
  · split
    · exact ⟨rfl, rfl⟩
    split
    · trivial
    · exact ⟨rfl, rfl⟩
  · split
    · exact ⟨rfl, rfl⟩
    split
    · exact ⟨rfl, rfl⟩
    split
    · trivial
    · exact ⟨rfl, rfl⟩

theorem findBound_clean (s : State) (task : Task) (license : Id) (ok : Bool) :
    (System.findBound s task license ok).Clean := by
  unfold System.findBound
  split
  · exact ⟨rfl, rfl⟩
  split
  · trivial
  · exact ⟨rfl, rfl⟩

/-- **One statement** keeps what has to hold exactly when it has what it needs. -/
theorem kept_step_iff (h : y.Kept s) (a : Act) : y.Kept (y.step s a) ↔ y.Safe s a := by
  have hclean : ∀ {p : Phase}, y.Kept (s.goto a.call p) ↔ p.Clean := h.goto_self_iff
  unfold System.step System.Safe
  cases hphase : s.calls a.call with
  | start => exact iff_of_true (hclean.mpr (find_clean y s _ a.ok)) trivial
  | licensed license => exact iff_of_true (hclean.mpr (findBound_clean s _ license a.ok)) trivial
  | found device =>
      refine iff_of_true ?_ trivial
      dsimp only
      split
      · refine (h.goto_iff ?_ ?_ ?_).mpr ?_
        · rfl
        · intro d
          exact deactivate_le s a device activeOf_isNone
        · intro l
          exact deactivate_le s a device activeOn_isNone
        · trivial
      · exact hclean.mpr ⟨rfl, rfl⟩
  | deactivated device off =>
      dsimp only
      cases hok : a.ok with
      | false =>
          rw [if_pos (by decide), h.throw_iff]
          simp
      | true =>
          rw [if_neg (by decide)]
          refine iff_of_true ?_ (Or.inl rfl)
          split
          · exact hclean.mpr trivial
          · exact hclean.mpr trivial
  | counting device license off =>
      dsimp only
      cases hok : a.ok with
      | false =>
          rw [if_pos (by decide), h.throw_iff]
          simp
      | true =>
          rw [if_neg (by decide)]
          split
          · -- the limit is reached, and the call throws
            rename_i hfull
            rw [h.throw_iff]
            simp [Int.not_lt.mpr hfull]
          · rename_i hroom
            exact iff_of_true (hclean.mpr trivial) (Or.inl ⟨rfl, Int.not_le.mp hroom⟩)
  | inserting device license off =>
      dsimp only
      cases hinserts : y.inserts s a device license with
      | none =>
          dsimp only
          rw [h.throw_iff]
          simp
      | some row =>
          dsimp only
          obtain ⟨hactive, -, -⟩ := inserts_some hinserts
          have hgoes : (Phase.inserted device off).Clean := trivial
          rw [kept_insert_iff h hactive hgoes]
          simp
  | inserted device off =>
      dsimp only
      cases hok : a.ok with
      | false =>
          -- the row has been inserted, so the call may not throw any more
          rw [if_neg (by decide), hclean]
          show off = [] ∧ true = false ↔ _
          simp
      | true =>
          rw [if_pos rfl]
          refine iff_of_true ?_ rfl
          refine (h.goto_iff ?_ ?_ ?_).mpr ?_
          · rfl
          · intro d
            exact Nat.le_refl _
          · intro l
            exact Nat.le_refl _
          · trivial
  | returned => exact iff_of_true h trivial
  | threw e off put => exact iff_of_true h trivial

/-! ## Results -/

/-- **The terminals stay in order** in a run exactly when they are at first, and each statement has what
it needs. -/
theorem kept_throughout_iff (y : System) (devices : List Device) (activations : List Activation)
    (acts : List Act) :
    Throughout y.step y.Kept (start devices activations) acts ↔
      y.Kept (start devices activations) ∧ Along y.step y.Safe (start devices activations) acts := by
  apply throughout_iff_of_step
  intro s a hs
  exact kept_step_iff hs a

/-- A license with room for so many terminals, and calls that name a device and a login. -/
def calling (max : ℤ) (device : ℕ → Id) (login : ℕ → String) : System where
  licenses := [{ id := 0, userId := 0, licenseKey := "key", active := true, maxMtAccounts := max }]
  key := List.nodup_singleton 0
  tasks c :=
    { userId := 0
      drawn := c
      body := { deviceId := some (device c), clientType := some "MT5", mtAccountLogin := some (login c) } }
  sha256 := id

/-- Two devices of that license. -/
def twoDevices : List Device :=
  [{ id := 0, userId := 0, boundLicenseId := some 0 }, { id := 1, userId := 0, boundLicenseId := some 0 }]

/-- The statements of a call up to its insertion: device, deactivation, license, count, insertion. -/
def whole (c : ℕ) : List Act := List.replicate 5 { call := c }

/-- The same of two calls in turn. -/
def inTurn : List Act := (List.replicate 5 [{ call := 0 }, { call := 1 }]).flatten

/-- Without terminals everything is in order. -/
theorem kept_start (devices : List Device) (h : ∀ l ∈ y.licenses, 0 ≤ l.maxMtAccounts) :
    y.Kept (start devices []) where
  device _ := Nat.zero_le 1
  license l hl := h l hl
  clean _ := trivial

/-- Two calls for a device both insert. A call for a login that is on file switches its terminal off, and
throws. Two devices of a license with room for one terminal have one each. There are no terminals at
first. -/
theorem terminals_out_of_order :
    let own : System := calling 2 (fun _ => 0) fun c => if c = 0 then "a" else "b"
    let again : System := calling 1 (fun _ => 0) fun _ => "a"
    let apart : System := calling 1 id fun c => if c = 0 then "a" else "b"
    (own.Kept (start twoDevices []) ∧ ¬ Throughout own.step own.Kept (start twoDevices []) inTurn) ∧
      (again.Kept (start twoDevices []) ∧
        ¬ Throughout again.step again.Kept (start twoDevices []) (whole 0 ++ whole 1)) ∧
      apart.Kept (start twoDevices []) ∧
        ¬ Throughout apart.step apart.Kept (start twoDevices []) (whole 0 ++ whole 1) := by
  refine ⟨⟨kept_start _ (by decide), ?_⟩, ⟨kept_start _ (by decide), ?_⟩, kept_start _ (by decide), ?_⟩
  · intro h
    have hone := (h _ List.prefix_rfl).device 0
    exact absurd hone (by decide)
  · intro h
    have hclean := (h _ List.prefix_rfl).clean 1
    exact absurd hclean.1 (by decide)
  · intro h
    have hroom := (h _ List.prefix_rfl).license _ (List.mem_singleton.mpr rfl)
    exact absurd hroom (by decide)

end PredictATrade.Licensing
