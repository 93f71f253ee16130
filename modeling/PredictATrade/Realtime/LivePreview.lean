import Mathlib.Data.List.AList
import PredictATrade.Lib.Runs

/-!
# `Realtime.LivePreview` — who is let in to the anonymous preview

`Evaluate` decides from a trial: the one in the cache, else the one on file, else a new one. A failed
lookup and a failed insert close the preview, as does the end of a trial. Two things open it. The error
of the repeat-visitor count is dropped, and a trial is created as if nothing had been counted; and a
cached trial is never read again, so one that other code has blocked, revoked or converted in the
meantime is still `ACTIVE` there, and `touch` even writes that back.

`closed_iff` says what a run has to avoid. That the times of a trial stay as they are once set holds
of every run.
-/

namespace PredictATrade.Realtime.LivePreview

open Lib.Runs

/-! ## Data -/

/-- The statuses of a trial. -/
inductive Status where
  | active | expired | converted | blocked | revoked
  deriving DecidableEq, Repr

/-- Other code has ended the trial. -/
def Status.isBarred : Status → Bool
  | .converted | .blocked | .revoked => true
  | _ => false

/-- The reasons of a decision. -/
inductive Reason where
  | trialActive | expired | invalidToken | repeatBlocked | serviceUnavail
  deriving DecidableEq, Repr

/-- Nanoseconds. -/
abbrev Time := ℤ

/-- A minute, in nanoseconds. -/
def minute : ℤ := 60000000000

/-- A trial. -/
structure Trial where
  startedAt : Time
  expiresAt : Time
  status : Status := .active
  ipHash : String := ""
  uaHash : String := ""
  wallSeenAt : Option Time := none
  signupStartedAt : Option Time := none
  abuseScore : ℕ := 0
  expirationReason : String := ""
  lastSeenSynced : Time := 0
  deriving DecidableEq, Repr

/-- A row of `live_preview.anonymous_trials`. -/
structure Row where
  trial : Trial
  createdAt : Time
  updatedAt : Time
  deriving DecidableEq, Repr

/-- What the service is configured with. -/
structure Config where
  enabled : Bool := true
  duration : ℤ := 0
  abuseDetection : Bool := true
  abuseThreshold : ℤ := 0
  deriving DecidableEq, Repr

/-- The service: its configuration, and the keyed hash of a text. -/
structure Service where
  cfg : Config
  hash : String → String

/-- `New`, with the defaults. -/
def new (cfg : Config) (hash : String → String) : Service where
  cfg :=
    { cfg with
      duration := if cfg.duration ≤ 0 then 5 * minute else cfg.duration
      abuseThreshold := if cfg.abuseThreshold ≤ 0 then 3 else cfg.abuseThreshold }
  hash := hash

/-- What is read off a request. -/
structure Request where
  cookie : Option String := none
  ip : String := ""
  userAgent : String := ""

/-- The token of the cookie, if there is one. -/
def Request.token (r : Request) : Option String := r.cookie.filter (· ≠ "")

/-- What the service decides. -/
structure Decision where
  allowed : Bool
  reason : Option Reason := none
  trial : Option Trial := none
  newCookie : Option String := none
  deriving DecidableEq, Repr

/-- Which operations of the store succeed during a request. -/
structure Answers where
  lookup : Bool := true
  count : Bool := true
  countAgain : Bool := true
  insert : Bool := true
  save : Bool := true
  deriving DecidableEq, Repr

/-- The trials on file and in the cache, by the hash of their token, and the hashes of the trials that
have been on file as blocked, revoked or converted. -/
structure State where
  store : AList fun _ : String => Row := ∅
  cache : AList fun _ : String => Trial := ∅
  barred : List String := []

/-- The service as it is found. -/
def start (store : AList fun _ : String => Row) (cache : AList fun _ : String => Trial) : State where
  store := store
  cache := cache
  barred := (store.entries.filter fun e => e.2.trial.status.isBarred).map (·.1)

/-! ## Store and cache -/

/-- `CountRecent`, for a non-empty hash of the address and of the user agent. -/
def State.countRecent (s : State) (ipHash uaHash : String) (since : Time) : ℤ :=
  s.store.entries.countP fun e =>
    decide (since < e.2.createdAt) && e.2.trial.ipHash == ipHash && e.2.trial.uaHash == uaHash

/-- `Save`, which leaves the times of the trial alone. -/
def State.save (s : State) (hash : String) (t : Trial) (now : Time) (ok : Bool) : State :=
  match ok, s.store.lookup hash with
  | true, some row =>
    let trial : Trial :=
      { row.trial with
        status := t.status
        lastSeenSynced := now
        wallSeenAt := t.wallSeenAt
        signupStartedAt := t.signupStartedAt
        expirationReason := t.expirationReason }
    { s with store := s.store.insert hash { row with trial, updatedAt := now } }
  | _, _ => s

/-- The state with a trial in the cache. -/
def State.remember (s : State) (hash : String) (t : Trial) : State :=
  { s with cache := s.cache.insert hash t }

/-- The copy of a trial that is used: the one in the cache, else the one on file. -/
def State.copy (s : State) (hash : String) (found : Bool) : Option Trial :=
  match s.cache.lookup hash with
  | some t => some t
  | none => if found then (s.store.lookup hash).map (·.trial) else none

/-- `fromCacheOrStore`. -/
def State.fromCacheOrStore (s : State) (hash : String) (found : Bool) : Option Trial × State :=
  match s.copy hash found with
  | some t => (some t, if (s.cache.lookup hash).isSome then s else s.remember hash t)
  | none => (none, s)

/-! ## Requests -/

/-- `expire`. The trial is the one in the cache, too. -/
def State.expire (s : State) (hash : String) (t : Trial) (now : Time) (ok : Answers) : State :=
  let t := { t with status := .expired, expirationReason := "NATURAL" }
  (s.remember hash t).save hash t now ok.save

/-- `touch`. -/
def State.touch (s : State) (hash : String) (t : Trial) (now : Time) (ok : Answers) : State :=
  if minute ≤ now - t.lastSeenSynced then
    let t := { t with lastSeenSynced := now }
    (s.remember hash t).save hash t now ok.save
  else s

/-- `evaluateTrial`. -/
def State.evaluateTrial (s : State) (hash : String) (t : Trial) (now : Time) (ok : Answers) :
    Decision × State :=
  if t.status = .blocked ∨ t.status = .revoked then
    ({ allowed := false, reason := some .repeatBlocked }, s)
  else if t.status = .converted then ({ allowed := false, reason := some .expired }, s)
  else if t.expiresAt < now ∨ t.status = .expired then
    ({ allowed := false, reason := some .expired },
      if t.status = .active then s.expire hash t now ok else s)
  else
    ({ allowed := true, reason := some .trialActive, trial := some t }, s.touch hash t now ok)

/-- `createTrial`, with the token that is drawn. The column of the hash is unique. -/
def Service.createTrial (v : Service) (s : State) (r : Request) (now : Time) (token : String)
    (ok : Answers) : Option (Trial × State) :=
  let ipHash := v.hash ("ip:" ++ r.ip)
  let uaHash := v.hash ("ua:" ++ r.userAgent)
  let n := s.countRecent ipHash uaHash (now - 24 * 60 * minute)
  let t : Trial :=
    { startedAt := now, expiresAt := now + v.cfg.duration, ipHash, uaHash
      abuseScore := if v.cfg.abuseDetection && ok.countAgain then n.toNat else 0
      lastSeenSynced := now }
  if !ok.insert || (s.store.lookup (v.hash token)).isSome then none
  else
    let row : Row := { trial := t, createdAt := now, updatedAt := now }
    some (t, { s with
      store := s.store.insert (v.hash token) row
      cache := s.cache.insert (v.hash token) t })

/-- `Evaluate`. -/
def Service.evaluate (v : Service) (s : State) (r : Request) (allowCreate : Bool) (now : Time)
    (token : String) (ok : Answers) : Decision × State :=
  if !v.cfg.enabled then ({ allowed := true }, s)
  else
    match r.token with
    | some value =>
      match s.fromCacheOrStore (v.hash value) ok.lookup with
      | (some t, s) => s.evaluateTrial (v.hash value) t now ok
      | (none, s) => ({ allowed := false, reason := some .invalidToken }, s)
    | none =>
      let n := s.countRecent (v.hash ("ip:" ++ r.ip)) (v.hash ("ua:" ++ r.userAgent))
        (now - 24 * 60 * minute)
      if !allowCreate then ({ allowed := false, reason := some .expired }, s)
      else if v.cfg.abuseDetection ∧ ok.count ∧ v.cfg.abuseThreshold ≤ n then
        ({ allowed := false, reason := some .repeatBlocked }, s)
      else
        match v.createTrial s r now token ok with
        | none => ({ allowed := false, reason := some .serviceUnavail }, s)
        | some (t, s) =>
          ({ allowed := true, reason := some .trialActive, trial := some t, newCookie := some token }, s)

/-- `IsTokenActive`. -/
def Service.isTokenActive (v : Service) (s : State) (hash : String) (now : Time) (ok : Answers) :
    Bool × State :=
  if !v.cfg.enabled then (true, s)
  else
    match s.fromCacheOrStore hash ok.lookup with
    | (none, s) => (false, s)
    | (some t, s) =>
      if t.status ≠ .active then (false, s)
      else if t.expiresAt < now then (false, s.expire hash t now ok)
      else (true, s)

/-- `RecordFunnelEvent`. -/
def Service.recordFunnelEvent (v : Service) (s : State) (r : Request) (event : String) (now : Time)
    (ok : Answers) : State :=
  if !v.cfg.enabled then s
  else
    match r.token with
    | none => s
    | some value =>
      if event = "REGISTRATION_WALL_SHOWN" then
        match s.fromCacheOrStore (v.hash value) ok.lookup with
        | (none, s) => s
        | (some t, s) =>
          if t.wallSeenAt.isNone then
            let t := { t with wallSeenAt := some now }
            (s.remember (v.hash value) t).save (v.hash value) t now ok.save
          else s
      else s

/-! ## Runs -/

/-- A call of the service, with the answers of its store. -/
inductive Call where
  | evaluate (r : Request) (allowCreate : Bool) (now : Time) (token : String) (ok : Answers)
  | isTokenActive (hash : String) (now : Time) (ok : Answers)
  | recordFunnelEvent (r : Request) (event : String) (now : Time) (ok : Answers)
  /-- The process starts again, with an empty cache. -/
  | restart
  /-- Other code writes the status of a trial. -/
  | decide (hash : String) (status : Status)

/-- Other code writes the status of a trial on file. -/
def State.decide (s : State) (hash : String) (status : Status) : State :=
  match s.store.lookup hash with
  | none => s
  | some row =>
    { s with
      store := s.store.insert hash { row with trial := { row.trial with status } }
      barred := if status.isBarred then s.barred ++ [hash] else s.barred }

/-- The state after a call. -/
def Service.step (v : Service) (s : State) : Call → State
  | .evaluate r allowCreate now token ok => (v.evaluate s r allowCreate now token ok).2
  | .isTokenActive hash now ok => (v.isTokenActive s hash now ok).2
  | .recordFunnelEvent r event now ok => v.recordFunnelEvent s r event now ok
  | .restart => { s with cache := ∅ }
  | .decide hash status => s.decide hash status

/-- The trial may be used: it has not been barred, and its time on file has not passed. -/
structure State.Justifies (s : State) (hash : String) (now : Time) : Prop where
  notBarred : hash ∉ s.barred
  inTime : ∃ row, s.store.lookup hash = some row ∧ now ≤ row.trial.expiresAt

/-- Where a request is let in, the operations it relied on have succeeded, and its trial may be used. -/
def Service.Closed (v : Service) (s : State) : Call → Prop
  | .evaluate r allowCreate now token ok =>
    (v.evaluate s r allowCreate now token ok).1.allowed = true →
      (∀ value, r.token = some value →
        (s.cache.lookup (v.hash value) = none → ok.lookup = true) ∧ s.Justifies (v.hash value) now) ∧
      (r.token = none → (v.cfg.abuseDetection = true → ok.count = true) ∧ ok.insert = true ∧
        (v.evaluate s r allowCreate now token ok).2.Justifies (v.hash token) now)
  | .isTokenActive hash now ok =>
    (v.isTokenActive s hash now ok).1 = true →
      (s.cache.lookup hash = none → ok.lookup = true) ∧ s.Justifies hash now
  | _ => True

/-- Of a barred trial there is no copy that is active and in time. -/
def State.NotStale (s : State) (hash : String) (now : Time) (found : Bool) : Prop :=
  hash ∈ s.barred → ∀ t, s.copy hash found = some t → t.status = .active → t.expiresAt < now

/-- What a request has to find: no stale copy, and a count that succeeds where a trial is created. -/
def Service.Finds (v : Service) (s : State) : Call → Prop
  | .evaluate r allowCreate now token ok =>
    (∀ value, r.token = some value → s.NotStale (v.hash value) now ok.lookup) ∧
      (r.token = none → allowCreate = true → v.cfg.abuseDetection = true → ok.insert = true →
        s.store.lookup (v.hash token) = none → ok.count = true)
  | .isTokenActive hash now ok => s.NotStale hash now ok.lookup
  | _ => True

/-- The trial is on file or in the cache. -/
def State.Holds (s : State) (hash : String) (t : Trial) : Prop :=
  (∃ row, s.store.lookup hash = some row ∧ row.trial = t) ∨ s.cache.lookup hash = some t

/-- The times of a trial stay as they were once set. -/
def Service.TimesKept (v : Service) (s : State) (calls : List Call) : Prop :=
  ∀ pre, pre <+: calls → ∀ hash t t', (run v.step s pre).Holds hash t →
    (run v.step s calls).Holds hash t' → t'.startedAt = t.startedAt ∧ t'.expiresAt = t.expiresAt

/-- The trial is on file with these times. -/
def State.OnFile (s : State) (hash : String) (t : Trial) : Prop :=
  ∃ row, s.store.lookup hash = some row ∧ row.trial.startedAt = t.startedAt ∧
    row.trial.expiresAt = t.expiresAt

/-- A cached trial is on file, and so is a barred one. -/
structure Coherent (s : State) : Prop where
  cached : ∀ hash t, s.cache.lookup hash = some t → s.OnFile hash t
  barred : ∀ hash ∈ s.barred, ∃ row, s.store.lookup hash = some row

variable {s s' s'' : State} {hash : String} {t : Trial} {now : Time} {ok : Answers} {found : Bool}

/-! ## Copies -/

/-- A copy is the cached one, or the one that is found on file. -/
theorem copy_cases (h : s.copy hash found = some t) :
    s.cache.lookup hash = some t ∨
      s.cache.lookup hash = none ∧ found = true ∧
        ∃ row, s.store.lookup hash = some row ∧ row.trial = t := by
  unfold State.copy at h
  cases hcache : s.cache.lookup hash with
  | some u =>
      rw [hcache] at h
      exact Or.inl h
  | none =>
      rw [hcache] at h
      dsimp only at h
      split at h
      · rename_i hfound
        exact Or.inr ⟨rfl, hfound, Option.map_eq_some_iff.mp h⟩
      · cases h

theorem Coherent.copy (h : Coherent s) (hcopy : s.copy hash found = some t) : s.OnFile hash t := by
  rcases copy_cases hcopy with hcache | ⟨-, -, row, hrow, rfl⟩
  · exact h.cached hash t hcache
  · exact ⟨row, hrow, rfl, rfl⟩

/-- A copy that is active and in time may be used, unless the trial has been barred. -/
theorem Coherent.justifies (h : Coherent s) (hcopy : s.copy hash found = some t)
    (hbarred : hash ∉ s.barred) (htime : now ≤ t.expiresAt) : s.Justifies hash now where
  notBarred := hbarred
  inTime := by
    obtain ⟨row, hrow, -, hexp⟩ := h.copy hcopy
    rw [← hexp] at htime
    exact ⟨row, hrow, htime⟩

theorem evaluateTrial_allowed :
    (s.evaluateTrial hash t now ok).1.allowed = true ↔ t.status = .active ∧ now ≤ t.expiresAt := by
  unfold State.evaluateTrial
  cases hstatus : t.status with
  | active =>
      by_cases htime : t.expiresAt < now
      · simp [htime]
      · simp [htime, Int.not_lt.mp htime]
  | expired => simp
  | converted => simp
  | blocked => simp
  | revoked => simp

/-- A lookup finds the copy. -/
theorem fromCacheOrStore_fst (s : State) (hash : String) (found : Bool) :
    (s.fromCacheOrStore hash found).1 = s.copy hash found := by
  unfold State.fromCacheOrStore
  cases s.copy hash found <;> rfl

section
variable {v : Service}

theorem evaluate_cookie {r : Request} {value : String} (hon : v.cfg.enabled = true)
    (hr : r.token = some value) (allowCreate : Bool) (now : Time) (token : String) (ok : Answers) :
    v.evaluate s r allowCreate now token ok =
      match s.fromCacheOrStore (v.hash value) ok.lookup with
      | (some t, s) => s.evaluateTrial (v.hash value) t now ok
      | (none, s) => ({ allowed := false, reason := some .invalidToken }, s) := by
  unfold Service.evaluate
  rw [hon, hr]
  rfl

/-- With a cookie, a request is let in by an active copy that is in time. -/
theorem evaluate_cookie_allowed {r : Request} {value : String} (hon : v.cfg.enabled = true)
    (hr : r.token = some value) {allowCreate : Bool} {token : String} :
    (v.evaluate s r allowCreate now token ok).1.allowed = true ↔
      ∃ t, s.copy (v.hash value) ok.lookup = some t ∧ t.status = .active ∧ now ≤ t.expiresAt := by
  rw [evaluate_cookie hon hr, ← fromCacheOrStore_fst]
  rcases s.fromCacheOrStore (v.hash value) ok.lookup with ⟨_ | t, s'⟩
  · simp
  · show (s'.evaluateTrial _ t now ok).1.allowed = true ↔ _
    rw [evaluateTrial_allowed]
    simp

theorem isTokenActive_eq_true (hon : v.cfg.enabled = true) :
    (v.isTokenActive s hash now ok).1 = true ↔
      ∃ t, s.copy hash ok.lookup = some t ∧ t.status = .active ∧ now ≤ t.expiresAt := by
  unfold Service.isTokenActive
  rw [hon, ← fromCacheOrStore_fst]
  rcases s.fromCacheOrStore hash ok.lookup with ⟨_ | t, s'⟩
  · simp
  · by_cases hstatus : t.status = .active
    · by_cases htime : t.expiresAt < now
      · simp [hstatus, htime]
      · simp [hstatus, htime, Int.not_lt.mp htime]
    · simp [hstatus]

/-- What a failed lookup, the end of a trial and its being barred mean for a copy. -/
theorem Coherent.closed_iff (h : Coherent s) :
    ((∃ t, s.copy hash found = some t ∧ t.status = .active ∧ now ≤ t.expiresAt) →
      (s.cache.lookup hash = none → found = true) ∧ s.Justifies hash now) ↔
        s.NotStale hash now found := by
  constructor
  · intro hclosed hbarred t hcopy hstatus
    -- else the copy lets the request in, and the trial has been barred
    by_contra hlate
    have hjust := (hclosed ⟨t, hcopy, hstatus, Int.not_lt.mp hlate⟩).2
    exact hjust.notBarred hbarred
  · rintro hstale ⟨t, hcopy, hstatus, htime⟩
    constructor
    · intro hmiss
      rcases copy_cases hcopy with hcache | ⟨-, hfound, -⟩
      · rw [hmiss] at hcache
        cases hcache
      · exact hfound
    · refine h.justifies hcopy ?_ htime
      intro hbarred
      exact absurd (hstale hbarred t hcopy hstatus) (Int.not_lt.mpr htime)

/-! ## New trials -/

theorem createTrial_isSome {r : Request} {token : String} :
    (v.createTrial s r now token ok).isSome = true ↔
      ok.insert = true ∧ s.store.lookup (v.hash token) = none := by
  unfold Service.createTrial
  cases ok.insert <;> cases s.store.lookup (v.hash token) <;> simp

/-- A trial that is created may be used. -/
theorem Coherent.created (h : Coherent s) (hduration : 0 ≤ v.cfg.duration) {r : Request} {token : String}
    (hnew : v.createTrial s r now token ok = some (t, s')) : s'.Justifies (v.hash token) now := by
  have hfree := (createTrial_isSome.mp (Option.isSome_of_eq_some hnew)).2
  -- a barred trial is on file, and the new one was not
  have hnotBarred : v.hash token ∉ s.barred := by
    intro hbarred
    obtain ⟨row, hrow⟩ := h.barred _ hbarred
    rw [hfree] at hrow
    cases hrow
  unfold Service.createTrial at hnew
  dsimp only at hnew
  split at hnew
  · cases hnew
  · obtain ⟨rfl, rfl⟩ := Prod.mk.inj (Option.some.inj hnew)
    refine ⟨hnotBarred, _, AList.lookup_insert _, ?_⟩
    exact Int.le_add_of_nonneg_right hduration

/-- Without a cookie a request is let in by a new trial. -/
theorem evaluate_new {r : Request} (hon : v.cfg.enabled = true) (hr : r.token = none)
    {allowCreate : Bool} {token : String}
    (h : (v.evaluate s r allowCreate now token ok).1.allowed = true) :
    allowCreate = true ∧ ∃ t, v.createTrial s r now token ok =
      some (t, (v.evaluate s r allowCreate now token ok).2) := by
  unfold Service.evaluate at h ⊢
  rw [hon, hr, if_neg (by decide)] at h ⊢
  cases allowCreate with
  | false => cases h
  | true =>
      refine ⟨rfl, ?_⟩
      dsimp only at h ⊢
      rw [if_neg (by decide)] at h ⊢
      split at h
      · cases h
      · rename_i hfew
        rw [if_neg hfew]
        cases hnew : v.createTrial s r now token ok with
        | none =>
            rw [hnew] at h
            cases h
        | some x => exact ⟨x.1, rfl⟩

/-- And a failed count does not keep it out. -/
theorem evaluate_uncounted {r : Request} (hon : v.cfg.enabled = true) (hr : r.token = none)
    {token : String} (hcount : ok.count = false) (hinsert : ok.insert = true)
    (hfree : s.store.lookup (v.hash token) = none) :
    (v.evaluate s r true now token ok).1.allowed = true := by
  have hnew : (v.createTrial s r now token ok).isSome = true :=
    createTrial_isSome.mpr ⟨hinsert, hfree⟩
  obtain ⟨x, hx⟩ := Option.isSome_iff_exists.mp hnew
  unfold Service.evaluate
  rw [hon, hr, if_neg (by decide)]
  dsimp only
  rw [if_neg (by decide), hcount, hx]
  rw [if_neg (by rintro ⟨-, h, -⟩; cases h)]

/-- **One call.** It is closed exactly when it finds what it has to. -/
theorem closed_iff_finds (h : Coherent s) (hon : v.cfg.enabled = true) (hduration : 0 ≤ v.cfg.duration)
    (c : Call) : v.Closed s c ↔ v.Finds s c := by
  cases c with
  | evaluate r allowCreate now token ok =>
      simp only [Service.Closed, Service.Finds]
      cases hr : r.token with
      | some value =>
          rw [evaluate_cookie_allowed hon hr]
          constructor
          · intro hclosed
            refine ⟨?_, fun h => (nomatch h)⟩
            rintro _ ⟨⟩
            exact h.closed_iff.mp fun hcopy => (hclosed hcopy).1 value rfl
          · rintro ⟨hfinds, -⟩ hcopy
            refine ⟨?_, fun h => (nomatch h)⟩
            rintro _ ⟨⟩
            exact h.closed_iff.mpr (hfinds value rfl) hcopy
      | none =>
          constructor
          · intro hclosed
            refine ⟨fun _ h => (nomatch h), ?_⟩
            intro _ hcreate habuse hinsert hfree
            by_contra hcount
            have hcount := eq_false_of_ne_true hcount
            rw [hcreate] at hclosed
            -- a count that fails does not keep the request out
            have hyes : (v.evaluate s r true now token ok).1.allowed = true :=
              evaluate_uncounted hon hr hcount hinsert hfree
            rw [((hclosed hyes).2 rfl).1 habuse] at hcount
            cases hcount
          · rintro ⟨-, hfinds⟩ hyes
            refine ⟨fun _ h => (nomatch h), ?_⟩
            intro _
            obtain ⟨hcreate, t, hnew⟩ := evaluate_new hon hr hyes
            obtain ⟨hinsert, hfree⟩ := createTrial_isSome.mp (Option.isSome_of_eq_some hnew)
            refine ⟨fun habuse => hfinds rfl hcreate habuse hinsert hfree, hinsert, ?_⟩
            exact h.created hduration hnew
  | isTokenActive hash now ok =>
      simp only [Service.Closed, Service.Finds]
      rw [isTokenActive_eq_true hon]
      exact h.closed_iff
  | recordFunnelEvent r event now ok => exact Iff.rfl
  | restart => exact Iff.rfl
  | decide hash status => exact Iff.rfl

end

/-! ## Times stay -/

/-- From one state to a later one: trials stay on file with their times. -/
structure Moves (s s' : State) : Prop where
  coherent : Coherent s → Coherent s'
  kept : ∀ hash t, s.OnFile hash t → s'.OnFile hash t

theorem Moves.refl (s : State) : Moves s s where
  coherent := id
  kept _ _ := id

theorem Moves.trans (h : Moves s s') (h' : Moves s' s'') : Moves s s'' where
  coherent := h'.coherent ∘ h.coherent
  kept hash t := h'.kept hash t ∘ h.kept hash t

/-- A row is written that has the times of the one before it. -/
theorem moves_of_rewritten {row row' : Row} {barred : List String}
    (hrow : s.store.lookup hash = some row) (hstart : row'.trial.startedAt = row.trial.startedAt)
    (hexp : row'.trial.expiresAt = row.trial.expiresAt) (hbarred : ∀ x ∈ barred, x ∈ s.barred ∨ x = hash) :
    Moves s { s with store := s.store.insert hash row', barred } := by
  have hkept : ∀ x t, s.OnFile x t →
      State.OnFile { s with store := s.store.insert hash row', barred } x t := by
    rintro x t ⟨found, hfound, h₁, h₂⟩
    by_cases hx : x = hash
    · subst hx
      obtain rfl := Option.some.inj (hrow.symm.trans hfound)
      exact ⟨row', AList.lookup_insert _, hstart.trans h₁, hexp.trans h₂⟩
    · exact ⟨found, (AList.lookup_insert_ne hx).trans hfound, h₁, h₂⟩
  refine ⟨fun h => ⟨fun x t hx => hkept x t (h.cached x t hx), ?_⟩, hkept⟩
  intro x hx
  rcases hbarred x hx with hx | rfl
  · obtain ⟨found, hfound⟩ := h.barred x hx
    obtain ⟨row, hrow, -⟩ := hkept x found.trial ⟨found, hfound, rfl, rfl⟩
    exact ⟨row, hrow⟩
  · exact ⟨row', AList.lookup_insert _⟩

theorem remember_moves (hfile : s.OnFile hash t) : Moves s (s.remember hash t) where
  coherent h := by
    refine ⟨fun x u hx => ?_, h.barred⟩
    change (s.cache.insert hash t).lookup x = some u at hx
    by_cases heq : x = hash
    · subst heq
      rw [AList.lookup_insert] at hx
      cases hx
      exact hfile
    · rw [AList.lookup_insert_ne heq] at hx
      exact h.cached x u hx
  kept _ _ h := h

theorem save_moves (s : State) (hash : String) (t : Trial) (now : Time) (b : Bool) :
    Moves s (s.save hash t now b) := by
  unfold State.save
  split
  · rename_i row _ hrow
    exact moves_of_rewritten hrow rfl rfl fun x hx => Or.inl hx
  · exact Moves.refl s

/-- A copy that is changed in anything but its times is remembered and saved. -/
theorem change_moves {t' : Trial} (hfile : s.OnFile hash t) (hstart : t'.startedAt = t.startedAt)
    (hexp : t'.expiresAt = t.expiresAt) (now : Time) (b : Bool) :
    Moves s ((s.remember hash t').save hash t' now b) := by
  have hfile' : s.OnFile hash t' := by
    obtain ⟨row, hrow, h₁, h₂⟩ := hfile
    exact ⟨row, hrow, h₁.trans hstart.symm, h₂.trans hexp.symm⟩
  exact (remember_moves hfile').trans (save_moves _ hash t' now b)

theorem fromCacheOrStore_moves (h : Coherent s) (hash : String) (found : Bool) :
    Moves s (s.fromCacheOrStore hash found).2 := by
  unfold State.fromCacheOrStore
  split
  · rename_i t hcopy
    dsimp only
    split
    · exact Moves.refl s
    · exact remember_moves (h.copy hcopy)
  · exact Moves.refl s

/-- A lookup that finds nothing leaves the cache. -/
theorem fromCacheOrStore_none (hmiss : s.fromCacheOrStore hash found = (none, s')) : s' = s := by
  unfold State.fromCacheOrStore at hmiss
  split at hmiss
  · cases hmiss
  · exact (Prod.mk.inj hmiss).2.symm

/-- What a lookup returns is on file. -/
theorem fromCacheOrStore_onFile (h : Coherent s) (hfound : s.fromCacheOrStore hash found = (some t, s')) :
    Moves s s' ∧ s'.OnFile hash t := by
  have hmoves := fromCacheOrStore_moves h hash found
  have hcopy := fromCacheOrStore_fst s hash found
  rw [hfound] at hmoves hcopy
  exact ⟨hmoves, hmoves.kept hash t (h.copy hcopy.symm)⟩

theorem expire_moves (hfile : s.OnFile hash t) (now : Time) (ok : Answers) :
    Moves s (s.expire hash t now ok) := by
  unfold State.expire
  dsimp only
  exact change_moves hfile (by rfl) (by rfl) now ok.save

theorem touch_moves (hfile : s.OnFile hash t) (now : Time) (ok : Answers) :
    Moves s (s.touch hash t now ok) := by
  unfold State.touch
  split
  · dsimp only
    exact change_moves hfile (by rfl) (by rfl) now ok.save
  · exact Moves.refl s

theorem evaluateTrial_moves (hfile : s.OnFile hash t) (now : Time) (ok : Answers) :
    Moves s (s.evaluateTrial hash t now ok).2 := by
  unfold State.evaluateTrial
  split
  · exact Moves.refl s
  split
  · exact Moves.refl s
  split
  · dsimp only
    split
    · exact expire_moves hfile now ok
    · exact Moves.refl s
  · exact touch_moves hfile now ok

theorem createTrial_moves {v : Service} {r : Request} {token : String}
    (hnew : v.createTrial s r now token ok = some (t, s')) : Moves s s' := by
  have hfree := (createTrial_isSome.mp (Option.isSome_of_eq_some hnew)).2
  unfold Service.createTrial at hnew
  dsimp only at hnew
  split at hnew
  · cases hnew
  obtain ⟨rfl, rfl⟩ := Prod.mk.inj (Option.some.inj hnew)
  -- what is on file has another hash than the new trial
  have hother : ∀ x row, s.store.lookup x = some row → x ≠ v.hash token := by
    rintro x row hx rfl
    rw [hfree] at hx
    cases hx
  refine ⟨fun h => ⟨fun x u hx => ?_, fun x hx => ?_⟩, ?_⟩
  · dsimp only at hx
    by_cases heq : x = v.hash token
    · subst heq
      rw [AList.lookup_insert] at hx
      cases hx
      exact ⟨_, AList.lookup_insert _, rfl, rfl⟩
    · rw [AList.lookup_insert_ne heq] at hx
      obtain ⟨row, hrow, h₁, h₂⟩ := h.cached x u hx
      exact ⟨row, (AList.lookup_insert_ne heq).trans hrow, h₁, h₂⟩
  · obtain ⟨row, hrow⟩ := h.barred x hx
    exact ⟨row, (AList.lookup_insert_ne (hother x row hrow)).trans hrow⟩
  · rintro x u ⟨row, hrow, h₁, h₂⟩
    exact ⟨row, (AList.lookup_insert_ne (hother x row hrow)).trans hrow, h₁, h₂⟩

/-- **Each call keeps the times of every trial.** -/
theorem step_moves (v : Service) (h : Coherent s) (c : Call) : Moves s (v.step s c) := by
  cases c with
  | evaluate r allowCreate now token ok =>
      show Moves s (v.evaluate s r allowCreate now token ok).2
      unfold Service.evaluate
      split
      · exact Moves.refl s
      split
      · rename_i value _
        split
        · rename_i t s' hfound
          obtain ⟨hmoves, hfile⟩ := fromCacheOrStore_onFile h hfound
          exact hmoves.trans (evaluateTrial_moves hfile now ok)
        · rename_i s' hmiss
          rw [fromCacheOrStore_none hmiss]
          exact Moves.refl s
      · dsimp only
        split
        · exact Moves.refl s
        split
        · exact Moves.refl s
        split
        · exact Moves.refl s
        · rename_i t s' hnew
          exact createTrial_moves hnew
  | isTokenActive hash now ok =>
      show Moves s (v.isTokenActive s hash now ok).2
      unfold Service.isTokenActive
      split
      · exact Moves.refl s
      split
      · rename_i s' hmiss
        rw [fromCacheOrStore_none hmiss]
        exact Moves.refl s
      · rename_i t s' hfound
        obtain ⟨hmoves, hfile⟩ := fromCacheOrStore_onFile h hfound
        split
        · exact hmoves
        split
        · exact hmoves.trans (expire_moves hfile now ok)
        · exact hmoves
  | recordFunnelEvent r event now ok =>
      show Moves s (v.recordFunnelEvent s r event now ok)
      unfold Service.recordFunnelEvent
      split
      · exact Moves.refl s
      split
      · exact Moves.refl s
      · rename_i value _
        split
        · split
          · rename_i s' hmiss
            rw [fromCacheOrStore_none hmiss]
            exact Moves.refl s
          · rename_i t s' hfound
            obtain ⟨hmoves, hfile⟩ := fromCacheOrStore_onFile h hfound
            dsimp only
            split
            · exact hmoves.trans (change_moves hfile (by rfl) (by rfl) now ok.save)
            · exact hmoves
        · exact Moves.refl s
  | restart =>
      -- nothing is cached any more
      refine ⟨fun h => ⟨fun x t hx => ?_, h.barred⟩, fun _ _ hfile => hfile⟩
      change (∅ : AList fun _ : String => Trial).lookup x = some t at hx
      rw [AList.lookup_empty] at hx
      cases hx
  | decide hash status =>
      show Moves s (s.decide hash status)
      unfold State.decide
      split
      · exact Moves.refl s
      · rename_i row hrow
        refine moves_of_rewritten hrow rfl rfl ?_
        intro x hx
        split at hx
        · rcases List.mem_append.mp hx with hx | hx
          · exact Or.inl hx
          · exact Or.inr (List.mem_singleton.mp hx)
        · exact Or.inl hx

/-- A run keeps the times of every trial. -/
theorem run_moves (v : Service) (h : Coherent s) (calls : List Call) : Moves s (run v.step s calls) := by
  refine run_keeps (I := Moves s) ?_ (Moves.refl s) calls
  intro s' c hmoves
  exact hmoves.trans (step_moves v (hmoves.coherent h) c)

theorem Coherent.onFile (h : Coherent s) (hholds : s.Holds hash t) : s.OnFile hash t := by
  rcases hholds with ⟨row, hrow, rfl⟩ | hcache
  · exact ⟨row, hrow, rfl, rfl⟩
  · exact h.cached hash t hcache

/-- What is on file under one hash has one pair of times. -/
theorem onFile_unique {t' : Trial} (h : s.OnFile hash t) (h' : s.OnFile hash t') :
    t'.startedAt = t.startedAt ∧ t'.expiresAt = t.expiresAt := by
  obtain ⟨row, hrow, hstart, hexp⟩ := h
  obtain ⟨row', hrow', hstart', hexp'⟩ := h'
  obtain rfl := Option.some.inj (hrow.symm.trans hrow')
  exact ⟨hstart'.symm.trans hstart, hexp'.symm.trans hexp⟩

theorem timesKept (v : Service) (h : Coherent s) (calls : List Call) : v.TimesKept s calls := by
  rintro pre ⟨post, rfl⟩ hash t t' ht ht'
  have hpre := (run_moves v h pre).coherent h
  have hpost := run_moves v hpre post
  rw [run_append] at ht'
  exact onFile_unique (hpost.kept hash t (hpre.onFile ht)) ((hpost.coherent hpre).onFile ht')

/-- A service starts with an empty cache, which any store allows. -/
theorem coherent_start (store : AList fun _ : String => Row) : Coherent (start store ∅) where
  cached hash t h := by
    change (∅ : AList fun _ : String => Trial).lookup hash = some t at h
    rw [AList.lookup_empty] at h
    cases h
  barred hash h := by
    obtain ⟨e, he, rfl⟩ := List.mem_map.mp h
    exact ⟨e.2, AList.mem_lookup_iff.mpr (List.mem_filter.mp he).1⟩

theorem new_duration (cfg : Config) (hash : String → String) : 0 ≤ (new cfg hash).cfg.duration := by
  show 0 ≤ if cfg.duration ≤ 0 then 5 * minute else cfg.duration
  split
  · decide
  · omega

/-! ## Results -/

/-- **The preview is closed exactly when nothing stale is found and no count fails.** Every request of a
run is let in only by what it relied on, and the times of trials stay, if and only if no request finds
an active copy of a trial that has been barred, and the count succeeds for each trial that is
created. -/
theorem closed_throughout_iff {cfg : Config} {hash : String → String}
    {store : AList fun _ : String => Row} {cache : AList fun _ : String => Trial} {calls : List Call}
    (hon : cfg.enabled = true) (h : Coherent (start store cache)) :
    (Along (new cfg hash).step (new cfg hash).Closed (start store cache) calls ∧
        (new cfg hash).TimesKept (start store cache) calls) ↔
      Along (new cfg hash).step (new cfg hash).Finds (start store cache) calls := by
  rw [and_iff_left (timesKept (new cfg hash) h calls)]
  refine along_congr (I := Coherent) ?_ ?_ h
  · intro s c hs
    exact (step_moves (new cfg hash) hs c).coherent hs
  · intro s c hs
    exact closed_iff_finds hs hon (new_duration cfg hash) c

/-- A visit without a cookie, and one with the cookie that the visit was given. -/
def visits (ok : Answers) : List Call :=
  [.evaluate {} true 0 "t" ok, .evaluate { cookie := some "t" } false minute "" {}]

/-- A visit that creates a trial and one that comes back with its cookie: both are let in on what is
on file. -/
theorem closed_visits :
    Along (new {} id).step (new {} id).Closed (start ∅ ∅) (visits {}) ∧
      (new {} id).TimesKept (start ∅ ∅) (visits {}) := by
  refine (closed_throughout_iff rfl (coherent_start ∅)).mpr ⟨?_, ?_, trivial⟩
  · refine ⟨fun value h => ?_, fun _ _ _ _ _ => rfl⟩
    cases h
  · refine ⟨fun value h hbarred => ?_, fun h => ?_⟩
    · cases hbarred
    · cases h

/-- The visit is let in although the count failed. And a trial that has been blocked in the meantime is
let in by its cookie. -/
theorem opened :
    ¬ Along (new {} id).step (new {} id).Closed (start ∅ ∅) [.evaluate {} true 0 "t" { count := false }] ∧
      ¬ Along (new {} id).step (new {} id).Closed (start ∅ ∅)
        [.evaluate {} true 0 "t" {}, .decide "t" .blocked,
          .evaluate { cookie := some "t" } false minute "" {}] := by
  constructor
  · rintro ⟨hclosed, -⟩
    have hcount := ((hclosed (by decide)).2 rfl).1 rfl
    cases hcount
  · rintro ⟨-, -, hclosed, -⟩
    have hjust := ((hclosed (by decide)).1 "t" rfl).2
    exact hjust.notBarred (by decide)

end PredictATrade.Realtime.LivePreview
