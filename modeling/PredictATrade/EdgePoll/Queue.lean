import PredictATrade.Lib.Sql
import PredictATrade.Lib.Table
import PredictATrade.DeviceAuth.Schema
import Mathlib.Data.List.Sort

/-!
# `EdgePoll.Queue` — the queue of signals for terminals

`licensing.edge_signal_queue`, the tables that decide who may have a signal, and the statements of
`EdgePollService` that read and write them. Each statement is a transaction of its own.

The cast of a text to a time is PostgreSQL's, and so is a parameter (`Env`); it fails on a text that
is none, and the statement with it.
-/

namespace PredictATrade.EdgePoll

open Lib.Sql Lib.Table
open DeviceAuth (Id Time LicenseStatus)

/-- `interval 'n seconds'`. -/
def seconds (n : ℤ) : Time := n * 1000

/-- `interval '1 hour'`. -/
def hour : Time := 3600000

/-! ## Rows -/

/-- The statuses of a queued signal. -/
inductive Status where
  | pending | inFlight | acked | expired | failed
  deriving DecidableEq, Repr

/-- A row of the queue. -/
structure QueueRow where
  id : Id
  deviceId : Id
  signalId : String
  payload : Jsonb
  status : Status := .pending
  attempts : ℕ := 0
  lastError : Option String := none
  createdAt : Time
  inFlightAt : Option Time := none
  ackedAt : Option Time := none
  ackResult : Option Jsonb := none

/-- A device, as far as the poll reads it. -/
structure Device where
  revokedAt : Option Time
  boundLicenseId : Option Id
  lastSeenAt : Option Time

/-- A license, as far as the poll reads it. -/
structure License where
  status : LicenseStatus
  planId : Id
  allowedStrategies : Option Jsonb

/-- A plan, as far as the poll reads it. -/
structure Plan where
  allowedStrategies : Option Jsonb

/-- The tables that the queue is joined with, by their primary keys. -/
structure Tables where
  devices : Id → Option Device
  licenses : Id → Option License
  plans : Id → Option Plan

/-- What PostgreSQL makes of a text as a `timestamptz`, if it is one. -/
structure Env where
  timestamptz : String → Option Time

/-- `COALESCE(payload->>'StrategyID', payload->>'strategy_id')`. -/
def strategyId (payload : Jsonb) : Option String :=
  payload.get "StrategyID" <|> payload.get "strategy_id"

namespace QueueRow

variable (env : Env) (now : Time) (device : Id) (r : QueueRow)

/-- `COALESCE(last_error,'') || text`. -/
def note (text : String) : Option String := some (r.lastError.getD "" ++ text)

/-- `COALESCE(payload->>'ExpiresAt', payload->>'expires_at')`. -/
def expiresAt : Option String := r.payload.get "ExpiresAt" <|> r.payload.get "expires_at"

/-- The row waits for the device. -/
def waits : Bool := r.deviceId == device && r.status == .pending

/-- The row was handed to the device more than 30 seconds ago, and the device is silent. -/
def stale : Bool :=
  r.deviceId == device && r.status == .inFlight && r.inFlightAt.any (· + seconds 30 < now)

/-- The row has an expiry, which has passed. -/
def pastExpiry : Bool := (r.expiresAt.bind env.timestamptz).any (· < now)

/-- The row has an expiry that is no time. -/
def malformed : Bool := r.expiresAt.any fun text => (env.timestamptz text).isNone

end QueueRow

/-- The queue; its `id` is the primary key. -/
structure Queue where
  rows : List QueueRow
  keys : (rows.map QueueRow.id).Nodup

namespace Queue

/-- `UPDATE … SET f WHERE p`. -/
def update (q : Queue) (p : QueueRow → Bool) (f : QueueRow → QueueRow)
    (hf : ∀ r, (f r).id = r.id) : Queue where
  rows := updateWhere p f q.rows
  keys := by rw [map_updateWhere hf]; exact q.keys

/-- A row is inserted, unless its key is taken. -/
def insert (q : Queue) (r : QueueRow) : Queue :=
  if h : r.id ∈ q.rows.map QueueRow.id then q
  else ⟨r :: q.rows, List.nodup_cons.mpr ⟨h, q.keys⟩⟩

/-- The queue with no row. -/
def empty : Queue := ⟨[], List.nodup_nil⟩

/-! ## Statements of `poll` -/

variable (env : Env) (now : Time) (device : Id) (q : Queue)

/-- A row in flight for too long that has been tried 50 times is given up. -/
def deadLetter : Queue :=
  q.update (fun r => r.stale now device && decide (50 ≤ r.attempts))
    (fun r => { r with status := .expired, lastError := r.note " dead-lettered (attempt cap);" })
    fun _ => rfl

/-- A row in flight for too long waits again. -/
def reclaim : Queue :=
  q.update (fun r => r.stale now device)
    (fun r => { r with status := .pending, lastError := r.note " reclaimed;" }) fun _ => rfl

/-- The rows past their expiry expire. An expiry that is no time fails the statement. -/
def expire : Option Queue :=
  if q.rows.any fun r => r.waits device && r.malformed env then none
  else some (q.update (fun r => r.waits device && r.pastExpiry env now)
    (fun r => { r with status := .expired }) fun _ => rfl)

end Queue

/-! ## Entitlement -/

/-- `list IS NOT NULL AND list::text NOT IN ('', 'null', '[]') AND list::text NOT LIKE '%' || id ||
'%'`. -/
def excludes (list : Option Jsonb) (id : Option String) : Option Bool :=
  and3 (and3 (some list.isSome)
      (list.map fun j => !(["".toList, "null".toList, "[]".toList].contains j.chars)))
    (list.bind fun j => id.map fun s => !like ('%' :: (s.toList ++ ['%'])) j.chars)

/-- The disjunction of the entitlement `WHERE`, over the joined row. The strategy is read under one of
its spellings only. -/
def unentitled (d : Device) (l : Option License) (p : Option Plan) (payload : Jsonb) :
    Option Bool :=
  or3 (or3 (or3 (or3 (some d.revokedAt.isSome) (some l.isNone))
        (l.map fun l => l.status != .active && l.status != .pending))
      (excludes (l.bind License.allowedStrategies) (payload.get "StrategyID")))
    (excludes (p.bind Plan.allowedStrategies) (payload.get "StrategyID"))

/-- The license of the device, and its plan: the `LEFT JOIN`s. -/
def Tables.license (t : Tables) (d : Device) : Option License := d.boundLicenseId.bind t.licenses

/-- The plan of a device's license. -/
def Tables.plan (t : Tables) (d : Device) : Option Plan :=
  (t.license d).bind fun l => t.plans l.planId

/-- The entitlement `WHERE` of a row. A device that has no row is not joined. -/
def Tables.withdraws (t : Tables) (r : QueueRow) : Bool :=
  match t.devices r.deviceId with
  | none => false
  | some d =>
    (strategyId r.payload).isSome && unentitled d (t.license d) (t.plan d) r.payload == some true

namespace Queue

variable (env : Env) (t : Tables) (now : Time) (device : Id) (q : Queue)

/-- The rows whose entitlement has been revoked expire. -/
def entitle : Queue :=
  q.update (fun r => r.waits device && t.withdraws r)
    (fun r => { r with status := .expired, lastError := r.note " entitlement-revoked;" })
    fun _ => rfl

/-! ## The claim -/

/-- The sub-select of the claim: the oldest rows that wait and are not locked by another. -/
def batch (locked : Id → Bool) (max : ℕ) : List QueueRow :=
  (((q.rows.filter fun r => r.waits device).mergeSort
    fun r r' => decide (r.createdAt ≤ r'.createdAt)).filter fun r => !locked r.id).take max

/-- The row as the claim leaves it. -/
def handedOut (r : QueueRow) : QueueRow :=
  { r with status := .inFlight, inFlightAt := some now, attempts := r.attempts + 1 }

/-- The next batch is put in flight. -/
def claim (locked : Id → Bool) (max : ℕ) : Queue :=
  q.update (fun r => ((q.batch device locked max).map QueueRow.id).contains r.id) (handedOut now)
    fun _ => rfl

/-- The rows that the claim returns. -/
def claimed (locked : Id → Bool) (max : ℕ) : List QueueRow :=
  (q.claim now device locked max).rows.filter fun r =>
    ((q.batch device locked max).map QueueRow.id).contains r.id

/-! ## `ack` and `sweepStale` -/

/-- The device reports on a row. -/
def ack (queueId : Id) (result : Jsonb) : Queue :=
  q.update (fun r => r.id == queueId && r.deviceId == device)
    (fun r => { r with status := .acked, ackedAt := some now, ackResult := some result })
    fun _ => rfl

/-- The rows of all devices that are past their expiry expire. -/
def sweepTtl : Option Queue :=
  if q.rows.any fun r => r.status == .pending && r.malformed env then none
  else some (q.update (fun r => r.status == .pending && r.pastExpiry env now)
    (fun r => { r with status := .expired, lastError := r.note " ttl-swept;" }) fun _ => rfl)

/-- The rows that wait for a device that has not been seen for an hour expire. -/
def sweepOffline : Queue :=
  q.update (fun r => r.status == .pending &&
      (t.devices r.deviceId).any fun d => d.lastSeenAt.any (· + hour < now))
    (fun r => { r with status := .expired, lastError := r.note " device-offline-swept;" })
    fun _ => rfl

end Queue

/-- `Math.min(Math.max(parseInt(body?.max_signals, 10) || 10, 1), 20)`; `none` is a NaN. -/
def maxSignals (parsed : Option ℤ) : ℕ :=
  let n := if parsed.getD 0 = 0 then 10 else parsed.getD 0
  (min (max n 1) 20).toNat

/-! ## What the statements do -/

namespace QueueRow

variable {env : Env} {now : Time} {device : Id} {r : QueueRow}

/-- When a row waits for a device. -/
theorem waits_iff : r.waits device = true ↔ r.deviceId = device ∧ r.status = .pending := by
  simp only [waits, Bool.and_eq_true, beq_iff_eq]

/-- When a row of a device is stale. -/
theorem stale_iff : r.stale now device = true ↔ r.deviceId = device ∧ r.status = .inFlight ∧
    ∃ t, r.inFlightAt = some t ∧ t + seconds 30 < now := by
  simp only [stale, Bool.and_eq_true, beq_iff_eq, Option.any_eq_true, decide_eq_true_eq, and_assoc]

end QueueRow

namespace Queue

variable {env : Env} {now : Time} {device : Id} {q q' : Queue} {locked : Id → Bool} {max : ℕ}
  {r r' : QueueRow}

theorem eq_of_id (hr : r ∈ q.rows) (hr' : r' ∈ q.rows) (h : r.id = r'.id) : r = r' :=
  eq_of_key q.keys hr hr' h

theorem mem_batch (h : r ∈ q.batch device locked max) : r ∈ q.rows ∧ r.waits device = true := by
  have hfilter := (List.mem_filter.mp (List.mem_of_mem_take h)).1
  exact List.mem_filter.mp (List.mem_mergeSort.mp hfilter)

theorem batch_keys : ((q.batch device locked max).map QueueRow.id).Nodup := by
  have hwait : ((q.rows.filter fun r => r.waits device).map QueueRow.id).Nodup :=
    q.keys.sublist (List.filter_sublist.map _)
  have hsort := ((List.mergeSort_perm (q.rows.filter fun r => r.waits device)
    fun r r' => decide (r.createdAt ≤ r'.createdAt)).map QueueRow.id).nodup_iff.mpr hwait
  exact hsort.sublist (((List.take_sublist _ _).trans List.filter_sublist).map _)

/-- A row of the queue is claimed by its key exactly when it is in the batch. -/
theorem contains_batch (hr : r ∈ q.rows) :
    ((q.batch device locked max).map QueueRow.id).contains r.id = true ↔
      r ∈ q.batch device locked max := by
  rw [List.contains_iff_mem, List.mem_map]
  constructor
  · rintro ⟨r', hr', hid⟩
    exact eq_of_id (mem_batch hr').1 hr hid ▸ hr'
  · exact fun h => ⟨r, h, rfl⟩

/-- What the claim returns are the rows of the batch, handed out. -/
theorem mem_claimed : r' ∈ q.claimed now device locked max ↔
    ∃ r ∈ q.batch device locked max, handedOut now r = r' := by
  unfold claimed
  rw [List.mem_filter]
  constructor
  · rintro ⟨hr', hid⟩
    obtain ⟨r, hr, rfl⟩ := mem_updateWhere.mp hr'
    by_cases hc : ((q.batch device locked max).map QueueRow.id).contains r.id = true
    · exact ⟨r, (contains_batch hr).mp hc, by rw [if_pos hc]⟩
    · rw [if_neg hc] at hid
      exact absurd hid hc
  · rintro ⟨r, hb, rfl⟩
    have hr := (mem_batch hb).1
    have hc := (contains_batch hr).mpr hb
    exact ⟨mem_updateWhere.mpr ⟨r, hr, by rw [if_pos hc]⟩, hc⟩

theorem expire_eq (h : q.expire env now device = some q') :
    q'.rows = updateWhere (fun r => r.waits device && r.pastExpiry env now)
      (fun r => { r with status := .expired }) q.rows := by
  unfold expire at h
  split_ifs at h
  rw [← Option.some.inj h]
  rfl

/-- What waits for the device after the expiry statement is not past its expiry. -/
theorem expire_fresh (h : q.expire env now device = some q') (hr' : r' ∈ q'.rows)
    (hw : r'.waits device = true) : r'.pastExpiry env now = false := by
  rw [expire_eq h, mem_updateWhere] at hr'
  obtain ⟨r, -, hr⟩ := hr'
  by_cases hc : (r.waits device && r.pastExpiry env now) = true
  · rw [if_pos hc] at hr
    subst hr
    cases (QueueRow.waits_iff.mp hw).2
  · rw [if_neg hc] at hr
    subst hr
    rwa [hw, Bool.true_and, Bool.not_eq_true] at hc

theorem sweepTtl_eq (h : q.sweepTtl env now = some q') :
    q'.rows = updateWhere (fun r => r.status == .pending && r.pastExpiry env now)
      (fun r => { r with status := .expired, lastError := r.note " ttl-swept;" }) q.rows := by
  unfold sweepTtl at h
  split_ifs at h
  rw [← Option.some.inj h]
  rfl

end Queue

end PredictATrade.EdgePoll
