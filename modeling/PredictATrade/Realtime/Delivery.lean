import Mathlib.Data.List.Sort
import PredictATrade.Lib.Runs
import PredictATrade.Lib.Table

/-!
# `Realtime.Delivery` — the numbers of the deliveries, and resuming from one

`DeliveryManager` numbers the deliveries of each device from a counter in memory, and
`ResumeFromSequence` reads from the table the deliveries that a device has not acknowledged. Two
things go wrong. A process that starts again counts from zero, although `trading.signal_sequences` has
the number it had come to. And the resume query has thirteen columns, of which `rows.Scan` wants to
take four: no row is decoded, each is skipped, and nothing is resumed. `sequenced_throughout_iff` says
which runs do not show it.

The unique index on `(signal_id, device_id)` is a partial one, and the conflict target of the `INSERT`
does not repeat its predicate. Postgres infers no partial index from such a target and refuses the
statement; `inferred` says whether it does, and nothing here depends on the answer.
-/

namespace PredictATrade.Realtime.Delivery

open Lib.Runs Lib.Table

/-! ## Data -/

/-- The states of a delivery. -/
inductive DeliveryState where
  | generated | gated | queued | sent | delivered | acknowledged | executing | executed | rejected
  | failed | expired | cancelled
  deriving DecidableEq, Repr

/-- The time by the clock of the database. -/
abbrev Time := ℤ

/-- A row of `trading.signal_deliveries`. -/
structure DeliveryRow where
  signalID : String
  deviceID : String
  licenseID : Option String := none
  accountID : Option String := none
  sequenceNumber : ℕ
  deliveryState : DeliveryState := .sent
  sentAt : Option Time := none
  acknowledgedAt : Option Time := none
  brokerTicket : Option String := none
  executionResult : Option String := none
  sendAttempts : ℕ := 0
  replayCount : ℕ := 0
  createdAt : Time := 0
  updatedAt : Time := 0
  deriving DecidableEq, Repr

/-- What is read of a row of `trading.signals`. -/
structure SignalRow where
  direction : String
  status : String
  expiresAt : Time
  deriving DecidableEq, Repr

/-- The tables. -/
structure Database where
  signals : String → Option SignalRow := fun _ => none
  deliveries : List DeliveryRow := []
  /-- `trading.signal_sequences`, the last number by device. -/
  lastSent : String → Option ℕ := fun _ => none

/-- `SignalDelivery`, as far as it is filled in. -/
structure SignalDelivery where
  signalID : String
  deviceID : String := ""
  licenseID : String := ""
  accountID : String := ""
  sequenceNumber : ℕ
  deliveryState : DeliveryState
  sentAt : Option Time
  sendAttempts : ℕ := 0
  replayCount : ℕ := 0
  deriving DecidableEq, Repr

/-- A number that a delivery was given. -/
structure Assigned where
  deviceID : String
  signalID : String
  sequenceNumber : ℕ
  deriving DecidableEq, Repr

/-- The tables, the counters of the process, the time, and the numbers given so far. -/
structure State where
  db : Database := {}
  sequences : String → ℕ := fun _ => 0
  now : Time := 0
  assigned : List Assigned := []

/-- A new process. -/
def start (db : Database) (now : Time) : State := { db, now }

/-! ## Methods -/

/-- An empty id is stored as `NULL`. -/
def nullable (id : String) : Option String := if id = "" then none else some id

/-- Is there a delivery of the signal to the device? -/
def Database.delivers (db : Database) (signalID deviceID : String) : Bool :=
  db.deliveries.any fun d => d.signalID == signalID && d.deviceID == deviceID

/-- `INSERT … ON CONFLICT (signal_id, device_id) DO UPDATE`. The signal must be on file, and
`stored` says whether the database takes the statement otherwise. -/
def Database.insertDelivery (db : Database) (inferred stored : Bool) (row : DeliveryRow) :
    Option Database :=
  if !inferred || !stored || (db.signals row.signalID).isNone then none
  else if db.delivers row.signalID row.deviceID then
    some { db with
      deliveries :=
        updateWhere (fun d => d.signalID == row.signalID && d.deviceID == row.deviceID)
          (fun d => { d with sendAttempts := d.sendAttempts + 1, updatedAt := row.updatedAt })
          db.deliveries }
  else some { db with deliveries := db.deliveries ++ [row] }

/-- `INSERT INTO trading.signal_sequences`, whose errors are ignored. -/
def Database.trackSequence (db : Database) (tracked : Bool) (deviceID : String) (seq : ℕ) : Database :=
  if tracked then { db with lastSent := Function.update db.lastSent deviceID (some seq) } else db

/-- `RecordDelivery`. The number is taken before the statements and is not given back. -/
def State.recordDelivery (s : State) (inferred : Bool)
    (signalID deviceID licenseID accountID : String) (stored tracked : Bool) :
    Option SignalDelivery × State :=
  let seq := s.sequences deviceID
  let s := { s with sequences := Function.update s.sequences deviceID (seq + 1) }
  let row : DeliveryRow :=
    { signalID, deviceID, licenseID := nullable licenseID, accountID := nullable accountID
      sequenceNumber := seq, sentAt := some s.now, sendAttempts := 1
      createdAt := s.now, updatedAt := s.now }
  match s.db.insertDelivery inferred stored row with
  | none => (none, s)
  | some db =>
    let delivery : SignalDelivery :=
      { signalID, deviceID, licenseID, accountID, sequenceNumber := seq, deliveryState := .sent
        sentAt := some s.now, sendAttempts := 1 }
    (some delivery,
      { s with
        db := db.trackSequence tracked deviceID (seq + 1)
        assigned := s.assigned ++ [{ deviceID, signalID, sequenceNumber := seq }] })

/-- `AcknowledgeSignal`. -/
def State.acknowledgeSignal (s : State) (signalID deviceID brokerTicket : String)
    (execResult : Option String) : State :=
  let deliveries :=
    updateWhere
      (fun d => d.signalID == signalID && d.deviceID == deviceID &&
        d.deliveryState != .executed && d.deliveryState != .acknowledged)
      (fun d =>
        { d with
          deliveryState := .acknowledged
          acknowledgedAt := some s.now
          brokerTicket := some brokerTicket
          executionResult := execResult
          updatedAt := s.now })
      s.db.deliveries
  { s with db := { s.db with deliveries } }

/-- `delivery_state IN ('SENT', 'DELIVERED', 'QUEUED')` -/
def DeliveryState.isPending : DeliveryState → Bool
  | .sent | .delivered | .queued => true
  | _ => false

/-- `MarkExpired`. -/
def State.markExpired (s : State) : State :=
  let deliveries :=
    updateWhere
      (fun d => d.deliveryState.isPending &&
        (s.db.signals d.signalID).any fun sig => decide (sig.expiresAt < s.now))
      (fun d => { d with deliveryState := .expired, updatedAt := s.now })
      s.db.deliveries
  { s with db := { s.db with deliveries } }

/-- The join and the conditions of the resume query that do not depend on its parameters. -/
def State.isDue (s : State) (d : DeliveryRow) : Bool :=
  d.deliveryState.isPending &&
    (s.db.signals d.signalID).any fun sig =>
      decide (s.now < sig.expiresAt) && ["BUY", "SELL"].contains sig.direction &&
        ["CONFIRMED", "ACTIVE"].contains sig.status

/-- The rows of the resume query. -/
def State.resumeRows (s : State) (deviceID : String) (last : ℤ) : List DeliveryRow :=
  ((s.db.deliveries.filter fun d =>
    d.deviceID == deviceID && decide (last < d.sequenceNumber) && s.isDue d).insertionSort
      fun d d' => d.sequenceNumber ≤ d'.sequenceNumber).take 10

/-- The columns of the resume query. -/
def resumeColumns : List String :=
  ["sd.signal_id", "sd.sequence_number", "sd.delivery_state", "sd.sent_at", "s.direction",
    "s.entry_price", "s.stop_loss", "s.tp1", "s.tp2", "s.tp3", "s.strategy_id", "s.status",
    "s.expires_at"]

/-- What `rows.Scan` is given to take them. -/
def scanDestinations : List String := ["d.SignalID", "d.SequenceNumber", "d.DeliveryState", "sentAt"]

/-- `rows.Scan`, which wants a destination for each column. -/
def scan (d : DeliveryRow) : Option SignalDelivery :=
  if resumeColumns.length ≠ scanDestinations.length then none
  else
    some
      { signalID := d.signalID, sequenceNumber := d.sequenceNumber
        deliveryState := d.deliveryState, sentAt := d.sentAt, replayCount := 1 }

/-- `UPDATE … SET replay_count = replay_count + 1`. -/
def State.markReplayed (s : State) (deviceID signalID : String) : State :=
  let deliveries :=
    updateWhere (fun d => d.signalID == signalID && d.deviceID == deviceID)
      (fun d => { d with replayCount := d.replayCount + 1, updatedAt := s.now }) s.db.deliveries
  { s with db := { s.db with deliveries } }

/-- `ResumeFromSequence`. A row that is not decoded is skipped. -/
def State.resumeFromSequence (s : State) (deviceID : String) (last : ℤ) : List SignalDelivery × State :=
  let deliveries := (s.resumeRows deviceID last).filterMap scan
  (deliveries, deliveries.foldl (fun s d => s.markReplayed deviceID d.signalID) s)

/-- Resuming again from the last number, until nothing comes, `fuel` times at most. -/
def State.resumeAll (s : State) (deviceID : String) (last : ℤ) : ℕ → List SignalDelivery
  | 0 => []
  | fuel + 1 =>
    let (deliveries, s) := s.resumeFromSequence deviceID last
    match deliveries.getLast? with
    | none => []
    | some d => deliveries ++ s.resumeAll deviceID d.sequenceNumber fuel

/-! ## Runs -/

/-- The calls; `answers` says whether the database takes the statement of one. -/
inductive Call where
  | recordDelivery (signalID deviceID licenseID accountID : String) (stored tracked : Bool)
  | acknowledgeSignal (signalID deviceID brokerTicket : String) (execResult : Option String)
      (answers : Bool)
  | markExpired (answers : Bool)
  | resumeFromSequence (deviceID : String) (last : ℤ) (answers : Bool)
  | restart
  /-- The row of a signal is written by other code. -/
  | writeSignal (signalID : String) (row : SignalRow)
  | elapse (d : ℕ)

/-- The state after a call. -/
def step (inferred : Bool) (s : State) : Call → State
  | .recordDelivery signalID deviceID licenseID accountID stored tracked =>
    (s.recordDelivery inferred signalID deviceID licenseID accountID stored tracked).2
  | .acknowledgeSignal signalID deviceID brokerTicket execResult answers =>
    if answers then s.acknowledgeSignal signalID deviceID brokerTicket execResult else s
  | .markExpired answers => if answers then s.markExpired else s
  | .resumeFromSequence deviceID last answers =>
    if answers then (s.resumeFromSequence deviceID last).2 else s
  | .restart => { s with sequences := fun _ => 0 }
  | .writeSignal signalID row =>
    { s with db := { s.db with signals := Function.update s.db.signals signalID (some row) } }
  | .elapse d => { s with now := s.now + d }

/-- The number comes before the other, where it should. -/
def Assigned.Before (a b : Assigned) : Prop :=
  a.deviceID = b.deviceID → a.signalID ≠ b.signalID → a.sequenceNumber < b.sequenceNumber

instance (a b : Assigned) : Decidable (a.Before b) := inferInstanceAs (Decidable (_ → _ → _))

/-- The numbers given to different signals of a device increase. -/
def Increasing (s : State) : Prop := s.assigned.Pairwise Assigned.Before

/-- Resuming yields each delivery of the device that is due, and has a number above the last, once. -/
def Resumes (s : State) : Prop :=
  ∀ deviceID last,
    let resumed := (s.resumeAll deviceID last (s.db.deliveries.length + 1)).map fun d =>
      (d.signalID, d.sequenceNumber)
    resumed.Nodup ∧ ∀ k, k ∈ resumed ↔
      ∃ d ∈ s.db.deliveries, d.deviceID = deviceID ∧ last < d.sequenceNumber ∧ s.isDue d = true ∧
        (d.signalID, d.sequenceNumber) = k

/-- What is asked of a state. -/
def Sequenced (s : State) : Prop := Increasing s ∧ Resumes s

/-- No delivery is due. -/
def NoneDue (s : State) : Prop := ∀ d ∈ s.db.deliveries, s.isDue d = false

/-- A delivery that the database takes gets a number above those of the other signals of the device. -/
def Fresh (inferred : Bool) (s : State) : Call → Prop
  | .recordDelivery signalID deviceID _ _ stored _ =>
    inferred = true → stored = true → (s.db.signals signalID).isSome = true →
      ∀ a ∈ s.assigned, a.deviceID = deviceID → a.signalID ≠ signalID →
        a.sequenceNumber < s.sequences deviceID
  | _ => True

variable {s : State} {inferred : Bool}

/-! ## Resuming -/

/-- No row is decoded. -/
theorem scan_eq_none (d : DeliveryRow) : scan d = none := if_pos (by decide)

theorem resumed_eq_nil (s : State) (deviceID : String) (last : ℤ) :
    s.resumeFromSequence deviceID last = ([], s) := by
  have hnone : (s.resumeRows deviceID last).filterMap scan = [] := by
    apply List.filterMap_eq_nil_iff.mpr
    intro d _
    exact scan_eq_none d
  unfold State.resumeFromSequence
  rw [hnone]
  rfl

theorem resumeAll_eq_nil (s : State) (deviceID : String) (last : ℤ) (fuel : ℕ) :
    s.resumeAll deviceID last fuel = [] := by
  cases fuel with
  | zero => rfl
  | succ fuel =>
      unfold State.resumeAll
      rw [resumed_eq_nil]
      rfl

/-- So resuming yields what is due exactly when nothing is. -/
theorem resumes_iff (s : State) : Resumes s ↔ NoneDue s := by
  unfold Resumes
  simp only [resumeAll_eq_nil, List.map_nil, List.nodup_nil, List.not_mem_nil, true_and, false_iff]
  constructor
  · intro h d hd
    apply Bool.eq_false_iff.mpr
    intro hdue
    -- the number before its own is a last number to resume from
    have hbelow : (d.sequenceNumber : ℤ) - 1 < d.sequenceNumber := by omega
    exact h d.deviceID (d.sequenceNumber - 1) (d.signalID, d.sequenceNumber)
      ⟨d, hd, rfl, hbelow, hdue, rfl⟩
  · rintro h deviceID last k ⟨d, hd, -, -, hdue, -⟩
    rw [h d hd] at hdue
    cases hdue

/-! ## Numbers -/

/-- What a call adds to the numbers given. -/
def adds (inferred : Bool) (s : State) : Call → List Assigned
  | .recordDelivery signalID deviceID _ _ stored _ =>
    if inferred = true ∧ stored = true ∧ (s.db.signals signalID).isSome = true then
      [{ deviceID, signalID, sequenceNumber := s.sequences deviceID }]
    else []
  | _ => []

/-- When a delivery is inserted. -/
theorem insertDelivery_isSome_iff (db : Database) (stored : Bool) (row : DeliveryRow) :
    (db.insertDelivery inferred stored row).isSome = true ↔
      inferred = true ∧ stored = true ∧ (db.signals row.signalID).isSome = true := by
  unfold Database.insertDelivery
  cases inferred <;> cases stored <;> cases db.signals row.signalID <;>
    cases db.delivers row.signalID row.deviceID <;> simp

/-- The numbers that were given out, after a call. -/
theorem assigned_step (s : State) (c : Call) :
    (step inferred s c).assigned = s.assigned ++ adds inferred s c := by
  cases c with
  | recordDelivery signalID deviceID licenseID accountID stored tracked =>
      show (s.recordDelivery inferred signalID deviceID licenseID accountID stored tracked).2.assigned =
        s.assigned ++ if _ then _ else _
      unfold State.recordDelivery
      dsimp only
      split
      · rename_i hnone
        -- the insertion has failed, so one of its conditions does not hold
        rw [if_neg, List.append_nil]
        intro h
        have hsome : (none : Option Database).isSome = true := by
          rw [← hnone]
          exact (insertDelivery_isSome_iff s.db stored _).mpr h
        cases hsome
      · rename_i db hsome
        rw [if_pos]
        exact (insertDelivery_isSome_iff s.db stored _).mp (Option.isSome_of_eq_some hsome)
  | acknowledgeSignal signalID deviceID brokerTicket execResult answers =>
      cases answers <;> exact (List.append_nil _).symm
  | markExpired answers => cases answers <;> exact (List.append_nil _).symm
  | resumeFromSequence deviceID last answers =>
      show (if answers = true then (s.resumeFromSequence deviceID last).2 else s).assigned = _ ++ []
      rw [resumed_eq_nil, ite_self, List.append_nil]
  | restart => exact (List.append_nil _).symm
  | writeSignal signalID row => exact (List.append_nil _).symm
  | elapse d => exact (List.append_nil _).symm

/-- The step lemma for the numbers. -/
theorem increasing_step_iff (h : Increasing s) (c : Call) :
    Increasing (step inferred s c) ↔ Fresh inferred s c := by
  unfold Increasing
  rw [assigned_step, List.pairwise_append]
  cases c with
  | recordDelivery signalID deviceID licenseID accountID stored tracked =>
      by_cases hok : inferred = true ∧ stored = true ∧ (s.db.signals signalID).isSome = true
      · have hadds : adds inferred s
            (.recordDelivery signalID deviceID licenseID accountID stored tracked) =
              [{ deviceID, signalID, sequenceNumber := s.sequences deviceID }] := if_pos hok
        rw [hadds]
        constructor
        · -- one number is given, after all the others
          rintro ⟨-, -, hbefore⟩ - - - a ha hdevice hsignal
          exact hbefore a ha _ List.mem_cons_self hdevice hsignal
        · intro hfresh
          refine ⟨h, List.pairwise_singleton _ _, ?_⟩
          intro a ha b hb hdevice hsignal
          obtain rfl := List.mem_singleton.mp hb
          exact hfresh hok.1 hok.2.1 hok.2.2 a ha hdevice hsignal
      · have hadds : adds inferred s
            (.recordDelivery signalID deviceID licenseID accountID stored tracked) = [] := if_neg hok
        rw [hadds]
        refine iff_of_true ⟨h, List.Pairwise.nil, fun _ _ _ hb => nomatch hb⟩ ?_
        -- no number is given
        intro h₁ h₂ h₃
        exact absurd ⟨h₁, h₂, h₃⟩ hok
  | _ => exact iff_of_true ⟨h, List.Pairwise.nil, fun _ _ _ hb => nomatch hb⟩ trivial

/-! ## Runs -/

/-- **Delivery sequencing and resume.** Over a run from any tables, numbers increase and resuming is
complete in every state exactly when nothing is due in any of them, and each delivery that is recorded
gets a fresh number. -/
theorem sequenced_throughout_iff (inferred : Bool) (db : Database) (now : Time) (calls : List Call) :
    Throughout (step inferred) Sequenced (start db now) calls ↔
      Throughout (step inferred) NoneDue (start db now) calls ∧
        Along (step inferred) (Fresh inferred) (start db now) calls := by
  have hnumbers : Throughout (step inferred) Increasing (start db now) calls ↔
      Along (step inferred) (Fresh inferred) (start db now) calls := by
    -- nothing has been assigned at first
    have hnone : Increasing (start db now) := List.Pairwise.nil
    rw [throughout_iff_of_step fun s c hs => increasing_step_iff hs c]
    exact and_iff_right hnone
  rw [← hnumbers]
  constructor
  · intro h
    constructor
    · intro pre hpre
      exact (resumes_iff _).mp (h pre hpre).2
    · intro pre hpre
      exact (h pre hpre).1
  · rintro ⟨hdue, hincreasing⟩ pre hpre
    exact ⟨hincreasing pre hpre, (resumes_iff _).mpr (hdue pre hpre)⟩

/-- A signal that is delivered and due. -/
def oneDue : Database :=
  { signals := fun _ => some ⟨"BUY", "ACTIVE", 3600⟩
    deliveries := [{ signalID := "s1", deviceID := "ea-exec", sequenceNumber := 0 }] }

/-- Two signals delivered to a device, the process starting again in between. -/
def restarted : List Call :=
  [.recordDelivery "s1" "ea-exec" "" "" true true, .restart,
    .recordDelivery "s2" "ea-exec" "" "" true true]

/-- Nothing is resumed, and a number is given twice. -/
theorem not_resumed_and_repeated :
    (∀ inferred, ¬ Throughout (step inferred) Sequenced (start oneDue 0) []) ∧
      ¬ Throughout (step true) Increasing (start { oneDue with deliveries := [] } 0) restarted := by
  constructor
  · intro inferred h
    have hdue := (resumes_iff _).mp (h [] List.prefix_rfl).2 _ List.mem_cons_self
    cases hdue
  · intro h
    have hpair := List.pairwise_cons.mp (h _ List.prefix_rfl)
    exact absurd (hpair.1 _ List.mem_cons_self rfl (by decide)) (by decide)

end PredictATrade.Realtime.Delivery
