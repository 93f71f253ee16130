import PredictATrade.Lib.Runs
import PredictATrade.EdgePoll.Queue

/-!
# `EdgePoll.Delivery` — the life of a row of the queue

Any number of `poll`, `ack` and `sweepStale` calls, statement by statement, while rows are enqueued
and the other tables change. What a statement can do to a row is `RowStep`; everything said of a run
is derived from it.

A row that has been acknowledged or has expired stays so unless an `ack` names it (`ack` tests no
status); a row is handed out 50 times at most unless one that has been tried as often becomes stale
between the dead-letter statement and the reclaim after it; and a row past its expiry is handed out
only where it passes its expiry, or is queued past it, between the expiry statement of a poll and the
claim. In the other runs `delivery` holds.
-/

namespace PredictATrade.EdgePoll

open Lib.Runs Lib.Table Lib.Sql
open DeviceAuth (Id Time)

/-! ## Calls -/

/-- The next statement of a call. -/
inductive Call where
  | done
  /- `poll` -/
  | deadLetter (device : Id) (max : ℕ)
  | reclaim (device : Id) (max : ℕ)
  | expire (device : Id) (max : ℕ)
  | entitle (device : Id) (max : ℕ)
  | claim (device : Id) (max : ℕ)
  /- `ack` -/
  | ack (device queueId : Id) (result : Jsonb)
  /- `sweepStale` -/
  | sweepTtl
  | sweepOffline

/-- The tables, the queue, and how far each call is. -/
structure State where
  now : Time
  tables : Tables
  queue : Queue
  calls : List Call

/-- What happens next: the clock is read anew, the other tables change, the engine enqueues a row, a
call begins, or call number `n` executes a statement, the rows `locked` being locked by others. -/
inductive Input where
  | time (t : Time)
  | tables (t : Tables)
  | enqueue (id device : Id) (signalId : String) (payload : Jsonb)
  | poll (device : Id) (parsed : Option ℤ)
  | ack (device queueId : Id) (result : Jsonb)
  | sweep
  | exec (n : ℕ) (locked : Id → Bool)

namespace State

variable (env : Env)

/-- The state with a call at another point. -/
def goto (s : State) (n : ℕ) (p : Call) : State := { s with calls := s.calls.set n p }

/-- The state with another queue. -/
def setQueue (s : State) (q : Queue) : State := { s with queue := q }

/-- The state with one more call. -/
def begin (s : State) (p : Call) : State := { s with calls := s.calls ++ [p] }

/-- The next statement of a call. -/
def advance (s : State) (n : ℕ) (locked : Id → Bool) : Call → State
  | .done => s
  | .deadLetter device max =>
    (s.setQueue (s.queue.deadLetter s.now device)).goto n (.reclaim device max)
  | .reclaim device max => (s.setQueue (s.queue.reclaim s.now device)).goto n (.expire device max)
  | .expire device max =>
    match s.queue.expire env s.now device with
    | none => s.goto n .done
    | some q => (s.setQueue q).goto n (.entitle device max)
  | .entitle device max => (s.setQueue (s.queue.entitle s.tables device)).goto n (.claim device max)
  | .claim device max => (s.setQueue (s.queue.claim s.now device locked max)).goto n .done
  | .ack device queueId result =>
    (s.setQueue (s.queue.ack s.now device queueId result)).goto n .done
  | .sweepTtl =>
    match s.queue.sweepTtl env s.now with
    | none => s.goto n .done
    | some q => (s.setQueue q).goto n .sweepOffline
  | .sweepOffline => (s.setQueue (s.queue.sweepOffline s.tables s.now)).goto n .done

/-- The state after one more input. -/
def step (s : State) : Input → State
  | .time t => { s with now := t }
  | .tables t => { s with tables := t }
  | .enqueue id device signalId payload =>
    s.setQueue (s.queue.insert
      { id := id, deviceId := device, signalId := signalId, payload := payload, createdAt := s.now })
  | .poll device parsed => s.begin (.deadLetter device (maxSignals parsed))
  | .ack device queueId result => s.begin (.ack device queueId result)
  | .sweep => s.begin .sweepTtl
  | .exec n locked =>
    match s.calls[n]? with
    | none => s
    | some p => s.advance env n locked p

/-- Before the first row and the first call. -/
def start (now : Time) (tables : Tables) : State := ⟨now, tables, .empty, []⟩

/-! ## What is claimed -/

/-- The rows that the step hands out. -/
def handsOut (s : State) : Input → List QueueRow
  | .exec n locked =>
    match s.calls[n]? with
    | some (.claim device max) => s.queue.batch device locked max
    | _ => []
  | _ => []

/-- The rows that the step hands out, with the time. -/
def handOut (s : State) (i : Input) : Option (List (Id × Time)) :=
  some ((s.handsOut i).map fun r => (r.id, s.now))

/-- The hand-outs of a run, in their order. -/
def handOuts (s₀ : State) (is : List Input) : List (Id × Time) :=
  (trace (step env) handOut s₀ is).flatten

end State

/-- Acknowledged, or expired. -/
def QueueRow.Settled (r : QueueRow) : Prop := r.status = .acked ∨ r.status = .expired

instance : DecidablePred QueueRow.Settled := fun r =>
  inferInstanceAs (Decidable (r.status = .acked ∨ r.status = .expired))

namespace State

variable (env : Env)

/-- A settled row keeps its status, and an acknowledged one its result. -/
def Settles (s s' : State) : Prop :=
  ∀ r ∈ s.queue.rows, r.Settled → ∃ r' ∈ s'.queue.rows, r'.id = r.id ∧ r'.status = r.status ∧
    (r.status = .acked → r'.ackResult = r.ackResult)

/-- **Delivery.** Settled rows stay settled; the hand-outs of a row are more than 30 seconds apart, and
50 at most; and what is handed out is not past its expiry. -/
structure Delivery (s₀ : State) (is : List Input) : Prop where
  settled : Along (step env) (fun s i => Settles s (s.step env i)) s₀ is
  apart : (handOuts env s₀ is).Pairwise fun a b => a.1 = b.1 → a.2 + seconds 30 < b.2
  fifty : ∀ k, (handOuts env s₀ is).countP (fun h => h.1 == k) ≤ 50
  fresh : Along (step env) (fun s i => ∀ r ∈ s.handsOut i, r.pastExpiry env s.now = false) s₀ is

/-! ## The runs in which it holds -/

/-- The call is between the expiry statement of a poll of the device and its claim. -/
def between (device : Id) : Call → Bool
  | .entitle d _ | .claim d _ => d == device
  | _ => false

/-- A poll of the device is between its expiry statement and its claim. -/
def Claiming (s : State) (device : Id) : Prop := s.calls.any (between device) = true

instance (s : State) (device : Id) : Decidable (s.Claiming device) :=
  inferInstanceAs (Decidable (_ = true))

/-- The statement is an `ack` of a row that is not settled, or a reclaim that takes no row tried 50
times and, while the device is claiming, none past its expiry, or another one. -/
def OrderlyCall (s : State) : Call → Prop
  | .ack device queueId _ =>
    ∀ r ∈ s.queue.rows, r.id = queueId → r.deviceId = device → ¬ r.Settled
  | .reclaim device _ =>
    ∀ r ∈ s.queue.rows, r.stale s.now device = true →
      r.attempts < 50 ∧ (s.Claiming device → r.pastExpiry env s.now = false)
  | _ => True

/-- The clock is not set back. No `ack` names a settled row. No row that has been tried 50 times is
reclaimed. While a poll is between its expiry statement and its claim, no row that waits for the
device passes its expiry, and none that is past it comes to wait. -/
def Orderly (s : State) : Input → Prop
  | .time t => s.now ≤ t ∧ ∀ r ∈ s.queue.rows, r.status = .pending → s.Claiming r.deviceId →
      r.pastExpiry env t = false
  | .enqueue id device signalId payload => s.Claiming device →
      QueueRow.pastExpiry env s.now
        { id := id, deviceId := device, signalId := signalId, payload := payload,
          createdAt := s.now } = false
  | .exec n _ => s.OrderlyCall env (s.calls[n]?.getD .done)
  | _ => True

instance decidableOrderlyCall (s : State) : DecidablePred (s.OrderlyCall env)
  | .ack device queueId _ => inferInstanceAs (Decidable
      (∀ r ∈ s.queue.rows, r.id = queueId → r.deviceId = device → ¬ r.Settled))
  | .reclaim device _ => inferInstanceAs (Decidable
      (∀ r ∈ s.queue.rows, r.stale s.now device = true →
        r.attempts < 50 ∧ (s.Claiming device → r.pastExpiry env s.now = false)))
  | .done | .deadLetter _ _ | .expire _ _ | .entitle _ _ | .claim _ _ | .sweepTtl
  | .sweepOffline => .isTrue trivial

instance decidableOrderly (s : State) : DecidablePred (s.Orderly env)
  | .time t => inferInstanceAs (Decidable
      (s.now ≤ t ∧ ∀ r ∈ s.queue.rows, r.status = .pending → s.Claiming r.deviceId →
        r.pastExpiry env t = false))
  | .enqueue _ device _ _ => inferInstanceAs (Decidable (s.Claiming device → _ = false))
  | .exec n _ => decidableOrderlyCall env s (s.calls[n]?.getD .done)
  | .tables _ | .poll _ _ | .ack _ _ _ | .sweep => .isTrue trivial

/-! ## What a step does to a row -/

/-- What the step makes of a row of the queue. -/
inductive RowStep (s : State) (i : Input) (r : QueueRow) : QueueRow → Prop where
  | same (hno : r ∉ s.handsOut i) : RowStep s i r r
  | expired (text : Option String) (hno : r ∉ s.handsOut i)
      (h : r.status = .pending ∨ r.status = .inFlight) :
      RowStep s i r { r with status := .expired, lastError := text }
  | reclaimed (n : ℕ) (locked : Id → Bool) (device : Id) (max : ℕ) (text : Option String)
      (hno : r ∉ s.handsOut i) (hi : i = .exec n locked)
      (hc : s.calls[n]? = some (.reclaim device max)) (h : r.stale s.now device = true) :
      RowStep s i r { r with status := .pending, lastError := text }
  | handedOut (hout : r ∈ s.handsOut i) (h : r.status = .pending) :
      RowStep s i r (Queue.handedOut s.now r)
  | acked (n : ℕ) (locked : Id → Bool) (device : Id) (result : Jsonb) (hno : r ∉ s.handsOut i)
      (hi : i = .exec n locked) (hc : s.calls[n]? = some (.ack device r.id result))
      (hdev : r.deviceId = device) :
      RowStep s i r { r with status := .acked, ackedAt := some s.now, ackResult := some result }

end State

namespace State

variable {env : Env} {s : State} {i : Input} {n : ℕ} {locked : Id → Bool} {p : Call} {r r' : QueueRow}

/-- A call executes its next statement. -/
theorem step_exec (hc : s.calls[n]? = some p) :
    s.step env (.exec n locked) = s.advance env n locked p := by
  simp only [step, hc]

theorem handsOut_exec (hc : s.calls[n]? = some p) (hp : ∀ device max, p ≠ .claim device max) :
    s.handsOut (.exec n locked) = [] := by
  unfold handsOut
  simp only [hc]
  split
  · rename_i device max heq
    exact absurd (Option.some.inj heq) (hp device max)
  · rfl

/-- A statement that is no claim and that rewrites the rows that meet `c` by `f`. -/
theorem rows_of_update {i : Input} {q : Queue} {c : QueueRow → Bool} {f : QueueRow → QueueRow}
    (hq : q.rows = updateWhere c f s.queue.rows) (hout : s.handsOut i = [])
    (h : ∀ r ∈ s.queue.rows, c r = true → r ∉ s.handsOut i → RowStep s i r (f r)) :
    ∃ g, q.rows = s.queue.rows.map g ∧ ∀ r ∈ s.queue.rows, RowStep s i r (g r) := by
  refine ⟨_, hq, fun r hr => ?_⟩
  have hno : r ∉ s.handsOut i := by rw [hout]; exact List.not_mem_nil
  by_cases hc : c r = true
  · rw [if_pos hc]
    exact h r hr hc hno
  · rw [if_neg hc]
    exact .same hno

theorem rows_same {i : Input} {q : Queue} (hq : q = s.queue) (hout : s.handsOut i = []) :
    ∃ g, q.rows = s.queue.rows.map g ∧ ∀ r ∈ s.queue.rows, RowStep s i r (g r) := by
  subst hq
  exact ⟨id, (List.map_id _).symm, fun r _ => .same (by rw [hout]; exact List.not_mem_nil)⟩

/-- The statement of a call, row by row. -/
theorem exec_rows (env : Env) (locked : Id → Bool) (hc : s.calls[n]? = some p) :
    ∃ g, (s.advance env n locked p).queue.rows = s.queue.rows.map g ∧
      ∀ r ∈ s.queue.rows, RowStep s (.exec n locked) r (g r) := by
  cases p with
  | done => exact rows_same rfl (handsOut_exec hc (by simp))
  | deadLetter device max =>
      refine rows_of_update rfl (handsOut_exec hc (by simp)) fun r hr h hno => ?_
      rw [Bool.and_eq_true] at h
      exact .expired _ hno (.inr (QueueRow.stale_iff.mp h.1).2.1)
  | reclaim device max =>
      refine rows_of_update rfl (handsOut_exec hc (by simp)) fun r hr h hno => ?_
      exact .reclaimed n locked device max _ hno rfl hc h
  | expire device max =>
      have hout : s.handsOut (.exec n locked) = [] := handsOut_exec hc (by simp)
      simp only [advance]
      cases hq : s.queue.expire env s.now device with
      | none => exact rows_same rfl hout
      | some q =>
          refine rows_of_update (Queue.expire_eq hq) hout fun r hr h hno => ?_
          rw [Bool.and_eq_true] at h
          exact .expired r.lastError hno (.inl (QueueRow.waits_iff.mp h.1).2)
  | entitle device max =>
      refine rows_of_update rfl (handsOut_exec hc (by simp)) fun r hr h hno => ?_
      rw [Bool.and_eq_true] at h
      exact .expired _ hno (.inl (QueueRow.waits_iff.mp h.1).2)
  | claim device max =>
      have hout : s.handsOut (.exec n locked) = s.queue.batch device locked max := by
        simp only [handsOut, hc]
      refine ⟨_, rfl, fun r hr => ?_⟩
      by_cases hb : r ∈ s.queue.batch device locked max
      · rw [if_pos ((Queue.contains_batch hr).mpr hb)]
        exact .handedOut (hout ▸ hb) (QueueRow.waits_iff.mp (Queue.mem_batch hb).2).2
      · rw [if_neg fun h => hb ((Queue.contains_batch hr).mp h)]
        exact .same (hout ▸ hb)
  | ack device queueId result =>
      refine rows_of_update rfl (handsOut_exec hc (by simp)) fun r hr h hno => ?_
      simp only [Bool.and_eq_true, beq_iff_eq] at h
      obtain ⟨rfl, hdev⟩ := h
      exact .acked n locked device result hno rfl hc hdev
  | sweepTtl =>
      have hout : s.handsOut (.exec n locked) = [] := handsOut_exec hc (by simp)
      simp only [advance]
      cases hq : s.queue.sweepTtl env s.now with
      | none => exact rows_same rfl hout
      | some q =>
          refine rows_of_update (Queue.sweepTtl_eq hq) hout fun r hr h hno => ?_
          simp only [Bool.and_eq_true, beq_iff_eq] at h
          exact .expired _ hno (.inl h.1)
  | sweepOffline =>
      refine rows_of_update rfl (handsOut_exec hc (by simp)) fun r hr h hno => ?_
      simp only [Bool.and_eq_true, beq_iff_eq] at h
      exact .expired _ hno (.inl h.1)

/-- The rows after a step: those before it, row by row, or one more. -/
theorem step_rows (env : Env) (s : State) (i : Input) :
    (∃ g, (s.step env i).queue.rows = s.queue.rows.map g ∧
      ∀ r ∈ s.queue.rows, RowStep s i r (g r)) ∨
    ∃ id device signalId payload, i = .enqueue id device signalId payload ∧
      id ∉ s.queue.rows.map QueueRow.id ∧ (s.step env i).queue.rows =
        { id := id, deviceId := device, signalId := signalId, payload := payload,
          createdAt := s.now } :: s.queue.rows := by
  cases i with
  | enqueue id device signalId payload =>
      simp only [step, setQueue, Queue.insert]
      split_ifs with h
      · exact .inl (rows_same rfl rfl)
      · exact .inr ⟨id, device, signalId, payload, rfl, h, rfl⟩
  | exec n locked =>
      cases hc : s.calls[n]? with
      | none =>
          refine .inl (rows_same ?_ ?_)
          · simp only [step, hc]
          · simp only [handsOut, hc]
      | some p =>
          rw [step_exec hc]
          exact .inl (exec_rows env locked hc)
  | time t => exact .inl (rows_same rfl rfl)
  | tables t => exact .inl (rows_same rfl rfl)
  | poll device parsed => exact .inl (rows_same rfl rfl)
  | ack device queueId result => exact .inl (rows_same rfl rfl)
  | sweep => exact .inl (rows_same rfl rfl)

theorem RowStep.id_eq (h : RowStep s i r r') : r'.id = r.id := by
  cases h <;> rfl

theorem RowStep.pastExpiry_eq (h : RowStep s i r r') (now : Time) :
    r'.pastExpiry env now = r.pastExpiry env now := by
  cases h <;> rfl

theorem RowStep.deviceId_eq (h : RowStep s i r r') : r'.deviceId = r.deviceId := by
  cases h <;> rfl

theorem RowStep.of_out (h : RowStep s i r r') (hout : r ∈ s.handsOut i) :
    r.status = .pending ∧ r' = Queue.handedOut s.now r := by
  cases h with
  | handedOut _ hp => exact ⟨hp, rfl⟩
  | same hno => exact absurd hout hno
  | expired text hno _ => exact absurd hout hno
  | reclaimed n locked device max text hno _ _ _ => exact absurd hout hno
  | acked n locked device result hno _ _ _ => exact absurd hout hno

/-! ## Which polls are claiming -/

theorem claiming_set {calls : List Call} {device : Id}
    (h : (calls.set n p).any (between device) = true) :
    calls.any (between device) = true ∨ between device p = true := by
  obtain ⟨p', hp', hb⟩ := List.any_eq_true.mp h
  rcases List.mem_or_eq_of_mem_set hp' with hold | rfl
  · exact .inl (List.any_eq_true.mpr ⟨p', hold, hb⟩)
  · exact .inr hb

/-- A poll that is claiming after a statement was so before, or has expired what had to expire. -/
theorem advance_claiming {device : Id} (hc : s.calls[n]? = some p)
    (h : (s.advance env n locked p).Claiming device) :
    s.Claiming device ∨ ∃ q, s.queue.expire env s.now device = some q ∧
      (s.advance env n locked p).queue = q := by
  have hmem : p ∈ s.calls := List.mem_of_getElem? hc
  cases p with
  | done => exact .inl h
  | expire d max =>
      simp only [advance] at h ⊢
      cases hq : s.queue.expire env s.now d with
      | none =>
          rw [hq] at h
          exact .inl ((claiming_set h).resolve_right (by simp [between]))
      | some q =>
          rw [hq] at h
          rcases claiming_set h with hold | hnew
          · exact .inl hold
          · obtain rfl : d = device := by simpa [between] using hnew
            exact .inr ⟨q, hq, rfl⟩
  | entitle d max =>
      rcases claiming_set h with hold | hnew
      · exact .inl hold
      · exact .inl (List.any_eq_true.mpr ⟨_, hmem, hnew⟩)
  | sweepTtl =>
      simp only [advance] at h
      cases hq : s.queue.sweepTtl env s.now with
      | none =>
          rw [hq] at h
          exact .inl ((claiming_set h).resolve_right (by simp [between]))
      | some q =>
          rw [hq] at h
          exact .inl ((claiming_set h).resolve_right (by simp [between]))
  | deadLetter d max => exact .inl ((claiming_set h).resolve_right (by simp [between]))
  | reclaim d max => exact .inl ((claiming_set h).resolve_right (by simp [between]))
  | claim d max => exact .inl ((claiming_set h).resolve_right (by simp [between]))
  | ack d queueId result => exact .inl ((claiming_set h).resolve_right (by simp [between]))
  | sweepOffline => exact .inl ((claiming_set h).resolve_right (by simp [between]))

theorem advance_now : (s.advance env n locked p).now = s.now := by
  cases p with
  | expire d max =>
      simp only [advance]
      cases s.queue.expire env s.now d <;> rfl
  | sweepTtl =>
      simp only [advance]
      cases s.queue.sweepTtl env s.now <;> rfl
  | _ => rfl

/-- The clock does not go back in an orderly run. -/
theorem step_now (h : Orderly env s i) : s.now ≤ (s.step env i).now := by
  cases i with
  | time t => exact h.1
  | exec n locked =>
      cases hc : s.calls[n]? with
      | none => simp only [step, hc, le_refl]
      | some p => rw [step_exec hc, advance_now]
  | _ => exact le_refl _

/-! ## Rows that wait while their device is claiming -/

/-- No row that waits for a device that is claiming is past its expiry. -/
def InDate (env : Env) (s : State) : Prop :=
  ∀ r ∈ s.queue.rows, r.status = .pending → s.Claiming r.deviceId → r.pastExpiry env s.now = false

/-- A row that waits after an orderly step waited before it, or is reclaimed. -/
theorem RowStep.waiting (h : RowStep s i r r') (hp : r'.status = .pending) :
    (r' = r) ∨ ∃ n locked max, i = .exec n locked ∧
      s.calls[n]? = some (.reclaim r.deviceId max) ∧ r.stale s.now r.deviceId = true := by
  cases h with
  | same hno => exact .inl rfl
  | expired text hno _ => cases hp
  | reclaimed n locked device max text hno hi hc hstale =>
      obtain rfl := (QueueRow.stale_iff.mp hstale).1
      exact .inr ⟨n, locked, max, hi, hc, hstale⟩
  | handedOut hout _ => cases hp
  | acked n locked device result hno _ _ _ => cases hp

theorem orderly_reclaim {device : Id} {max : ℕ} (h : Orderly env s (.exec n locked))
    (hc : s.calls[n]? = some (.reclaim device max)) (hr : r ∈ s.queue.rows)
    (hstale : r.stale s.now device = true) :
    r.attempts < 50 ∧ (s.Claiming device → r.pastExpiry env s.now = false) := by
  simp only [Orderly, hc, Option.getD_some, OrderlyCall] at h
  exact h r hr hstale

theorem exec_inDate (hd : InDate env s) (ho : Orderly env s (.exec n locked)) :
    InDate env (s.step env (.exec n locked)) := by
  cases hc : s.calls[n]? with
  | none =>
      have hsame : s.step env (.exec n locked) = s := by simp only [step, hc]
      rw [hsame]
      exact hd
  | some p =>
      intro r' hr' hp hcl
      rw [step_exec hc] at hr' hcl ⊢
      rw [advance_now]
      rcases advance_claiming hc hcl with hold | ⟨q, hq, hqueue⟩
      · obtain ⟨g, hg, hrows⟩ := exec_rows env locked hc
        rw [hg, List.mem_map] at hr'
        obtain ⟨r, hr, rfl⟩ := hr'
        have hstep := hrows r hr
        rw [hstep.deviceId_eq] at hold
        rw [hstep.pastExpiry_eq]
        rcases hstep.waiting hp with heq | ⟨m, locked', max, hi, hm, hstale⟩
        · exact hd r hr (heq ▸ hp) hold
        · obtain ⟨rfl, rfl⟩ := Input.exec.inj hi
          exact (orderly_reclaim ho hm hr hstale).2 hold
      · -- the expiry statement of this very poll
        rw [hqueue] at hr'
        exact Queue.expire_fresh hq hr' (QueueRow.waits_iff.mpr ⟨rfl, hp⟩)

/-- **Step.** No row that waits for a device that is claiming is past its expiry. -/
theorem step_inDate (hd : InDate env s) (ho : Orderly env s i) : InDate env (s.step env i) := by
  have hbegin : ∀ p, (∀ device, between device p = false) → InDate env (s.begin p) := by
    intro p hp r hr hpend hcl
    refine hd r hr hpend ?_
    simpa only [Claiming, begin, List.any_append, List.any_cons, List.any_nil, hp, Bool.or_false]
      using hcl
  cases i with
  | time t => exact fun r hr hp hcl => ho.2 r hr hp hcl
  | tables t => exact hd
  | enqueue id device signalId payload =>
      rcases step_rows env s (.enqueue id device signalId payload) with
        ⟨g, hg, hrows⟩ | ⟨_, _, _, _, hi, -, hrows⟩
      · intro r' hr' hp hcl
        rw [hg, List.mem_map] at hr'
        obtain ⟨r, hr, rfl⟩ := hr'
        rcases (hrows r hr).waiting hp with heq | ⟨n, locked, max, hi, -⟩
        · rw [heq] at hp hcl ⊢
          exact hd r hr hp hcl
        · cases hi
      · cases hi
        intro r hr hp hcl
        rw [hrows, List.mem_cons] at hr
        rcases hr with rfl | hr
        · exact ho hcl
        · exact hd r hr hp hcl
  | poll device parsed => exact hbegin _ fun _ => rfl
  | ack device queueId result => exact hbegin _ fun _ => rfl
  | sweep => exact hbegin _ fun _ => rfl
  | exec n locked => exact exec_inDate hd ho

/-! ## Hand-outs -/

/-- The rows and what has been handed out so far belong together: a row knows its last hand-out, waits
30 seconds for the next one, and counts them. -/
structure Inv (env : Env) (s : State) (shown : List (Id × Time)) : Prop where
  inDate : InDate env s
  last : ∀ h ∈ shown, ∃ r ∈ s.queue.rows, r.id = h.1 ∧ ∃ t, r.inFlightAt = some t ∧ h.2 ≤ t ∧
    (r.status = .pending → t + seconds 30 < s.now)
  count : ∀ r ∈ s.queue.rows, shown.countP (fun h => h.1 == r.id) ≤ r.attempts ∧
    r.attempts ≤ 50 ∧ (r.status = .pending → r.attempts < 50)
  apart : shown.Pairwise fun a b => a.1 = b.1 → a.2 + seconds 30 < b.2

/-- What the step hands out, with the time. -/
def shows (s : State) (i : Input) : List (Id × Time) := (s.handsOut i).map fun r => (r.id, s.now)

theorem mem_handsOut (h : r ∈ s.handsOut i) : r ∈ s.queue.rows := by
  unfold handsOut at h
  split at h
  · split at h
    · exact (Queue.mem_batch h).1
    · cases h
  · cases h

theorem handsOut_keys : ((s.handsOut i).map QueueRow.id).Nodup := by
  unfold handsOut
  split
  · split
    · exact Queue.batch_keys
    · exact List.nodup_nil
  · exact List.nodup_nil

theorem count_shows (k : Id) :
    (s.shows i).countP (fun h => h.1 == k) = ((s.handsOut i).map QueueRow.id).count k := by
  rw [shows, List.countP_map, List.count, List.countP_map]
  rfl

/-- A row is handed out once by a step, or not at all. -/
theorem count_shows_of_out (hout : r ∈ s.handsOut i) :
    (s.shows i).countP (fun h => h.1 == r.id) = 1 := by
  rw [count_shows]
  exact List.count_eq_one_of_mem handsOut_keys (List.mem_map_of_mem hout)

theorem count_shows_of_not (hr : r ∈ s.queue.rows) (hno : r ∉ s.handsOut i) :
    (s.shows i).countP (fun h => h.1 == r.id) = 0 := by
  rw [count_shows, List.count_eq_zero, List.mem_map]
  rintro ⟨r', hr', hid⟩
  exact hno (Queue.eq_of_id (mem_handsOut hr') hr hid ▸ hr')

variable {shown : List (Id × Time)}

theorem Inv.last_row (hi : Inv env s shown) {h : Id × Time} (hh : h ∈ shown)
    (hr : r ∈ s.queue.rows) (hid : r.id = h.1) :
    ∃ t, r.inFlightAt = some t ∧ h.2 ≤ t ∧ (r.status = .pending → t + seconds 30 < s.now) := by
  obtain ⟨r', hr', hid', ht⟩ := hi.last h hh
  exact Queue.eq_of_id hr' hr (hid'.trans hid.symm) ▸ ht

/-- **Step.** A row is handed out again thirty seconds later at the earliest. -/
theorem step_apart (hi : Inv env s shown) :
    (shown ++ s.shows i).Pairwise fun a b => a.1 = b.1 → a.2 + seconds 30 < b.2 := by
  refine List.pairwise_append.mpr ⟨hi.apart, ?_, ?_⟩
  · rw [shows, List.pairwise_map]
    exact (List.pairwise_map.mp handsOut_keys).imp fun hne heq => absurd heq hne
  · intro h hh h' hh' hid
    obtain ⟨r, hr, rfl⟩ := List.mem_map.mp hh'
    obtain ⟨t, -, hle, hgap⟩ := hi.last_row hh (mem_handsOut hr) hid.symm
    have hpend : r.status = .pending := by
      rcases step_rows env s i with ⟨g, -, hrows⟩ | ⟨_, _, _, _, rfl, -⟩
      · exact ((hrows r (mem_handsOut hr)).of_out hr).1
      · cases hr
    exact lt_of_le_of_lt (Int.add_le_add_right hle _) (hgap hpend)

/-- What a row knows of its last hand-out, after a step that it takes part in. -/
theorem RowStep.last (hstep : RowStep s i r r') {now : Time} (hnow : s.now ≤ now) {h : Id × Time}
    (ht : ∃ t, r.inFlightAt = some t ∧ h.2 ≤ t ∧ (r.status = .pending → t + seconds 30 < s.now)) :
    ∃ t, r'.inFlightAt = some t ∧ h.2 ≤ t ∧ (r'.status = .pending → t + seconds 30 < now) := by
  obtain ⟨t, hat, hle, hgap⟩ := ht
  cases hstep with
  | same hno => exact ⟨t, hat, hle, fun hp => lt_of_lt_of_le (hgap hp) hnow⟩
  | expired text hno _ => exact ⟨t, hat, hle, fun hp => nomatch hp⟩
  | reclaimed n locked device max text hno _ _ hstale =>
      obtain ⟨-, -, t', hat', hlt⟩ := QueueRow.stale_iff.mp hstale
      obtain rfl := Option.some.inj (hat.symm.trans hat')
      exact ⟨t, hat, hle, fun _ => lt_of_lt_of_le hlt hnow⟩
  | handedOut hout hp =>
      have hlt : t < s.now := lt_trans (Int.lt_add_of_pos_right t (by decide)) (hgap hp)
      exact ⟨s.now, rfl, le_of_lt (lt_of_le_of_lt hle hlt), fun hp => nomatch hp⟩
  | acked n locked device result hno _ _ _ => exact ⟨t, hat, hle, fun hp => nomatch hp⟩

/-- **Step.** A row knows when it was handed out last. -/
theorem step_last (hi : Inv env s shown) (ho : Orderly env s i) :
    ∀ h ∈ shown ++ s.shows i, ∃ r ∈ (s.step env i).queue.rows, r.id = h.1 ∧
      ∃ t, r.inFlightAt = some t ∧ h.2 ≤ t ∧
        (r.status = .pending → t + seconds 30 < (s.step env i).now) := by
  intro h hh
  rcases step_rows env s i with ⟨g, hg, hrows⟩ | ⟨_, _, _, _, rfl, -, hrows⟩
  · rw [hg]
    rcases List.mem_append.mp hh with hold | hnew
    · obtain ⟨r, hr, hid, ht⟩ := hi.last h hold
      exact ⟨g r, List.mem_map_of_mem hr, (hrows r hr).id_eq.trans hid,
        (hrows r hr).last (step_now ho) ht⟩
    · obtain ⟨r, hr, rfl⟩ := List.mem_map.mp hnew
      have hstep := hrows r (mem_handsOut hr)
      refine ⟨g r, List.mem_map_of_mem (mem_handsOut hr), hstep.id_eq, s.now, ?_, le_refl _, ?_⟩
      · rw [(hstep.of_out hr).2]
        rfl
      · rw [(hstep.of_out hr).2]
        exact fun hp => nomatch hp
  · rw [hrows]
    rcases List.mem_append.mp hh with hold | hnew
    · obtain ⟨r, hr, hid, ht⟩ := hi.last h hold
      exact ⟨r, List.mem_cons_of_mem _ hr, hid, ht⟩
    · cases hnew

theorem RowStep.attempts (hstep : RowStep s i r r') (ho : Orderly env s i) (hr : r ∈ s.queue.rows)
    (hno : r ∉ s.handsOut i) (h : r.attempts ≤ 50 ∧ (r.status = .pending → r.attempts < 50)) :
    r'.attempts = r.attempts ∧ (r'.status = .pending → r'.attempts < 50) := by
  cases hstep with
  | same _ => exact ⟨rfl, h.2⟩
  | expired text _ _ => exact ⟨rfl, fun hp => nomatch hp⟩
  | reclaimed n locked device max text _ hi hc hstale =>
      subst hi
      exact ⟨rfl, fun _ => (orderly_reclaim ho hc hr hstale).1⟩
  | handedOut hout hp => exact absurd hout hno
  | acked n locked device result _ _ _ _ => exact ⟨rfl, fun hp => nomatch hp⟩

/-- **Step.** A row counts how often it was handed out. -/
theorem step_count (hi : Inv env s shown) (ho : Orderly env s i) :
    ∀ r ∈ (s.step env i).queue.rows, (shown ++ s.shows i).countP (fun h => h.1 == r.id) ≤ r.attempts ∧
      r.attempts ≤ 50 ∧ (r.status = .pending → r.attempts < 50) := by
  intro r' hr'
  rw [List.countP_append]
  rcases step_rows env s i with ⟨g, hg, hrows⟩ | ⟨id, device, signalId, payload, rfl, hnew, hrows⟩
  · rw [hg, List.mem_map] at hr'
    obtain ⟨r, hr, rfl⟩ := hr'
    have hstep := hrows r hr
    obtain ⟨hcount, hle, hlt⟩ := hi.count r hr
    rw [hstep.id_eq]
    by_cases hout : r ∈ s.handsOut i
    · rw [count_shows_of_out hout, (hstep.of_out hout).2]
      have hpend := hlt (hstep.of_out hout).1
      exact ⟨Nat.succ_le_succ hcount, hpend, fun hp => nomatch hp⟩
    · obtain ⟨heq, hpend⟩ := hstep.attempts ho hr hout ⟨hle, hlt⟩
      rw [count_shows_of_not hr hout, heq]
      exact ⟨hcount, hle, fun hp => heq ▸ hpend hp⟩
  · rw [hrows, List.mem_cons] at hr'
    rcases hr' with rfl | hr
    · -- nothing has been handed out under a key that is new
      have hzero : shown.countP (fun h => h.1 == id) = 0 := by
        rw [List.countP_eq_zero]
        intro h hh heq
        obtain ⟨r, hr, hid, -⟩ := hi.last h hh
        exact hnew (List.mem_map.mpr ⟨r, hr, hid.trans (beq_iff_eq.mp heq)⟩)
      exact ⟨le_of_eq (congrArg (· + 0) hzero), Nat.zero_le _, fun _ => Nat.zero_lt_succ _⟩
    · exact hi.count r' hr

/-- **Step.** The rows go on knowing their hand-outs. -/
theorem step_inv (hi : Inv env s shown) (ho : Orderly env s i) :
    Inv env (s.step env i) (shown ++ s.shows i) :=
  ⟨step_inDate hi.inDate ho, step_last hi ho, step_count hi ho, step_apart hi⟩

/-! ## Runs -/

/-- Nothing was handed out at the start. -/
theorem start_inv (now : Time) (tables : Tables) : Inv env (start now tables) [] :=
  ⟨(fun _ h => nomatch h), (fun _ h => nomatch h), (fun _ h => nomatch h), List.Pairwise.nil⟩

/-- **Run.** The rows know their hand-outs. -/
theorem run_inv {now : Time} {tables : Tables} {is : List Input}
    (h : Along (step env) (Orderly env) (start now tables) is) :
    Inv env (run (step env) (start now tables) is) (handOuts env (start now tables) is) := by
  have hstart : Inv env (start now tables) ([] : List (List (Id × Time))).flatten :=
    start_inv now tables
  refine traced (J := fun s shown => Inv env s shown.flatten) (fun s i shown hi ho => ?_) hstart h
  rw [List.flatten_append]
  have hone : (handOut s i).toList.flatten = s.shows i := List.append_nil _
  rw [hone]
  exact step_inv hi ho

/-- **Step.** A row that is settled stays as it is. -/
theorem step_settles (ho : Orderly env s i) : Settles s (s.step env i) := by
  intro r hr hset
  rcases step_rows env s i with ⟨g, hg, hrows⟩ | ⟨_, _, _, _, -, -, hrows⟩
  · refine ⟨g r, by rw [hg]; exact List.mem_map_of_mem hr, (hrows r hr).id_eq, ?_⟩
    have hstep := hrows r hr
    generalize g r = r' at hstep ⊢
    cases hstep with
    | same _ => exact ⟨rfl, fun _ => rfl⟩
    | expired text _ h => rcases hset with hs | hs <;> rw [hs] at h <;> simp at h
    | reclaimed n locked device max text _ _ _ h =>
        have hfl := (QueueRow.stale_iff.mp h).2.1
        rcases hset with hs | hs <;> rw [hs] at hfl <;> cases hfl
    | handedOut _ h => rcases hset with hs | hs <;> rw [hs] at h <;> cases h
    | acked n locked device result _ hi hc hdev =>
        subst hi
        simp only [Orderly, hc, Option.getD_some, OrderlyCall] at ho
        exact absurd hset (ho r hr rfl hdev)
  · exact ⟨r, by rw [hrows]; exact List.mem_cons_of_mem _ hr, rfl, rfl, fun _ => rfl⟩

/-- What a claim hands out waits for a device that is claiming. -/
theorem handsOut_inDate (hd : InDate env s) (hr : r ∈ s.handsOut i) :
    r.pastExpiry env s.now = false := by
  unfold handsOut at hr
  split at hr
  · rename_i n locked
    split at hr
    · rename_i device max hc
      obtain ⟨hmem, hw⟩ := Queue.mem_batch hr
      obtain ⟨rfl, hp⟩ := QueueRow.waits_iff.mp hw
      exact hd r hmem hp (List.any_eq_true.mpr ⟨_, List.mem_of_getElem? hc, by simp [between]⟩)
    · cases hr
  · cases hr

/-- **Delivery.** In every run of any number of calls whose steps are orderly, settled rows stay
settled, the hand-outs of a row are more than 30 seconds apart and 50 at most, and none is past its
expiry. -/
theorem delivery (env : Env) (now : Time) (tables : Tables) (is : List Input)
    (h : Along (step env) (Orderly env) (start now tables) is) :
    Delivery env (start now tables) is := by
  have hinv : ∀ pre post, is = pre ++ post →
      Inv env (run (step env) (start now tables) pre) (handOuts env (start now tables) pre) := by
    rintro pre post rfl
    exact run_inv (along_append.mp h).1
  have hfinal := hinv is [] (List.append_nil is).symm
  constructor
  · exact h.imp fun _ _ ho => step_settles ho
  · exact hfinal.apart
  · intro k
    by_cases hk : k ∈ (run (step env) (start now tables) is).queue.rows.map QueueRow.id
    · obtain ⟨r, hr, rfl⟩ := List.mem_map.mp hk
      obtain ⟨hcount, hle, -⟩ := hfinal.count r hr
      exact le_trans hcount hle
    · rw [List.countP_eq_zero.mpr]
      · exact Nat.zero_le _
      · intro x hx heq
        obtain ⟨r, hr, hid, -⟩ := hfinal.last x hx
        exact hk (List.mem_map.mpr ⟨r, hr, hid.trans (beq_iff_eq.mp heq)⟩)
  · rw [along_iff]
    rintro pre i post rfl r hr
    exact handsOut_inDate (hinv pre _ rfl).inDate hr

/-! ## Runs of one row -/

/-- The one expiry that the runs below use is read as PostgreSQL reads it. -/
def sampleEnv : Env where
  timestamptz text := if text = "2026-01-01T00:00:00Z" then some 1767225600000 else none

/-- Device 1 holds an active license for one strategy. -/
def sampleTables : Tables where
  devices d := if d = 1 then some ⟨none, some 1, none⟩ else none
  licenses l := if l = 1 then some ⟨.active, 1, some (.array [.string "ATEN"])⟩ else none
  plans p := if p = 1 then some ⟨some (.array [.string "ATEN"])⟩ else none

/-- The payload of a signal. -/
def samplePayload : Jsonb :=
  .object [("StrategyID", .string "ATEN"), ("ExpiresAt", .string "2026-01-01T00:00:00Z")]

/-- So many milliseconds after 2025-12-31 23:00. -/
def clock (ms : ℤ) : Time := 1767222000000 + ms

/-- The tables of a device that can poll. -/
def sampleStart : State := start (clock 0) sampleTables

/-- Call number `n` executes so many statements. -/
def execs (n count : ℕ) : List Input := List.replicate count (.exec n fun _ => false)

/-- Call number `n` is a poll of device 1, from its first statement to its last. -/
def pollRun (n : ℕ) : List Input := .poll 1 none :: execs n 5

/-- One signal is queued. -/
def enqueued : List Input := [.enqueue 7 1 "s1" samplePayload]

/-- The row is handed out, not acknowledged in time, handed out again, and acknowledged. -/
def againRun : List Input :=
  enqueued ++ pollRun 0 ++ [.time (clock 31000)] ++ pollRun 1 ++
    [.ack 1 7 (.string "filled")] ++ execs 2 1

/-- The row is handed out twice, thirty-one seconds apart. -/
theorem delivery_againRun :
    handOuts sampleEnv sampleStart againRun = [(7, clock 0), (7, clock 31000)] ∧
      Delivery sampleEnv sampleStart againRun :=
  ⟨by decide +kernel, delivery sampleEnv (clock 0) sampleTables againRun (by decide +kernel)⟩

/-- The row is acknowledged twice, with different results. -/
def secondAckRun : List Input :=
  enqueued ++ pollRun 0 ++ [.ack 1 7 (.string "filled")] ++ execs 1 1 ++
    [.ack 1 7 (.string "rejected")] ++ execs 2 1

/-- The row expires while it is with the device, whose `ack` comes after that. -/
def lateAckRun : List Input :=
  enqueued ++ pollRun 0 ++ [.time (clock 3600001)] ++ pollRun 1 ++
    [.ack 1 7 (.string "filled")] ++ execs 2 1

/-- The row is handed out every 31 seconds and never acknowledged. The last time, it becomes stale
between the dead-letter statement and the reclaim. -/
def neverAckRun : List Input :=
  enqueued ++ (List.range 50).flatMap (fun n => .time (clock (31000 * n)) :: pollRun n) ++
    [.time (clock (31000 * 49 + 30000)), .poll 1 none] ++ execs 50 1 ++
    [.time (clock (31000 * 49 + 30001))] ++ execs 50 4

/-- The row passes its expiry between the expiry statement of a poll and the claim. -/
def lateClaimRun : List Input :=
  enqueued ++ [.poll 1 none] ++ execs 0 4 ++ [.time (clock 3600001)] ++ execs 0 1

/-- What `Settles` says of the statuses and of the texts of the results. -/
theorem Settles.texts {s' : State} (h : Settles s s') : ∀ r ∈ s.queue.rows, r.Settled →
    ∃ r' ∈ s'.queue.rows, r'.id = r.id ∧ r'.status = r.status ∧ (r.status = .acked →
      r'.ackResult.map Jsonb.chars = r.ackResult.map Jsonb.chars) := by
  intro r hr hset
  obtain ⟨r', hr', hid, hstatus, hres⟩ := h r hr hset
  exact ⟨r', hr', hid, hstatus, fun ha => congrArg _ (hres ha)⟩

/-- The four runs in which the law breaks. -/
theorem undelivered :
    ¬ Delivery sampleEnv sampleStart secondAckRun ∧ ¬ Delivery sampleEnv sampleStart lateAckRun ∧
      ¬ Delivery sampleEnv sampleStart neverAckRun ∧
      ¬ Delivery sampleEnv sampleStart lateClaimRun := by
  refine ⟨fun h => ?_, fun h => ?_, fun h => ?_, fun h => ?_⟩
  · exact absurd (h.settled.imp fun _ _ => Settles.texts) (by decide +kernel)
  · exact absurd (h.settled.imp fun _ _ => Settles.texts) (by decide +kernel)
  · exact absurd (h.fifty 7) (by decide +kernel)
  · exact absurd h.fresh (by decide +kernel)

end State
end PredictATrade.EdgePoll
