import PredictATrade.Billing.Nowpayments
import PredictATrade.Lib.ReadCommitted
import PredictATrade.Lib.Runs

/-!
# `Billing.Subscriptions` — who changes the status of a subscription

Three kinds of writers: the requests of the subscriber, which are checked against a matrix
(`allowedTransitions`); those of an administrator, each with a check of its own; and the settlement of
a payment, which activates the subscription whatever its status. A request reads the status in one
statement and writes it in a later one, under the row lock of that statement only.

Every committed change is kept with what its writer had read (`Change`). `orderly` says what can be
said of it in any interleaving of the statements: the changes form a chain, a settlement's leads to
`ACTIVE`, and that of a request is one its check allows *of the status it has read* — which is the
status committed just before, unless another change has been committed in between.

The matrix calls `CANCELLED` terminal, and a settlement does not look at it; nor does a request look again
before it writes. `status_machine` says when every change is an edge of the matrix nevertheless.
-/

namespace PredictATrade.Billing.Subscriptions

open Lib.ReadCommitted Lib.Runs

/-! ## Statuses and requests -/

/-- The statuses that the table accepts, and two that the administrator's requests look for. -/
inductive Status where
  | incomplete | trial | active | pastDue | grace | suspended | cancelAtPeriodEnd | cancelled | expired
  | paused | failed | canceled
  deriving DecidableEq, Repr

/-- `ALLOWED_TRANSITIONS`. A status that is not listed has none. -/
def allowedTransitions : Status → List Status
  | .active => [.paused, .cancelled, .pastDue]
  | .paused => [.active, .cancelled]
  | .pastDue => [.active, .cancelled]
  | _ => []

/-- `pauseSubscription`, `resumeSubscription` and `cancelSubscription` of the subscriber;
`completeIncompleteSubscription` and the two decisions of `approveEntitlement` of an administrator. -/
inductive Request where
  | pause | resume | cancel | complete | approve | reject
  deriving DecidableEq, Repr

/-- The request is an administrator's. -/
def Request.byAdmin : Request → Bool
  | .pause | .resume | .cancel => false
  | .complete | .approve | .reject => true

/-- The status it writes. -/
def Request.target : Request → Status
  | .pause => .paused
  | .resume | .complete | .approve => .active
  | .cancel | .reject => .cancelled

/-- The check of the status that has been read. -/
def Request.permits (r : Request) (read : Status) : Bool :=
  match r with
  | .pause | .resume | .cancel => (allowedTransitions read).contains r.target
  | .complete => read == .incomplete
  | .approve => [.incomplete, .failed, .pastDue].contains read
  | .reject => !(read == .canceled || read == .cancelled)

/-! ## Tables and transactions -/

/-- A row of `billing.subscriptions`. -/
structure Subscription where
  userId : UserId
  status : Status
  deriving DecidableEq, Repr

/-- A row of `billing.payments`. -/
structure Payment where
  completed : Bool
  subscriptionId : Option Id
  deriving DecidableEq, Repr

/-- A transaction, with the process that runs it. -/
abbrev Tx := ℕ

/-- What a process has come to do. -/
inductive Task where
  | request (r : Request) (id : Id) (userId : UserId)
  /-- The settlement transaction of a NOWPayments notification. -/
  | nowpayments (payment : Id)
  /-- `settle` of a Stripe event. -/
  | stripe (id : Id)
  deriving DecidableEq, Repr

/-- Who writes a status. A request brings what it has read, and how many changes of the subscription had
been committed by then. -/
inductive Writer where
  | settlement
  | request (r : Request) (read : Status) (readAt : ℕ)
  deriving DecidableEq, Repr

/-- A committed write of the status: the status committed before, the one written, and the writer. -/
structure Change where
  source : Status
  target : Status
  writer : Writer
  deriving DecidableEq, Repr

/-- How far a process is. -/
inductive Phase where
  | start
  /-- The status has been read, after so many changes, and is one the request may be made in. -/
  | checked (read : Status) (readAt : ℕ)
  /-- The rows of a settlement are locked; there may be nothing to settle. -/
  | locked (id : Option Id) (settles : Bool)
  | written (w : Writer)
  | done
  deriving DecidableEq, Repr

/-- The rows there are at first, what each process has come to do, and whether the database takes
`FOR UPDATE` over the `LEFT JOIN` of the settlement query. -/
structure System where
  tasks : Tx → Task
  subscriptions : Id → Option Subscription
  payments : Id → Option Payment
  rowLockAccepted : Bool

/-- The rows, how far each process is, and the changes of status that were committed. -/
structure State where
  subs : Table Id Subscription Tx
  payments : Table Id Payment Tx
  phases : Tx → Phase
  changes : Id → List Change

/-- The rows before any process. -/
def System.start (y : System) : State where
  subs id := { committed := y.subscriptions id }
  payments p := { committed := y.payments p }
  phases _ := .start
  changes _ := []

/-! ## Statements -/

namespace State

/-- The state with a process at another point. -/
def goto (s : State) (tx : Tx) (p : Phase) : State :=
  { s with phases := Function.update s.phases tx p }

/-- `ROLLBACK`, or the `COMMIT` of a transaction that has written nothing. -/
def release (s : State) (tx : Tx) : State :=
  { s with subs := s.subs.rollback tx, payments := s.payments.rollback tx }.goto tx .done

/-- The change of a subscription that the commit of `tx` makes. -/
def changeOf (s : State) (tx : Tx) (w : Writer) (id : Id) : Option Change :=
  match (s.subs id).held, (s.subs id).committed with
  | some (t, some row), some old =>
    if t = tx then some { source := old.status, target := row.status, writer := w } else none
  | _, _ => none

/-- The state after a process has committed its write. -/
def commit (s : State) (tx : Tx) (w : Writer) : State :=
  { s with
    subs := s.subs.commit tx
    payments := s.payments.commit tx
    changes := fun id => s.changes id ++ (s.changeOf tx w id).toList }.goto tx .done

/-- `UPDATE billing.subscriptions SET status = … WHERE id = …`, of a row that is free. -/
def write (s : State) (tx : Tx) (id : Id) (st : Status) (w : Writer) : State :=
  match (s.subs id).view tx with
  | none => s.goto tx (.written w)
  | some row =>
    { s with subs := s.subs.write tx id (some { row with status := st }) }.goto tx (.written w)

/-- The first query of a request, and its checks. -/
def check (s : State) (tx : Tx) (ok : Bool) (r : Request) (id : Id) (userId : UserId) : State :=
  match ok, (s.subs id).committed with
  | true, some row =>
    if !r.byAdmin && row.userId != userId then s.goto tx .done
    else if r.permits row.status then s.goto tx (.checked row.status (s.changes id).length)
    else s.goto tx .done
  | _, _ => s.goto tx .done

/-- The `UPDATE` of a request. That of an administrator is a transaction of its own. -/
def update (s : State) (tx : Tx) (ok : Bool) (r : Request) (id : Id) (read : Status) (readAt : ℕ) :
    State :=
  if !ok then s.release tx
  else if !(s.subs id).free tx then s
  else
    let w := Writer.request r read readAt
    let s := s.write tx id r.target w
    if r.byAdmin then s.commit tx w else s

/-- `SELECT … FOR UPDATE` of a subscription. -/
def lockSubscription (s : State) (tx : Tx) (id : Id) : State :=
  if ((s.subs id).view tx).isSome then { s with subs := s.subs.lock tx id } else s

/-- The first query of the NOWPayments settlement, which locks the payment and its subscription. It waits
until both are free. -/
def lockPayment (s : State) (tx : Tx) (ok : Bool) (p : Id) : State :=
  if !ok then s.release tx
  else if !(s.payments p).free tx then s
  else
    match (s.payments p).view tx with
    | none => s.goto tx (.locked none false)
    | some pay =>
      let locked := { s with payments := s.payments.lock tx p }
      match pay.subscriptionId with
      | none => locked.goto tx (.locked none (!pay.completed))
      | some id =>
        if !(s.subs id).free tx then s
        else (locked.lockSubscription tx id).goto tx (.locked (some id) (!pay.completed))

/-- The first query of the Stripe settlement. -/
def lockOwner (s : State) (tx : Tx) (ok : Bool) (id : Id) : State :=
  if !ok then s.release tx
  else if !(s.subs id).free tx then s
  else if ((s.subs id).view tx).isSome then
    (s.lockSubscription tx id).goto tx (.locked (some id) true)
  else s.release tx

/-- `UPDATE billing.payments SET status = 'COMPLETED'`, which the Stripe settlement does not come to. -/
def completePayment (s : State) (tx : Tx) : Task → State
  | .nowpayments p =>
    match (s.payments p).view tx with
    | none => s
    | some pay => { s with payments := s.payments.write tx p (some { pay with completed := true }) }
  | _ => s

/-- The updates of a settlement, or its end where there is nothing to settle. -/
def activate (s : State) (tx : Tx) (ok : Bool) (task : Task) (id : Option Id) (settles : Bool) : State :=
  if !ok || !settles then s.release tx
  else
    match id with
    | none => (s.completePayment tx task).goto tx (.written .settlement)
    | some id =>
      if !(s.subs id).free tx then s
      else (s.completePayment tx task).write tx id .active .settlement

/-- What is left of a transaction after its updates: the event or audit row, and the commit. -/
def finish (s : State) (tx : Tx) (ok : Bool) (w : Writer) : State :=
  if ok then s.commit tx w else s.release tx

end State

/-- The next statement of a process, and whether it succeeds. -/
structure Act where
  tx : Tx
  ok : Bool := true

/-- One statement. One that has to wait for a lock changes nothing, and is tried again later. -/
def System.step (y : System) (s : State) (a : Act) : State :=
  match y.tasks a.tx, s.phases a.tx with
  | .request r id userId, .start => s.check a.tx a.ok r id userId
  | .request r id _, .checked read readAt => s.update a.tx a.ok r id read readAt
  | .nowpayments p, .start =>
    if y.rowLockAccepted then s.lockPayment a.tx a.ok p else s.release a.tx
  | .stripe id, .start => s.lockOwner a.tx a.ok id
  | task, .locked id settles => s.activate a.tx a.ok task id settles
  | _, .written w => s.finish a.tx a.ok w
  | _, _ => s

/-! ## What is said of the changes -/

/-- The statuses that have been committed for a subscription, in their order. -/
def System.statuses (y : System) (s : State) (id : Id) : List Status :=
  ((y.subscriptions id).map (·.status)).toList ++ (s.changes id).map (·.target)

/-- What holds of the change at place `n`. Those of a request are allowed of the status after `readAt`
changes; where `readAt` is `n`, no other change was committed between its read and its own. -/
structure Orderly (y : System) (s : State) (id : Id) (n : ℕ) (c : Change) : Prop where
  before : (y.statuses s id)[n]? = some c.source
  settlement : c.writer = .settlement → c.target = .active
  request : ∀ r read readAt, c.writer = .request r read readAt →
    readAt ≤ n ∧ (y.statuses s id)[readAt]? = some read ∧ r.permits read = true ∧ c.target = r.target
  edge : ∀ r read, c.writer = .request r read n → r.byAdmin = false →
    c.target ∈ allowedTransitions c.source
  terminal : ∀ r read, c.writer = .request r read n → c.source ≠ .cancelled

/-! ## What every state keeps -/

/-- What stands behind a write of the status `st`. -/
def Lawful (y : System) (s : State) (id : Id) (st : Status) : Writer → Prop
  | .settlement => st = .active
  | .request r read readAt =>
    r.permits read = true ∧ st = r.target ∧ (y.statuses s id)[readAt]? = some read

/-- What a transaction in a phase holds of a row: the committed version, or one it may write. -/
def Holds (y : System) (s : State) (id : Id) (row old : Subscription) : Phase → Prop
  | .locked i _ => i = some id ∧ row = old
  | .written w => Lawful y s id row.status w
  | _ => False

/-- What a run keeps: the statuses of a subscription are those its changes tell. -/
structure Inv (y : System) (s : State) : Prop where
  current : ∀ id, (y.statuses s id)[(s.changes id).length]? = (s.subs id).committed.map (·.status)
  changed : ∀ id n (c : Change), (s.changes id)[n]? = some c →
    (y.statuses s id)[n]? = some c.source ∧ Lawful y s id c.target c.writer ∧
      ∀ r read readAt, c.writer = .request r read readAt → readAt ≤ n
  checked : ∀ tx read readAt r id userId, s.phases tx = .checked read readAt →
    y.tasks tx = .request r id userId →
      r.permits read = true ∧ (y.statuses s id)[readAt]? = some read
  held : ∀ id tx v, (s.subs id).held = some (tx, v) →
    ∃ row old, v = some row ∧ (s.subs id).committed = some old ∧ Holds y s id row old (s.phases tx)

section
variable {y : System} {s s' : State} {tx : Tx} {id : Id} {st : Status} {w : Writer} {p : Phase}
  {row old : Subscription}

/-- More changes leave a write as lawful as it was. -/
theorem Lawful.mono (hmore : y.statuses s id <+: y.statuses s' id) (h : Lawful y s id st w) :
    Lawful y s' id st w := by
  cases w with
  | settlement => exact h
  | request r read readAt =>
      obtain ⟨hpermits, hst, hread⟩ := h
      refine ⟨hpermits, hst, ?_⟩
      obtain ⟨more, hmore⟩ := hmore
      rw [← hmore, List.getElem?_append_left (List.getElem?_eq_some_iff.mp hread).1]
      exact hread

theorem Holds.mono (hmore : y.statuses s id <+: y.statuses s' id) (h : Holds y s id row old p) :
    Holds y s' id row old p := by
  cases p with
  | locked i b => exact h
  | written w => exact Lawful.mono hmore h
  | start => exact h
  | checked read readAt => exact h
  | done => exact h

@[simp] theorem goto_phases_self : (s.goto tx p).phases tx = p := Function.update_self _ _ _

@[simp] theorem goto_phases_of_ne {t : Tx} (h : t ≠ tx) : (s.goto tx p).phases t = s.phases t :=
  Function.update_of_ne h _ _

/-- The payments do not matter here. -/
theorem Inv.withPayments (h : Inv y s) (x : Table Id Payment Tx) : Inv y { s with payments := x } :=
  ⟨h.current, h.changed, h.checked, h.held⟩

/-- Only the process `tx` has moved: the others are where they were, and hold what they held. -/
structure Moved (y : System) (tx : Tx) (s s' : State) : Prop where
  phases : ∀ t, t ≠ tx → s'.phases t = s.phases t
  more : ∀ id, y.statuses s id <+: y.statuses s' id
  held : ∀ id t v, t ≠ tx → (s'.subs id).held = some (t, v) →
    (s.subs id).held = some (t, v) ∧ (s'.subs id).committed = (s.subs id).committed

/-- **A move** is about the process that moves: what it reads and holds, and what it commits. -/
theorem Inv.moved (h : Inv y s) (hm : Moved y tx s s')
    (hcurrent : ∀ id, (y.statuses s' id)[(s'.changes id).length]? =
      (s'.subs id).committed.map (·.status))
    (hchanged : ∀ id n (c : Change), (s'.changes id)[n]? = some c →
      (y.statuses s' id)[n]? = some c.source ∧ Lawful y s' id c.target c.writer ∧
        ∀ r read readAt, c.writer = .request r read readAt → readAt ≤ n)
    (hcheck : ∀ read readAt r id userId, s'.phases tx = .checked read readAt →
      y.tasks tx = .request r id userId →
        r.permits read = true ∧ (y.statuses s' id)[readAt]? = some read)
    (hown : ∀ id v, (s'.subs id).held = some (tx, v) →
      ∃ row old, v = some row ∧ (s'.subs id).committed = some old ∧
        Holds y s' id row old (s'.phases tx)) : Inv y s' := by
  refine ⟨hcurrent, hchanged, ?_, ?_⟩
  · intro t read readAt r id userId hphase htask
    by_cases ht : t = tx
    · subst ht
      exact hcheck read readAt r id userId hphase htask
    · rw [hm.phases t ht] at hphase
      obtain ⟨hpermits, hread⟩ := h.checked t read readAt r id userId hphase htask
      obtain ⟨more, hmore⟩ := hm.more id
      refine ⟨hpermits, ?_⟩
      rw [← hmore, List.getElem?_append_left (List.getElem?_eq_some_iff.mp hread).1]
      exact hread
  · intro id t v hv
    by_cases ht : t = tx
    · subst ht
      exact hown id v hv
    · obtain ⟨hv, hcommitted⟩ := hm.held id t v ht hv
      obtain ⟨row, old, hrow, hold, hholds⟩ := h.held id t v hv
      rw [hm.phases t ht, hcommitted]
      exact ⟨row, old, hrow, hold, Holds.mono (hm.more id) hholds⟩

/-- A process goes on, and holds what it may hold there. -/
theorem Inv.goto (h : Inv y s)
    (hheld : ∀ id v, (s.subs id).held = some (tx, v) →
      ∃ row old, v = some row ∧ (s.subs id).committed = some old ∧ Holds y s id row old p)
    (hcheck : ∀ read readAt r id userId, p = .checked read readAt →
      y.tasks tx = .request r id userId →
        r.permits read = true ∧ (y.statuses s id)[readAt]? = some read) : Inv y (s.goto tx p) := by
  have hm : Moved y tx s (s.goto tx p) :=
    ⟨fun t ht => goto_phases_of_ne ht, fun id => List.prefix_rfl, fun id t v _ hv => ⟨hv, rfl⟩⟩
  refine h.moved hm h.current h.changed ?_ ?_
  · rw [goto_phases_self]
    exact hcheck
  · rw [goto_phases_self]
    exact hheld

/-- In these phases a process holds nothing. -/
theorem Inv.holds_none (h : Inv y s)
    (hphase : ∀ id row old, ¬ Holds y s id row old (s.phases tx)) (id : Id)
    (v : Option Subscription) : (s.subs id).held ≠ some (tx, v) := by
  intro hv
  obtain ⟨row, old, -, -, hholds⟩ := h.held id tx v hv
  exact hphase id row old hholds

/-- A process that holds nothing goes on, or stops. -/
theorem Inv.goto_of_none (h : Inv y s) (hnone : ∀ id v, (s.subs id).held ≠ some (tx, v))
    (hp : ∀ read readAt, p ≠ .checked read readAt) : Inv y (s.goto tx p) := by
  refine h.goto ?_ ?_
  · intro id v hv
    exact absurd hv (hnone id v)
  · intro read readAt r id userId heq
    exact absurd heq (hp read readAt)

/-- A row is written, or kept as it is under a lock. -/
theorem Inv.hold (h : Inv y s) (honly : ∀ j v, (s.subs j).held = some (tx, v) → j = id)
    (hold : (s.subs id).committed = some old) (hholds : Holds y s id row old p) :
    Inv y ({ s with subs := s.subs.write tx id (some row) }.goto tx p) := by
  have hcommitted : ∀ j, ((s.subs.write tx id (some row)) j).committed = (s.subs j).committed :=
    fun j => write_committed
  have hother : ∀ j t v, t ≠ tx → ((s.subs.write tx id (some row)) j).held = some (t, v) →
      (s.subs j).held = some (t, v) := by
    intro j t v ht hv
    by_cases hj : j = id
    · subst hj
      rw [write_self, Option.some.injEq] at hv
      exact absurd (congrArg Prod.fst hv).symm ht
    · rw [write_of_ne hj] at hv
      exact hv
  have hm : Moved y tx s ({ s with subs := s.subs.write tx id (some row) }.goto tx p) := by
    refine ⟨fun t ht => goto_phases_of_ne ht, fun j => List.prefix_rfl, ?_⟩
    intro j t v ht hv
    exact ⟨hother j t v ht hv, hcommitted j⟩
  refine h.moved hm ?_ h.changed ?_ ?_
  · intro j
    show _ = ((s.subs.write tx id (some row)) j).committed.map _
    rw [hcommitted]
    exact h.current j
  · intro read readAt r j userId hphase
    rw [goto_phases_self] at hphase
    subst hphase
    exact hholds.elim
  · intro j v hv
    change ((s.subs.write tx id (some row)) j).held = some (tx, v) at hv
    show ∃ row' old', _ ∧ ((s.subs.write tx id (some row)) j).committed = some old' ∧ _
    rw [hcommitted, goto_phases_self]
    by_cases hj : j = id
    · subst hj
      rw [write_self] at hv
      cases hv
      exact ⟨row, old, rfl, hold, hholds⟩
    · rw [write_of_ne hj] at hv
      exact absurd (honly j v hv) hj

/-- A row that is seen has been committed, in this version or another. -/
theorem Inv.committed_of_view (h : Inv y s) (hview : (s.subs id).view tx = some row) :
    ∃ old, (s.subs id).committed = some old := by
  cases hheld : (s.subs id).held with
  | none =>
      rw [view_of_none hheld] at hview
      exact ⟨row, hview⟩
  | some x =>
      obtain ⟨_, old, _, hold, _⟩ := h.held id x.1 x.2 hheld
      exact ⟨old, hold⟩

/-- The `UPDATE` of a row. -/
theorem Inv.write (h : Inv y s)
    (honly : ∀ j v, (s.subs j).held = some (tx, v) → j = id) (hlaw : Lawful y s id st w) :
    Inv y (s.write tx id st w) := by
  unfold State.write
  split
  · rename_i hview
    refine h.goto_of_none ?_ ?_
    · intro j v hv
      obtain rfl := honly j v hv
      obtain ⟨row, _, rfl, -, -⟩ := h.held j tx v hv
      rw [view_of_held hv] at hview
      cases hview
    · intro read readAt heq
      cases heq
  · rename_i row hview
    obtain ⟨old, hold⟩ := h.committed_of_view hview
    exact h.hold honly hold hlaw

/-- The lock of a row that is free, by a process that holds nothing. -/
theorem Inv.lock (h : Inv y s) (hfree : (s.subs id).free tx = true)
    (hnone : ∀ j v, (s.subs j).held ≠ some (tx, v)) (b : Bool) :
    Inv y ((s.lockSubscription tx id).goto tx (.locked (some id) b)) := by
  -- a free row that the process does not hold is held by nobody
  have hunheld : (s.subs id).held = none := by
    cases hheld : (s.subs id).held with
    | none => rfl
    | some x =>
        have hx := (free_of_held hheld).mp hfree
        exact absurd (hx ▸ hheld) (hnone id x.2)
  unfold State.lockSubscription Table.lock
  rw [view_of_none hunheld]
  cases hcommitted : (s.subs id).committed with
  | none =>
      refine h.goto_of_none hnone ?_
      intro read readAt heq
      cases heq
  | some row =>
      refine h.hold ?_ hcommitted ⟨rfl, rfl⟩
      intro j v hv
      exact absurd hv (hnone j v)

/-! ## Ends -/

/-- A `ROLLBACK` leaves what the others hold. -/
theorem Inv.release (h : Inv y s) (tx : Tx) : Inv y (s.release tx) := by
  have hcommitted : ∀ j, ((s.release tx).subs j).committed = (s.subs j).committed :=
    fun j => rollback_committed
  have hphase : (s.release tx).phases tx = .done := goto_phases_self
  have hm : Moved y tx s (s.release tx) := by
    refine ⟨fun t ht => goto_phases_of_ne ht, fun j => List.prefix_rfl, ?_⟩
    intro j t v _ hv
    exact ⟨(rollback_held.mp hv).1, hcommitted j⟩
  refine h.moved hm ?_ h.changed ?_ ?_
  · intro j
    rw [hcommitted]
    exact h.current j
  · intro read readAt r j userId heq
    rw [hphase] at heq
    cases heq
  · intro j v hv
    -- the transaction has ended, and holds nothing
    exact absurd rfl (rollback_held.mp hv).2

/-- What a commit does to one subscription: it changes nothing, or commits what was written. -/
theorem Inv.commit_cases (h : Inv y s) (hphase : s.phases tx = .written w) (id : Id) :
    ((∀ v, (s.subs id).held ≠ some (tx, v)) ∧ (s.subs id).commit tx = s.subs id ∧
        s.changeOf tx w id = none) ∨
      ∃ row old, (s.subs id).commit tx = { committed := some row } ∧
        (s.subs id).committed = some old ∧ Lawful y s id row.status w ∧
        s.changeOf tx w id = some { source := old.status, target := row.status, writer := w } := by
  rcases Lib.ReadCommitted.commit_cases (s.subs id) tx with ⟨v, hv, hcommit⟩ | ⟨hnone, hcommit⟩
  · right
    obtain ⟨row, old, rfl, hold, hlaw⟩ := h.held id tx v hv
    rw [hphase] at hlaw
    refine ⟨row, old, hcommit, hold, hlaw, ?_⟩
    unfold State.changeOf
    rw [hv, hold]
    exact if_pos rfl
  · left
    refine ⟨hnone, hcommit, ?_⟩
    unfold State.changeOf
    split
    · rename_i t row old hheld hold
      apply if_neg
      rintro rfl
      exact hnone _ hheld
    · rfl

theorem statuses_commit (y : System) (s : State) (tx : Tx) (w : Writer) (id : Id) :
    y.statuses (s.commit tx w) id =
      y.statuses s id ++ ((s.changeOf tx w id).toList.map (·.target)) := by
  show _ ++ List.map _ (s.changes id ++ _) = _
  rw [List.map_append, ← List.append_assoc]
  rfl

theorem statuses_length_le (y : System) (s : State) (id : Id) :
    (y.statuses s id).length ≤ (s.changes id).length + 1 := by
  unfold System.statuses
  cases y.subscriptions id <;> simp

/-- A subscription that is there has been in one status more than it has changed. -/
theorem Inv.statuses_length (h : Inv y s) (hold : (s.subs id).committed = some old) :
    (y.statuses s id).length = (s.changes id).length + 1 := by
  have hcurrent := h.current id
  rw [hold] at hcurrent
  have hlt := (List.getElem?_eq_some_iff.mp hcurrent).1
  have hle := statuses_length_le y s id
  omega

/-- An entry of a list that may have got one more is an old one, or the new one at its end. -/
theorem getElem?_append_toList {α : Type} {l : List α} {o : Option α} {n : ℕ} {x : α}
    (h : (l ++ o.toList)[n]? = some x) : l[n]? = some x ∨ n = l.length ∧ o = some x := by
  by_cases hn : n < l.length
  · rw [List.getElem?_append_left hn] at h
    exact Or.inl h
  · right
    rw [List.getElem?_append_right (Nat.le_of_not_lt hn)] at h
    cases o with
    | none => cases h
    | some x' =>
        obtain ⟨hlt, hx⟩ := List.getElem?_eq_some_iff.mp h
        have hlt : n - l.length < 1 := hlt
        refine ⟨by omega, ?_⟩
        have hzero : n - l.length = 0 := by omega
        simp only [Option.toList, hzero, List.getElem_cons_zero] at hx
        rw [hx]

/-- **A commit** adds at most one change, a lawful one, and the status it commits is its target. -/
theorem Inv.commit (h : Inv y s) (hphase : s.phases tx = .written w) : Inv y (s.commit tx w) := by
  have hmore : ∀ j, y.statuses s j <+: y.statuses (s.commit tx w) j := by
    intro j
    rw [statuses_commit]
    exact List.prefix_append _ _
  have hdone : (s.commit tx w).phases tx = .done := goto_phases_self
  have hm : Moved y tx s (s.commit tx w) := by
    refine ⟨fun t ht => goto_phases_of_ne ht, hmore, ?_⟩
    intro j t v ht hv
    have hv := (commit_held.mp hv).1
    refine ⟨hv, ?_⟩
    show ((s.subs j).commit tx).committed = (s.subs j).committed
    rw [commit_of_other hv ht]
  refine h.moved hm ?_ ?_ ?_ ?_
  · intro j
    rw [statuses_commit]
    show (_ ++ _)[(s.changes j ++ (s.changeOf tx w j).toList).length]? =
      ((s.subs j).commit tx).committed.map _
    rcases h.commit_cases hphase j with
      ⟨-, hcommit, hchange⟩ | ⟨row, old, hcommit, hold, -, hchange⟩
    · rw [hcommit, hchange]
      simpa using h.current j
    · -- the statuses are one more than the changes, so the new one is at the end
      have hlen := h.statuses_length hold
      rw [hcommit, hchange, List.length_append]
      show (_ ++ [row.status])[(s.changes j).length + 1]? = some row.status
      rw [← hlen, List.getElem?_concat_length]
  · intro j n c hc
    rcases getElem?_append_toList hc with hc | ⟨rfl, hlast⟩
    · obtain ⟨hsource, hlaw, hle⟩ := h.changed j n c hc
      refine ⟨?_, Lawful.mono (hmore j) hlaw, hle⟩
      rw [statuses_commit, List.getElem?_append_left (List.getElem?_eq_some_iff.mp hsource).1]
      exact hsource
    · rcases h.commit_cases hphase j with ⟨-, -, hchange⟩ | ⟨row, old, -, hold, hlaw, hchange⟩
      · rw [hchange] at hlast
        cases hlast
      · rw [hchange] at hlast
        cases hlast
        have hcurrent := h.current j
        have hlen := h.statuses_length hold
        rw [hold] at hcurrent
        refine ⟨?_, Lawful.mono (hmore j) hlaw, ?_⟩
        · rw [statuses_commit, List.getElem?_append_left (by omega)]
          exact hcurrent
        · rintro r read readAt rfl
          obtain ⟨-, -, hread⟩ := hlaw
          have hread := (List.getElem?_eq_some_iff.mp hread).1
          omega
  · intro read readAt r j userId heq
    rw [hdone] at heq
    cases heq
  · intro j v hv
    exact absurd rfl (commit_held.mp hv).2

/-! ## Statements keep it -/

theorem Inv.check {r : Request} {userId : UserId} (h : Inv y s)
    (htask : y.tasks tx = .request r id userId)
    (hnone : ∀ j v, (s.subs j).held ≠ some (tx, v)) (ok : Bool) :
    Inv y (s.check tx ok r id userId) := by
  have hstop : Inv y (s.goto tx .done) := h.goto_of_none hnone fun _ _ heq => nomatch heq
  unfold State.check
  split
  · rename_i row hrow
    split
    · exact hstop
    split
    · rename_i hpermits
      refine h.goto (fun j v hv => absurd hv (hnone j v)) ?_
      rintro _ _ r' id' userId' ⟨⟩ htask'
      rw [htask] at htask'
      cases htask'
      have hcurrent := h.current id
      rw [hrow] at hcurrent
      exact ⟨hpermits, hcurrent⟩
    · exact hstop
  · exact hstop

theorem write_phase : (s.write tx id st w).phases tx = .written w := by
  unfold State.write
  split
  · exact goto_phases_self
  · exact goto_phases_self

theorem Inv.update {r : Request} {userId : UserId} {read : Status} {readAt : ℕ} (h : Inv y s)
    (htask : y.tasks tx = .request r id userId) (hphase : s.phases tx = .checked read readAt)
    (ok : Bool) : Inv y (s.update tx ok r id read readAt) := by
  have hnone : ∀ j v, (s.subs j).held ≠ some (tx, v) := by
    refine h.holds_none ?_
    intro j row old hholds
    rw [hphase] at hholds
    exact hholds
  unfold State.update
  split
  · exact h.release tx
  split
  · exact h
  · obtain ⟨hpermits, hread⟩ := h.checked tx read readAt r id userId hphase htask
    have hwrite : Inv y (s.write tx id r.target (.request r read readAt)) := by
      refine h.write ?_ ⟨hpermits, rfl, hread⟩
      intro j v hv
      exact absurd hv (hnone j v)
    dsimp only
    split
    · -- the statement of an administrator commits at once
      exact hwrite.commit write_phase
    · exact hwrite

theorem Inv.lockOwner (h : Inv y s) (hnone : ∀ j v, (s.subs j).held ≠ some (tx, v)) (ok : Bool)
    (id : Id) : Inv y (s.lockOwner tx ok id) := by
  unfold State.lockOwner
  split
  · exact h.release tx
  split
  · exact h
  split
  · rename_i hfree _
    exact h.lock (by simpa using hfree) hnone true
  · exact h.release tx

theorem Inv.lockPayment (h : Inv y s) (hnone : ∀ j v, (s.subs j).held ≠ some (tx, v)) (ok : Bool)
    (p : Id) : Inv y (s.lockPayment tx ok p) := by
  unfold State.lockPayment
  split
  · exact h.release tx
  split
  · exact h
  split
  · refine h.goto_of_none hnone ?_
    intro read readAt heq
    cases heq
  · rename_i pay _
    have hlocked := h.withPayments (s.payments.lock tx p)
    dsimp only
    split
    · -- the payment is for no subscription
      refine hlocked.goto_of_none hnone ?_
      intro read readAt heq
      cases heq
    · rename_i id _
      split
      · exact h
      · rename_i hfree
        exact hlocked.lock (by simpa using hfree) hnone _

theorem completePayment_eq (s : State) (tx : Tx) (task : Task) :
    ∃ x, s.completePayment tx task = { s with payments := x } := by
  unfold State.completePayment
  split
  · split
    · exact ⟨_, rfl⟩
    · exact ⟨_, rfl⟩
  · exact ⟨_, rfl⟩

theorem Inv.activate {i : Option Id} {b : Bool} (h : Inv y s) (hphase : s.phases tx = .locked i b)
    (ok : Bool) (task : Task) : Inv y (s.activate tx ok task i b) := by
  -- the transaction holds the subscription it has locked, and no other
  have honly : ∀ j v, (s.subs j).held = some (tx, v) → i = some j := by
    intro j v hv
    obtain ⟨row, old, -, -, hholds⟩ := h.held j tx v hv
    rw [hphase] at hholds
    exact hholds.1
  obtain ⟨x, hpay⟩ := completePayment_eq s tx task
  unfold State.activate
  rw [hpay]
  split
  · exact h.release tx
  split
  · refine (h.withPayments x).goto_of_none ?_ fun _ _ heq => nomatch heq
    intro j v hv
    cases honly j v hv
  · rename_i id
    split
    · exact h
    · refine (h.withPayments x).write ?_ rfl
      intro j v hv
      exact (Option.some.inj (honly j v hv)).symm

/-- **Every statement keeps it.** -/
theorem step_inv (h : Inv y s) (a : Act) : Inv y (y.step s a) := by
  have hstart : s.phases a.tx = .start → ∀ j v, (s.subs j).held ≠ some (a.tx, v) := by
    intro hphase
    refine h.holds_none ?_
    intro j row old hholds
    rw [hphase] at hholds
    exact hholds
  unfold System.step
  split
  · rename_i htask hphase
    exact h.check htask (hstart hphase) a.ok
  · rename_i htask hphase
    exact h.update htask hphase a.ok
  · rename_i hphase
    split
    · exact h.lockPayment (hstart hphase) a.ok _
    · exact h.release a.tx
  · rename_i hphase
    exact h.lockOwner (hstart hphase) a.ok _
  · rename_i hphase
    exact h.activate hphase a.ok _
  · rename_i hphase
    unfold State.finish
    split
    · exact h.commit hphase
    · exact h.release a.tx
  · exact h

/-- The rows at the start keep the invariant. -/
theorem start_inv (y : System) : Inv y y.start where
  current id := by
    show (_ ++ [])[0]? = (y.subscriptions id).map _
    rw [List.append_nil]
    cases y.subscriptions id <;> rfl
  changed _ _ _ h := nomatch h
  checked _ _ _ _ _ _ h := nomatch h
  held _ _ _ h := nomatch h

end

/-! ## Results -/

/-- A change of a request that nothing was committed between is of the status it has read. -/
theorem Inv.ordered {y : System} {s : State} {id : Id} {n : ℕ} {c : Change} (h : Inv y s)
    (hc : (s.changes id)[n]? = some c) : Orderly y s id n c := by
  obtain ⟨hsource, hlaw, hle⟩ := h.changed id n c hc
  have hrequest : ∀ r read readAt, c.writer = .request r read readAt →
      r.permits read = true ∧ c.target = r.target ∧ (y.statuses s id)[readAt]? = some read := by
    intro r read readAt hw
    rw [hw] at hlaw
    exact hlaw
  have hread : ∀ r read, c.writer = .request r read n →
      r.permits c.source = true ∧ c.target = r.target := by
    intro r read hw
    obtain ⟨hpermits, htarget, hread⟩ := hrequest r read n hw
    -- nothing was committed in between, so what was read is what was there
    rw [hsource, Option.some.injEq] at hread
    exact ⟨hread ▸ hpermits, htarget⟩
  refine ⟨hsource, ?_, ?_, ?_, ?_⟩
  · intro hw
    rw [hw] at hlaw
    exact hlaw
  · intro r read readAt hw
    obtain ⟨hpermits, htarget, hread⟩ := hrequest r read readAt hw
    exact ⟨hle r read readAt hw, hread, hpermits, htarget⟩
  · intro r read hw hadmin
    obtain ⟨hpermits, htarget⟩ := hread r read hw
    rw [htarget]
    cases r with
    | pause => exact List.contains_iff_mem.mp hpermits
    | resume => exact List.contains_iff_mem.mp hpermits
    | cancel => exact List.contains_iff_mem.mp hpermits
    | complete => cases hadmin
    | approve => cases hadmin
    | reject => cases hadmin
  · intro r read hw hcancelled
    have hpermits := (hread r read hw).1
    rw [hcancelled] at hpermits
    cases r <;> cases hpermits

/-- **The status machine**, in any interleaving. -/
theorem orderly (y : System) (acts : List Act) (id : Id) :
    (y.statuses (run y.step y.start acts) id)[((run y.step y.start acts).changes id).length]? =
        ((run y.step y.start acts).subs id).committed.map (·.status) ∧
      ∀ n c, ((run y.step y.start acts).changes id)[n]? = some c →
        Orderly y (run y.step y.start acts) id n c := by
  have h : Inv y (run y.step y.start acts) :=
    run_keeps (I := Inv y) (fun s a hs => step_inv hs a) (start_inv y) acts
  exact ⟨h.current id, fun n c hc => h.ordered hc⟩

/-! ## The declared matrix -/

/-- Every change of the subscription that has been committed is an edge of the declared matrix. To write the
status that is there is no change. -/
def Declared (id : Id) (s : State) : Prop :=
  ∀ c ∈ s.changes id, c.source ≠ c.target → c.target ∈ allowedTransitions c.source

/-- The write of the subscription that the statement commits, if it commits one. -/
def System.commits (y : System) (s : State) (a : Act) (id : Id) : Option Writer :=
  match s.phases a.tx with
  | .checked read readAt =>
    match y.tasks a.tx with
    | .request r i _ =>
      -- the statement of an administrator is a transaction of its own
      if a.ok && r.byAdmin && decide (i = id) && (s.subs id).free a.tx then some (.request r read readAt)
      else none
    | _ => none
  | .written w => if a.ok && (s.subs id).held.any fun h => h.1 = a.tx then some w else none
  | _ => none

/-- The statuses that the matrix has a way out of. -/
def Status.live : Status → Bool
  | .active | .paused | .pastDue => true
  | _ => false

/-- The status takes the write: that of a settlement, or of an administrator, where it is `ACTIVE`, `PAUSED` or
`PAST_DUE`, and that of a subscriber where it passes the check of the request. It may have been written
already. -/
def Status.takes (old : Status) : Writer → Bool
  | .settlement => old.live
  | .request r _ _ => old == r.target || if r.byAdmin then old.live else r.permits old

/-- What the statement commits for the subscription, the committed status takes. -/
def Timely (y : System) (id : Id) (s : State) (a : Act) : Prop :=
  ∀ w old, y.commits s a id = some w → (s.subs id).committed = some old → old.status.takes w = true

/-- The status that a writer writes. -/
def Writer.target : Writer → Status
  | .settlement => .active
  | .request r _ _ => r.target

/-- The statuses that take a write are those that it is an edge from, and its own. -/
theorem takes_iff (old : Status) (w : Writer) :
    old.takes w = true ↔ (old ≠ w.target → w.target ∈ allowedTransitions old) := by
  cases w with
  | settlement => cases old <;> decide
  | request r read readAt => cases r <;> cases old <;> simp [Status.takes, Writer.target,
      Request.target, Request.byAdmin, Request.permits, Status.live, allowedTransitions]

section
variable {y : System} {s : State} {tx : Tx} {id : Id} {st : Status} {w : Writer}

theorem Lawful.target (h : Lawful y s id st w) : st = w.target := by
  cases w with
  | settlement => exact h
  | request r read readAt => exact h.2.1

theorem write_changes : (s.write tx id st w).changes = s.changes := by
  unfold State.write
  split <;> rfl

theorem check_changes (ok : Bool) (r : Request) (userId : UserId) :
    (s.check tx ok r id userId).changes = s.changes := by
  unfold State.check
  split
  · split
    · rfl
    · split <;> rfl
  · rfl

theorem lockSubscription_changes : (s.lockSubscription tx id).changes = s.changes := by
  unfold State.lockSubscription
  split <;> rfl

theorem lockOwner_changes (ok : Bool) : (s.lockOwner tx ok id).changes = s.changes := by
  unfold State.lockOwner
  split
  · rfl
  · split
    · rfl
    · split
      · exact lockSubscription_changes
      · rfl

theorem lockPayment_changes (ok : Bool) (p : Id) : (s.lockPayment tx ok p).changes = s.changes := by
  unfold State.lockPayment
  split
  · rfl
  · split
    · rfl
    · split
      · rfl
      · dsimp only
        split
        · rfl
        · split
          · rfl
          · exact lockSubscription_changes

theorem activate_changes (ok : Bool) (task : Task) (i : Option Id) (settles : Bool) :
    (s.activate tx ok task i settles).changes = s.changes := by
  obtain ⟨x, hpay⟩ := completePayment_eq s tx task
  unfold State.activate
  rw [hpay]
  split
  · rfl
  · split
    · rfl
    · split
      · rfl
      · exact write_changes

/-- The change that a write makes of the committed version. -/
def changeOver (w : Writer) (old : Subscription) : Change :=
  { source := old.status, target := w.target, writer := w }

/-- A transaction that commits what it has written of a subscription changes it from its committed status. -/
theorem changeOf_of_written (h : Inv y s) (hphase : s.phases tx = .written w) (id : Id) :
    s.changeOf tx w id =
      if (s.subs id).held.any fun x => x.1 = tx then (s.subs id).committed.map (changeOver w) else none := by
  cases hheld : (s.subs id).held with
  | none => simp [State.changeOf, hheld]
  | some x =>
      obtain ⟨t, v⟩ := x
      obtain ⟨row, old, rfl, hold, hholds⟩ := h.held id t v hheld
      by_cases ht : t = tx
      · subst ht
        rw [hphase] at hholds
        have htarget : row.status = w.target := Lawful.target hholds
        simp [State.changeOf, hheld, hold, changeOver, htarget]
      · simp [State.changeOf, hheld, hold, ht]

/-- The statement of an administrator changes the subscription from its committed status. -/
theorem changeOf_of_update (hnone : ∀ j v, (s.subs j).held ≠ some (tx, v)) {i : Id}
    (hfree : (s.subs i).free tx = true) (id : Id) :
    (s.write tx i w.target w).changeOf tx w id =
      if i = id then (s.subs id).committed.map (changeOver w) else none := by
  -- a free row that the process does not hold is held by nobody
  have hunheld : (s.subs i).held = none := by
    cases hheld : (s.subs i).held with
    | none => rfl
    | some x =>
        have hx := (free_of_held hheld).mp hfree
        exact absurd (hx ▸ hheld) (hnone i x.2)
  have hother : ∀ j, (∀ v, (s.subs j).held ≠ some (tx, v)) → s.changeOf tx w j = none := by
    intro j hj
    unfold State.changeOf
    split
    · rename_i t row old hheld hold
      apply if_neg
      rintro rfl
      exact hj _ hheld
    · rfl
  unfold State.write
  rw [view_of_none hunheld]
  cases hcommitted : (s.subs i).committed with
  | none =>
      show s.changeOf tx w id = _
      rw [hother id (hnone id)]
      split
      · rename_i heq
        rw [← heq, hcommitted]
        rfl
      · rfl
  | some row =>
      by_cases hi : i = id
      · subst hi
        simp only [State.changeOf, State.goto, write_self, hcommitted, if_true, Option.map_some]
        rfl
      · rw [if_neg hi, ← hother id (hnone id)]
        simp only [State.changeOf, State.goto, write_of_ne (Ne.symm hi)]

/-- **The changes of one statement**: at most one, from the committed status to the one that is written. -/
theorem step_changes (h : Inv y s) (a : Act) (id : Id) :
    (y.step s a).changes id =
      s.changes id ++
        ((y.commits s a id).bind fun w => (s.subs id).committed.map (changeOver w)).toList := by
  cases hphase : s.phases a.tx with
  | start =>
      have hsame : (y.step s a).changes = s.changes := by
        cases htask : y.tasks a.tx with
        | request r i userId => simp only [System.step, htask, hphase, check_changes]
        | nowpayments p =>
            simp only [System.step, htask, hphase]
            split
            · exact lockPayment_changes _ _
            · rfl
        | stripe i => simp only [System.step, htask, hphase, lockOwner_changes]
      simp [System.commits, hphase, hsame]
  | checked read readAt =>
      cases htask : y.tasks a.tx with
      | request r i userId =>
          have hnone : ∀ j v, (s.subs j).held ≠ some (a.tx, v) := by
            refine h.holds_none ?_
            intro j row old hholds
            rw [hphase] at hholds
            exact hholds
          simp only [System.step, System.commits, htask, hphase, State.update]
          cases hok : a.ok with
          | false => simp [State.release, State.goto]
          | true =>
              cases hfree : (s.subs i).free a.tx with
              | false =>
                  by_cases hi : i = id
                  · simp [hi ▸ hfree]
                  · simp [hi]
              | true =>
                  cases hadmin : r.byAdmin with
                  | false => simp [write_changes]
                  | true =>
                      have hchange := changeOf_of_update (w := .request r read readAt) hnone hfree id
                      show (s.write a.tx i r.target _).changes id ++ (_ : Option Change).toList = _
                      rw [write_changes]
                      congr 2
                      refine hchange.trans ?_
                      by_cases hi : i = id
                      · subst hi
                        simp [hfree]
                      · simp [hi]
      | nowpayments p => simp [System.step, System.commits, htask, hphase]
      | stripe i => simp [System.step, System.commits, htask, hphase]
  | locked i settles =>
      have hsame : (y.step s a).changes = s.changes := by
        cases htask : y.tasks a.tx <;> simp only [System.step, htask, hphase, activate_changes]
      simp [System.commits, hphase, hsame]
  | written w =>
      have hstep : y.step s a = s.finish a.tx a.ok w := by
        cases htask : y.tasks a.tx <;> simp only [System.step, htask, hphase]
      rw [hstep]
      simp only [System.commits, hphase, State.finish]
      cases hok : a.ok with
      | false => simp [State.release, State.goto]
      | true =>
          show s.changes id ++ (s.changeOf a.tx w id).toList = _
          rw [changeOf_of_written h hphase]
          by_cases hheld : ((s.subs id).held.any fun x => x.1 = a.tx) = true
          · simp [hheld]
          · simp [hheld]
  | done =>
      have hsame : y.step s a = s := by
        cases htask : y.tasks a.tx <;> simp only [System.step, htask, hphase]
      simp [System.commits, hphase, hsame]

/-- A statement keeps the changes declared exactly when it is timely. -/
theorem declared_step_iff (h : Inv y s) (hd : Declared id s) (a : Act) :
    Declared id (y.step s a) ↔ Timely y id s a := by
  unfold Declared Timely
  rw [step_changes h a id]
  constructor
  · intro hstep w old hcommits hold
    rw [takes_iff]
    refine hstep (changeOver w old) (List.mem_append_right _ ?_)
    rw [hcommits, hold]
    exact List.mem_singleton_self _
  · intro htimely c hc
    rcases List.mem_append.mp hc with hc | hc
    · exact hd c hc
    · obtain ⟨w, hw, hc⟩ := Option.bind_eq_some_iff.mp (Option.mem_toList.mp hc)
      obtain ⟨old, hold, rfl⟩ := Option.map_eq_some_iff.mp hc
      exact (takes_iff old.status w).mp (htimely w old hw hold)

end

/-- **The declared machine.** In any interleaving the changes of a subscription are as `orderly` has them; and
in every state of the run they are all edges of the declared matrix, so that no status without edges is
ever left, exactly when each statement that commits one is timely. -/
theorem status_machine (y : System) (acts : List Act) (id : Id) :
    ((y.statuses (run y.step y.start acts) id)[((run y.step y.start acts).changes id).length]? =
        ((run y.step y.start acts).subs id).committed.map (·.status) ∧
      ∀ n c, ((run y.step y.start acts).changes id)[n]? = some c →
        Orderly y (run y.step y.start acts) id n c) ∧
    (Throughout y.step (Declared id) y.start acts ↔ Along y.step (Timely y id) y.start acts) := by
  refine ⟨orderly y acts id, ?_⟩
  rw [throughout_iff (J := Inv y) (fun s a hs => step_inv hs a)
    (fun s a hs hd => declared_step_iff hs hd a) (start_inv y)]
  refine and_iff_right fun c hc => ?_
  cases hc

/-- One subscription, which is settled by a Stripe event. Its settlement has no outer join, and the
database refuses the one of a crypto payment. -/
def settling (st : Status) : System where
  tasks _ := .stripe 0
  subscriptions _ := some { userId := 0, status := st }
  payments _ := none
  rowLockAccepted := false

/-- An active subscription that its subscriber pauses and cancels, in two requests; nothing is paid
for. -/
def racing : System where
  tasks tx := .request (if tx = 0 then .pause else .cancel) 0 0
  subscriptions _ := some { userId := 0, status := .active }
  payments _ := none
  rowLockAccepted := false

/-- Both requests read the status, and the cancellation is committed first. -/
def racingActs : List Act := [⟨0, true⟩, ⟨1, true⟩, ⟨1, true⟩, ⟨1, true⟩, ⟨0, true⟩, ⟨0, true⟩]

/-- A settlement takes a subscription from `CANCELLED` to `ACTIVE`, and a request to pause that has read
`ACTIVE` takes it from `CANCELLED` to `PAUSED`. -/
theorem settled_against_matrix :
    ¬ Throughout (settling .cancelled).step (Declared 0) (settling .cancelled).start
        [⟨1, true⟩, ⟨1, true⟩, ⟨1, true⟩] ∧
      ¬ Throughout racing.step (Declared 0) racing.start racingActs := by
  constructor
  · intro h
    have hlast := h _ List.prefix_rfl ⟨.cancelled, .active, .settlement⟩ (List.mem_singleton.mpr rfl)
    exact absurd hlast (by decide)
  · intro h
    have hlast := h _ List.prefix_rfl ⟨.cancelled, .paused, .request .pause .active 0⟩
      (List.mem_cons_of_mem _ (List.mem_singleton.mpr rfl))
    exact absurd hlast (by decide)

end PredictATrade.Billing.Subscriptions
