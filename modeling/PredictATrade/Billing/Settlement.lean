import PredictATrade.Billing.Nowpayments

/-!
# `Billing.Settlement` — what a delivery does to a payment

A payment is *settled* (`Settled`: completed, its subscription active), or *open* (`Open`: not
completed, and none of its settling events on file). `Effect` lists what one delivery can do to the
tables, whatever fails in it; from it follows that a settled payment stays settled. An open payment
stays open or gets settled when the delivery is handled (`Handled`), and one that puts a settling
event on file without being handled leaves the payment unpaid with the event on file
(`receiveIPN_of_not_handled`): the next delivery of that event is answered as a duplicate.
-/

namespace PredictATrade.Billing
open Lib.Table Lib.Decimal Lib.Attempt

/-! ## Settled and open payments -/

/-- The payment stored under `ref` is completed and its subscription is active. -/
def Settled (ref : String) (db : Db) : Prop :=
  ∃ p id s, db.paymentOf ref = some p ∧ p.status = .completed ∧ p.subscriptionId = some id ∧
    db.subscription id = some s ∧ s.status = .active

/-- The payment stored under `ref` has an invoice and a subscription, and is not completed. -/
def Unpaid (ref : String) (db : Db) : Prop :=
  ∃ p id, db.paymentOf ref = some p ∧ p.status ≠ .completed ∧ p.invoiceId.isSome ∧
    p.subscriptionId = some id ∧ (db.subscription id).isSome

/-- The payment stored under `ref` can still be settled: neither of its settling events is on
file. -/
structure Open (ref : String) (db : Db) : Prop where
  unpaid : Unpaid ref db
  unfiled : ∀ st ∈ settledStatuses, eventKey ref st ∉ db.events

/-- `PRIMARY KEY (id)` of `billing.payments`. -/
def UniquePayments (db : Db) : Prop := (db.payments.map (·.id)).Nodup

section
variable {ref key : String} {db db' : Db} {p q : Payment} {id : Id} {s : Subscription}

theorem paymentOf_mem (h : db.paymentOf ref = some p) :
    p ∈ db.payments ∧ p.providerPaymentId = some ref := by
  have href := List.find?_some h
  exact ⟨List.mem_of_find?_eq_some h, by simpa using href⟩

/-- Two references do not name the same payment. -/
theorem UniquePayments.ref_eq (hu : UniquePayments db) {ref' : String}
    (hp : db.paymentOf ref = some p) (hq : db.paymentOf ref' = some q) (h : p.id = q.id) :
    ref = ref' := by
  obtain ⟨hpm, hpr⟩ := paymentOf_mem hp
  obtain ⟨hqm, hqr⟩ := paymentOf_mem hq
  obtain rfl := eq_of_key hu hpm hqm h
  rw [hpr] at hqr
  exact Option.some.inj hqr

/-! ## What the updates change -/

@[simp] theorem fileEvent_paymentOf : (db.fileEvent key).paymentOf ref = db.paymentOf ref := rfl

@[simp] theorem fileEvent_subscription :
    (db.fileEvent key).subscription id = db.subscription id := rfl

@[simp] theorem fileEvent_events : (db.fileEvent key).events = db.events ++ [key] := rfl

@[simp] theorem markUnderpaid_events : (db.markUnderpaid ref).events = db.events := rfl

@[simp] theorem markUnderpaid_subscription :
    (db.markUnderpaid ref).subscription id = db.subscription id := rfl

@[simp] theorem settle_events : (db.settle p).events = db.events := rfl

/-- An event that was not on file, filed and taken off again, leaves no trace. -/
theorem unmarkEvent_fileEvent (h : key ∉ db.events) : (db.fileEvent key).unmarkEvent key = db := by
  have hkeep : db.events.filter (· != key) = db.events := by
    apply List.filter_eq_self.mpr
    intro k hk
    simp only [bne_iff_ne, ne_eq]
    rintro rfl
    exact h hk
  simp [Db.unmarkEvent, Db.fileEvent, hkeep]

theorem markUnderpaid_paymentOf {ref' : String} :
    (db.markUnderpaid ref').paymentOf ref = (db.paymentOf ref).map fun p =>
      if p.providerPaymentId == some ref' && !(p.status == .completed || p.status == .underpaid) then
        { p with status := .underpaid } else p :=
  find?_updateWhere fun _ => rfl

theorem settle_paymentOf :
    (db.settle q).paymentOf ref =
      (db.paymentOf ref).map fun p => if p.id == q.id then { p with status := .completed } else p :=
  find?_updateWhere fun _ => rfl

theorem settle_subscription :
    (db.settle q).subscription id = (db.subscription id).map fun s =>
      if q.subscriptionId == some s.id then { s with status := .active } else s :=
  find?_updateWhere fun _ => rfl

theorem UniquePayments.markUnderpaid (h : UniquePayments db) :
    UniquePayments (db.markUnderpaid ref) := by
  have hid : (db.markUnderpaid ref).payments.map (·.id) = db.payments.map (·.id) :=
    map_updateWhere fun _ => rfl
  simpa only [UniquePayments, hid] using h

theorem UniquePayments.settle (h : UniquePayments db) : UniquePayments (db.settle p) := by
  have hid : (db.settle p).payments.map (·.id) = db.payments.map (·.id) :=
    map_updateWhere fun _ => rfl
  simpa only [UniquePayments, hid] using h

/-- A settlement settles the payment it is for. -/
theorem settled_settle (hp : db.paymentOf ref = some p) (hid : p.subscriptionId = some id)
    (hs : (db.subscription id).isSome) : Settled ref (db.settle p) := by
  obtain ⟨s, hs⟩ := Option.isSome_iff_exists.mp hs
  have hsid : s.id = id := by simpa using List.find?_some hs
  refine ⟨{ p with status := .completed }, id, { s with status := .active }, ?_, rfl, hid, ?_, rfl⟩
  · rw [settle_paymentOf, hp]; simp
  · rw [settle_subscription, hs]; simp [hid, hsid]

/-! ## What a delivery can do -/

/-- The effect of a delivery of `ipn` on the tables. -/
inductive Effect (cfg : Config) (ipn : Ipn) (faults : IpnQuery → Bool) (db : Db) : Db → Prop where
  /-- Refused, a duplicate, or failed and undone. -/
  | unchanged : Effect cfg ipn faults db db
  /-- The event is on file, and nothing is settled. -/
  | filed (hnew : ipn.providerEventId ∉ db.events) :
      Effect cfg ipn faults db (db.fileEvent ipn.providerEventId)
  | underpaid (hnew : ipn.providerEventId ∉ db.events) :
      Effect cfg ipn faults db
        ((db.fileEvent ipn.providerEventId).markUnderpaid ipn.gatewayPaymentRef)
  | settled (p : Payment) (hlock : cfg.rowLockAccepted = true)
      (hst : ipn.paymentStatus ∈ settledStatuses)
      (hp : db.paymentOf ipn.gatewayPaymentRef = some p) (hopen : p.status ≠ .completed) :
      Effect cfg ipn faults db ((db.fileEvent ipn.providerEventId).settle p)

end

section
variable {cfg : Config} {ref : String} {ipn : Ipn} {faults : IpnQuery → Bool} {db db' : Db}
  {p : Payment} {id : Id}

/-- **The settlement transaction**, when it commits: nothing, or the settlement of the payment that
the reference names. -/
theorem settlement_ok {after : AfterCommit} (h : settlement cfg ref faults db = .ok (after, db')) :
    cfg.rowLockAccepted = true ∧
      (db' = db ∨ ∃ p, db.paymentOf ref = some p ∧ p.status ≠ .completed ∧ db' = db.settle p) := by
  obtain ⟨-, h⟩ := guard_ok h
  obtain ⟨hlock, h⟩ := guard_ok h
  have hlock : cfg.rowLockAccepted = true := by
    simp only [Bool.or_eq_true, Bool.not_eq_true', not_or, Bool.not_eq_false] at hlock
    exact hlock.2
  refine ⟨hlock, ?_⟩
  cases hp : db.paymentOf ref with
  | none =>
    simp only [hp] at h
    obtain ⟨-, h⟩ := guard_ok h
    left; cases h; rfl
  | some p =>
    simp only [hp] at h
    by_cases hc : p.status = .completed
    · rw [if_pos hc] at h
      obtain ⟨-, h⟩ := guard_ok h
      left; cases h; rfl
    · rw [if_neg hc] at h
      obtain ⟨-, h⟩ := guard_ok h
      obtain ⟨-, h⟩ := guard_ok h
      obtain ⟨-, h⟩ := guard_ok h
      obtain ⟨-, h⟩ := guard_ok h
      obtain ⟨-, h⟩ := guard_ok h
      right; cases h; exact ⟨p, rfl, hc, rfl⟩

/-- The settlement of an open payment commits exactly when none of its statements fails. -/
theorem settlement_open (faults : IpnQuery → Bool) (db : Db) (hlock : cfg.rowLockAccepted = true)
    (hp : db.paymentOf ref = some p) (hopen : p.status ≠ .completed) (hinv : p.invoiceId.isSome)
    (hsub : p.subscriptionId = some id) :
    settlement cfg ref faults db =
      if ∀ q ∈ settlementQueries, faults q = false then .ok (afterCommit p db, db.settle p)
      else .error .query := by
  have hall : (∀ q ∈ settlementQueries, faults q = false) ↔
      faults .beginSettlement = false ∧ faults .lockPayment = false ∧
        faults .completePayment = false ∧ faults .payInvoice = false ∧
        faults .activateSubscription = false ∧ faults .auditSettled = false ∧
        faults .commit = false := by
    simp [settlementQueries]
  simp only [hall, settlement, hp, hopen, hinv, hsub, hlock, if_false, Bool.not_true, Bool.or_false,
    Bool.true_and, Option.isSome_some]
  cases faults .beginSettlement <;> cases faults .lockPayment <;> cases faults .completePayment <;>
    cases faults .payInvoice <;> cases faults .activateSubscription <;>
    cases faults .auditSettled <;> cases faults .commit <;> rfl

/-- The settlement with its compensation settles the payment, or files nothing, or leaves the event
on file because the compensation failed as well. -/
theorem settlePayment_effect (hnew : ipn.providerEventId ∉ db.events)
    (hst : ipn.paymentStatus ∈ settledStatuses) :
    Effect cfg ipn faults db
      (settlePayment cfg ipn faults (db.fileEvent ipn.providerEventId)).2 := by
  cases hset : settlement cfg ipn.gatewayPaymentRef faults (db.fileEvent ipn.providerEventId) with
  | error e =>
    simp only [settlePayment, transaction_of_error hset]
    cases faults .unmarkEvent with
    | true => exact .filed hnew
    | false =>
      simp only [Bool.false_eq_true, if_false, unmarkEvent_fileEvent hnew]
      exact .unchanged
  | ok r =>
    obtain ⟨after, db'⟩ := r
    simp only [settlePayment, transaction_of_ok hset]
    obtain ⟨hlock, rfl | ⟨p, hp, hopen, rfl⟩⟩ := settlement_ok hset
    · exact .filed hnew
    · exact .settled p hlock hst hp hopen

/-- **What a delivery can do**, whatever fails in it. -/
theorem receiveIPN_effect : Effect cfg ipn faults db (receiveIPN cfg ipn faults db).2 := by
  simp only [receiveIPN]
  by_cases hins : faults .insertEvent = true
  · rw [if_pos hins]; exact .unchanged
  by_cases hnew : ipn.providerEventId ∈ db.events
  · rw [if_neg hins, if_pos hnew]; exact .unchanged
  rw [if_neg hins, if_neg hnew]
  simp only [processIPN]
  by_cases hst : ipn.paymentStatus ∈ settledStatuses
  swap
  · rw [if_pos hst]; exact .filed hnew
  rw [if_neg (not_not.mpr hst)]
  by_cases hload : faults .loadPayment = true
  · rw [if_pos hload]; exact .filed hnew
  rw [if_neg hload]
  cases verify cfg ipn (db.fileEvent ipn.providerEventId) with
  | error e => exact .filed hnew
  | ok verdict =>
    cases verdict with
    | underpaid =>
      simp only [afterVerdict]
      cases faults .markUnderpaid with
      | true => exact .filed hnew
      | false => cases faults .auditUnderpaid <;> exact .underpaid hnew
    | amountUnverified => exact .filed hnew
    | proceed =>
      simp only [afterVerdict]
      cases faults .connect with
      | true => exact .filed hnew
      | false => exact settlePayment_effect hnew hst

/-! ## Settled payments stay settled -/

theorem Effect.settled_stays (h : Effect cfg ipn faults db db') (hs : Settled ref db) :
    Settled ref db' := by
  obtain ⟨p, id, s, hp, hc, hid, hs, hact⟩ := hs
  cases h with
  | unchanged => exact ⟨p, id, s, hp, hc, hid, hs, hact⟩
  | filed => exact ⟨p, id, s, hp, hc, hid, hs, hact⟩
  | underpaid =>
    refine ⟨p, id, s, ?_, hc, hid, hs, hact⟩
    rw [markUnderpaid_paymentOf, fileEvent_paymentOf, hp]
    simp [hc]
  | settled q =>
    refine ⟨{ p with status := .completed }, id, { s with status := .active }, ?_, rfl, hid, ?_, rfl⟩
    · rw [settle_paymentOf, fileEvent_paymentOf, hp, Option.map_some, ← hc, ite_self]
    · rw [settle_subscription, fileEvent_subscription, hs, Option.map_some, ← hact, ite_self]

theorem Effect.unique (h : Effect cfg ipn faults db db') (hu : UniquePayments db) :
    UniquePayments db' := by
  cases h with
  | unchanged => exact hu
  | filed => exact hu
  | underpaid => exact UniquePayments.markUnderpaid hu
  | settled => exact UniquePayments.settle hu

/-! ## Unpaid payments -/

theorem Unpaid.not_settled (h : Unpaid ref db) : ¬ Settled ref db := by
  rintro ⟨q, _, _, hq, hc, -⟩
  obtain ⟨p, _, hp, hopen, -⟩ := h
  rw [hp] at hq
  exact hopen (Option.some.inj hq ▸ hc)

theorem Unpaid.markUnderpaid {ref' : String} (h : Unpaid ref db) :
    Unpaid ref (db.markUnderpaid ref') := by
  obtain ⟨p, id, hp, hopen, hinv, hid, hs⟩ := h
  rw [Unpaid]
  simp only [markUnderpaid_paymentOf, hp, Option.map_some, Option.some.injEq,
    exists_and_left, exists_eq_left', markUnderpaid_subscription]
  split
  · exact ⟨by simp, hinv, id, hid, hs⟩
  · exact ⟨hopen, hinv, id, hid, hs⟩

/-- The settlement of another payment leaves a payment unpaid. -/
theorem Unpaid.settle {q : Payment} (h : Unpaid ref db)
    (hq : ∀ p, db.paymentOf ref = some p → p.id ≠ q.id) : Unpaid ref (db.settle q) := by
  obtain ⟨p, id, hp, hopen, hinv, hid, hs⟩ := h
  have hne : (p.id == q.id) = false := by simpa using hq p hp
  refine ⟨p, id, ?_, hopen, hinv, hid, ?_⟩
  · rw [settle_paymentOf, hp, Option.map_some, hne]; rfl
  · rw [settle_subscription, Option.isSome_map]; exact hs

/-- A delivery that cannot settle the payment leaves it unpaid. -/
theorem Effect.unpaid (h : Effect cfg ipn faults db db') (hu : UniquePayments db)
    (hunpaid : Unpaid ref db)
    (hno : ipn.gatewayPaymentRef = ref → ipn.paymentStatus ∈ settledStatuses →
      cfg.rowLockAccepted = false) : Unpaid ref db' := by
  cases h with
  | unchanged => exact hunpaid
  | filed => exact hunpaid
  | underpaid =>
    have hfile : Unpaid ref (db.fileEvent ipn.providerEventId) := hunpaid
    exact hfile.markUnderpaid
  | settled q hlock hst hq =>
    have hfile : Unpaid ref (db.fileEvent ipn.providerEventId) := hunpaid
    apply hfile.settle
    intro p hp hid
    have href : ref = ipn.gatewayPaymentRef := hu.ref_eq hp hq hid
    rw [hno href.symm hst] at hlock
    cases hlock

/-- An event of the file after a delivery was there before, or is the delivery's own. -/
theorem Effect.mem_events (h : Effect cfg ipn faults db db') {key : String} (hk : key ∈ db'.events) :
    key ∈ db.events ∨ key = ipn.providerEventId := by
  cases h with
  | unchanged => exact .inl hk
  | filed => simpa using hk
  | underpaid => simpa using hk
  | settled => simpa using hk

/-! ## Deliveries that put a settling event on file -/

/-- The key of a settling event determines the reference, if its own status is a settling one. -/
theorem ref_of_eventKey {ref' st st' : String} (hst : st ∈ settledStatuses)
    (hst' : st' ∈ settledStatuses) (h : eventKey ref' st' = eventKey ref st) : ref' = ref := by
  simp only [settledStatuses, List.mem_cons, List.not_mem_nil, or_false] at hst hst'
  have htail := congrArg (fun s : String => s.toList.reverse) h
  simp only [eventKey, String.toList_append, List.reverse_append] at htail
  rcases hst with rfl | rfl <;> rcases hst' with rfl | rfl
  · simpa [eventKey] using h
  · simp at htail
  · simp at htail
  · simpa [eventKey] using h

/-- The delivery puts a settling event of the unpaid payment on file. -/
structure Files (ref : String) (db : Db) (ipn : Ipn) (faults : IpnQuery → Bool) : Prop where
  inserted : faults .insertEvent = false
  settling : ∃ st ∈ settledStatuses, ipn.providerEventId = eventKey ref st
  new : ipn.providerEventId ∉ db.events
  unpaid : (db.paymentOf ref).any (·.status == .completed) = false

/-- What it takes for such a delivery not to be lost: it names the payment by the stored reference,
every statement up to the settlement transaction succeeds, the amount passes, and the transaction
commits or is undone together with its event. -/
structure Handled (cfg : Config) (ref : String) (db : Db) (ipn : Ipn) (faults : IpnQuery → Bool) :
    Prop where
  reference : ipn.gatewayPaymentRef = ref
  loaded : faults .loadPayment = false
  verified : verify cfg ipn db = .ok .proceed
  connected : faults .connect = false
  settledOrUndone : (∀ q ∈ settlementQueries, faults q = false) ∨ faults .unmarkEvent = false

theorem processIPN_of_verified (hst : ipn.paymentStatus ∈ settledStatuses)
    (hload : faults .loadPayment = false) (hv : verify cfg ipn db = .ok .proceed)
    (hconn : faults .connect = false) :
    processIPN cfg ipn faults db = settlePayment cfg ipn faults db := by
  simp [processIPN, hst, hload, hv, afterVerdict, hconn]

theorem receiveIPN_of_files (h : Files ref db ipn faults) :
    receiveIPN cfg ipn faults db = processIPN cfg ipn faults (db.fileEvent ipn.providerEventId) := by
  simp [receiveIPN, h.inserted, h.new]

theorem Unpaid.not_completed (h : Unpaid ref db) :
    (db.paymentOf ref).any (·.status == .completed) = false := by
  obtain ⟨p, _, hp, hopen, -⟩ := h
  simpa [hp] using hopen

/-- The settlement of an open payment settles it, or fails and is undone, or fails and stays on
file. -/
theorem settlePayment_open (faults : IpnQuery → Bool) (hlock : cfg.rowLockAccepted = true)
    (hopen : Open ref db) (href : ipn.gatewayPaymentRef = ref)
    (hnew : ipn.providerEventId ∉ db.events) :
    let db' := (settlePayment cfg ipn faults (db.fileEvent ipn.providerEventId)).2
    if ∀ q ∈ settlementQueries, faults q = false then Settled ref db'
    else db' = if faults .unmarkEvent then db.fileEvent ipn.providerEventId else db := by
  obtain ⟨p, id, hp, hunpaid, hinv, hid, hs⟩ := hopen.unpaid
  have hset := settlement_open faults (db.fileEvent ipn.providerEventId) hlock hp hunpaid hinv hid
  by_cases hclean : ∀ q ∈ settlementQueries, faults q = false
  · simp only [if_pos hclean] at hset ⊢
    simp only [settlePayment, href, transaction_of_ok hset]
    exact settled_settle hp hid hs
  · simp only [if_neg hclean] at hset ⊢
    simp only [settlePayment, href, transaction_of_error hset]
    cases faults .unmarkEvent with
    | true => rfl
    | false => exact unmarkEvent_fileEvent hnew

/-- **A handled delivery** settles an open payment, or leaves it open when a statement of the
settlement fails. -/
theorem receiveIPN_of_handled (hlock : cfg.rowLockAccepted = true) (hopen : Open ref db)
    (hf : Files ref db ipn faults) (hh : Handled cfg ref db ipn faults) :
    if ∀ q ∈ settlementQueries, faults q = false then Settled ref (receiveIPN cfg ipn faults db).2
    else Open ref (receiveIPN cfg ipn faults db).2 := by
  have hst : ipn.paymentStatus ∈ settledStatuses := by
    obtain ⟨st, hst, hkey⟩ := hf.settling
    have heq : ipn.paymentStatus = st := by
      simpa [Ipn.providerEventId, eventKey, hh.reference] using hkey
    exact heq ▸ hst
  have hset := settlePayment_open faults hlock hopen hh.reference hf.new
  -- the verdict does not depend on the events on file
  have hv : verify cfg ipn (db.fileEvent ipn.providerEventId) = .ok .proceed := hh.verified
  rw [receiveIPN_of_files hf, processIPN_of_verified hst hh.loaded hv hh.connected]
  by_cases hclean : ∀ q ∈ settlementQueries, faults q = false
  · simp only [if_pos hclean] at hset ⊢
    exact hset
  · have hundo : faults .unmarkEvent = false := hh.settledOrUndone.resolve_left hclean
    simp only [if_neg hclean, hundo, Bool.false_eq_true, if_false] at hset ⊢
    rw [hset]
    exact hopen

/-- **A delivery that is not handled** stays on file, and the payment stays unpaid. -/
theorem receiveIPN_of_not_handled (hlock : cfg.rowLockAccepted = true) (hopen : Open ref db)
    (hf : Files ref db ipn faults) (hh : ¬ Handled cfg ref db ipn faults) :
    Unpaid ref (receiveIPN cfg ipn faults db).2 ∧
      ipn.providerEventId ∈ (receiveIPN cfg ipn faults db).2.events := by
  have hfile : Unpaid ref (db.fileEvent ipn.providerEventId) ∧
      ipn.providerEventId ∈ (db.fileEvent ipn.providerEventId).events :=
    ⟨hopen.unpaid, by simp⟩
  have hmark : Unpaid ref ((db.fileEvent ipn.providerEventId).markUnderpaid ipn.gatewayPaymentRef) ∧
      ipn.providerEventId ∈
        ((db.fileEvent ipn.providerEventId).markUnderpaid ipn.gatewayPaymentRef).events :=
    ⟨hfile.1.markUnderpaid, by simp⟩
  rw [receiveIPN_of_files hf]
  simp only [processIPN]
  by_cases hst : ipn.paymentStatus ∈ settledStatuses
  swap
  · rw [if_pos hst]; exact hfile
  rw [if_neg (not_not.mpr hst)]
  -- a settling status on a settling key: the delivery names the payment
  have href : ipn.gatewayPaymentRef = ref := by
    obtain ⟨st, hst', hkey⟩ := hf.settling
    exact ref_of_eventKey hst' hst hkey
  cases hload : faults .loadPayment with
  | true => rw [if_pos rfl]; exact hfile
  | false =>
    rw [if_neg (by simp)]
    cases hv : verify cfg ipn (db.fileEvent ipn.providerEventId) with
    | error e => exact hfile
    | ok verdict =>
      cases verdict with
      | underpaid =>
        simp only [afterVerdict]
        cases faults .markUnderpaid with
        | true => exact hfile
        | false => cases faults .auditUnderpaid <;> exact hmark
      | amountUnverified => exact hfile
      | proceed =>
        simp only [afterVerdict]
        cases hconn : faults .connect with
        | true => exact hfile
        | false =>
          have hset := settlePayment_open faults hlock hopen href hf.new
          have hbad : ¬ ((∀ q ∈ settlementQueries, faults q = false) ∨ faults .unmarkEvent = false) :=
            fun hdone => hh ⟨href, hload, hv, hconn, hdone⟩
          obtain ⟨hclean, hundo⟩ := not_or.mp hbad
          simp only [if_neg hclean, hundo, if_true] at hset
          rw [if_neg (by simp), hset]
          exact hfile

/-- A delivery that files none of the payment's settling events leaves an open payment open. -/
theorem receiveIPN_of_not_files (hu : UniquePayments db) (hopen : Open ref db)
    (hf : ¬ Files ref db ipn faults) : Open ref (receiveIPN cfg ipn faults db).2 := by
  by_cases hins : faults .insertEvent = true
  · simp only [receiveIPN, if_pos hins]; exact hopen
  by_cases hnew : ipn.providerEventId ∈ db.events
  · simp only [receiveIPN, if_neg hins, if_pos hnew]; exact hopen
  have hother : ∀ st ∈ settledStatuses, ipn.providerEventId ≠ eventKey ref st := fun st hst heq =>
    hf ⟨by simpa using hins, ⟨st, hst, heq⟩, hnew, hopen.unpaid.not_completed⟩
  have heff : Effect cfg ipn faults db (receiveIPN cfg ipn faults db).2 := receiveIPN_effect
  refine ⟨heff.unpaid hu hopen.unpaid fun href hst => ?_, fun st hst hk => ?_⟩
  · exact absurd (by rw [Ipn.providerEventId, href]) (hother _ hst)
  · rcases heff.mem_events hk with hk | hk
    · exact hopen.unfiled st hst hk
    · exact hother st hst hk.symm

end

end PredictATrade.Billing
