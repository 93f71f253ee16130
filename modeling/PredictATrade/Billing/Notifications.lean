import PredictATrade.Lib.Runs
import PredictATrade.Billing.Periods

/-!
# `Billing.Notifications` — notifications of both providers, interleaved

Deliveries come in any order and any number of times. Each that is accepted and new to the file is a
call with statements of its own left to execute, and the calls take turns. A settlement transaction
is one step: it holds the lock of its payment, or of its subscription, from the read to the commit.
What follows the commit is another: `creditReferralForSettledRevenue` for NOWPayments, and nothing
for Stripe but the license call. A process that dies takes its call with it.

`log` is what has happened to the payments so far.
-/

namespace PredictATrade.Billing.Notifications
open Lib.Attempt

/-- `(provider, provider_payment_id)`, which is unique. -/
inductive PaymentKey where
  | nowpayments (ref : String)
  | stripe (id : String)
  deriving DecidableEq, Repr

/-- What happens to a payment: its row becomes `COMPLETED`, a billing period is set for it, the
referral credit is triggered for it. -/
inductive Deed where
  | completed | advanced | credited
  deriving DecidableEq, Repr

/-! ## Calls -/

/-- Where a `handleIPN` call stands, after the event has been put on file. -/
inductive IpnAt where
  | verify | markUnderpaid | settle | credit | unmark
  deriving DecidableEq, Repr

/-- Where a `handleWebhook` call stands, after the event has been put on file. -/
inductive StripeAt where
  | settle | unmark
  deriving DecidableEq, Repr

/-- A call and its next statement. -/
inductive Call where
  | ipn (ipn : Ipn) (faults : IpnQuery → Bool) (pc : IpnAt)
  | stripe (w : Webhook) (eventId : String) (req : StripeSettlement) (pc : StripeAt)
  | done

/-- The payment that a call is about. -/
def Call.key : Call → Option PaymentKey
  | .ipn body _ _ => some (.nowpayments body.gatewayPaymentRef)
  | .stripe _ _ req _ => some (.stripe req.paymentId)
  | .done => none

/-- The call has committed the settlement of the payment and triggers the credit next. -/
def Call.credits (k : PaymentKey) : Call → Bool
  | .ipn body _ .credit => k == .nowpayments body.gatewayPaymentRef
  | _ => false

/-- The configuration of NOWPayments, and how the database reads a text as an id. -/
structure Gateways where
  cfg : Config
  uuid : String → Option Id

/-- What a statement does: the tables after it, what happened to the payment, and where the call
stands. -/
structure Result where
  store : Store
  deeds : List Deed := []
  call : Call

/-- What a settlement has done. -/
def Outcome.deeds (out : Outcome) : List Deed :=
  (if out.completed then [.completed] else []) ++ if out.advanced.isSome then [.advanced] else []

section
variable (gw : Gateways) (now : Time) (s : Store)

/-- A statement of `handleIPN`. -/
def execIpn (ipn : Ipn) (faults : IpnQuery → Bool) : IpnAt → Result
  | .verify =>
    if faults .loadPayment then { store := s, call := .done }
    else
      match verify gw.cfg ipn s.db with
      | .error _ => { store := s, call := .done }
      | .ok .underpaid => { store := s, call := .ipn ipn faults .markUnderpaid }
      | .ok .amountUnverified => { store := s, call := .done }
      | .ok .proceed =>
        { store := s, call := if faults .connect then .done else .ipn ipn faults .settle }
  | .markUnderpaid =>
    if faults .markUnderpaid then { store := s, call := .done }
    else { store := { s with db := s.db.markUnderpaid ipn.gatewayPaymentRef }, call := .done }
  | .settle =>
    match settleIpn gw.cfg ipn.gatewayPaymentRef faults now s with
    | .error _ => { store := s, call := .ipn ipn faults .unmark }
    | .ok (out, s') =>
      { store := s'
        deeds := Outcome.deeds out
        call := if out.after.commissionFor.isSome then .ipn ipn faults .credit else .done }
  | .credit => { store := s, deeds := [.credited], call := .done }
  | .unmark =>
    if faults .unmarkEvent then { store := s, call := .done }
    else { store := { s with db := s.db.unmarkEvent ipn.providerEventId }, call := .done }

/-- A statement of `handleWebhook`. -/
def execStripe (w : Webhook) (eventId : String) (req : StripeSettlement) : StripeAt → Result
  | .settle =>
    match s.settleStripe gw.uuid w req now with
    | (.error _, s') => { store := s', call := .stripe w eventId req .unmark }
    | (.ok out, s') => { store := s', deeds := Outcome.deeds out, call := .done }
  | .unmark =>
    if w.faults .unmarkEvent then { store := s, call := .done }
    else { store := s.unmarkStripeEvent eventId, call := .done }

/-- What a call does. -/
def exec : Call → Result
  | .ipn ipn faults pc => execIpn gw now s ipn faults pc
  | .stripe w eventId req pc => execStripe gw now s w eventId req pc
  | .done => { store := s, call := .done }

end

/-! ## The system -/

/-- The tables, and the calls that were delivered. -/
structure State where
  store : Store
  calls : List Call := []
  log : List (PaymentKey × Deed) := []

/-- A delivery of either provider; a statement of a call; a call that is lost with its process. -/
inductive Input where
  | notify (d : Delivery)
  | webhook (w : Webhook)
  | exec (n : ℕ) (now : Time)
  | crash (n : ℕ)

/-- `handleIPN` up to the event; a duplicate, or a delivery not accepted, goes no further. -/
def State.notify (d : Delivery) (s : State) : State :=
  match d.accepted with
  | .error _ => s
  | .ok ipn =>
    if d.faults .insertEvent then s
    else if ipn.providerEventId ∈ s.store.db.events then s
    else
      { s with
        store := { s.store with db := s.store.db.fileEvent ipn.providerEventId }
        calls := s.calls ++
          [if ipn.paymentStatus ∈ settledStatuses then .ipn ipn d.faults .verify else .done] }

/-- `handleWebhook` up to the event. -/
def State.webhook (w : Webhook) (s : State) : State :=
  match w.accepted with
  | .error _ => s
  | .ok e =>
    if w.faults .insertEvent then s
    else if e.providerEventId w.timestamp ∈ s.store.stripeEvents then s
    else
      { s with
        store := s.store.fileStripeEvent (e.providerEventId w.timestamp)
        calls := s.calls ++
          [match e.settlement w.timestamp with
            | none => .done
            | some req => .stripe w (e.providerEventId w.timestamp) req .settle] }

/-- The log entries of a statement. -/
def Call.entries (c : Call) (deeds : List Deed) : List (PaymentKey × Deed) :=
  match c.key with
  | none => []
  | some k => deeds.map fun d => (k, d)

/-- The state after one more input. -/
def step (gw : Gateways) (s : State) : Input → State
  | .notify d => s.notify d
  | .webhook w => s.webhook w
  | .exec n now =>
    match s.calls[n]? with
    | none => s
    | some c =>
      { store := (exec gw now s.store c).store
        calls := s.calls.set n (exec gw now s.store c).call
        log := s.log ++ c.entries (exec gw now s.store c).deeds }
  | .crash n => { s with calls := s.calls.set n .done }

/-! ## Exactly once -/

/-- The row of the payment is `COMPLETED`. -/
def isCompleted (s : Store) : PaymentKey → Bool
  | .nowpayments ref => (s.db.paymentOf ref).any (·.status == .completed)
  | .stripe id => (s.stripePayment id).any (·.status == .completed)

/-- How often it has happened to the payment. -/
def State.count (k : PaymentKey) (d : Deed) (s : State) : ℕ := s.log.count (k, d)

/-- The calls that are about to trigger the credit for the payment. -/
def State.due (k : PaymentKey) (s : State) : ℕ := s.calls.countP (·.credits k)

/-- The payment is completed once at most, one period is set for it at most, and the credit is
triggered once at most: exactly once when it is completed and no call is about to do so. -/
structure ExactlyOnce (k : PaymentKey) (s : State) : Prop where
  completed_le : s.count k .completed ≤ 1
  advanced_le : s.count k .advanced ≤ 1
  credited_le : s.count k .credited ≤ 1
  credited : isCompleted s.store k = true → s.due k = 0 → s.count k .credited = 1

/-- What exactly once says, deed by deed. -/
theorem exactlyOnce_iff (k : PaymentKey) (s : State) :
    ExactlyOnce k s ↔ s.count k .completed ≤ 1 ∧ s.count k .advanced ≤ 1 ∧
      s.count k .credited ≤ 1 ∧
      (isCompleted s.store k = true → s.due k = 0 → s.count k .credited = 1) :=
  ⟨fun h => ⟨h.1, h.2, h.3, h.4⟩, fun h => ⟨h.1, h.2.1, h.2.2.1, h.2.2.2⟩⟩

instance (k : PaymentKey) (s : State) : Decidable (ExactlyOnce k s) :=
  decidable_of_iff _ (exactlyOnce_iff k s).symm

end PredictATrade.Billing.Notifications
