import Mathlib.Logic.Function.Basic
import PredictATrade.Lib.Calendar
import PredictATrade.Billing.Nowpayments

/-!
# `Billing.Stripe` — settlement of card payments, and the period that a settlement buys

`handleWebhook` puts an event of Stripe on file and, when it is one of `paidEvents`, lets `settle`
insert the payment, pay the invoice and activate the subscription in one transaction. Both providers
set the subscription's billing period when they settle; `Store` adds the columns of the period, the
payments of Stripe and the events of Stripe to the tables of `Nowpayments`.
-/

namespace PredictATrade.Billing
open Lib.Table Lib.Attempt Lib.Calendar

/-- Times are in milliseconds. -/
abbrev Time := ℤ

/-! ## Tables -/

/-- `billing_period_start` and `billing_period_end`. -/
structure Period where
  start : Time
  finish : Time
  deriving DecidableEq, Repr

/-- `now() + interval '1 year'`, or `'1 month'`. -/
def BillingInterval.after (now : Time) : BillingInterval → Time
  | .annual => plusMonths 12 now
  | .monthly => plusMonths 1 now

/-- The tables of billing. `db` has the payments and the events of NOWPayments, and what both
providers share; `periods` is the period of a subscription, by its id. -/
structure Store where
  db : Db := {}
  stripePayments : List Payment := []
  stripeEvents : List String := []
  periods : Id → Period := fun _ => ⟨0, 0⟩

/-- What a committed settlement did: did the row of the payment become `COMPLETED`, and which
subscription got a new period. -/
structure Outcome where
  completed : Bool := false
  advanced : Option Id := none
  after : AfterCommit := {}
  deriving DecidableEq, Repr

namespace Store

/-- The row of a Stripe payment. -/
def stripePayment (id : String) (s : Store) : Option Payment :=
  s.stripePayments.find? fun p => p.providerPaymentId == some id

/-- `UPDATE billing.subscriptions SET billing_period_start = now(), billing_period_end = …`. -/
def setPeriod (id : Id) (now : Time) (s : Store) : Store :=
  match s.db.subscription id with
  | none => s
  | some sub =>
    { s with periods := Function.update s.periods id ⟨now, sub.billingInterval.after now⟩ }

end Store

/-! ## Settlement of a NOWPayments payment -/

/-- The payment that the settlement transaction finds, when it is not completed yet. -/
def Store.openPayment (ref : String) (s : Store) : Option Payment :=
  (s.db.paymentOf ref).filter fun p => p.status ≠ .completed

/-- The four updates of a settlement. -/
def Store.settle (p : Payment) (now : Time) (s : Store) : Store :=
  match p.subscriptionId with
  | none => { s with db := s.db.settle p }
  | some id => { s with db := s.db.settle p }.setPeriod id now

/-- The settlement transaction of `handleIPN`, with the period that it sets. -/
def settleIpn (cfg : Config) (ref : String) (faults : IpnQuery → Bool) (now : Time) (s : Store) :
    Except Failure (Outcome × Store) :=
  match settlement cfg ref faults s.db with
  | .error e => .error e
  | .ok (after, _) =>
    match s.openPayment ref with
    | none => .ok ({ after := after }, s)
    | some p =>
      .ok ({ completed := true
             advanced := (p.subscriptionId.bind fun id => s.db.subscription id).map (·.id)
             after := after }, s.settle p now)

/-! ## Events of Stripe -/

/-- The `data.object` of an event, as far as it is read. -/
structure StripeObject where
  id : Option String := none
  paymentIntent : Option String := none
  paymentStatus : Option String := none
  clientReferenceId : Option String := none
  metadataSubscriptionId : Option String := none
  metadataInvoiceId : Option String := none
  deriving DecidableEq, Repr

/-- The body of a webhook; `subscriptionId` is its `data.subscription_id`. -/
structure StripeEvent where
  id : Option String := none
  type : Option String := none
  object : StripeObject := {}
  subscriptionId : Option String := none
  deriving DecidableEq, Repr

/-- The events of a payment that has arrived. -/
def paidEvents : List String :=
  ["checkout.session.completed", "invoice.paid", "payment_intent.succeeded"]

/-- The first of the texts that is neither missing nor empty: `a || b || …`. -/
def firstText (texts : List (Option String)) : Option String :=
  texts.findSome? fun text => text.filter (· ≠ "")

namespace StripeEvent

variable (timestamp : String) (e : StripeEvent)

/-- The type of an event. -/
def eventType : String := e.type.getD ""

/-- The identifier that an event is filed under. -/
def providerEventId : String := e.id.getD (e.eventType ++ ":" ++ timestamp)

/-- The id that identifies the payment. -/
def paymentId : String :=
  (firstText [e.object.paymentIntent, e.object.id, e.subscriptionId]).getD
    (e.providerEventId timestamp)

end StripeEvent

/-- The arguments of `settle`. -/
structure StripeSettlement where
  subscriptionId : String
  invoiceId : Option String
  paymentId : String
  deriving DecidableEq, Repr

/-- What an event asks `settle` for. A checkout session is a charge only when it is paid. -/
def StripeEvent.settlement (timestamp : String) (e : StripeEvent) : Option StripeSettlement :=
  if e.eventType = "checkout.session.completed" ∧ e.object.paymentStatus ≠ some "paid" then none
  else if e.eventType ∈ paidEvents then
    (firstText [e.object.clientReferenceId, e.object.metadataSubscriptionId, e.subscriptionId]).map
      fun subscriptionId =>
        { subscriptionId := subscriptionId
          invoiceId := firstText [e.object.metadataInvoiceId]
          paymentId := e.paymentId timestamp }
  else none

/-- The statements of `handleWebhook` and of `settle`, in the order they come. -/
inductive StripeQuery where
  | insertEvent | connect | beginSettlement | lockSubscription | insertPayment | payInvoice
  | activateSubscription | insertActivation | commit | unmarkEvent
  deriving DecidableEq, Repr

/-- The statements of `settle`. -/
def stripeSettlementQueries : List StripeQuery :=
  [.connect, .beginSettlement, .lockSubscription, .insertPayment, .payInvoice,
    .activateSubscription, .insertActivation, .commit]

/-- How the check of the `Stripe-Signature` header ends. -/
inductive WebhookSignature where
  | secretMissing | headerMissing | malformed | mismatch | verified
  deriving DecidableEq, Repr

/-- One delivery of an event: the outcome of the signature check and the timestamp of the header,
the parsed body (`none` when it is no JSON), the id drawn for a payment row, the invoice row that
`generateInvoiceForSubscription` found or made (`none` when that throws), and the statements that
fail. -/
structure Webhook where
  signature : WebhookSignature := .verified
  timestamp : String
  body : Option StripeEvent
  newPaymentId : Id
  invoice : Option Invoice := none
  faults : StripeQuery → Bool := fun _ => false

/-- The event that a delivery brings, when it is authentic. -/
def Webhook.accepted (w : Webhook) : Except Failure StripeEvent :=
  match w.signature, w.body with
  | .secretMissing, _ => .error (.unauthorized "webhook_not_configured")
  | .headerMissing, _ | .malformed, _ | .mismatch, _ =>
    .error (.unauthorized "invalid_webhook_signature")
  | .verified, none => .error .json
  | .verified, some e => .ok e

namespace Store

/-- `INSERT INTO billing.payment_events` with `provider = 'stripe'`. -/
def fileStripeEvent (key : String) (s : Store) : Store :=
  { s with stripeEvents := s.stripeEvents ++ [key] }

/-- `DELETE FROM billing.payment_events` with `provider = 'stripe'`. -/
def unmarkStripeEvent (key : String) (s : Store) : Store :=
  { s with stripeEvents := s.stripeEvents.filter (· != key) }

/-! ## Settlement of a Stripe payment -/

/-- The invoice that the payment is for: the one that the event names, or the one of the period.
`generateInvoiceForSubscription` writes over a connection of its own, outside the transaction. -/
def invoiceFor (uuid : String → Option Id) (w : Webhook) (req : StripeSettlement) (s : Store) :
    Except Failure Id × Store :=
  match req.invoiceId with
  | some text =>
    match uuid text with
    | none => (.error .query, s)
    | some id => (.ok id, s)
  | none =>
    match w.invoice with
    | none => (.error .query, s)
    | some i =>
      if s.db.invoices.any (·.id == i.id) then (.ok i.id, s)
      else (.ok i.id, { s with db := { s.db with invoices := s.db.invoices ++ [i] } })

/-- `INSERT INTO billing.payments … 'COMPLETED' … ON CONFLICT (provider, provider_payment_id) DO
NOTHING`, and whether that inserted the row. -/
def insertStripePayment (p : Payment) (s : Store) : Except Failure (Bool × Store) :=
  if (s.stripePayments.any (·.providerPaymentId == p.providerPaymentId)) = true then .ok (false, s)
  else if (s.stripePayments ++ s.db.payments).any (·.id == p.id) then .error .uniqueViolation
  -- the foreign key
  else if !s.db.invoices.any (fun i => p.invoiceId == some i.id) then .error .query
  else .ok (true, { s with stripePayments := s.stripePayments ++ [p] })

/-- The updates of the invoice and of the subscription. -/
def activate (invoiceId subscriptionId : Id) (now : Time) (s : Store) : Store :=
  { s with
    db := { s.db with
      invoices := updateWhere (·.id == invoiceId) (fun i => { i with status := .paid })
        s.db.invoices
      subscriptions := updateWhere (·.id == subscriptionId) (fun r => { r with status := .active })
        s.db.subscriptions } }.setPeriod subscriptionId now

/-- The statements of the transaction that follow the lock. -/
def settleRows (w : Webhook) (req : StripeSettlement) (sub : Subscription) (now : Time)
    (invoiceId : Id) (s : Store) : Except Failure (Outcome × Store) := do
  if w.faults .insertPayment then .error .query
  else
    let (inserted, s) ← s.insertStripePayment
      { id := w.newPaymentId, userId := sub.userId, subscriptionId := some sub.id,
        invoiceId := some invoiceId, providerPaymentId := some req.paymentId, amount := 0,
        status := .completed }
    if w.faults .payInvoice then .error .query
    else if w.faults .activateSubscription then .error .query
    else if w.faults .insertActivation then .error .query
    else if w.faults .commit then .error .query
    else .ok ({ completed := inserted
                advanced := some sub.id
                after := { licenseFor := some sub.id } },
      s.activate invoiceId sub.id now)

/-- `settle`. A subscription that is not on file is left alone, and so is the payment. -/
def settleStripe (uuid : String → Option Id) (w : Webhook) (req : StripeSettlement) (now : Time)
    (s : Store) : Except Failure Outcome × Store :=
  if w.faults .connect then (.error .query, s)
  else if w.faults .beginSettlement then (.error .query, s)
  else if w.faults .lockSubscription then (.error .query, s)
  else
    match uuid req.subscriptionId with
    | none => (.error .query, s)
    | some id =>
      match s.db.subscription id with
      | none => (.ok {}, s)
      | some sub =>
        next (s.invoiceFor uuid w req) fun invoiceId s =>
        transaction (settleRows w req sub now invoiceId) s

end Store

end PredictATrade.Billing
