import Mathlib.Order.WithBot
import PredictATrade.Lib.Decimal
import PredictATrade.Lib.Table
import PredictATrade.Lib.Attempt

/-!
# `Billing.Nowpayments` — checkout and settlement of crypto payments

`createInvoice` opens a payment at the gateway and stores the gateway's invoice id as the payment's
reference; `handleIPN` receives the gateway's notifications and settles the payment they name. The
two write `billing.payments`, `billing.invoices`, `billing.subscriptions` and the deduplication table
`billing.payment_events`. Only the last part of `handleIPN` is a transaction: every statement before
it commits by itself.

Any statement may fail. Which ones fail in a call is an argument of the call (`faults`), and so is
what a call learns from outside the database: the gateway's answer, the ids that are drawn, the
outcome of the signature check.
-/

namespace PredictATrade.Billing
open Lib.Table Lib.Decimal Lib.Attempt

/-- An identifier of a row. -/
abbrev Id := ℕ

/-- A user. -/
abbrev UserId := ℕ

/-! ## Tables -/

/-- What a call throws: a Nest exception with its text, a rejected statement, or a parse error. -/
inductive Failure where
  | serviceUnavailable (text : String)
  | badRequest (text : String)
  | notFound (text : String)
  | unauthorized (text : String)
  | query
  | uniqueViolation
  | json
  | decimal
  deriving DecidableEq, Repr

/-- The intervals a subscription is paid for. -/
inductive BillingInterval where
  | monthly | annual
  deriving DecidableEq, Repr

/-- The columns of `control.plans` that a checkout reads. -/
structure Plan where
  id : Id
  active : Bool
  monthlyPrice : ℚ
  annualPrice : Option ℚ := none
  deriving DecidableEq, Repr

/-- The statuses of a subscription. -/
inductive SubscriptionStatus where
  | incomplete | trial | active | pastDue | grace | suspended | cancelAtPeriodEnd | cancelled | expired
  deriving DecidableEq, Repr

/-- A row of the subscriptions, with its plan. -/
structure Subscription where
  id : Id
  userId : UserId
  planId : Id
  status : SubscriptionStatus
  billingInterval : BillingInterval
  deriving DecidableEq, Repr

/-- The statuses of an invoice. -/
inductive InvoiceStatus where
  | draft | opened | paid | void | uncollectible
  deriving DecidableEq, Repr

/-- A row of the invoices. -/
structure Invoice where
  id : Id
  subscriptionId : Id
  total : ℚ
  status : InvoiceStatus := .opened
  providerInvoiceId : Option String := none
  providerHostedUrl : Option String := none
  deriving DecidableEq, Repr

/-- The statuses of a payment. -/
inductive PaymentStatus where
  | pending | completed | underpaid | succeeded | failed | refunded | partiallyRefunded | chargedBack
  deriving DecidableEq, Repr

/-- A row of `billing.payments` with `provider = 'nowpayments'`. -/
structure Payment where
  id : Id
  userId : UserId
  subscriptionId : Option Id
  invoiceId : Option Id
  providerPaymentId : Option String
  amount : ℚ
  currency : String := "USD"
  status : PaymentStatus := .pending
  deriving DecidableEq, Repr

/-- The tables. `events` holds the keys `provider_event_id` of the notifications on file. -/
structure Db where
  plans : List Plan := []
  subscriptions : List Subscription := []
  invoices : List Invoice := []
  payments : List Payment := []
  events : List String := []
  deriving DecidableEq, Repr

namespace Db

/-- `SELECT … FROM billing.payments WHERE provider_payment_id = $1`. -/
def paymentOf (ref : String) (db : Db) : Option Payment :=
  db.payments.find? fun p => p.providerPaymentId == some ref

/-- The subscription with this identifier. -/
def subscription (id : Id) (db : Db) : Option Subscription :=
  db.subscriptions.find? fun s => s.id == id

/-- The `invoice_total` of the join with `billing.invoices`. -/
def invoiceTotal (p : Payment) (db : Db) : Option ℚ :=
  (db.invoices.find? fun i => p.invoiceId == some i.id).map (·.total)

end Db

/-! ## Configuration -/

/-- The environment of the process. `rowLockAccepted` says whether the database takes the settlement
query, which asks for `FOR UPDATE` over a `LEFT JOIN` (PostgreSQL refuses to lock the nullable side
of an outer join). -/
structure Config where
  apiKeyConfigured : Bool := true
  underpayTolerancePct : ℚ := 2
  requireAmountStrict : Bool := false
  rowLockAccepted : Bool

/-! ## Checkout -/

/-- What `POST /invoice` comes back with. A field of the payload that is missing or falsy is the
empty text. -/
inductive GatewayAnswer where
  | unreachable
  | httpError
  | payload (id : String) (invoiceUrl : String)
  deriving DecidableEq, Repr

/-- What `createInvoice` makes of the answer. -/
def GatewayAnswer.read : GatewayAnswer → Except Failure (String × String)
  | .unreachable => .error (.serviceUnavailable "payment_gateway_unreachable")
  | .httpError => .error (.serviceUnavailable "payment_gateway_error")
  | .payload id invoiceUrl =>
    if id = "" ∨ invoiceUrl = "" then .error (.serviceUnavailable "payment_gateway_error")
    else .ok (id, invoiceUrl)

/-- The statements of `createInvoice`. -/
inductive CheckoutQuery where
  | loadPlan | findSubscription | insertSubscription | insertPayment | updateInvoice
  deriving DecidableEq, Repr

/-- One call of `createInvoice`: its arguments, the ids it draws, the invoice row that
`generateInvoiceForSubscription` found or made (`none` when that throws), the gateway's answer, and
the statements that fail. -/
structure Checkout where
  userId : UserId
  planId : Id
  billingInterval : String := "MONTHLY"
  newSubscriptionId : Id
  invoice : Option Invoice
  gateway : GatewayAnswer
  newPaymentId : Id
  faults : CheckoutQuery → Bool := fun _ => false

/-- A statement either fails or gives its result. -/
def query {α : Type} (fault : Bool) (result : Except Failure α) : Except Failure α :=
  if fault then .error .query else result

/-- The interval that a request names. -/
def readInterval (text : String) : Except Failure BillingInterval :=
  let interval := (if text = "" then "MONTHLY" else text).toUpper
  if interval = "MONTHLY" then .ok .monthly
  else if interval = "ANNUAL" then .ok .annual
  else .error (.badRequest "billing_interval must be MONTHLY or ANNUAL")

/-- The price of an active plan for the interval; it has to be positive. -/
def readPrice (plan : Option Plan) (interval : BillingInterval) : Except Failure ℚ :=
  match plan with
  | none => .error (.notFound "Active plan not found")
  | some p =>
    match interval, p.annualPrice with
    | .annual, none => .error (.badRequest "Annual billing is not available for this plan")
    | .annual, some price => positive price
    | .monthly, _ => positive p.monthlyPrice
where
  positive (price : ℚ) : Except Failure ℚ :=
    if price ≤ 0 then .error (.badRequest "Plan does not require payment") else .ok price

/-- Everything `createInvoice` checks before it writes. -/
def checkRequest (cfg : Config) (c : Checkout) (db : Db) : Except Failure (BillingInterval × ℚ) := do
  if cfg.apiKeyConfigured = false then
    .error (.serviceUnavailable "payment_gateway_not_configured")
  else
    let interval ← readInterval c.billingInterval
    let plan ← query (c.faults .loadPlan) (.ok (db.plans.find? fun p => p.id == c.planId && p.active))
    let price ← readPrice plan interval
    .ok (interval, price)

/-- The latest `INCOMPLETE` subscription of the user for the plan and interval, or a new one. -/
def ensureSubscription (c : Checkout) (interval : BillingInterval) (db : Db) :
    Except Failure Id × Db :=
  let pending := db.subscriptions.reverse.find? fun s =>
    s.userId == c.userId && s.planId == c.planId && s.billingInterval == interval &&
      s.status == .incomplete
  if c.faults .findSubscription then (.error .query, db)
  else
    match pending with
    | some s => (.ok s.id, db)
    | none =>
      if c.faults .insertSubscription then (.error .query, db)
      else if (db.subscription c.newSubscriptionId).isSome then (.error .uniqueViolation, db)
      else (.ok c.newSubscriptionId,
        { db with subscriptions := db.subscriptions ++
            [⟨c.newSubscriptionId, c.userId, c.planId, .incomplete, interval⟩] })

/-- `generateInvoiceForSubscription`: the invoice of the period is there afterwards. -/
def ensureInvoice (c : Checkout) (db : Db) : Except Failure Id × Db :=
  match c.invoice with
  | none => (.error .query, db)
  | some i =>
    if db.invoices.any (·.id == i.id) then (.ok i.id, db)
    else (.ok i.id, { db with invoices := db.invoices ++ [i] })

/-- `INSERT INTO billing.payments … ON CONFLICT (provider, provider_payment_id) DO NOTHING`. -/
def insertPayment (p : Payment) (db : Db) : Except Failure Unit × Db :=
  if db.payments.any (·.providerPaymentId == p.providerPaymentId) then (.ok (), db)
  else if db.payments.any (·.id == p.id) then (.error .uniqueViolation, db)
  else (.ok (), { db with payments := db.payments ++ [p] })

/-- The two statements that follow the gateway's answer. -/
def recordInvoice (c : Checkout) (subscriptionId invoiceId : Id) (price : ℚ) (ref url : String)
    (db : Db) : Except Failure (String × Id) × Db :=
  if c.faults .insertPayment then (.error .query, db)
  else
    next (insertPayment
      { id := c.newPaymentId, userId := c.userId, subscriptionId := some subscriptionId,
        invoiceId := some invoiceId, providerPaymentId := some ref, amount := price } db) fun _ db =>
    if c.faults .updateInvoice then (.error .query, db)
    else (.ok (url, invoiceId), { db with
      invoices := updateWhere (·.id == invoiceId)
        (fun i => { i with providerInvoiceId := some ref, providerHostedUrl := some url }) db.invoices })

/-- Open a payment: the answer is its URL and the invoice it is for. -/
def createInvoice (cfg : Config) (c : Checkout) (db : Db) : Except Failure (String × Id) × Db :=
  next (checkRequest cfg c db, db) fun (interval, price) db =>
  next (ensureSubscription c interval db) fun subscriptionId db =>
  next (ensureInvoice c db) fun invoiceId db =>
  next (c.gateway.read, db) fun (ref, url) db =>
  recordInvoice c subscriptionId invoiceId price ref url db

/-! ## Notifications -/

/-- A paid amount as the body carries it: missing, a number (or a string that reads as one),
infinity, not-a-number or a negative infinity, or a value that `new Decimal` refuses. -/
inductive Amount where
  | absent | number (q : ℚ) | infinity | nan | malformed
  deriving DecidableEq, Repr

/-- The body of a notification. -/
structure Ipn where
  paymentId : Option String := none
  invoiceId : Option String := none
  paymentStatus : String
  actuallyPaid : Amount := .absent
  pricePaid : Amount := .absent
  payAmount : Amount := .absent
  actuallyPaidInUsd : Amount := .absent
  priceAmountPaid : Amount := .absent
  deriving DecidableEq, Repr

/-- `String(record.payment_id ?? record.invoice_id ?? '')`. -/
def Ipn.gatewayPaymentRef (ipn : Ipn) : String := (ipn.paymentId.orElse fun _ => ipn.invoiceId).getD ""

/-- The key of the event on file: reference and status. -/
def eventKey (ref status : String) : String := ref ++ ":" ++ status

/-- The key that the event of a notification is filed under. -/
def Ipn.providerEventId (ipn : Ipn) : String := eventKey ipn.gatewayPaymentRef ipn.paymentStatus

/-- The statuses of a payment that has arrived. -/
def settledStatuses : List String := ["finished", "confirmed"]

/-- The candidate an amount gives: a positive value, or none. -/
def Amount.candidate : Amount → Except Failure (Option (WithTop ℚ))
  | .absent => .ok none
  | .number q => .ok (if 0 < q then some q else none)
  | .infinity => .ok (some ⊤)
  | .nan => .ok none
  | .malformed => .error .decimal

/-- The amounts of a notification, in the order they are read. -/
def Ipn.amounts (ipn : Ipn) : List Amount :=
  [ipn.actuallyPaid, ipn.pricePaid, ipn.payAmount, ipn.actuallyPaidInUsd, ipn.priceAmountPaid]

/-- The positive amounts of the body, or the failure of the first that does not read. -/
def actualCandidates : List Amount → Except Failure (List (WithTop ℚ))
  | [] => .ok []
  | a :: as => do
    let v ← a.candidate
    let vs ← actualCandidates as
    .ok (v.toList ++ vs)

/-- The largest candidate. -/
def actual (candidates : List (WithTop ℚ)) : WithTop ℚ :=
  candidates.foldl (fun max d => if max < d then d else max) 0

/-- Decimal arithmetic keeps twenty significant digits. -/
def decimal (x : ℚ) : ℚ := roundSig 20 x

/-- The least amount that covers what is expected, within the tolerance. -/
def minOk (cfg : Config) (expected : ℚ) : ℚ :=
  decimal (expected - decimal (decimal (expected * cfg.underpayTolerancePct) / 100))

/-- `actual.plus('1e-9').lt(minOk)`. -/
def fallsShort (cfg : Config) (expected : ℚ) : WithTop ℚ → Bool
  | ⊤ => false
  | (paid : ℚ) => decide (decimal (paid + 1 / 10 ^ 9) < minOk cfg expected)

/-- What the check of the amounts comes to. -/
inductive Verdict where
  | underpaid | amountUnverified | proceed
  deriving DecidableEq, Repr

/-- The amount verification against a payment and the total of its invoice. -/
def precheck (cfg : Config) (p : Payment) (invoiceTotal : Option ℚ) (ipn : Ipn) :
    Except Failure Verdict := do
  let expected := if 0 < p.amount then p.amount else invoiceTotal.getD 0
  let candidates ← actualCandidates ipn.amounts
  if 0 < expected ∧ candidates ≠ [] ∧ fallsShort cfg expected (actual candidates) = true then
    .ok .underpaid
  else if candidates = [] ∧ cfg.requireAmountStrict = true then
    .ok .amountUnverified
  else
    .ok .proceed

/-- The statements of `handleIPN`, in the order they come. -/
inductive IpnQuery where
  | insertEvent | loadPayment | markUnderpaid | auditUnderpaid | connect
  | beginSettlement | lockPayment | completePayment | payInvoice | activateSubscription | auditSettled
  | commit | unmarkEvent
  deriving DecidableEq, Repr

/-- The statements of the settlement transaction. -/
def settlementQueries : List IpnQuery :=
  [.beginSettlement, .lockPayment, .completePayment, .payInvoice, .activateSubscription,
    .auditSettled, .commit]

/-- How the signature check ends. -/
inductive Signature where
  | secretMissing | mismatch | verified
  deriving DecidableEq, Repr

/-- One delivery of a notification: the outcome of the signature check, the parsed body (`none` when
it is no JSON object), and the statements that fail. -/
structure Delivery where
  signature : Signature := .verified
  body : Option Ipn
  faults : IpnQuery → Bool := fun _ => false

/-- The calls to other services that follow a committed settlement. Their failures are logged. -/
structure AfterCommit where
  commissionFor : Option Payment := none
  licenseFor : Option Id := none
  deriving DecidableEq, Repr

/-- The answer to a delivery. -/
inductive Reply where
  | duplicate
  | received (status : String) (after : AfterCommit)
  deriving DecidableEq, Repr

/-- `INSERT INTO billing.payment_events`. -/
def Db.fileEvent (key : String) (db : Db) : Db := { db with events := db.events ++ [key] }

/-- `DELETE FROM billing.payment_events WHERE provider_event_id = $1`. -/
def Db.unmarkEvent (key : String) (db : Db) : Db := { db with events := db.events.filter (· != key) }

/-- `UPDATE billing.payments SET status = 'UNDERPAID' … AND status NOT IN ('COMPLETED','UNDERPAID')`. -/
def Db.markUnderpaid (ref : String) (db : Db) : Db :=
  { db with
    payments := updateWhere
      (fun p => p.providerPaymentId == some ref &&
        !(p.status == .completed || p.status == .underpaid))
      (fun p => { p with status := .underpaid }) db.payments }

/-- The three updates of a settlement: payment, invoice and subscription. -/
def Db.settle (p : Payment) (db : Db) : Db :=
  { db with
    payments := updateWhere (·.id == p.id) (fun q => { q with status := .completed }) db.payments
    invoices := updateWhere (fun i => p.invoiceId == some i.id) (fun i => { i with status := .paid })
      db.invoices
    subscriptions := updateWhere (fun s => p.subscriptionId == some s.id)
      (fun s => { s with status := .active }) db.subscriptions }

/-- The calls that follow the settlement of a payment. -/
def afterCommit (p : Payment) (db : Db) : AfterCommit where
  commissionFor :=
    if p.status ≠ .completed ∧ (p.subscriptionId.bind fun id => db.subscription id).isSome then some p
    else none
  licenseFor := p.subscriptionId

/-- The body of the settlement transaction. A payment that is missing or completed already is left
alone. -/
def settlement (cfg : Config) (ref : String) (faults : IpnQuery → Bool) (db : Db) :
    Except Failure (AfterCommit × Db) :=
  if faults .beginSettlement then .error .query
  else if faults .lockPayment || !cfg.rowLockAccepted then .error .query
  else
    match db.paymentOf ref with
    | none => if faults .commit then .error .query else .ok ({}, db)
    | some p =>
      if p.status = .completed then
        if faults .commit then .error .query else .ok (afterCommit p db, db)
      else if faults .completePayment then .error .query
      else if p.invoiceId.isSome && faults .payInvoice then .error .query
      else if p.subscriptionId.isSome && faults .activateSubscription then .error .query
      else if faults .auditSettled then .error .query
      else if faults .commit then .error .query
      else .ok (afterCommit p db, db.settle p)

/-- The settlement with its compensation: when the transaction fails, the event is taken off the
file again. -/
def settlePayment (cfg : Config) (ipn : Ipn) (faults : IpnQuery → Bool) (db : Db) :
    Except Failure Reply × Db :=
  match transaction (settlement cfg ipn.gatewayPaymentRef faults) db with
  | (.ok after, db') => (.ok (.received ipn.paymentStatus after), db')
  | (.error e, db') =>
    if faults .unmarkEvent then (.error e, db')
    else (.error e, db'.unmarkEvent ipn.providerEventId)

/-- What follows the verdict. -/
def afterVerdict (cfg : Config) (ipn : Ipn) (faults : IpnQuery → Bool) (db : Db) :
    Verdict → Except Failure Reply × Db
  | .underpaid =>
    if faults .markUnderpaid then (.error .query, db)
    else
      let db := db.markUnderpaid ipn.gatewayPaymentRef
      if faults .auditUnderpaid then (.error .query, db) else (.ok (.received "underpaid" {}), db)
  | .amountUnverified => (.ok (.received "amount_unverified" {}), db)
  | .proceed => if faults .connect then (.error .query, db) else settlePayment cfg ipn faults db

/-- The verdict on a notification; a reference that names no payment is not checked. -/
def verify (cfg : Config) (ipn : Ipn) (db : Db) : Except Failure Verdict :=
  match db.paymentOf ipn.gatewayPaymentRef with
  | none => .ok .proceed
  | some p => precheck cfg p (db.invoiceTotal p) ipn

/-- The handling of a notification whose event has just been put on file. -/
def processIPN (cfg : Config) (ipn : Ipn) (faults : IpnQuery → Bool) (db : Db) :
    Except Failure Reply × Db :=
  if ipn.paymentStatus ∉ settledStatuses then (.ok (.received ipn.paymentStatus {}), db)
  else if faults .loadPayment then (.error .query, db)
  else
    match verify cfg ipn db with
    | .error e => (.error e, db)
    | .ok verdict => afterVerdict cfg ipn faults db verdict

/-- Put the event on file, unless it is there already. -/
def receiveIPN (cfg : Config) (ipn : Ipn) (faults : IpnQuery → Bool) (db : Db) :
    Except Failure Reply × Db :=
  if faults .insertEvent then (.error .query, db)
  else if ipn.providerEventId ∈ db.events then (.ok .duplicate, db)
  else processIPN cfg ipn faults (db.fileEvent ipn.providerEventId)

/-- The notification that a delivery brings, when it is authentic and names a reference. -/
def Delivery.accepted (d : Delivery) : Except Failure Ipn :=
  match d.signature, d.body with
  | .secretMissing, _ => .error (.unauthorized "ipn_not_configured")
  | .mismatch, _ => .error (.unauthorized "invalid_ipn_signature")
  | .verified, none => .error .json
  | .verified, some ipn =>
    if ipn.gatewayPaymentRef = "" then .error (.unauthorized "invalid_ipn_signature") else .ok ipn

/-- `handleIPN`. -/
def handleIPN (cfg : Config) (d : Delivery) (db : Db) : Except Failure Reply × Db :=
  match d.accepted with
  | .error e => (.error e, db)
  | .ok ipn => receiveIPN cfg ipn d.faults db

/-! ## The system -/

/-- A request the service takes. -/
inductive Request where
  | checkout (c : Checkout)
  | ipn (d : Delivery)

/-- The tables after a request. -/
def step (cfg : Config) (db : Db) : Request → Db
  | .checkout c => (createInvoice cfg c db).2
  | .ipn d => (handleIPN cfg d db).2

end PredictATrade.Billing
