import PredictATrade.Control.Credit
import PredictATrade.Control.Payouts

/-!
# `Control.System` — the commission and payout services as one system

A call to either service, made at some time, takes the tables to the tables it leaves behind. Calls
are taken one after the other: a service method holds the rows it works on in a transaction, or is
one statement. `rejectPayout` and `cancelPayout` are neither, two statements each committed on its
own; what the first leaves behind when the second refuses is the outcome of the call, and no other
call is taken between the two.
-/

namespace PredictATrade.Control

/-- A call to one of the services. -/
inductive Call where
  | creditReferral (c : CreditCall)
  | transitionCommission (id : Id) (target : CommissionStatus) (actorId : UserId)
      (reason : Option String)
  | reverseCommission (id : Id) (reason : String) (actorId : UserId) (amount : Option ℚ)
  | adjustCommission (id : Id) (amount : Option ℚ) (reason : String) (actorId : UserId)
  | clearEligible
  | requestPayout (userId : UserId) (dto : PayoutRequest)
  | approvePayout (id : Id) (approverId : Option UserId)
  | rejectPayout (id : Id) (reason : String)
  | cancelPayout (id : Id) (reason : String)
  | processPayout (id : Id)
  | retryPayout (id : Id)
  | reconcilePayout (id : Id) (payload : ReconcilePayload)

/-- The tables after a call made at `now`. -/
def exec (now : Time) : Call → Db → Db
  | .creditReferral c, db => (creditReferral now c db).2
  | .transitionCommission id target actorId reason, db =>
      (transitionCommission now id target actorId reason db).2
  | .reverseCommission id reason actorId amount, db =>
      (reverseCommission now id reason actorId amount db).2
  | .adjustCommission id amount reason actorId, db =>
      (adjustCommission now id amount reason actorId db).2
  | .clearEligible, db => (clearEligible now db).2
  | .requestPayout userId dto, db => (requestPayout now userId dto db).2
  | .approvePayout id approverId, db => (approvePayout now id approverId db).2
  | .rejectPayout id reason, db => (rejectPayout now id reason db).2
  | .cancelPayout id reason, db => (cancelPayout now id reason db).2
  | .processPayout id, db => (processPayout now id db).2
  | .retryPayout id, db => (retryPayout id db).2
  | .reconcilePayout id payload, db => (reconcilePayout now id payload db).2

/-- One step of the system: a call and the time it is made at. -/
def step (db : Db) (event : Time × Call) : Db := exec event.1 event.2 db

/-- The payout a call rejects or cancels. -/
def Call.closes : Call → Option Id
  | .rejectPayout id _ => some id
  | .cancelPayout id _ => some id
  | _ => none

/-- No commission, wallet or payout yet; the referral programme is whatever it is. -/
def Opening (db : Db) : Prop :=
  db.ledger = [] ∧ db.adjustments = [] ∧ db.wallets = [] ∧ db.payouts = [] ∧ db.payoutItems = []

/-! ## A small programme, for the runs below -/

/-- A referral programme with one level: user 1 sponsors user 10, and earns a tenth. -/
def programme : Db :=
  { relationships := [⟨10, 1, 1⟩]
    plans := [⟨7, "PRO"⟩]
    commissionRules := [⟨100, 7, 1, 1 / 10, 0, none, true⟩]
    purchaseRules := [⟨200, .firstPurchase, 1, 5, 0, none, true⟩] }

/-- Payment `ref`, of 1000 USD, by user 10. -/
def thousandDollars (ref : Id) : Call :=
  .creditReferral ⟨10, 7, .revenue ref, ref, 1000, "USD"⟩

end PredictATrade.Control
