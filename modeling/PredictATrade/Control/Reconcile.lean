import PredictATrade.Control.Refinement

/-!
# `Control.Reconcile` — wallets against the ledger

An `affiliate_wallets` bucket should be the sum of the recipient's ledger rows whose status maps to
it. Crediting a commission writes the ledger row and nothing else: no wallet is created and no
pending balance is raised. So the two tables part company with the first row that is ever credited,
and the first clearing of it takes the pending balance below zero.

`reconciled_throughout_iff`: from empty tables, the runs that stay reconciled are exactly those in
which no credit inserts a row.
-/

namespace PredictATrade.Control
open Lib.Table Lib.Runs Lib.Attempt

/-! ## Reconciliation -/

/-- The statuses that have a bucket of their own. -/
def trackedStatuses : List CommissionStatus :=
  [.pending, .cleared, .available, .paid, .fraudHold]

/-- What is left of a row's amount after its partial reversals, which are recorded as negative. -/
def outstanding (db : Db) (r : CommissionRow) : ℚ :=
  r.commissionAmount + ((db.adjustments.filter fun a => a.originalCommissionId == r.id &&
    a.adjustmentType == .partialReversal).map (·.amount)).sum

/-- The sum of a user's rows with a status. -/
def ledgerBalance (db : Db) (user : UserId) (currency : Currency) (s : CommissionStatus) : ℚ :=
  ((db.ledger.filter fun r => r.recipientUserId == user && r.currency == currency &&
    r.status == s).map (outstanding db)).sum

/-- A bucket of a user's wallet; a wallet that was never created is empty. -/
def walletBalance (db : Db) (user : UserId) (currency : Currency) (b : Bucket) : ℚ :=
  ((db.wallets.find? (·.belongsTo user currency)).map (·.balance b)).getD 0

/-- Every bucket is the sum of its rows, and none is negative. -/
def Reconciled (db : Db) : Prop :=
  ∀ user currency, ∀ s ∈ trackedStatuses,
    walletBalance db user currency (bucketForStatus s) = ledgerBalance db user currency s ∧
      0 ≤ walletBalance db user currency (bucketForStatus s)

/-- The call is not a credit that inserts a row. -/
def CreditsNothing (db : Db) (event : Time × Call) : Prop :=
  ∀ c, event.2 = .creditReferral c → ∀ e, ¬ Inserts event.1 c db e

/-! ## Empty tables -/

variable {db : Db} {now : Time}

theorem Opening.reconciled (h : Opening db) : Reconciled db := by
  obtain ⟨hl, -, hw, -, -⟩ := h
  intro user currency s _
  simp [walletBalance, ledgerBalance, hl, hw]

theorem Opening.commission (h : Opening db) (id : Id) : db.commission id = none := by
  unfold Db.commission
  rw [h.1]; rfl

theorem Opening.updatePayout (h : Opening db) (id : Id) (from_ : List PayoutStatus)
    (f : Payout → Payout) (refusal : String) :
    advancePayout id from_ f refusal db = .error (.badRequest refusal) := by
  simp only [advancePayout, Db.updatePayout, h.2.2.2.1, List.filter_nil, List.map_nil]

/-- A transaction whose body fails on empty tables leaves them empty. -/
theorem Opening.transaction {ε α : Type} {body : Db → Except ε (α × Db)} {e : ε} (h : Opening db)
    (hb : body db = .error e) : Opening (transaction body db).2 := by
  rw [transaction_of_error hb]; exact h

theorem Opening.closePayout (h : Opening db) (id : Id) (close : Payout → Payout)
    (refusal : String) : Opening (closePayout now id close refusal db).2 := by
  have hfree : db.freeReserved now id = .ok db := by
    have hled : ({ db with ledger := [] } : Db) = db := by rw [← h.1]
    simp only [Db.freeReserved, Db.updateLedger, h.1, List.any_nil, Bool.and_false,
      Bool.false_eq_true, if_false, updateWhere_nil, hled]
  simp only [PredictATrade.Control.closePayout, hfree]
  exact h.transaction (h.updatePayout id closableStatuses close refusal)

theorem Opening.clearPhase (h : Opening db) (due : CommissionRow → Bool)
    (advance : CommissionRow → CommissionRow) (src dest : Bucket) :
    clearPhase due advance src dest db = .ok (0, db) := by
  simp only [PredictATrade.Control.clearPhase, h.1, List.filter_nil, List.isEmpty_nil, if_true]

/-- A request on empty tables fails: there is no wallet. -/
theorem Opening.requestTx (h : Opening db) (now : Time) (userId : UserId) (dto : PayoutRequest) :
    ∃ e, requestTx now userId dto db = .error e := by
  have hnone : existingPayout userId dto db = none := by
    unfold existingPayout
    cases dto.idempotencyKey with
    | none => rfl
    | some key => simp [h.2.2.2.1]
  cases hv : validateRequest dto with
  | error e => exact ⟨e, by simp only [PredictATrade.Control.requestTx, hv, error_bind]⟩
  | ok amount =>
      refine ⟨.badRequest s!"no {dto.currencyCode} wallet for user", ?_⟩
      simp only [PredictATrade.Control.requestTx, hv, ok_bind, hnone, h.2.2.1, List.find?_nil]

/-- **Only a credit fills empty tables.** -/
theorem opening_step {event : Time × Call} (h : Opening db) (hc : CreditsNothing db event) :
    Opening (step db event) := by
  obtain ⟨now, call⟩ := event
  cases call with
  | creditReferral c =>
      obtain ⟨events, he⟩ := creditReferral_of_not_inserts (hc c rfl)
      show Opening (creditReferral now c db).2
      rw [he]; exact h
  | transitionCommission id target actorId reason =>
      refine h.transaction (e := .notFound "Commission not found") ?_
      simp only [transitionLedgerAndWallet, h.commission id]
  | reverseCommission id reason actorId amount =>
      refine h.transaction (e := .notFound "Commission not found") ?_
      simp only [reverseTx, h.commission id]
  | adjustCommission id amount reason actorId =>
      cases amount with
      | none => exact h
      | some delta =>
          refine h.transaction (e := .notFound "Commission not found") ?_
          simp only [adjustTx, h.commission id]
  | clearEligible =>
      have hclear : clearTx now db = .ok ((0, 0), db) := by
        simp only [clearTx, h.clearPhase, ok_bind]
      show Opening (transaction (clearTx now) db).2
      rw [transaction_of_ok hclear]; exact h
  | requestPayout userId dto =>
      obtain ⟨e, he⟩ := h.requestTx now userId dto
      exact h.transaction he
  | approvePayout id approverId =>
      have hitems : itemTotal id db = none := by
        simp only [itemTotal, h.2.2.2.2, List.filter_nil, List.isEmpty_nil, if_true]
      refine h.transaction (e := .badRequest "Payout not found or not pending") ?_
      simp only [approveTx, hitems, Option.elim, sql, ok_bind, h.updatePayout]
  | rejectPayout id reason => exact h.closePayout id _ _
  | cancelPayout id reason => exact h.closePayout id _ _
  | processPayout id => exact h.transaction (h.updatePayout id _ _ _)
  | retryPayout id => exact h.transaction (h.updatePayout id _ _ _)
  | reconcilePayout id payload =>
      refine h.transaction (e := .badRequest "Payout not found") ?_
      simp only [reconcileTx, h.2.2.2.1, List.find?_nil]

/-! ## The first credit -/

/-- **The first credit parts the tables.** Its row is pending and positive, and no wallet knows it. -/
theorem not_reconciled_of_inserts {c : CreditCall} {e : CommissionEntry} (h : Opening db)
    (hins : Inserts now c db e) : ¬ Reconciled (creditReferral now c db).2 := by
  intro hrec
  obtain ⟨events, he⟩ := creditReferral_of_inserts hins
  obtain ⟨hl, ha, hw, -, -⟩ := h
  have hmem : e ∈ referralEntries now c db := by rw [hins.1]; simp
  have hamt : (insertedRow now c db e).commissionAmount = e.commissionAmount :=
    storedRow_amount hmem db
  have hpos : 0 < e.commissionAmount := by
    obtain ⟨eng, hcalc⟩ := referralEntries_mem hmem
    exact (CommissionEngine.calculate_amount hcalc).1
  have hpending := (hrec e.recipientUserId e.currency .pending (by decide)).1
  rw [he] at hpending
  have hwallet : walletBalance { db with
      ledger := db.ledger ++ [insertedRow now c db e], nextId := db.nextId + 1, events := events }
      e.recipientUserId e.currency (bucketForStatus .pending) = 0 := by
    simp [walletBalance, hw]
  have hledger : ledgerBalance { db with
      ledger := db.ledger ++ [insertedRow now c db e], nextId := db.nextId + 1, events := events }
      e.recipientUserId e.currency .pending = e.commissionAmount := by
    have hrow : ((insertedRow now c db e).recipientUserId == e.recipientUserId &&
        (insertedRow now c db e).currency == e.currency &&
        (insertedRow now c db e).status == .pending) = true := by
      simp [insertedRow, storedRow, creditRow]
    simp [ledgerBalance, outstanding, hl, ha, hrow, hamt]
  rw [hwallet, hledger] at hpending
  exact absurd hpending hpos.ne

/-- **When wallets reconcile with the ledger.** From empty tables, whatever the referral programme:
every state a run reaches is reconciled exactly when no credit of the run inserts a row. -/
theorem reconciled_throughout_iff (db : Db) (h0 : Opening db) (calls : List (Time × Call)) :
    Throughout step Reconciled db calls ↔ Along step CreditsNothing db calls := by
  refine throughout_iff_along (J := Opening) (fun _ h => h.reconciled)
    (fun _ _ h hc => opening_step h hc) ?_ h0
  rintro s ⟨now, call⟩ h hc
  simp only [CreditsNothing, not_forall, not_not] at hc
  obtain ⟨c, rfl, e, he⟩ := hc
  exact not_reconciled_of_inserts h he

/-- A purchase by user 11, whom nobody referred. -/
def unreferred : CreditCall := ⟨11, 7, .revenue 57, 57, 1000, "USD"⟩

/-- A run that clears and credits nothing stays reconciled. -/
theorem reconciled_without_credit :
    Throughout step Reconciled programme
      [(days 1, .clearEligible), (days 2, .creditReferral unreferred)] :=
  (reconciled_throughout_iff programme ⟨rfl, rfl, rfl, rfl, rfl⟩ _).mpr (by
    refine ⟨?_, ?_, trivial⟩
    · intro c hc; cases hc
    · intro c hc e hins
      cases hc
      have hnil : referralEntries (days 2) unreferred
          (step programme (days 1, .clearEligible)) = [] := by decide +kernel
      rw [hins.1] at hnil
      cases hnil)

/-- One commission, credited and cleared. -/
def creditAndClear : List (Time × Call) := [(days 0, thousandDollars 55), (days 15, .clearEligible)]

/-- **A pending balance below zero.** After the run the wallet shows −100 USD pending and 100
cleared: it was not reconciled throughout. -/
theorem creditAndClear_not_reconciled :
    walletBalance (run step programme creditAndClear) 1 "USD" .pendingBalance = -100 ∧
      walletBalance (run step programme creditAndClear) 1 "USD" .clearedBalance = 100 ∧
      ¬ Throughout step Reconciled programme creditAndClear := by
  have hpending :
      walletBalance (run step programme creditAndClear) 1 "USD" .pendingBalance = -100 := by
    decide +kernel
  refine ⟨hpending, by decide +kernel, fun h => ?_⟩
  have hneg := (h _ List.prefix_rfl 1 "USD" .pending (by decide)).2
  rw [show bucketForStatus .pending = .pendingBalance from rfl, hpending] at hneg
  norm_num at hneg

end PredictATrade.Control
