import PredictATrade.Lib.Table
import PredictATrade.Lib.Decimal
import PredictATrade.Lib.Attempt

/-!
# `Control.Schema` — the referral tables

The rows of the `referral` schema (migrations 004, 010, 024, 079) that the commission and payout
services read and write, the `Db` that holds the tables, and the few statements the services are
made of: an insert into the ledger with its column ranges and unique indexes, an update of the
ledger, an update of a wallet.

UUIDs are natural numbers, drawn from the counter `nextId` where the source calls
`gen_random_uuid()`. A `numeric` value is a rational; what a column can store of it is
`numericColumn`. Foreign keys are not modelled: every id a service writes was read from the table
it refers to. Times are seconds.
-/

namespace PredictATrade.Control
open Lib.Table Lib.Decimal Lib.Attempt

/-- An identifier of a row. -/
abbrev Id := ℕ

/-- A user. -/
abbrev UserId := ℕ

/-- A point in time. -/
abbrev Time := ℤ

/-- A currency code. -/
abbrev Currency := String

/-- `interval 'n days'`. -/
def days (n : ℤ) : Time := n * 86400

/-! ## Failures -/

/-- What Postgres raises: SQLSTATE 23505, 22003, 23514, P0001, and 42601 for an update that assigns
one column twice. -/
inductive PgError where
  | uniqueViolation
  | numericOverflow
  | checkViolation
  | raiseException
  | multipleAssignments
  deriving DecidableEq, Repr

/-! ## Ledger -/

/-- `commission_ledger.status`. -/
inductive CommissionStatus where
  | pending | cleared | reserved | available | paid | cancelled | reversed | chargeback | fraudHold
  deriving DecidableEq, Repr

/-- The types of a purchase. -/
inductive PurchaseType where
  | firstPurchase | secondPurchase | recurringPurchase
  deriving DecidableEq, Repr

/-- The idempotency keys `license:<id>` and `revenue:<ref>`. -/
inductive IdemKey where
  | license (licenseId : Id)
  | revenue (revenueRef : Id)
  deriving DecidableEq, Repr

/-- A row of `referral.commission_ledger`. -/
structure CommissionRow where
  id : Id
  recipientUserId : UserId
  sourceUserId : UserId
  sourceSubscriptionId : Option Id
  purchaseId : Option Id
  invoiceId : Option Id
  planId : Id
  planVersion : ℕ
  purchaseNumber : ℕ
  purchaseType : PurchaseType
  level : ℕ
  baseCommissionRate : ℚ
  purchaseMultiplier : ℚ
  effectiveCommissionRate : ℚ
  commissionableAmount : ℚ
  commissionAmount : ℚ
  currency : Currency
  status : CommissionStatus
  commissionRuleId : Option Id
  purchaseRuleId : Option Id
  idempotencyKey : Option IdemKey
  clearedAt : Option Time
  availableAt : Option Time
  paidAt : Option Time
  reversedAt : Option Time
  reversalReason : Option String
  reversedBy : Option UserId
  createdAt : Time
  updatedAt : Time
  deriving DecidableEq, Repr

/-- The types of an adjustment. -/
inductive AdjustmentType where
  | reversal | partialReversal | manualAdjustment
  deriving DecidableEq, Repr

/-- A row of `referral.commission_adjustments`. -/
structure Adjustment where
  originalCommissionId : Id
  adjustmentType : AdjustmentType
  amount : ℚ
  currency : Currency
  reason : String
  adjustedBy : UserId
  createdAt : Time
  deriving DecidableEq, Repr

/-! ## Wallets -/

/-- The balance columns of `affiliate_wallets`. -/
inductive Bucket where
  | pendingBalance | clearedBalance | availableBalance | paidBalance | reversedBalance
  | onHoldBalance
  deriving DecidableEq, Repr

/-- A row of `referral.referral_wallets`. -/
structure Wallet where
  userId : UserId
  currency : Currency
  pendingBalance : ℚ := 0
  clearedBalance : ℚ := 0
  availableBalance : ℚ := 0
  paidBalance : ℚ := 0
  reversedBalance : ℚ := 0
  onHoldBalance : ℚ := 0
  deriving DecidableEq, Repr

/-- The balance in a bucket. -/
def Wallet.balance (w : Wallet) : Bucket → ℚ
  | .pendingBalance => w.pendingBalance
  | .clearedBalance => w.clearedBalance
  | .availableBalance => w.availableBalance
  | .paidBalance => w.paidBalance
  | .reversedBalance => w.reversedBalance
  | .onHoldBalance => w.onHoldBalance

/-- The wallet with another balance in a bucket. -/
def Wallet.setBalance (w : Wallet) (v : ℚ) : Bucket → Wallet
  | .pendingBalance => { w with pendingBalance := v }
  | .clearedBalance => { w with clearedBalance := v }
  | .availableBalance => { w with availableBalance := v }
  | .paidBalance => { w with paidBalance := v }
  | .reversedBalance => { w with reversedBalance := v }
  | .onHoldBalance => { w with onHoldBalance := v }

/-! ## Payouts -/

/-- `payouts.status`. -/
inductive PayoutStatus where
  | requested | underReview | approved | processing | paid | failed | cancelled | rejected
  deriving DecidableEq, Repr

/-- `dto.method`: the two supported methods, or any other text a client sends. -/
inductive PayoutMethod where
  | bankTransfer | usdt | other (text : String)
  deriving DecidableEq, Repr

/-- A row of `referral.payouts`. -/
structure Payout where
  id : Id
  userId : UserId
  requestedAmount : ℚ
  approvedAmount : ℚ := 0
  currency : Currency
  status : PayoutStatus
  method : PayoutMethod
  destination : String
  details : List (String × String)
  reason : Option String := none
  idempotencyKey : Option String
  providerReference : Option String := none
  feeAmount : ℚ := 0
  netAmount : ℚ := 0
  reviewedAt : Option Time := none
  approvedAt : Option Time := none
  approvedBy : Option UserId := none
  processedAt : Option Time := none
  paidAt : Option Time := none
  cancelledAt : Option Time := none
  deriving DecidableEq, Repr

/-- A row of `referral.payout_items`. -/
structure PayoutItem where
  payoutId : Id
  commissionId : Id
  amount : ℚ
  deriving DecidableEq, Repr

/-! ## Referral programme and audit tables -/

/-- A row of `referral.referral_relationships`. -/
structure Relationship where
  childUserId : UserId
  parentUserId : UserId
  level : ℕ
  deriving DecidableEq, Repr

/-- A row of the plans. -/
structure Plan where
  id : Id
  code : String
  deriving DecidableEq, Repr

/-- A row of the commission rules of a plan. -/
structure CommissionRule where
  id : Id
  planId : Id
  level : ℕ
  baseRate : ℚ
  effectiveFrom : Time
  effectiveUntil : Option Time
  active : Bool
  deriving DecidableEq, Repr

/-- A row of the rules by the type of the purchase. -/
structure PurchaseCommissionRule where
  id : Id
  purchaseType : PurchaseType
  multiplier : ℚ
  maxReferralLevel : ℕ
  effectiveFrom : Time
  effectiveUntil : Option Time
  active : Bool
  deriving DecidableEq, Repr

/-- The types of a referral event. -/
inductive ReferralEventType where
  | freeReferralNoCommission | paidConversion
  deriving DecidableEq, Repr

/-- A row of the referral events. -/
structure ReferralEvent where
  eventType : ReferralEventType
  referredUserId : UserId
  referrerUserId : Option UserId
  paymentId : Id
  planId : Id
  planCode : Option String
  levels : Option ℕ
  createdAt : Time
  deriving DecidableEq, Repr

/-- A row of `finance.ledger_entries`, as `reconcilePayout` writes it. -/
structure FinanceEntry where
  accountUserId : UserId
  amount : ℚ
  currency : Currency
  payoutId : Id
  providerReference : Option String
  deriving DecidableEq, Repr

/-- The tables. `ledgerTrigger` tells whether the trigger `trg_commission_no_update` of migration
010, which refuses every update of a ledger row, is installed. A migrated database has it. It is off
by default because the services are written against a ledger they can update, and with it on a call
that moves a row fails and leaves the tables alone: the laws hold of both settings, and the runs
that break one need it off. -/
structure Db where
  relationships : List Relationship := []
  plans : List Plan := []
  commissionRules : List CommissionRule := []
  purchaseRules : List PurchaseCommissionRule := []
  ledger : List CommissionRow := []
  adjustments : List Adjustment := []
  wallets : List Wallet := []
  payouts : List Payout := []
  payoutItems : List PayoutItem := []
  events : List ReferralEvent := []
  financeEntries : List FinanceEntry := []
  nextId : Id := 0
  ledgerTrigger : Bool := false
  deriving DecidableEq, Repr

/-! ## Column ranges -/

/-- A value written to a `DECIMAL(18,8)` column. -/
def money (x : ℚ) : Except PgError ℚ := (numericColumn 18 8 x).elim (.error .numericOverflow) .ok

/-- A value written to a `DECIMAL(8,4)` column. -/
def rate (x : ℚ) : Except PgError ℚ := (numericColumn 8 4 x).elim (.error .numericOverflow) .ok

/-! ## Statements on the ledger -/

/-- The index `idx_commission_dedup`: live rows are unique in (purchase, recipient, level). -/
def dedupConflict (r s : CommissionRow) : Bool :=
  r.purchaseId.isSome && r.purchaseId == s.purchaseId && r.recipientUserId == s.recipientUserId &&
    r.level == s.level && s.status != .reversed && s.status != .cancelled &&
    r.status != .reversed && r.status != .cancelled

/-- The index `idx_commission_v3_idempotency`: keys are unique among the rows that have one. -/
def keyConflict (r s : CommissionRow) : Bool :=
  r.idempotencyKey.isSome && r.idempotencyKey == s.idempotencyKey

/-- The row as the columns' types store it. -/
def storeRow (r : CommissionRow) : Except PgError CommissionRow := do
  let base ← rate r.baseCommissionRate
  let multiplier ← rate r.purchaseMultiplier
  let effective ← rate r.effectiveCommissionRate
  let commissionable ← money r.commissionableAmount
  let commission ← money r.commissionAmount
  return { r with
    baseCommissionRate := base, purchaseMultiplier := multiplier,
    effectiveCommissionRate := effective, commissionableAmount := commissionable,
    commissionAmount := commission }

/-- The checks `level BETWEEN 1 AND 5` and `commission_amount >= 0`. -/
def rowChecks (r : CommissionRow) : Bool :=
  decide (1 ≤ r.level) && decide (r.level ≤ 5) && decide (0 ≤ r.commissionAmount)

/-- `INSERT INTO referral.commission_ledger`, the id drawn fresh. -/
def Db.insertCommission (r : CommissionRow) (db : Db) : Except PgError Db := do
  let row ← storeRow { r with id := db.nextId }
  if !rowChecks row then .error .checkViolation
  else if db.ledger.any (dedupConflict row) || db.ledger.any (keyConflict row) then
    .error .uniqueViolation
  else .ok { db with ledger := db.ledger ++ [row], nextId := db.nextId + 1 }

/-- `UPDATE referral.commission_ledger SET f WHERE p`, past the trigger. -/
def Db.updateLedger (p : CommissionRow → Bool) (f : CommissionRow → CommissionRow) (db : Db) :
    Except PgError Db :=
  if db.ledgerTrigger && db.ledger.any p then .error .raiseException
  else .ok { db with ledger := updateWhere p f db.ledger }

/-! ## What an insert does -/

/-- Every rate and amount of the row fits its column. -/
def Storable (r : CommissionRow) : Prop :=
  |roundPlaces 4 r.baseCommissionRate| < 10 ^ 4 ∧ |roundPlaces 4 r.purchaseMultiplier| < 10 ^ 4 ∧
    |roundPlaces 4 r.effectiveCommissionRate| < 10 ^ 4 ∧
    |roundPlaces 8 r.commissionableAmount| < 10 ^ 10 ∧
    |roundPlaces 8 r.commissionAmount| < 10 ^ 10

instance (r : CommissionRow) : Decidable (Storable r) := by unfold Storable; infer_instance

/-- The row as stored. -/
def storedRow (r : CommissionRow) : CommissionRow :=
  { r with
    baseCommissionRate := roundPlaces 4 r.baseCommissionRate
    purchaseMultiplier := roundPlaces 4 r.purchaseMultiplier
    effectiveCommissionRate := roundPlaces 4 r.effectiveCommissionRate
    commissionableAmount := roundPlaces 8 r.commissionableAmount
    commissionAmount := roundPlaces 8 r.commissionAmount }

theorem money_eq {x : ℚ} (h : |roundPlaces 8 x| < 10 ^ 10) : money x = .ok (roundPlaces 8 x) := by
  simp only [money, numericColumn]
  norm_num at h ⊢
  simp only [h, if_true, Option.elim]

theorem rate_eq {x : ℚ} (h : |roundPlaces 4 x| < 10 ^ 4) : rate x = .ok (roundPlaces 4 x) := by
  simp only [rate, numericColumn]
  norm_num at h ⊢
  simp only [h, if_true, Option.elim]

theorem money_error {x : ℚ} (h : ¬ |roundPlaces 8 x| < 10 ^ 10) :
    money x = .error .numericOverflow := by
  simp only [money, numericColumn]
  norm_num at h ⊢
  simp only [not_lt.mpr h, if_false, Option.elim]

theorem rate_error {x : ℚ} (h : ¬ |roundPlaces 4 x| < 10 ^ 4) :
    rate x = .error .numericOverflow := by
  simp only [rate, numericColumn]
  norm_num at h ⊢
  simp only [not_lt.mpr h, if_false, Option.elim]

theorem storeRow_of_storable {r : CommissionRow} (h : Storable r) :
    storeRow r = .ok (storedRow r) := by
  obtain ⟨h1, h2, h3, h4, h5⟩ := h
  simp only [storeRow, rate_eq h1, rate_eq h2, rate_eq h3, money_eq h4, money_eq h5, ok_bind]
  rfl

/-- A row that does not fit is refused with an overflow. -/
theorem storeRow_of_not {r : CommissionRow} (h : ¬ Storable r) :
    storeRow r = .error .numericOverflow := by
  simp only [storeRow]
  by_cases h1 : |roundPlaces 4 r.baseCommissionRate| < 10 ^ 4
  · rw [rate_eq h1, ok_bind]
    by_cases h2 : |roundPlaces 4 r.purchaseMultiplier| < 10 ^ 4
    · rw [rate_eq h2, ok_bind]
      by_cases h3 : |roundPlaces 4 r.effectiveCommissionRate| < 10 ^ 4
      · rw [rate_eq h3, ok_bind]
        by_cases h4 : |roundPlaces 8 r.commissionableAmount| < 10 ^ 10
        · rw [money_eq h4, ok_bind]
          have h5 : ¬ |roundPlaces 8 r.commissionAmount| < 10 ^ 10 :=
            fun h5 => h ⟨h1, h2, h3, h4, h5⟩
          rw [money_error h5, error_bind]
        · rw [money_error h4, error_bind]
      · rw [rate_error h3, error_bind]
    · rw [rate_error h2, error_bind]
  · rw [rate_error h1, error_bind]

/-- **An insert, case by case.** It stores the row when every value fits, the checks pass and no
unique index is violated; the failures are told apart by the error they raise. -/
theorem insertCommission_cases (r : CommissionRow) (db : Db) :
    (¬ Storable r ∧ db.insertCommission r = .error .numericOverflow) ∨
    (Storable r ∧ rowChecks (storedRow r) = false ∧
      db.insertCommission r = .error .checkViolation) ∨
    (Storable r ∧ rowChecks (storedRow r) = true ∧
      (db.ledger.any (dedupConflict r) || db.ledger.any (keyConflict r)) = true ∧
      db.insertCommission r = .error .uniqueViolation) ∨
    (Storable r ∧ rowChecks (storedRow r) = true ∧ db.ledger.any (dedupConflict r) = false ∧
      db.ledger.any (keyConflict r) = false ∧
      db.insertCommission r = .ok { db with
        ledger := db.ledger ++ [storedRow { r with id := db.nextId }], nextId := db.nextId + 1 }) := by
  by_cases hs : Storable r
  · have hst : storeRow { r with id := db.nextId } = .ok (storedRow { r with id := db.nextId }) :=
      storeRow_of_storable hs
    -- neither the checks nor the indexes read the id or the rounded columns
    have hdef : db.insertCommission r =
        if !rowChecks (storedRow r) then .error .checkViolation
        else if db.ledger.any (dedupConflict r) || db.ledger.any (keyConflict r) then
          .error .uniqueViolation
        else .ok { db with
          ledger := db.ledger ++ [storedRow { r with id := db.nextId }], nextId := db.nextId + 1 } := by
      unfold Db.insertCommission
      rw [hst]; rfl
    rw [hdef]
    cases hc : rowChecks (storedRow r) with
    | false => right; left; exact ⟨hs, rfl, rfl⟩
    | true =>
        right; right
        by_cases hu : (db.ledger.any (dedupConflict r) || db.ledger.any (keyConflict r)) = true
        · left; exact ⟨hs, rfl, hu, by simp [hu]⟩
        · have hu' := Bool.or_eq_false_iff.mp (Bool.eq_false_iff.mpr hu)
          right; exact ⟨hs, rfl, hu'.1, hu'.2, by simp [hu'.1, hu'.2]⟩
  · left
    have hst : storeRow { r with id := db.nextId } = .error .numericOverflow :=
      storeRow_of_not (r := { r with id := db.nextId }) hs
    exact ⟨hs, by unfold Db.insertCommission; rw [hst]; rfl⟩

/-! ## Statements on the wallets -/

/-- The wallet is the user's in this currency. -/
def Wallet.belongsTo (w : Wallet) (user : UserId) (currency : Currency) : Bool :=
  w.userId == user && w.currency == currency

/-- `INSERT … (user_id, currency) … ON CONFLICT DO NOTHING`. -/
def Db.ensureWallet (user : UserId) (currency : Currency) (db : Db) : Db :=
  if db.wallets.any (·.belongsTo user currency) then db
  else { db with wallets := db.wallets ++ [{ userId := user, currency := currency }] }

/-- `SET bucket = bucket + delta` for each of the given buckets, which are distinct. -/
def Wallet.shift (changes : List (Bucket × ℚ)) (w : Wallet) : Except PgError Wallet :=
  changes.foldlM (fun w c => do return w.setBalance (← money (w.balance c.1 + c.2)) c.1) w

/-- `UPDATE referral.affiliate_wallets SET … WHERE user_id = … AND currency = …`. -/
def Db.updateWallet (user : UserId) (currency : Currency) (changes : List (Bucket × ℚ)) (db : Db) :
    Except PgError Db := do
  let wallets ← db.wallets.mapM fun w =>
    if w.belongsTo user currency then w.shift changes else pure w
  return { db with wallets := wallets }

/-- What a ledger update does when it goes through. -/
theorem updateLedger_ok {p : CommissionRow → Bool} {f : CommissionRow → CommissionRow} {db db' : Db}
    (h : db.updateLedger p f = .ok db') : db' = { db with ledger := updateWhere p f db.ledger } := by
  unfold Db.updateLedger at h
  split at h
  · simp at h
  · exact (Except.ok.inj h).symm

/-- A wallet update leaves every other table alone. -/
theorem updateWallet_ok {user : UserId} {currency : Currency} {changes : List (Bucket × ℚ)}
    {db db' : Db} (h : db.updateWallet user currency changes = .ok db') :
    db' = { db with wallets := db'.wallets } := by
  obtain ⟨ws, -, hws⟩ := bind_ok h
  cases hws; rfl

@[simp] theorem ensureWallet_ledger (user : UserId) (currency : Currency) (db : Db) :
    (db.ensureWallet user currency).ledger = db.ledger := by
  unfold Db.ensureWallet; split <;> rfl

end PredictATrade.Control
