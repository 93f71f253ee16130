import PredictATrade.Control.Lifecycle
import Mathlib.Data.List.Sort

/-!
# `Control.Payouts` — the payout service

A payout request reserves CLEARED commissions, first in first out, until they cover the amount. The
reservation lives in two tables: the payout's items name the commissions, and the commissions' status
becomes RESERVED. Rejecting or cancelling a payout sets the reserved commissions of its items back to
CLEARED, in a statement of its own that is committed *before* the payout's status is looked at.
-/

namespace PredictATrade.Control
open Lib.Table Lib.Attempt Lib.Decimal

/-! ## Requests -/

/-- What `new Decimal(text)` makes of a text: an error, `NaN` or an infinity, or a number. -/
inductive DecimalText where
  | malformed
  | notFinite
  | finite (x : ℚ)
  deriving DecidableEq, Repr

/-- What a payout is requested with. -/
structure PayoutRequest where
  amount : DecimalText
  method : PayoutMethod
  destination : String
  idempotencyKey : Option String := none
  currency : Option String := none
  details : Option (List (String × String)) := none
  deriving DecidableEq, Repr

/-- The characters `String.prototype.trim` removes. -/
def isJsSpace (c : Char) : Bool :=
  c.val ∈ [9, 10, 11, 12, 13, 32, 0xA0, 0x1680, 0x2028, 0x2029, 0x202F, 0x205F, 0x3000, 0xFEFF] ||
    (0x2000 ≤ c.val && c.val ≤ 0x200A)

/-- `s.trim()`, as characters. -/
def jsTrim (s : String) : List Char :=
  ((s.toList.dropWhile isJsSpace).reverse.dropWhile isJsSpace).reverse

/-- A hexadecimal digit. -/
def isHexDigit (c : Char) : Bool :=
  ('0' ≤ c && c ≤ '9') || ('a' ≤ c && c ≤ 'f') || ('A' ≤ c && c ≤ 'F')

/-- The class `[1-9A-HJ-NP-Za-km-z]`. -/
def isBase58 (c : Char) : Bool :=
  ('1' ≤ c && c ≤ '9') || ('A' ≤ c && c ≤ 'H') || ('J' ≤ c && c ≤ 'N') || ('P' ≤ c && c ≤ 'Z') ||
    ('a' ≤ c && c ≤ 'k') || ('m' ≤ c && c ≤ 'z')

/-- `/^0x[a-fA-F0-9]{40}$/` or `/^T[1-9A-HJ-NP-Za-km-z]{33}$/`. -/
def isWalletAddress : List Char → Bool
  | '0' :: 'x' :: rest => rest.length == 40 && rest.all isHexDigit
  | 'T' :: rest => rest.length == 33 && rest.all isBase58
  | _ => false

/-- `dto.details?.[field]`. -/
def PayoutRequest.detail (dto : PayoutRequest) (field : String) : Option String :=
  (dto.details.getD []).lookup field

/-- `!dto.details?.[field]?.trim()`. -/
def PayoutRequest.lacks (dto : PayoutRequest) (field : String) : Bool :=
  (dto.detail field).all fun s => (jsTrim s).isEmpty

/-- The fields of a bank account. -/
def bankFields : List String :=
  ["bank_name", "account_holder", "account_number", "swift_bic", "country"]

/-- The checks on the method and its destination. -/
def checkDestination (dto : PayoutRequest) : Except Failure Unit :=
  match dto.method with
  | .other _ => .error (.badRequest "method must be BANK_TRANSFER or USDT")
  | .bankTransfer =>
      match bankFields.find? dto.lacks with
      | some field => .error (.badRequest s!"bank payout requires details.{field}")
      | none => .ok ()
  | .usdt =>
      if (dto.detail "network").getD "" ∉ ["TRC20", "ERC20", "BEP20"] then
        .error (.badRequest "USDT payout requires details.network (TRC20, ERC20 or BEP20)")
      else if !isWalletAddress (jsTrim dto.destination) then
        .error (.badRequest "USDT payout requires a valid wallet address in destination")
      else .ok ()

/-- The least amount of a payout. -/
def minPayout : ℚ := 50

/-- The checks made before the database is asked; the amount requested. -/
def validateRequest (dto : PayoutRequest) : Except Failure ℚ :=
  match dto.amount with
  | .malformed => .error .decimalError
  | .notFinite => .error (.badRequest "amount must be positive")
  | .finite amount =>
      if amount ≤ 0 then .error (.badRequest "amount must be positive")
      else do
        checkDestination dto
        if amount < minPayout then .error (.badRequest "minimum payout is 50") else .ok amount

/-- `currency || 'USD'`. -/
def orUsd (c : Currency) : Currency := if c = "" then "USD" else c

/-- `dto.currency || 'USD'`. -/
def PayoutRequest.currencyCode (dto : PayoutRequest) : Currency := orUsd (dto.currency.getD "")

/-- The payout the user already has under the request's key; an empty key is no key. -/
def existingPayout (userId : UserId) (dto : PayoutRequest) (db : Db) : Option Payout :=
  match dto.idempotencyKey with
  | none => none
  | some key =>
      if key = "" then none
      else db.payouts.find? fun p => p.userId == userId && p.idempotencyKey == some key

/-! ## Reserving -/

/-- `ORDER BY cleared_at ASC, created_at ASC`, rows without a clearing time last. -/
def clearedBefore (a b : CommissionRow) : Prop :=
  match a.clearedAt, b.clearedAt with
  | some s, some t => s < t ∨ (s = t ∧ a.createdAt ≤ b.createdAt)
  | some _, none => True
  | none, some _ => False
  | none, none => a.createdAt ≤ b.createdAt

instance (a b : CommissionRow) : Decidable (clearedBefore a b) := by
  unfold clearedBefore
  cases a.clearedAt <;> cases b.clearedAt <;> infer_instance

/-- The rows a request may reserve, in the order it takes them. -/
def eligibleRows (userId : UserId) (currency : Currency) (db : Db) : List CommissionRow :=
  (db.ledger.filter fun r => r.recipientUserId == userId && r.currency == currency &&
    r.status == .cleared).insertionSort clearedBefore

/-- The reservation loop: the items taken, and what of the amount they leave uncovered. -/
def reserveFifo : ℚ → List CommissionRow → List (Id × ℚ) × ℚ
  | remaining, [] => ([], remaining)
  | remaining, row :: rows =>
      if remaining ≤ 0 then ([], remaining)
      else
        let amt := min row.commissionAmount remaining
        let out := reserveFifo (decMinus remaining amt) rows
        ((row.id, amt) :: out.1, out.2)

/-- What `requestPayout` answers. -/
structure PayoutReply where
  payout : Payout
  duplicate : Bool := false
  deriving DecidableEq, Repr

/-- The index `idx_payouts_idempotency`. -/
def payoutKeyTaken (userId : UserId) (key : Option String) (db : Db) : Bool :=
  key.isSome && db.payouts.any fun p => p.userId == userId && p.idempotencyKey == key

/-- The payout a request inserts. -/
def newPayout (userId : UserId) (dto : PayoutRequest) (requested : ℚ) (db : Db) : Payout :=
  { id := db.nextId
    userId := userId
    requestedAmount := requested
    currency := dto.currencyCode
    status := .requested
    method := dto.method
    destination := dto.destination
    details := dto.details.getD []
    idempotencyKey := dto.idempotencyKey }

/-- The items of a payout, as they are inserted. -/
def insertItems (payoutId : Id) : List (Id × ℚ) → Except PgError (List PayoutItem)
  | [] => .ok []
  | (commissionId, amt) :: rest => do
      let amount ← money amt
      let items ← insertItems payoutId rest
      .ok (⟨payoutId, commissionId, amount⟩ :: items)

/-- The writes of a request: the payout, its items, and the rows set to RESERVED. -/
def writeRequest (now : Time) (userId : UserId) (dto : PayoutRequest) (amount : ℚ)
    (items : List (Id × ℚ)) (db : Db) : Except PgError (PayoutReply × Db) := do
  let requested ← money amount
  if payoutKeyTaken userId dto.idempotencyKey db then .error .uniqueViolation
  else
    let payout := newPayout userId dto requested db
    let rows ← insertItems payout.id items
    let db₁ := { db with
      payouts := db.payouts ++ [payout], payoutItems := db.payoutItems ++ rows
      nextId := db.nextId + 1 }
    let db₂ ← db₁.updateLedger (fun r => items.any (·.1 == r.id))
      fun r => { r with status := .reserved, updatedAt := now }
    .ok ({ payout := payout }, db₂)

/-- The body of `requestPayout`. -/
def requestTx (now : Time) (userId : UserId) (dto : PayoutRequest) (db : Db) :
    Except Failure (PayoutReply × Db) := do
  let amount ← validateRequest dto
  match existingPayout userId dto db with
  | some p => .ok ({ payout := p, duplicate := true }, db)
  | none =>
      match db.wallets.find? (·.belongsTo userId dto.currencyCode) with
      | none => .error (.badRequest s!"no {dto.currencyCode} wallet for user")
      | some wallet =>
          if wallet.availableBalance < amount then
            .error (.exceedsAvailable amount wallet.availableBalance)
          else
            let (items, remaining) := reserveFifo amount (eligibleRows userId dto.currencyCode db)
            if (1 / 100000000 : ℚ) < remaining then
              .error (.badRequest "insufficient CLEARED commissions to cover payout")
            else sql (writeRequest now userId dto amount items db)

/-- What a request that goes through did: it found a payout under its key, or it reserved rows that
cover the amount. -/
theorem requestTx_ok {now : Time} {userId : UserId} {dto : PayoutRequest} {db db' : Db}
    {reply : PayoutReply} (h : requestTx now userId dto db = .ok (reply, db')) :
    (∃ p, existingPayout userId dto db = some p ∧ reply = { payout := p, duplicate := true } ∧
      db' = db) ∨
    (existingPayout userId dto db = none ∧ ∃ amount items remaining,
      validateRequest dto = .ok amount ∧
      reserveFifo amount (eligibleRows userId dto.currencyCode db) = (items, remaining) ∧
      remaining ≤ 1 / 100000000 ∧ writeRequest now userId dto amount items db = .ok (reply, db')) := by
  unfold requestTx at h
  obtain ⟨amount, hv, h⟩ := bind_ok h
  cases he : existingPayout userId dto db with
  | some p =>
      left
      simp only [he] at h
      cases h
      exact ⟨p, rfl, rfl, rfl⟩
  | none =>
      right
      simp only [he] at h
      split at h
      · cases h
      · obtain ⟨-, h⟩ := guard_ok h
        obtain ⟨hrem, h⟩ := guard_ok h
        exact ⟨rfl, amount, _, _, hv, rfl, not_lt.mp hrem, sql_ok h⟩

/-- A valid request is for at least the minimum. -/
theorem validateRequest_ok {dto : PayoutRequest} {amount : ℚ} (h : validateRequest dto = .ok amount) :
    minPayout ≤ amount := by
  unfold validateRequest at h
  split at h
  · cases h
  · cases h
  · obtain ⟨-, h⟩ := guard_ok h
    obtain ⟨-, -, h⟩ := bind_ok h
    obtain ⟨hmin, h⟩ := guard_ok h
    cases h
    exact not_lt.mp hmin

/-- A reservation that takes nothing leaves the whole amount uncovered. -/
theorem reserveFifo_nil {amount : ℚ} {rows : List CommissionRow}
    (h : (reserveFifo amount rows).1 = []) : (reserveFifo amount rows).2 = amount := by
  cases rows with
  | nil => rfl
  | cons row rows =>
      simp only [reserveFifo] at h ⊢
      split at h
      · rw [if_pos ‹_›]
      · cases h

/-- A valid request that is covered reserves something. -/
theorem reserveFifo_ne_nil {dto : PayoutRequest} {amount remaining : ℚ} {rows : List CommissionRow}
    {items : List (Id × ℚ)} (hv : validateRequest dto = .ok amount)
    (h : reserveFifo amount rows = (items, remaining)) (hrem : remaining ≤ 1 / 100000000) :
    items ≠ [] := by
  intro hnil
  have hall : (reserveFifo amount rows).2 = amount := reserveFifo_nil (by rw [h]; exact hnil)
  rw [h] at hall
  have hmin := validateRequest_ok hv
  rw [← hall] at hmin
  have : (50 : ℚ) ≤ 1 / 100000000 := le_trans hmin hrem
  norm_num at this

/-- `requestPayout`. -/
def requestPayout (now : Time) (userId : UserId) (dto : PayoutRequest) (db : Db) :
    Except Failure PayoutReply × Db :=
  transaction (requestTx now userId dto) db

/-! ## Moving a payout along -/

/-- `UPDATE referral.payouts SET f WHERE id = … AND status IN (…) RETURNING *`. -/
def Db.updatePayout (id : Id) (from_ : List PayoutStatus) (f : Payout → Payout) (db : Db) :
    List Payout × Db :=
  let p : Payout → Bool := fun r => r.id == id && decide (r.status ∈ from_)
  ((db.payouts.filter p).map f, { db with payouts := updateWhere p f db.payouts })

/-- An update of one payout that throws `refusal` when it changes no row. -/
def advancePayout (id : Id) (from_ : List PayoutStatus) (f : Payout → Payout) (refusal : String)
    (db : Db) : Except Failure (Payout × Db) :=
  match db.updatePayout id from_ f with
  | ([], _) => .error (.badRequest refusal)
  | (p :: _, db') => .ok (p, db')

/-- What an update that changes a row has done. -/
theorem advancePayout_inv {id : Id} {from_ : List PayoutStatus} {f : Payout → Payout} {refusal : String}
    {db db' : Db} {p : Payout} (h : advancePayout id from_ f refusal db = .ok (p, db')) :
    (∃ q ∈ db.payouts, (q.id == id && decide (q.status ∈ from_)) = true ∧ p = f q) ∧
      db' = { db with
        payouts := updateWhere (fun r => r.id == id && decide (r.status ∈ from_)) f db.payouts } := by
  unfold advancePayout Db.updatePayout at h
  split at h
  · cases h
  · rename_i r rest db₁ heq
    injection heq with hrows hdb
    cases h
    obtain ⟨q, hq, hf⟩ := List.mem_map.mp (hrows ▸ List.mem_cons_self)
    obtain ⟨hmem, hid⟩ := List.mem_filter.mp hq
    exact ⟨⟨q, hmem, hid, hf.symm⟩, hdb.symm⟩

/-- `SUM(amount)` of the payout's items, null when it has none. -/
def itemTotal (id : Id) (db : Db) : Option ℚ :=
  let items := db.payoutItems.filter (·.payoutId == id)
  if items.isEmpty then none else some (items.map (·.amount)).sum

/-- The body of `approvePayout`. -/
def approveTx (now : Time) (id : Id) (approverId : Option UserId) (db : Db) :
    Except Failure (Payout × Db) := do
  let total ← sql ((itemTotal id db).elim (.ok none) fun t => (money t).map some)
  advancePayout id [.requested]
    (fun p => { p with
      status := .approved, approvedAt := some now, approvedBy := approverId
      approvedAmount := total.getD p.requestedAmount })
    "Payout not found or not pending" db

/-- `approvePayout`. -/
def approvePayout (now : Time) (id : Id) (approverId : Option UserId) (db : Db) :
    Except Failure Payout × Db :=
  transaction (approveTx now id approverId) db

/-- `processPayout`. -/
def processPayout (now : Time) (id : Id) (db : Db) : Except Failure Payout × Db :=
  transaction (advancePayout id [.approved, .failed, .underReview]
    (fun p => { p with status := .processing, processedAt := some now })
    "Payout not found or not in a processable state") db

/-- `retryPayout`. -/
def retryPayout (id : Id) (db : Db) : Except Failure Payout × Db :=
  transaction (advancePayout id [.failed] (fun p => { p with status := .underReview })
    "Payout not found or not in FAILED state") db

/-! ## Closing a payout -/

/-- The row belongs to an item of the payout. -/
def Db.itemOf (id : Id) (db : Db) (r : CommissionRow) : Bool :=
  db.payoutItems.any fun i => i.payoutId == id && i.commissionId == r.id

/-- "Return any RESERVED commissions to CLEARED", for the rows of the payout's items, whatever the
payout's own status. -/
def Db.freeReserved (now : Time) (id : Id) (db : Db) : Except PgError Db :=
  db.updateLedger (fun r => r.status == .reserved && db.itemOf id r)
    fun r => { r with status := .cleared, updatedAt := now }

/-- `NOT IN ('PAID', 'CANCELLED', 'REJECTED')`. -/
def closableStatuses : List PayoutStatus :=
  [.requested, .underReview, .approved, .processing, .failed]

/-- The shape of `rejectPayout` and `cancelPayout`: two statements, each committed on its own. The
first frees the rows; the second may still refuse the payout. -/
def closePayout (now : Time) (id : Id) (close : Payout → Payout) (refusal : String) (db : Db) :
    Except Failure Payout × Db :=
  match db.freeReserved now id with
  | .error e => (.error (.pg e), db)
  | .ok db₁ => transaction (advancePayout id closableStatuses close refusal) db₁

/-- `rejectPayout`. -/
def rejectPayout (now : Time) (id : Id) (reason : String) (db : Db) : Except Failure Payout × Db :=
  closePayout now id
    (fun p => { p with status := .rejected, reviewedAt := some now, reason := some reason })
    "Payout not found or not in a rejectable state" db

/-- `cancelPayout`. -/
def cancelPayout (now : Time) (id : Id) (reason : String) (db : Db) : Except Failure Payout × Db :=
  closePayout now id
    (fun p => { p with status := .cancelled, cancelledAt := some now, reason := some reason })
    "Payout not found or not in a cancellable state" db

/-! ## Reconciling a payout -/

/-- What a reconciliation is asked for with. -/
structure ReconcilePayload where
  providerReference : Option String := none
  netAmount : Option ℚ := none
  feeAmount : Option ℚ := none
  deriving DecidableEq, Repr

/-- The total of the payout's items whose commissions belong to a user, null without such items. -/
def recipientTotal (id : Id) (user : UserId) (db : Db) : Option ℚ :=
  let items := db.payoutItems.filter fun i =>
    i.payoutId == id && (db.commission i.commissionId).any (·.recipientUserId == user)
  if items.isEmpty then none else some (items.map (·.amount)).sum

/-- The wallet debit of a reconciliation, skipped where the balance does not cover it. -/
def debitWallet (id : Id) (currency : Currency) (db : Db) (w : Wallet) : Except PgError Wallet :=
  match recipientTotal id w.userId db with
  | none => .ok w
  | some amt =>
      if w.currency = currency ∧ amt ≤ w.availableBalance then
        w.shift [(.availableBalance, -amt), (.paidBalance, amt)]
      else .ok w

/-- The statuses a payout can be reconciled from. -/
def reconcilableStatuses : List PayoutStatus := [.processing, .approved, .underReview, .failed]

/-- The body of `reconcilePayout`. -/
def reconcileTx (now : Time) (id : Id) (payload : ReconcilePayload) (db : Db) :
    Except Failure (Payout × Db) :=
  match db.payouts.find? (·.id == id) with
  | none => .error (.badRequest "Payout not found")
  | some found =>
      let requested := found.requestedAmount
      if requested ≤ 0 then .error (.badRequest "payout has invalid requested_amount")
      else
        let fee := payload.feeAmount.getD 0
        if fee < 0 ∨ requested < fee then .error (.badRequest "invalid fee_amount")
        else
          let net := payload.netAmount.getD (decMinus requested fee)
          if net ≤ 0 ∨ requested < net then .error (.badRequest "invalid net_amount")
          else do
            let feeStored ← sql (money fee)
            let netStored ← sql (money net)
            let (payout, db₁) ← advancePayout id reconcilableStatuses
              (fun p => { p with
                status := .paid, paidAt := some now, providerReference := payload.providerReference
                feeAmount := feeStored, netAmount := netStored })
              "Payout not found or not in a reconcilable state" db
            let db₂ ← sql (db₁.updateLedger (db₁.itemOf id)
              fun r => { r with status := .paid, paidAt := some now, updatedAt := now })
            let wallets ← sql (db₂.wallets.mapM (debitWallet id (orUsd payout.currency) db₂))
            -- CHECK (amount > 0) comes before ON CONFLICT
            if payout.netAmount ≤ 0 then .error (.pg .checkViolation)
            else
              let entries :=
                if db₂.financeEntries.any (·.payoutId == id) then db₂.financeEntries
                else db₂.financeEntries ++
                  [⟨payout.userId, payout.netAmount, payout.currency, id, payout.providerReference⟩]
              .ok (payout, { db₂ with wallets := wallets, financeEntries := entries })

/-- What a reconciliation that goes through has done, statement by statement. -/
theorem reconcileTx_inv {now : Time} {id : Id} {payload : ReconcilePayload} {db db' : Db} {p : Payout}
    (h : reconcileTx now id payload db = .ok (p, db')) :
    ∃ feeStored netStored db₁ db₂ wallets entries,
      advancePayout id reconcilableStatuses
        (fun p => { p with
          status := .paid, paidAt := some now, providerReference := payload.providerReference
          feeAmount := feeStored, netAmount := netStored })
        "Payout not found or not in a reconcilable state" db = .ok (p, db₁) ∧
      db₁.updateLedger (db₁.itemOf id)
        (fun r => { r with status := .paid, paidAt := some now, updatedAt := now }) = .ok db₂ ∧
      db₂.wallets.mapM (debitWallet id (orUsd p.currency) db₂) = .ok wallets ∧
      db' = { db₂ with wallets := wallets, financeEntries := entries } := by
  unfold reconcileTx at h
  cases hf : db.payouts.find? (·.id == id) with
  | none => simp [hf] at h
  | some found =>
      simp only [hf] at h
      obtain ⟨-, h⟩ := guard_ok h
      obtain ⟨-, h⟩ := guard_ok h
      obtain ⟨-, h⟩ := guard_ok h
      obtain ⟨fee, -, h⟩ := bind_ok h
      obtain ⟨net, -, h⟩ := bind_ok h
      obtain ⟨⟨payout, db₁⟩, h₁, h⟩ := bind_ok h
      obtain ⟨db₂, h₂, h⟩ := bind_ok h
      obtain ⟨wallets, hw, h⟩ := bind_ok h
      obtain ⟨-, h⟩ := guard_ok h
      cases h
      exact ⟨fee, net, db₁, db₂, wallets, _, h₁, sql_ok h₂, sql_ok hw, rfl⟩

/-- `reconcilePayout`. -/
def reconcilePayout (now : Time) (id : Id) (payload : ReconcilePayload) (db : Db) :
    Except Failure Payout × Db :=
  transaction (reconcileTx now id payload) db

end PredictATrade.Control
