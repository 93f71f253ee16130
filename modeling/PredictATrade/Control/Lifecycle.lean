import PredictATrade.Control.CommissionEngine

/-!
# `Control.Lifecycle` — the life of a commission after it was credited

The guarded status transitions of a ledger row, the reversals, the manual adjustments and the bulk
job that clears rows with age. Each runs in one transaction and moves money between the buckets of
the recipient's wallet along with the row.
-/

namespace PredictATrade.Control
open Lib.Table Lib.Attempt Lib.Decimal

/-! ## Failures of the services -/

/-- What a service call throws: an HTTP exception with its text, a `decimal.js` error, or the error
Postgres raised. -/
inductive Failure where
  | badRequest (text : String)
  | notFound (text : String)
  /-- 400 `Illegal transition ${oldStatus} -> ${target}` -/
  | illegalTransition (oldStatus target : CommissionStatus)
  /-- 400 `requested ${amount} exceeds available balance ${available}` -/
  | exceedsAvailable (amount available : ℚ)
  | decimalError
  | pg (e : PgError)
  deriving DecidableEq, Repr

/-- Run a statement inside a service call. -/
def sql {α : Type} : Except PgError α → Except Failure α
  | .ok a => .ok a
  | .error e => .error (.pg e)

theorem sql_ok {α : Type} {x : Except PgError α} {a : α} (h : sql x = .ok a) : x = .ok a := by
  cases x with
  | ok b => cases h; rfl
  | error e => cases h

/-! ## The state machine -/

/-- `TRANSITION_MATRIX`; a status without an entry has no outgoing edge. -/
def transitionMatrix : CommissionStatus → List CommissionStatus
  | .pending => [.cleared, .fraudHold, .reversed, .cancelled]
  | .cleared => [.available, .fraudHold, .reversed, .cancelled]
  | .available => [.paid, .fraudHold, .reversed, .cancelled]
  | .fraudHold => [.available, .reversed, .cancelled]
  | .paid | .reversed | .cancelled | .chargeback | .reserved => []

/-- `bucketForStatus`; statuses it does not name fall to the pending bucket. -/
def bucketForStatus : CommissionStatus → Bucket
  | .pending => .pendingBalance
  | .cleared => .clearedBalance
  | .available => .availableBalance
  | .paid => .paidBalance
  | .fraudHold => .onHoldBalance
  | .reversed | .cancelled => .reversedBalance
  | .chargeback | .reserved => .pendingBalance

/-- The bucket a transition moves the amount to. -/
def destBucket (target : CommissionStatus) : Bucket :=
  match target with
  | .fraudHold => .onHoldBalance
  | .reversed | .cancelled => .reversedBalance
  | s => bucketForStatus s

/-- The row after a transition, with the timestamp of its new status. -/
def CommissionRow.moveTo (now : Time) (target : CommissionStatus) (actorId : Option UserId)
    (reason : Option String) (r : CommissionRow) : CommissionRow :=
  { r with
    status := target
    clearedAt := if target = .cleared then some now else r.clearedAt
    availableAt := if target = .available then some now else r.availableAt
    paidAt := if target = .paid then some now else r.paidAt
    reversedAt := if target = .reversed then some now else r.reversedAt
    reversalReason := if target = .reversed then reason else r.reversalReason
    reversedBy := if target = .reversed then actorId else r.reversedBy
    updatedAt := now }

/-- `SELECT * FROM commission_ledger WHERE id = $1`. -/
def Db.commission (id : Id) (db : Db) : Option CommissionRow := db.ledger.find? (·.id == id)

/-- `transitionLedgerAndWallet`. -/
def transitionLedgerAndWallet (now : Time) (id : Id) (target : CommissionStatus)
    (actorId : Option UserId) (reason : Option String) (amountOverride : Option ℚ) (db : Db) :
    Except Failure (CommissionRow × Db) :=
  match db.commission id with
  | none => .error (.notFound "Commission not found")
  | some row =>
      if target ∉ transitionMatrix row.status then .error (.illegalTransition row.status target)
      else do
        let amt := amountOverride.getD row.commissionAmount
        let src := bucketForStatus row.status
        let dest := destBucket target
        let db₁ := db.ensureWallet row.recipientUserId row.currency
        let db₂ ← sql (db₁.updateWallet row.recipientUserId row.currency
          (if dest = src then [(src, -amt)] else [(src, -amt), (dest, amt)]))
        let db₃ ← sql (db₂.updateLedger (·.id == id) (·.moveTo now target actorId reason))
        .ok (row.moveTo now target actorId reason, db₃)

/-- What a transition that goes through has done. -/
theorem transitionLedgerAndWallet_inv {now : Time} {id : Id} {target : CommissionStatus}
    {actorId : Option UserId} {reason : Option String} {amountOverride : Option ℚ} {db db' : Db}
    {out : CommissionRow}
    (h : transitionLedgerAndWallet now id target actorId reason amountOverride db = .ok (out, db')) :
    ∃ row db₂, db.commission id = some row ∧ target ∈ transitionMatrix row.status ∧
      (db.ensureWallet row.recipientUserId row.currency).updateWallet row.recipientUserId row.currency
        (if destBucket target = bucketForStatus row.status then
          [(bucketForStatus row.status, -amountOverride.getD row.commissionAmount)]
        else [(bucketForStatus row.status, -amountOverride.getD row.commissionAmount),
          (destBucket target, amountOverride.getD row.commissionAmount)]) = .ok db₂ ∧
      db₂.updateLedger (·.id == id) (·.moveTo now target actorId reason) = .ok db' := by
  unfold transitionLedgerAndWallet at h
  cases hc : db.commission id with
  | none => simp [hc] at h
  | some row =>
      simp only [hc] at h
      obtain ⟨hm, h⟩ := guard_ok h
      obtain ⟨db₂, h₂, h⟩ := bind_ok h
      obtain ⟨db₃, h₃, h⟩ := bind_ok h
      cases h
      exact ⟨row, db₂, rfl, not_not.mp hm, sql_ok h₂, sql_ok h₃⟩

/-- `transitionCommission`. -/
def transitionCommission (now : Time) (id : Id) (target : CommissionStatus) (actorId : UserId)
    (reason : Option String) (db : Db) : Except Failure CommissionRow × Db :=
  transaction (transitionLedgerAndWallet now id target (some actorId) reason none) db

/-- `holdCommission`. -/
def holdCommission (now : Time) (id : Id) (reason : String) (actorId : UserId) (db : Db) :
    Except Failure CommissionRow × Db :=
  transitionCommission now id .fraudHold actorId (some reason) db

/-- `releaseCommission`. -/
def releaseCommission (now : Time) (id : Id) (actorId : UserId) (db : Db) :
    Except Failure CommissionRow × Db :=
  transitionCommission now id .available actorId none db

/-! ## Reversals and adjustments -/

/-- `INSERT INTO referral.commission_adjustments`. -/
def Db.insertAdjustment (a : Adjustment) (db : Db) : Except PgError Db := do
  let amount ← money a.amount
  return { db with adjustments := db.adjustments ++ [{ a with amount := amount }] }

/-- The body of `reverseCommission`. A partial reversal of a row whose bucket is already the reversed
one assigns that column twice, which Postgres refuses. -/
def reverseTx (now : Time) (id : Id) (reason : String) (actorId : UserId) (amount : Option ℚ)
    (db : Db) : Except Failure (Option CommissionRow × Db) :=
  match db.commission id with
  | none => .error (.notFound "Commission not found")
  | some row =>
      let full := row.commissionAmount
      let revAmount := amount.getD full
      if revAmount ≤ 0 ∨ full < revAmount then
        .error (.badRequest "Reversal amount must be > 0 and <= commission amount")
      else if revAmount < full then
        if bucketForStatus row.status = .reversedBalance then .error (.pg .multipleAssignments)
        else do
          let db₁ ← sql (db.updateWallet row.recipientUserId row.currency
            [(bucketForStatus row.status, -revAmount), (.reversedBalance, revAmount)])
          let db₂ ← sql (db₁.insertAdjustment
            ⟨id, .partialReversal, -revAmount, row.currency, reason, actorId, now⟩)
          .ok (none, db₂)
      else do
        let (updated, db₁) ← transitionLedgerAndWallet now id .reversed (some actorId) (some reason)
          (some revAmount) db
        let db₂ ← sql (db₁.insertAdjustment
          ⟨id, .reversal, -revAmount, row.currency, reason, actorId, now⟩)
        .ok (some updated, db₂)

/-- What a reversal that goes through has done: it moved a part between the buckets, or the whole row to
REVERSED, and left a record. -/
theorem reverseTx_inv {now : Time} {id : Id} {reason : String} {actorId : UserId} {amount : Option ℚ}
    {db db' : Db} {out : Option CommissionRow}
    (h : reverseTx now id reason actorId amount db = .ok (out, db')) :
    ∃ row db₁, db.commission id = some row ∧
      ((db.updateWallet row.recipientUserId row.currency
          [(bucketForStatus row.status, -amount.getD row.commissionAmount),
            (.reversedBalance, amount.getD row.commissionAmount)] = .ok db₁ ∧
        db₁.insertAdjustment ⟨id, .partialReversal, -amount.getD row.commissionAmount, row.currency,
          reason, actorId, now⟩ = .ok db') ∨
      (∃ updated, transitionLedgerAndWallet now id .reversed (some actorId) (some reason)
          (some (amount.getD row.commissionAmount)) db = .ok (updated, db₁) ∧
        db₁.insertAdjustment ⟨id, .reversal, -amount.getD row.commissionAmount, row.currency,
          reason, actorId, now⟩ = .ok db')) := by
  unfold reverseTx at h
  cases hc : db.commission id with
  | none => simp [hc] at h
  | some row =>
      simp only [hc] at h
      obtain ⟨-, h⟩ := guard_ok h
      split at h
      · obtain ⟨-, h⟩ := guard_ok h
        obtain ⟨db₁, h₁, h⟩ := bind_ok h
        obtain ⟨db₂, h₂, h⟩ := bind_ok h
        cases h
        exact ⟨row, db₁, rfl, Or.inl ⟨sql_ok h₁, sql_ok h₂⟩⟩
      · obtain ⟨⟨updated, db₁⟩, h₁, h⟩ := bind_ok h
        obtain ⟨db₂, h₂, h⟩ := bind_ok h
        cases h
        exact ⟨row, db₁, rfl, Or.inr ⟨updated, h₁, sql_ok h₂⟩⟩

/-- `reverseCommission`. -/
def reverseCommission (now : Time) (id : Id) (reason : String) (actorId : UserId)
    (amount : Option ℚ) (db : Db) : Except Failure (Option CommissionRow) × Db :=
  transaction (reverseTx now id reason actorId amount) db

/-- The body of `adjustCommission`. -/
def adjustTx (now : Time) (id : Id) (delta : ℚ) (reason : String) (actorId : UserId) (db : Db) :
    Except Failure ((Id × ℚ) × Db) :=
  match db.commission id with
  | none => .error (.notFound "Commission not found")
  | some row =>
      let newAmt := decPlus row.commissionAmount delta
      if newAmt < 0 then .error (.badRequest "Adjustment would make commission negative")
      else do
        let db₁ ← sql (db.insertAdjustment
          ⟨id, .manualAdjustment, delta, row.currency, reason, actorId, now⟩)
        let stored ← sql (money newAmt)
        let db₂ ← sql (db₁.updateLedger (·.id == id)
          fun r => { r with commissionAmount := stored, updatedAt := now })
        let db₃ := db₂.ensureWallet row.recipientUserId row.currency
        let db₄ ← sql (db₃.updateWallet row.recipientUserId row.currency
          [(bucketForStatus row.status, delta)])
        .ok ((id, newAmt), db₄)

/-- What an adjustment that goes through has done, statement by statement. -/
theorem adjustTx_inv {now : Time} {id : Id} {delta : ℚ} {reason : String} {actorId : UserId} {db db' : Db}
    {out : Id × ℚ} (h : adjustTx now id delta reason actorId db = .ok (out, db')) :
    ∃ row stored db₁ db₂, db.commission id = some row ∧
      db.insertAdjustment ⟨id, .manualAdjustment, delta, row.currency, reason, actorId, now⟩ = .ok db₁ ∧
      money (decPlus row.commissionAmount delta) = .ok stored ∧
      db₁.updateLedger (·.id == id) (fun r => { r with commissionAmount := stored, updatedAt := now }) =
        .ok db₂ ∧
      (db₂.ensureWallet row.recipientUserId row.currency).updateWallet row.recipientUserId row.currency
        [(bucketForStatus row.status, delta)] = .ok db' := by
  unfold adjustTx at h
  cases hc : db.commission id with
  | none => simp [hc] at h
  | some row =>
      simp only [hc] at h
      obtain ⟨-, h⟩ := guard_ok h
      obtain ⟨db₁, h₁, h⟩ := bind_ok h
      obtain ⟨stored, hs, h⟩ := bind_ok h
      obtain ⟨db₂, h₂, h⟩ := bind_ok h
      obtain ⟨db₄, h₄, h⟩ := bind_ok h
      cases h
      exact ⟨row, stored, db₁, db₂, rfl, sql_ok h₁, sql_ok hs, sql_ok h₂, sql_ok h₄⟩

/-- `adjustCommission`; `none` stands for an amount that is not finite. -/
def adjustCommission (now : Time) (id : Id) (amount : Option ℚ) (reason : String)
    (actorId : UserId) (db : Db) : Except Failure (Id × ℚ) × Db :=
  match amount with
  | none => (.error (.badRequest "Invalid adjustment amount"), db)
  | some delta => transaction (adjustTx now id delta reason actorId) db

/-! ## The clearing job -/

/-- `agg.set(k, (agg.get(k) ?? 0).plus(amount))`: the totals by user and currency, in the order the
keys were first met. -/
def addToTotal (key : UserId × Currency) (amount : ℚ) :
    List ((UserId × Currency) × ℚ) → List ((UserId × Currency) × ℚ)
  | [] => [(key, decPlus 0 amount)]
  | (k, total) :: rest =>
      if k = key then (k, decPlus total amount) :: rest else (k, total) :: addToTotal key amount rest

/-- The amounts of the rows by recipient and currency. -/
def totals (rows : List CommissionRow) : List ((UserId × Currency) × ℚ) :=
  rows.foldl (fun agg r => addToTotal (r.recipientUserId, r.currency) r.commissionAmount agg) []

/-- Move each total from one bucket to the other, creating the wallets that are missing. -/
def moveTotals (src dest : Bucket) : List ((UserId × Currency) × ℚ) → Db → Except PgError Db
  | [], db => .ok db
  | ((user, currency), amt) :: rest, db => do
      let db' ← (db.ensureWallet user currency).updateWallet user currency
        [(src, -amt), (dest, amt)]
      moveTotals src dest rest db'

/-- One half of `clearEligible`: the rows that are `due` take the next status, and their totals the
next bucket. -/
def clearPhase (due : CommissionRow → Bool) (advance : CommissionRow → CommissionRow)
    (src dest : Bucket) (db : Db) : Except PgError (ℕ × Db) :=
  let rows := db.ledger.filter due
  if rows.isEmpty then .ok (0, db)
  else do
    let db₁ ← db.updateLedger (fun r => rows.any (·.id == r.id)) advance
    let db₂ ← moveTotals src dest (totals rows) db₁
    .ok (rows.length, db₂)

/-- Pending rows older than 14 days. -/
def dueToClear (now : Time) (r : CommissionRow) : Bool :=
  r.status == .pending && decide (r.createdAt < now - days 14)

/-- Cleared rows whose clearing is older than 30 days. -/
def dueToRelease (now : Time) (r : CommissionRow) : Bool :=
  r.status == .cleared && r.clearedAt.any fun t => decide (t < now - days 30)

/-- The row, cleared. -/
def CommissionRow.markCleared (now : Time) (r : CommissionRow) : CommissionRow :=
  { r with status := .cleared, clearedAt := some now, updatedAt := now }

/-- The row, available. -/
def CommissionRow.markAvailable (now : Time) (r : CommissionRow) : CommissionRow :=
  { r with status := .available, availableAt := some now, updatedAt := now }

/-- The body of `clearEligible`: clear what is old enough, then release what was cleared long ago. -/
def clearTx (now : Time) (db : Db) : Except PgError ((ℕ × ℕ) × Db) := do
  let (cleared, db₁) ← clearPhase (dueToClear now) (·.markCleared now)
    .pendingBalance .clearedBalance db
  let (available, db₂) ← clearPhase (dueToRelease now) (·.markAvailable now)
    .clearedBalance .availableBalance db₁
  .ok ((cleared, available), db₂)

/-- `clearEligible`, with the counts of rows cleared and made available. -/
def clearEligible (now : Time) (db : Db) : Except PgError (ℕ × ℕ) × Db :=
  transaction (clearTx now) db

end PredictATrade.Control
