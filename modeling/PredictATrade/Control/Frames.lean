import PredictATrade.Control.Refinement

/-!
# `Control.Frames` — what every call keeps, from what every statement keeps

First the conditions under which the statements go through, as equivalences. Then what they change:
the service calls are put together from a few statements: an update of the ledger, of the payouts, of
a wallet, the creation of a wallet. A `Frame` is a relation between the tables before and after that
each of these statements keeps, and that composes. It then holds across every call that is made of
nothing else, which is proved here once for all frames.
-/

namespace PredictATrade.Control
open Lib.Table Lib.Attempt Lib.Decimal

/-! ## When a statement goes through -/

variable {db db' : Db} {now : Time} {id : Id}

/-- A value `DECIMAL(18,8)` has room for. -/
def InColumn (x : ℚ) : Prop := |roundPlaces 8 x| < 10 ^ 10

instance (x : ℚ) : Decidable (InColumn x) := inferInstanceAs (Decidable (_ < _))

/-- What a column takes, and what it stores. -/
theorem money_ok_iff {x y : ℚ} : money x = .ok y ↔ InColumn x ∧ y = roundPlaces 8 x := by
  by_cases h : |roundPlaces 8 x| < 10 ^ 10
  · rw [money_eq h]
    constructor
    · intro heq
      exact ⟨h, (Except.ok.inj heq).symm⟩
    · rintro ⟨-, rfl⟩
      rfl
  · rw [money_error h]
    constructor
    · intro heq; cases heq
    · rintro ⟨hin, -⟩
      exact absurd hin h

/-- A statement that goes through. -/
theorem sql_ok_iff {α : Type} {x : Except PgError α} {a : α} : sql x = .ok a ↔ x = .ok a := by
  constructor
  · exact sql_ok
  · rintro rfl
    rfl

/-- An update of the ledger that matches a row needs the trigger out of the way. -/
theorem updateLedger_ok_iff {p : CommissionRow → Bool} {f : CommissionRow → CommissionRow} :
    db.updateLedger p f = .ok db' ↔ (db.ledger.any p = true → db.ledgerTrigger = false) ∧
      db' = { db with ledger := updateWhere p f db.ledger } := by
  unfold Db.updateLedger
  cases ht : db.ledgerTrigger with
  | false =>
      simp only [Bool.false_and, Bool.false_eq_true, if_false, implies_true, true_and]
      exact ⟨fun heq => (Except.ok.inj heq).symm, fun heq => by rw [heq]⟩
  | true =>
      cases ha : db.ledger.any p with
      | true => simp
      | false =>
          simp only [Bool.and_false, Bool.false_eq_true, if_false, false_implies, true_and]
          exact ⟨fun heq => (Except.ok.inj heq).symm, fun heq => by rw [heq]⟩

/-! ## Frames -/

/-- A rewriting of ledger rows that leaves their ids, recipients and amounts. -/
structure CommissionRow.Restates (f : CommissionRow → CommissionRow) : Prop where
  id : ∀ r, (f r).id = r.id
  recipient : ∀ r, (f r).recipientUserId = r.recipientUserId
  amount : ∀ r, (f r).commissionAmount = r.commissionAmount

/-- A rewriting of payouts that leaves their ids, users and currencies. -/
structure Payout.Restates (f : Payout → Payout) : Prop where
  id : ∀ p, (f p).id = p.id
  userId : ∀ p, (f p).userId = p.userId
  currency : ∀ p, (f p).currency = p.currency

/-- What every statement keeps. -/
structure Frame (R : Db → Db → Prop) : Prop where
  refl : ∀ db, R db db
  trans : ∀ {db₁ db₂ db₃}, R db₁ db₂ → R db₂ db₃ → R db₁ db₃
  ensureWallet : ∀ user currency db, R db (db.ensureWallet user currency)
  updateWallet : ∀ {user currency changes db db'},
    db.updateWallet user currency changes = .ok db' → R db db'
  updateLedger : ∀ {p f} (db : Db), CommissionRow.Restates f →
    R db { db with ledger := updateWhere p f db.ledger }
  updatePayouts : ∀ {p f} (db : Db), Payout.Restates f →
    R db { db with payouts := updateWhere p f db.payouts }
  debit : ∀ {id currency} {db : Db} {wallets entries},
    db.wallets.mapM (debitWallet id currency db) = .ok wallets →
    R db { db with wallets := wallets, financeEntries := entries }

namespace Frame

variable {R : Db → Db → Prop}

theorem ledger (hR : Frame R) {p : CommissionRow → Bool} {f : CommissionRow → CommissionRow}
    (h : db.updateLedger p f = .ok db') (hf : CommissionRow.Restates f) : R db db' := by
  rw [updateLedger_ok h]
  exact hR.updateLedger db hf

/-- A transaction keeps what its body keeps whenever it succeeds. -/
theorem transaction (hR : Frame R) {ε α : Type} {body : Db → Except ε (α × Db)}
    (h : ∀ a db', body db = .ok (a, db') → R db db') : R db (transaction body db).2 :=
  transaction_invariant (hR.refl db) h

theorem transition (hR : Frame R) {target : CommissionStatus} {actorId : Option UserId}
    {reason : Option String} {amt : Option ℚ} {row : CommissionRow}
    (h : transitionLedgerAndWallet now id target actorId reason amt db = .ok (row, db')) :
    R db db' := by
  obtain ⟨row, db₂, -, -, h₂, h₃⟩ := transitionLedgerAndWallet_inv h
  refine hR.trans (hR.ensureWallet _ _ db) (hR.trans (hR.updateWallet h₂) ?_)
  exact hR.ledger h₃ ⟨fun _ => rfl, fun _ => rfl, fun _ => rfl⟩

theorem moveTotals (hR : Frame R) {src dest : Bucket} {ts : List ((UserId × Currency) × ℚ)}
    (h : moveTotals src dest ts db = .ok db') : R db db' := by
  induction ts generalizing db with
  | nil => cases h; exact hR.refl _
  | cons t ts ih =>
      obtain ⟨⟨user, currency⟩, amt⟩ := t
      obtain ⟨db₁, h₁, h⟩ := bind_ok h
      exact hR.trans (hR.ensureWallet user currency db) (hR.trans (hR.updateWallet h₁) (ih h))

theorem clearPhase (hR : Frame R) {due : CommissionRow → Bool}
    {advance : CommissionRow → CommissionRow} {src dest : Bucket} {n : ℕ}
    (h : clearPhase due advance src dest db = .ok (n, db'))
    (hadv : CommissionRow.Restates advance) : R db db' := by
  simp only [PredictATrade.Control.clearPhase] at h
  split at h
  · cases h; exact hR.refl db
  · obtain ⟨db₁, h₁, h⟩ := bind_ok h
    obtain ⟨db₂, h₂, h⟩ := bind_ok h
    cases h
    exact hR.trans (hR.ledger h₁ hadv) (hR.moveTotals h₂)

theorem clear (hR : Frame R) {out : ℕ × ℕ} (h : clearTx now db = .ok (out, db')) : R db db' := by
  obtain ⟨⟨n, db₁⟩, h₁, h⟩ := bind_ok h
  obtain ⟨⟨m, db₂⟩, h₂, h⟩ := bind_ok h
  cases h
  have hclear : R db db₁ := hR.clearPhase h₁ ⟨fun _ => rfl, fun _ => rfl, fun _ => rfl⟩
  exact hR.trans hclear (hR.clearPhase h₂ ⟨fun _ => rfl, fun _ => rfl, fun _ => rfl⟩)

theorem advance (hR : Frame R) {from_ : List PayoutStatus} {f : Payout → Payout} {refusal : String}
    {p : Payout} (h : advancePayout id from_ f refusal db = .ok (p, db'))
    (hf : Payout.Restates f) : R db db' := by
  obtain ⟨-, rfl⟩ := advancePayout_inv h
  exact hR.updatePayouts db hf

theorem close (hR : Frame R) {close : Payout → Payout} {refusal : String}
    (hf : Payout.Restates close) : R db (closePayout now id close refusal db).2 := by
  unfold closePayout
  cases hfree : db.freeReserved now id with
  | error e => exact hR.refl db
  | ok db₁ =>
      have hfirst : R db db₁ := hR.ledger hfree ⟨fun _ => rfl, fun _ => rfl, fun _ => rfl⟩
      exact hR.trans hfirst (hR.transaction fun _ _ h => hR.advance h hf)

theorem reconcile (hR : Frame R) {payload : ReconcilePayload} {p : Payout}
    (h : reconcileTx now id payload db = .ok (p, db')) : R db db' := by
  obtain ⟨fee, net, db₁, db₂, wallets, entries, h₁, h₂, hw, rfl⟩ := reconcileTx_inv h
  refine hR.trans (hR.advance h₁ ⟨fun _ => rfl, fun _ => rfl, fun _ => rfl⟩) (hR.trans ?_ (hR.debit hw))
  exact hR.ledger h₂ ⟨fun _ => rfl, fun _ => rfl, fun _ => rfl⟩

end Frame

/-- The call files a row or a record, which is more than the statements of a frame do. -/
def Call.files : Call → Bool
  | .creditReferral _ | .reverseCommission .. | .adjustCommission .. | .requestPayout .. => true
  | _ => false

/-- **A frame holds across every call that files nothing.** -/
theorem Frame.step {R : Db → Db → Prop} (hR : Frame R) (db : Db) {event : Time × Call}
    (h : event.2.files = false) : R db (step db event) := by
  obtain ⟨now, call⟩ := event
  cases call with
  | transitionCommission id target actorId reason =>
      exact hR.transaction fun _ _ hb => hR.transition hb
  | clearEligible => exact hR.transaction fun _ _ hb => hR.clear hb
  | approvePayout id approverId =>
      refine hR.transaction fun _ _ hb => ?_
      obtain ⟨total, -, hb⟩ := bind_ok hb
      exact hR.advance hb ⟨fun _ => rfl, fun _ => rfl, fun _ => rfl⟩
  | rejectPayout id reason => exact hR.close ⟨fun _ => rfl, fun _ => rfl, fun _ => rfl⟩
  | cancelPayout id reason => exact hR.close ⟨fun _ => rfl, fun _ => rfl, fun _ => rfl⟩
  | processPayout id =>
      exact hR.transaction fun _ _ hb => hR.advance hb ⟨fun _ => rfl, fun _ => rfl, fun _ => rfl⟩
  | retryPayout id =>
      exact hR.transaction fun _ _ hb => hR.advance hb ⟨fun _ => rfl, fun _ => rfl, fun _ => rfl⟩
  | reconcilePayout id payload => exact hR.transaction fun _ _ hb => hR.reconcile hb
  | creditReferral c => cases h
  | reverseCommission id reason actorId amount => cases h
  | adjustCommission id amount reason actorId => cases h
  | requestPayout userId dto => cases h

end PredictATrade.Control
