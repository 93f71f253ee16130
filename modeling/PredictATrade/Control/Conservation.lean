import PredictATrade.Control.Frames
import PredictATrade.Control.AtMostOnce
import PredictATrade.Control.Withdrawable

/-!
# `Control.Conservation` — what a reconciliation takes and what it settles

`reconcilePayout` marks the payout and its commissions PAID and then debits the wallet in a statement
that is guarded by `available_balance >= amt`; how many rows that statement changed is not looked at.
And a commission that was taken only in part, to hit the requested amount, is marked PAID as a whole.

`conserves_along_iff`: over any run from empty tables, every reconciliation debits the wallet by the
sum of the items and settles only commissions that items of PAID payouts cover, exactly when each
payout that is reconciled is `Backed`: the wallet covers the items, and the items, together with those
of payouts already PAID, cover the commissions.
-/

namespace PredictATrade.Control
open Lib.Table Lib.Runs Lib.Attempt Lib.Decimal

/-! ## What should hold -/

/-- `SUM(amount)` of the items of a payout, 0 when it has none. -/
def itemSum (id : Id) (db : Db) : ℚ := (itemTotal id db).getD 0

/-- How much of a commission the items of PAID payouts cover. -/
def paidShare (c : Id) (db : Db) : ℚ :=
  ((db.payoutItems.filter fun i => i.commissionId == c &&
    (db.payouts.find? (·.id == i.payoutId)).any (·.status == .paid)).map (·.amount)).sum

/-- The guarded statement of a reconciliation affects this wallet. -/
def Affects (id : Id) (currency : Currency) (db : Db) (w : Wallet) : Prop :=
  ∃ amt ∈ recipientTotal id w.userId db, w.currency = currency ∧ amt ≤ w.availableBalance

/-- The user's wallet in the payout's currency is affected, and the sum of the items goes from its
available balance to its paid one. -/
def DebitsWallet (payout : Payout) (db db' : Db) : Prop :=
  ∃ w w', db.wallets.find? (·.belongsTo payout.userId payout.currency) = some w ∧
    db'.wallets.find? (·.belongsTo payout.userId payout.currency) = some w' ∧
    Affects payout.id payout.currency db w ∧
    w'.availableBalance = w.availableBalance - itemSum payout.id db ∧
    w'.paidBalance = w.paidBalance + itemSum payout.id db

/-- Every row of the payout's items is covered by items of PAID payouts. -/
def Settles (id : Id) (db' : Db) : Prop :=
  ∀ r ∈ db'.ledger, db'.itemOf id r = true → r.commissionAmount ≤ paidShare r.id db'

/-- A reconciliation that commits conserves the money. -/
def Conserves (db : Db) (event : Time × Call) : Prop :=
  ∀ id payload payout, event.2 = .reconcilePayout id payload →
    (reconcilePayout event.1 id payload db).1 = .ok payout →
    DebitsWallet payout db (step db event) ∧ Settles id (step db event)

/-! ## What a reconciliation needs -/

/-- The net amount a reconciliation asks for. -/
def ReconcilePayload.net (payload : ReconcilePayload) (requested : ℚ) : ℚ :=
  payload.netAmount.getD (decMinus requested (payload.feeAmount.getD 0))

/-- When the reconciliation of a payout goes through. -/
def Reconciles (payload : ReconcilePayload) (p : Payout) (db : Db) : Prop :=
  0 < p.requestedAmount ∧ 0 ≤ payload.feeAmount.getD 0 ∧
    payload.feeAmount.getD 0 ≤ p.requestedAmount ∧ 0 < payload.net p.requestedAmount ∧
    payload.net p.requestedAmount ≤ p.requestedAmount ∧ InColumn (payload.feeAmount.getD 0) ∧
    InColumn (payload.net p.requestedAmount) ∧
    0 < roundPlaces 8 (payload.net p.requestedAmount) ∧ p.status ∈ reconcilableStatuses ∧
    (db.ledger.any (db.itemOf p.id) = true → db.ledgerTrigger = false) ∧
    (db.wallets.mapM (debitWallet p.id (orUsd p.currency) db)).isOk = true

instance (payload : ReconcilePayload) (p : Payout) (db : Db) : Decidable (Reconciles payload p db) := by
  unfold Reconciles; infer_instance

/-- The user has a wallet in the payout's currency, and it covers the items. -/
def WalletCovers (p : Payout) (db : Db) : Prop :=
  ∃ w ∈ db.wallets.find? (·.belongsTo p.userId p.currency), itemSum p.id db ≤ w.availableBalance

/-- How much of a commission the items of this payout and of PAID ones cover. -/
def shareWith (id c : Id) (db : Db) : ℚ :=
  ((db.payoutItems.filter fun i => i.commissionId == c && (i.payoutId == id ||
    (db.payouts.find? (·.id == i.payoutId)).any (·.status == .paid))).map (·.amount)).sum

/-- The items of the payout, with those of payouts already PAID, cover its commissions. -/
def ItemsCover (id : Id) (db : Db) : Prop :=
  ∀ r ∈ db.ledger, db.itemOf id r = true → r.commissionAmount ≤ shareWith id r.id db

instance (p : Payout) (db : Db) : Decidable (WalletCovers p db) := by
  unfold WalletCovers
  cases db.wallets.find? (·.belongsTo p.userId p.currency) with
  | none => exact .isFalse (by simp)
  | some w => exact decidable_of_iff (itemSum p.id db ≤ w.availableBalance) (by simp)

instance (id : Id) (db : Db) : Decidable (ItemsCover id db) := by
  unfold ItemsCover; infer_instance

/-- A payout that is reconciled is covered by the wallet, and covers its commissions. -/
def Backed (db : Db) (event : Time × Call) : Prop :=
  match event.2 with
  | .reconcilePayout id payload => ∀ p ∈ db.payouts.find? (·.id == id), Reconciles payload p db →
      WalletCovers p db ∧ ItemsCover id db
  | _ => True

instance (db : Db) : ∀ event : Time × Call, Decidable (Backed db event)
  | (_, .reconcilePayout id payload) =>
    inferInstanceAs (Decidable (∀ p ∈ db.payouts.find? (·.id == id), Reconciles payload p db →
      WalletCovers p db ∧ ItemsCover id db))
  | (_, .creditReferral _) | (_, .transitionCommission _ _ _ _) | (_, .reverseCommission _ _ _ _)
  | (_, .adjustCommission _ _ _ _) | (_, .clearEligible) | (_, .requestPayout _ _)
  | (_, .approvePayout _ _) | (_, .rejectPayout _ _) | (_, .cancelPayout _ _) | (_, .processPayout _)
  | (_, .retryPayout _) => .isTrue trivial

/-! ## What a reconciliation does -/

variable {db db' : Db} {now : Time} {id : Id}

/-- With ids of their own, the update of one payout finds that payout, if its status allows. -/
theorem advancePayout_eq (hk : Keyed db) {p : Payout} (hp : db.payouts.find? (·.id == id) = some p)
    (from_ : List PayoutStatus) (f : Payout → Payout) (refusal : String) :
    advancePayout id from_ f refusal db = if p.status ∉ from_ then .error (.badRequest refusal)
      else .ok (f p, { db with
        payouts := updateWhere (fun r => r.id == id && decide (r.status ∈ from_)) f db.payouts }) := by
  have hid : p.id = id := by simpa using List.find?_some hp
  have hone : db.payouts.filter (fun r => r.id == id) = [p] := by
    rw [← hid]
    exact filter_of_key (k := fun r : Payout => r.id) hk.payouts (List.mem_of_find?_eq_some hp)
  have hrows : db.payouts.filter (fun r => r.id == id && decide (r.status ∈ from_)) =
      if p.status ∈ from_ then [p] else [] := by
    have hsplit : db.payouts.filter (fun r => r.id == id && decide (r.status ∈ from_)) =
        (db.payouts.filter (fun r => r.id == id)).filter fun r => decide (r.status ∈ from_) := by
      rw [List.filter_filter]
      exact List.filter_congr fun r _ => Bool.and_comm _ _
    rw [hsplit, hone]
    by_cases hs : p.status ∈ from_ <;> simp [hs]
  unfold advancePayout Db.updatePayout
  simp only [hrows]
  by_cases hs : p.status ∈ from_
  · simp [hs]
  · simp [hs]

/-- The payout as a reconciliation leaves it. -/
def Payout.settled (now : Time) (payload : ReconcilePayload) (p : Payout) : Payout :=
  { p with
    status := .paid, paidAt := some now, providerReference := payload.providerReference
    feeAmount := roundPlaces 8 (payload.feeAmount.getD 0)
    netAmount := roundPlaces 8 (payload.net p.requestedAmount) }

/-- The tables after a reconciliation that went through. -/
structure PaysOut (now : Time) (p : Payout) (db db' : Db) : Prop where
  payouts : ∃ f : Payout → Payout, (∀ r, (f r).id = r.id ∧ (f r).status = .paid) ∧
    db'.payouts =
      updateWhere (fun r => r.id == p.id && decide (r.status ∈ reconcilableStatuses)) f db.payouts
  items : db'.payoutItems = db.payoutItems
  ledger : db'.ledger = updateWhere (db.itemOf p.id)
    (fun r => { r with status := .paid, paidAt := some now, updatedAt := now }) db.ledger
  wallets : db.wallets.mapM (debitWallet p.id (orUsd p.currency) db) = .ok db'.wallets

/-- Marking a payout and its rows leaves what the debit reads: the items, and whom the rows are owed
to. -/
theorem debitWallet_marked {currency : Currency} {q : CommissionRow → Bool}
    {f : CommissionRow → CommissionRow} (hf : CommissionRow.Restates f)
    (hitems : db'.payoutItems = db.payoutItems) (hled : db'.ledger = updateWhere q f db.ledger) :
    debitWallet id currency db' = debitWallet id currency db := by
  have hany : ∀ c user, (db'.commission c).any (·.recipientUserId == user) =
      (db.commission c).any (·.recipientUserId == user) := by
    intro c user
    have hfind : db'.commission c = (db.commission c).map fun r => if q r then f r else r := by
      unfold Db.commission
      rw [hled]
      exact find?_updateWhere fun r => by rw [hf.id]
    rw [hfind, Option.any_map]
    congr 1
    funext r
    by_cases hq : q r = true <;> simp [hq, hf.recipient]
  funext w
  unfold debitWallet recipientTotal
  simp only [hitems, hany]

/-- Marking rows PAID keeps what they are. -/
theorem markPaid_restates (now : Time) : CommissionRow.Restates fun r =>
    { r with status := .paid, paidAt := some now, updatedAt := now } :=
  ⟨fun _ => rfl, fun _ => rfl, fun _ => rfl⟩

/-- **What a reconciliation that went through did**, and what it took. -/
theorem reconcileTx_ok (hk : Keyed db) {payload : ReconcilePayload} {payout : Payout}
    (h : reconcileTx now id payload db = .ok (payout, db')) :
    ∃ p, db.payouts.find? (·.id == id) = some p ∧ Reconciles payload p db ∧
      payout = p.settled now payload ∧ PaysOut now p db db' := by
  unfold reconcileTx at h
  cases hp : db.payouts.find? (·.id == id) with
  | none => simp [hp] at h
  | some p =>
      have hid : p.id = id := by simpa using List.find?_some hp
      subst hid
      simp only [hp] at h
      obtain ⟨hreq, h⟩ := guard_ok h
      obtain ⟨hfee, h⟩ := guard_ok h
      obtain ⟨hnet, h⟩ := guard_ok h
      obtain ⟨fee, hf, h⟩ := bind_ok h
      obtain ⟨net, hn, h⟩ := bind_ok h
      obtain ⟨⟨payout', db₁⟩, h₁, h⟩ := bind_ok h
      obtain ⟨db₂, h₂, h⟩ := bind_ok h
      obtain ⟨wallets, hw, h⟩ := bind_ok h
      obtain ⟨hstored, h⟩ := guard_ok h
      cases h
      obtain ⟨hfin, rfl⟩ := money_ok_iff.mp (sql_ok hf)
      obtain ⟨hnin, rfl⟩ := money_ok_iff.mp (sql_ok hn)
      rw [advancePayout_eq hk hp] at h₁
      obtain ⟨hst, h₁⟩ := guard_ok h₁
      obtain ⟨hpay, hdb₁⟩ := Prod.mk.inj (Except.ok.inj h₁)
      have hbooked : 0 < roundPlaces 8 (payload.net p.requestedAmount) := by
        rw [← hpay] at hstored
        exact not_le.mp hstored
      obtain ⟨htrig, hdb₂⟩ := updateLedger_ok_iff.mp (sql_ok h₂)
      have hitem : db₁.itemOf p.id = db.itemOf p.id := by rw [← hdb₁]; rfl
      have hled : db₂.ledger = updateWhere (db.itemOf p.id)
          (fun r => { r with status := .paid, paidAt := some now, updatedAt := now }) db.ledger := by
        rw [hdb₂, hitem, ← hdb₁]
      have hitems : db₂.payoutItems = db.payoutItems := by rw [hdb₂, ← hdb₁]
      have hsame : db₂.wallets = db.wallets := by rw [hdb₂, ← hdb₁]
      have hw' : db.wallets.mapM (debitWallet p.id (orUsd p.currency) db) = .ok wallets := by
        have hw' := sql_ok hw
        rw [← hpay, debitWallet_marked (markPaid_restates now) hitems hled, hsame] at hw'
        exact hw'
      refine ⟨p, rfl, ⟨not_le.mp hreq, not_lt.mp fun hlt => hfee (Or.inl hlt),
        not_lt.mp fun hlt => hfee (Or.inr hlt), not_le.mp fun hle => hnet (Or.inl hle),
        not_lt.mp fun hlt => hnet (Or.inr hlt), hfin, hnin, hbooked, not_not.mp hst, ?_,
        by rw [hw']; rfl⟩,
        hpay.symm, ⟨?_, hitems, hled, hw'⟩⟩
      · rw [hitem, ← hdb₁] at htrig
        exact htrig
      · have hpayouts : db₂.payouts = db₁.payouts := by rw [hdb₂]
        show ∃ f : Payout → Payout, _ ∧ db₂.payouts = _
        rw [hpayouts, ← hdb₁]
        refine ⟨_, ?_, rfl⟩
        exact fun r => ⟨rfl, rfl⟩

/-- **When a reconciliation goes through.** -/
theorem reconcileTx_of_reconciles (hk : Keyed db) (now : Time) {payload : ReconcilePayload}
    {p : Payout} (hp : db.payouts.find? (·.id == id) = some p) (h : Reconciles payload p db) :
    ∃ out, reconcileTx now id payload db = .ok out := by
  have hid : p.id = id := by simpa using List.find?_some hp
  subst hid
  obtain ⟨hreq, hfee, hfee', hnet, hnet', hfin, hnin, hbooked, hst, htrig, hw⟩ := h
  obtain ⟨wallets, hw⟩ : ∃ ws, db.wallets.mapM (debitWallet p.id (orUsd p.currency) db) = .ok ws := by
    cases hws : db.wallets.mapM (debitWallet p.id (orUsd p.currency) db) with
    | error e => rw [hws] at hw; cases hw
    | ok ws => exact ⟨ws, rfl⟩
  unfold reconcileTx
  simp only [hp, exists_guard_ok, exists_bind_ok, sql_ok_iff, money_ok_iff, not_or, not_le, not_lt,
    advancePayout_eq hk hp]
  refine ⟨hreq, ⟨hfee, hfee'⟩, ⟨hnet, hnet'⟩, _, ⟨hfin, rfl⟩, _, ⟨hnin, rfl⟩, _,
    if_neg (not_not.mpr hst), _, updateLedger_ok_iff.mpr ⟨htrig, rfl⟩, wallets, ?_, hbooked, _, rfl⟩
  refine Eq.trans ?_ hw
  congr 1
  exact debitWallet_marked (markPaid_restates now) rfl rfl

/-! ## What every call keeps of payouts, items and wallets -/

/-- Balances as their columns store them. -/
def Wallet.Stored (w : Wallet) : Prop := ∀ b, HasPlaces 8 (w.balance b)

/-- Payouts keep their users and currencies, items and the recipients of rows stay, and wallets hold
what columns can store. -/
structure SameItems (db db' : Db) : Prop where
  payouts : db'.payouts.map (fun p => (p.id, p.userId, p.currency)) =
    db.payouts.map fun p => (p.id, p.userId, p.currency)
  items : db'.payoutItems = db.payoutItems
  recipients : db'.ledger.map (fun r => (r.id, r.recipientUserId)) =
    db.ledger.map fun r => (r.id, r.recipientUserId)
  wallets : (∀ w ∈ db.wallets, w.Stored) → ∀ w ∈ db'.wallets, w.Stored
  nextId : db.nextId ≤ db'.nextId

theorem setBalance_balance (w : Wallet) (v : ℚ) (b c : Bucket) :
    (w.setBalance v b).balance c = if c = b then v else w.balance c := by
  cases b <;> cases c <;> rfl

/-- A statement on a wallet leaves stored balances. -/
theorem shift_stored {changes : List (Bucket × ℚ)} {w w' : Wallet}
    (h : w.shift changes = .ok w') (hw : w.Stored) : w'.Stored := by
  unfold Wallet.shift at h
  induction changes generalizing w with
  | nil => cases h; exact hw
  | cons c changes ih =>
      rw [List.foldlM_cons] at h
      obtain ⟨w₁, h₁, h⟩ := bind_ok h
      refine ih h fun b => ?_
      obtain ⟨v, hv, h₁⟩ := bind_ok h₁
      obtain ⟨-, rfl⟩ := money_ok_iff.mp hv
      cases h₁
      rw [setBalance_balance]
      split
      · exact hasPlaces_roundPlaces 8 _
      · exact hw b

theorem debitWallet_stored {currency : Currency} {w w' : Wallet}
    (h : debitWallet id currency db w = .ok w') (hw : w.Stored) : w'.Stored := by
  unfold debitWallet at h
  cases hr : recipientTotal id w.userId db with
  | none => simp only [hr] at h; cases h; exact hw
  | some amt =>
      simp only [hr] at h
      split at h
      · exact shift_stored h hw
      · cases h; exact hw

/-- A wallet that was just created. -/
theorem newWallet_stored (user : UserId) (currency : Currency) :
    ({ userId := user, currency := currency } : Wallet).Stored := by
  intro b
  cases b <;> exact HasPlaces.zero 8

theorem updateWallet_stored {user : UserId} {currency : Currency} {changes : List (Bucket × ℚ)}
    (h : db.updateWallet user currency changes = .ok db') (hw : ∀ w ∈ db.wallets, w.Stored) :
    ∀ w ∈ db'.wallets, w.Stored := by
  obtain ⟨ws, hws, h⟩ := bind_ok h
  cases h
  intro w' hw'
  obtain ⟨w, hmem, hw₁⟩ := mapM_ok_mem hws hw'
  split at hw₁
  · exact shift_stored hw₁ (hw w hmem)
  · cases hw₁; exact hw _ hmem

/-- Every statement of the services keeps items, and wallets as they are stored. -/
theorem sameItems_frame : Frame SameItems where
  refl _ := ⟨rfl, rfl, rfl, fun h => h, le_rfl⟩
  trans h h' := ⟨h'.payouts.trans h.payouts, h'.items.trans h.items,
    h'.recipients.trans h.recipients, fun hw => h'.wallets (h.wallets hw), h.nextId.trans h'.nextId⟩
  ensureWallet user currency db := by
    unfold Db.ensureWallet
    split
    · exact ⟨rfl, rfl, rfl, fun h => h, le_rfl⟩
    · refine ⟨rfl, rfl, rfl, fun h w hw => ?_, le_rfl⟩
      rcases List.mem_append.mp hw with hw | hw
      · exact h w hw
      · rw [List.mem_singleton.mp hw]
        exact newWallet_stored user currency
  updateWallet h := by
    have hdb := updateWallet_ok h
    exact ⟨by rw [hdb], by rw [hdb], by rw [hdb], updateWallet_stored h, by rw [hdb]⟩
  updateLedger db hf :=
    ⟨rfl, rfl, map_updateWhere fun r => by rw [hf.id, hf.recipient], fun h => h, le_rfl⟩
  updatePayouts db hf :=
    ⟨map_updateWhere fun p => by rw [hf.id, hf.userId, hf.currency], rfl, rfl, fun h => h, le_rfl⟩
  debit h := by
    refine ⟨rfl, rfl, rfl, fun hw w' hw' => ?_, le_rfl⟩
    obtain ⟨w, hmem, hw₁⟩ := mapM_ok_mem h hw'
    exact debitWallet_stored hw₁ (hw w hmem)

theorem SameItems.insertAdjustment {a : Adjustment} (h : db.insertAdjustment a = .ok db') :
    SameItems db db' := by
  obtain ⟨amount, -, h⟩ := bind_ok h
  cases h
  exact ⟨rfl, rfl, rfl, fun h => h, le_rfl⟩

theorem SameItems.reverse {reason : String} {actorId : UserId} {amount : Option ℚ}
    {out : Option CommissionRow} (h : reverseTx now id reason actorId amount db = .ok (out, db')) :
    SameItems db db' := by
  obtain ⟨row, db₁, -, ⟨h₁, h₂⟩ | ⟨updated, h₁, h₂⟩⟩ := reverseTx_inv h
  · exact sameItems_frame.trans (sameItems_frame.updateWallet h₁) (SameItems.insertAdjustment h₂)
  · exact sameItems_frame.trans (sameItems_frame.transition h₁) (SameItems.insertAdjustment h₂)

theorem SameItems.adjust {delta : ℚ} {reason : String} {actorId : UserId} {out : Id × ℚ}
    (h : adjustTx now id delta reason actorId db = .ok (out, db')) : SameItems db db' := by
  obtain ⟨row, stored, db₁, db₂, -, h₁, -, h₂, h₄⟩ := adjustTx_inv h
  have hled : SameItems db₁ db₂ := by
    rw [updateLedger_ok h₂]
    exact ⟨rfl, rfl, map_updateWhere fun _ => rfl, fun h => h, le_rfl⟩
  exact sameItems_frame.trans (SameItems.insertAdjustment h₁) (sameItems_frame.trans hled
    (sameItems_frame.trans (sameItems_frame.ensureWallet _ _ db₂) (sameItems_frame.updateWallet h₄)))

/-! ## The invariant -/

/-- Every payout has items, for rows of its own user; items and wallets hold stored amounts. -/
structure Itemised (db : Db) : Prop where
  named : ∀ p ∈ db.payouts, p.currency ≠ ""
  filled : ∀ p ∈ db.payouts, ∃ i ∈ db.payoutItems, i.payoutId = p.id
  owned : ∀ p ∈ db.payouts, ∀ i ∈ db.payoutItems, i.payoutId = p.id →
    ∃ r ∈ db.ledger, r.id = i.commissionId ∧ r.recipientUserId = p.userId
  fresh : ∀ i ∈ db.payoutItems, i.payoutId < db.nextId
  amounts : ∀ i ∈ db.payoutItems, HasPlaces 8 i.amount
  wallets : ∀ w ∈ db.wallets, w.Stored

theorem Opening.itemised (h : Opening db) : Itemised db := by
  obtain ⟨-, -, hw, hp, hi⟩ := h
  refine ⟨?_, ?_, ?_, ?_, ?_, ?_⟩
  · rw [hp]; exact fun p hmem => absurd hmem List.not_mem_nil
  · rw [hp]; exact fun p hmem => absurd hmem List.not_mem_nil
  · rw [hp]; exact fun p hmem => absurd hmem List.not_mem_nil
  · rw [hi]; exact fun i hmem => absurd hmem List.not_mem_nil
  · rw [hi]; exact fun i hmem => absurd hmem List.not_mem_nil
  · rw [hw]; exact fun w hmem => absurd hmem List.not_mem_nil

/-- A payout of the tables afterwards is one of the tables before. -/
theorem SameItems.payout (h : SameItems db db') {p : Payout} (hp : p ∈ db'.payouts) :
    ∃ q ∈ db.payouts, q.id = p.id ∧ q.userId = p.userId ∧ q.currency = p.currency := by
  have hmem : (p.id, p.userId, p.currency) ∈
      db.payouts.map fun p => (p.id, p.userId, p.currency) := by
    rw [← h.payouts]
    exact List.mem_map_of_mem hp
  obtain ⟨q, hq, heq⟩ := List.mem_map.mp hmem
  simp only [Prod.mk.injEq] at heq
  exact ⟨q, hq, heq.1, heq.2.1, heq.2.2⟩

/-- A row of the tables before is there afterwards, with its recipient. -/
theorem recipient_mem {f : CommissionRow → Id × UserId} {l l' : List CommissionRow}
    (h : ∀ x ∈ l.map f, x ∈ l'.map f) {r : CommissionRow} (hr : r ∈ l) : ∃ r' ∈ l', f r' = f r := by
  obtain ⟨r', hr', heq⟩ := List.mem_map.mp (h (f r) (List.mem_map_of_mem hr))
  exact ⟨r', hr', heq⟩

theorem Itemised.same (h : Itemised db) (hs : SameItems db db') : Itemised db' := by
  refine ⟨?_, ?_, ?_, ?_, ?_, hs.wallets h.wallets⟩
  · intro p hp
    obtain ⟨q, hq, -, -, hcur⟩ := hs.payout hp
    rw [← hcur]
    exact h.named q hq
  · intro p hp
    obtain ⟨q, hq, hid, -, -⟩ := hs.payout hp
    rw [hs.items, ← hid]
    exact h.filled q hq
  · intro p hp i hi hip
    obtain ⟨q, hq, hid, huser, -⟩ := hs.payout hp
    rw [hs.items] at hi
    obtain ⟨r, hr, hrid, hrec⟩ := h.owned q hq i hi (by rw [hip, hid])
    obtain ⟨r', hr', heq⟩ := recipient_mem (f := fun r => (r.id, r.recipientUserId))
      (fun x hx => by rw [hs.recipients]; exact hx) hr
    simp only [Prod.mk.injEq] at heq
    exact ⟨r', hr', by rw [heq.1, hrid], by rw [heq.2, hrec, huser]⟩
  · intro i hi
    rw [hs.items] at hi
    exact lt_of_lt_of_le (h.fresh i hi) hs.nextId
  · intro i hi
    rw [hs.items] at hi
    exact h.amounts i hi

/-- A credit files rows and nothing about payouts. -/
theorem Itemised.credit (h : Itemised db) (now : Time) (c : CreditCall) :
    Itemised (creditReferral now c db).2 := by
  by_cases hins : ∃ e, Inserts now c db e
  · obtain ⟨e, he⟩ := hins
    obtain ⟨events, hc⟩ := creditReferral_of_inserts he
    rw [hc]
    refine ⟨h.named, h.filled, fun p hp i hi hip => ?_, fun i hi => ?_, h.amounts, h.wallets⟩
    · obtain ⟨r, hr, hrid⟩ := h.owned p hp i hi hip
      exact ⟨r, List.mem_append_left _ hr, hrid⟩
    · exact Nat.lt_succ_of_lt (h.fresh i hi)
  · have hno : ∀ e, ¬ Inserts now c db e := fun e he => hins ⟨e, he⟩
    obtain ⟨events, hc⟩ := creditReferral_of_not_inserts hno
    rw [hc]
    exact ⟨h.named, h.filled, h.owned, h.fresh, h.amounts, h.wallets⟩

/-- What the items inserted for a payout are. -/
theorem insertItems_mem {payoutId : Id} {items : List (Id × ℚ)} {rows : List PayoutItem}
    (h : insertItems payoutId items = .ok rows) {i : PayoutItem} (hi : i ∈ rows) :
    i.payoutId = payoutId ∧ i.commissionId ∈ items.map (·.1) ∧ HasPlaces 8 i.amount := by
  have hmem := (insertItems_ok h i.payoutId i.commissionId).mp ⟨i, hi, rfl, rfl⟩
  refine ⟨hmem.1, hmem.2, ?_⟩
  induction items generalizing rows with
  | nil => cases h; cases hi
  | cons it items ih =>
      obtain ⟨commissionId, amt⟩ := it
      obtain ⟨amount, ha, h⟩ := bind_ok h
      obtain ⟨rest, hrest, h⟩ := bind_ok h
      cases h
      obtain ⟨-, rfl⟩ := money_ok_iff.mp ha
      rcases List.mem_cons.mp hi with rfl | hi
      · exact hasPlaces_roundPlaces 8 amt
      · exact ih hrest hi ((insertItems_ok hrest i.payoutId i.commissionId).mp ⟨i, hi, rfl, rfl⟩)

theorem currencyCode_ne (dto : PayoutRequest) : dto.currencyCode ≠ "" := by
  unfold PayoutRequest.currencyCode orUsd
  split
  · decide
  · assumption

/-- A request files a payout with items for rows of its user. -/
theorem Itemised.request (h : Itemised db) (hk : Keyed db) {userId : UserId} {dto : PayoutRequest}
    {reply : PayoutReply} (hb : requestTx now userId dto db = .ok (reply, db')) : Itemised db' := by
  rcases requestTx_ok hb with ⟨p, -, -, rfl⟩ | ⟨-, amount, items, remaining, hv, hres, hrem, hw⟩
  · exact h
  · have hne := reserveFifo_ne_nil hv hres hrem
    have hrow : ∀ c ∈ items.map (·.1), ∃ r ∈ db.ledger, r.id = c ∧ r.recipientUserId = userId := by
      intro c hc
      obtain ⟨r, hr, hrc⟩ := reserveFifo_mem (by rw [hres]; exact hc)
      rw [eligibleRows, List.mem_insertionSort, List.mem_filter] at hr
      have hrec := hr.2
      simp only [Bool.and_eq_true, beq_iff_eq] at hrec
      exact ⟨r, hr.1, hrc, hrec.1.1⟩
    unfold writeRequest at hw
    obtain ⟨requested, -, hw⟩ := bind_ok hw
    obtain ⟨-, hw⟩ := guard_ok hw
    obtain ⟨rows, hrows, hw⟩ := bind_ok hw
    obtain ⟨db₂, h₂, hw⟩ := bind_ok hw
    cases hw
    have hdb := updateLedger_ok h₂
    -- the rows that become RESERVED keep their ids and recipients
    have hled : db'.ledger.map (fun r => (r.id, r.recipientUserId)) =
        db.ledger.map fun r => (r.id, r.recipientUserId) := by
      rw [hdb]
      exact map_updateWhere fun _ => rfl
    have hkeep : ∀ {r}, r ∈ db.ledger → ∃ r' ∈ db'.ledger,
        (r'.id, r'.recipientUserId) = (r.id, r.recipientUserId) := by
      intro r hr
      refine recipient_mem (f := fun r => (r.id, r.recipientUserId)) (fun x hx => ?_) hr
      rw [hled]
      exact hx
    have hpay : db'.payouts = db.payouts ++ [newPayout userId dto requested db] := by rw [hdb]
    have hitems : db'.payoutItems = db.payoutItems ++ rows := by rw [hdb]
    have hnext : db'.nextId = db.nextId + 1 := by rw [hdb]
    have hwal : db'.wallets = db.wallets := by rw [hdb]
    refine ⟨fun p hp => ?_, fun p hp => ?_, fun p hp i hi hip => ?_, fun i hi => ?_, fun i hi => ?_,
      by rw [hwal]; exact h.wallets⟩
    · rw [hpay, List.mem_append, List.mem_singleton] at hp
      rcases hp with hp | rfl
      · exact h.named p hp
      · exact currencyCode_ne dto
    · rw [hpay, List.mem_append, List.mem_singleton] at hp
      rw [hitems]
      rcases hp with hp | rfl
      · obtain ⟨i, hi, hid⟩ := h.filled p hp
        exact ⟨i, List.mem_append_left _ hi, hid⟩
      · obtain ⟨it, hit⟩ := List.exists_mem_of_ne_nil items hne
        obtain ⟨i, hi, hid, -⟩ := (insertItems_ok hrows db.nextId it.1).mpr
          ⟨rfl, List.mem_map_of_mem hit⟩
        exact ⟨i, List.mem_append_right _ hi, hid⟩
    · rw [hpay, List.mem_append, List.mem_singleton] at hp
      rw [hitems, List.mem_append] at hi
      have hrow' : ∃ r ∈ db.ledger, r.id = i.commissionId ∧ r.recipientUserId = p.userId := by
        rcases hp with hp | rfl
        · rcases hi with hi | hi
          · exact h.owned p hp i hi hip
          · -- the new items are for the new payout only
            have hid := (insertItems_mem hrows hi).1
            have hlt := hk.payoutsFresh p.id (List.mem_map_of_mem hp)
            rw [← hip, hid] at hlt
            exact absurd hlt (lt_irrefl _)
        · rcases hi with hi | hi
          · have hlt := h.fresh i hi
            rw [hip] at hlt
            exact absurd hlt (lt_irrefl _)
          · exact hrow _ (insertItems_mem hrows hi).2.1
      obtain ⟨r, hr, hrid, hrec⟩ := hrow'
      obtain ⟨r', hr', heq⟩ := hkeep hr
      simp only [Prod.mk.injEq] at heq
      exact ⟨r', hr', by rw [heq.1, hrid], by rw [heq.2, hrec]⟩
    · rw [hitems, List.mem_append] at hi
      rw [hnext]
      rcases hi with hi | hi
      · exact Nat.lt_succ_of_lt (h.fresh i hi)
      · rw [(insertItems_mem hrows hi).1]
        exact Nat.lt_succ_self _
    · rw [hitems, List.mem_append] at hi
      rcases hi with hi | hi
      · exact h.amounts i hi
      · exact (insertItems_mem hrows hi).2.2

/-- **The step lemma.** Every call keeps the items in order. -/
theorem itemised_step {event : Time × Call} (h : Itemised db) (hk : Keyed db) :
    Itemised (step db event) := by
  obtain ⟨now, call⟩ := event
  cases call with
  | creditReferral c => exact h.credit now c
  | reverseCommission id reason actorId amount =>
      exact transaction_invariant h fun _ _ hb => h.same (SameItems.reverse hb)
  | adjustCommission id amount reason actorId =>
      cases amount with
      | none => exact h
      | some delta => exact transaction_invariant h fun _ _ hb => h.same (SameItems.adjust hb)
  | requestPayout userId dto => exact transaction_invariant h fun _ _ hb => h.request hk hb
  | _ => exact h.same (sameItems_frame.step db rfl)

/-! ## The debit -/

/-- In order, the items of a payout are owed to the payout's user and to nobody else. -/
theorem Itemised.recipientTotal (h : Itemised db) (hk : Keyed db) {p : Payout} (hp : p ∈ db.payouts) :
    recipientTotal p.id p.userId db = some (itemSum p.id db) := by
  have hfilter : (db.payoutItems.filter fun i =>
      i.payoutId == p.id && (db.commission i.commissionId).any (·.recipientUserId == p.userId)) =
      db.payoutItems.filter (·.payoutId == p.id) := by
    refine List.filter_congr fun i hi => ?_
    by_cases hid : i.payoutId = p.id
    · obtain ⟨r, hr, hrid, hrec⟩ := h.owned p hp i hi hid
      have hc : db.commission i.commissionId = some r := by
        rw [← hrid]
        exact commission_of_mem hk hr
      simp [hid, hc, hrec]
    · simp [hid]
  have hne : (db.payoutItems.filter (·.payoutId == p.id)).isEmpty = false := by
    obtain ⟨i, hi, hid⟩ := h.filled p hp
    have hmem : i ∈ db.payoutItems.filter (·.payoutId == p.id) :=
      List.mem_filter.mpr ⟨hi, by simpa using hid⟩
    cases hl : db.payoutItems.filter (·.payoutId == p.id) with
    | nil => rw [hl] at hmem; cases hmem
    | cons j js => rfl
  unfold PredictATrade.Control.recipientTotal itemSum itemTotal
  simp only [hfilter, hne]
  rfl

theorem Itemised.itemSum_places (h : Itemised db) (id : Id) : HasPlaces 8 (itemSum id db) := by
  unfold itemSum itemTotal
  by_cases he : (db.payoutItems.filter (·.payoutId == id)).isEmpty = true
  · simp only [he, if_true]
    exact HasPlaces.zero 8
  · simp only [he]
    refine HasPlaces.sum fun x hx => ?_
    obtain ⟨i, hi, rfl⟩ := List.mem_map.mp hx
    exact h.amounts i (List.mem_filter.mp hi).1

/-- A debit of stored amounts moves exactly the amount. -/
theorem shift_debit {w w' : Wallet} {amt : ℚ} (hw : w.Stored) (ha : HasPlaces 8 amt)
    (h : w.shift [(.availableBalance, -amt), (.paidBalance, amt)] = .ok w') :
    w'.availableBalance = w.availableBalance - amt ∧ w'.paidBalance = w.paidBalance + amt := by
  unfold Wallet.shift at h
  rw [List.foldlM_cons] at h
  obtain ⟨w₁, h₁, h⟩ := bind_ok h
  obtain ⟨v₁, hv₁, h₁⟩ := bind_ok h₁
  rw [List.foldlM_cons] at h
  obtain ⟨w₂, h₂, h⟩ := bind_ok h
  obtain ⟨v₂, hv₂, h₂⟩ := bind_ok h₂
  rw [List.foldlM_nil] at h
  cases h₁
  cases h₂
  cases h
  obtain ⟨-, rfl⟩ := money_ok_iff.mp hv₁
  obtain ⟨-, rfl⟩ := money_ok_iff.mp hv₂
  have havail : HasPlaces 8 (w.availableBalance + -amt) := (hw .availableBalance).add ha.neg
  have hpaid : HasPlaces 8 (w.paidBalance + amt) := (hw .paidBalance).add ha
  constructor
  · show roundPlaces 8 (w.availableBalance + -amt) = _
    rw [roundPlaces_of_hasPlaces havail, sub_eq_add_neg]
  · show roundPlaces 8 (w.paidBalance + amt) = _
    exact roundPlaces_of_hasPlaces hpaid

/-- A debit leaves whose wallet it is. -/
theorem debitWallet_belongsTo {currency : Currency} {w w' : Wallet}
    (h : debitWallet id currency db w = .ok w') (user : UserId) (c : Currency) :
    w'.belongsTo user c = w.belongsTo user c := by
  have hset : ∀ (w : Wallet) v b, (w.setBalance v b).belongsTo user c = w.belongsTo user c := by
    intro w v b
    cases b <;> rfl
  have hshift : ∀ {changes : List (Bucket × ℚ)} {w w' : Wallet}, w.shift changes = .ok w' →
      w'.belongsTo user c = w.belongsTo user c := by
    intro changes
    unfold Wallet.shift
    induction changes with
    | nil => intro w w' h; cases h; rfl
    | cons b changes ih =>
        intro w w' h
        rw [List.foldlM_cons] at h
        obtain ⟨w₁, h₁, h⟩ := bind_ok h
        obtain ⟨v, -, h₁⟩ := bind_ok h₁
        cases h₁
        rw [ih h, hset]
  unfold debitWallet at h
  cases hr : PredictATrade.Control.recipientTotal id w.userId db with
  | none => simp only [hr] at h; cases h; rfl
  | some amt =>
      simp only [hr] at h
      split at h
      · exact hshift h
      · cases h; rfl

/-- **The wallet is debited exactly when it covers the items.** -/
theorem debitsWallet_iff (h : Itemised db) (hk : Keyed db) {p : Payout} (hp : p ∈ db.payouts)
    {payload : ReconcilePayload} (hpays : PaysOut now p db db') :
    DebitsWallet (p.settled now payload) db db' ↔ WalletCovers p db := by
  have htotal := h.recipientTotal hk hp
  have hcur : orUsd p.currency = p.currency := if_neg (h.named p hp)
  constructor
  · rintro ⟨w, w', hw, -, ⟨amt, hamt, -, hle⟩, -, -⟩
    refine ⟨w, hw, ?_⟩
    have huser : w.userId = p.userId := by
      have hb := List.find?_some hw
      simp only [Wallet.belongsTo, Bool.and_eq_true, beq_iff_eq] at hb
      exact hb.1
    have heq : recipientTotal p.id w.userId db = some amt := hamt
    rw [huser, htotal] at heq
    rw [Option.some.inj heq]
    exact hle
  · rintro ⟨w, hw, hle⟩
    have hb : w.userId = p.userId ∧ w.currency = p.currency := by
      have hb := List.find?_some hw
      simp only [Wallet.belongsTo, Bool.and_eq_true, beq_iff_eq] at hb
      exact hb
    rcases mapM_ok_find? (q := (·.belongsTo p.userId p.currency))
      (fun a b hab => debitWallet_belongsTo hab _ _) hpays.wallets with ⟨-, hnone⟩ | ⟨a, w', ha, hw', hd⟩
    · have hsome : db.wallets.find? (·.belongsTo p.userId p.currency) = some w := hw
      rw [hnone] at hsome
      cases hsome
    · have haw : a = w := by
        have hsome : db.wallets.find? (·.belongsTo p.userId p.currency) = some w := hw
        rw [ha] at hsome
        exact Option.some.inj hsome
      subst haw
      have hmem : a ∈ db.wallets := List.mem_of_find?_eq_some ha
      unfold debitWallet at hd
      rw [hb.1, htotal] at hd
      simp only [hcur, hb.2, hle, and_self, if_true] at hd
      obtain ⟨havail, hpaid⟩ := shift_debit (h.wallets a hmem) (h.itemSum_places p.id) hd
      refine ⟨a, w', ha, hw', ⟨itemSum p.id db, ?_, hb.2, hle⟩, havail, hpaid⟩
      show recipientTotal p.id a.userId db = some _
      rw [hb.1]
      exact htotal

/-! ## The items -/

/-- The payouts PAID afterwards are those PAID before, and this one. -/
theorem PaysOut.paid_iff {p : Payout} (h : PaysOut now p db db') (hk : Keyed db)
    (hp : p ∈ db.payouts) (hst : p.status ∈ reconcilableStatuses) (q : Id) :
    (db'.payouts.find? (·.id == q)).any (·.status == .paid) =
      (q == p.id || (db.payouts.find? (·.id == q)).any (·.status == .paid)) := by
  obtain ⟨f, hf, hpay⟩ := h.payouts
  have hfind : db'.payouts.find? (·.id == q) = (db.payouts.find? (·.id == q)).map fun r =>
      if (r.id == p.id && decide (r.status ∈ reconcilableStatuses)) = true then f r else r := by
    rw [hpay]
    exact find?_updateWhere fun r => by rw [(hf r).1]
  rw [hfind, Option.any_map]
  by_cases hq : q = p.id
  · have hsome : db.payouts.find? (·.id == q) = some p := by
      rw [hq]
      exact find?_of_key (k := fun s : Payout => s.id) hk.payouts hp
    rw [hsome]
    simp [hq, hst, (hf p).2]
  · cases hr : db.payouts.find? (·.id == q) with
    | none => simp [hq]
    | some r =>
        have hrid : r.id = q := by simpa using List.find?_some hr
        simp [hrid, hq]

/-- **The commissions are settled exactly when the items cover them.** -/
theorem settles_iff {p : Payout} (h : PaysOut now p db db') (hk : Keyed db) (hp : p ∈ db.payouts)
    (hst : p.status ∈ reconcilableStatuses) : Settles p.id db' ↔ ItemsCover p.id db := by
  have hshare : ∀ c, paidShare c db' = shareWith p.id c db := by
    intro c
    unfold paidShare shareWith
    rw [h.items]
    simp only [h.paid_iff hk hp hst]
  have hitem : db'.itemOf p.id = db.itemOf p.id := by
    unfold Db.itemOf
    rw [h.items]
  unfold Settles ItemsCover
  rw [hitem, h.ledger]
  constructor
  · intro hall r hr hri
    have hafter := hall { r with status := .paid, paidAt := some now, updatedAt := now }
      (mem_updateWhere.mpr ⟨r, hr, if_pos hri⟩) hri
    rw [hshare] at hafter
    exact hafter
  · intro hall r' hr' hri
    obtain ⟨r, hr, rfl⟩ := mem_updateWhere.mp hr'
    rw [hshare]
    by_cases hin : db.itemOf p.id r = true
    · rw [if_pos hin]
      exact hall r hr hin
    · rw [if_neg hin] at hri
      exact absurd hri hin

/-! ## Runs -/

/-- A call conserves the money exactly when the payout it reconciles, if any, is backed. -/
theorem conserves_iff (h : Itemised db) (hk : Keyed db) (event : Time × Call) :
    Conserves db event ↔ Backed db event := by
  obtain ⟨now, call⟩ := event
  constructor
  · intro hc
    cases call with
    | reconcilePayout id payload =>
        intro p hp hrec
        have hid : p.id = id := by simpa using List.find?_some hp
        subst hid
        have hmem : p ∈ db.payouts := List.mem_of_find?_eq_some hp
        obtain ⟨⟨payout, db'⟩, hb⟩ := reconcileTx_of_reconciles hk now hp hrec
        obtain ⟨q, hq, -, rfl, hpays⟩ := reconcileTx_ok hk hb
        have hqp : q = p := by
          have hsome : db.payouts.find? (·.id == p.id) = some p := hp
          rw [hq] at hsome
          exact Option.some.inj hsome
        subst hqp
        have hstep : step db (now, .reconcilePayout q.id payload) = db' :=
          congrArg Prod.snd (transaction_of_ok hb)
        obtain ⟨hdebit, hsettle⟩ := hc q.id payload _ rfl (congrArg Prod.fst (transaction_of_ok hb))
        rw [hstep] at hdebit hsettle
        exact ⟨(debitsWallet_iff h hk hmem hpays).mp hdebit,
          (settles_iff hpays hk hmem hrec.2.2.2.2.2.2.2.2.1).mp hsettle⟩
    | _ => trivial
  · rintro hback id payload payout rfl hok
    cases hb : reconcileTx now id payload db with
    | error e =>
        have hfail : (reconcilePayout now id payload db).1 = .error e :=
          congrArg Prod.fst (transaction_of_error hb)
        rw [hfail] at hok
        cases hok
    | ok out =>
        obtain ⟨payout', db'⟩ := out
        have hsame : payout' = payout := by
          have hfst : (reconcilePayout now id payload db).1 = .ok payout' :=
            congrArg Prod.fst (transaction_of_ok hb)
          rw [hfst] at hok
          exact Except.ok.inj hok
        obtain ⟨p, hp, hrec, hpay, hpays⟩ := reconcileTx_ok hk hb
        have hid : p.id = id := by simpa using List.find?_some hp
        subst hid
        have hmem : p ∈ db.payouts := List.mem_of_find?_eq_some hp
        have hstep : step db (now, .reconcilePayout p.id payload) = db' :=
          congrArg Prod.snd (transaction_of_ok hb)
        obtain ⟨hwallet, hitems⟩ := hback p hp hrec
        rw [hstep, ← hsame, hpay]
        exact ⟨(debitsWallet_iff h hk hmem hpays).mpr hwallet,
          (settles_iff hpays hk hmem hrec.2.2.2.2.2.2.2.2.1).mpr hitems⟩

/-- Items and wallets are in order over every run from empty tables. -/
theorem Itemised.of_reachable (h : Reachable step Opening db) : Itemised db := by
  have hboth : Itemised db ∧ Keyed db := by
    refine Reachable.invariant (I := fun s => Itemised s ∧ Keyed s) (fun s h0 => ?_)
      (fun s event hs => ?_) h
    · exact ⟨h0.itemised, Keyed.of_reachable (.init h0)⟩
    · exact ⟨itemised_step hs.1 hs.2, (step_refines hs.2 event).1⟩
  exact hboth.1

/-- **When payouts conserve money.** Over every run from empty tables, whatever the referral programme:
every reconciliation that commits debits the user's wallet by the sum of the items and settles only
commissions that items of PAID payouts cover, exactly when every payout that is reconciled in the run
is backed by the wallet and backs its commissions. -/
theorem conserves_along_iff (db : Db) (h0 : Opening db) (calls : List (Time × Call)) :
    Along step Conserves db calls ↔ Along step Backed db calls :=
  along_congr (I := Reachable step Opening) (fun _ event h => h.step event)
    (fun _ event h => conserves_iff (Itemised.of_reachable h) (Keyed.of_reachable h) event) (.init h0)

/-- Two commissions of 100, the first released and the second cleared. -/
def twoCommissions : List (Time × Call) :=
  [(days 0, thousandDollars 55), (days 15, .clearEligible), (days 20, thousandDollars 56),
    (days 46, .clearEligible)]

/-- The cleared one requested as a whole, and approved. -/
def requestHundred : List (Time × Call) :=
  twoCommissions ++ [(days 47, .requestPayout 1 hundredDollars), (days 48, .approvePayout 2 none)]

/-- A payout of a whole commission, reconciled. -/
theorem requestHundred_conserves :
    Along step Conserves programme (requestHundred ++ [(days 49, .reconcilePayout 2 {})]) :=
  (conserves_along_iff programme ⟨rfl, rfl, rfl, rfl, rfl⟩ _).mpr (by decide +kernel)

/-- 60 of the cleared commission requested, and approved. -/
def requestSixty : List (Time × Call) :=
  twoCommissions ++ [(days 47, .requestPayout 1 sixtyDollars), (days 48, .approvePayout 2 none)]

/-- The whole one requested, and then the released one held: nothing is available any more. -/
def holdReleased : List (Time × Call) :=
  requestHundred ++ [(days 49, .transitionCommission 0 .fraudHold 9 none)]

/-- A last step that reconciles a payout that is not backed does not conserve. -/
theorem not_conserves_of_not_backed {calls : List (Time × Call)} {event : Time × Call}
    (h : ¬ Backed (run step programme calls) event) :
    ¬ Along step Conserves programme (calls ++ [event]) := by
  intro hall
  have hlast : Conserves (run step programme calls) event := (along_append.mp hall).2.1
  have hreach := reachable_run calls
  exact h ((conserves_iff (Itemised.of_reachable hreach) (Keyed.of_reachable hreach) event).mp hlast)

/-- **40 lost, and a payout for free.** Paying 60 of a commission of 100 marks it PAID with 60 covered.
And when the released commission is held after the request, the wallet no longer covers the payout,
which is marked PAID all the same while the paid balance stays 0. -/
theorem requestSixty_loses_rest :
    ((run step programme (requestSixty ++ [(days 49, .reconcilePayout 2 {})])).commission 1).map
        (fun r => (r.status, r.commissionAmount)) = some (.paid, 100) ∧
      paidShare 1 (run step programme (requestSixty ++ [(days 49, .reconcilePayout 2 {})])) = 60 ∧
      ¬ Along step Conserves programme (requestSixty ++ [(days 49, .reconcilePayout 2 {})]) ∧
      (books (run step programme (holdReleased ++ [(days 50, .reconcilePayout 2 {})]))).payout 2 =
        some .paid ∧
      ((run step programme (holdReleased ++ [(days 50, .reconcilePayout 2 {})])).wallets.find?
        (·.belongsTo 1 "USD")).map (·.paidBalance) = some 0 ∧
      ¬ Along step Conserves programme (holdReleased ++ [(days 50, .reconcilePayout 2 {})]) := by
  refine ⟨by decide +kernel, by decide +kernel, ?_, by decide +kernel, by decide +kernel, ?_⟩
  · exact not_conserves_of_not_backed (by decide +kernel)
  · exact not_conserves_of_not_backed (by decide +kernel)

end PredictATrade.Control
