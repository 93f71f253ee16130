import PredictATrade.Control.Frames

/-!
# `Control.Reversals` — what is reversed against what was earned

`reverseCommission` compares the amount it is asked to take back with the whole `commission_amount`
of the row, and with nothing else: not with what was taken back before, and, for a partial reversal,
not with the transition matrix either. A full reversal goes through the matrix and can happen once.

Two conditions make up the rest. `Within`: a reversal that goes through stays, together with the
earlier ones, within the amount, and an adjustment does not lower the amount below what is already
reversed. `SparesPaid`: no partial reversal of a PAID row goes through. `reversals_bounded_iff`: these
are exactly the runs in which no commission has more reversed than it earned, and in which a row in a
final status accepts no reversal.
-/

namespace PredictATrade.Control
open Lib.Table Lib.Runs Lib.Attempt Lib.Decimal

/-! ## The totals -/

/-- A record `REVERSAL` or `PARTIAL_REVERSAL` for the commission. -/
def Adjustment.reverses (id : Id) (a : Adjustment) : Bool :=
  a.originalCommissionId == id &&
    (a.adjustmentType == .reversal || a.adjustmentType == .partialReversal)

/-- The amounts recorded as reversed for a commission; a record holds its amount negated. -/
def reversedTotal (id : Id) (db : Db) : ℚ :=
  ((db.adjustments.filter (·.reverses id)).map fun a => -a.amount).sum

/-- No commission has more reversed than it earned. -/
def Covered (db : Db) : Prop := ∀ r ∈ db.ledger, reversedTotal r.id db ≤ r.commissionAmount

/-- The statuses that are named in the matrix and have no edge out of them. -/
def finalStatuses : List CommissionStatus := [.paid, .reversed, .cancelled]

/-- A commission in a final status accepts no reversal. -/
def RefusesFinal (db : Db) (event : Time × Call) : Prop :=
  ∀ id reason actorId amount, event.2 = .reverseCommission id reason actorId amount →
    ∀ row ∈ db.commission id, row.status ∈ finalStatuses →
      ∀ out, (reverseCommission event.1 id reason actorId amount db).1 ≠ .ok out

/-! ## When a call goes through -/

/-- The statement on the recipient's wallet finds every balance it writes within its column. -/
def CommissionRow.fits (row : CommissionRow) (changes : List (Bucket × ℚ)) (db : Db) : Prop :=
  (db.updateWallet row.recipientUserId row.currency changes).isOk = true

instance (row : CommissionRow) (changes : List (Bucket × ℚ)) (db : Db) :
    Decidable (row.fits changes db) := inferInstanceAs (Decidable (_ = _))

/-- What a reversal takes off the row: the amount it names, or all of it. -/
def CommissionRow.asked (row : CommissionRow) (amount : Option ℚ) : ℚ :=
  amount.getD row.commissionAmount

/-- When the reversal of a row goes through. Only a full one looks at the matrix. -/
def Reverses (amount : Option ℚ) (row : CommissionRow) (db : Db) : Prop :=
  0 < row.asked amount ∧ row.asked amount ≤ row.commissionAmount ∧ InColumn (row.asked amount) ∧
    if row.asked amount < row.commissionAmount then
      bucketForStatus row.status ≠ .reversedBalance ∧
        row.fits [(bucketForStatus row.status, -row.asked amount),
          (.reversedBalance, row.asked amount)] db
    else
      .reversed ∈ transitionMatrix row.status ∧ db.ledgerTrigger = false ∧
        row.fits [(bucketForStatus row.status, -row.asked amount),
          (.reversedBalance, row.asked amount)] (db.ensureWallet row.recipientUserId row.currency)

instance (amount : Option ℚ) (row : CommissionRow) (db : Db) : Decidable (Reverses amount row db) := by
  unfold Reverses; infer_instance

/-- When the adjustment of a row goes through. -/
def Adjusts (delta : ℚ) (row : CommissionRow) (db : Db) : Prop :=
  0 ≤ decPlus row.commissionAmount delta ∧ InColumn delta ∧
    InColumn (decPlus row.commissionAmount delta) ∧ db.ledgerTrigger = false ∧
    row.fits [(bucketForStatus row.status, delta)] (db.ensureWallet row.recipientUserId row.currency)

instance (delta : ℚ) (row : CommissionRow) (db : Db) : Decidable (Adjusts delta row db) := by
  unfold Adjusts; infer_instance

/-- What a reversal that goes through takes back, with everything taken back before, is no more than
the row's amount; and an adjustment leaves at least what is reversed. -/
def Within (db : Db) (event : Time × Call) : Prop :=
  match event.2 with
  | .reverseCommission id _ _ amount => ∀ row ∈ db.commission id, Reverses amount row db →
      reversedTotal id db + roundPlaces 8 (row.asked amount) ≤ row.commissionAmount
  | .adjustCommission id (some delta) _ _ => ∀ row ∈ db.commission id, Adjusts delta row db →
      reversedTotal id db ≤ roundPlaces 8 (decPlus row.commissionAmount delta)
  | _ => True

/-- No reversal of a PAID row goes through; the matrix sees to that for the full ones. -/
def SparesPaid (db : Db) (event : Time × Call) : Prop :=
  match event.2 with
  | .reverseCommission id _ _ amount => ∀ row ∈ db.commission id, Reverses amount row db →
      row.status ≠ .paid
  | _ => True

instance (db : Db) (event : Time × Call) : Decidable (Within db event) := by
  unfold Within; split <;> infer_instance

instance (db : Db) (event : Time × Call) : Decidable (SparesPaid db event) := by
  unfold SparesPaid; split <;> infer_instance

/-! ## Statements, and what they need -/

variable {db db' : Db} {now : Time} {id : Id}

/-- When a statement on a wallet goes through. -/
theorem fits_iff (row : CommissionRow) (changes : List (Bucket × ℚ)) (db : Db) :
    row.fits changes db ↔
      ∃ db', db.updateWallet row.recipientUserId row.currency changes = .ok db' := by
  unfold CommissionRow.fits
  cases db.updateWallet row.recipientUserId row.currency changes with
  | error e => simp [Except.isOk, Except.toBool]
  | ok db' => simp [Except.isOk, Except.toBool]

theorem ensureWallet_ledgerTrigger (user : UserId) (currency : Currency) (db : Db) :
    (db.ensureWallet user currency).ledgerTrigger = db.ledgerTrigger := by
  unfold Db.ensureWallet
  split <;> rfl

/-- A row found by its id is matched by an update of that id. -/
theorem any_of_commission {row : CommissionRow} (h : db.commission id = some row) :
    db.ledger.any (·.id == id) = true := by
  obtain ⟨hmem, hid⟩ := commission_mem h
  exact List.any_eq_true.mpr ⟨row, hmem, by simp [hid]⟩

/-! ## What the calls leave alone -/

/-- The ids of the rows with their amounts. -/
def Db.prices (db : Db) : List (Id × ℚ) := db.ledger.map fun r => (r.id, r.commissionAmount)

/-- Rows keep their ids and amounts, the records of adjustments stay, and ids only go on. -/
structure SamePrices (db db' : Db) : Prop where
  prices : db'.prices = db.prices
  adjustments : db'.adjustments = db.adjustments
  nextId : db.nextId ≤ db'.nextId

/-- Every statement of the services keeps the prices. -/
theorem samePrices_frame : Frame SamePrices where
  refl _ := ⟨rfl, rfl, le_rfl⟩
  trans h h' := ⟨h'.prices.trans h.prices, h'.adjustments.trans h.adjustments,
    h.nextId.trans h'.nextId⟩
  ensureWallet user currency db := by
    unfold Db.ensureWallet
    split <;> exact ⟨rfl, rfl, le_rfl⟩
  updateWallet h := by
    rw [updateWallet_ok h]
    exact ⟨rfl, rfl, le_rfl⟩
  updateLedger db hf := ⟨map_updateWhere fun r => by rw [hf.id, hf.amount], rfl, le_rfl⟩
  updatePayouts db hf := ⟨rfl, rfl, le_rfl⟩
  debit _ := ⟨rfl, rfl, le_rfl⟩

theorem SamePrices.request {userId : UserId} {dto : PayoutRequest} {reply : PayoutReply}
    (h : requestTx now userId dto db = .ok (reply, db')) : SamePrices db db' := by
  rcases requestTx_ok h with ⟨p, -, -, rfl⟩ | ⟨-, amount, items, remaining, -, -, -, hw⟩
  · exact samePrices_frame.refl _
  · unfold writeRequest at hw
    obtain ⟨requested, -, hw⟩ := bind_ok hw
    obtain ⟨-, hw⟩ := guard_ok hw
    obtain ⟨rows, -, hw⟩ := bind_ok hw
    obtain ⟨db₂, h₂, hw⟩ := bind_ok hw
    cases hw
    rw [updateLedger_ok h₂]
    exact ⟨map_updateWhere fun _ => rfl, rfl, Nat.le_succ _⟩

/-! ## Transitions -/

/-- A transition goes through when the matrix, the wallet's columns and the ledger let it. -/
theorem transition_ok_iff (now : Time) (target : CommissionStatus) (actorId : Option UserId)
    (reason : Option String) (amt : ℚ) {row : CommissionRow} (hrow : db.commission id = some row) :
    (∃ out, transitionLedgerAndWallet now id target actorId reason (some amt) db = .ok out) ↔
      target ∈ transitionMatrix row.status ∧ db.ledgerTrigger = false ∧
        row.fits (if destBucket target = bucketForStatus row.status then
            [(bucketForStatus row.status, -amt)]
          else [(bucketForStatus row.status, -amt), (destBucket target, amt)])
          (db.ensureWallet row.recipientUserId row.currency) := by
  -- the row the transition was asked for is there when its update of the ledger comes
  have hled : ∀ {changes db₂ db₃}, (db.ensureWallet row.recipientUserId row.currency).updateWallet
      row.recipientUserId row.currency changes = .ok db₂ →
      (db₂.updateLedger (·.id == id) (·.moveTo now target actorId reason) = .ok db₃ ↔
        db.ledgerTrigger = false ∧ db₃ = { db₂ with
          ledger := updateWhere (·.id == id) (·.moveTo now target actorId reason) db₂.ledger }) := by
    intro changes db₂ db₃ h₂
    have hany : db₂.ledger.any (·.id == id) = true := by
      rw [updateWallet_ok h₂]
      show (db.ensureWallet row.recipientUserId row.currency).ledger.any (·.id == id) = true
      rw [ensureWallet_ledger]
      exact any_of_commission hrow
    have htrig : db₂.ledgerTrigger = db.ledgerTrigger := by
      rw [updateWallet_ok h₂]
      exact ensureWallet_ledgerTrigger _ _ db
    simp only [updateLedger_ok_iff, hany, true_implies, htrig]
  unfold transitionLedgerAndWallet
  simp only [hrow, Option.getD_some, fits_iff, exists_guard_ok, exists_bind_ok, sql_ok_iff, not_not]
  refine and_congr_right fun _ => ?_
  constructor
  · rintro ⟨db₂, h₂, db₃, h₃, -⟩
    exact ⟨((hled h₂).mp h₃).1, db₂, h₂⟩
  · rintro ⟨htrig, db₂, h₂⟩
    exact ⟨db₂, h₂, _, (hled h₂).mpr ⟨htrig, rfl⟩, _, rfl⟩

/-! ## Reversals -/

/-- A record as its column stores it. -/
def Adjustment.stored (a : Adjustment) : Adjustment := { a with amount := roundPlaces 8 a.amount }

/-- When an adjustment is inserted, and what is stored. -/
theorem insertAdjustment_ok_iff {a : Adjustment} :
    db.insertAdjustment a = .ok db' ↔
      InColumn a.amount ∧ db' = { db with adjustments := db.adjustments ++ [a.stored] } := by
  unfold Db.insertAdjustment
  constructor
  · intro h
    obtain ⟨amount, hm, h⟩ := bind_ok h
    obtain ⟨hin, rfl⟩ := money_ok_iff.mp hm
    exact ⟨hin, (Except.ok.inj h).symm⟩
  · rintro ⟨hin, rfl⟩
    rw [money_ok_iff.mpr ⟨hin, rfl⟩, ok_bind]
    rfl

/-- Rounding is odd, so a value and its negative fit alike. -/
theorem inColumn_neg {x : ℚ} (h : x ≠ 0) : InColumn (-x) ↔ InColumn x := by
  unfold InColumn
  rw [roundPlaces_neg h, abs_neg]

/-- A row that can be reversed is not yet counted in the reversed bucket. -/
theorem reversed_moves {s : CommissionStatus} (h : .reversed ∈ transitionMatrix s) :
    ¬ destBucket .reversed = bucketForStatus s := by
  cases s <;> first | decide | exact absurd h (by decide)

/-- **When a reversal goes through.** -/
theorem reverseTx_ok_iff (now : Time) (reason : String) (actorId : UserId) {amount : Option ℚ}
    {row : CommissionRow} (hrow : db.commission id = some row) :
    (∃ out, reverseTx now id reason actorId amount db = .ok out) ↔ Reverses amount row db := by
  unfold reverseTx Reverses
  simp only [hrow, exists_guard_ok, not_or, not_le, not_lt]
  show (0 < row.asked amount ∧ row.asked amount ≤ row.commissionAmount) ∧ _ ↔ _
  rw [and_assoc]
  refine and_congr_right fun hpos => and_congr_right fun _ => ?_
  have hin : InColumn (-row.asked amount) ↔ InColumn (row.asked amount) := inColumn_neg hpos.ne'
  by_cases hlt : row.asked amount < row.commissionAmount
  · -- a partial reversal writes the wallet, then the record
    have hlt' : amount.getD row.commissionAmount < row.commissionAmount := hlt
    simp only [if_pos hlt, if_pos hlt', exists_guard_ok, exists_bind_ok, sql_ok_iff, fits_iff,
      insertAdjustment_ok_iff]
    constructor
    · rintro ⟨hb, db₁, h₁, db₂, ⟨hfit, -⟩, -⟩
      exact ⟨hin.mp hfit, hb, db₁, h₁⟩
    · rintro ⟨hfit, hb, db₁, h₁⟩
      exact ⟨hb, db₁, h₁, _, ⟨hin.mpr hfit, rfl⟩, _, rfl⟩
  · -- a full one makes the transition, then the record
    have hlt' : ¬ amount.getD row.commissionAmount < row.commissionAmount := hlt
    simp only [if_neg hlt, if_neg hlt', exists_bind_ok, sql_ok_iff, insertAdjustment_ok_iff]
    have htrans := transition_ok_iff now .reversed (some actorId) (some reason) (row.asked amount) hrow
    constructor
    · rintro ⟨out, h₁, db₂, ⟨hfit, -⟩, -⟩
      obtain ⟨hm, htrig, hw⟩ := htrans.mp ⟨out, h₁⟩
      refine ⟨hin.mp hfit, hm, htrig, ?_⟩
      rw [if_neg (reversed_moves hm)] at hw
      exact hw
    · rintro ⟨hfit, hm, htrig, hw⟩
      obtain ⟨out, h₁⟩ := htrans.mpr ⟨hm, htrig, by rw [if_neg (reversed_moves hm)]; exact hw⟩
      exact ⟨out, h₁, _, ⟨hin.mpr hfit, rfl⟩, _, rfl⟩

/-- The call left one record for the commission, of this amount, and no price changed. -/
structure Records (id : Id) (amount : ℚ) (db db' : Db) : Prop where
  prices : db'.prices = db.prices
  record : ∃ a, a.reverses id = true ∧ a.amount = -amount ∧ db'.adjustments = db.adjustments ++ [a]
  nextId : db.nextId ≤ db'.nextId

/-- A statement that keeps the prices, then the record of the reversal. -/
theorem SamePrices.records {db₁ : Db} {a : Adjustment} {x : ℚ} (h : SamePrices db db₁)
    (hx : x ≠ 0) (ha : a.amount = -x) (hrev : a.reverses id = true)
    (hins : db₁.insertAdjustment a = .ok db') : Records id (roundPlaces 8 x) db db' := by
  obtain ⟨-, rfl⟩ := insertAdjustment_ok_iff.mp hins
  refine ⟨h.prices, ⟨a.stored, hrev, ?_, ?_⟩, h.nextId⟩
  · show roundPlaces 8 a.amount = _
    rw [ha, roundPlaces_neg hx]
  · show db₁.adjustments ++ [a.stored] = _
    rw [h.adjustments]

/-- What a reversal that went through recorded. -/
theorem reverseTx_records {reason : String} {actorId : UserId} {amount : Option ℚ}
    {out : Option CommissionRow} {row : CommissionRow} (hrow : db.commission id = some row)
    (h : reverseTx now id reason actorId amount db = .ok (out, db')) :
    Records id (roundPlaces 8 (row.asked amount)) db db' := by
  have hpos : row.asked amount ≠ 0 := ((reverseTx_ok_iff now reason actorId hrow).mp ⟨_, h⟩).1.ne'
  obtain ⟨row', db₁, hrow', hdone⟩ := reverseTx_inv h
  obtain rfl := Option.some.inj (hrow.symm.trans hrow')
  rcases hdone with ⟨h₁, h₂⟩ | ⟨updated, h₁, h₂⟩
  · exact (samePrices_frame.updateWallet h₁).records hpos rfl (by simp [Adjustment.reverses]) h₂
  · exact (samePrices_frame.transition h₁).records hpos rfl (by simp [Adjustment.reverses]) h₂

/-! ## Adjustments -/

/-- Only the wallets decide whether a statement on them fits. -/
theorem fits_congr (row : CommissionRow) (changes : List (Bucket × ℚ)) {db₁ db₂ : Db}
    (h : db₁.wallets = db₂.wallets) : row.fits changes db₁ ↔ row.fits changes db₂ := by
  simp only [fits_iff, Db.updateWallet, exists_bind_ok, h]
  simp

theorem ensureWallet_wallets {user : UserId} {currency : Currency} {db₁ db₂ : Db}
    (h : db₁.wallets = db₂.wallets) :
    (db₁.ensureWallet user currency).wallets = (db₂.ensureWallet user currency).wallets := by
  unfold Db.ensureWallet
  rw [h]
  split
  · exact h
  · rfl

/-- **When an adjustment goes through.** -/
theorem adjustTx_ok_iff (now : Time) (reason : String) (actorId : UserId) {delta : ℚ}
    {row : CommissionRow} (hrow : db.commission id = some row) :
    (∃ out, adjustTx now id delta reason actorId db = .ok out) ↔ Adjusts delta row db := by
  have hany : (db.ledger.any fun r => r.id == id) = true := any_of_commission hrow
  -- neither the record nor the new amount touches a wallet
  have hw : ∀ db₂ : Db, db₂.wallets = db.wallets →
      ((∃ db₄, (db₂.ensureWallet row.recipientUserId row.currency).updateWallet row.recipientUserId
          row.currency [(bucketForStatus row.status, delta)] = .ok db₄) ↔
        row.fits [(bucketForStatus row.status, delta)]
          (db.ensureWallet row.recipientUserId row.currency)) := by
    intro db₂ h
    rw [← fits_iff]
    exact fits_congr row _ (ensureWallet_wallets h)
  unfold adjustTx Adjusts
  simp only [hrow, exists_guard_ok, exists_bind_ok, sql_ok_iff, insertAdjustment_ok_iff, money_ok_iff,
    not_lt]
  refine and_congr_right fun _ => ?_
  constructor
  · rintro ⟨db₁, ⟨hdelta, rfl⟩, stored, ⟨hnew, rfl⟩, db₂, h₂, db₄, h₄, -⟩
    obtain ⟨htrig, hdb₂⟩ := updateLedger_ok_iff.mp h₂
    exact ⟨hdelta, hnew, htrig hany, (hw db₂ (by rw [hdb₂])).mp ⟨db₄, h₄⟩⟩
  · rintro ⟨hdelta, hnew, htrig, hfits⟩
    refine ⟨_, ⟨hdelta, rfl⟩, _, ⟨hnew, rfl⟩, _,
      updateLedger_ok_iff.mpr ⟨fun _ => htrig, rfl⟩, ?_⟩
    simp only [Except.ok.injEq, exists_eq', and_true]
    exact (hw _ (by rfl)).mpr hfits

/-- The call left a record that reverses nothing, and the commission has a new amount. -/
structure Reprices (id : Id) (amount : ℚ) (db db' : Db) : Prop where
  prices : db'.prices = updateWhere (fun p => p.1 == id) (fun p => (p.1, amount)) db.prices
  record : ∃ a, (∀ c, a.reverses c = false) ∧ a.originalCommissionId = id ∧
    db'.adjustments = db.adjustments ++ [a]
  nextId : db.nextId ≤ db'.nextId

/-- What an adjustment that went through changed. -/
theorem adjustTx_reprices {delta : ℚ} {reason : String} {actorId : UserId} {out : Id × ℚ}
    {row : CommissionRow} (hrow : db.commission id = some row)
    (h : adjustTx now id delta reason actorId db = .ok (out, db')) :
    Reprices id (roundPlaces 8 (decPlus row.commissionAmount delta)) db db' := by
  obtain ⟨row', stored, db₁, db₂, hrow', h₁, hs, h₂, h₄⟩ := adjustTx_inv h
  obtain rfl := Option.some.inj (hrow.symm.trans hrow')
  obtain ⟨-, rfl⟩ := money_ok_iff.mp hs
  obtain ⟨-, hdb₁⟩ := insertAdjustment_ok_iff.mp h₁
  have hdb₂ := updateLedger_ok h₂
  have hwallet : SamePrices db₂ db' :=
    samePrices_frame.trans (samePrices_frame.ensureWallet _ _ db₂)
      (samePrices_frame.updateWallet h₄)
  have hprices : db₂.prices = updateWhere (fun p => p.1 == id)
      (fun p => (p.1, roundPlaces 8 (decPlus row.commissionAmount delta))) db.prices := by
    rw [hdb₂, hdb₁]
    exact map_updateWhere_comm (fun _ => rfl) fun _ => rfl
  refine ⟨hwallet.prices.trans hprices,
    ⟨Adjustment.stored ⟨id, .manualAdjustment, delta, row.currency, reason, actorId, now⟩,
      fun c => ?_, rfl, ?_⟩, ?_⟩
  · simp [Adjustment.reverses, Adjustment.stored]
  · rw [hwallet.adjustments, hdb₂, hdb₁]
  · have hnext : db₂.nextId = db.nextId := by rw [hdb₂, hdb₁]
    exact hnext ▸ hwallet.nextId

/-! ## What a call does to the prices -/

/-- The call files a new commission, with nothing reversed yet. -/
structure Files (db db' : Db) : Prop where
  prices : ∃ x, 0 ≤ x ∧ db'.prices = db.prices ++ [(db.nextId, x)]
  adjustments : db'.adjustments = db.adjustments
  nextId : db'.nextId = db.nextId + 1

theorem creditReferral_prices (now : Time) (c : CreditCall) (db : Db) :
    SamePrices db (creditReferral now c db).2 ∨ Files db (creditReferral now c db).2 := by
  by_cases hins : ∃ e, Inserts now c db e
  · obtain ⟨e, he⟩ := hins
    obtain ⟨events, hc⟩ := creditReferral_of_inserts he
    have hmem : e ∈ referralEntries now c db := by rw [he.1]; simp
    have hpos : 0 < e.commissionAmount := by
      obtain ⟨eng, hcalc⟩ := referralEntries_mem hmem
      exact (CommissionEngine.calculate_amount hcalc).1
    right
    rw [hc]
    refine ⟨⟨e.commissionAmount, hpos.le, ?_⟩, rfl, rfl⟩
    have hamt : (insertedRow now c db e).commissionAmount = e.commissionAmount :=
      storedRow_amount hmem db
    show (db.ledger ++ [insertedRow now c db e]).map (fun r => (r.id, r.commissionAmount)) = _
    rw [List.map_append, ← hamt]
    rfl
  · have hno : ∀ e, ¬ Inserts now c db e := fun e he => hins ⟨e, he⟩
    obtain ⟨events, hc⟩ := creditReferral_of_not_inserts hno
    left
    rw [hc]
    exact ⟨rfl, rfl, le_rfl⟩

/-- **What a call can do to the prices and the records.** -/
theorem step_prices (db : Db) (event : Time × Call) :
    SamePrices db (step db event) ∨ Files db (step db event) ∨
      (∃ id reason actorId amount row, event.2 = .reverseCommission id reason actorId amount ∧
        db.commission id = some row ∧ Reverses amount row db ∧
        Records id (roundPlaces 8 (row.asked amount)) db (step db event)) ∨
      (∃ id delta reason actorId row, event.2 = .adjustCommission id (some delta) reason actorId ∧
        db.commission id = some row ∧ Adjusts delta row db ∧
        Reprices id (roundPlaces 8 (decPlus row.commissionAmount delta)) db (step db event)) := by
  obtain ⟨now, call⟩ := event
  cases call with
  | creditReferral c => exact (creditReferral_prices now c db).imp_right Or.inl
  | reverseCommission id reason actorId amount =>
      show SamePrices db (transaction (reverseTx now id reason actorId amount) db).2 ∨ _
      cases hb : reverseTx now id reason actorId amount db with
      | error e => rw [transaction_of_error hb]; exact Or.inl (samePrices_frame.refl db)
      | ok out =>
          obtain ⟨out, db'⟩ := out
          cases hrow : db.commission id with
          | none => simp only [reverseTx, hrow] at hb; cases hb
          | some row =>
              right; right; left
              refine ⟨id, reason, actorId, amount, row, rfl, hrow,
                (reverseTx_ok_iff now reason actorId hrow).mp ⟨_, hb⟩, ?_⟩
              show Records _ _ db (transaction (reverseTx now id reason actorId amount) db).2
              rw [transaction_of_ok hb]
              exact reverseTx_records hrow hb
  | adjustCommission id amount reason actorId =>
      cases amount with
      | none => exact Or.inl (samePrices_frame.refl db)
      | some delta =>
          show SamePrices db (transaction (adjustTx now id delta reason actorId) db).2 ∨ _
          cases hb : adjustTx now id delta reason actorId db with
          | error e => rw [transaction_of_error hb]; exact Or.inl (samePrices_frame.refl db)
          | ok out =>
              obtain ⟨out, db'⟩ := out
              cases hrow : db.commission id with
              | none => simp only [adjustTx, hrow] at hb; cases hb
              | some row =>
                  right; right; right
                  refine ⟨id, delta, reason, actorId, row, rfl, hrow,
                    (adjustTx_ok_iff now reason actorId hrow).mp ⟨_, hb⟩, ?_⟩
                  show Reprices _ _ db (transaction (adjustTx now id delta reason actorId) db).2
                  rw [transaction_of_ok hb]
                  exact adjustTx_reprices hrow hb
  | requestPayout userId dto =>
      exact Or.inl (samePrices_frame.transaction fun _ _ h => SamePrices.request h)
  | _ => exact Or.inl (samePrices_frame.step db rfl)

/-! ## The totals after a call -/

/-- What covered says of the prices. -/
theorem covered_iff : Covered db ↔ ∀ p ∈ db.prices, reversedTotal p.1 db ≤ p.2 := by
  unfold Covered Db.prices
  rw [List.forall_mem_map]

theorem reversedTotal_congr (h : db'.adjustments = db.adjustments) (c : Id) :
    reversedTotal c db' = reversedTotal c db := by
  unfold reversedTotal
  rw [h]

theorem reversedTotal_append {a : Adjustment} (h : db'.adjustments = db.adjustments ++ [a]) (c : Id) :
    reversedTotal c db' = reversedTotal c db + if a.reverses c then -a.amount else 0 := by
  unfold reversedTotal
  rw [h, List.filter_append, List.map_append, List.sum_append]
  cases hr : a.reverses c <;> simp [hr]

theorem Records.total {x : ℚ} (h : Records id x db db') (c : Id) :
    reversedTotal c db' = reversedTotal c db + if c = id then x else 0 := by
  obtain ⟨a, hrev, hamt, hadj⟩ := h.record
  rw [reversedTotal_append hadj]
  have hid : a.originalCommissionId = id := by
    simp only [Adjustment.reverses, Bool.and_eq_true, beq_iff_eq] at hrev
    exact hrev.1
  by_cases hc : c = id
  · subst hc
    rw [if_pos hrev, if_pos rfl, hamt, neg_neg]
  · have hno : a.reverses c = false := by
      simp [Adjustment.reverses, hid, Ne.symm hc]
    rw [if_neg (by rw [hno]; decide), if_neg hc]

theorem Reprices.total {x : ℚ} (h : Reprices id x db db') (c : Id) :
    reversedTotal c db' = reversedTotal c db := by
  obtain ⟨a, hrev, -, hadj⟩ := h.record
  rw [reversedTotal_append hadj, hrev c]
  simp

/-! ## The invariant -/

/-- Nothing is over-reversed, rows have ids of their own, and records are about rows of the past. -/
structure Accounted (db : Db) : Prop where
  covered : Covered db
  keyed : Keyed db
  filed : ∀ a ∈ db.adjustments, a.originalCommissionId < db.nextId

theorem Opening.accounted (h : Opening db) : Accounted db := by
  have hk := Keyed.of_reachable (Reachable.init h)
  obtain ⟨hl, ha, -, -, -⟩ := h
  refine ⟨?_, hk, ?_⟩
  · intro r hr
    rw [hl] at hr
    cases hr
  · intro a hmem
    rw [ha] at hmem
    cases hmem

/-- Nothing is reversed of a commission that is not there yet. -/
theorem Accounted.fresh (h : Accounted db) : reversedTotal db.nextId db = 0 := by
  have hnone : db.adjustments.filter (·.reverses db.nextId) = [] := by
    refine List.filter_eq_nil_iff.mpr fun a ha hrev => ?_
    simp only [Adjustment.reverses, Bool.and_eq_true, beq_iff_eq] at hrev
    exact absurd hrev.1 (Nat.ne_of_lt (h.filed a ha))
  unfold reversedTotal
  rw [hnone]
  rfl

/-- The price under an id is the amount of the row with that id. -/
theorem Accounted.price (h : Accounted db) {row : CommissionRow} (hrow : db.commission id = some row)
    {p : Id × ℚ} (hp : p ∈ db.prices) (hid : p.1 = id) : p.2 = row.commissionAmount := by
  obtain ⟨r, hr, rfl⟩ := List.mem_map.mp hp
  obtain ⟨hmem, hrid⟩ := commission_mem hrow
  have hrr : r = row := eq_of_key h.keyed.ledger hr hmem (by rw [hrid]; exact hid)
  rw [hrr]

theorem price_mem {row : CommissionRow} (hrow : db.commission id = some row) :
    (id, row.commissionAmount) ∈ db.prices := by
  obtain ⟨hmem, hid⟩ := commission_mem hrow
  exact List.mem_map.mpr ⟨row, hmem, by rw [hid]⟩

/-- **The step lemma.** A call within the amounts keeps the accounts. -/
theorem accounted_step {event : Time × Call} (h : Accounted db) (hw : Within db event) :
    Accounted (step db event) := by
  have hk := (step_refines h.keyed event).1
  have hcov := covered_iff.mp h.covered
  rcases step_prices db event with hs | hf | ⟨id, reason, actorId, amount, row, he, hrow, hrev, hrec⟩ |
    ⟨id, delta, reason, actorId, row, he, hrow, hadj, hrep⟩
  · refine ⟨covered_iff.mpr fun p hp => ?_, hk, fun a ha => ?_⟩
    · rw [reversedTotal_congr hs.adjustments]
      exact hcov p (hs.prices ▸ hp)
    · rw [hs.adjustments] at ha
      exact lt_of_lt_of_le (h.filed a ha) hs.nextId
  · refine ⟨covered_iff.mpr fun p hp => ?_, hk, fun a ha => ?_⟩
    · rw [reversedTotal_congr hf.adjustments]
      obtain ⟨x, hx, hprices⟩ := hf.prices
      rw [hprices, List.mem_append, List.mem_singleton] at hp
      rcases hp with hp | rfl
      · exact hcov p hp
      · rw [h.fresh]
        exact hx
    · rw [hf.adjustments] at ha
      rw [hf.nextId]
      exact Nat.lt_succ_of_lt (h.filed a ha)
  · refine ⟨covered_iff.mpr fun p hp => ?_, hk, fun a ha => ?_⟩
    · rw [hrec.prices] at hp
      rw [hrec.total]
      by_cases hid : p.1 = id
      · rw [if_pos hid, hid, h.price hrow hp hid]
        simp only [Within, he] at hw
        exact hw row hrow hrev
      · rw [if_neg hid, add_zero]
        exact hcov p hp
    · obtain ⟨b, hb, -, hb'⟩ := hrec.record
      rw [hb', List.mem_append, List.mem_singleton] at ha
      refine lt_of_lt_of_le ?_ hrec.nextId
      rcases ha with ha | rfl
      · exact h.filed a ha
      · simp only [Adjustment.reverses, Bool.and_eq_true, beq_iff_eq] at hb
        rw [hb.1, ← (commission_mem hrow).2]
        exact h.keyed.ledgerFresh _ (List.mem_map_of_mem (commission_mem hrow).1)
  · refine ⟨covered_iff.mpr fun p hp => ?_, hk, fun a ha => ?_⟩
    · rw [hrep.total]
      rw [hrep.prices, mem_updateWhere] at hp
      obtain ⟨q, hq, rfl⟩ := hp
      by_cases hid : q.1 = id
      · simp only [hid, beq_self_eq_true, if_true]
        simp only [Within, he] at hw
        exact hw row hrow hadj
      · simp only [hid, beq_iff_eq, if_false]
        exact hcov q hq
    · obtain ⟨b, -, hb, hb'⟩ := hrep.record
      rw [hb', List.mem_append, List.mem_singleton] at ha
      refine lt_of_lt_of_le ?_ hrep.nextId
      rcases ha with ha | rfl
      · exact h.filed a ha
      · rw [hb, ← (commission_mem hrow).2]
        exact h.keyed.ledgerFresh _ (List.mem_map_of_mem (commission_mem hrow).1)

/-- A call that is not within the amounts takes more back than was earned, at once. -/
theorem not_covered_step {event : Time × Call} (hw : ¬ Within db event) :
    ¬ Covered (step db event) := by
  intro hcov
  rw [covered_iff] at hcov
  apply hw
  obtain ⟨now, call⟩ := event
  cases call with
  | reverseCommission id reason actorId amount =>
      intro row hrow hrev
      obtain ⟨⟨out, db'⟩, hb⟩ := (reverseTx_ok_iff now reason actorId hrow).mpr hrev
      have hstep : step db (now, .reverseCommission id reason actorId amount) = db' :=
        congrArg Prod.snd (transaction_of_ok hb)
      have hrec := reverseTx_records hrow hb
      have hafter := hcov (id, row.commissionAmount) (by rw [hstep, hrec.prices]; exact price_mem hrow)
      rw [hstep, hrec.total, if_pos rfl] at hafter
      exact hafter
  | adjustCommission id amount reason actorId =>
      cases amount with
      | none => trivial
      | some delta =>
          intro row hrow hadj
          obtain ⟨⟨out, db'⟩, hb⟩ := (adjustTx_ok_iff now reason actorId hrow).mpr hadj
          have hstep : step db (now, .adjustCommission id (some delta) reason actorId) = db' :=
            congrArg Prod.snd (transaction_of_ok hb)
          have hrep := adjustTx_reprices hrow hb
          have hafter := hcov (id, roundPlaces 8 (decPlus row.commissionAmount delta)) (by
            rw [hstep, hrep.prices]
            exact mem_updateWhere.mpr ⟨_, price_mem hrow, by simp⟩)
          rw [hstep, hrep.total] at hafter
          exact hafter
  | _ => trivial

/-- A row in a final status refuses every reversal exactly when a PAID one refuses the partial ones. -/
theorem refusesFinal_iff (event : Time × Call) : RefusesFinal db event ↔ SparesPaid db event := by
  obtain ⟨now, call⟩ := event
  constructor
  · intro h
    cases call with
    | reverseCommission id reason actorId amount =>
        intro row hrow hrev hpaid
        obtain ⟨⟨out, db'⟩, hb⟩ := (reverseTx_ok_iff now reason actorId hrow).mpr hrev
        refine h id reason actorId amount rfl row hrow (by rw [hpaid]; decide) out ?_
        exact congrArg Prod.fst (transaction_of_ok hb)
    | _ => trivial
  · rintro h id reason actorId amount rfl row hrow hfinal out hok
    have hrev : Reverses amount row db := by
      cases hb : reverseTx now id reason actorId amount db with
      | error e =>
          have hfail : (reverseCommission now id reason actorId amount db).1 = .error e :=
            congrArg Prod.fst (transaction_of_error hb)
          rw [hfail] at hok
          cases hok
      | ok out => exact (reverseTx_ok_iff now reason actorId hrow).mp ⟨out, hb⟩
    have hnot : row.status ≠ .paid := h row hrow hrev
    have hclosed : bucketForStatus row.status = .reversedBalance ∧
        .reversed ∉ transitionMatrix row.status := by
      simp only [finalStatuses, List.mem_cons, List.not_mem_nil, or_false] at hfinal
      rcases hfinal with hs | hs | hs
      · exact absurd hs hnot
      · rw [hs]; decide
      · rw [hs]; decide
    obtain ⟨-, -, -, hcase⟩ := hrev
    split at hcase
    · exact hcase.1 hclosed.1
    · exact hclosed.2 hcase.1

/-- A run refuses the final rows exactly when it spares the paid ones. -/
theorem refusesFinal_along_iff (db : Db) (calls : List (Time × Call)) :
    Along step RefusesFinal db calls ↔ Along step SparesPaid db calls :=
  along_congr (I := fun _ => True) (fun _ _ _ => trivial)
    (fun _ event _ => refusesFinal_iff event) trivial

/-- **When reversals stay within what was earned.** Over every run from empty tables, whatever the
referral programme: no commission ever has more reversed than its amount, and a row in a final status
accepts no reversal, exactly when every reversal and adjustment of the run that goes through is
within the amounts, and none goes through for a PAID row. -/
theorem reversals_bounded_iff (db : Db) (h0 : Opening db) (calls : List (Time × Call)) :
    (Throughout step Covered db calls ∧ Along step RefusesFinal db calls) ↔
      Along step (fun s event => Within s event ∧ SparesPaid s event) db calls := by
  rw [along_and, throughout_iff_along (J := Accounted) (fun _ h => h.covered)
    (fun _ _ h hw => accounted_step h hw) (fun _ _ _ hw => not_covered_step hw) h0.accounted]
  exact and_congr_right fun _ => refusesFinal_along_iff db calls

/-! ## Runs -/

/-- One commission of 100, 40 of it reversed, then the rest of it cleared and released. -/
def reverseForty : List (Time × Call) :=
  [(days 0, thousandDollars 55), (days 1, .reverseCommission 0 "refund" 9 (some 40)),
    (days 15, .clearEligible), (days 46, .clearEligible)]

/-- Forty of a hundred, reversed. -/
theorem reverseForty_bounded :
    Throughout step Covered programme reverseForty ∧ Along step RefusesFinal programme reverseForty :=
  (reversals_bounded_iff programme ⟨rfl, rfl, rfl, rfl, rfl⟩ reverseForty).mpr (by decide +kernel)

/-- 60 of the same 100 reversed, twice. -/
def reverseSixtyTwice : List (Time × Call) :=
  [(days 0, thousandDollars 55), (days 1, .reverseCommission 0 "refund" 9 (some 60)),
    (days 2, .reverseCommission 0 "chargeback" 9 (some 60))]

/-- The commission goes to PAID, and 40 of it are reversed then. -/
def reverseAfterPay : List (Time × Call) :=
  [(days 0, thousandDollars 55), (days 1, .transitionCommission 0 .cleared 9 none),
    (days 2, .transitionCommission 0 .available 9 none),
    (days 3, .transitionCommission 0 .paid 9 none),
    (days 4, .reverseCommission 0 "refund" 9 (some 40))]

/-- **120 reversed of 100**, and a PAID commission reversed in part. -/
theorem reverseSixtyTwice_exceeds :
    reversedTotal 0 (run step programme reverseSixtyTwice) = 120 ∧
      ((run step programme reverseSixtyTwice).commission 0).map (·.commissionAmount) = some 100 ∧
      ¬ Throughout step Covered programme reverseSixtyTwice ∧
      ¬ Along step RefusesFinal programme reverseAfterPay := by
  have htotal : reversedTotal 0 (run step programme reverseSixtyTwice) = 120 := by decide +kernel
  have hprice : (0, 100) ∈ (run step programme reverseSixtyTwice).prices := by decide +kernel
  refine ⟨htotal, by decide +kernel, fun h => ?_, fun h => ?_⟩
  · have hle := covered_iff.mp (h _ List.prefix_rfl) _ hprice
    rw [htotal] at hle
    norm_num at hle
  · rw [refusesFinal_along_iff] at h
    exact absurd h (by decide +kernel)

end PredictATrade.Control
