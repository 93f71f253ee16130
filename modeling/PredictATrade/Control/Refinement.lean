import PredictATrade.Control.System
import PredictATrade.Control.Reservation
import PredictATrade.Control.CreditComplete

/-!
# `Control.Refinement` — the tables refine the books

`books` reads the abstract books of `Control.Reservation` off the tables. Each service call is then
one of the abstract steps: the commission calls are quiet (`Quietly`), a request requests, an approval
or a retry advances, a reconciliation pays, and a reject or cancel closes the payout or, when the
payout is not open, releases its commissions all the same.
-/

namespace PredictATrade.Control
open Lib.Table Lib.Runs Lib.Attempt

/-! ## The books in the tables -/

/-- The abstract books the tables hold. -/
def books (db : Db) : Books where
  row c := (db.commission c).map (·.status)
  payout p := (db.payouts.find? (·.id == p)).map (·.status)
  item p c := ∃ i ∈ db.payoutItems, i.payoutId = p ∧ i.commissionId = c

/-- Primary keys are unique, and ids drawn later are new. -/
structure Keyed (db : Db) : Prop where
  ledger : (db.ledger.map (·.id)).Nodup
  payouts : (db.payouts.map (·.id)).Nodup
  ledgerFresh : ∀ i ∈ db.ledger.map (·.id), i < db.nextId
  payoutsFresh : ∀ i ∈ db.payouts.map (·.id), i < db.nextId

/-- Keys are all `Keyed` reads. -/
theorem Keyed.congr {db db' : Db} (h : Keyed db) (hl : db'.ledger.map (·.id) = db.ledger.map (·.id))
    (hp : db'.payouts.map (·.id) = db.payouts.map (·.id)) (hn : db'.nextId = db.nextId) :
    Keyed db' where
  ledger := by rw [hl]; exact h.ledger
  payouts := by rw [hp]; exact h.payouts
  ledgerFresh := by rw [hl, hn]; exact h.ledgerFresh
  payoutsFresh := by rw [hp, hn]; exact h.payoutsFresh

theorem commission_of_mem {db : Db} (h : Keyed db) {r : CommissionRow} (hr : r ∈ db.ledger) :
    db.commission r.id = some r :=
  find?_of_key (k := fun s : CommissionRow => s.id) h.ledger hr

theorem commission_mem {db : Db} {c : Id} {r : CommissionRow} (h : db.commission c = some r) :
    r ∈ db.ledger ∧ r.id = c := by
  have hid := List.find?_some h
  exact ⟨List.mem_of_find?_eq_some h, by simpa using hid⟩

/-- The row statuses after an update of the ledger that keeps ids. -/
theorem books_row_updateWhere {db : Db} {p : CommissionRow → Bool}
    {f : CommissionRow → CommissionRow} (hf : ∀ r, (f r).id = r.id) (c : Id) :
    (books { db with ledger := updateWhere p f db.ledger }).row c =
      (db.commission c).map fun r => if p r then (f r).status else r.status := by
  have hfind : (updateWhere p f db.ledger).find? (·.id == c) =
      (db.commission c).map fun r => if p r then f r else r :=
    find?_updateWhere fun r => by rw [hf]
  show ((updateWhere p f db.ledger).find? (·.id == c)).map (·.status) = _
  rw [hfind, Option.map_map]
  congr 1
  funext r
  by_cases hp : p r = true <;> simp [hp]

/-! ## Quiet calls -/

/-- The call does nothing to payouts and reservations. -/
def Quietly (db db' : Db) : Prop := Keyed db → Keyed db' ∧ Books.Quiet (books db) (books db')

theorem Quietly.of_same {db db' : Db} (hl : db'.ledger = db.ledger) (hp : db'.payouts = db.payouts)
    (hi : db'.payoutItems = db.payoutItems) (hn : db'.nextId = db.nextId) : Quietly db db' := by
  intro hk
  refine ⟨hk.congr (by rw [hl]) (by rw [hp]) hn, ?_⟩
  have hb : books db' = books db := by
    simp only [books, Db.commission, hl, hp, hi]
  rw [hb]
  exact ⟨fun _ => rfl, fun _ _ => Iff.rfl, fun _ _ h _ => h, fun _ h => h⟩

theorem Quietly.refl (db : Db) : Quietly db db := Quietly.of_same rfl rfl rfl rfl

theorem Quietly.trans {db₁ db₂ db₃ : Db} (h₁ : Quietly db₁ db₂) (h₂ : Quietly db₂ db₃) :
    Quietly db₁ db₃ := by
  intro hk
  obtain ⟨hk₂, q₁⟩ := h₁ hk
  obtain ⟨hk₃, q₂⟩ := h₂ hk₂
  refine ⟨hk₃, ?_, ?_, ?_, ?_⟩
  · intro p; rw [q₂.payout, q₁.payout]
  · intro p c; rw [q₂.item, q₁.item]
  · intro c s hs hh; exact q₂.keeps c s (q₁.keeps c s hs hh) hh
  · intro c hc; exact q₁.fresh c (q₂.fresh c hc)

/-- An update of the ledger is quiet when it leaves the status of the rows it matches, or matches rows
that are neither reserved nor paid and reserves none. -/
theorem Quietly.updateLedger {db db' : Db} {p : CommissionRow → Bool}
    {f : CommissionRow → CommissionRow} (h : db.updateLedger p f = .ok db')
    (hid : ∀ r, (f r).id = r.id)
    (hst : Keyed db → ∀ c r, db.commission c = some r → p r = true → (f r).status = r.status ∨
      (r.status ≠ .reserved ∧ r.status ≠ .paid ∧ (f r).status ≠ .reserved)) : Quietly db db' := by
  intro hk
  rw [updateLedger_ok h]
  refine ⟨hk.congr (map_updateWhere hid) rfl rfl, ⟨fun _ => rfl, fun _ _ => Iff.rfl, ?_, ?_⟩⟩
  · intro c s hs hh
    rw [books_row_updateWhere hid c]
    obtain ⟨r, hc, hrs⟩ := Option.map_eq_some_iff.mp hs
    rw [hc, Option.map_some]
    by_cases hp : p r = true
    · rcases hst hk c r hc hp with heq | ⟨h1, h2, -⟩
      · rw [if_pos hp, heq, hrs]
      · rcases hh with rfl | rfl
        · exact absurd hrs h1
        · exact absurd hrs h2
    · rw [if_neg hp, hrs]
  · intro c hs
    rw [books_row_updateWhere hid c] at hs
    obtain ⟨r, hc, hrs⟩ := Option.map_eq_some_iff.mp hs
    refine Option.map_eq_some_iff.mpr ⟨r, hc, ?_⟩
    by_cases hp : p r = true
    · rw [if_pos hp] at hrs
      rcases hst hk c r hc hp with heq | ⟨-, -, h3⟩
      · rw [← heq]; exact hrs
      · exact absurd hrs h3
    · rw [if_neg hp] at hrs; exact hrs

theorem Quietly.updateWallet {db db' : Db} {user : UserId} {currency : Currency}
    {changes : List (Bucket × ℚ)} (h : db.updateWallet user currency changes = .ok db') :
    Quietly db db' := by
  rw [updateWallet_ok h]
  exact Quietly.of_same rfl rfl rfl rfl

theorem Quietly.ensureWallet (user : UserId) (currency : Currency) (db : Db) :
    Quietly db (db.ensureWallet user currency) := by
  unfold Db.ensureWallet
  split
  · exact Quietly.refl db
  · exact Quietly.of_same rfl rfl rfl rfl

theorem Quietly.insertAdjustment {db db' : Db} {a : Adjustment}
    (h : db.insertAdjustment a = .ok db') : Quietly db db' := by
  obtain ⟨amount, -, hdb⟩ := bind_ok h
  cases hdb
  exact Quietly.of_same rfl rfl rfl rfl

/-! ## The commission calls are quiet -/

/-- A legal transition leaves a row that is neither reserved nor paid, and reserves none. -/
theorem transitionMatrix_quiet {s t : CommissionStatus} (h : t ∈ transitionMatrix s) :
    s ≠ .reserved ∧ s ≠ .paid ∧ t ≠ .reserved := by
  cases s <;> simp [transitionMatrix] at h <;> rcases h with rfl | rfl | rfl | rfl <;> decide

/-- A credit appends a pending row under a new id, or leaves the ledger alone. -/
theorem creditReferral_quiet (now : Time) (c : CreditCall) (db : Db) :
    Quietly db (creditReferral now c db).2 := by
  by_cases hins : ∃ e, Inserts now c db e
  · obtain ⟨e, he⟩ := hins
    obtain ⟨events, hc⟩ := creditReferral_of_inserts he
    rw [hc]
    intro hk
    have hnew : db.nextId ∉ db.ledger.map (·.id) := fun hm => lt_irrefl _ (hk.ledgerFresh _ hm)
    -- the new row is found under its own id only
    have hfind : ∀ i, (db.ledger ++ [insertedRow now c db e]).find? (·.id == i) =
        (db.commission i).or (if db.nextId = i then some (insertedRow now c db e) else none) := by
      intro i
      rw [List.find?_append]
      congr 1
      have hid : (insertedRow now c db e).id = db.nextId := rfl
      by_cases hi : db.nextId = i <;> simp [hid, hi]
    have hnone : db.commission db.nextId = none := by
      refine List.find?_eq_none.mpr fun r hr hri => hnew ?_
      rw [← (beq_iff_eq.mp hri)]
      exact List.mem_map_of_mem hr
    refine ⟨⟨?_, hk.payouts, ?_, ?_⟩, ⟨fun _ => rfl, fun _ _ => Iff.rfl, ?_, ?_⟩⟩
    · show ((db.ledger ++ [insertedRow now c db e]).map (·.id)).Nodup
      rw [List.map_append, List.nodup_append]
      refine ⟨hk.ledger, List.nodup_singleton _, ?_⟩
      intro i hi j hj hij
      have hj' : j = db.nextId := by simpa [insertedRow, storedRow] using hj
      rw [hij, hj'] at hi
      exact hnew hi
    · show ∀ i ∈ (db.ledger ++ [insertedRow now c db e]).map (·.id), i < db.nextId + 1
      intro i hi
      rw [List.map_append, List.mem_append] at hi
      rcases hi with hi | hi
      · exact Nat.lt_succ_of_lt (hk.ledgerFresh i hi)
      · have hi' : i = db.nextId := by simpa [insertedRow, storedRow] using hi
        rw [hi']
        exact Nat.lt_succ_self _
    · intro i hi
      exact Nat.lt_succ_of_lt (hk.payoutsFresh i hi)
    · intro i s hs _
      show ((db.ledger ++ [insertedRow now c db e]).find? (·.id == i)).map (·.status) = some s
      obtain ⟨r, hr, hrs⟩ := Option.map_eq_some_iff.mp hs
      rw [hfind, hr]
      simpa using hrs
    · intro i hs
      have hs' : ((db.ledger ++ [insertedRow now c db e]).find? (·.id == i)).map (·.status) =
          some .reserved := hs
      rw [hfind] at hs'
      cases hr : db.commission i with
      | some r => rw [hr] at hs'; simpa [books, hr] using hs'
      | none =>
          -- the new row is pending
          rw [hr] at hs'
          by_cases hi : db.nextId = i
          · simp [hi, insertedRow, storedRow, creditRow] at hs'
          · simp [hi] at hs'
  · have hno : ∀ e, ¬ Inserts now c db e := fun e he => hins ⟨e, he⟩
    obtain ⟨events, hc⟩ := creditReferral_of_not_inserts hno
    rw [hc]
    exact Quietly.of_same rfl rfl rfl rfl

theorem transitionLedgerAndWallet_quiet {now : Time} {id : Id} {target : CommissionStatus}
    {actorId : Option UserId} {reason : Option String} {amt : Option ℚ} {db db' : Db}
    {row : CommissionRow}
    (h : transitionLedgerAndWallet now id target actorId reason amt db = .ok (row, db')) :
    Quietly db db' := by
  obtain ⟨row, db₂, hc, hm, h₂, h₃⟩ := transitionLedgerAndWallet_inv h
  have hl₂ : db₂.ledger = db.ledger := by
    rw [updateWallet_ok h₂]
    exact ensureWallet_ledger _ _ _
  refine (Quietly.ensureWallet _ _ db).trans ((Quietly.updateWallet h₂).trans ?_)
  refine Quietly.updateLedger h₃ (fun _ => rfl) fun _ c r' hc' hp => Or.inr ?_
  -- the row that matches is the one whose status was checked
  have hid : r'.id = id := by simpa using hp
  have hcid : c = id := by rw [← (commission_mem hc').2, hid]
  have hr' : r' = row := by
    have : db.commission c = some r' := by unfold Db.commission at hc' ⊢; rwa [hl₂] at hc'
    rw [hcid, hc] at this
    exact (Option.some.inj this).symm
  subst hr'
  exact transitionMatrix_quiet hm

theorem reverseTx_quiet {now : Time} {id : Id} {reason : String} {actorId : UserId}
    {amount : Option ℚ} {db db' : Db} {out : Option CommissionRow}
    (h : reverseTx now id reason actorId amount db = .ok (out, db')) : Quietly db db' := by
  obtain ⟨row, db₁, -, ⟨h₁, h₂⟩ | ⟨updated, h₁, h₂⟩⟩ := reverseTx_inv h
  · exact (Quietly.updateWallet h₁).trans (Quietly.insertAdjustment h₂)
  · exact (transitionLedgerAndWallet_quiet h₁).trans (Quietly.insertAdjustment h₂)

theorem adjustTx_quiet {now : Time} {id : Id} {delta : ℚ} {reason : String} {actorId : UserId}
    {db db' : Db} {out : Id × ℚ} (h : adjustTx now id delta reason actorId db = .ok (out, db')) :
    Quietly db db' := by
  obtain ⟨row, stored, db₁, db₂, -, h₁, -, h₂, h₄⟩ := adjustTx_inv h
  refine (Quietly.insertAdjustment h₁).trans (Quietly.trans ?_
    ((Quietly.ensureWallet _ _ db₂).trans (Quietly.updateWallet h₄)))
  exact Quietly.updateLedger h₂ (fun _ => rfl) fun _ _ _ _ _ => Or.inl rfl

theorem moveTotals_quiet {src dest : Bucket} {ts : List ((UserId × Currency) × ℚ)} {db db' : Db}
    (h : moveTotals src dest ts db = .ok db') : Quietly db db' := by
  induction ts generalizing db with
  | nil => cases h; exact Quietly.refl _
  | cons t ts ih =>
      obtain ⟨⟨user, currency⟩, amt⟩ := t
      obtain ⟨db₁, h₁, h⟩ := bind_ok h
      exact (Quietly.ensureWallet user currency _).trans ((Quietly.updateWallet h₁).trans (ih h))

theorem clearPhase_quiet {due : CommissionRow → Bool} {advance : CommissionRow → CommissionRow}
    {src dest : Bucket} {db db' : Db} {n : ℕ}
    (h : clearPhase due advance src dest db = .ok (n, db'))
    (hdue : ∀ r, due r = true → r.status ≠ .reserved ∧ r.status ≠ .paid)
    (hid : ∀ r, (advance r).id = r.id) (hadv : ∀ r, (advance r).status ≠ .reserved) :
    Quietly db db' := by
  simp only [clearPhase] at h
  split at h
  · cases h; exact Quietly.refl db
  · obtain ⟨db₁, h₁, h⟩ := bind_ok h
    obtain ⟨db₂, h₂, h⟩ := bind_ok h
    cases h
    refine Quietly.trans ?_ (moveTotals_quiet h₂)
    refine Quietly.updateLedger h₁ hid fun hk c r hc hp => Or.inr ?_
    -- a row with the id of a due row is that row
    obtain ⟨s, hs, hsid⟩ := List.any_eq_true.mp hp
    obtain ⟨hs, hsdue⟩ := List.mem_filter.mp hs
    have hrs : s = r := eq_of_key hk.ledger hs (commission_mem hc).1 (by simpa using hsid)
    subst hrs
    exact ⟨(hdue s hsdue).1, (hdue s hsdue).2, hadv s⟩

theorem clearTx_quiet {now : Time} {db db' : Db} {out : ℕ × ℕ}
    (h : clearTx now db = .ok (out, db')) : Quietly db db' := by
  obtain ⟨⟨n, db₁⟩, h₁, h⟩ := bind_ok h
  obtain ⟨⟨m, db₂⟩, h₂, h⟩ := bind_ok h
  cases h
  have hclear : ∀ r, dueToClear now r = true → r.status ≠ .reserved ∧ r.status ≠ .paid := by
    intro r hr
    have hs : r.status = .pending := by
      simp only [dueToClear, Bool.and_eq_true, beq_iff_eq] at hr; exact hr.1
    rw [hs]; decide
  have hrelease : ∀ r, dueToRelease now r = true → r.status ≠ .reserved ∧ r.status ≠ .paid := by
    intro r hr
    have hs : r.status = .cleared := by
      simp only [dueToRelease, Bool.and_eq_true, beq_iff_eq] at hr; exact hr.1
    rw [hs]; decide
  have hcleared : ∀ r : CommissionRow, (r.markCleared now).status ≠ .reserved := by
    intro r; show CommissionStatus.cleared ≠ .reserved; decide
  have havailable : ∀ r : CommissionRow, (r.markAvailable now).status ≠ .reserved := by
    intro r; show CommissionStatus.available ≠ .reserved; decide
  exact (clearPhase_quiet h₁ hclear (fun _ => rfl) hcleared).trans
    (clearPhase_quiet h₂ hrelease (fun _ => rfl) havailable)

/-! ## Moving a payout along -/

/-- What a successful update of one payout changes: that payout's status, and nothing else. -/
structure Moved (id : Id) (from_ : List PayoutStatus) (target : PayoutStatus) (db db' : Db) :
    Prop where
  keyed : Keyed db'
  before : ∃ s ∈ from_, (books db).payout id = some s
  after : (books db').payout id = some target
  others : ∀ q, q ≠ id → (books db').payout q = (books db).payout q
  row : ∀ c, (books db').row c = (books db).row c
  item : ∀ q c, (books db').item q c ↔ (books db).item q c

theorem advancePayout_moved {id : Id} {from_ : List PayoutStatus} {target : PayoutStatus}
    {f : Payout → Payout} {refusal : String} {db db' : Db} {p : Payout}
    (h : advancePayout id from_ f refusal db = .ok (p, db')) (hk : Keyed db)
    (hid : ∀ r, (f r).id = r.id) (hst : ∀ r, (f r).status = target) :
    Moved id from_ target db db' := by
  obtain ⟨⟨q, hqm, hqp, -⟩, rfl⟩ := advancePayout_inv h
  obtain ⟨hqid, hqs⟩ := Bool.and_eq_true_iff.mp hqp
  have hqid' : q.id = id := by simpa using hqid
  have hfind : db.payouts.find? (·.id == id) = some q := by
    rw [← hqid']
    exact find?_of_key (k := fun s : Payout => s.id) hk.payouts hqm
  have hafter : ∀ i, (updateWhere (fun r : Payout => r.id == id && decide (r.status ∈ from_)) f
      db.payouts).find? (·.id == i) = (db.payouts.find? (·.id == i)).map
        fun r => if (r.id == id && decide (r.status ∈ from_)) = true then f r else r := fun i =>
    find?_updateWhere fun r => by rw [hid]
  refine ⟨hk.congr rfl (map_updateWhere hid) rfl, ⟨q.status, by simpa using hqs, ?_⟩, ?_, ?_,
    fun _ => rfl, fun _ _ => Iff.rfl⟩
  · show (db.payouts.find? (·.id == id)).map (·.status) = _
    rw [hfind]; rfl
  · show ((updateWhere _ f db.payouts).find? (·.id == id)).map (·.status) = _
    rw [hafter, hfind, Option.map_some, if_pos hqp, Option.map_some, hst]
  · intro i hi
    show ((updateWhere _ f db.payouts).find? (·.id == i)).map (·.status) =
      (db.payouts.find? (·.id == i)).map (·.status)
    rw [hafter]
    cases hf : db.payouts.find? (·.id == i) with
    | none => rfl
    | some r =>
        have hr : r.id = i := by simpa using List.find?_some hf
        have hne : ¬ (r.id == id && decide (r.status ∈ from_)) = true := by simp [hr, hi]
        rw [Option.map_some, if_neg hne]

/-- An update that finds no payout to change was not given an id with one of the statuses. -/
theorem advancePayout_refused {id : Id} {from_ : List PayoutStatus} {f : Payout → Payout}
    {refusal : String} {db : Db} {e : Failure} (h : advancePayout id from_ f refusal db = .error e)
    {s : PayoutStatus} (hs : (books db).payout id = some s) : s ∉ from_ := by
  unfold advancePayout Db.updatePayout at h
  split at h
  · rename_i db₁ heq
    injection heq with hrows _
    obtain ⟨q, hq, hqs⟩ := Option.map_eq_some_iff.mp hs
    have hqid := List.find?_some hq
    intro hin
    have hmem : q ∈ db.payouts.filter fun r => r.id == id && decide (r.status ∈ from_) := by
      refine List.mem_filter.mpr ⟨List.mem_of_find?_eq_some hq, ?_⟩
      rw [Bool.and_eq_true]
      exact ⟨hqid, by rw [hqs]; exact decide_eq_true hin⟩
    rw [List.map_eq_nil_iff.mp hrows] at hmem
    cases hmem
  · cases h

/-- The open statuses are those that can be closed. -/
theorem isOpen_iff_closable (s : PayoutStatus) : s.isOpen = true ↔ s ∈ closableStatuses := by
  cases s <;> decide

/-- An update between open statuses advances the payout. -/
theorem Moved.advances {id : Id} {from_ : List PayoutStatus} {target : PayoutStatus} {db db' : Db}
    (h : Moved id from_ target db db') (hfrom : ∀ s ∈ from_, s.isOpen = true)
    (ht : target.isOpen = true) : Books.Advances id (books db) (books db') := by
  obtain ⟨s, hs, hb⟩ := h.before
  exact ⟨⟨s, hb, hfrom s hs⟩, ⟨target, h.after, ht⟩, h.row, h.others, h.item⟩

/-! ## Closing a payout -/

/-- The items of the tables are those of the books. -/
theorem itemOf_iff {id : Id} {db : Db} {r : CommissionRow} :
    db.itemOf id r = true ↔ (books db).item id r.id := by
  simp only [Db.itemOf, List.any_eq_true, Bool.and_eq_true, beq_iff_eq]
  rfl

/-- A reserved commission of a payout is a row `freeReserved` matches. -/
theorem reserved_item {id c : Id} {db : Db} (hi : (books db).item id c)
    (hs : (books db).row c = some .reserved) :
    ∃ r, db.commission c = some r ∧ (r.status == .reserved && db.itemOf id r) = true := by
  obtain ⟨r, hc, hrs⟩ := Option.map_eq_some_iff.mp hs
  refine ⟨r, hc, ?_⟩
  rw [Bool.and_eq_true]
  exact ⟨by simpa using hrs, itemOf_iff.mpr (by rw [(commission_mem hc).2]; exact hi)⟩

/-- Under the ledger's trigger the statement only goes through when it matches no row. -/
theorem freeReserved_idle {now : Time} {id : Id} {db db₁ : Db}
    (h : db.freeReserved now id = .ok db₁) (ht : db.ledgerTrigger = true) :
    ∀ c, (books db).item id c → (books db).row c ≠ some .reserved := by
  intro c hi hs
  obtain ⟨r, hc, hp⟩ := reserved_item hi hs
  have hany : (db.ledger.any fun r => r.status == .reserved && db.itemOf id r) = true :=
    List.any_eq_true.mpr ⟨r, (commission_mem hc).1, hp⟩
  simp only [Db.freeReserved, Db.updateLedger, ht, hany, Bool.and_self, if_true] at h
  cases h

/-- Freeing the reserved rows of a payout's items touches no payout. -/
theorem freeReserved_frees {now : Time} {id : Id} {db db₁ : Db} (hk : Keyed db)
    (h : db.freeReserved now id = .ok db₁) :
    Keyed db₁ ∧ Books.Frees id (books db) (books db₁) ∧
      (∀ q, (books db₁).payout q = (books db).payout q) := by
  have hid : ∀ r : CommissionRow,
      ({ r with status := .cleared, updatedAt := now } : CommissionRow).id = r.id := fun _ => rfl
  unfold Db.freeReserved at h
  rw [updateLedger_ok h]
  refine ⟨hk.congr (map_updateWhere hid) rfl rfl, ⟨?_, ?_, fun _ _ => Iff.rfl⟩, fun _ => rfl⟩
  · intro c hi hs
    rw [books_row_updateWhere hid c]
    obtain ⟨r, hc, hp⟩ := reserved_item hi hs
    rw [hc, Option.map_some, if_pos hp]
  · intro c hi
    rw [books_row_updateWhere hid c]
    cases hc : db.commission c with
    | none => simp [books, hc]
    | some r =>
        have hrc := (commission_mem hc).2
        have hp : ¬ (r.status == .reserved && db.itemOf id r) = true := by
          rw [Bool.and_eq_true]
          rintro ⟨hs, hit⟩
          refine hi ⟨by rw [← hrc]; exact itemOf_iff.mp hit, ?_⟩
          simp only [books, hc, Option.map_some]
          exact congrArg some (by simpa using hs)
        rw [Option.map_some, if_neg hp]
        simp [books, hc]

/-- **Rejecting or cancelling a payout** closes it when it is open, and otherwise releases its
commissions all the same, or does nothing where the ledger refuses the update. -/
theorem closePayout_books (now : Time) {id : Id} {close : Payout → Payout} (refusal : String)
    {target : PayoutStatus} {db : Db} (hk : Keyed db) (hid : ∀ r, (close r).id = r.id)
    (hst : ∀ r, (close r).status = target) (ht : target.live = false) :
    Keyed (closePayout now id close refusal db).2 ∧
      (db.ledgerTrigger = true ∧ (closePayout now id close refusal db).2 = db ∨
        Books.Closes id (books db) (books (closePayout now id close refusal db).2) ∨
        Books.Releases id (books db) (books (closePayout now id close refusal db).2) ∧
          (db.ledgerTrigger = true →
            ∀ c, (books db).item id c → (books db).row c ≠ some .reserved)) := by
  cases hf : db.freeReserved now id with
  | error e =>
      have hclose : closePayout now id close refusal db = (.error (.pg e), db) := by
        simp only [closePayout, hf]
      have htrig : db.ledgerTrigger = true := by
        by_contra hn
        simp [Db.freeReserved, Db.updateLedger, hn] at hf
      rw [hclose]
      exact ⟨hk, Or.inl ⟨htrig, rfl⟩⟩
  | ok db₁ =>
      obtain ⟨hk₁, hfrees, hsame⟩ := freeReserved_frees hk hf
      have hclose : closePayout now id close refusal db =
          transaction (advancePayout id closableStatuses close refusal) db₁ := by
        simp only [closePayout, hf]
      rw [hclose]
      cases ha : advancePayout id closableStatuses close refusal db₁ with
      | error e =>
          rw [transaction_of_error ha]
          refine ⟨hk₁, Or.inr (Or.inr ⟨⟨hfrees, fun s hs => ?_, hsame⟩, freeReserved_idle hf⟩)⟩
          rw [← hsame] at hs
          have hnot := advancePayout_refused ha hs
          rw [← isOpen_iff_closable] at hnot
          simpa using hnot
      | ok out =>
          obtain ⟨p, db₂⟩ := out
          rw [transaction_of_ok ha]
          have hm := advancePayout_moved ha hk₁ hid hst
          obtain ⟨s, hs, hb⟩ := hm.before
          refine ⟨hm.keyed, Or.inr (Or.inl ⟨⟨?_, ?_, ?_⟩, ⟨s, ?_, ?_⟩, ⟨target, hm.after, ht⟩, ?_⟩)⟩
          · intro c hi hr; rw [hm.row]; exact hfrees.freed c hi hr
          · intro c hi; rw [hm.row]; exact hfrees.row c hi
          · intro q c; rw [hm.item]; exact hfrees.item q c
          · rw [← hsame]; exact hb
          · exact (isOpen_iff_closable s).mpr hs
          · intro q hq; rw [hm.others q hq, hsame]

/-! ## Paying a payout -/

theorem reconcilable_isOpen {s : PayoutStatus} (h : s ∈ reconcilableStatuses) : s.isOpen = true := by
  cases s <;> first | rfl | exact absurd h (by decide)

/-- A reconciliation that goes through pays the payout and the commissions of its items. -/
theorem reconcileTx_pays {now : Time} {id : Id} {payload : ReconcilePayload} {db db' : Db}
    {p : Payout} (hk : Keyed db) (h : reconcileTx now id payload db = .ok (p, db')) :
    Keyed db' ∧ Books.Pays id (books db) (books db') := by
  obtain ⟨fee, net, db₁, db₂, wallets, entries, h₁, h₂, -, rfl⟩ := reconcileTx_inv h
  have hm := advancePayout_moved h₁ hk (fun _ => rfl) (fun _ => rfl)
  obtain ⟨s, hs, hb⟩ := hm.before
  have hid : ∀ r : CommissionRow,
      ({ r with status := .paid, paidAt := some now, updatedAt := now } : CommissionRow).id
        = r.id := fun _ => rfl
  have hdb₂ := updateLedger_ok h₂
  -- the rows afterwards; wallets and finance entries are not part of the books
  have hrow : ∀ c, (books db₂).row c =
      (db₁.commission c).map fun r => if db₁.itemOf id r = true then .paid else r.status := by
    intro c; rw [hdb₂]; exact books_row_updateWhere hid c
  have hitem : ∀ {c r}, db₁.commission c = some r →
      (db₁.itemOf id r = true ↔ (books db).item id c) := by
    intro c r hc
    rw [itemOf_iff, (commission_mem hc).2]
    exact hm.item id c
  refine ⟨?_, ⟨⟨s, hb, reconcilable_isOpen hs⟩, ?_, ?_, ?_, ?_⟩⟩
  · subst hdb₂
    exact hm.keyed.congr (map_updateWhere hid) rfl rfl
  · intro c hi t ht
    rw [← hm.row] at ht
    obtain ⟨r, hc, -⟩ := Option.map_eq_some_iff.mp ht
    show (books db₂).row c = _
    rw [hrow, hc, Option.map_some, if_pos ((hitem hc).mpr hi)]
  · intro c hi
    show (books db₂).row c = _
    rw [hrow, ← hm.row]
    cases hc : db₁.commission c with
    | none => simp [books, hc]
    | some r =>
        rw [Option.map_some, if_neg (fun hit => hi ((hitem hc).mp hit))]
        simp [books, hc]
  · intro q
    have hq : (books db₂).payout q = (books db₁).payout q := by rw [hdb₂]; rfl
    show (books db₂).payout q = _
    rw [hq]
    by_cases hqid : q = id
    · rw [if_pos hqid, hqid]; exact hm.after
    · rw [if_neg hqid]; exact hm.others q hqid
  · intro q c
    have hq : (books db₂).item q c ↔ (books db₁).item q c := by rw [hdb₂]; rfl
    exact hq.trans (hm.item q c)

/-! ## Requesting a payout -/

/-- The items are taken from the rows offered. -/
theorem reserveFifo_mem {rows : List CommissionRow} {amount : ℚ} {c : Id}
    (h : c ∈ (reserveFifo amount rows).1.map (·.1)) : ∃ r ∈ rows, r.id = c := by
  induction rows generalizing amount with
  | nil => simp [reserveFifo] at h
  | cons row rows ih =>
      simp only [reserveFifo] at h
      split at h
      · simp at h
      · rw [List.map_cons, List.mem_cons] at h
        rcases h with h | h
        · exact ⟨row, List.mem_cons_self, h.symm⟩
        · obtain ⟨r, hr, hrc⟩ := ih h
          exact ⟨r, List.mem_cons_of_mem row hr, hrc⟩

theorem insertItems_ok {payoutId : Id} {items : List (Id × ℚ)} {rows : List PayoutItem}
    (h : insertItems payoutId items = .ok rows) (p c : Id) :
    (∃ i ∈ rows, i.payoutId = p ∧ i.commissionId = c) ↔
      p = payoutId ∧ c ∈ items.map (·.1) := by
  induction items generalizing rows with
  | nil => cases h; simp
  | cons it items ih =>
      obtain ⟨commissionId, amt⟩ := it
      obtain ⟨amount, -, h⟩ := bind_ok h
      obtain ⟨rest, hrest, h⟩ := bind_ok h
      cases h
      rw [List.map_cons, List.mem_cons]
      constructor
      · rintro ⟨i, hi, rfl, rfl⟩
        rcases List.mem_cons.mp hi with rfl | hi
        · exact ⟨rfl, Or.inl rfl⟩
        · obtain ⟨h1, h2⟩ := (ih hrest).mp ⟨i, hi, rfl, rfl⟩
          exact ⟨h1, Or.inr h2⟩
      · rintro ⟨rfl, rfl | hc⟩
        · exact ⟨_, List.mem_cons_self, rfl, rfl⟩
        · obtain ⟨i, hi, h1, h2⟩ := (ih hrest).mpr ⟨rfl, hc⟩
          exact ⟨i, List.mem_cons_of_mem _ hi, h1, h2⟩

theorem any_fst_iff {items : List (Id × ℚ)} {c : Id} :
    items.any (·.1 == c) = true ↔ c ∈ items.map (·.1) := by
  simp [List.any_eq_true, List.mem_map]

/-- The writes of a request, for items that are cleared rows. -/
theorem writeRequest_requests {now : Time} {userId : UserId} {dto : PayoutRequest} {amount : ℚ}
    {items : List (Id × ℚ)} {db db' : Db} {reply : PayoutReply} (hk : Keyed db)
    (hcl : ∀ c ∈ items.map (·.1), (books db).row c = some .cleared)
    (h : writeRequest now userId dto amount items db = .ok (reply, db')) :
    Keyed db' ∧ Books.Requests db.nextId (items.map (·.1)) (books db) (books db') := by
  unfold writeRequest at h
  obtain ⟨requested, -, h⟩ := bind_ok h
  obtain ⟨-, h⟩ := guard_ok h
  obtain ⟨rows, hrows, h⟩ := bind_ok h
  obtain ⟨db₂, h₂, h⟩ := bind_ok h
  cases h
  have hid : ∀ r : CommissionRow,
      ({ r with status := .reserved, updatedAt := now } : CommissionRow).id = r.id := fun _ => rfl
  have hdb := updateLedger_ok h₂
  have hnew : ∀ p ∈ db.payouts, (p.id == db.nextId) = false := by
    intro p hp
    have := hk.payoutsFresh p.id (List.mem_map_of_mem hp)
    simp [Nat.ne_of_lt this]
  have hnone : db.payouts.find? (·.id == db.nextId) = none :=
    List.find?_eq_none.mpr fun p hp => by simp [hnew p hp]
  subst hdb
  refine ⟨⟨?_, ?_, ?_, ?_⟩, ⟨?_, hcl, ?_, ?_, ?_⟩⟩
  · show ((updateWhere _ _ db.ledger).map (·.id)).Nodup
    rw [map_updateWhere hid]; exact hk.ledger
  · show ((db.payouts ++ [newPayout userId dto requested db]).map (·.id)).Nodup
    rw [List.map_append, List.nodup_append]
    refine ⟨hk.payouts, List.nodup_singleton _, ?_⟩
    intro i hi j hj hij
    have hj' : j = db.nextId := by simpa [newPayout] using hj
    exact lt_irrefl _ (hk.payoutsFresh _ (by rw [← hj', ← hij]; exact hi))
  · show ∀ i ∈ (updateWhere _ _ db.ledger).map (·.id), i < db.nextId + 1
    rw [map_updateWhere hid]
    exact fun i hi => Nat.lt_succ_of_lt (hk.ledgerFresh i hi)
  · show ∀ i ∈ (db.payouts ++ [newPayout userId dto requested db]).map (·.id), i < db.nextId + 1
    intro i hi
    rw [List.map_append, List.mem_append] at hi
    rcases hi with hi | hi
    · exact Nat.lt_succ_of_lt (hk.payoutsFresh i hi)
    · have hi' : i = db.nextId := by simpa [newPayout] using hi
      rw [hi']
      exact Nat.lt_succ_self _
  · show (db.payouts.find? (·.id == db.nextId)).map (·.status) = none
    rw [hnone]; rfl
  · intro c
    refine (@books_row_updateWhere { db with
      payouts := db.payouts ++ [newPayout userId dto requested db]
      payoutItems := db.payoutItems ++ rows, nextId := db.nextId + 1 } _ _ hid c).trans ?_
    show (db.commission c).map (fun r => if (items.any (·.1 == r.id)) = true then
      CommissionStatus.reserved else r.status) = _
    cases hr : db.commission c with
    | none =>
        have hc : c ∉ items.map (·.1) := by
          intro hc
          have hrow := hcl c hc
          simp [books, hr] at hrow
        rw [if_neg hc]
        simp [books, hr]
    | some r =>
        rw [Option.map_some, (commission_mem hr).2]
        by_cases hc : c ∈ items.map (·.1)
        · rw [if_pos hc, if_pos (any_fst_iff.mpr hc)]
        · rw [if_neg hc, if_neg (any_fst_iff.not.mpr hc)]
          simp [books, hr]
  · intro q
    show ((db.payouts ++ [newPayout userId dto requested db]).find? (·.id == q)).map (·.status) = _
    rw [List.find?_append]
    by_cases hq : q = db.nextId
    · rw [if_pos hq, hq, hnone]
      simp [newPayout]
    · have hne : ((newPayout userId dto requested db).id == q) = false := by
        simpa [newPayout] using fun he => hq he.symm
      rw [if_neg hq]
      simp [books, hne]
  · intro q c
    have hitems : (∃ i ∈ rows, i.payoutId = q ∧ i.commissionId = c) ↔
        q = db.nextId ∧ c ∈ items.map (·.1) := insertItems_ok hrows q c
    show (∃ i ∈ db.payoutItems ++ rows, i.payoutId = q ∧ i.commissionId = c) ↔ _
    rw [← hitems]
    simp only [List.mem_append, or_and_right, exists_or]
    rfl

/-- A request that goes through changes nothing, or reserves cleared commissions for a new payout. -/
theorem requestTx_books {now : Time} {userId : UserId} {dto : PayoutRequest} {db db' : Db}
    {reply : PayoutReply} (hk : Keyed db) (h : requestTx now userId dto db = .ok (reply, db')) :
    ((existingPayout userId dto db).isSome = true ∧ db' = db) ∨
      (existingPayout userId dto db = none ∧ Keyed db' ∧
        ∃ cs, cs ≠ [] ∧ Books.Requests db.nextId cs (books db) (books db')) := by
  rcases requestTx_ok h with ⟨p, hp, -, hdb⟩ | ⟨hnone, amount, items, remaining, hv, hres, hrem, hw⟩
  · left; exact ⟨by rw [hp]; rfl, hdb⟩
  · right
    -- the rows on offer are cleared
    have hcl : ∀ c ∈ items.map (·.1), (books db).row c = some .cleared := by
      intro c hc
      obtain ⟨r, hr, rfl⟩ := reserveFifo_mem (by rw [hres]; exact hc)
      rw [eligibleRows, List.mem_insertionSort, List.mem_filter] at hr
      have hst : r.status = .cleared := by
        have := hr.2
        simp only [Bool.and_eq_true, beq_iff_eq] at this
        exact this.2
      show (db.commission r.id).map (·.status) = _
      rw [commission_of_mem hk hr.1, Option.map_some, hst]
    obtain ⟨hk', hr⟩ := writeRequest_requests hk hcl hw
    have hne := reserveFifo_ne_nil hv hres hrem
    exact ⟨hnone, hk', _, by simpa using hne, hr⟩

/-! ## Every call is a step of the books -/

/-- The call rejects or cancels the payout, and the ledger's trigger does not stand in the way. -/
def MayRelease (db : Db) (call : Call) (id : Id) : Prop :=
  call.closes = some id ∧
    (db.ledgerTrigger = true → ∀ c, (books db).item id c → (books db).row c ≠ some .reserved)

/-- The tables afterwards have their keys in order and are one step of the books further. -/
def Refines (may : Id → Prop) (db db' : Db) : Prop :=
  Keyed db' ∧ Books.Step may (books db) (books db')

theorem Quietly.refines {may : Id → Prop} {db db' : Db} (h : Quietly db db') (hk : Keyed db) :
    Refines may db db' :=
  ⟨(h hk).1, .quiet (h hk).2⟩

/-- A transaction refines the books when its body does whenever it succeeds. -/
theorem refines_transaction {ε α : Type} {may : Id → Prop} {body : Db → Except ε (α × Db)} {db : Db}
    (hk : Keyed db) (h : ∀ a db', body db = .ok (a, db') → Refines may db db') :
    Refines may db (transaction body db).2 :=
  transaction_invariant (I := Refines may db) ((Quietly.refl db).refines hk) h

/-- Moving a payout between open statuses. -/
theorem refines_advance {may : Id → Prop} {id : Id} {from_ : List PayoutStatus}
    {target : PayoutStatus} {f : Payout → Payout} {refusal : String} {db : Db} (hk : Keyed db)
    (hid : ∀ r, (f r).id = r.id) (hst : ∀ r, (f r).status = target)
    (hfrom : ∀ s ∈ from_, s.isOpen = true) (ht : target.isOpen = true) :
    Refines may db (transaction (advancePayout id from_ f refusal) db).2 := by
  refine refines_transaction hk fun p db' hb => ?_
  have hm := advancePayout_moved hb hk hid hst
  exact ⟨hm.keyed, .advances id (hm.advances hfrom ht)⟩

/-- Closing a payout. -/
theorem refines_close {now : Time} {id : Id} {call : Call} {close : Payout → Payout}
    {refusal : String} {target : PayoutStatus} {db : Db} (hk : Keyed db)
    (hid : ∀ r, (close r).id = r.id) (hst : ∀ r, (close r).status = target)
    (ht : target.live = false) (hcall : call.closes = some id) :
    Refines (MayRelease db call) db (closePayout now id close refusal db).2 := by
  obtain ⟨hk', hsame | hcl | ⟨hrel, htrig⟩⟩ :=
    closePayout_books now refusal hk hid hst ht
  · rw [hsame.2]; exact (Quietly.refl db).refines hk
  · exact ⟨hk', .closes id hcl⟩
  · exact ⟨hk', .releases id ⟨hcall, htrig⟩ hrel⟩

/-- **The refinement.** Every service call takes the tables one step of the books further. -/
theorem step_refines {db : Db} (hk : Keyed db) (event : Time × Call) :
    Refines (MayRelease db event.2) db (step db event) := by
  obtain ⟨now, call⟩ := event
  cases call with
  | creditReferral c => exact (creditReferral_quiet now c db).refines hk
  | transitionCommission id target actorId reason =>
      exact refines_transaction hk fun _ _ hb => (transitionLedgerAndWallet_quiet hb).refines hk
  | reverseCommission id reason actorId amount =>
      exact refines_transaction hk fun _ _ hb => (reverseTx_quiet hb).refines hk
  | adjustCommission id amount reason actorId =>
      cases amount with
      | none => exact (Quietly.refl db).refines hk
      | some delta => exact refines_transaction hk fun _ _ hb => (adjustTx_quiet hb).refines hk
  | clearEligible => exact refines_transaction hk fun _ _ hb => (clearTx_quiet hb).refines hk
  | requestPayout userId dto =>
      refine refines_transaction hk fun reply db' hb => ?_
      rcases requestTx_books hk hb with ⟨-, rfl⟩ | ⟨-, hk', cs, -, hr⟩
      · exact (Quietly.refl _).refines hk
      · exact ⟨hk', .requests _ cs hr⟩
  | approvePayout id approverId =>
      refine refines_transaction hk fun p db' hb => ?_
      obtain ⟨total, -, hb⟩ := bind_ok hb
      have hm := advancePayout_moved hb hk (fun _ => rfl) (fun _ => rfl)
      exact ⟨hm.keyed, .advances id (hm.advances (by decide) rfl)⟩
  | rejectPayout id reason => exact refines_close hk (fun _ => rfl) (fun _ => rfl) rfl rfl
  | cancelPayout id reason => exact refines_close hk (fun _ => rfl) (fun _ => rfl) rfl rfl
  | processPayout id => exact refines_advance hk (fun _ => rfl) (fun _ => rfl) (by decide) rfl
  | retryPayout id => exact refines_advance hk (fun _ => rfl) (fun _ => rfl) (by decide) rfl
  | reconcilePayout id payload =>
      refine refines_transaction hk fun p db' hb => ?_
      obtain ⟨hk', hp⟩ := reconcileTx_pays hk hb
      exact ⟨hk', .pays id hp⟩

/-- Keys stay in order over every run from tables without rows. -/
theorem Keyed.of_reachable {db : Db} (h : Lib.Runs.Reachable step Opening db) : Keyed db := by
  refine Lib.Runs.Reachable.invariant (I := Keyed) (fun s hs => ?_)
    (fun s event hk => (step_refines hk event).1) h
  obtain ⟨hl, -, -, hp, -⟩ := hs
  refine ⟨by simp [hl], by simp [hp], by simp [hl], by simp [hp]⟩

end PredictATrade.Control
