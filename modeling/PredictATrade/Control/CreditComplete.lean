import PredictATrade.Control.Credit

/-!
# `Control.CreditComplete` — when a credit is complete

A credit is *complete* (`CreditComplete`) when, after the call, the rows of the payment are exactly
the entries the engine computed, no later call for the payment adds a row, and no call reports a
duplicate while rows are missing. `creditReferral_complete_iff` says when that is so: the insert
loop can only ever store a single row per key, so a payment that owes two levels or more is never
completed by a call, only found complete.
-/

namespace PredictATrade.Control
open Lib.Runs Lib.Attempt Lib.Decimal

variable {now t : Time} {c : CreditCall} {db db' : Db} {e : CommissionEntry}

/-! ## The effect of one call -/

/-- The call computes a single entry, its key is not on file, and the ledger accepts its row. -/
def Inserts (now : Time) (c : CreditCall) (db : Db) (e : CommissionEntry) : Prop :=
  referralEntries now c db = [e] ∧ keyOnFile c db = false ∧ Storable (creditRow now c db e) ∧
    db.ledger.any (dedupConflict (creditRow now c db e)) = false

/-- The row a call stores. -/
def insertedRow (now : Time) (c : CreditCall) (db : Db) (e : CommissionEntry) : CommissionRow :=
  storedRow { creditRow now c db e with id := db.nextId }

theorem creditReferral_of_inserts (h : Inserts now c db e) :
    ∃ events, creditReferral now c db = (.ok { credited := 1 }, { db with
      ledger := db.ledger ++ [insertedRow now c db e], nextId := db.nextId + 1,
      events := events }) := by
  obtain ⟨hE, hkey, hst, hdd⟩ := h
  have hne : referralEntries now c db ≠ [] := by rw [hE]; simp
  have hmem : e ∈ referralEntries now c db := by rw [hE]; simp
  have hins : db.insertCommission (creditRow now c db e) = .ok { db with
      ledger := db.ledger ++ [insertedRow now c db e], nextId := db.nextId + 1 } := by
    rcases insertCommission_cases (creditRow now c db e) db with
      ⟨h, _⟩ | ⟨_, h, _⟩ | ⟨_, _, h, _⟩ | ⟨_, _, _, _, h⟩
    · exact absurd hst h
    · rw [rowChecks_creditRow hmem] at h; cases h
    · rw [hdd, any_keyConflict_creditRow, Bool.false_or] at h
      rw [keyOnFile] at hkey
      rw [hkey] at h; cases h
    · exact h
  have htx : ∃ events, creditTx now c (referralEntries now c db) db =
      .ok ({ credited := 1 }, { db with
        ledger := db.ledger ++ [insertedRow now c db e], nextId := db.nextId + 1,
        events := events }) := by
    simp only [creditTx, hkey, Bool.false_eq_true, if_false, hE, List.map_cons, List.map_nil,
      insertRows, hins, ok_bind, pure_eq_ok]
    exact ⟨_, rfl⟩
  obtain ⟨events, htx⟩ := htx
  rw [creditReferral_of_entries hne, transaction_of_ok htx]
  exact ⟨events, rfl⟩

theorem creditReferral_ledger_of_inserts (h : Inserts now c db e) :
    (creditReferral now c db).2.ledger = db.ledger ++ [insertedRow now c db e] := by
  obtain ⟨events, hc⟩ := creditReferral_of_inserts h
  rw [hc]

/-- **Either the call inserts a single row, or it writes at most an audit event.** -/
theorem creditReferral_of_not_inserts (h : ∀ e, ¬ Inserts now c db e) :
    ∃ events, (creditReferral now c db).2 = { db with events := events } := by
  by_cases hE : referralEntries now c db = []
  · exact creditReferral_of_nil hE
  rw [creditReferral_of_entries hE]
  -- whatever the transaction answers, it leaves the tables as they were
  suffices hdb : (transaction (creditTx now c (referralEntries now c db)) db).2 = db by
    have : ∀ out : Except PgError CreditResult × Db, (onConflict out).2 = out.2 := by
      rintro ⟨r, s⟩
      cases r with
      | ok r => rfl
      | error e => cases e <;> rfl
    rw [this, hdb]
    exact ⟨db.events, rfl⟩
  cases hkey : keyOnFile c db with
  | true =>
      have htx : creditTx now c (referralEntries now c db) db
          = .ok ({ credited := 0, skipped := some .duplicate }, db) := by
        simp only [creditTx, hkey, if_true]
      rw [transaction_of_ok htx]
  | false =>
      cases htx : creditTx now c (referralEntries now c db) db with
      | error err => rw [transaction_of_error htx]
      | ok r =>
          -- a committed transaction would have inserted the only entry
          exfalso
          simp only [creditTx, hkey, Bool.false_eq_true, if_false] at htx
          obtain ⟨db', hrows, -⟩ := bind_ok htx
          have hlen := insertRows_ok hrows
          match hm : referralEntries now c db with
          | [] => exact hE hm
          | [e] =>
              rw [hm] at hrows
              obtain ⟨db₁, hins, -⟩ := bind_ok hrows
              rcases insertCommission_cases (creditRow now c db e) db with
                ⟨_, hc⟩ | ⟨_, _, hc⟩ | ⟨_, _, _, hc⟩ | ⟨hst, _, hdd, _, _⟩
              · rw [hc] at hins; cases hins
              · rw [hc] at hins; cases hins
              · rw [hc] at hins; cases hins
              · exact h e ⟨hm, hkey, hst, hdd⟩
          | _ :: _ :: _ => rw [hm] at hlen; simp at hlen

theorem creditReferral_same_of_not_inserts (h : ∀ e, ¬ Inserts now c db e) :
    (creditReferral now c db).2.ledger = db.ledger ∧
      SameProgramme db (creditReferral now c db).2 := by
  obtain ⟨events, hc⟩ := creditReferral_of_not_inserts h
  rw [hc]
  exact ⟨rfl, rfl, rfl, rfl, rfl⟩

/-- What a call inserts depends on the ledger and the programme only. -/
theorem Inserts.congr (hl : db'.ledger = db.ledger) (hp : SameProgramme db db')
    (h : Inserts now c db e) : Inserts now c db' e := by
  obtain ⟨hE, hkey, hst, hdd⟩ := h
  refine ⟨by rw [referralEntries_congr hp, hE], ?_, hst, ?_⟩
  · unfold keyOnFile at hkey ⊢; rw [hl]; exact hkey
  · rw [hl]; exact hdd

theorem not_inserts_of_keyOnFile (h : keyOnFile c db = true) : ¬ Inserts now c db e := by
  rintro ⟨-, hkey, -⟩
  rw [h] at hkey; cases hkey

/-! ## Completeness -/

/-- The ledger rows of the call's payment. -/
def paymentRows (c : CreditCall) (db : Db) : List CommissionRow :=
  db.ledger.filter (·.purchaseId == some c.purchaseId)

/-- The rows are the entries: one row for each level, with its recipient and amount. -/
def RowsOf (rows : List CommissionRow) (entries : List CommissionEntry) : Prop :=
  (rows.map fun r => (r.level, r.recipientUserId, r.commissionAmount)).Perm
    (entries.map fun e => (e.level, e.recipientUserId, e.commissionAmount))

/-- The call answers that the payment was credited before. -/
def ReportsDuplicate (now : Time) (c : CreditCall) (db : Db) : Prop :=
  ∃ r, (creditReferral now c db).1 = .ok r ∧ r.skipped = some .duplicate

/-- One more call for the same payment, at another time. -/
def creditAgain (c : CreditCall) (db : Db) (now : Time) : Db := (creditReferral now c db).2

/-- The credit of a payment is all-or-nothing and complete. -/
structure CreditComplete (now : Time) (c : CreditCall) (db : Db) : Prop where
  /-- After the call the payment has exactly the rows the engine computed. -/
  rows : RowsOf (paymentRows c (creditReferral now c db).2) (referralEntries now c db)
  /-- Calling again, any number of times and whenever, adds no row. -/
  stable : ∀ later : List Time, paymentRows c (run (creditAgain c) (creditReferral now c db).2 later)
    = paymentRows c (creditReferral now c db).2
  /-- The call does not report a duplicate while rows are missing. -/
  honest : ReportsDuplicate now c db →
    (referralEntries now c db).length ≤ (paymentRows c (creditReferral now c db).2).length
  /-- Nor does any later call. -/
  honestLater : ∀ (later : List Time) (t : Time),
    ReportsDuplicate t c (run (creditAgain c) (creditReferral now c db).2 later) →
    (referralEntries now c db).length ≤
      (paymentRows c (run (creditAgain c) (creditReferral now c db).2 (later ++ [t]))).length

theorem RowsOf.length_eq {rows : List CommissionRow} {entries : List CommissionEntry}
    (h : RowsOf rows entries) : rows.length = entries.length := by
  simpa using List.Perm.length_eq h

/-- A stable credit with the right rows is complete: there is nothing to be dishonest about. -/
theorem CreditComplete.of_rows
    (hrows : RowsOf (paymentRows c (creditReferral now c db).2) (referralEntries now c db))
    (hstable : ∀ later : List Time,
      paymentRows c (run (creditAgain c) (creditReferral now c db).2 later)
        = paymentRows c (creditReferral now c db).2) : CreditComplete now c db := by
  refine ⟨hrows, hstable, fun _ => hrows.length_eq.ge, fun later t _ => ?_⟩
  rw [hstable (later ++ [t])]
  exact hrows.length_eq.ge

theorem paymentRows_of_inserts (h : Inserts now c db e) :
    paymentRows c (creditReferral now c db).2 = paymentRows c db ++ [insertedRow now c db e] := by
  have hmine : (insertedRow now c db e).purchaseId == some c.purchaseId := by
    simp [insertedRow, storedRow, creditRow]
  simp only [paymentRows, creditReferral_ledger_of_inserts h, List.filter_append, List.filter_cons,
    hmine, if_true, List.filter_nil]

/-- Where no call can insert a row, no number of calls changes the payment's rows. -/
theorem stable_of_not_inserts (h : ∀ t e, ¬ Inserts t c db e) (later : List Time) :
    paymentRows c (run (creditAgain c) db later) = paymentRows c db := by
  have hrun : (run (creditAgain c) db later).ledger = db.ledger ∧
      SameProgramme db (run (creditAgain c) db later) := by
    refine run_keeps (I := fun s => s.ledger = db.ledger ∧ SameProgramme db s) ?_
      ⟨rfl, rfl, rfl, rfl, rfl⟩ later
    rintro s t ⟨hl, hp⟩
    have hno : ∀ e, ¬ Inserts t c s e := by
      intro e hi
      have hp' : SameProgramme s db := ⟨hp.1.symm, hp.2.1.symm, hp.2.2.1.symm, hp.2.2.2.symm⟩
      exact h t e (hi.congr hl.symm hp')
    obtain ⟨hl', hp'⟩ := creditReferral_same_of_not_inserts hno
    refine ⟨hl'.trans hl, ?_⟩
    exact ⟨hp'.1.trans hp.1, hp'.2.1.trans hp.2.1, hp'.2.2.1.trans hp.2.2.1,
      hp'.2.2.2.trans hp.2.2.2⟩
  unfold paymentRows
  rw [hrun.1]

/-- After an insert the key is on file. -/
theorem keyOnFile_of_inserts (h : Inserts now c db e) :
    keyOnFile c (creditReferral now c db).2 = true := by
  unfold keyOnFile
  rw [creditReferral_ledger_of_inserts h]
  simp [insertedRow, storedRow, creditRow]

/-- **When a credit is complete.** For every payment, sponsor chain, rate table and ledger: either
nothing is owed; or the payment has no row yet and owes a single entry that the ledger accepts; or
its rows are already those of the entries and no call can insert another. -/
theorem creditReferral_complete_iff (now : Time) (c : CreditCall) (db : Db) :
    (referralEntries now c db ≠ [] → CreditComplete now c db) ↔
      referralEntries now c db = [] ∨
      (paymentRows c db = [] ∧ ∃ e, Inserts now c db e) ∨
      (RowsOf (paymentRows c db) (referralEntries now c db) ∧ ∀ t e, ¬ Inserts t c db e) := by
  constructor
  · intro h
    by_cases hE : referralEntries now c db = []
    · exact Or.inl hE
    right
    have hc := h hE
    by_cases hins : ∃ e, Inserts now c db e
    · -- the row it inserts is the only one the payment may have
      left
      obtain ⟨e, he⟩ := hins
      have hlen := hc.rows.length_eq
      rw [paymentRows_of_inserts he, he.1, List.length_append] at hlen
      have hnil : (paymentRows c db).length = 0 := by simpa using hlen
      exact ⟨List.length_eq_zero_iff.mp hnil, e, he⟩
    · right
      have hno : ∀ e, ¬ Inserts now c db e := fun e he => hins ⟨e, he⟩
      obtain ⟨hl, hp⟩ := creditReferral_same_of_not_inserts hno
      have hsame : paymentRows c (creditReferral now c db).2 = paymentRows c db := by
        unfold paymentRows; rw [hl]
      refine ⟨hsame ▸ hc.rows, fun t e he => ?_⟩
      -- a call at `t` that inserts would grow the payment's rows
      have hgrow := paymentRows_of_inserts (he.congr hl hp)
      have hst := hc.stable [t]
      simp only [run_cons, run_nil, creditAgain] at hst
      rw [hst] at hgrow
      have := congrArg List.length hgrow
      simp at this
  · rintro (hE | ⟨hnil, e, he⟩ | ⟨hrows, hno⟩) hne
    · exact absurd hE hne
    · refine CreditComplete.of_rows ?_ fun later => ?_
      · have hamt : (insertedRow now c db e).commissionAmount = e.commissionAmount :=
          storedRow_amount (by rw [he.1]; simp : e ∈ referralEntries now c db) db
        rw [paymentRows_of_inserts he, hnil, he.1, List.nil_append, RowsOf, List.map_cons,
          List.map_nil, hamt]
        exact List.Perm.refl _
      · exact stable_of_not_inserts
          (fun t e' => not_inserts_of_keyOnFile (keyOnFile_of_inserts he)) later
    · obtain ⟨hl, hp⟩ := creditReferral_same_of_not_inserts (hno now)
      have hsame : paymentRows c (creditReferral now c db).2 = paymentRows c db := by
        unfold paymentRows; rw [hl]
      refine CreditComplete.of_rows (hsame.symm ▸ hrows) fun later => ?_
      refine stable_of_not_inserts (fun t e he => hno t e ?_) later
      have hp' : SameProgramme (creditReferral now c db).2 db :=
        ⟨hp.1.symm, hp.2.1.symm, hp.2.2.1.symm, hp.2.2.2.symm⟩
      exact he.congr hl.symm hp'

/-! ## A two-level chain -/

/-- A buyer, 10, with sponsors 1 and 2 at levels one and two, each level with its own rate. -/
def twoLevelDb : Db :=
  { relationships := [⟨10, 1, 1⟩, ⟨10, 2, 2⟩]
    plans := [⟨7, "PRO"⟩]
    commissionRules := [⟨100, 7, 1, 1 / 10, 0, none, true⟩, ⟨101, 7, 2, 1 / 20, 0, none, true⟩]
    purchaseRules := [⟨200, .firstPurchase, 1, 5, 0, none, true⟩] }

/-- Payment 55, of 100 USD, by the buyer for the plan. -/
def twoLevelCall : CreditCall := ⟨10, 7, .revenue 55, 55, 100, "USD"⟩

/-- **A two-level credit is lost.** Two entries are owed, the call answers "skipped", and the payment
has no ledger row. -/
theorem creditReferral_loses_two_levels :
    (referralEntries 1000 twoLevelCall twoLevelDb).length = 2 ∧
      (creditReferral 1000 twoLevelCall twoLevelDb).1 =
        .ok { credited := 0, skipped := some .duplicate } ∧
      paymentRows twoLevelCall (creditReferral 1000 twoLevelCall twoLevelDb).2 = [] ∧
      ¬ (referralEntries 1000 twoLevelCall twoLevelDb ≠ [] →
        CreditComplete 1000 twoLevelCall twoLevelDb) := by
  have hlen : (referralEntries 1000 twoLevelCall twoLevelDb).length = 2 := by decide +kernel
  have hres : (creditReferral 1000 twoLevelCall twoLevelDb).1 =
      .ok { credited := 0, skipped := some .duplicate } := by decide +kernel
  have hrows : paymentRows twoLevelCall (creditReferral 1000 twoLevelCall twoLevelDb).2 = [] := by
    decide +kernel
  refine ⟨hlen, hres, hrows, fun h => ?_⟩
  have hne : referralEntries 1000 twoLevelCall twoLevelDb ≠ [] := by
    intro hnil; rw [hnil] at hlen; cases hlen
  -- a complete credit would have left two rows
  have hcount := (h hne).rows.length_eq
  rw [hrows, hlen] at hcount
  cases hcount

end PredictATrade.Control
