import PredictATrade.Control.AtMostOnce

/-!
# `Control.Rejections` — a closing that throws

`rejectPayout` and `cancelPayout` send their two statements outside a transaction, so that the first
one stays committed whatever becomes of the second. `closing_atomic_iff` says when a call that throws
has still left payouts and ledger alone: when there was nothing for the first statement to free.
-/

namespace PredictATrade.Control
open Lib.Table Lib.Attempt Lib.Runs

/-! ## Statements that fail -/

/-- The failures of the two statements that the tables do not decide: a lost connection, a reason
that the column cannot store. -/
structure CloseFaults where
  free : Option Failure := none
  close : Option Failure := none
  deriving DecidableEq, Repr

/-- A statement that fails, or goes through to the next one. -/
def orFault {α : Type} (fault : Option Failure) (db : Db) (rest : Except Failure α × Db) :
    Except Failure α × Db :=
  match fault with
  | some e => (.error e, db)
  | none => rest

/-- `closePayout`, with the failures of its statements. -/
def closePayoutUnder (faults : CloseFaults) (now : Time) (id : Id) (close : Payout → Payout)
    (refusal : String) (db : Db) : Except Failure Payout × Db :=
  orFault faults.free db <|
    match db.freeReserved now id with
    | .error e => (.error (.pg e), db)
    | .ok db₁ =>
      orFault faults.close db₁ (transaction (advancePayout id closableStatuses close refusal) db₁)

/-- `rejectPayout`, where statements can fail. -/
def rejectPayoutUnder (faults : CloseFaults) (now : Time) (id : Id) (reason : String) (db : Db) :
    Except Failure Payout × Db :=
  closePayoutUnder faults now id
    (fun p => { p with status := .rejected, reviewedAt := some now, reason := some reason })
    "Payout not found or not in a rejectable state" db

/-- `cancelPayout`, where statements can fail. -/
def cancelPayoutUnder (faults : CloseFaults) (now : Time) (id : Id) (reason : String) (db : Db) :
    Except Failure Payout × Db :=
  closePayoutUnder faults now id
    (fun p => { p with status := .cancelled, cancelledAt := some now, reason := some reason })
    "Payout not found or not in a cancellable state" db

variable {faults : CloseFaults} {now : Time} {id : Id} {db : Db}

/-- Where no statement fails by itself, these are the calls of the service. -/
theorem closeUnder_noFaults (reason : String) :
    rejectPayoutUnder {} now id reason db = rejectPayout now id reason db ∧
      cancelPayoutUnder {} now id reason db = cancelPayout now id reason db := ⟨rfl, rfl⟩

/-! ## What a call that throws leaves -/

/-- A call that throws has left every payout and every commission as it was. -/
def Atomic (out : Except Failure Payout × Db) (db : Db) : Prop :=
  ∀ e, out.1 = .error e → out.2.payouts = db.payouts ∧ out.2.ledger = db.ledger

/-- None of the commissions in the payout's items is RESERVED. -/
def NothingReserved (id : Id) (db : Db) : Prop :=
  ∀ r ∈ db.ledger, r.status = .reserved → db.itemOf id r = false

/-- A payout of this id that may still be closed. -/
def Closable (id : Id) (db : Db) : Prop :=
  ∃ p ∈ db.payouts, p.id = id ∧ p.status ∈ closableStatuses

/-- The call goes through, or there is nothing that its first statement frees. -/
def Harmless (faults : CloseFaults) (id : Id) (db : Db) : Prop :=
  NothingReserved id db ∨ faults.free.isSome = true ∨ db.ledgerTrigger = true ∨
    (faults.close = none ∧ Closable id db)

instance (id : Id) (db : Db) : Decidable (NothingReserved id db) :=
  inferInstanceAs (Decidable (∀ r ∈ db.ledger, _))

/-- The first statement fails where the trigger refuses it, or else frees the rows. -/
theorem freeReserved_cases (now : Time) (id : Id) (db : Db) :
    (db.ledgerTrigger = true ∧ ¬ NothingReserved id db ∧
      db.freeReserved now id = .error .raiseException) ∨
    ((db.ledgerTrigger = true → NothingReserved id db) ∧
      db.freeReserved now id = .ok { db with
        ledger := updateWhere (fun r => r.status == .reserved && db.itemOf id r)
          (fun r => { r with status := .cleared, updatedAt := now }) db.ledger }) := by
  have hany : db.ledger.any (fun r => r.status == .reserved && db.itemOf id r) = true ↔
      ¬ NothingReserved id db := by
    simp [NothingReserved]
  unfold Db.freeReserved Db.updateLedger
  by_cases h : (db.ledgerTrigger &&
      db.ledger.any fun r => r.status == .reserved && db.itemOf id r) = true
  · obtain ⟨htr, hrow⟩ := Bool.and_eq_true_iff.mp h
    rw [if_pos h]
    exact Or.inl ⟨htr, hany.mp hrow, rfl⟩
  · rw [if_neg h]
    refine Or.inr ⟨fun htr => ?_, rfl⟩
    by_contra hne
    exact h (Bool.and_eq_true_iff.mpr ⟨htr, hany.mpr hne⟩)

/-- The rows are as they were exactly when there was nothing to free. -/
theorem freed_eq_iff (now : Time) (id : Id) (db : Db) :
    updateWhere (fun r => r.status == .reserved && db.itemOf id r)
        (fun r => { r with status := .cleared, updatedAt := now }) db.ledger = db.ledger ↔
      NothingReserved id db := by
  rw [updateWhere_eq_self_iff]
  · unfold NothingReserved
    refine forall₂_congr fun r _ => ?_
    rw [Bool.and_eq_false_imp, beq_iff_eq]
  · intro r hr heq
    have hst : r.status = .reserved := by simpa using (Bool.and_eq_true_iff.mp hr).1
    have hcl := congrArg CommissionRow.status heq
    rw [hst] at hcl
    cases hcl

/-- The second statement throws exactly when there is no payout that it may close, and then it
changes nothing. -/
theorem advance_throws (id : Id) (close : Payout → Payout) (refusal : String) (db : Db) :
    (Closable id db ∧ ∃ p db', transaction (advancePayout id closableStatuses close refusal) db =
      (.ok p, db')) ∨
    (¬ Closable id db ∧ transaction (advancePayout id closableStatuses close refusal) db =
      (.error (.badRequest refusal), db)) := by
  unfold transaction advancePayout Db.updatePayout
  dsimp only
  cases hrows : db.payouts.filter fun r => r.id == id && decide (r.status ∈ closableStatuses) with
  | nil =>
    refine Or.inr ⟨?_, rfl⟩
    rintro ⟨p, hp, hid, hst⟩
    exact (List.filter_eq_nil_iff.mp hrows) p hp (by simp [hid, hst])
  | cons p ps =>
    have hp : p ∈ db.payouts.filter fun r => r.id == id && decide (r.status ∈ closableStatuses) := by
      rw [hrows]
      exact List.mem_cons_self
    obtain ⟨hmem, hpred⟩ := List.mem_filter.mp hp
    refine Or.inl ⟨⟨p, hmem, ?_⟩, close p, _, rfl⟩
    simpa using hpred

/-- One closing: a call that throws is atomic exactly when it is harmless. -/
theorem close_atomic_iff (close : Payout → Payout) (refusal : String) :
    Atomic (closePayoutUnder faults now id close refusal db) db ↔ Harmless faults id db := by
  unfold closePayoutUnder Harmless
  cases hf : faults.free with
  | some e => exact iff_of_true (fun _ _ => ⟨rfl, rfl⟩) (Or.inr (Or.inl rfl))
  | none =>
    show Atomic (match db.freeReserved now id with | .error e => _ | .ok db₁ => _) db ↔ _
    rcases freeReserved_cases now id db with ⟨htr, -, hfree⟩ | ⟨htr, hfree⟩
    · -- the trigger refuses the first statement, and nothing is written
      rw [hfree]
      exact iff_of_true (fun _ _ => ⟨rfl, rfl⟩) (Or.inr (Or.inr (Or.inl htr)))
    · rw [hfree]
      dsimp only
      have hledger := freed_eq_iff now id db
      have hcond : (NothingReserved id db ∨ (none : Option Failure).isSome = true ∨
          db.ledgerTrigger = true ∨ faults.close = none ∧ Closable id db) ↔
          (NothingReserved id db ∨ faults.close = none ∧ Closable id db) := by
        constructor
        · rintro (h | h | h | h)
          · exact Or.inl h
          · cases h
          · exact Or.inl (htr h)
          · exact Or.inr h
        · rintro (h | h)
          · exact Or.inl h
          · exact Or.inr (Or.inr (Or.inr h))
      rw [hcond]
      cases hc : faults.close with
      | some e =>
        -- the second statement fails after the first has been committed
        show (∀ e', _ → _) ↔ _
        constructor
        · intro h
          exact Or.inl (hledger.mp (h e rfl).2)
        · rintro (h | ⟨h, -⟩)
          · exact fun _ _ => ⟨rfl, hledger.mpr h⟩
          · cases h
      | none =>
        show Atomic (transaction _ _) db ↔ _
        rcases advance_throws id close refusal { db with
            ledger := updateWhere (fun r => r.status == .reserved && db.itemOf id r)
              (fun r => { r with status := .cleared, updatedAt := now }) db.ledger } with
          ⟨hclosable, p, db', hout⟩ | ⟨hnone, hout⟩
        · rw [hout]
          refine iff_of_true ?_ (Or.inr ⟨rfl, hclosable⟩)
          intro e he
          cases he
        · rw [hout]
          constructor
          · intro h
            exact Or.inl (hledger.mp (h _ rfl).2)
          · rintro (h | ⟨-, h⟩)
            · exact fun _ _ => ⟨rfl, hledger.mpr h⟩
            · exact absurd h hnone

/-- **When a rejection or cancellation that throws is atomic.** For any tables, id, reason and
failures of the two statements: exactly when none of the payout's commissions is RESERVED, or the
first statement fails, or the second goes through. -/
theorem closing_atomic_iff (faults : CloseFaults) (now : Time) (id : Id) (reason : String) (db : Db) :
    (Atomic (rejectPayoutUnder faults now id reason db) db ↔ Harmless faults id db) ∧
      (Atomic (cancelPayoutUnder faults now id reason db) db ↔ Harmless faults id db) :=
  ⟨close_atomic_iff _ _, close_atomic_iff _ _⟩

/-- Payout 1 is requested and rejected, and its commission is requested again as payout 2. -/
def requestedAgain : Db :=
  run step oneCommissionDb
    [(10, .requestPayout 1 hundredDollars), (20, .rejectPayout 1 "wrong account"),
      (30, .requestPayout 1 hundredDollars)]

/-- **Rejecting a payout twice frees the next one's commission.** The second rejection of payout 1
throws, and the commission that payout 2 has reserved is CLEARED again. -/
theorem second_rejection_not_atomic :
    (rejectPayoutUnder {} 40 1 "wrong account" requestedAgain).1 =
        .error (.badRequest "Payout not found or not in a rejectable state") ∧
      requestedAgain.ledger.map (·.status) = [.reserved] ∧
      (rejectPayoutUnder {} 40 1 "wrong account" requestedAgain).2.ledger.map (·.status) =
        [.cleared] ∧
      ¬ Atomic (rejectPayoutUnder {} 40 1 "wrong account" requestedAgain) requestedAgain := by
  have hthrows : (rejectPayoutUnder {} 40 1 "wrong account" requestedAgain).1 =
      .error (.badRequest "Payout not found or not in a rejectable state") := by decide +kernel
  have hbefore : requestedAgain.ledger.map (·.status) = [.reserved] := by decide +kernel
  have hafter : (rejectPayoutUnder {} 40 1 "wrong account" requestedAgain).2.ledger.map (·.status) =
      [.cleared] := by decide +kernel
  refine ⟨hthrows, hbefore, hafter, fun h => ?_⟩
  have hsame := congrArg (List.map CommissionRow.status) (h _ hthrows).2
  rw [hbefore, hafter] at hsame
  cases hsame

end PredictATrade.Control
