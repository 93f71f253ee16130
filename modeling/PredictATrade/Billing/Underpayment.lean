import PredictATrade.Lib.Largest
import PredictATrade.Billing.Settlement

/-!
# `Billing.Underpayment` — which amounts settle a payment

`handleIPN` is written so that a payment is completed only when the amount received covers what is
expected, within the tolerance. The amount received is `actually_paid`, but the check takes the
largest positive value among five fields of the body, one of which (`pay_amount`) is the amount that
was asked for. `PaysFor` is the law about `actually_paid` alone. A body is turned down (`TurnedDown`)
when one of its amounts does not read, or when every positive one falls short, or when none is
positive and the strict mode is on. A payment that is not completed yet obeys the law exactly for the
bodies that cover it and those that cannot settle it (`underpaid_never_settled_iff`).
-/

namespace PredictATrade.Billing
open Lib.Table Lib.Decimal Lib.Attempt Lib.Largest

/-! ## The law -/

/-- What a payment has to bring: its own amount or, without one, the total of its invoice. -/
def Payment.expected (p : Payment) (db : Db) : ℚ :=
  if 0 < p.amount then p.amount else (db.invoiceTotal p).getD 0

/-- The amount covers what is expected, within the tolerance. -/
def PaysFor (cfg : Config) (expected : ℚ) : Amount → Prop
  | .number paid => (1 - cfg.underpayTolerancePct / 100) * expected ≤ paid
  | .infinity => True
  | .absent | .nan | .malformed => False

/-- The payment stored under `ref` is completed. -/
def Completed (ref : String) (db : Db) : Prop :=
  ∃ p, db.paymentOf ref = some p ∧ p.status = .completed

/-- No delivery of this body, whatever fails in it, completes the payment without its
`actually_paid`, if it carries one, covering it. -/
def CompletedOnlyIfCovered (cfg : Config) (ipn : Ipn) (p : Payment) (db : Db) : Prop :=
  ipn.actuallyPaid ≠ .absent → ∀ d : Delivery, d.body = some ipn →
    Completed ipn.gatewayPaymentRef (handleIPN cfg d db).2 →
      PaysFor cfg (p.expected db) ipn.actuallyPaid

/-! ## What keeps a body from settling -/

/-- The amounts the check compares. -/
def Amount.Positive : Amount → Prop
  | .number paid => 0 < paid
  | .infinity => True
  | .absent | .nan | .malformed => False

instance : DecidablePred Amount.Positive
  | .number paid => inferInstanceAs (Decidable (0 < paid))
  | .infinity => .isTrue trivial
  | .absent | .nan | .malformed => .isFalse id

/-- The amount is below the least one that is accepted. -/
def Amount.FallsShort (cfg : Config) (expected : ℚ) : Amount → Prop
  | .number paid => decimal (paid + 1 / 10 ^ 9) < minOk cfg expected
  | .infinity | .absent | .nan | .malformed => False

/-- The check of the amounts does not let the body through. -/
def TurnedDown (cfg : Config) (expected : ℚ) (ipn : Ipn) : Prop :=
  .malformed ∈ ipn.amounts ∨
    if ∃ a ∈ ipn.amounts, a.Positive then
      0 < expected ∧ ∀ a ∈ ipn.amounts, a.Positive → a.FallsShort cfg expected
    else cfg.requireAmountStrict = true

/-- The delivery does not get to the check, or the database refuses the settlement that follows
it. -/
def Unprocessed (cfg : Config) (ipn : Ipn) (db : Db) : Prop :=
  ipn.gatewayPaymentRef = "" ∨ ipn.providerEventId ∈ db.events ∨
    ipn.paymentStatus ∉ settledStatuses ∨ cfg.rowLockAccepted = false

/-! ## The amounts -/

section
variable {cfg : Config} {expected : ℚ} {as : List Amount} {vs : List (WithTop ℚ)}

/-- The positive amounts, as values. -/
def Amount.value : Amount → Option (WithTop ℚ)
  | .number paid => if 0 < paid then some (paid : WithTop ℚ) else none
  | .infinity => some ⊤
  | .absent | .nan | .malformed => none

/-- An amount counts when it is positive. -/
theorem value_isSome_iff {a : Amount} : a.value.isSome ↔ a.Positive := by
  cases a with
  | number q => by_cases hq : 0 < q <;> simp [Amount.value, Amount.Positive, hq]
  | _ => simp [Amount.value, Amount.Positive]

theorem actualCandidates_eq :
    actualCandidates as =
      if .malformed ∈ as then .error .decimal else .ok (as.filterMap Amount.value) := by
  induction as with
  | nil => simp [actualCandidates]
  | cons a as ih =>
    have hcons : (a :: as).filterMap Amount.value = a.value.toList ++ as.filterMap Amount.value := by
      cases ha : a.value <;> simp [ha]
    simp only [actualCandidates, ih, hcons]
    by_cases hmal : Amount.malformed ∈ as
    · cases a <;> simp [Amount.candidate, hmal, bind, Except.bind]
    · cases a with
      | number q =>
        by_cases hq : 0 < q <;>
          simp [Amount.candidate, Amount.value, hmal, hq, bind, Except.bind]
      | _ => simp [Amount.candidate, Amount.value, hmal, bind, Except.bind]

/-- A smaller positive amount falls short when a larger one does. -/
theorem fallsShort_antitone {v w : WithTop ℚ} (hv : 0 < v) (hvw : v ≤ w)
    (hw : fallsShort cfg expected w = true) : fallsShort cfg expected v = true := by
  cases w with
  | top => cases hw
  | coe y =>
    obtain ⟨x, rfl⟩ := WithTop.ne_top_iff_exists.mp (hvw.trans_lt (WithTop.coe_lt_top y)).ne
    have hx : 0 < x := by exact_mod_cast hv
    have hxy : x ≤ y := by exact_mod_cast hvw
    simp only [fallsShort, decide_eq_true_eq] at hw ⊢
    have hround : decimal (x + 1 / 10 ^ 9) ≤ decimal (y + 1 / 10 ^ 9) :=
      roundSig_mono_of_pos (by norm_num) (by positivity) (by linarith)
    exact hround.trans_lt hw

/-- The largest candidate falls short exactly when they all do. -/
theorem fallsShort_actual_iff (hpos : ∀ v ∈ vs, 0 < v) (hne : vs ≠ []) :
    fallsShort cfg expected (actual vs) = true ↔ ∀ v ∈ vs, fallsShort cfg expected v = true := by
  constructor
  · intro h v hv
    exact fallsShort_antitone (hpos v hv) (le_largest 0 hv) h
  · intro h
    rcases largest_mem 0 vs with hzero | hmem
    · -- the start is below every candidate
      obtain ⟨v, hv⟩ := List.exists_mem_of_ne_nil vs hne
      have hle : v ≤ largest 0 vs := le_largest 0 hv
      rw [hzero] at hle
      exact absurd (hpos v hv) (not_lt.mpr hle)
    · exact h _ hmem

theorem value_pos {a : Amount} {v : WithTop ℚ} (h : a.value = some v) : 0 < v := by
  cases a with
  | number q =>
    obtain ⟨hq, h⟩ := Option.ite_none_right_eq_some.mp h
    cases h
    exact_mod_cast hq
  | infinity =>
    cases h
    exact WithTop.top_pos
  | _ => cases h

/-- The check of an amount, by what it is. -/
theorem fallsShort_value_iff {a : Amount} {v : WithTop ℚ} (h : a.value = some v) :
    fallsShort cfg expected v = true ↔ a.FallsShort cfg expected := by
  cases a with
  | number q =>
    obtain ⟨-, h⟩ := Option.ite_none_right_eq_some.mp h
    cases h
    exact decide_eq_true_iff
  | infinity =>
    cases h
    simp [fallsShort, Amount.FallsShort]
  | _ => cases h

/-- **The check of the amounts** lets a body through exactly when it is not turned down. -/
theorem precheck_proceeds_iff {p : Payment} {total : Option ℚ} {ipn : Ipn}
    (hexp : expected = if 0 < p.amount then p.amount else total.getD 0) :
    precheck cfg p total ipn = .ok .proceed ↔ ¬ TurnedDown cfg expected ipn := by
  simp only [precheck, ← hexp, actualCandidates_eq, TurnedDown]
  by_cases hmal : Amount.malformed ∈ ipn.amounts
  · simp [hmal, bind, Except.bind]
  simp only [hmal, if_false, false_or, bind, Except.bind]
  set vs := ipn.amounts.filterMap Amount.value with hvs
  have hmem : ∀ v, v ∈ vs ↔ ∃ a ∈ ipn.amounts, a.value = some v := fun v => by
    rw [hvs, List.mem_filterMap]
  have hpos : ∀ v ∈ vs, 0 < v := fun v hv => by
    obtain ⟨a, -, ha⟩ := (hmem v).mp hv
    exact value_pos ha
  by_cases hsome : ∃ a ∈ ipn.amounts, a.Positive
  · -- some amount is positive: the largest decides
    have hne : vs ≠ [] := by
      obtain ⟨a, ha, hap⟩ := hsome
      obtain ⟨v, hv⟩ := Option.isSome_iff_exists.mp (value_isSome_iff.mpr hap)
      exact List.ne_nil_of_mem ((hmem v).mpr ⟨a, ha, hv⟩)
    have hshort : fallsShort cfg expected (actual vs) = true ↔
        ∀ a ∈ ipn.amounts, a.Positive → a.FallsShort cfg expected := by
      rw [fallsShort_actual_iff hpos hne]
      constructor
      · intro h a ha hap
        obtain ⟨v, hv⟩ := Option.isSome_iff_exists.mp (value_isSome_iff.mpr hap)
        exact (fallsShort_value_iff hv).mp (h v ((hmem v).mpr ⟨a, ha, hv⟩))
      · intro h v hv
        obtain ⟨a, ha, hav⟩ := (hmem v).mp hv
        have hap : a.Positive := value_isSome_iff.mp (hav ▸ rfl)
        exact (fallsShort_value_iff hav).mpr (h a ha hap)
    rw [if_pos hsome, ← hshort]
    simp only [hne, ne_eq, not_false_iff, true_and, false_and, if_false]
    by_cases hbelow : 0 < expected ∧ fallsShort cfg expected (actual vs) = true
    · rw [if_pos hbelow]; simp only [hbelow]; simp
    · rw [if_neg hbelow]; simp only [hbelow]; simp
  · have hnil : vs = [] := by
      apply List.eq_nil_iff_forall_not_mem.mpr
      intro v hv
      obtain ⟨a, ha, hav⟩ := (hmem v).mp hv
      exact hsome ⟨a, ha, value_isSome_iff.mp (hav ▸ rfl)⟩
    rw [if_neg hsome]
    cases hstrict : cfg.requireAmountStrict <;> simp [hnil]

end

/-! ## What completes a payment -/

section
variable {cfg : Config} {ref : String} {ipn : Ipn} {faults : IpnQuery → Bool} {db : Db} {p : Payment}

theorem not_completed (hp : db.paymentOf ref = some p) (hopen : p.status ≠ .completed) :
    ¬ Completed ref db := by
  rintro ⟨q, hq, hc⟩
  rw [hp] at hq
  exact hopen (Option.some.inj hq ▸ hc)

theorem not_completed_markUnderpaid (ref' : String) (h : ¬ Completed ref db) :
    ¬ Completed ref (db.markUnderpaid ref') := by
  rintro ⟨q, hq, hc⟩
  rw [markUnderpaid_paymentOf] at hq
  obtain ⟨p, hp, rfl⟩ := Option.map_eq_some_iff.mp hq
  apply h
  refine ⟨p, hp, ?_⟩
  split at hc
  · cases hc
  · exact hc

/-- **What a delivery that completes an open payment has been through**: its event is new, its status
settles, the database takes the settlement, and the amounts pass. -/
theorem receiveIPN_completes (hopen : ¬ Completed ref db)
    (h : Completed ref (receiveIPN cfg ipn faults db).2) :
    ipn.providerEventId ∉ db.events ∧ ipn.paymentStatus ∈ settledStatuses ∧
      cfg.rowLockAccepted = true ∧ verify cfg ipn db = .ok .proceed := by
  have hfile : ¬ Completed ref (db.fileEvent ipn.providerEventId) := hopen
  simp only [receiveIPN] at h
  by_cases hins : faults .insertEvent = true
  · rw [if_pos hins] at h; exact absurd h hopen
  by_cases hnew : ipn.providerEventId ∈ db.events
  · rw [if_neg hins, if_pos hnew] at h; exact absurd h hopen
  rw [if_neg hins, if_neg hnew] at h
  simp only [processIPN] at h
  by_cases hst : ipn.paymentStatus ∈ settledStatuses
  swap
  · rw [if_pos hst] at h; exact absurd h hfile
  rw [if_neg (not_not.mpr hst)] at h
  by_cases hload : faults .loadPayment = true
  · rw [if_pos hload] at h; exact absurd h hfile
  rw [if_neg hload] at h
  have hverify : verify cfg ipn (db.fileEvent ipn.providerEventId) = verify cfg ipn db := rfl
  rw [hverify] at h
  cases hv : verify cfg ipn db with
  | error e => rw [hv] at h; exact absurd h hfile
  | ok verdict =>
    simp only [hv] at h
    cases verdict with
    | underpaid =>
      simp only [afterVerdict] at h
      cases hmark : faults .markUnderpaid with
      | true => rw [if_pos hmark] at h; exact absurd h hfile
      | false =>
        rw [if_neg (by simp [hmark])] at h
        have hno := not_completed_markUnderpaid ipn.gatewayPaymentRef hfile
        split at h
        · exact absurd h hno
        · exact absurd h hno
    | amountUnverified => exact absurd h hfile
    | proceed =>
      refine ⟨hnew, hst, ?_, rfl⟩
      simp only [afterVerdict] at h
      by_cases hconn : faults .connect = true
      · rw [if_pos hconn] at h; exact absurd h hfile
      rw [if_neg hconn] at h
      cases hset : settlement cfg ipn.gatewayPaymentRef faults (db.fileEvent ipn.providerEventId) with
      | ok r => exact (settlement_ok hset).1
      | error e =>
        simp only [settlePayment, transaction_of_error hset] at h
        split at h
        · exact absurd h hfile
        · exact absurd h hopen

/-- A delivery in which nothing fails settles the open payment, once the amounts pass. -/
theorem receiveIPN_clean (hnew : ipn.providerEventId ∉ db.events)
    (hst : ipn.paymentStatus ∈ settledStatuses) (hlock : cfg.rowLockAccepted = true)
    (hv : verify cfg ipn db = .ok .proceed) (hp : db.paymentOf ipn.gatewayPaymentRef = some p)
    (hopen : p.status ≠ .completed) :
    Completed ipn.gatewayPaymentRef (receiveIPN cfg ipn (fun _ => false) db).2 := by
  have hv' : verify cfg ipn (db.fileEvent ipn.providerEventId) = .ok .proceed := hv
  have hp' : (db.fileEvent ipn.providerEventId).paymentOf ipn.gatewayPaymentRef = some p := hp
  have hset : settlement cfg ipn.gatewayPaymentRef (fun _ => false)
      (db.fileEvent ipn.providerEventId) =
      .ok (afterCommit p (db.fileEvent ipn.providerEventId),
        (db.fileEvent ipn.providerEventId).settle p) := by
    simp [settlement, hp, hopen, hlock]
  simp only [receiveIPN, hnew, Bool.false_eq_true, if_false]
  rw [processIPN_of_verified hst rfl hv' rfl]
  simp only [settlePayment, transaction_of_ok hset]
  refine ⟨{ p with status := .completed }, ?_, rfl⟩
  rw [settle_paymentOf, hp']
  simp

/-- When a delivery is accepted. -/
theorem accepted_iff {d : Delivery} :
    d.accepted = .ok ipn ↔ d.signature = .verified ∧ d.body = some ipn ∧ ipn.gatewayPaymentRef ≠ "" := by
  obtain ⟨signature, body, faults⟩ := d
  cases signature with
  | verified =>
    cases body with
    | none => simp [Delivery.accepted]
    | some ipn' =>
      simp only [Delivery.accepted]
      split <;> aesop
  | _ => simp [Delivery.accepted]

/-- **The bodies that settle an open payment**: some delivery of them completes it. -/
theorem settles_iff (hp : db.paymentOf ipn.gatewayPaymentRef = some p)
    (hopen : p.status ≠ .completed) :
    (∃ d : Delivery, d.body = some ipn ∧
        Completed ipn.gatewayPaymentRef (handleIPN cfg d db).2) ↔
      ¬ Unprocessed cfg ipn db ∧ ¬ TurnedDown cfg (p.expected db) ipn := by
  have hverify : verify cfg ipn db = .ok .proceed ↔ ¬ TurnedDown cfg (p.expected db) ipn := by
    simp only [verify, hp]
    exact precheck_proceeds_iff rfl
  have hno : ¬ Completed ipn.gatewayPaymentRef db := not_completed hp hopen
  constructor
  · rintro ⟨d, hbody, h⟩
    simp only [handleIPN] at h
    cases hacc : d.accepted with
    | error e => rw [hacc] at h; exact absurd h hno
    | ok ipn' =>
      obtain ⟨-, hbody', href⟩ := accepted_iff.mp hacc
      obtain rfl : ipn = ipn' := Option.some.inj (hbody.symm.trans hbody')
      rw [hacc] at h
      obtain ⟨hnew, hst, hlock, hv⟩ := receiveIPN_completes hno h
      exact ⟨by simp [Unprocessed, href, hnew, hst, hlock], hverify.mp hv⟩
  · rintro ⟨hproc, hpass⟩
    simp only [Unprocessed, not_or, not_not, Bool.not_eq_false] at hproc
    obtain ⟨href, hnew, hst, hlock⟩ := hproc
    refine ⟨{ body := some ipn }, rfl, ?_⟩
    have hacc : ({ body := some ipn } : Delivery).accepted = .ok ipn := accepted_iff.mpr ⟨rfl, rfl, href⟩
    simp only [handleIPN, hacc]
    exact receiveIPN_clean hnew hst hlock (hverify.mpr hpass) hp hopen

/-- **Underpaid crypto is never settled, exactly.** For any tolerance, tables and body: an open
payment is completed only when the `actually_paid` of the body covers it if and only if there is no
`actually_paid`, or it does cover the payment, or the body cannot settle the payment at all. -/
theorem underpaid_never_settled_iff (cfg : Config) (db : Db) (ipn : Ipn) (p : Payment)
    (hp : db.paymentOf ipn.gatewayPaymentRef = some p) (hopen : p.status ≠ .completed) :
    CompletedOnlyIfCovered cfg ipn p db ↔
      ipn.actuallyPaid = .absent ∨ PaysFor cfg (p.expected db) ipn.actuallyPaid ∨
        Unprocessed cfg ipn db ∨ TurnedDown cfg (p.expected db) ipn := by
  constructor
  · intro h
    by_contra hno
    simp only [not_or] at hno
    obtain ⟨hpaid, hcovers, hproc, hpass⟩ := hno
    obtain ⟨d, hbody, hc⟩ := (settles_iff hp hopen).mpr ⟨hproc, hpass⟩
    exact hcovers (h hpaid d hbody hc)
  · intro h hpaid d hbody hc
    obtain ⟨hproc, hpass⟩ := (settles_iff hp hopen).mp ⟨d, hbody, hc⟩
    rcases h with h | h | h | h
    · exact absurd h hpaid
    · exact h
    · exact absurd h hproc
    · exact absurd h hpass

end

/-- A checkout of 79 dollars, not paid yet. -/
def seventyNine : Payment := ⟨1, 7, some 3, some 5, some "np-1", 79, "USD", .pending⟩

/-- A notification for it: so much was paid, so much had been asked for. -/
def finished (actuallyPaid payAmount : Amount) : Ipn where
  paymentId := some "np-1"
  paymentStatus := "finished"
  actuallyPaid := actuallyPaid
  payAmount := payAmount

/-- The whole amount arrives, and the payment is settled. The database takes the settlement query,
as PostgreSQL does not: there the payment stays open. -/
theorem full_payment_covers :
    CompletedOnlyIfCovered { rowLockAccepted := true } (finished (.number 79) (.number 79))
      seventyNine { payments := [seventyNine] } :=
  (underpaid_never_settled_iff { rowLockAccepted := true } { payments := [seventyNine] }
    (finished (.number 79) (.number 79)) seventyNine (by decide) (by decide)).mpr
    (Or.inr (Or.inl (by norm_num [finished, PaysFor, Payment.expected, seventyNine])))

/-- One dollar arrives for 79, and `pay_amount` repeats what was asked for: the payment is
completed. The database takes the settlement query; PostgreSQL refuses it, and with it nothing is
settled, covered or not. -/
theorem asked_amount_settles :
    ¬ CompletedOnlyIfCovered { rowLockAccepted := true } (finished (.number 1) (.number 79))
      seventyNine { payments := [seventyNine] } := by
  intro h
  have hcovers := h (by decide) { body := some (finished (.number 1) (.number 79)) } rfl
    ⟨{ seventyNine with status := .completed }, by decide +kernel, rfl⟩
  norm_num [finished, PaysFor, Payment.expected, seventyNine] at hcovers

end PredictATrade.Billing
