import PredictATrade.Control.Refinement

/-!
# `Control.AtMostOnce` — no commission is paid twice

The only call that can break `AtMostOnce` is a reject or cancel of a payout that is already rejected
or cancelled: its first statement frees whatever of the payout's commissions is RESERVED, and by then
they can only be reserved for another payout.

`atMostOnce_throughout_iff`: a run keeps every commission paid at most once exactly when it has no
such call.
-/

namespace PredictATrade.Control
open Lib.Runs Lib.Attempt

/-- The payout is dead and one of its commissions is RESERVED, in a ledger that can be updated. -/
def FreesForeign (id : Id) (db : Db) : Prop :=
  db.ledgerTrigger = false ∧ (∃ s, (books db).payout id = some s ∧ s.live = false) ∧
    ∃ c, (books db).item id c ∧ (books db).row c = some .reserved

/-- The call does not reject or cancel such a payout. -/
def Sound (db : Db) (event : Time × Call) : Prop :=
  ∀ id, event.2.closes = some id → ¬ FreesForeign id db

/-- The invariant of the tables. -/
def Balanced (db : Db) : Prop := Keyed db ∧ (books db).Inv

variable {db : Db} {now : Time}

/-- Closing a payout whose commissions are reserved for another breaks the books. -/
theorem Balanced.close_breaks {id : Id} {close : Payout → Payout} {refusal : String}
    {target : PayoutStatus} (h : Balanced db) (hid : ∀ r, (close r).id = r.id)
    (hst : ∀ r, (close r).status = target) (ht : target.live = false)
    (hbad : FreesForeign id db) :
    ¬ (books (closePayout now id close refusal db).2).AtMostOnce := by
  obtain ⟨htr, ⟨s, hs, hd⟩, c, hc, hres⟩ := hbad
  obtain ⟨-, hsame | hcl | ⟨hrel, -⟩⟩ :=
    closePayout_books now refusal h.1 hid hst ht
  · rw [htr] at hsame; cases hsame.1
  · obtain ⟨t, hb, ho⟩ := hcl.before
    rw [hs] at hb; cases hb
    rw [Books.isOpen_live ho] at hd; cases hd
  · exact h.2.release_breaks hrel hc hres

/-- **The step lemma.** A sound call keeps the invariant. -/
theorem balanced_step {event : Time × Call} (h : Balanced db) (hs : Sound db event) :
    Balanced (step db event) := by
  obtain ⟨hk, hstep⟩ := step_refines h.1 event
  refine ⟨hk, h.2.step hstep ?_⟩
  rintro id ⟨hid, htrig⟩ hclosed c hc hres
  -- a payout that is not open and has a reserved commission is dead
  obtain ⟨s, hst⟩ := h.2.known id c hc
  have hdead : s.live = false := by
    by_contra hl
    have hl' : s.live = true := by simpa using hl
    have hheld := h.2.held id c s hc hst hl'
    rw [Books.eq_paid_of_live hl' (hclosed s hst), hres] at hheld
    cases hheld
  cases htr : db.ledgerTrigger with
  | true => exact htrig htr c hc hres
  | false => exact hs id hid ⟨htr, ⟨s, hst, hdead⟩, c, hc, hres⟩

/-- A call that is not sound breaks the books at once. -/
theorem not_atMostOnce_step {event : Time × Call} (h : Balanced db) (hs : ¬ Sound db event) :
    ¬ (books (step db event)).AtMostOnce := by
  obtain ⟨now, call⟩ := event
  simp only [Sound, not_forall, not_not] at hs
  obtain ⟨id, hid, hbad⟩ := hs
  cases call with
  | rejectPayout id' reason =>
      cases hid
      exact h.close_breaks (fun _ => rfl) (fun _ => rfl) rfl hbad
  | cancelPayout id' reason =>
      cases hid
      exact h.close_breaks (fun _ => rfl) (fun _ => rfl) rfl hbad
  | _ => cases hid

/-- No payout yet, and primary keys in order. -/
def NoPayouts (db : Db) : Prop :=
  db.payouts = [] ∧ db.payoutItems = [] ∧ (db.ledger.map (·.id)).Nodup ∧
    ∀ i ∈ db.ledger.map (·.id), i < db.nextId

theorem NoPayouts.balanced (h : NoPayouts db) : Balanced db := by
  obtain ⟨hp, hi, hnd, hfresh⟩ := h
  have hno : ∀ p c, ¬ (books db).item p c := by
    rintro p c ⟨i, hmem, -⟩
    rw [hi] at hmem; cases hmem
  refine ⟨⟨hnd, by rw [hp]; exact List.nodup_nil, hfresh, ?_⟩, ⟨⟨?_, ?_⟩, ?_, ?_⟩⟩
  · rw [hp]; intro i hi'; cases hi'
  · intro p q c s t hpc; exact absurd hpc (hno p c)
  · intro p c s hpc; exact absurd hpc (hno p c)
  · intro p c hpc; exact absurd hpc (hno p c)
  · intro p c s hpc; exact absurd hpc (hno p c)

/-- **When every commission is paid at most once.** Over any ledger and any run of the services that
starts without payouts: every state reached pays each commission at most once exactly when no call
rejects or cancels a payout that is already dead while one of its commissions is reserved again. -/
theorem atMostOnce_throughout_iff (db : Db) (h0 : NoPayouts db) (calls : List (Time × Call)) :
    Throughout step (fun s => (books s).AtMostOnce) db calls ↔ Along step Sound db calls :=
  throughout_iff_along (J := Balanced) (fun _ h => h.2.toAtMostOnce)
    (fun _ _ h hs => balanced_step h hs) (fun _ _ h hs => not_atMostOnce_step h hs) h0.balanced

/-! ## Two runs -/

/-- A commission of 100 USD that user 1 earned from user 10, cleared and waiting. -/
def clearedCommission : CommissionRow :=
  { id := 0, recipientUserId := 1, sourceUserId := 10, sourceSubscriptionId := none
    purchaseId := some 55, invoiceId := none, planId := 7, planVersion := 1, purchaseNumber := 1
    purchaseType := .firstPurchase, level := 1, baseCommissionRate := 1 / 10
    purchaseMultiplier := 1, effectiveCommissionRate := 1 / 10, commissionableAmount := 1000
    commissionAmount := 100, currency := "USD", status := .cleared, commissionRuleId := none
    purchaseRuleId := none, idempotencyKey := some (.revenue 55), clearedAt := some 0
    availableAt := none, paidAt := none, reversedAt := none, reversalReason := none
    reversedBy := none, createdAt := 0, updatedAt := 0 }

/-- One cleared commission, and a wallet that covers it. -/
def oneCommissionDb : Db :=
  { ledger := [clearedCommission]
    wallets := [{ userId := 1, currency := "USD", availableBalance := 100 }]
    nextId := 1 }

/-- A valid request for the whole of it. -/
def hundredDollars : PayoutRequest :=
  { amount := .finite 100
    method := .usdt
    destination := "0x00112233445566778899aabbccddeeff00112233"
    details := some [("network", "ERC20")] }

theorem oneCommissionDb_noPayouts : NoPayouts oneCommissionDb := by
  refine ⟨rfl, rfl, by decide, by decide⟩

/-- A run that requests, approves and reconciles is sound, so the commission is paid once. -/
theorem atMostOnce_of_plain_run :
    Throughout step (fun s => (books s).AtMostOnce) oneCommissionDb
      [(10, .requestPayout 1 hundredDollars), (20, .approvePayout 1 none),
        (30, .reconcilePayout 1 {})] :=
  (atMostOnce_throughout_iff oneCommissionDb oneCommissionDb_noPayouts _).mpr (by
    refine ⟨?_, ?_, ?_, trivial⟩ <;> intro id hid <;> cases hid)

/-- Request payout 1 and cancel it; request payout 2 for the same commission and cancel payout 1
again; request payout 3; pay both. -/
def cancelTwice : List (Time × Call) :=
  [(10, .requestPayout 1 hundredDollars), (20, .cancelPayout 1 "changed my mind"),
    (30, .requestPayout 1 hundredDollars), (40, .cancelPayout 1 "changed my mind"),
    (50, .requestPayout 1 hundredDollars),
    (60, .approvePayout 2 none), (70, .reconcilePayout 2 {}),
    (80, .approvePayout 3 none), (90, .reconcilePayout 3 {})]

/-- **A commission paid twice.** After the run, payouts 2 and 3 are both PAID and the only commission
is an item of each. -/
theorem cancelTwice_pays_twice :
    (books (run step oneCommissionDb cancelTwice)).payout 2 = some .paid ∧
      (books (run step oneCommissionDb cancelTwice)).payout 3 = some .paid ∧
      (books (run step oneCommissionDb cancelTwice)).item 2 0 ∧
      (books (run step oneCommissionDb cancelTwice)).item 3 0 ∧
      ¬ Throughout step (fun s => (books s).AtMostOnce) oneCommissionDb cancelTwice := by
  have h2 : (books (run step oneCommissionDb cancelTwice)).payout 2 = some .paid := by
    decide +kernel
  have h3 : (books (run step oneCommissionDb cancelTwice)).payout 3 = some .paid := by
    decide +kernel
  have hi2 : (books (run step oneCommissionDb cancelTwice)).item 2 0 := by
    show ∃ i ∈ (run step oneCommissionDb cancelTwice).payoutItems,
      i.payoutId = 2 ∧ i.commissionId = 0
    decide +kernel
  have hi3 : (books (run step oneCommissionDb cancelTwice)).item 3 0 := by
    show ∃ i ∈ (run step oneCommissionDb cancelTwice).payoutItems,
      i.payoutId = 3 ∧ i.commissionId = 0
    decide +kernel
  refine ⟨h2, h3, hi2, hi3, fun h => ?_⟩
  have hbad := (h cancelTwice List.prefix_rfl).paid_once hi2 hi3 h2 h3
  cases hbad

end PredictATrade.Control
