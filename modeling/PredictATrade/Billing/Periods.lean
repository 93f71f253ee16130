import PredictATrade.Billing.Settlement
import PredictATrade.Billing.Stripe

/-!
# `Billing.Periods` — what a settlement does, provider by provider

For each provider one condition on the tables and the call says when the settlement transaction
commits, and one lemma what it has done then: `settleIpn_open` and `settleIpn_closed` for
NOWPayments, `settleStripe_lands` and `settleStripe_not_lands` for Stripe.
-/

namespace PredictATrade.Billing
open Lib.Table Lib.Attempt

/-! ## NOWPayments -/

/-- Is the statement executed for this payment? -/
def IpnQuery.runsFor (p : Payment) : IpnQuery → Bool
  | .payInvoice => p.invoiceId.isSome
  | .activateSubscription => p.subscriptionId.isSome
  | _ => true

/-- The settlement transaction of a payment commits. -/
def Commits (cfg : Config) (faults : IpnQuery → Bool) (p : Payment) : Prop :=
  cfg.rowLockAccepted = true ∧ ∀ q ∈ settlementQueries, q.runsFor p = true → faults q = false

instance (cfg : Config) (faults : IpnQuery → Bool) (p : Payment) :
    Decidable (Commits cfg faults p) := by unfold Commits; infer_instance

section
variable {cfg : Config} {ref : String} {faults : IpnQuery → Bool} {now : Time} {db db' : Db}
  {s s' : Store} {p : Payment} {out : Outcome} {id : Id}

/-- The settlement of a payment that is not completed, whatever it refers to. -/
theorem settlement_eq (hp : db.paymentOf ref = some p) (hopen : p.status ≠ .completed) :
    settlement cfg ref faults db =
      if Commits cfg faults p then .ok (afterCommit p db, db.settle p) else .error .query := by
  have hall : Commits cfg faults p ↔ cfg.rowLockAccepted = true ∧
      faults .beginSettlement = false ∧ faults .lockPayment = false ∧
        faults .completePayment = false ∧ (p.invoiceId.isSome && faults .payInvoice) = false ∧
        (p.subscriptionId.isSome && faults .activateSubscription) = false ∧
        faults .auditSettled = false ∧ faults .commit = false := by
    simp [Commits, settlementQueries, IpnQuery.runsFor]
  simp only [hall, settlement, hp, hopen, if_false]
  cases cfg.rowLockAccepted <;> cases faults .beginSettlement <;> cases faults .lockPayment <;>
    cases faults .completePayment <;> cases p.invoiceId.isSome && faults .payInvoice <;>
    cases p.subscriptionId.isSome && faults .activateSubscription <;>
    cases faults .auditSettled <;> cases faults .commit <;> rfl

theorem openPayment_some (h : s.openPayment ref = some p) :
    s.db.paymentOf ref = some p ∧ p.status ≠ .completed := by
  obtain ⟨hp, hopen⟩ := Option.filter_eq_some_iff.mp h
  exact ⟨hp, by simpa using hopen⟩

/-- **A payment that is open is settled**, when the transaction commits. -/
theorem settleIpn_open (hp : s.openPayment ref = some p) :
    settleIpn cfg ref faults now s =
      if Commits cfg faults p then
        .ok ({ completed := true
               advanced := (p.subscriptionId.bind fun id => s.db.subscription id).map (·.id)
               after := afterCommit p s.db }, s.settle p now)
      else .error .query := by
  obtain ⟨hrow, hopen⟩ := openPayment_some hp
  rw [settleIpn, settlement_eq hrow hopen, hp]
  by_cases hc : Commits cfg faults p
  · rw [if_pos hc, if_pos hc]
  · rw [if_neg hc, if_neg hc]

theorem settlement_closed {after : AfterCommit} (hp : s.openPayment ref = none)
    (h : settlement cfg ref faults s.db = .ok (after, db')) : after.commissionFor = none := by
  obtain ⟨-, h⟩ := guard_ok h
  obtain ⟨-, h⟩ := guard_ok h
  cases hrow : s.db.paymentOf ref with
  | none =>
      simp only [hrow] at h
      obtain ⟨-, h⟩ := guard_ok h
      cases h
      rfl
  | some p =>
      have hdone : p.status = .completed := by
        simpa [Store.openPayment, hrow] using hp
      simp only [hrow, hdone, if_true] at h
      obtain ⟨-, h⟩ := guard_ok h
      cases h
      simp [afterCommit, hdone]

theorem setPeriod_db : (s.setPeriod id now).db = s.db := by
  simp only [Store.setPeriod]
  split
  · rfl
  · rfl

theorem settle_db : (s.settle p now).db = s.db.settle p := by
  simp only [Store.settle]
  split
  · rfl
  · exact setPeriod_db

theorem settle_stripePayments : (s.settle p now).stripePayments = s.stripePayments := by
  simp only [Store.settle, Store.setPeriod]
  split
  · rfl
  split <;> rfl

/-- Nothing is settled for a payment that is missing or completed, and no commission is due. -/
theorem settleIpn_closed (hp : s.openPayment ref = none)
    (h : settleIpn cfg ref faults now s = .ok (out, s')) :
    s' = s ∧ out.completed = false ∧ out.advanced = none ∧ out.after.commissionFor = none := by
  cases hset : settlement cfg ref faults s.db with
  | error e =>
      simp only [settleIpn, hset] at h
      cases h
  | ok r =>
      obtain ⟨after, db'⟩ := r
      simp only [settleIpn, hset, hp] at h
      cases h
      exact ⟨rfl, rfl, rfl, settlement_closed hp hset⟩

end

/-! ## Stripe -/

/-- Has the payment a row? -/
def Store.knows (id : String) (s : Store) : Bool :=
  s.stripePayments.any (·.providerPaymentId == some id)

/-- The invoice is there: the one that the event names, which a new row has to refer to, or one that
`generateInvoiceForSubscription` gives. -/
def Webhook.invoiceKnown (uuid : String → Option Id) (w : Webhook) (req : StripeSettlement)
    (s : Store) : Bool :=
  match req.invoiceId with
  | some text =>
    (uuid text).any fun id => s.knows req.paymentId || s.db.invoices.any (·.id == id)
  | none => w.invoice.isSome

/-- The settlement transaction of an event commits for the subscription `sub`. -/
structure Webhook.Lands (uuid : String → Option Id) (w : Webhook) (req : StripeSettlement)
    (s : Store) (sub : Subscription) : Prop where
  faults : ∀ q ∈ stripeSettlementQueries, w.faults q = false
  subscription : (uuid req.subscriptionId).bind (fun id => s.db.subscription id) = some sub
  invoice : w.invoiceKnown uuid req s = true
  row : s.knows req.paymentId = false →
    (s.stripePayments ++ s.db.payments).all (·.id != w.newPaymentId)

/-- When a settlement by card lands. -/
theorem Webhook.lands_iff {uuid : String → Option Id} {w : Webhook} {req : StripeSettlement}
    {s : Store} {sub : Subscription} :
    w.Lands uuid req s sub ↔ (∀ q ∈ stripeSettlementQueries, w.faults q = false) ∧
      (uuid req.subscriptionId).bind (fun id => s.db.subscription id) = some sub ∧
      w.invoiceKnown uuid req s = true ∧ (s.knows req.paymentId = false →
        (s.stripePayments ++ s.db.payments).all (·.id != w.newPaymentId)) :=
  ⟨fun h => ⟨h.1, h.2, h.3, h.4⟩, fun h => ⟨h.1, h.2.1, h.2.2.1, h.2.2.2⟩⟩

instance (uuid : String → Option Id) (w : Webhook) (req : StripeSettlement) (s : Store)
    (sub : Subscription) : Decidable (w.Lands uuid req s sub) :=
  decidable_of_iff _ Webhook.lands_iff.symm

/-- The row that `settle` inserts. -/
def newStripePayment (w : Webhook) (req : StripeSettlement) (sub : Subscription) (invoiceId : Id) :
    Payment :=
  { id := w.newPaymentId, userId := sub.userId, subscriptionId := some sub.id,
    invoiceId := some invoiceId, providerPaymentId := some req.paymentId, amount := 0,
    status := .completed }

/-- What a committed settlement of Stripe leaves. -/
structure Landed (w : Webhook) (req : StripeSettlement) (sub : Subscription) (now : Time)
    (s s' : Store) : Prop where
  payments : s'.db.payments = s.db.payments
  events : s'.db.events = s.db.events
  subscriptions : s'.db.subscriptions =
    updateWhere (·.id == sub.id) (fun r => { r with status := .active }) s.db.subscriptions
  rows : ∃ invoiceId, s'.stripePayments = if s.knows req.paymentId then s.stripePayments
    else s.stripePayments ++ [newStripePayment w req sub invoiceId]
  stripeEvents : s'.stripeEvents = s.stripeEvents
  periods : s'.periods = Function.update s.periods sub.id ⟨now, sub.billingInterval.after now⟩

/-- Tables that differ in invoices only. -/
structure SameButInvoices (s s' : Store) : Prop where
  payments : s'.db.payments = s.db.payments
  events : s'.db.events = s.db.events
  subscriptions : s'.db.subscriptions = s.db.subscriptions
  rows : s'.stripePayments = s.stripePayments
  stripeEvents : s'.stripeEvents = s.stripeEvents
  periods : s'.periods = s.periods

section
variable {uuid : String → Option Id} {w : Webhook} {req : StripeSettlement} {sub : Subscription}
  {now : Time} {s s' s'' : Store} {invoiceId id : Id} {out : Outcome}

theorem SameButInvoices.refl (s : Store) : SameButInvoices s s := ⟨rfl, rfl, rfl, rfl, rfl, rfl⟩

theorem SameButInvoices.knows (h : SameButInvoices s s') (id : String) :
    s'.knows id = s.knows id := by
  simp only [Store.knows, h.rows]

/-- What the insertion of the row needs: nothing when there is one. -/
def Inserts (w : Webhook) (req : StripeSettlement) (invoiceId : Id) (s : Store) : Prop :=
  s.knows req.paymentId = false →
    (s.stripePayments ++ s.db.payments).all (·.id != w.newPaymentId) = true ∧
      s.db.invoices.any (·.id == invoiceId) = true

theorem insertStripePayment_known (h : s.knows req.paymentId = true) :
    s.insertStripePayment (newStripePayment w req sub invoiceId) = .ok (false, s) :=
  if_pos h

theorem insertStripePayment_new (h : s.knows req.paymentId = false)
    (hins : Inserts w req invoiceId s) :
    s.insertStripePayment (newStripePayment w req sub invoiceId) =
      .ok (true, { s with
        stripePayments := s.stripePayments ++ [newStripePayment w req sub invoiceId] }) := by
  obtain ⟨hid, hinv⟩ := hins h
  have hfree : (s.stripePayments ++ s.db.payments).any (·.id == w.newPaymentId) = false := by
    rw [List.any_eq_not_all_not]
    simpa [bne] using hid
  have hfk : s.db.invoices.any (fun i => some invoiceId == some i.id) = true := by
    obtain ⟨i, hi, hid⟩ := List.any_eq_true.mp hinv
    refine List.any_eq_true.mpr ⟨i, hi, ?_⟩
    rw [beq_iff_eq.mp hid]
    exact beq_self_eq_true _
  have hknown : s.stripePayments.any (fun p => p.providerPaymentId == some req.paymentId) = false :=
    h
  simp only [Store.insertStripePayment, newStripePayment, hknown, hfree, hfk, Bool.false_eq_true,
    if_false, Bool.not_true]

/-- Without what the insertion needs, the statement fails. -/
theorem insertStripePayment_refused (sub : Subscription) (h : ¬ Inserts w req invoiceId s) :
    ∃ e, s.insertStripePayment (newStripePayment w req sub invoiceId) = .error e := by
  obtain ⟨hnew, h⟩ := Classical.not_imp.mp h
  have hknown : s.stripePayments.any (fun p => p.providerPaymentId == some req.paymentId) = false :=
    hnew
  cases hid : (s.stripePayments ++ s.db.payments).any (·.id == w.newPaymentId) with
  | true =>
      refine ⟨.uniqueViolation, ?_⟩
      simp only [Store.insertStripePayment, newStripePayment, hknown, hid, Bool.false_eq_true,
        if_false, if_true]
  | false =>
      have hfree : (s.stripePayments ++ s.db.payments).all (·.id != w.newPaymentId) = true := by
        rw [List.all_eq_not_any_not]
        simpa [bne] using hid
      have hfk : s.db.invoices.any (fun i => some invoiceId == some i.id) = false := by
        rw [Bool.eq_false_iff]
        intro hany
        obtain ⟨i, hi, hid⟩ := List.any_eq_true.mp hany
        refine h ⟨hfree, List.any_eq_true.mpr ⟨i, hi, ?_⟩⟩
        rw [Option.some.inj (beq_iff_eq.mp hid)]
        exact beq_self_eq_true _
      refine ⟨.query, ?_⟩
      simp only [Store.insertStripePayment, newStripePayment, hknown, hid, hfk, Bool.false_eq_true,
        if_false, Bool.not_false, if_true]

/-- What the insertion of the row leaves. -/
def Store.withPayment (w : Webhook) (req : StripeSettlement) (sub : Subscription) (invoiceId : Id)
    (s : Store) : Store :=
  { s with
    stripePayments := if s.knows req.paymentId then s.stripePayments
      else s.stripePayments ++ [newStripePayment w req sub invoiceId] }

theorem insertStripePayment_ok (sub : Subscription) (hins : Inserts w req invoiceId s) :
    s.insertStripePayment (newStripePayment w req sub invoiceId) =
      .ok (!s.knows req.paymentId, s.withPayment w req sub invoiceId) := by
  cases h : s.knows req.paymentId with
  | true =>
      rw [insertStripePayment_known h, Store.withPayment, if_pos h]
      rfl
  | false =>
      have hno : ¬ s.knows req.paymentId = true := by
        rw [h]
        exact Bool.false_ne_true
      rw [insertStripePayment_new h hins, Store.withPayment, if_neg hno]
      rfl

/-- The statements after the lock. -/
theorem settleRows_ok (sub : Subscription) (now : Time)
    (hf : ∀ q ∈ stripeSettlementQueries, w.faults q = false)
    (hins : Inserts w req invoiceId s) :
    s.settleRows w req sub now invoiceId =
      .ok ({ completed := !s.knows req.paymentId
             advanced := some sub.id
             after := { licenseFor := some sub.id } },
        (s.withPayment w req sub invoiceId).activate invoiceId sub.id now) := by
  have hrow := insertStripePayment_ok sub hins
  simp only [newStripePayment] at hrow
  have hq : ∀ q ∈ stripeSettlementQueries, w.faults q = false := hf
  simp only [stripeSettlementQueries, List.forall_mem_cons] at hq
  obtain ⟨-, -, -, h4, h5, h6, h7, h8, -⟩ := hq
  simp only [Store.settleRows, hrow, h4, h5, h6, h7, h8, Bool.false_eq_true, if_false, ok_bind]

theorem settleRows_error (sub : Subscription) (now : Time)
    (h : (∃ q ∈ stripeSettlementQueries, w.faults q = true) ∨ ¬ Inserts w req invoiceId s)
    (hconn : w.faults .connect = false)
    (hbegin : w.faults .beginSettlement = false) (hlock : w.faults .lockSubscription = false) :
    ∃ e, s.settleRows w req sub now invoiceId = .error e := by
  cases hr : s.settleRows w req sub now invoiceId with
  | error e => exact ⟨e, rfl⟩
  | ok r =>
      -- all statements went through
      exfalso
      obtain ⟨h4, hr⟩ := guard_ok hr
      obtain ⟨⟨inserted, s'⟩, hins, hr⟩ := bind_ok hr
      obtain ⟨h5, hr⟩ := guard_ok hr
      obtain ⟨h6, hr⟩ := guard_ok hr
      obtain ⟨h7, hr⟩ := guard_ok hr
      obtain ⟨h8, -⟩ := guard_ok hr
      rcases h with ⟨q, hq, hfault⟩ | h
      · simp only [stripeSettlementQueries, List.mem_cons, List.not_mem_nil, or_false] at hq
        rcases hq with rfl | rfl | rfl | rfl | rfl | rfl | rfl | rfl
        · rw [hconn] at hfault
          cases hfault
        · rw [hbegin] at hfault
          cases hfault
        · rw [hlock] at hfault
          cases hfault
        · exact h4 hfault
        · exact h5 hfault
        · exact h6 hfault
        · exact h7 hfault
        · exact h8 hfault
      · obtain ⟨e, he⟩ := insertStripePayment_refused sub h
        simp only [newStripePayment] at he
        rw [he] at hins
        cases hins

/-- The invoice comes without a change to other tables, or not at all. -/
theorem invoiceFor_cases (uuid : String → Option Id) (w : Webhook) (req : StripeSettlement)
    (s : Store) :
    (w.invoiceKnown uuid req s = false ∧ ∃ e, s.invoiceFor uuid w req = (.error e, s)) ∨
    ∃ id s', s.invoiceFor uuid w req = (.ok id, s') ∧ SameButInvoices s s' ∧
      (w.invoiceKnown uuid req s = true ↔
        (s.knows req.paymentId = false → s'.db.invoices.any (·.id == id) = true)) := by
  cases hreq : req.invoiceId with
  | some text =>
      cases hid : uuid text with
      | none =>
          refine Or.inl ⟨?_, .query, ?_⟩
          · simp only [Webhook.invoiceKnown, hreq, hid, Option.any_none]
          · simp only [Store.invoiceFor, hreq, hid]
      | some id =>
          refine Or.inr ⟨id, s, ?_, .refl s, ?_⟩
          · simp only [Store.invoiceFor, hreq, hid]
          · simp only [Webhook.invoiceKnown, hreq, hid, Option.any_some]
            cases s.knows req.paymentId <;> simp
  | none =>
      cases hinv : w.invoice with
      | none =>
          refine Or.inl ⟨?_, .query, ?_⟩
          · simp only [Webhook.invoiceKnown, hreq, hinv, Option.isSome_none]
          · simp only [Store.invoiceFor, hreq, hinv]
      | some i =>
          cases hany : s.db.invoices.any (·.id == i.id) with
          | true =>
              refine Or.inr ⟨i.id, s, ?_, .refl s, ?_⟩
              · simp only [Store.invoiceFor, hreq, hinv, hany, if_true]
              · simp only [Webhook.invoiceKnown, hreq, hinv, hany, Option.isSome_some, implies_true]
          | false =>
              refine Or.inr ⟨i.id, { s with db := { s.db with invoices := s.db.invoices ++ [i] } },
                ?_, ⟨rfl, rfl, rfl, rfl, rfl, rfl⟩, ?_⟩
              · simp only [Store.invoiceFor, hreq, hinv, hany, Bool.false_eq_true, if_false]
              · simp [Webhook.invoiceKnown, hreq, hinv]

theorem subscription_activated (subs : List Subscription) (id id' : Id) :
    (updateWhere (·.id == id) (fun r : Subscription => { r with status := .active }) subs).find?
        (·.id == id') =
      (subs.find? (·.id == id')).map
        fun r => if r.id == id then { r with status := .active } else r :=
  find?_updateWhere fun _ => rfl

theorem landed_activate (hsub : s.db.subscription sub.id = some sub) :
    Landed w req sub now s ((s.withPayment w req sub invoiceId).activate invoiceId sub.id now) := by
  -- the row of the subscription, after its status has been set
  have hfound : (updateWhere (·.id == sub.id) (fun r : Subscription => { r with status := .active })
      s.db.subscriptions).find? (·.id == sub.id) = some { sub with status := .active } := by
    have hrow : s.db.subscriptions.find? (·.id == sub.id) = some sub := hsub
    rw [subscription_activated, hrow, Option.map_some, if_pos (beq_self_eq_true _)]
  simp only [Store.activate, Store.setPeriod, Store.withPayment, Db.subscription, hfound]
  exact ⟨rfl, rfl, rfl, ⟨invoiceId, rfl⟩, rfl, rfl⟩

/-- The transaction is open, and has asked for the lock. -/
def Webhook.begins (w : Webhook) : Prop :=
  w.faults .connect = false ∧ w.faults .beginSettlement = false ∧ w.faults .lockSubscription = false

theorem Webhook.Lands.begins (h : w.Lands uuid req s sub) : w.begins :=
  ⟨h.faults _ (by decide), h.faults _ (by decide), h.faults _ (by decide)⟩

theorem settleStripe_not_begun (h : ¬ w.begins) :
    s.settleStripe uuid w req now = (.error .query, s) := by
  simp only [Store.settleStripe]
  split_ifs with h1 h2 h3
  · rfl
  · rfl
  · rfl
  · simp only [Bool.not_eq_true] at h1 h2 h3
    exact absurd ⟨h1, h2, h3⟩ h

theorem settleStripe_begun (h : w.begins) (hid : uuid req.subscriptionId = some id)
    (hsub : s.db.subscription id = some sub) :
    s.settleStripe uuid w req now =
      next (s.invoiceFor uuid w req) fun invoiceId s' =>
        transaction (Store.settleRows w req sub now invoiceId) s' := by
  obtain ⟨h1, h2, h3⟩ := h
  simp only [Store.settleStripe, h1, h2, h3, hid, hsub, Bool.false_eq_true, if_false]

theorem Landed.of_same (h : SameButInvoices s s') (hl : Landed w req sub now s' s'') :
    Landed w req sub now s s'' := by
  obtain ⟨invoiceId, hrows⟩ := hl.rows
  rw [h.knows, h.rows] at hrows
  exact ⟨hl.payments.trans h.payments, hl.events.trans h.events,
    by rw [hl.subscriptions, h.subscriptions], ⟨invoiceId, hrows⟩,
    hl.stripeEvents.trans h.stripeEvents, by rw [hl.periods, h.periods]⟩

/-- **A settlement of Stripe commits exactly when it lands**; else the tables are as they were, but
for an invoice. -/
theorem settleStripe_cases (uuid : String → Option Id) (w : Webhook) (req : StripeSettlement)
    (now : Time) (s : Store) :
    (∃ sub s', w.Lands uuid req s sub ∧ Landed w req sub now s s' ∧
      s.settleStripe uuid w req now =
        (.ok { completed := !s.knows req.paymentId
               advanced := some sub.id
               after := { licenseFor := some sub.id } }, s')) ∨
    (∀ sub, ¬ w.Lands uuid req s sub) ∧ SameButInvoices s (s.settleStripe uuid w req now).2 ∧
      ((s.settleStripe uuid w req now).1 = .ok {} ∨
        ∃ e, (s.settleStripe uuid w req now).1 = .error e) := by
  by_cases hbegin : w.begins
  swap
  · right
    rw [settleStripe_not_begun hbegin]
    exact ⟨fun sub h => hbegin h.begins, .refl s, Or.inr ⟨_, rfl⟩⟩
  cases hid : uuid req.subscriptionId with
  | none =>
      refine Or.inr ⟨fun sub h => ?_, ?_⟩
      · have hsub := h.subscription
        rw [hid] at hsub
        cases hsub
      · obtain ⟨h1, h2, h3⟩ := hbegin
        simp only [Store.settleStripe, h1, h2, h3, hid, Bool.false_eq_true, if_false]
        exact ⟨.refl s, Or.inr ⟨_, rfl⟩⟩
  | some id =>
  cases hsub : s.db.subscription id with
  | none =>
      refine Or.inr ⟨fun sub h => ?_, ?_⟩
      · have hfound := h.subscription
        rw [hid, Option.bind_some, hsub] at hfound
        cases hfound
      · obtain ⟨h1, h2, h3⟩ := hbegin
        have hleft : s.settleStripe uuid w req now = (.ok {}, s) := by
          simp only [Store.settleStripe, h1, h2, h3, hid, hsub, Bool.false_eq_true, if_false]
        rw [hleft]
        exact ⟨.refl s, Or.inl rfl⟩
  | some sub =>
  have hfound : (uuid req.subscriptionId).bind (fun id => s.db.subscription id) = some sub := by
    rw [hid, Option.bind_some, hsub]
  have hown : sub.id = id := by simpa using List.find?_some hsub
  rw [settleStripe_begun hbegin hid hsub]
  rcases invoiceFor_cases uuid w req s with ⟨hinv, e, hfor⟩ | ⟨invoiceId, s', hfor, hsame, hinv⟩
  · right
    rw [hfor]
    refine ⟨fun sub' h => ?_, .refl s, Or.inr ⟨e, rfl⟩⟩
    have hknown := h.invoice
    rw [hinv] at hknown
    cases hknown
  have hrest : (next (s.invoiceFor uuid w req) fun invoiceId s' =>
      transaction (Store.settleRows w req sub now invoiceId) s') =
        transaction (Store.settleRows w req sub now invoiceId) s' := by
    simp only [next, hfor]
  rw [hrest]
  have hnew : Inserts w req invoiceId s' ↔
      w.invoiceKnown uuid req s = true ∧ (s.knows req.paymentId = false →
        (s.stripePayments ++ s.db.payments).all (·.id != w.newPaymentId) = true) := by
    rw [hinv]
    simp only [Inserts, hsame.knows, hsame.rows, hsame.payments]
    tauto
  by_cases hall : (∀ q ∈ stripeSettlementQueries, w.faults q = false) ∧ Inserts w req invoiceId s'
  · obtain ⟨hf, hins⟩ := hall
    obtain ⟨hknown, hid'⟩ := hnew.mp hins
    left
    have hs' : s'.db.subscription sub.id = some sub := by
      rw [hown, Db.subscription, hsame.subscriptions]
      exact hsub
    have hrows := transaction_of_ok (settleRows_ok sub now hf hins)
    rw [hsame.knows] at hrows
    exact ⟨sub, _, ⟨hf, hfound, hknown, hid'⟩, Landed.of_same hsame (landed_activate hs'), hrows⟩
  · right
    obtain ⟨h1, h2, h3⟩ := hbegin
    have hfail : (∃ q ∈ stripeSettlementQueries, w.faults q = true) ∨
        ¬ Inserts w req invoiceId s' := by
      by_contra hno
      rw [not_or, not_not] at hno
      refine hall ⟨fun q hq => ?_, hno.2⟩
      rw [← Bool.not_eq_true]
      exact fun hfault => hno.1 ⟨q, hq, hfault⟩
    obtain ⟨e, he⟩ := settleRows_error sub now hfail h1 h2 h3
    rw [transaction_of_error he]
    refine ⟨fun sub' h => hall ⟨h.faults, hnew.mpr ⟨h.invoice, h.row⟩⟩, hsame, Or.inr ⟨e, rfl⟩⟩

end

end PredictATrade.Billing
