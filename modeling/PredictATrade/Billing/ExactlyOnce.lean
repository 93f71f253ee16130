import PredictATrade.Billing.Coverage
import PredictATrade.Billing.Notifications

/-!
# `Billing.ExactlyOnce` — when a payment is settled exactly once

`ExactlyOnce` holds of a payment in every state of a run exactly when each step of the run is
`Allowed` (`exactlyOnce_throughout_iff`), for a payment that was not completed before. Four steps are
not allowed. The settlement of a NOWPayments payment without a subscription completes it and credits
nobody. The settlement of a Stripe payment that has no row yet does so too: nothing in `settle`
triggers the credit. One that has a row sets the period again, whatever events have settled it
before. The loss of a call between its commit and the credit is the fourth.

A statement changes what is known of a payment in one of four ways (`Change`); the rest is counting.
-/

namespace PredictATrade.Billing.Notifications
open Lib.Attempt Lib.Runs Lib.Table

/-! ## What is allowed -/

/-- The settlement that a call is about to commit is the first of its payment, and the credit
follows. -/
def Call.Allowed (gw : Gateways) (k : PaymentKey) (s : State) : Call → Prop
  | .ipn body faults .settle =>
    k = .nowpayments body.gatewayPaymentRef →
      ∀ p ∈ s.store.openPayment body.gatewayPaymentRef, Commits gw.cfg faults p →
        (p.subscriptionId.bind fun id => s.store.db.subscription id).isSome = true
  | .stripe w _ req .settle =>
    k = .stripe req.paymentId →
      (∃ sub ∈ (gw.uuid req.subscriptionId).bind fun id => s.store.db.subscription id,
        w.Lands gw.uuid req s.store sub) →
      s.store.knows req.paymentId = true ∧ s.count k .advanced = 0
  | _ => True

/-- A step that keeps the payment settled once: no call is lost that is about to trigger the
credit. -/
def Allowed (gw : Gateways) (k : PaymentKey) (s : State) : Input → Prop
  | .exec n _ => ∀ c ∈ s.calls[n]?, c.Allowed gw k s
  | .crash n => ∀ c ∈ s.calls[n]?, c.credits k = false
  | .notify _ | .webhook _ => True

instance (gw : Gateways) (k : PaymentKey) (s : State) : ∀ c : Call, Decidable (c.Allowed gw k s)
  | .ipn body faults .settle =>
    inferInstanceAs (Decidable (k = .nowpayments body.gatewayPaymentRef →
      ∀ p ∈ s.store.openPayment body.gatewayPaymentRef, Commits gw.cfg faults p →
        (p.subscriptionId.bind fun id => s.store.db.subscription id).isSome = true))
  | .stripe w _ req .settle =>
    inferInstanceAs (Decidable (k = .stripe req.paymentId →
      (∃ sub ∈ (gw.uuid req.subscriptionId).bind fun id => s.store.db.subscription id,
        w.Lands gw.uuid req s.store sub) →
      s.store.knows req.paymentId = true ∧ s.count k .advanced = 0))
  | .ipn _ _ .verify | .ipn _ _ .markUnderpaid | .ipn _ _ .credit | .ipn _ _ .unmark
  | .stripe _ _ _ .unmark | .done => .isTrue trivial

instance (gw : Gateways) (k : PaymentKey) (s : State) : ∀ i : Input, Decidable (Allowed gw k s i)
  | .exec n _ => inferInstanceAs (Decidable (∀ c ∈ s.calls[n]?, c.Allowed gw k s))
  | .crash n => inferInstanceAs (Decidable (∀ c ∈ s.calls[n]?, c.credits k = false))
  | .notify _ | .webhook _ => .isTrue trivial

/-! ## Counting -/

/-- How often a statement does `d` to the payment. -/
def marks (k : PaymentKey) (d : Deed) (c : Call) (r : Result) : ℕ :=
  (c.entries r.deeds).count (k, d)

section
variable {gw : Gateways} {k : PaymentKey} {c : Call} {r : Result} {s : State} {now : Time} {n : ℕ}
  {d : Deed}

theorem marks_of_key (h : c.key = some k) : marks k d c r = r.deeds.count d := by
  simp only [marks, Call.entries, h]
  induction r.deeds with
  | nil => rfl
  | cons e deeds ih =>
      simp only [List.map_cons, List.count_cons, ih, beq_iff_eq, Prod.mk.injEq, true_and]

theorem marks_of_ne (h : c.key ≠ some k) : marks k d c r = 0 := by
  simp only [marks, Call.entries]
  cases hk : c.key with
  | none => rfl
  | some l =>
      refine List.count_eq_zero.mpr fun hmem => ?_
      obtain ⟨e, -, he⟩ := List.mem_map.mp hmem
      rw [hk] at h
      exact h (congrArg some (congrArg Prod.fst he))

theorem marks_nil (h : r.deeds = []) : marks k d c r = 0 := by
  simp only [marks, Call.entries, h, List.map_nil]
  split <;> rfl

/-- The calls that are about to trigger the credit, when one call is replaced. -/
theorem due_set (k : PaymentKey) {calls : List Call} (c' : Call) (hn : calls[n]? = some c) :
    (calls.set n c').countP (·.credits k) + (c.credits k).toNat =
      calls.countP (·.credits k) + (c'.credits k).toNat := by
  obtain ⟨hlt, hget⟩ := List.getElem?_eq_some_iff.mp hn
  have hmem : c ∈ calls := List.mem_of_getElem? hn
  have hpos : c.credits k = true → 0 < calls.countP (·.credits k) := fun h =>
    List.countP_pos_iff.mpr ⟨c, hmem, h⟩
  rw [List.countP_set hlt, hget]
  cases hc : c.credits k with
  | false => cases c'.credits k <;> simp
  | true =>
      have hone := hpos hc
      cases c'.credits k
      · simp only [if_true, Bool.false_eq_true, if_false, Bool.toNat_true, Bool.toNat_false]
        omega
      · simp only [if_true, Bool.toNat_true]
        omega

end

/-! ## What a statement changes -/

/-- What a statement of the call `c` changes of the payment `k`. -/
inductive Change (gw : Gateways) (k : PaymentKey) (s : State) (c : Call) (r : Result) : Prop where
  /-- Nothing. -/
  | quiet (hdone : isCompleted r.store k = isCompleted s.store k) (hmarks : ∀ d, marks k d c r = 0)
      (hdue : r.call.credits k = c.credits k) (hallowed : c.Allowed gw k s)
  /-- A NOWPayments payment is settled; `found` is whether its subscription is on file. -/
  | settled (ref : String) (hk : k = .nowpayments ref) (found : Bool)
      (hbefore : isCompleted s.store k = false) (hafter : isCompleted r.store k = true)
      (hc : c.credits k = false)
      (hcompleted : marks k .completed c r = 1) (hadvanced : marks k .advanced c r = found.toNat)
      (hcredited : marks k .credited c r = 0) (hdue : r.call.credits k = found)
      (hallowed : c.Allowed gw k s ↔ found = true)
  /-- The credit is triggered. -/
  | credited (hdone : isCompleted r.store k = isCompleted s.store k)
      (hcompleted : marks k .completed c r = 0) (hadvanced : marks k .advanced c r = 0)
      (hcredited : marks k .credited c r = 1) (hc : c.credits k = true)
      (hdue : r.call.credits k = false) (hallowed : c.Allowed gw k s)
  /-- A Stripe payment is settled; `known` is whether it has a row. -/
  | landed (id : String) (hk : k = .stripe id) (known : Bool)
      (hbefore : known = false → isCompleted s.store k = false)
      (hafter : isCompleted r.store k = (!known || isCompleted s.store k))
      (hcompleted : marks k .completed c r = (!known).toNat)
      (hadvanced : marks k .advanced c r = 1) (hcredited : marks k .credited c r = 0)
      (hc : c.credits k = false) (hdue : r.call.credits k = false)
      (hallowed : c.Allowed gw k s ↔ known = true ∧ s.count k .advanced = 0)

/-! ## The invariant -/

/-- What holds of the payment in every state of a run whose steps are allowed. -/
structure Sound (k : PaymentKey) (s : State) : Prop where
  unique : UniquePayments s.store.db
  completed : s.count k .completed = (isCompleted s.store k).toNat
  credited : s.count k .credited + s.due k = (isCompleted s.store k).toNat
  advanced : s.count k .advanced ≤ 1
  advanced_ipn : ∀ ref, k = .nowpayments ref →
    s.count k .advanced ≤ (isCompleted s.store k).toNat

section
variable {gw : Gateways} {k : PaymentKey} {c : Call} {r : Result} {s : State} {now : Time} {n : ℕ}

theorem Sound.exactlyOnce (h : Sound k s) : ExactlyOnce k s := by
  have hle : (isCompleted s.store k).toNat ≤ 1 := Bool.toNat_le _
  have hcompleted := h.completed
  have hcredited := h.credited
  refine ⟨by omega, h.advanced, by omega, ?_⟩
  intro hdone hdue
  rw [hdone, hdue] at hcredited
  exact hcredited

/-- The state after a statement with the result `r`. -/
def State.after (n : ℕ) (c : Call) (r : Result) (s : State) : State where
  store := r.store
  calls := s.calls.set n r.call
  log := s.log ++ c.entries r.deeds

theorem count_after (d : Deed) : (s.after n c r).count k d = s.count k d + marks k d c r := by
  simp only [State.count, State.after, List.count_append, marks]

theorem due_after (hn : s.calls[n]? = some c) :
    (s.after n c r).due k + (c.credits k).toNat = s.due k + (r.call.credits k).toNat :=
  due_set k r.call hn

/-- **A statement that is allowed keeps the invariant.** -/
theorem Sound.after (h : Sound k s) (hn : s.calls[n]? = some c) (hu : UniquePayments r.store.db)
    (hch : Change gw k s c r) (hallowed : c.Allowed gw k s) : Sound k (s.after n c r) := by
  have hdue := due_after (r := r) (k := k) hn
  have hstore : (s.after n c r).store = r.store := rfl
  obtain ⟨-, hcompleted, hcredited, hadvanced, hipn⟩ := h
  cases hch with
  | quiet hdone hmarks hsame _ =>
      rw [hsame] at hdue
      refine ⟨hu, ?_, ?_, ?_, ?_⟩
      · rw [count_after, hmarks, hstore, hdone, hcompleted, Nat.add_zero]
      · rw [count_after, hmarks, hstore, hdone]
        omega
      · rw [count_after, hmarks]
        exact hadvanced
      · intro ref hk
        rw [count_after, hmarks, hstore, hdone]
        exact hipn ref hk
  | settled ref hk found hbefore hafter hc hm1 hm2 hm3 hcall hiff =>
      obtain rfl := hiff.mp hallowed
      have hnone := hipn ref hk
      rw [hbefore] at hcompleted hcredited hnone
      rw [hc, hcall] at hdue
      simp only [Bool.toNat_false, Bool.toNat_true] at hcompleted hcredited hnone hdue hm2
      refine ⟨hu, ?_, ?_, ?_, fun ref' _ => ?_⟩
      · rw [count_after, hm1, hstore, hafter, hcompleted]
        rfl
      · rw [count_after, hm3, hstore, hafter, Bool.toNat_true]
        omega
      · rw [count_after, hm2]
        omega
      · rw [count_after, hm2, hstore, hafter, Bool.toNat_true]
        omega
  | credited hdone hm1 hm2 hm3 hc hcall _ =>
      rw [hc, hcall] at hdue
      simp only [Bool.toNat_false, Bool.toNat_true] at hdue
      refine ⟨hu, ?_, ?_, ?_, ?_⟩
      · rw [count_after, hm1, hstore, hdone, hcompleted, Nat.add_zero]
      · rw [count_after, hm3, hstore, hdone]
        omega
      · rw [count_after, hm2]
        exact hadvanced
      · intro ref hk
        rw [count_after, hm2, hstore, hdone]
        exact hipn ref hk
  | landed id hk known hbefore hafter hm1 hm2 hm3 hc hcall hiff =>
      obtain ⟨rfl, hzero⟩ := hiff.mp hallowed
      rw [hc, hcall] at hdue
      simp only [Bool.toNat_false, Bool.not_true, Bool.false_or] at hdue hafter hm1
      refine ⟨hu, ?_, ?_, ?_, ?_⟩
      · rw [count_after, hm1, hstore, hafter, hcompleted, Nat.add_zero]
      · rw [count_after, hm3, hstore, hafter]
        omega
      · rw [count_after, hm2, hzero]
      · intro ref hk'
        rw [hk] at hk'
        cases hk'

/-- **A statement that is not allowed leaves the payment settled twice, or not credited.** -/
theorem Sound.not_after (h : Sound k s) (hn : s.calls[n]? = some c) (hch : Change gw k s c r)
    (hallowed : ¬ c.Allowed gw k s) : ¬ ExactlyOnce k (s.after n c r) := by
  have hdue := due_after (r := r) (k := k) hn
  have hstore : (s.after n c r).store = r.store := rfl
  obtain ⟨-, hcompleted, hcredited, hadvanced, hipn⟩ := h
  cases hch with
  | quiet _ _ _ hok => exact absurd hok hallowed
  | credited _ _ _ _ _ _ hok => exact absurd hok hallowed
  | settled ref hk found hbefore hafter hc hm1 hm2 hm3 hcall hiff =>
      -- completed, with no subscription to credit for
      obtain rfl : found = false := by
        rw [← Bool.not_eq_true]
        exact fun hfound => hallowed (hiff.mpr hfound)
      rw [hbefore] at hcredited
      rw [hc, hcall] at hdue
      simp only [Bool.toNat_false] at hcredited hdue
      intro hgood
      have hone := hgood.credited (by rw [hstore]; exact hafter) (by omega)
      rw [count_after, hm3] at hone
      omega
  | landed id hk known hbefore hafter hm1 hm2 hm3 hc hcall hiff =>
      intro hgood
      cases known with
      | false =>
          -- completed, and never credited
          rw [hbefore rfl] at hcredited
          rw [hc, hcall] at hdue
          simp only [Bool.toNat_false] at hcredited hdue
          have hdone : isCompleted (s.after n c r).store k = true := by
            rw [hstore, hafter]
            rfl
          have hone := hgood.credited hdone (by omega)
          rw [count_after, hm3] at hone
          omega
      | true =>
          -- a second period
          have hsome : s.count k .advanced ≠ 0 := fun hzero => hallowed (hiff.mpr ⟨rfl, hzero⟩)
          have htwice := hgood.advanced_le
          rw [count_after, hm2] at htwice
          omega

end

/-! ## Which payments are completed -/

section
variable {s s' : Store} {p : Payment} {ref ref' id : String} {now : Time} {k : PaymentKey}

theorem isCompleted_congr (hdb : s'.db.payments = s.db.payments)
    (hrows : s'.stripePayments = s.stripePayments) (k : PaymentKey) :
    isCompleted s' k = isCompleted s k := by
  cases k with
  | nowpayments ref => simp only [isCompleted, Db.paymentOf, hdb]
  | stripe id => simp only [isCompleted, Store.stripePayment, hrows]

/-- `markUnderpaid` leaves what is completed alone, and completes nothing. -/
theorem isCompleted_markUnderpaid (k : PaymentKey) :
    isCompleted { s with db := s.db.markUnderpaid ref } k = isCompleted s k := by
  cases k with
  | stripe id => rfl
  | nowpayments ref' =>
      simp only [isCompleted, markUnderpaid_paymentOf]
      cases s.db.paymentOf ref' with
      | none => rfl
      | some p =>
          simp only [Option.map_some, Option.any_some]
          split_ifs with hc
          · simp only [Bool.and_eq_true, Bool.not_eq_true', Bool.or_eq_false_iff] at hc
            rw [hc.2.1]
            rfl
          · rfl

/-- The payment of the settlement is completed. -/
theorem isCompleted_settle (hp : s.db.paymentOf ref = some p) :
    isCompleted (s.settle p now) (.nowpayments ref) = true := by
  simp only [isCompleted, settle_db, settle_paymentOf, hp, Option.map_some, Option.any_some,
    beq_self_eq_true, if_true]

/-- Others are as they were. -/
theorem isCompleted_settle_of_ne (hu : UniquePayments s.db) (hp : s.db.paymentOf ref = some p)
    (hne : k ≠ .nowpayments ref) : isCompleted (s.settle p now) k = isCompleted s k := by
  cases k with
  | stripe id => simp only [isCompleted, Store.stripePayment, settle_stripePayments]
  | nowpayments ref' =>
      simp only [isCompleted, settle_db, settle_paymentOf]
      cases hq : s.db.paymentOf ref' with
      | none => rfl
      | some q =>
          have hid : q.id ≠ p.id := fun heq =>
            hne (congrArg PaymentKey.nowpayments (hu.ref_eq hq hp heq))
          simp only [Option.map_some, Option.any_some, beq_iff_eq, hid, if_false]

theorem knows_eq_isSome (id : String) (s : Store) : s.knows id = (s.stripePayment id).isSome := by
  simp only [Store.knows, Store.stripePayment, List.isSome_find?]

theorem isCompleted_of_not_known (h : s.knows id = false) : isCompleted s (.stripe id) = false := by
  rw [knows_eq_isSome, Option.isSome_eq_false_iff, Option.isNone_iff_eq_none] at h
  simp only [isCompleted, h, Option.any_none]

variable {w : Webhook} {req : StripeSettlement} {sub : Subscription}

/-- A row that is inserted is completed; one that is there stays as it is. -/
theorem isCompleted_landed (h : Landed w req sub now s s') :
    isCompleted s' (.stripe req.paymentId) =
      (!s.knows req.paymentId || isCompleted s (.stripe req.paymentId)) := by
  obtain ⟨invoiceId, hrows⟩ := h.rows
  cases hk : s.knows req.paymentId with
  | true =>
      rw [hk, if_pos rfl] at hrows
      exact isCompleted_congr h.payments hrows _
  | false =>
      have hnone := hk
      rw [knows_eq_isSome, Option.isSome_eq_false_iff, Option.isNone_iff_eq_none] at hnone
      have hnone : s.stripePayments.find? (fun p => p.providerPaymentId == some req.paymentId) =
          none := hnone
      rw [hk, if_neg Bool.false_ne_true] at hrows
      simp only [isCompleted, Store.stripePayment, hrows, List.find?_append, hnone, Option.none_or]
      simp [newStripePayment]

theorem isCompleted_landed_of_ne (h : Landed w req sub now s s') (hne : k ≠ .stripe req.paymentId) :
    isCompleted s' k = isCompleted s k := by
  cases k with
  | nowpayments ref => simp only [isCompleted, Db.paymentOf, h.payments]
  | stripe id =>
      obtain ⟨invoiceId, hrows⟩ := h.rows
      have hid : req.paymentId ≠ id := fun heq => hne (congrArg PaymentKey.stripe heq.symm)
      simp only [isCompleted, Store.stripePayment, hrows]
      split_ifs
      · rfl
      · simp only [List.find?_append, newStripePayment, List.find?_cons, List.find?_nil,
          Option.some_beq_some, beq_eq_false_iff_ne.mpr hid, Option.or_none]

end

/-! ## Every statement is one of the four -/

section
variable {gw : Gateways} {k : PaymentKey} {s : State} {now : Time}

/-- A statement that leaves the payments alone. -/
theorem Change.of_same {c : Call} {r : Result}
    (hdone : isCompleted r.store k = isCompleted s.store k) (hdeeds : r.deeds = []) (hc : c.credits k = false) (hcall : r.call.credits k = false)
    (hallowed : c.Allowed gw k s) : Change gw k s c r :=
  .quiet hdone (fun _ => marks_nil hdeeds) (hcall.trans hc.symm) hallowed

theorem execIpn_settle_change (hu : UniquePayments s.store.db) (k : PaymentKey) (body : Ipn)
    (faults : IpnQuery → Bool) :
    UniquePayments (execIpn gw now s.store body faults .settle).store.db ∧
      Change gw k s (.ipn body faults .settle) (execIpn gw now s.store body faults .settle) := by
  cases hp : s.store.openPayment body.gatewayPaymentRef with
  | none =>
      have hallowed : (Call.ipn body faults .settle).Allowed gw k s := by
        intro _ p hp'
        rw [hp] at hp'
        cases hp'
      cases hset : settleIpn gw.cfg body.gatewayPaymentRef faults now s.store with
      | error e =>
          simp only [execIpn, hset]
          exact ⟨hu, .of_same rfl rfl rfl rfl hallowed⟩
      | ok r =>
          obtain ⟨out, s'⟩ := r
          obtain ⟨rfl, hcompleted, hadvanced, hcredit⟩ := settleIpn_closed hp hset
          simp only [execIpn, hset, Outcome.deeds, hcompleted, hadvanced, hcredit,
            Option.isSome_none, Bool.false_eq_true, if_false]
          exact ⟨hu, .of_same rfl rfl rfl rfl hallowed⟩
  | some p =>
      obtain ⟨hrow, hopen⟩ := openPayment_some hp
      by_cases hcommit : Commits gw.cfg faults p
      swap
      · have hallowed : (Call.ipn body faults .settle).Allowed gw k s := by
          intro _ q hq hc
          rw [hp, Option.mem_some_iff] at hq
          rw [← hq] at hc
          exact absurd hc hcommit
        simp only [execIpn, settleIpn_open hp, if_neg hcommit]
        exact ⟨hu, .of_same rfl rfl rfl rfl hallowed⟩
      -- the subscription is found, or not
      generalize hfound :
        (p.subscriptionId.bind fun id => s.store.db.subscription id).isSome = found
      have hset : settleIpn gw.cfg body.gatewayPaymentRef faults now s.store =
          .ok ({ completed := true
                 advanced :=
                   (p.subscriptionId.bind fun id => s.store.db.subscription id).map (·.id)
                 after := afterCommit p s.store.db }, s.store.settle p now) := by
        rw [settleIpn_open hp, if_pos hcommit]
      have hcredit : (afterCommit p s.store.db).commissionFor.isSome = found := by
        simp only [afterCommit, hopen, hfound, ne_eq, not_false_eq_true, true_and]
        cases found <;> rfl
      have hresult : execIpn gw now s.store body faults .settle =
          { store := s.store.settle p now
            deeds := .completed :: if found then [.advanced] else []
            call := if found then .ipn body faults .credit else .done } := by
        simp only [execIpn, hset, Outcome.deeds, hcredit, Option.isSome_map, hfound, if_true]
        rfl
      rw [hresult]
      refine ⟨?_, ?_⟩
      · show UniquePayments (s.store.settle p now).db
        rw [settle_db]
        exact hu.settle
      by_cases hk : k = .nowpayments body.gatewayPaymentRef
      · have hkey : (Call.ipn body faults .settle).key = some k := by rw [hk]; rfl
        refine .settled body.gatewayPaymentRef hk found ?_ ?_ rfl ?_ ?_ ?_ ?_ ?_
        · rw [hk]
          simp only [isCompleted, hrow, Option.any_some, beq_eq_false_iff_ne.mpr hopen]
        · rw [hk]
          exact isCompleted_settle hrow
        · refine (marks_of_key hkey).trans ?_
          cases found <;> rfl
        · refine (marks_of_key hkey).trans ?_
          cases found <;> rfl
        · refine (marks_of_key hkey).trans ?_
          cases found <;> rfl
        · cases found with
          | true => exact beq_iff_eq.mpr hk
          | false => rfl
        · show (k = _ → ∀ q ∈ s.store.openPayment body.gatewayPaymentRef, _) ↔ _
          simp only [hp, Option.mem_some_iff, forall_eq', hk, hcommit, hfound, true_imp_iff]
      · have hkey : (Call.ipn body faults .settle).key ≠ some k := fun heq =>
          hk (Option.some.inj heq).symm
        refine .quiet (isCompleted_settle_of_ne hu hrow hk) (fun _ => marks_of_ne hkey) ?_ ?_
        · cases found with
          | true => exact beq_eq_false_iff_ne.mpr hk
          | false => rfl
        · exact fun heq => absurd heq hk

theorem execIpn_change (hu : UniquePayments s.store.db) (k : PaymentKey) (body : Ipn)
    (faults : IpnQuery → Bool) (pc : IpnAt) :
    UniquePayments (execIpn gw now s.store body faults pc).store.db ∧
      Change gw k s (.ipn body faults pc) (execIpn gw now s.store body faults pc) := by
  cases pc with
  | settle => exact execIpn_settle_change hu k body faults
  | verify =>
      have hsame : (execIpn gw now s.store body faults .verify).store = s.store ∧
          (execIpn gw now s.store body faults .verify).deeds = [] ∧
          (execIpn gw now s.store body faults .verify).call.credits k = false := by
        simp only [execIpn]
        split
        · exact ⟨rfl, rfl, rfl⟩
        split
        · exact ⟨rfl, rfl, rfl⟩
        · exact ⟨rfl, rfl, rfl⟩
        · exact ⟨rfl, rfl, rfl⟩
        · refine ⟨rfl, rfl, ?_⟩
          cases faults .connect <;> rfl
      obtain ⟨hstore, hdeeds, hcall⟩ := hsame
      rw [hstore]
      exact ⟨hu, .of_same (by rw [hstore]) hdeeds rfl hcall trivial⟩
  | markUnderpaid =>
      simp only [execIpn]
      split_ifs
      · exact ⟨hu, .of_same rfl rfl rfl rfl trivial⟩
      · exact ⟨hu.markUnderpaid, .of_same (isCompleted_markUnderpaid k) rfl rfl rfl trivial⟩
  | credit =>
      refine ⟨hu, ?_⟩
      by_cases hk : k = .nowpayments body.gatewayPaymentRef
      · have hkey : (Call.ipn body faults .credit).key = some k := by rw [hk]; rfl
        refine .credited rfl ?_ ?_ ?_ (beq_iff_eq.mpr hk) rfl trivial
        · exact (marks_of_key hkey).trans rfl
        · exact (marks_of_key hkey).trans rfl
        · exact (marks_of_key hkey).trans rfl
      · have hkey : (Call.ipn body faults .credit).key ≠ some k := fun heq =>
          hk (Option.some.inj heq).symm
        exact .quiet rfl (fun _ => marks_of_ne hkey) (beq_eq_false_iff_ne.mpr hk).symm trivial
  | unmark =>
      simp only [execIpn]
      split_ifs
      · exact ⟨hu, .of_same rfl rfl rfl rfl trivial⟩
      · exact ⟨hu, .of_same (isCompleted_congr rfl rfl k) rfl rfl rfl trivial⟩

theorem execStripe_settle_change (hu : UniquePayments s.store.db) (k : PaymentKey) (w : Webhook)
    (eventId : String) (req : StripeSettlement) :
    UniquePayments (execStripe gw now s.store w eventId req .settle).store.db ∧
      Change gw k s (.stripe w eventId req .settle)
        (execStripe gw now s.store w eventId req .settle) := by
  rcases settleStripe_cases gw.uuid w req now s.store with
    ⟨sub, s', hlands, hl, hrun⟩ | ⟨hnot, hsame, hout⟩
  · have hresult : execStripe gw now s.store w eventId req .settle =
        { store := s'
          deeds := (if s.store.knows req.paymentId then [] else [.completed]) ++ [.advanced]
          call := .done } := by
      simp only [execStripe, hrun, Outcome.deeds]
      cases s.store.knows req.paymentId <;> rfl
    rw [hresult]
    have hu' : UniquePayments s'.db := by
      simp only [UniquePayments, hl.payments]
      exact hu
    refine ⟨hu', ?_⟩
    by_cases hk : k = .stripe req.paymentId
    · have hkey : (Call.stripe w eventId req .settle).key = some k := by rw [hk]; rfl
      refine .landed req.paymentId hk (s.store.knows req.paymentId) ?_ ?_ ?_ ?_ ?_ rfl rfl ?_
      · intro hnew
        rw [hk]
        exact isCompleted_of_not_known hnew
      · rw [hk]
        exact isCompleted_landed hl
      · refine (marks_of_key hkey).trans ?_
        cases s.store.knows req.paymentId <;> rfl
      · refine (marks_of_key hkey).trans ?_
        cases s.store.knows req.paymentId <;> rfl
      · refine (marks_of_key hkey).trans ?_
        cases s.store.knows req.paymentId <;> rfl
      · constructor
        · exact fun h => h hk ⟨sub, hlands.subscription, hlands⟩
        · exact fun h _ _ => h
    · have hkey : (Call.stripe w eventId req .settle).key ≠ some k := fun heq =>
        hk (Option.some.inj heq).symm
      exact .quiet (isCompleted_landed_of_ne hl hk) (fun _ => marks_of_ne hkey) rfl
        fun heq => absurd heq hk
  · have hallowed : (Call.stripe w eventId req .settle).Allowed gw k s := by
      rintro - ⟨sub, -, hlands⟩
      exact absurd hlands (hnot sub)
    have hstore : (execStripe gw now s.store w eventId req .settle).store =
        (s.store.settleStripe gw.uuid w req now).2 ∧
        (execStripe gw now s.store w eventId req .settle).deeds = [] ∧
        (execStripe gw now s.store w eventId req .settle).call.credits k = false := by
      simp only [execStripe]
      generalize s.store.settleStripe gw.uuid w req now = r at hout
      obtain ⟨answer, s'⟩ := r
      rcases hout with hout | ⟨e, hout⟩
      · obtain rfl : answer = .ok {} := hout
        exact ⟨rfl, rfl, rfl⟩
      · obtain rfl : answer = .error e := hout
        exact ⟨rfl, rfl, rfl⟩
    obtain ⟨hstore, hdeeds, hcall⟩ := hstore
    have hu' : UniquePayments (s.store.settleStripe gw.uuid w req now).2.db := by
      simp only [UniquePayments, hsame.payments]
      exact hu
    refine ⟨by rw [hstore]; exact hu', .of_same ?_ hdeeds rfl hcall hallowed⟩
    rw [hstore]
    exact isCompleted_congr hsame.payments hsame.rows k

/-- **What a statement changes of a payment**, whatever call it is of. -/
theorem exec_change (gw : Gateways) (now : Time) (hu : UniquePayments s.store.db) (k : PaymentKey)
    (c : Call) :
    UniquePayments (exec gw now s.store c).store.db ∧ Change gw k s c (exec gw now s.store c) := by
  cases c with
  | done => exact ⟨hu, .of_same rfl rfl rfl rfl trivial⟩
  | ipn body faults pc => exact execIpn_change hu k body faults pc
  | stripe w eventId req pc =>
      cases pc with
      | settle => exact execStripe_settle_change hu k w eventId req
      | unmark =>
          show UniquePayments (execStripe gw now s.store w eventId req .unmark).store.db ∧
            Change gw k s _ (execStripe gw now s.store w eventId req .unmark)
          simp only [execStripe]
          split_ifs
          · exact ⟨hu, .of_same rfl rfl rfl rfl trivial⟩
          · exact ⟨hu, .of_same (isCompleted_congr rfl rfl k) rfl rfl rfl trivial⟩

end

/-! ## Runs -/

section
variable {gw : Gateways} {k : PaymentKey} {s : State}

/-- A call that has just been put on file changes nothing. -/
theorem Sound.received {store : Store} {c : Call} (h : Sound k s)
    (hpayments : store.db.payments = s.store.db.payments)
    (hrows : store.stripePayments = s.store.stripePayments) (hc : c.credits k = false) :
    Sound k { s with store := store, calls := s.calls ++ [c] } := by
  have hdone := isCompleted_congr hpayments hrows k
  have hdue : (s.calls ++ [c]).countP (·.credits k) = s.due k := by
    rw [List.countP_append, List.countP_singleton, hc]
    rfl
  refine ⟨?_, ?_, ?_, h.advanced, ?_⟩
  · simp only [UniquePayments, hpayments]
    exact h.unique
  · show s.count k .completed = (isCompleted store k).toNat
    rw [hdone]
    exact h.completed
  · show s.count k .credited + (s.calls ++ [c]).countP (·.credits k) = (isCompleted store k).toNat
    rw [hdone, hdue]
    exact h.credited
  · intro ref hk
    show s.count k .advanced ≤ (isCompleted store k).toNat
    rw [hdone]
    exact h.advanced_ipn ref hk

theorem Sound.notify (h : Sound k s) (d : Delivery) : Sound k (s.notify d) := by
  simp only [State.notify]
  split
  · exact h
  split_ifs
  · exact h
  · exact h
  · exact h.received rfl rfl rfl
  · exact h.received rfl rfl rfl

theorem Sound.webhook (h : Sound k s) (w : Webhook) : Sound k (s.webhook w) := by
  simp only [State.webhook]
  split
  · exact h
  split_ifs
  · exact h
  · exact h
  · split
    · exact h.received rfl rfl rfl
    · exact h.received rfl rfl rfl

/-- The loss of a call that is not about to trigger the credit. -/
theorem Sound.crash (h : Sound k s) {n : ℕ} (hn : ∀ c ∈ s.calls[n]?, c.credits k = false) :
    Sound k { s with calls := s.calls.set n .done } := by
  have hdue : (s.calls.set n .done).countP (·.credits k) = s.due k := by
    cases hc : s.calls[n]? with
    | none => rw [List.set_eq_of_length_le (List.getElem?_eq_none_iff.mp hc)]; rfl
    | some c =>
        have hset := due_set k .done hc
        rw [hn c hc] at hset
        exact hset
  refine ⟨h.unique, h.completed, ?_, h.advanced, h.advanced_ipn⟩
  show s.count k .credited + (s.calls.set n .done).countP (·.credits k) = _
  rw [hdue]
  exact h.credited

/-- The loss of a call that is. -/
theorem Sound.not_crash (h : Sound k s) {n : ℕ} {c : Call} (hn : s.calls[n]? = some c)
    (hc : c.credits k = true) : ¬ ExactlyOnce k { s with calls := s.calls.set n .done } := by
  have hset := due_set k .done hn
  rw [hc] at hset
  have hlost : (s.calls.set n .done).countP (·.credits k) + 1 = s.due k := hset
  have hcredited := h.credited
  have hle : (isCompleted s.store k).toNat ≤ 1 := Bool.toNat_le _
  have hdone : isCompleted s.store k = true := by
    by_contra hno
    rw [Bool.not_eq_true] at hno
    rw [hno, Bool.toNat_false] at hcredited
    omega
  intro hgood
  have hone : s.count k .credited = 1 := hgood.credited hdone (by
    show (s.calls.set n .done).countP (·.credits k) = 0
    omega)
  omega

/-- A payment whose history begins: its row, if it has one, is not completed. -/
structure Fresh (k : PaymentKey) (s : State) : Prop where
  unique : UniquePayments s.store.db
  pending : isCompleted s.store k = false
  calls : s.calls = []
  log : s.log = []

theorem Fresh.sound (h : Fresh k s) : Sound k s := by
  have hcount : ∀ d, s.count k d = 0 := by
    intro d
    simp only [State.count, h.log, List.count_nil]
  have hdue : s.due k = 0 := by
    simp only [State.due, h.calls, List.countP_nil]
  refine ⟨h.unique, ?_, ?_, ?_, ?_⟩
  · rw [hcount, h.pending]
    rfl
  · rw [hcount, hdue, h.pending]
    rfl
  · rw [hcount]
    exact Nat.zero_le 1
  · intro ref _
    rw [hcount]
    exact Nat.zero_le _

/-- **A payment is settled exactly once, in every state of a run, exactly when each step of the run
is allowed.** -/
theorem exactlyOnce_throughout_iff (gw : Gateways) (k : PaymentKey) (h0 : Fresh k s)
    (is : List Input) :
    Throughout (step gw) (ExactlyOnce k) s is ↔ Along (step gw) (Allowed gw k) s is := by
  refine throughout_iff_along (J := Sound k) (fun s h => h.exactlyOnce) ?_ ?_ h0.sound
  · intro s i h hallowed
    cases i with
    | notify d => exact h.notify d
    | webhook w => exact h.webhook w
    | crash n => exact h.crash hallowed
    | exec n now =>
        cases hn : s.calls[n]? with
        | none =>
            simp only [step, hn]
            exact h
        | some c =>
            obtain ⟨hu, hch⟩ := exec_change gw now h.unique k c
            simp only [step, hn]
            exact h.after hn hu hch (hallowed c hn)
  · intro s i h hallowed
    cases i with
    | notify d => exact absurd trivial hallowed
    | webhook w => exact absurd trivial hallowed
    | crash n =>
        obtain ⟨c, hc⟩ := Classical.not_forall.mp hallowed
        obtain ⟨hn, hc⟩ := Classical.not_imp.mp hc
        exact h.not_crash hn (by rwa [Bool.not_eq_false] at hc)
    | exec n now =>
        obtain ⟨c, hc⟩ := Classical.not_forall.mp hallowed
        obtain ⟨hn, hc⟩ := Classical.not_imp.mp hc
        obtain ⟨-, hch⟩ := exec_change gw now h.unique k c
        have hn : s.calls[n]? = some c := hn
        simp only [step, hn]
        exact h.not_after hn hch hc

end

/-! ## One payment of each provider -/

/-- Both providers. The settlement of a crypto payment is given a database that takes its query, as
PostgreSQL does not; a run of Stripe events alone does not meet it. -/
def saleGateways : Gateways where
  cfg := { rowLockAccepted := true }
  uuid := saleIds

/-- The subscription of the sale, a crypto payment for it, and a checkout session of Stripe. -/
def sale : State where
  store :=
    { (firstSale .monthly [openPayment30]).store with
      stripePayments :=
        [{ id := 31, userId := 7, subscriptionId := some 1, invoiceId := some 9,
           providerPaymentId := some "cs_1", amount := 25 }] }

theorem sale_fresh {k : PaymentKey} (hk : isCompleted sale.store k = false) : Fresh k sale :=
  ⟨by simp [UniquePayments, sale, firstSale], hk, rfl, rfl⟩

/-- The payment intent that the session `cs_1` has created. -/
def intentSucceeded : Webhook where
  timestamp := "1775779201"
  body := some
    { id := some "evt_2"
      type := some "payment_intent.succeeded"
      object :=
        { id := some "pi_1", metadataSubscriptionId := some "sub-1"
          metadataInvoiceId := some "inv-9" } }
  newPaymentId := 33

/-- Stripe sends both events for the one payment. -/
def sessionAndIntent : List Input :=
  [.webhook { paidSession "evt_1" "pi_1" with newPaymentId := 32 }, .exec 0 tenthOfApril,
    .webhook intentSucceeded, .exec 1 (tenthOfApril + 1000)]

/-- Two periods for one payment, and no credit. -/
theorem sessionAndIntent_not_exactlyOnce :
    Fresh (.stripe "pi_1") sale ∧
    ((run (step saleGateways) sale sessionAndIntent).count (.stripe "pi_1") .advanced = 2 ∧
      (run (step saleGateways) sale sessionAndIntent).count (.stripe "pi_1") .credited = 0) ∧
    ¬ Throughout (step saleGateways) (ExactlyOnce (.stripe "pi_1")) sale sessionAndIntent := by
  refine ⟨sale_fresh (by decide +kernel), by decide +kernel, fun h => ?_⟩
  have hlast := h sessionAndIntent List.prefix_rfl
  revert hlast
  decide +kernel

/-- The gateway reports the payment twice, in two statuses. -/
def confirmedAndFinished : List Input :=
  [.notify { body := some { paymentId := some "np-1", paymentStatus := "confirmed" } },
    .notify { body := some { paymentId := some "np-1", paymentStatus := "finished" } },
    .exec 0 tenthOfApril, .exec 1 tenthOfApril, .exec 1 tenthOfApril, .exec 0 tenthOfApril,
    .exec 1 tenthOfApril, .exec 0 tenthOfApril]

/-- A payment that is notified as confirmed and then as finished. -/
theorem confirmedAndFinished_exactlyOnce :
    Throughout (step saleGateways) (ExactlyOnce (.nowpayments "np-1")) sale confirmedAndFinished :=
  (exactlyOnce_throughout_iff saleGateways (.nowpayments "np-1") (sale_fresh (by decide +kernel))
    confirmedAndFinished).mpr (by decide +kernel)

end PredictATrade.Billing.Notifications
