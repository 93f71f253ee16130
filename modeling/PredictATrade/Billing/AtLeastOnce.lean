import Mathlib.Algebra.Order.Archimedean.Basic
import PredictATrade.Lib.Runs
import PredictATrade.Billing.Settlement

/-!
# `Billing.AtLeastOnce` — no payment is lost under redelivery

The gateway delivers a notification until it is answered. A payment is lost when a later delivery
that could settle it is answered as a duplicate of one whose effect never reached the tables.
`Kept` says that this cannot happen from a state on: any genuine delivery with a sufficient amount
settles the payment for good. From the moment `createInvoice` has opened the payment, `Kept` holds
in every state of a run exactly when the gateway names the payment by the stored reference, the
database takes the settlement query, and no delivery of the run is swallowed
(`no_payment_lost_iff`).
-/

namespace PredictATrade.Billing
open Lib.Table Lib.Decimal Lib.Attempt Lib.Runs

/-! ## A checkout opens a payment -/

/-- What a checkout does to the tables: it appends payments and subscriptions. -/
structure Extends (db db' : Db) : Prop where
  payments : ∃ rows, db'.payments = db.payments ++ rows
  subscriptions : ∃ rows, db'.subscriptions = db.subscriptions ++ rows
  events : db'.events = db.events
  unique : UniquePayments db → UniquePayments db'

section
variable {cfg : Config} {c : Checkout} {ref url : String} {db db' db'' : Db} {p : Payment} {id : Id}

theorem Extends.refl (db : Db) : Extends db db :=
  ⟨⟨[], by simp⟩, ⟨[], by simp⟩, rfl, fun h => h⟩

theorem Extends.trans (h : Extends db db') (h' : Extends db' db'') : Extends db db'' := by
  obtain ⟨ps, hp⟩ := h.payments
  obtain ⟨qs, hq⟩ := h'.payments
  obtain ⟨ss, hs⟩ := h.subscriptions
  obtain ⟨ts, ht⟩ := h'.subscriptions
  refine ⟨⟨ps ++ qs, ?_⟩, ⟨ss ++ ts, ?_⟩, ?_, fun hu => h'.unique (h.unique hu)⟩
  · rw [hq, hp, List.append_assoc]
  · rw [ht, hs, List.append_assoc]
  · rw [h'.events, h.events]

theorem Extends.paymentOf (h : Extends db db') (hp : db.paymentOf ref = some p) :
    db'.paymentOf ref = some p := by
  obtain ⟨rows, hrows⟩ := h.payments
  have hp' : db.payments.find? (fun q => q.providerPaymentId == some ref) = some p := hp
  simp only [Db.paymentOf, hrows, List.find?_append, hp', Option.some_or]

theorem Extends.subscription {s : Subscription} (h : Extends db db')
    (hs : db.subscription id = some s) : db'.subscription id = some s := by
  obtain ⟨rows, hrows⟩ := h.subscriptions
  have hs' : db.subscriptions.find? (fun t => t.id == id) = some s := hs
  simp only [Db.subscription, hrows, List.find?_append, hs', Option.some_or]

theorem Extends.subscription_isSome (h : Extends db db') (hs : (db.subscription id).isSome) :
    (db'.subscription id).isSome := by
  obtain ⟨s, hs⟩ := Option.isSome_iff_exists.mp hs
  simp [h.subscription hs]

theorem ensureSubscription_extends (c : Checkout) (interval : BillingInterval) (db : Db) :
    Extends db (ensureSubscription c interval db).2 ∧
      (ensureSubscription c interval db).2.payments = db.payments := by
  simp only [ensureSubscription]
  split
  · exact ⟨.refl db, rfl⟩
  split
  · exact ⟨.refl db, rfl⟩
  split
  · exact ⟨.refl db, rfl⟩
  split
  · exact ⟨.refl db, rfl⟩
  · exact ⟨⟨⟨[], by simp⟩, ⟨_, rfl⟩, rfl, fun h => h⟩, rfl⟩

/-- The invoice step only adds rows. -/
theorem ensureInvoice_extends (c : Checkout) (db : Db) :
    Extends db (ensureInvoice c db).2 ∧ (ensureInvoice c db).2.payments = db.payments := by
  simp only [ensureInvoice]
  split
  · exact ⟨.refl db, rfl⟩
  split
  · exact ⟨.refl db, rfl⟩
  · exact ⟨⟨⟨[], by simp⟩, ⟨[], by simp⟩, rfl, fun h => h⟩, rfl⟩

theorem insertPayment_extends : Extends db (insertPayment p db).2 := by
  simp only [insertPayment]
  split
  · exact .refl db
  split
  · exact .refl db
  · rename_i hid
    refine ⟨⟨[p], rfl⟩, ⟨[], by simp⟩, rfl, fun hu => ?_⟩
    simp only [UniquePayments, List.map_append, List.map_cons, List.map_nil]
    refine hu.append (by simp) ?_
    simpa [List.disjoint_right] using hid

/-- What the checkout records only adds rows. -/
theorem recordInvoice_extends {subscriptionId invoiceId : Id} {price : ℚ} :
    Extends db (recordInvoice c subscriptionId invoiceId price ref url db).2 := by
  simp only [recordInvoice]
  split
  · exact .refl db
  · apply next_invariant (I := Extends db)
    · exact insertPayment_extends
    · intro _ s hs
      split
      · exact hs
      · exact hs.trans ⟨⟨[], by simp⟩, ⟨[], by simp⟩, rfl, fun h => h⟩

/-- **A checkout only adds rows**, whether it succeeds or fails. -/
theorem createInvoice_extends : Extends db (createInvoice cfg c db).2 := by
  simp only [createInvoice]
  apply next_invariant (I := Extends db)
  · exact .refl db
  · intro request s hs
    apply next_invariant (I := Extends db)
    · exact hs.trans (ensureSubscription_extends c _ s).1
    · intro subscriptionId s hs
      apply next_invariant (I := Extends db)
      · exact hs.trans (ensureInvoice_extends c s).1
      · intro invoiceId s hs
        apply next_invariant (I := Extends db)
        · exact hs
        · intro answer s hs
          exact hs.trans recordInvoice_extends

theorem Extends.settled (h : Extends db db') (hs : Settled ref db) : Settled ref db' := by
  obtain ⟨p, id, s, hp, hc, hid, hs, hact⟩ := hs
  exact ⟨p, id, s, h.paymentOf hp, hc, hid, h.subscription hs, hact⟩

theorem Extends.unpaid (h : Extends db db') (hunpaid : Unpaid ref db) : Unpaid ref db' := by
  obtain ⟨p, id, hp, hopen, hinv, hid, hs⟩ := hunpaid
  exact ⟨p, id, h.paymentOf hp, hopen, hinv, hid, h.subscription_isSome hs⟩

theorem Extends.open (h : Extends db db') (hopen : Open ref db) : Open ref db' :=
  ⟨h.unpaid hopen.unpaid, by rw [h.events]; exact hopen.unfiled⟩

/-- The gateway's invoice id is new to the tables: no payment has it, and none of its settling
events is on file. -/
structure NewReference (ref : String) (db : Db) : Prop where
  unique : UniquePayments db
  payments : db.paymentOf ref = none
  events : ∀ st ∈ settledStatuses, eventKey ref st ∉ db.events

theorem ensureSubscription_ok {interval : BillingInterval}
    (h : ensureSubscription c interval db = (.ok id, db')) : (db'.subscription id).isSome := by
  simp only [ensureSubscription] at h
  by_cases hf : c.faults .findSubscription = true
  · rw [if_pos hf] at h; cases h
  rw [if_neg hf] at h
  split at h
  · rename_i s hs
    obtain ⟨hid, rfl⟩ := Prod.mk.inj h
    obtain rfl := Except.ok.inj hid
    have hmem : s ∈ db.subscriptions := by simpa using List.mem_of_find?_eq_some hs
    exact List.find?_isSome.mpr ⟨s, hmem, by simp⟩
  · split at h
    · cases h
    split at h
    · cases h
    · obtain ⟨hid, rfl⟩ := Prod.mk.inj h
      obtain rfl := Except.ok.inj hid
      exact List.find?_isSome.mpr ⟨_, List.mem_append_right _ (List.mem_singleton.mpr rfl), by simp⟩

/-- A payment inserted under a reference that no payment has is the one found under it. -/
theorem insertPayment_ok (hnone : db.paymentOf ref = none) (hp : p.providerPaymentId = some ref)
    (h : insertPayment p db = (.ok (), db')) :
    db'.paymentOf ref = some p ∧ db'.subscriptions = db.subscriptions ∧ db'.events = db.events := by
  have hno : db.payments.any (·.providerPaymentId == p.providerPaymentId) = false := by
    rw [hp]
    simpa [Db.paymentOf] using hnone
  simp only [insertPayment, hno, Bool.false_eq_true, if_false] at h
  split at h
  · cases h
  · obtain ⟨-, rfl⟩ := Prod.mk.inj h
    have hnone' : db.payments.find? (fun q => q.providerPaymentId == some ref) = none := hnone
    simp [Db.paymentOf, hnone', hp]

theorem GatewayAnswer.read_payload {a : String × String}
    (h : (GatewayAnswer.payload ref url).read = .ok a) : ref ≠ "" ∧ a = (ref, url) := by
  obtain ⟨hne, h⟩ := guard_ok h
  obtain ⟨hne, -⟩ := not_or.mp hne
  exact ⟨hne, (Except.ok.inj h).symm⟩

/-- **A checkout opens its payment**: under the gateway's invoice id, with its invoice and its
subscription. -/
theorem createInvoice_opens {reply : String × Id} (hgw : c.gateway = .payload ref url)
    (hnew : NewReference ref db) (h : createInvoice cfg c db = (.ok reply, db')) :
    ref ≠ "" ∧ Open ref db' := by
  obtain ⟨⟨interval, price⟩, db₀, h0, h⟩ := next_ok h
  obtain ⟨-, rfl⟩ := Prod.mk.inj h0
  obtain ⟨subscriptionId, db₁, h1, h⟩ := next_ok h
  obtain ⟨invoiceId, db₂, h2, h⟩ := next_ok h
  obtain ⟨⟨ref', url'⟩, db₃, h3, h⟩ := next_ok h
  obtain ⟨hread, rfl⟩ := Prod.mk.inj h3
  rw [hgw] at hread
  obtain ⟨hne, ha⟩ := GatewayAnswer.read_payload hread
  obtain ⟨rfl, rfl⟩ := Prod.mk.inj ha.symm
  refine ⟨hne, ?_⟩
  have hsub : (db₁.subscription subscriptionId).isSome := ensureSubscription_ok h1
  have he1 := ensureSubscription_extends c interval db
  have he2 := ensureInvoice_extends c db₁
  rw [h1] at he1
  rw [h2] at he2
  have hext : Extends db db₂ := he1.1.trans he2.1
  have hpayments : db₂.payments = db.payments := he2.2.trans he1.2
  have hnone : db₂.paymentOf ref = none := by
    rw [Db.paymentOf, hpayments]
    exact hnew.payments
  obtain ⟨-, h⟩ := guard_next_ok h
  obtain ⟨⟨⟩, db₄, h4, h⟩ := next_ok h
  obtain ⟨hp, hsubs, hevents⟩ := insertPayment_ok hnone rfl h4
  obtain ⟨-, h⟩ := guard_next_ok h
  obtain ⟨-, rfl⟩ := Prod.mk.inj h
  refine ⟨⟨_, subscriptionId, hp, by simp, rfl, rfl, ?_⟩, ?_⟩
  · simp only [Db.subscription, hsubs]
    exact he2.1.subscription_isSome hsub
  · show ∀ st ∈ settledStatuses, eventKey ref st ∉ db₄.events
    rw [hevents, hext.events]
    exact hnew.events

/-! ## One request -/

/-- A notification that is accepted is received. -/
theorem step_ipn_of_ok {d : Delivery} {ipn : Ipn} (h : d.accepted = .ok ipn) :
    step cfg db (.ipn d) = (receiveIPN cfg ipn d.faults db).2 := by
  simp only [step, handleIPN, h]

/-- A notification that is refused changes nothing. -/
theorem step_ipn_of_error {d : Delivery} {e : Failure} (h : d.accepted = .error e) :
    step cfg db (.ipn d) = db := by
  simp only [step, handleIPN, h]

/-- **A settled payment stays settled**, whatever is requested and whatever fails. -/
theorem step_settled (r : Request) (hs : Settled ref db) : Settled ref (step cfg db r) := by
  cases r with
  | checkout c => exact createInvoice_extends.settled hs
  | ipn d =>
    cases hd : d.accepted with
    | error e => rw [step_ipn_of_error hd]; exact hs
    | ok ipn => rw [step_ipn_of_ok hd]; exact receiveIPN_effect.settled_stays hs

/-- **Step.** Payments stay unique. -/
theorem step_unique (r : Request) (hu : UniquePayments db) : UniquePayments (step cfg db r) := by
  cases r with
  | checkout c => exact createInvoice_extends.unique hu
  | ipn d =>
    cases hd : d.accepted with
    | error e => rw [step_ipn_of_error hd]; exact hu
    | ok ipn => rw [step_ipn_of_ok hd]; exact receiveIPN_effect.unique hu

/-- The delivery of a run that puts a settling event of the payment on file is handled. -/
def NotSwallowed (cfg : Config) (ref : String) (db : Db) : Request → Prop
  | .checkout _ => True
  | .ipn d => ∀ ipn, d.accepted = .ok ipn → Files ref db ipn d.faults →
      Handled cfg ref db ipn d.faults

/-- An open payment stays open or gets settled when no delivery is swallowed. -/
theorem step_open (r : Request) (hlock : cfg.rowLockAccepted = true) (hu : UniquePayments db)
    (hopen : Open ref db) (hr : NotSwallowed cfg ref db r) :
    Open ref (step cfg db r) ∨ Settled ref (step cfg db r) := by
  cases r with
  | checkout c => exact .inl (createInvoice_extends.open hopen)
  | ipn d =>
    cases hd : d.accepted with
    | error e => rw [step_ipn_of_error hd]; exact .inl hopen
    | ok ipn =>
      rw [step_ipn_of_ok hd]
      by_cases hf : Files ref db ipn d.faults
      · have hstep := receiveIPN_of_handled hlock hopen hf (hr ipn hd hf)
        by_cases hclean : ∀ q ∈ settlementQueries, d.faults q = false
        · rw [if_pos hclean] at hstep; exact .inr hstep
        · rw [if_neg hclean] at hstep; exact .inl hstep
      · exact .inl (receiveIPN_of_not_files hu hopen hf)

/-! ## Sufficient notifications -/

/-- The notification reports an amount, and the amount passes for the payment stored under `ref`. -/
def Sufficient (cfg : Config) (ref : String) (db : Db) (ipn : Ipn) : Prop :=
  (∃ v vs, actualCandidates ipn.amounts = .ok (v :: vs)) ∧
    ∃ p, db.paymentOf ref = some p ∧ precheck cfg p (db.invoiceTotal p) ipn = .ok .proceed

/-- A notification of the payment: the gateway names it by its payment id `pid`, if it gives one,
and by the invoice id `ref`; the status is a settling one, and nothing fails in the delivery. -/
structure Genuine (ref : String) (pid : Option String) (d : Delivery) (ipn : Ipn) : Prop where
  signature : d.signature = .verified
  body : d.body = some ipn
  paymentId : ipn.paymentId = pid
  invoiceId : ipn.invoiceId = some ref
  settling : ipn.paymentStatus ∈ settledStatuses
  faultless : ∀ q, d.faults q = false

/-- A power of ten that covers any expected amount. -/
theorem exists_covering (cfg : Config) (expected : ℚ) :
    ∃ k : ℕ, fallsShort cfg expected ((10 ^ k : ℚ) : WithTop ℚ) = false := by
  obtain ⟨k, hk⟩ := pow_unbounded_of_one_lt (minOk cfg expected) (show (1 : ℚ) < 10 by norm_num)
  refine ⟨k, ?_⟩
  have hround : (10 : ℚ) ^ (k : ℤ) ≤ roundSig 20 (10 ^ k + 1 / 10 ^ 9) := by
    apply zpow_le_roundSig (by norm_num)
    rw [zpow_natCast]
    norm_num
  rw [zpow_natCast] at hround
  show decide (roundSig 20 (10 ^ k + 1 / 10 ^ 9) < minOk cfg expected) = false
  exact decide_eq_false (not_lt.mpr (hk.le.trans hround))

/-- Every payment has a sufficient notification of every status. -/
theorem exists_sufficient (cfg : Config) (hp : db.paymentOf ref = some p) (pid : Option String)
    (status : String) :
    ∃ ipn : Ipn, ipn.paymentId = pid ∧ ipn.invoiceId = some ref ∧ ipn.paymentStatus = status ∧
      Sufficient cfg ref db ipn := by
  obtain ⟨k, hk⟩ := exists_covering cfg
    (if 0 < p.amount then p.amount else (db.invoiceTotal p).getD 0)
  have hpos : (0 : ℚ) < 10 ^ k := by positivity
  have hcand : actualCandidates [.number (10 ^ k), .absent, .absent, .absent, .absent] =
      .ok [((10 ^ k : ℚ) : WithTop ℚ)] := by
    simp only [actualCandidates, Amount.candidate, hpos, if_true]
    rfl
  have hactual : actual [((10 ^ k : ℚ) : WithTop ℚ)] = ((10 ^ k : ℚ) : WithTop ℚ) := by
    have hlt : (0 : WithTop ℚ) < ((10 ^ k : ℚ) : WithTop ℚ) := WithTop.coe_pos.mpr hpos
    simp only [actual, List.foldl_cons, List.foldl_nil, hlt, if_true]
  refine ⟨{ paymentId := pid, invoiceId := some ref, paymentStatus := status,
            actuallyPaid := .number (10 ^ k) }, rfl, rfl, rfl, ⟨_, _, hcand⟩, p, hp, ?_⟩
  simp only [precheck, Ipn.amounts, hcand, ok_bind, hactual, hk]
  simp

/-! ## The run -/

/-- **No settled payment is lost** from `db` on: a genuine delivery with a sufficient amount settles
the payment, and it is still settled after any further requests. -/
def Kept (cfg : Config) (ref : String) (pid : Option String) (db : Db) : Prop :=
  ∀ d ipn, Genuine ref pid d ipn → Sufficient cfg ref db ipn →
    ∀ later, Settled ref (run (step cfg) db (.ipn d :: later))

/-- The invariant of a run: payment ids are unique, and the payment is open or settled. -/
structure Sound (ref : String) (db : Db) : Prop where
  unique : UniquePayments db
  openOrSettled : Open ref db ∨ Settled ref db

theorem Sound.after {r : Request} (h : Sound ref db) (hlock : cfg.rowLockAccepted = true)
    (hr : NotSwallowed cfg ref db r) : Sound ref (step cfg db r) := by
  refine ⟨step_unique r h.unique, ?_⟩
  rcases h.openOrSettled with hopen | hs
  · exact step_open r hlock h.unique hopen hr
  · exact .inr (step_settled r hs)

theorem Genuine.accepted {pid : Option String} {d : Delivery} {ipn : Ipn} (h : Genuine ref pid d ipn)
    (hne : ref ≠ "") (hpid : pid.getD ref = ref) :
    d.accepted = .ok ipn ∧ ipn.gatewayPaymentRef = ref := by
  have href : ipn.gatewayPaymentRef = ref := by
    rw [Ipn.gatewayPaymentRef, h.paymentId, h.invoiceId]
    cases pid with
    | none => rfl
    | some id => exact hpid
  refine ⟨?_, href⟩
  simp only [Delivery.accepted, h.signature, h.body, href, hne, if_false]

theorem Sound.kept {pid : Option String} (h : Sound ref db) (hne : ref ≠ "")
    (hpid : pid.getD ref = ref) (hlock : cfg.rowLockAccepted = true) : Kept cfg ref pid db := by
  rintro d ipn hg ⟨-, p, hp, hv⟩ later
  have hnow : Settled ref (step cfg db (.ipn d)) := by
    rcases h.openOrSettled with hopen | hs
    · obtain ⟨hd, href⟩ := hg.accepted hne hpid
      rw [step_ipn_of_ok hd]
      have hf : Files ref db ipn d.faults :=
        ⟨hg.faultless _, ⟨_, hg.settling, by rw [Ipn.providerEventId, href]⟩,
          by rw [Ipn.providerEventId, href]; exact hopen.unfiled _ hg.settling,
          hopen.unpaid.not_completed⟩
      have hh : Handled cfg ref db ipn d.faults :=
        ⟨href, hg.faultless _, by simp only [verify, href, hp, hv], hg.faultless _,
          .inr (hg.faultless _)⟩
      have hstep := receiveIPN_of_handled hlock hopen hf hh
      rwa [if_pos fun q _ => hg.faultless q] at hstep
    · exact step_settled _ hs
  exact run_keeps (I := Settled ref) (fun _ r hs => step_settled r hs) hnow later

/-- Where no genuine delivery can settle an unpaid payment, it is lost. -/
theorem not_kept_of_unpaid {pid : Option String} (hunpaid : Unpaid ref db) (st : String)
    (hst : st ∈ settledStatuses)
    (hno : ∀ d ipn, Genuine ref pid d ipn → ipn.paymentStatus = st →
      Unpaid ref (step cfg db (.ipn d))) : ¬ Kept cfg ref pid db := by
  intro hkept
  obtain ⟨p, _, hp, -⟩ := hunpaid
  obtain ⟨ipn, hpid, hinv, hstatus, hsuff⟩ := exists_sufficient cfg hp pid st
  have hg : Genuine ref pid { body := some ipn } ipn :=
    ⟨rfl, rfl, hpid, hinv, hstatus ▸ hst, fun _ => rfl⟩
  exact (hno _ ipn hg hstatus).not_settled (hkept _ ipn hg hsuff [])

/-- A delivery that is swallowed loses the payment. -/
theorem not_kept_step {pid : Option String} {r : Request} (h : Sound ref db) (hne : ref ≠ "")
    (hpid : pid.getD ref = ref) (hlock : cfg.rowLockAccepted = true)
    (hr : ¬ NotSwallowed cfg ref db r) : ¬ Kept cfg ref pid (step cfg db r) := by
  cases r with
  | checkout c => exact absurd trivial hr
  | ipn d =>
    simp only [NotSwallowed, not_forall] at hr
    obtain ⟨ipn, hd, hf, hh⟩ := hr
    obtain ⟨st, hst, hkey⟩ := hf.settling
    have hopen : Open ref db := by
      refine h.openOrSettled.resolve_right ?_
      rintro ⟨p, _, _, hp, hc, -⟩
      have := hf.unpaid
      simp [hp, hc] at this
    obtain ⟨hunpaid, hfiled⟩ := receiveIPN_of_not_handled hlock hopen hf hh
    rw [step_ipn_of_ok hd]
    -- the event is on file: a delivery of the same status is a duplicate
    refine not_kept_of_unpaid hunpaid st hst fun d' ipn' hg hstatus => ?_
    obtain ⟨hd', href⟩ := hg.accepted hne hpid
    have hdup : ipn'.providerEventId = ipn.providerEventId := by
      rw [hkey, Ipn.providerEventId, href, hstatus]
    rw [step_ipn_of_ok hd', receiveIPN, if_neg (by simp [hg.faultless]),
      if_pos (by rw [hdup]; exact hfiled)]
    exact hunpaid

/-- **When no payment is lost.** After a checkout has opened a payment under a new gateway invoice
id, `Kept` holds in every state of a run of deliveries and checkouts exactly when the gateway names
the payment by the stored id, the database takes the settlement query, and no delivery of the run
puts a settling event of the unpaid payment on file without being handled. -/
theorem no_payment_lost_iff {reply : String × Id} (hgw : c.gateway = .payload ref url)
    (hnew : NewReference ref db) (hc : createInvoice cfg c db = (.ok reply, db'))
    (pid : Option String) (requests : List Request) :
    Throughout (step cfg) (Kept cfg ref pid) db' requests ↔
      (pid.getD ref = ref ∧ cfg.rowLockAccepted = true) ∧
        Along (step cfg) (NotSwallowed cfg ref) db' requests := by
  obtain ⟨hne, hopen⟩ := createInvoice_opens hgw hnew hc
  have hu : UniquePayments db' := by
    have hext : Extends db (createInvoice cfg c db).2 := createInvoice_extends
    rw [hc] at hext
    exact hext.unique hnew.unique
  by_cases hok : pid.getD ref = ref ∧ cfg.rowLockAccepted = true
  · obtain ⟨hpid, hlock⟩ := hok
    simp only [hpid, hlock, and_self, true_and]
    exact throughout_iff_along (J := Sound ref) (fun s hs => hs.kept hne hpid hlock)
      (fun s r hs hr => hs.after hlock hr) (fun s r hs hr => not_kept_step hs hne hpid hlock hr)
      ⟨hu, .inl hopen⟩
  · simp only [hok, false_and, iff_false]
    intro hthroughout
    -- already in the first state, no delivery can settle the payment
    refine not_kept_of_unpaid hopen.unpaid "finished" (by simp [settledStatuses])
      (fun d ipn hg hst => ?_) (hthroughout [] List.nil_prefix)
    cases hd : d.accepted with
    | error e => rw [step_ipn_of_error hd]; exact hopen.unpaid
    | ok ipn' =>
      have heq : ipn' = ipn := by
        simp only [Delivery.accepted, hg.signature, hg.body] at hd
        exact (Except.ok.inj (guard_ok hd).2).symm
      subst heq
      rw [step_ipn_of_ok hd]
      refine receiveIPN_effect.unpaid hu hopen.unpaid fun href _ => ?_
      have hpid : pid.getD ref = ref := by
        rw [← href, Ipn.gatewayPaymentRef, hg.paymentId, hg.invoiceId]
        cases pid with
        | none => rfl
        | some id => rfl
      simpa [hpid] using hok

end

/-! ## Runs of one payment -/

instance (ref : String) (db : Db) : Decidable (Settled ref db) :=
  decidable_of_iff (∃ p ∈ db.paymentOf ref, p.status = .completed ∧ ∃ id ∈ p.subscriptionId,
      ∃ s ∈ db.subscription id, s.status = .active) (by
    constructor
    · rintro ⟨p, hp, hc, id, hid, s, hs, hact⟩
      exact ⟨p, id, s, hp, hc, hid, hs, hact⟩
    · rintro ⟨p, id, s, hp, hc, hid, hs, hact⟩
      exact ⟨p, hp, hc, id, hid, s, hs, hact⟩)

instance (cfg : Config) (ref : String) (db : Db) (ipn : Ipn) :
    Decidable (Sufficient cfg ref db ipn) :=
  decidable_of_iff ((∃ vs ∈ (actualCandidates ipn.amounts).toOption, vs ≠ []) ∧
      ∃ p ∈ db.paymentOf ref, precheck cfg p (db.invoiceTotal p) ipn = .ok .proceed)
    (and_congr (by
      cases actualCandidates ipn.amounts with
      | error e => simp [Except.toOption]
      | ok vs => cases vs <;> simp [Except.toOption]) Iff.rfl)

instance (ref : String) (db : Db) (ipn : Ipn) (faults : IpnQuery → Bool) :
    Decidable (Files ref db ipn faults) :=
  decidable_of_iff (faults .insertEvent = false ∧
      (∃ st ∈ settledStatuses, ipn.providerEventId = eventKey ref st) ∧
      ipn.providerEventId ∉ db.events ∧
      (db.paymentOf ref).any (·.status == .completed) = false)
    ⟨fun ⟨h1, h2, h3, h4⟩ => ⟨h1, h2, h3, h4⟩, fun ⟨h1, h2, h3, h4⟩ => ⟨h1, h2, h3, h4⟩⟩

instance (cfg : Config) (ref : String) (db : Db) (ipn : Ipn) (faults : IpnQuery → Bool) :
    Decidable (Handled cfg ref db ipn faults) :=
  decidable_of_iff (ipn.gatewayPaymentRef = ref ∧ faults .loadPayment = false ∧
      verify cfg ipn db = .ok .proceed ∧ faults .connect = false ∧
      ((∀ q ∈ settlementQueries, faults q = false) ∨ faults .unmarkEvent = false))
    ⟨fun ⟨h1, h2, h3, h4, h5⟩ => ⟨h1, h2, h3, h4, h5⟩,
      fun ⟨h1, h2, h3, h4, h5⟩ => ⟨h1, h2, h3, h4, h5⟩⟩

instance (cfg : Config) (ref : String) (db : Db) (r : Request) :
    Decidable (NotSwallowed cfg ref db r) :=
  match r with
  | .checkout _ => isTrue trivial
  | .ipn d =>
    match hd : d.accepted with
    | .error _ => isTrue fun _ h => by rw [hd] at h; cases h
    | .ok ipn =>
      decidable_of_iff (Files ref db ipn d.faults → Handled cfg ref db ipn d.faults)
        ⟨fun h _ h' => by rw [hd] at h'; cases h'; exact h, fun h => h ipn hd⟩

/-- One plan, at 25 a month, and the checkout of user 7 for it. -/
def onePlan : Db := { plans := [{ id := 1, active := true, monthlyPrice := 25 }] }

/-- The first checkout of a user. -/
def firstCheckout : Checkout :=
  { userId := 7, planId := 1, newSubscriptionId := 20, newPaymentId := 40,
    invoice := some { id := 30, subscriptionId := 20, total := 25 },
    gateway := .payload "4522625843" "https://nowpayments.io/payment/?iid=4522625843" }

/-- A database that takes the settlement query, as PostgreSQL does not: `FOR UPDATE` reaches the
nullable side of its `LEFT JOIN`. With PostgreSQL no notification settles anything. -/
def lockingConfig : Config := { rowLockAccepted := true }

/-- The tables after it. -/
def afterCheckout : Db := (createInvoice lockingConfig firstCheckout onePlan).2

/-- A notification of the payment: status, and the amount paid. -/
def notification (status : String) (paid : ℚ) : Ipn :=
  { invoiceId := some "4522625843", paymentStatus := status, actuallyPaid := .number paid }

/-- A payment that is settled by the second delivery of a notification, after the lock of the first
timed out and the event was taken off the file. -/
theorem no_payment_lost_of_retry :
    Throughout (step lockingConfig) (Kept lockingConfig "4522625843" none) afterCheckout
      [.ipn { body := some (notification "waiting" 0) },
        .ipn { body := some (notification "finished" 25), faults := (· == .lockPayment) },
        .ipn { body := some (notification "finished" 25) }] := by
  have hnew : NewReference "4522625843" onePlan := ⟨List.nodup_nil, rfl, by decide⟩
  have hcheckout : createInvoice lockingConfig firstCheckout onePlan =
      (.ok ("https://nowpayments.io/payment/?iid=4522625843", 30), afterCheckout) := by
    decide +kernel
  refine (no_payment_lost_iff (c := firstCheckout) rfl hnew hcheckout none _).mpr ⟨⟨rfl, rfl⟩, ?_⟩
  refine ⟨?_, ?_, ?_, trivial⟩ <;> decide +kernel

/-- The delivery that reports the whole price. -/
def fullDelivery : Delivery := { body := some (notification "finished" 25) }

/-- After a first delivery the payment is not settled, and a delivery that reports the whole price
leaves it unsettled and is answered as a duplicate. -/
def Spoils (first : Delivery) : Prop :=
  let db := step lockingConfig afterCheckout (.ipn first)
  Sufficient lockingConfig "4522625843" db (notification "finished" 25) ∧
    ¬ Settled "4522625843" (step lockingConfig db (.ipn fullDelivery)) ∧
    (handleIPN lockingConfig fullDelivery db).1 = .ok .duplicate

theorem Spoils.not_kept {first : Delivery} (h : Spoils first) :
    ¬ Throughout (step lockingConfig) (Kept lockingConfig "4522625843" none) afterCheckout
      [.ipn first] := by
  intro hkept
  have hg : Genuine "4522625843" none fullDelivery (notification "finished" 25) :=
    ⟨rfl, rfl, rfl, rfl, by decide, fun _ => rfl⟩
  exact h.2.1 (hkept _ List.prefix_rfl _ _ hg h.1 [])

/-- The first report of half of the price. -/
def halfDelivery : Delivery := { body := some (notification "finished" (25 / 2)) }

/-- The first report of the price, with a text in the place of an amount. -/
def malformedDelivery : Delivery :=
  { body := some { notification "finished" 25 with pricePaid := .malformed } }

/-- The first report of the price, when no connection is to be had. -/
def disconnectedDelivery : Delivery :=
  { body := some (notification "finished" 25), faults := (· == .connect) }

/-- **A lost payment.** The first delivery reports half of the price, or a text in the place of an
amount, or comes when no connection is to be had. Its event stays on file, and the delivery that
reports the whole price is answered as a duplicate. -/
theorem sufficient_notification_is_duplicate :
    (¬ Throughout (step lockingConfig) (Kept lockingConfig "4522625843" none) afterCheckout
        [.ipn halfDelivery] ∧ Spoils halfDelivery) ∧
    (¬ Throughout (step lockingConfig) (Kept lockingConfig "4522625843" none) afterCheckout
        [.ipn malformedDelivery] ∧ Spoils malformedDelivery) ∧
    (¬ Throughout (step lockingConfig) (Kept lockingConfig "4522625843" none) afterCheckout
        [.ipn disconnectedDelivery] ∧ Spoils disconnectedDelivery) := by
  have hhalf : Spoils halfDelivery := by
    refine ⟨?_, ?_, ?_⟩ <;> decide +kernel
  have hmalformed : Spoils malformedDelivery := by
    refine ⟨?_, ?_, ?_⟩ <;> decide +kernel
  have hdisconnected : Spoils disconnectedDelivery := by
    refine ⟨?_, ?_, ?_⟩ <;> decide +kernel
  exact ⟨⟨hhalf.not_kept, hhalf⟩, ⟨hmalformed.not_kept, hmalformed⟩, hdisconnected.not_kept,
    hdisconnected⟩

end PredictATrade.Billing
