import Mathlib.Data.List.Find
import PredictATrade.DeviceAuth.Provisioning
import PredictATrade.Billing.Periods

/-!
# `Billing.Coverage` — does the license last as long as the period that was paid for

A settlement gives its subscription a period of a month or a year, and after the commit
`ensureActiveLicenseForSubscription` sees to the license of the user. It never prolongs a license
that is ACTIVE, and gives any other thirty days from then on. `license_covers_period_iff` says when
there is a license afterwards that covers the period (`Books.Covered`): there was one before, or the
call gets as far as its write and what it writes is enough (`Provisioning.Extends`).

A license without an expiry does not expire, as `checkLicense` reads it.
-/

namespace PredictATrade.Billing
open Lib.Table Lib.Attempt Lib.Calendar
open DeviceAuth (days)
open DeviceAuth.Slots (Tables LicenseRow provision Provisions provisioned firstLicense
  existingLicense OnFile)

/-! ## Settlements of both providers -/

/-- A settlement: the reference that a notification of NOWPayments names, or what an event of Stripe
asks for. -/
inductive Settlement where
  | nowpayments (cfg : Config) (ref : String) (faults : IpnQuery → Bool)
  | stripe (uuid : String → Option Id) (w : Webhook) (req : StripeSettlement)

/-- The settlement, at a time. -/
def Settlement.run (now : Time) (s : Store) : Settlement → Except Failure Outcome × Store
  | .nowpayments cfg ref faults => transaction (settleIpn cfg ref faults now) s
  | .stripe uuid w req => s.settleStripe uuid w req now

/-- The columns of a subscription that no settlement writes. -/
def Subscription.kept (r : Subscription) : Id × UserId × Id × BillingInterval :=
  (r.id, r.userId, r.planId, r.billingInterval)

section
variable {st : Settlement} {now : Time} {s : Store} {out : Outcome} {id : Id} {p : Payment}

theorem settle_periods {sub : Subscription} (hid : p.subscriptionId = some id)
    (hsub : s.db.subscription id = some sub) :
    (s.settle p now).periods =
      Function.update s.periods id ⟨now, sub.billingInterval.after now⟩ := by
  have hrow : (s.db.settle p).subscription id =
      some (if p.subscriptionId == some sub.id then { sub with status := .active } else sub) := by
    rw [settle_subscription, hsub, Option.map_some]
  simp only [Store.settle, hid, Store.setPeriod, hrow]
  split_ifs <;> rfl

theorem activate_kept (q : Subscription → Bool) (rows : List Subscription) :
    (updateWhere q (fun r => { r with status := .active }) rows).map Subscription.kept =
      rows.map Subscription.kept :=
  map_updateWhere fun _ => rfl

/-- **A settlement leaves the subscriptions as they are**, but for their status. -/
theorem run_kept (st : Settlement) (now : Time) (s : Store) :
    (st.run now s).2.db.subscriptions.map Subscription.kept =
    s.db.subscriptions.map Subscription.kept := by
  cases st with
  | nowpayments cfg ref faults =>
      refine transaction_invariant (I := fun s' : Store =>
        s'.db.subscriptions.map Subscription.kept = s.db.subscriptions.map Subscription.kept) rfl ?_
      intro out s' hok
      cases hp : s.openPayment ref with
      | none =>
          obtain ⟨rfl, -⟩ := settleIpn_closed hp hok
          rfl
      | some p =>
          rw [settleIpn_open hp] at hok
          split at hok
          · cases hok
            rw [settle_db]
            exact activate_kept _ _
          · cases hok
  | stripe uuid w req =>
      rcases settleStripe_cases uuid w req now s with
        ⟨sub, s', -, hl, hrun⟩ | ⟨-, hsame, -⟩
      · show (s.settleStripe uuid w req now).2.db.subscriptions.map Subscription.kept = _
        rw [hrun, hl.subscriptions]
        exact activate_kept _ _
      · show (s.settleStripe uuid w req now).2.db.subscriptions.map Subscription.kept = _
        rw [hsame.subscriptions]

/-- **The period that a settlement sets** starts now; the license call is for its subscription. -/
theorem run_advanced (hok : (st.run now s).1 = .ok out) (hadv : out.advanced = some id) :
    ∃ sub, s.db.subscription id = some sub ∧
      (st.run now s).2.periods id = ⟨now, sub.billingInterval.after now⟩ ∧
      out.after.licenseFor = some id := by
  cases st with
  | nowpayments cfg ref faults =>
      have hok : (transaction (settleIpn cfg ref faults now) s).1 = .ok out := hok
      show ∃ sub, s.db.subscription id = some sub ∧
        (transaction (settleIpn cfg ref faults now) s).2.periods id = _ ∧ _
      cases hset : settleIpn cfg ref faults now s with
      | error e =>
          rw [transaction_of_error hset] at hok
          cases hok
      | ok r =>
          obtain ⟨out', s'⟩ := r
          rw [transaction_of_ok hset] at hok ⊢
          cases hok
          cases hp : s.openPayment ref with
          | none =>
              obtain ⟨-, -, hnone, -⟩ := settleIpn_closed hp hset
              rw [hadv] at hnone
              cases hnone
          | some p =>
              rw [settleIpn_open hp] at hset
              split at hset
              · cases hset
                obtain ⟨sub, hbind, hsid⟩ := Option.map_eq_some_iff.mp hadv
                obtain ⟨id', hid, hsub⟩ := Option.bind_eq_some_iff.mp hbind
                have hid' : sub.id = id' := by simpa using List.find?_some hsub
                obtain rfl : id' = id := hid'.symm.trans hsid
                exact ⟨sub, hsub, by rw [settle_periods hid hsub, Function.update_self], hid⟩
              · cases hset
  | stripe uuid w req =>
      rcases settleStripe_cases uuid w req now s with
        ⟨sub, s', hlands, hl, hrun⟩ | ⟨-, -, hnot⟩
      · have hok : (s.settleStripe uuid w req now).1 = .ok out := hok
        show ∃ sub, s.db.subscription id = some sub ∧
          (s.settleStripe uuid w req now).2.periods id = _ ∧ _
        rw [hrun] at hok ⊢
        cases hok
        cases hadv
        obtain ⟨id', -, hsub⟩ := Option.bind_eq_some_iff.mp hlands.subscription
        have hid : sub.id = id' := by simpa using List.find?_some hsub
        rw [← hid] at hsub
        refine ⟨sub, hsub, ?_, rfl⟩
        rw [hl.periods, Function.update_self]
      · have hok : (s.settleStripe uuid w req now).1 = .ok out := hok
        rcases hnot with hnot | ⟨e, hnot⟩
        · rw [hnot] at hok
          cases hok
          cases hadv
        · rw [hnot] at hok
          cases hok

end

/-! ## The books of both services -/

/-- The tables of billing and of licensing, and the plans. A subscription is for a plan on file. -/
structure Books where
  store : Store
  plans : List DeviceAuth.Slots.Plan
  tables : Tables
  planOnFile : ∀ r ∈ store.db.subscriptions.map Subscription.kept,
    plans.any (·.id == r.2.2.1) = true

/-- What the license call is made with, besides the subscription: the time of its statements, which
of them fail, and what it draws. -/
structure Provisioning where
  env : DeviceAuth.Slots.Env
  now : Time
  faults : ℕ → Bool := fun _ => false
  drawn : Id
  licenseKey : String

namespace Books

/-- The tables of billing, as the license call reads them. -/
def billing (b : Books) : DeviceAuth.Slots.Billing where
  plans := b.plans
  subscriptions := b.store.db.subscriptions.map fun r => ⟨r.id, r.userId, r.planId⟩

/-- A settlement. -/
def settle (st : Settlement) (now : Time) (b : Books) : Books where
  store := (st.run now b.store).2
  plans := b.plans
  tables := b.tables
  planOnFile := by
    rw [run_kept]
    exact b.planOnFile

/-- The license call after the commit. Its failure is logged. -/
def afterCommit (x : Provisioning) (after : AfterCommit) (b : Books) : Books :=
  match after.licenseFor with
  | none => b
  | some id =>
    { b with
      tables :=
        (provision x.env x.now b.billing x.faults id x.drawn x.licenseKey b.tables).1 }

/-- A settlement and what follows it. -/
def settled (st : Settlement) (now : Time) (x : Provisioning) (b : Books) : Books :=
  match (st.run now b.store).1 with
  | .error _ => b.settle st now
  | .ok out => (b.settle st now).afterCommit x out.after

end Books

/-- A license of the user for the subscription, ACTIVE and good until `finish`. -/
def Covers (userId : UserId) (id : Id) (finish : Time) (l : LicenseRow) : Prop :=
  l.userId = userId ∧ l.subscriptionId = some id ∧ l.status = .active ∧
    ∀ e ∈ l.expiresAt, finish ≤ e

instance (userId : UserId) (id : Id) (finish : Time) (l : LicenseRow) :
    Decidable (Covers userId id finish l) := by unfold Covers; infer_instance

/-- The user of the subscription has a license for it that covers its billing period. -/
def Books.Covered (b : Books) (id : Id) : Prop :=
  ∃ sub ∈ b.store.db.subscription id, ∃ l ∈ b.tables.licenses,
    Covers sub.userId id (b.store.periods id).finish l

instance (b : Books) (id : Id) : Decidable (b.Covered id) := by
  unfold Books.Covered
  infer_instance

/-- The license that the call looks at is good until `finish`, when it is ACTIVE; when it is not, it
is, or thirty days from now on are enough; and they are when there is no license. -/
def Provisioning.Lasts (x : Provisioning) (finish : Time) : Option LicenseRow → Prop
  | none => finish ≤ x.now + days 30
  | some l =>
    if l.status = .active then ∀ e ∈ l.expiresAt, finish ≤ e
    else (∃ e ∈ l.expiresAt, finish ≤ e) ∨ finish ≤ x.now + days 30

instance (x : Provisioning) (finish : Time) : ∀ l : Option LicenseRow, Decidable (x.Lasts finish l)
  | none => inferInstanceAs (Decidable (finish ≤ x.now + days 30))
  | some l =>
    inferInstanceAs (Decidable (if l.status = .active then ∀ e ∈ l.expiresAt, finish ≤ e
      else (∃ e ∈ l.expiresAt, finish ≤ e) ∨ finish ≤ x.now + days 30))

/-- A first license needs an id and a key that are new. -/
def Provisioning.Extends (x : Provisioning) (t : Tables) (userId : UserId) (finish : Time) : Prop :=
  (existingLicense t userId = none → t.hasLicense x.drawn x.licenseKey = false) ∧
    x.Lasts finish (existingLicense t userId)

instance (x : Provisioning) (t : Tables) (userId : UserId) (finish : Time) :
    Decidable (x.Extends t userId finish) := by unfold Provisioning.Extends; infer_instance

/-- The subscription, before the settlement, will be covered after it. -/
def Books.WillCover (b : Books) (now : Time) (x : Provisioning) (id : Id) : Prop :=
  ∃ sub ∈ b.store.db.subscription id,
    (∃ l ∈ b.tables.licenses, Covers sub.userId id (sub.billingInterval.after now) l) ∨
    Provisions x.env x.faults ∧
      x.Extends b.tables sub.userId (sub.billingInterval.after now)

instance (b : Books) (now : Time) (x : Provisioning) (id : Id) :
    Decidable (b.WillCover now x id) := by
  unfold Books.WillCover
  infer_instance

/-! ## When the period is covered -/

section
variable {b : Books} {st : Settlement} {now : Time} {x : Provisioning} {out : Outcome} {id : Id}
  {sub : Subscription} {t : Tables} {userId : UserId} {finish : Time}

theorem settle_billing (st : Settlement) (now : Time) : (b.settle st now).billing = b.billing := by
  have hrows : (st.run now b.store).2.db.subscriptions.map Subscription.kept =
      b.store.db.subscriptions.map Subscription.kept := run_kept st now b.store
  have hview := congrArg (List.map fun k : Id × UserId × Id × BillingInterval =>
    (⟨k.1, k.2.1, k.2.2.1⟩ : DeviceAuth.Slots.Subscription)) hrows
  rw [List.map_map, List.map_map] at hview
  simp only [Books.billing, Books.settle]
  exact congrArg _ hview

theorem subscription_kept {rows rows' : List Subscription}
    (h : rows'.map Subscription.kept = rows.map Subscription.kept)
    (hsub : rows.find? (fun r => r.id == id) = some sub) :
    ∃ sub', rows'.find? (fun r => r.id == id) = some sub' ∧ sub'.kept = sub.kept := by
  have hfind : (rows'.find? fun r => r.id == id).map Subscription.kept =
      (rows.find? fun r => r.id == id).map Subscription.kept := by
    have hcols := congrArg (List.find? fun k => k.1 == id) h
    rw [List.find?_map, List.find?_map] at hcols
    exact hcols
  rw [hsub, Option.map_some] at hfind
  exact Option.map_eq_some_iff.mp hfind

/-- The call finds the subscription, and its plan. -/
theorem Books.onFile (hsub : b.store.db.subscription id = some sub) :
    ∃ p, OnFile b.billing id ⟨sub.id, sub.userId, sub.planId⟩ p := by
  have hplans : ∀ r ∈ b.billing.subscriptions, b.billing.plans.any (·.id == r.planId) = true := by
    intro r hr
    obtain ⟨r', hr', rfl⟩ := List.mem_map.mp hr
    exact b.planOnFile r'.kept (List.mem_map_of_mem hr')
  have hfound : b.billing.subscriptions.find? (fun r => r.id == id) =
      some ⟨sub.id, sub.userId, sub.planId⟩ := by
    have hrow : b.store.db.subscriptions.find? (fun r => r.id == id) = some sub := hsub
    simp only [Books.billing, List.find?_map]
    exact congrArg (Option.map _) hrow
  have hmem : (⟨sub.id, sub.userId, sub.planId⟩ : DeviceAuth.Slots.Subscription) ∈
      b.billing.subscriptions := List.mem_of_find?_eq_some hfound
  obtain ⟨q, hq, hqid⟩ := List.any_eq_true.mp (hplans _ hmem)
  cases hp : b.billing.plans.find? (·.id == sub.planId) with
  | none => exact absurd hqid (List.find?_eq_none.mp hp q hq)
  | some p =>
      refine ⟨p, ?_, hp⟩
      rw [← hfound]
      refine List.find?_congr fun r hr => ?_
      rw [hplans r hr, Bool.and_true]

/-- The later of the expiry and thirty days from now on. -/
theorem le_greatest_iff (e : Option Time) (a : Time) :
    finish ≤ max (e.getD a) a ↔ (∃ b ∈ e, finish ≤ b) ∨ finish ≤ a := by
  cases e with
  | none => simp only [Option.getD_none, max_self, Option.not_mem_none, false_and, exists_false,
      false_or]
  | some b => simp only [Option.getD_some, le_max_iff, Option.mem_some_iff, exists_eq_left']

/-- The license that the call has rewritten covers the period when what there was before lasts. -/
theorem covers_provisioned {l : LicenseRow} (x : Provisioning) (id planId : Id) (finish : Time)
    (hl : existingLicense t userId = some l) :
    Covers userId id finish (provisioned x.now id planId l) ↔ x.Extends t userId finish := by
  obtain ⟨-, hu⟩ := DeviceAuth.Slots.existingLicense_mem hl
  simp only [Provisioning.Extends, Provisioning.Lasts, hl, reduceCtorEq, false_imp_iff, true_and]
  by_cases hact : l.status = .active
  · simp only [Covers, provisioned, hact, if_true, hu, true_and]
  · simp only [Covers, provisioned, hact, if_false, hu, true_and, Option.mem_some_iff, forall_eq',
      le_greatest_iff]

/-- **What the license call makes of the licenses**: the ones that cover the period still do, and
there is a new one when what the call writes is enough. -/
theorem covers_provision_iff {p : DeviceAuth.Slots.Plan} {r : DeviceAuth.Slots.Subscription}
    {billing : DeviceAuth.Slots.Billing} (hon : OnFile billing id r p) :
    (∃ l ∈ (provision x.env x.now billing x.faults id x.drawn x.licenseKey t).1.licenses,
      Covers r.userId id finish l) ↔
    (∃ l ∈ t.licenses, Covers r.userId id finish l) ∨
      Provisions x.env x.faults ∧ x.Extends t r.userId finish := by
  by_cases hprov : Provisions x.env x.faults
  swap
  · rw [DeviceAuth.Slots.provision_of_not hon hprov]
    exact (or_iff_left fun h => hprov h.1).symm
  rw [and_iff_right hprov]
  cases hl : existingLicense t r.userId with
  | none =>
      -- no license is the user's: only the new one can cover
      have hno : ¬ ∃ l ∈ t.licenses, Covers r.userId id finish l := by
        rintro ⟨l, hmem, hu, -⟩
        exact DeviceAuth.Slots.existingLicense_none hl hmem hu
      simp only [DeviceAuth.Slots.provision_first hon hprov hl, Provisioning.Extends,
        Provisioning.Lasts, hl, true_imp_iff]
      rw [or_iff_right hno]
      constructor
      · rintro ⟨l, hmem | ⟨hnew, rfl⟩, hc⟩
        · exact absurd ⟨l, hmem, hc⟩ hno
        · exact ⟨hnew, hc.2.2.2 _ rfl⟩
      · rintro ⟨hnew, hlate⟩
        refine ⟨_, Or.inr ⟨hnew, rfl⟩, rfl, rfl, rfl, ?_⟩
        rintro e ⟨⟩
        exact hlate
  | some l =>
      obtain ⟨hmem, -⟩ := DeviceAuth.Slots.existingLicense_mem hl
      have hrow := covers_provisioned x id p.id finish hl
      simp only [DeviceAuth.Slots.provision_existing hon hprov hl]
      rw [← hrow]
      constructor
      · rintro ⟨m, rfl | ⟨hm, -⟩, hc⟩
        · exact Or.inr hc
        · exact Or.inl ⟨m, hm, hc⟩
      · rintro (⟨m, hm, hc⟩ | hc)
        · by_cases hid : m.id = l.id
          · -- the license itself: it is ACTIVE, so its expiry stays
            obtain rfl := eq_of_key t.key hm hmem hid
            refine ⟨_, Or.inl rfl, hrow.mpr ?_⟩
            simp only [Provisioning.Extends, Provisioning.Lasts, hl, reduceCtorEq, false_imp_iff,
              true_and, hc.2.2.1, if_true]
            exact hc.2.2.2
          · exact ⟨m, Or.inr ⟨hm, hid⟩, hc⟩
        · exact ⟨_, Or.inl rfl, hc⟩

/-- **The period that a settlement sets is covered** exactly when a license covered it before, or
the license call gets as far as its write and writes enough. -/
theorem license_covers_period_iff (hok : (st.run now b.store).1 = .ok out)
    (hadv : out.advanced = some id) :
    (b.settled st now x).Covered id ↔ b.WillCover now x id := by
  obtain ⟨sub, hsub, hperiod, hlicense⟩ := run_advanced hok hadv
  obtain ⟨p, hon⟩ := Books.onFile hsub
  obtain ⟨sub', hsub', hkept⟩ := subscription_kept (run_kept st now b.store) hsub
  have hsettled : b.settled st now x =
      { b.settle st now with
        tables :=
          (provision x.env x.now b.billing x.faults id x.drawn x.licenseKey b.tables).1 } := by
    rw [← settle_billing st now]
    simp only [Books.settled, hok, Books.afterCommit, hlicense]
    rfl
  have huser : sub'.userId = sub.userId := congrArg (fun k => k.2.1) hkept
  have hfinish : ((st.run now b.store).2.periods id).finish = sub.billingInterval.after now := by
    rw [hperiod]
  have hcovered : (b.settled st now x).Covered id ↔
      ∃ l ∈ (provision x.env x.now b.billing x.faults id x.drawn x.licenseKey b.tables).1.licenses,
        Covers sub.userId id (sub.billingInterval.after now) l := by
    rw [hsettled, ← hfinish, ← huser]
    constructor
    · rintro ⟨r, hr, l, hl, hc⟩
      obtain rfl : r = sub' := Option.some.inj (hr.symm.trans hsub')
      exact ⟨l, hl, hc⟩
    · rintro ⟨l, hl, hc⟩
      exact ⟨sub', hsub', l, hl, hc⟩
  rw [hcovered]
  simp only [Books.WillCover, hsub, Option.mem_def, Option.some.injEq, exists_eq_left']
  exact covers_provision_iff hon

end

/-! ## A year, and a month of thirty days -/

/-- A subscription of user 7 and its invoice, before the first payment. -/
def firstSale (interval : BillingInterval) (payments : List Payment) : Books where
  store :=
    { db :=
        { subscriptions := [⟨1, 7, 3, .incomplete, interval⟩]
          invoices := [{ id := 9, subscriptionId := 1, total := 25 }]
          payments := payments } }
  plans := [{ id := 3 }]
  tables := { licenses := [], devices := [], key := List.nodup_nil, bound := by simp }
  planOnFile := by simp [Subscription.kept]

/-- The license call, at `now`. -/
def firstLicenseAt (now : Time) : Provisioning where
  env := { computeFingerprintHash := fun _ => "", plansHaveMaxDevices := true }
  now := now
  drawn := 50
  licenseKey := "PAT-50"

/-- The ids of the subscription and of the invoice, as texts. -/
def saleIds (text : String) : Option Id :=
  if text = "sub-1" then some 1 else if text = "inv-9" then some 9 else none

/-- A paid checkout session of the subscription. -/
def paidSession (event payment : String) : Webhook where
  timestamp := "1775779200"
  body := some
    { id := some event
      type := some "checkout.session.completed"
      object :=
        { id := some "cs_1", paymentIntent := some payment, paymentStatus := some "paid"
          clientReferenceId := some "sub-1", metadataInvoiceId := some "inv-9" } }
  newPaymentId := 30

/-- The settlement of a year by card. -/
def annualSale : Settlement :=
  .stripe saleIds (paidSession "evt_1" "pi_1") ⟨"sub-1", some "inv-9", "pi_1"⟩

/-- 10 April 2026, in milliseconds. -/
def tenthOfApril : Time := 1775779200000

/-- A year is paid for on 10 April 2026, and the license ends on 10 May. -/
theorem annualSale_not_covered :
    (annualSale.run tenthOfApril (firstSale .annual []).store).1 =
        .ok { completed := true, advanced := some 1, after := { licenseFor := some 1 } } ∧
      ¬ ((firstSale .annual []).settled annualSale tenthOfApril
        (firstLicenseAt tenthOfApril)).Covered 1 := by
  decide +kernel

/-- An open crypto payment for the subscription. -/
def openPayment30 : Payment :=
  { id := 30, userId := 7, subscriptionId := some 1, invoiceId := some 9,
    providerPaymentId := some "np-1", amount := 25 }

/-- A crypto payment settled by a database that takes the settlement query, as PostgreSQL does not. -/
def monthlySale : Settlement := .nowpayments { rowLockAccepted := true } "np-1" fun _ => false

/-- A month is paid for on 10 April, and the license ends with it. -/
theorem monthlySale_covered :
    ((firstSale .monthly [openPayment30]).settled monthlySale tenthOfApril
      (firstLicenseAt tenthOfApril)).Covered 1 := by
  have hok : (monthlySale.run tenthOfApril (firstSale .monthly [openPayment30]).store).1 =
      .ok { completed := true, advanced := some 1, after := ⟨some openPayment30, some 1⟩ } := by
    decide +kernel
  exact (license_covers_period_iff hok rfl).mpr (by decide +kernel)

end PredictATrade.Billing
