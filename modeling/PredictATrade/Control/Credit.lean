import PredictATrade.Control.CommissionEngine
import PredictATrade.Lib.Runs
import Mathlib.Data.List.Sort

/-!
# `Control.Credit` — crediting a settled payment

`creditReferral` reads the sponsor chain, the plan and the rates, asks the engine for the entries,
and writes one ledger row per entry inside one transaction. Every row of the transaction carries the
*same* idempotency key, and that column has a unique index: the second row of a multi-level credit
always collides with the first, the transaction is rolled back, and the handler of the collision
reports the payment as already credited.

* `insertRows_ok`: the insert loop gets through only when there is at most one entry.
* `creditReferral_of_entries`: a call with something to credit gets to the transaction.
-/

namespace PredictATrade.Control
open Lib.Runs Lib.Attempt Lib.Decimal

/-! ## Arguments and results -/

/-- The arguments of `creditReferral`. -/
structure CreditCall where
  sourceUserId : UserId
  planId : Id
  idemKey : IdemKey
  purchaseId : Id
  commissionableAmount : ℚ
  currency : Currency
  deriving DecidableEq, Repr

/-- `skipped: 'free_plan_excluded'` and `skipped: true`. -/
inductive Skipped where
  | freePlanExcluded | duplicate
  deriving DecidableEq, Repr

/-- What a credit returns. -/
structure CreditResult where
  credited : ℕ
  skipped : Option Skipped := none
  deriving DecidableEq, Repr

/-! ## The reads -/

/-- The relationships of the buyer at levels one to five, in order of level. -/
def chainRows (user : UserId) (db : Db) : List Relationship :=
  (db.relationships.filter fun r => r.childUserId == user && 1 ≤ r.level && r.level ≤ 5).insertionSort
    fun a b => a.level ≤ b.level

/-- `xs[i] = a` on a sparse array: the array grows as needed, with holes in between. -/
def assign {α : Type} : List (Option α) → ℕ → α → List (Option α)
  | [], 0, a => [some a]
  | [], i + 1, a => none :: assign [] i a
  | _ :: xs, 0, a => some a :: xs
  | x :: xs, i + 1, a => x :: assign xs i a

/-- The chain of sponsors, by their levels. -/
def sponsorChainOf (chain : List Relationship) : SponsorChain :=
  chain.foldl (fun xs r => assign xs (r.level - 1) r.parentUserId) []

/-- The code of a plan. -/
def planCode (planId : Id) (db : Db) : Option String :=
  (db.plans.find? (·.id == planId)).map (·.code)

/-- `!planCode || planCode === 'FREE'`. -/
def planExcluded : Option String → Bool
  | none => true
  | some code => code == "" || code == "FREE"

/-- A rule in force: `active`, and `now()` within its effective dates. -/
def inForce (now : Time) (active : Bool) (from_ : Time) (until_ : Option Time) : Bool :=
  active && decide (from_ ≤ now) && until_.all (now ≤ ·)

/-- The first rule of each level, the latest effective one first. -/
def ratesByLevel (now : Time) (planId : Id) (db : Db) (level : ℕ) : Option CommissionRule :=
  ((db.commissionRules.filter fun r =>
      r.planId == planId && inForce now r.active r.effectiveFrom r.effectiveUntil).insertionSort
    fun a b => a.level < b.level ∨ (a.level = b.level ∧ b.effectiveFrom ≤ a.effectiveFrom)).find?
    (·.level == level)

/-- The first-purchase rule in force, the latest effective one. -/
def firstPurchaseRule (now : Time) (db : Db) : Option PurchaseCommissionRule :=
  ((db.purchaseRules.filter fun r => r.purchaseType == .firstPurchase &&
      inForce now r.active r.effectiveFrom r.effectiveUntil).insertionSort
    fun a b => b.effectiveFrom ≤ a.effectiveFrom).head?

/-- The engine with the rules of the tables. -/
def creditEngine (now : Time) (c : CreditCall) (purchaseRule : PurchaseCommissionRule) (db : Db) :
    CommissionEngine :=
  let baseRates := [1, 2, 3, 4, 5].map fun l =>
    ((ratesByLevel now c.planId db l).map (·.baseRate)).getD 0
  ((({} : CommissionEngine).setBaseRates c.planId baseRates).setPurchaseRule .firstPurchase
    purchaseRule.multiplier purchaseRule.maxReferralLevel)

/-- What the commissions of a call are calculated from. -/
def creditInput (c : CreditCall) (chain : SponsorChain) : CommissionInput :=
  { planId := c.planId
    commissionableAmount := c.commissionableAmount
    paymentNumber := 1
    sponsorChain := chain
    sourceUserId := c.sourceUserId
    sourceSubscriptionId := none
    purchaseId := c.purchaseId
    invoiceId := none
    eventType := some .newSubscription }

/-- The entries the engine computes for the call; none where `creditReferral` returns before it asks
the engine. -/
def referralEntries (now : Time) (c : CreditCall) (db : Db) : List CommissionEntry :=
  let chain := chainRows c.sourceUserId db
  if chain.isEmpty || planExcluded (planCode c.planId db) then []
  else
    match firstPurchaseRule now db with
    | none => []
    | some purchaseRule =>
        ((creditEngine now c purchaseRule db).calculate now
          (creditInput c (sponsorChainOf chain))).commissions

/-! ## The writes -/

/-- The ledger row written for an entry, with the rule ids read before the transaction began. -/
def creditRow (now : Time) (c : CreditCall) (db : Db) (e : CommissionEntry) : CommissionRow :=
  { id := db.nextId
    recipientUserId := e.recipientUserId
    sourceUserId := e.sourceUserId
    sourceSubscriptionId := e.sourceSubscriptionId
    purchaseId := some c.purchaseId
    invoiceId := e.invoiceId
    planId := e.planId
    planVersion := 1
    purchaseNumber := e.purchaseNumber
    purchaseType := e.purchaseType
    level := e.level
    baseCommissionRate := e.baseCommissionRate
    purchaseMultiplier := e.purchaseMultiplier
    effectiveCommissionRate := e.effectiveCommissionRate
    commissionableAmount := e.commissionableAmount
    commissionAmount := e.commissionAmount
    currency := e.currency
    status := .pending
    commissionRuleId := (ratesByLevel now c.planId db e.level).map (·.id)
    purchaseRuleId := (firstPurchaseRule now db).map (·.id)
    idempotencyKey := some c.idemKey
    clearedAt := none
    availableAt := none
    paidAt := none
    reversedAt := none
    reversalReason := none
    reversedBy := none
    createdAt := now
    updatedAt := now }

/-- The insert loop. -/
def insertRows : List CommissionRow → Db → Except PgError Db
  | [], db => .ok db
  | r :: rows, db => do insertRows rows (← db.insertCommission r)

/-- Some ledger row already has the call's idempotency key. -/
def keyOnFile (c : CreditCall) (db : Db) : Bool :=
  db.ledger.any (·.idempotencyKey == some c.idemKey)

/-- The transaction: the duplicate check, the inserts, the conversion event. -/
def creditTx (now : Time) (c : CreditCall) (entries : List CommissionEntry) (db : Db) :
    Except PgError (CreditResult × Db) :=
  if keyOnFile c db then .ok ({ credited := 0, skipped := some .duplicate }, db)
  else do
    let db' ← insertRows (entries.map (creditRow now c db)) db
    return ({ credited := entries.length },
      { db' with events := db'.events ++
          [{ eventType := .paidConversion
             referredUserId := c.sourceUserId
             referrerUserId := (sponsorChainOf (chainRows c.sourceUserId db)).head?.join
             paymentId := c.purchaseId
             planId := c.planId
             planCode := planCode c.planId db
             levels := some entries.length
             createdAt := now }] })

/-- The handler: a unique violation counts as a duplicate, any other error is thrown on. -/
def onConflict : Except PgError CreditResult × Db → Except PgError CreditResult × Db
  | (.error .uniqueViolation, db) => (.ok { credited := 0, skipped := some .duplicate }, db)
  | out => out

/-- The audit event of a referral that earns nothing. -/
def freeReferralEvent (now : Time) (c : CreditCall) (db : Db) : ReferralEvent :=
  { eventType := .freeReferralNoCommission
    referredUserId := c.sourceUserId
    referrerUserId := (chainRows c.sourceUserId db).head?.map (·.parentUserId)
    paymentId := c.purchaseId
    planId := c.planId
    planCode := planCode c.planId db
    levels := none
    createdAt := now }

/-- `CommissionsService.creditReferral`. -/
def creditReferral (now : Time) (c : CreditCall) (db : Db) : Except PgError CreditResult × Db :=
  if (chainRows c.sourceUserId db).isEmpty then (.ok { credited := 0 }, db)
  else if planExcluded (planCode c.planId db) then
    (.ok { credited := 0, skipped := some .freePlanExcluded },
      { db with events := db.events ++ [freeReferralEvent now c db] })
  else if (firstPurchaseRule now db).isNone then (.ok { credited := 0 }, db)
  else
    let commissions := referralEntries now c db
    if commissions.isEmpty then (.ok { credited := 0 }, db)
    else onConflict (transaction (creditTx now c commissions) db)

/-- `creditReferralForSettledRevenue`: the key is that of the settled payment. -/
def creditReferralForSettledRevenue (now : Time) (sourceUserId : UserId) (planId revenueRef : Id)
    (commissionableAmount : ℚ) (currency : Currency) (db : Db) :
    Except PgError CreditResult × Db :=
  creditReferral now ⟨sourceUserId, planId, .revenue revenueRef, revenueRef, commissionableAmount,
    currency⟩ db

/-- `creditReferralForLicense`: the key is that of the license. -/
def creditReferralForLicense (now : Time) (sourceUserId : UserId) (planId licenseId : Id)
    (commissionableAmount : ℚ) (currency : Currency) (db : Db) :
    Except PgError CreditResult × Db :=
  creditReferral now ⟨sourceUserId, planId, .license licenseId, licenseId, commissionableAmount,
    currency⟩ db

/-! ## What a call does -/

variable {now : Time} {c : CreditCall} {db db' : Db} {e : CommissionEntry}

theorem referralEntries_of_chain_nil (h : (chainRows c.sourceUserId db).isEmpty = true) :
    referralEntries now c db = [] := by
  simp only [referralEntries, h, Bool.true_or, if_true]

/-- The entries come from the engine, run on the purchase and its sponsor chain. -/
theorem referralEntries_mem (h : e ∈ referralEntries now c db) :
    ∃ eng : CommissionEngine, e ∈ (eng.calculate now
      (creditInput c (sponsorChainOf (chainRows c.sourceUserId db)))).commissions := by
  simp only [referralEntries] at h
  split at h
  · cases h
  · split at h
    · cases h
    · exact ⟨_, h⟩

/-- The row of an entry passes the table's checks. -/
theorem rowChecks_creditRow (h : e ∈ referralEntries now c db) (db' : Db) :
    rowChecks (storedRow (creditRow now c db' e)) = true := by
  obtain ⟨eng, he⟩ := referralEntries_mem h
  have hl := CommissionEngine.calculate_level he
  have ha := CommissionEngine.calculate_amount he
  have hnn : 0 ≤ roundPlaces 8 e.commissionAmount := roundPlaces_nonneg ha.1.le
  rw [rowChecks, Bool.and_eq_true, Bool.and_eq_true]
  exact ⟨⟨decide_eq_true hl.1, decide_eq_true hl.2⟩, decide_eq_true hnn⟩

/-- The amount of an entry is stored to the cent. -/
theorem storedRow_amount (h : e ∈ referralEntries now c db) (db' : Db) :
    (storedRow (creditRow now c db' e)).commissionAmount = e.commissionAmount := by
  obtain ⟨eng, he⟩ := referralEntries_mem h
  exact roundPlaces_of_hasPlaces ((CommissionEngine.calculate_amount he).2.mono 6)

/-- A row with the call's key collides exactly when the key is on file. -/
theorem any_keyConflict_creditRow (db' : Db) (ledger : List CommissionRow) :
    ledger.any (keyConflict (creditRow now c db' e)) =
      ledger.any (·.idempotencyKey == some c.idemKey) := by
  congr 1
  funext r
  simp only [keyConflict, creditRow, Option.isSome_some, Bool.true_and]
  exact Bool.beq_comm

/-- **The insert loop gets through at most one row.** A second row carries the key of the first. -/
theorem insertRows_ok {entries : List CommissionEntry}
    (h : insertRows (entries.map (creditRow now c db)) db' = .ok db'') : entries.length ≤ 1 := by
  match entries with
  | [] => exact Nat.zero_le 1
  | [_] => exact le_refl 1
  | e₁ :: e₂ :: rest =>
      exfalso
      obtain ⟨db₁, h₁, h⟩ := bind_ok h
      obtain ⟨db₂, h₂, -⟩ := bind_ok h
      -- after the first insert the key is on file
      have hkey : db₁.ledger.any (keyConflict (creditRow now c db e₂)) = true := by
        rcases insertCommission_cases (creditRow now c db e₁) db' with
          ⟨_, he⟩ | ⟨_, _, he⟩ | ⟨_, _, _, he⟩ | ⟨_, _, _, _, he⟩
        · rw [he] at h₁; cases h₁
        · rw [he] at h₁; cases h₁
        · rw [he] at h₁; cases h₁
        · rw [he] at h₁; cases h₁
          simp [keyConflict, creditRow, storedRow]
      -- so the second one cannot succeed
      rcases insertCommission_cases (creditRow now c db e₂) db₁ with
        ⟨_, he⟩ | ⟨_, _, he⟩ | ⟨_, _, _, he⟩ | ⟨_, _, _, hno, _⟩
      · rw [he] at h₂; cases h₂
      · rw [he] at h₂; cases h₂
      · rw [he] at h₂; cases h₂
      · rw [hno] at hkey; cases hkey

/-- The tables `creditReferral` reads its rates from. -/
def SameProgramme (db db' : Db) : Prop :=
  db'.relationships = db.relationships ∧ db'.plans = db.plans ∧
    db'.commissionRules = db.commissionRules ∧ db'.purchaseRules = db.purchaseRules

theorem referralEntries_congr (h : SameProgramme db db') (now : Time) (c : CreditCall) :
    referralEntries now c db' = referralEntries now c db := by
  obtain ⟨h1, h2, h3, h4⟩ := h
  have hchain : chainRows c.sourceUserId db' = chainRows c.sourceUserId db := by
    unfold chainRows; rw [h1]
  have hcode : planCode c.planId db' = planCode c.planId db := by unfold planCode; rw [h2]
  have hrates : ratesByLevel now c.planId db' = ratesByLevel now c.planId db := by
    funext l; unfold ratesByLevel; rw [h3]
  have hrule : firstPurchaseRule now db' = firstPurchaseRule now db := by
    unfold firstPurchaseRule; rw [h4]
  have heng : ∀ r, creditEngine now c r db' = creditEngine now c r db := by
    intro r; unfold creditEngine; rw [hrates]
  simp only [referralEntries, hchain, hcode, hrule, heng]

/-- A call with something to credit gets to the transaction. -/
theorem creditReferral_of_entries (h : referralEntries now c db ≠ []) :
    creditReferral now c db =
      onConflict (transaction (creditTx now c (referralEntries now c db)) db) := by
  have hchain : (chainRows c.sourceUserId db).isEmpty = false := by
    by_contra hc
    exact h (referralEntries_of_chain_nil (by simpa using hc))
  have hplan : planExcluded (planCode c.planId db) = false := by
    by_contra hc
    exact h (by simp only [referralEntries, hchain, Bool.not_eq_false] at hc ⊢; simp [hc])
  have hrule : (firstPurchaseRule now db).isNone = false := by
    by_contra hc
    have hn : firstPurchaseRule now db = none := by simpa using hc
    exact h (by simp [referralEntries, hchain, hplan, hn])
  have hne : (referralEntries now c db).isEmpty = false := by simpa using h
  simp only [creditReferral, hchain, hplan, hrule, hne, Bool.false_eq_true, if_false]

/-- A call with nothing to credit writes at most an audit event. -/
theorem creditReferral_of_nil (h : referralEntries now c db = []) :
    ∃ events, (creditReferral now c db).2 = { db with events := events } := by
  simp only [creditReferral, h, List.isEmpty_nil, if_true]
  split_ifs
  · exact ⟨_, rfl⟩
  · exact ⟨_, rfl⟩
  · exact ⟨_, rfl⟩
  · exact ⟨_, rfl⟩

end PredictATrade.Control
