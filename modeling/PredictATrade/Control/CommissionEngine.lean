import PredictATrade.Control.Schema
import Mathlib.Data.List.Nodup

/-!
# `Control.CommissionEngine` — what a purchase earns each sponsor

The engine turns a purchase and the sponsor chain of its buyer into at most five commission
entries, one for each sponsor level. All arithmetic is `decimal.js` at 20 significant digits,
rounding half up (`roundSig 20`), and the amount of an entry is rounded to cents.

What the rest of the development uses of it: the levels of the entries are between one and five, and each
amount is positive and in cents (`calculate_amount`).
-/

namespace PredictATrade.Control
open Lib.Decimal

/-! ## Decimal operations -/

/-- `a.mul(b)` at the configured precision. -/
def decMul (a b : ℚ) : ℚ := roundSig 20 (a * b)

/-- `a.plus(b)` at the configured precision. -/
def decPlus (a b : ℚ) : ℚ := roundSig 20 (a + b)

/-- `a.minus(b)` at the configured precision. -/
def decMinus (a b : ℚ) : ℚ := roundSig 20 (a - b)

/-! ## Inputs and results -/

/-- The types of a commercial event. -/
inductive CommercialEventType where
  | freeRegistration | newSubscription | renewal | upgrade | downgrade | cancellation
  | reactivation | addOn | refund | partialRefund | chargeback | paymentFailed
  deriving DecidableEq, Repr

/-- A sponsor chain `[L1, L2, …]`; a level without a sponsor is a hole. -/
abbrev SponsorChain := List (Option UserId)

/-- What the commissions are calculated from. -/
structure CommissionInput where
  planId : Id
  commissionableAmount : ℚ
  paymentNumber : ℕ
  sponsorChain : SponsorChain
  sourceUserId : UserId
  sourceSubscriptionId : Option Id
  purchaseId : Id
  invoiceId : Option Id
  eventType : Option CommercialEventType := none
  eligibleAmount : Option ℚ := none
  deriving DecidableEq, Repr

/-- A commission rule as it stands in an entry. -/
structure CommissionRuleSnapshot where
  planId : Id
  level : ℕ
  baseRate : ℚ
  ruleVersion : ℕ
  deriving DecidableEq, Repr

/-- A purchase rule as it stands in an entry. -/
structure PurchaseRuleSnapshot where
  purchaseType : PurchaseType
  multiplier : ℚ
  maxReferralLevel : ℕ
  ruleVersion : ℕ
  deriving DecidableEq, Repr

/-- A commission that is to be credited. -/
structure CommissionEntry where
  recipientUserId : UserId
  sourceUserId : UserId
  sourceSubscriptionId : Option Id
  purchaseId : Id
  invoiceId : Option Id
  planId : Id
  planVersion : ℕ
  purchaseNumber : ℕ
  purchaseType : PurchaseType
  level : ℕ
  baseCommissionRate : ℚ
  purchaseMultiplier : ℚ
  effectiveCommissionRate : ℚ
  commissionableAmount : ℚ
  commissionAmount : ℚ
  currency : Currency
  status : CommissionStatus
  ruleSnapshot : CommissionRuleSnapshot
  purchaseRuleSnapshot : PurchaseRuleSnapshot
  createdAt : Time
  deriving DecidableEq, Repr

/-- What `calculate` returns. -/
structure CommissionResult where
  commissions : List CommissionEntry
  purchaseType : PurchaseType
  deriving DecidableEq, Repr

/-- A rule by the type of the purchase. -/
structure PurchaseRule where
  multiplier : ℚ
  maxReferralLevel : ℕ
  ruleVersion : ℕ
  deriving DecidableEq, Repr

/-- The engine's three maps. -/
structure CommissionEngine where
  baseRates : Id → Option (List ℚ) := fun _ => none
  purchaseRules : PurchaseType → Option PurchaseRule := fun _ => none
  ruleVersions : Id → Option ℕ := fun _ => none

namespace CommissionEngine

/-- `setBaseRates`. -/
def setBaseRates (eng : CommissionEngine) (planId : Id) (rates : List ℚ) : CommissionEngine :=
  { eng with
    baseRates := Function.update eng.baseRates planId (some rates)
    ruleVersions := Function.update eng.ruleVersions planId (some 1) }

/-- `setPurchaseRule`. -/
def setPurchaseRule (eng : CommissionEngine) (purchaseType : PurchaseType) (multiplier : ℚ)
    (maxReferralLevel : ℕ) : CommissionEngine :=
  { eng with
    purchaseRules := Function.update eng.purchaseRules purchaseType
      (some { multiplier := multiplier, maxReferralLevel := maxReferralLevel, ruleVersion := 1 }) }

/-- `classifyPurchaseType`. -/
def classifyPurchaseType (paymentNumber : ℕ) : PurchaseType :=
  if paymentNumber = 1 then .firstPurchase
  else if paymentNumber = 2 then .secondPurchase
  else .recurringPurchase

/-- The events that earn nothing, whatever the amount. -/
def excludedEvent : CommercialEventType → Bool
  | .freeRegistration | .refund | .partialRefund | .chargeback | .paymentFailed | .downgrade
  | .cancellation => true
  | _ => false

/-- One pass of the loop over levels: the entry of `level`, unless the pass is skipped. -/
def levelEntry (now : Time) (input : CommissionInput) (amount : ℚ) (purchaseType : PurchaseType)
    (rule : PurchaseRule) (baseRates : List ℚ) (planVersion level : ℕ) :
    Option CommissionEntry :=
  match (input.sponsorChain[level - 1]?).join, baseRates[level - 1]? with
  | some recipient, some baseRate =>
      if baseRate = 0 then none
      else
        let effectiveRate := decMul baseRate rule.multiplier
        let commissionAmount := roundPlaces 2 (decMul amount effectiveRate)
        if commissionAmount ≤ 0 then none
        else some
          { recipientUserId := recipient
            sourceUserId := input.sourceUserId
            sourceSubscriptionId := input.sourceSubscriptionId
            purchaseId := input.purchaseId
            invoiceId := input.invoiceId
            planId := input.planId
            planVersion := planVersion
            purchaseNumber := input.paymentNumber
            purchaseType := purchaseType
            level := level
            baseCommissionRate := baseRate
            purchaseMultiplier := rule.multiplier
            effectiveCommissionRate := effectiveRate
            commissionableAmount := amount
            commissionAmount := commissionAmount
            currency := "USD"
            status := .pending
            ruleSnapshot := ⟨input.planId, level, baseRate, planVersion⟩
            purchaseRuleSnapshot :=
              ⟨purchaseType, rule.multiplier, rule.maxReferralLevel, rule.ruleVersion⟩
            createdAt := now }
  | _, _ => none

/-- The last level the loop visits. -/
def maxLevel (rule : PurchaseRule) (chain : SponsorChain) : ℕ :=
  min rule.maxReferralLevel (min chain.length 5)

/-- `CommissionEngine.calculate`. -/
def calculate (eng : CommissionEngine) (now : Time) (input : CommissionInput) :
    CommissionResult :=
  let purchaseType := classifyPurchaseType input.paymentNumber
  let amount := input.eligibleAmount.getD input.commissionableAmount
  if input.eventType.any excludedEvent then ⟨[], purchaseType⟩
  else if amount ≤ 0 then ⟨[], purchaseType⟩
  else
    match eng.purchaseRules purchaseType, eng.baseRates input.planId with
    | some rule, some baseRates =>
        let planVersion := (eng.ruleVersions input.planId).getD 1
        ⟨(List.range' 1 (maxLevel rule input.sponsorChain)).filterMap
            (levelEntry now input amount purchaseType rule baseRates planVersion), purchaseType⟩
    | _, _ => ⟨[], purchaseType⟩

/-! ## What the entries look like -/

variable {eng : CommissionEngine} {now : Time} {input : CommissionInput} {amount : ℚ}
  {purchaseType : PurchaseType} {rule : PurchaseRule} {baseRates : List ℚ}
  {planVersion level : ℕ} {e : CommissionEntry}

/-- An entry is for the level of its pass and the purchase of its input, and its amount is a
positive number of cents. -/
theorem levelEntry_some
    (h : levelEntry now input amount purchaseType rule baseRates planVersion level = some e) :
    e.level = level ∧ e.purchaseId = input.purchaseId ∧ 0 < e.commissionAmount ∧
      HasPlaces 2 e.commissionAmount := by
  unfold levelEntry at h
  split at h
  · rename_i recipient baseRate _ _
    by_cases h0 : baseRate = 0
    · simp [h0] at h
    · simp only [h0, if_false] at h
      split at h
      · cases h
      · rename_i hpos
        cases h
        exact ⟨rfl, rfl, not_le.mp hpos, hasPlaces_roundPlaces 2 _⟩
  · cases h

/-- The amount the engine works with. -/
def eligible (input : CommissionInput) : ℚ :=
  input.eligibleAmount.getD input.commissionableAmount

/-- A result is empty, or it is what the loop over levels collected. -/
theorem calculate_cases (eng : CommissionEngine) (now : Time) (input : CommissionInput) :
    (eng.calculate now input).commissions = [] ∨
      ∃ rule baseRates, (eng.calculate now input).commissions =
        (List.range' 1 (maxLevel rule input.sponsorChain)).filterMap
          (levelEntry now input (eligible input) (classifyPurchaseType input.paymentNumber) rule
            baseRates ((eng.ruleVersions input.planId).getD 1)) := by
  simp only [calculate]
  split_ifs
  · exact Or.inl rfl
  · exact Or.inl rfl
  · split
    · rename_i rule baseRates _ _
      exact Or.inr ⟨rule, baseRates, rfl⟩
    · exact Or.inl rfl

/-- Every entry the engine returns is the entry of one of the levels up to `maxLevel`. -/
theorem calculate_mem (h : e ∈ (eng.calculate now input).commissions) :
    ∃ rule baseRates level, 1 ≤ level ∧ level ≤ maxLevel rule input.sponsorChain ∧
      levelEntry now input (eligible input) (classifyPurchaseType input.paymentNumber) rule
        baseRates ((eng.ruleVersions input.planId).getD 1) level = some e := by
  rcases calculate_cases eng now input with hc | ⟨rule, baseRates, hc⟩
  · rw [hc] at h; cases h
  · rw [hc] at h
    obtain ⟨level, hl, he⟩ := List.mem_filterMap.mp h
    obtain ⟨h1, h2⟩ := List.mem_range'_1.mp hl
    exact ⟨rule, baseRates, level, h1, by omega, he⟩

/-- The entries are for levels one to five. -/
theorem calculate_level (h : e ∈ (eng.calculate now input).commissions) :
    1 ≤ e.level ∧ e.level ≤ 5 := by
  obtain ⟨rule, baseRates, level, h1, h2, he⟩ := calculate_mem h
  obtain ⟨rfl, -⟩ := levelEntry_some he
  have hmax : maxLevel rule input.sponsorChain ≤ 5 :=
    le_trans (min_le_right _ _) (min_le_right _ _)
  exact ⟨h1, h2.trans hmax⟩

/-- **The amounts are positive and in cents.** -/
theorem calculate_amount (h : e ∈ (eng.calculate now input).commissions) :
    0 < e.commissionAmount ∧ HasPlaces 2 e.commissionAmount := by
  obtain ⟨_, _, _, _, _, he⟩ := calculate_mem h
  exact (levelEntry_some he).2.2

end CommissionEngine

end PredictATrade.Control
