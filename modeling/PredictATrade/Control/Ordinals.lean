import PredictATrade.Control.System

/-!
# `Control.Ordinals` — the first purchase, the second, and the rest

The engine pays a purchase by its number: the first, the second, or a later one. What it computes from
the number it is given is right (`SoundEntry`, `calculate_sound`). The service that calls it gives the
number one to every payment, so a run of settled payments is credited by their true numbers
exactly as long as every payment that gets to the engine is its user's first (`credited_by_ordinal_iff`).
-/

namespace PredictATrade.Control
open Lib.Runs Lib.Decimal

/-! ## What the engine computes -/

namespace CommissionEngine

/-- The entry is one that the engine's maps give for the purchase. -/
structure SoundEntry (eng : CommissionEngine) (input : CommissionInput) (rule : PurchaseRule)
    (rates : List ℚ) (e : CommissionEntry) : Prop where
  purchaseType : e.purchaseType = classifyPurchaseType input.paymentNumber
  purchaseNumber : e.purchaseNumber = input.paymentNumber
  ruleOf : eng.purchaseRules e.purchaseType = some rule
  ratesOf : eng.baseRates input.planId = some rates
  level_pos : 1 ≤ e.level
  level_le : e.level ≤ rule.maxReferralLevel ∧ e.level ≤ input.sponsorChain.length ∧ e.level ≤ 5
  /-- The amount, in the arithmetic of the engine. -/
  amount : ∃ rate, rates[e.level - 1]? = some rate ∧
    e.commissionAmount = roundPlaces 2 (decMul (eligible input) (decMul rate rule.multiplier)) ∧
    -- where twenty digits hold the products, the amount is exact to the cent
    (decMul rate rule.multiplier = rate * rule.multiplier →
      decMul (eligible input) (rate * rule.multiplier) =
        eligible input * (rate * rule.multiplier) →
      e.commissionAmount = roundPlaces 2 (eligible input * (rate * rule.multiplier)))
  positive : 0 < e.commissionAmount

/-- What the result of a calculation looks like: the levels go up, nothing is paid for an event that
earns nothing, and every entry is sound. -/
structure SoundResult (eng : CommissionEngine) (now : Time) (input : CommissionInput) : Prop where
  increasing : ((eng.calculate now input).commissions.map (·.level)).Pairwise (· < ·)
  excluded : input.eventType.any excludedEvent = true →
    (eng.calculate now input).commissions = []
  noRule : eng.purchaseRules (classifyPurchaseType input.paymentNumber) = none →
    (eng.calculate now input).commissions = []
  entries : ∀ e ∈ (eng.calculate now input).commissions,
    ∃ rule rates, SoundEntry eng input rule rates e

section
variable {eng : CommissionEngine} {now : Time} {input : CommissionInput} {amount : ℚ}
  {purchaseType : PurchaseType} {rule : PurchaseRule} {baseRates : List ℚ}
  {planVersion level : ℕ} {e : CommissionEntry}

/-- What one pass of the loop computes. -/
theorem levelEntry_computes
    (h : levelEntry now input amount purchaseType rule baseRates planVersion level = some e) :
    e.purchaseType = purchaseType ∧ e.purchaseNumber = input.paymentNumber ∧
      ∃ rate, baseRates[level - 1]? = some rate ∧
        e.commissionAmount = roundPlaces 2 (decMul amount (decMul rate rule.multiplier)) := by
  unfold levelEntry at h
  split at h
  · rename_i recipient baseRate _ hrate
    by_cases h0 : baseRate = 0
    · simp [h0] at h
    · simp only [h0, if_false] at h
      split at h
      · cases h
      · cases h
        exact ⟨rfl, rfl, baseRate, hrate, rfl⟩
  · cases h

/-- The levels of the entries go up with the levels visited. -/
theorem filterMap_levelEntry_increasing {levels : List ℕ} (h : levels.Pairwise (· < ·)) :
    ((levels.filterMap
      (levelEntry now input amount purchaseType rule baseRates planVersion)).map (·.level)).Pairwise
        (· < ·) := by
  rw [List.pairwise_map, List.pairwise_filterMap]
  apply h.imp
  intro k l hkl e he e' he'
  rw [(levelEntry_some he).1, (levelEntry_some he').1]
  exact hkl

/-- A result is empty, or the loop ran with the rule of the purchase type and the rates of the
plan. -/
theorem calculate_rules (eng : CommissionEngine) (now : Time) (input : CommissionInput) :
    (eng.calculate now input).commissions = [] ∨
      ∃ rule baseRates, input.eventType.any excludedEvent = false ∧
        eng.purchaseRules (classifyPurchaseType input.paymentNumber) = some rule ∧
        eng.baseRates input.planId = some baseRates ∧
        (eng.calculate now input).commissions =
          (List.range' 1 (maxLevel rule input.sponsorChain)).filterMap
            (levelEntry now input (eligible input) (classifyPurchaseType input.paymentNumber) rule
              baseRates ((eng.ruleVersions input.planId).getD 1)) := by
  simp only [calculate]
  by_cases hevent : input.eventType.any excludedEvent = true
  · rw [if_pos hevent]; exact Or.inl rfl
  rw [if_neg hevent]
  split
  · exact Or.inl rfl
  split
  · rename_i rule baseRates hrule hrates
    exact Or.inr ⟨rule, baseRates, by simpa using hevent, hrule, hrates, rfl⟩
  · exact Or.inl rfl

/-- **What the engine computes is right**, for any maps and any purchase. -/
theorem calculate_sound (eng : CommissionEngine) (now : Time) (input : CommissionInput) :
    SoundResult eng now input := by
  rcases calculate_rules eng now input with hnil | ⟨rule, baseRates, hevent, hrule, hrates, hc⟩
  · refine ⟨?_, fun _ => hnil, fun _ => hnil, ?_⟩
    · rw [hnil]; exact List.Pairwise.nil
    · intro e he
      rw [hnil] at he
      cases he
  · refine ⟨?_, ?_, ?_, ?_⟩
    · rw [hc]
      exact filterMap_levelEntry_increasing List.pairwise_lt_range'
    · intro h; rw [hevent] at h; cases h
    · intro h; rw [hrule] at h; cases h
    · intro e he
      rw [hc] at he
      obtain ⟨level, hl, hentry⟩ := List.mem_filterMap.mp he
      obtain ⟨hl1, hl2⟩ := List.mem_range'_1.mp hl
      obtain ⟨hlevel, -, hpos, -⟩ := levelEntry_some hentry
      obtain ⟨htype, hnumber, rate, hrate, hamount⟩ := levelEntry_computes hentry
      have hmax : level ≤ maxLevel rule input.sponsorChain := by omega
      simp only [maxLevel, le_min_iff] at hmax
      refine ⟨rule, baseRates, htype, hnumber, htype ▸ hrule, hrates, hlevel ▸ hl1, hlevel ▸ hmax,
        ⟨rate, hlevel ▸ hrate, hamount, ?_⟩, hpos⟩
      intro hrateExact hamountExact
      rw [hamount, hrateExact, hamountExact]

end

end CommissionEngine

/-! ## Payments and their numbers -/

/-- The call credits a settled payment. -/
def CreditCall.settles (c : CreditCall) : Bool :=
  match c.idemKey with
  | .revenue _ => true
  | .license _ => false

/-- The tables, with the settled payments that have been credited so far: the user and the payment,
each once, earliest first. -/
structure CreditedBooks where
  db : Db
  settled : List (UserId × Id) := []

/-- The number of a payment among those of its user. -/
def CreditedBooks.ordinal (b : CreditedBooks) (c : CreditCall) : ℕ :=
  (b.settled.takeWhile (· != (c.sourceUserId, c.purchaseId))).countP (·.1 == c.sourceUserId) + 1

/-- The payments settled after a call: a redelivered one is not a new one. -/
def CreditedBooks.settle (b : CreditedBooks) : Call → List (UserId × Id)
  | .creditReferral c =>
    if c.settles && !b.settled.contains (c.sourceUserId, c.purchaseId) then
      b.settled ++ [(c.sourceUserId, c.purchaseId)]
    else b.settled
  | _ => b.settled

/-- The books after a call. -/
def CreditedBooks.step (b : CreditedBooks) (event : Time × Call) : CreditedBooks :=
  { db := Control.step b.db event, settled := b.settle event.2 }

/-- What `creditReferral` hands to the engine, unless it returns before. -/
def engineInput (now : Time) (c : CreditCall) (db : Db) : Option CommissionInput :=
  let chain := chainRows c.sourceUserId db
  if chain.isEmpty || planExcluded (planCode c.planId db) then none
  else (firstPurchaseRule now db).map fun _ => creditInput c (sponsorChainOf chain)

/-- The payment is credited by its number: the engine is told the number, and the entries are of its
purchase type. -/
def CreditedByOrdinal (b : CreditedBooks) (event : Time × Call) : Prop :=
  ∀ c, event.2 = .creditReferral c → c.settles = true →
    ∀ input, engineInput event.1 c b.db = some input →
      input.paymentNumber = b.ordinal c ∧
        ∀ e ∈ referralEntries event.1 c b.db,
          e.purchaseType = CommissionEngine.classifyPurchaseType (b.ordinal c)

/-- The payment is the first of its user, or there is nothing to ask the engine: no sponsor, a plan
that does not earn, or no first-purchase rule in force. -/
def FirstOrExempt (b : CreditedBooks) (event : Time × Call) : Prop :=
  ∀ c, event.2 = .creditReferral c → c.settles = true →
    b.ordinal c = 1 ∨ chainRows c.sourceUserId b.db = [] ∨
      planExcluded (planCode c.planId b.db) = true ∨ firstPurchaseRule event.1 b.db = none

section
variable {now : Time} {c : CreditCall} {db : Db} {input : CommissionInput}

/-- When a call does not get to the engine. -/
theorem engineInput_eq_none_iff :
    engineInput now c db = none ↔ chainRows c.sourceUserId db = [] ∨
      planExcluded (planCode c.planId db) = true ∨ firstPurchaseRule now db = none := by
  simp only [engineInput, Bool.or_eq_true, List.isEmpty_iff]
  split
  · rename_i h
    simpa only [true_iff, ← or_assoc] using Or.inl h
  · rename_i h
    rw [not_or] at h
    simp [h.1, h.2]

/-- The service gives the number one to every payment. -/
theorem engineInput_paymentNumber (h : engineInput now c db = some input) :
    input.paymentNumber = 1 := by
  simp only [engineInput] at h
  split at h
  · cases h
  · obtain ⟨rule, -, rfl⟩ := Option.map_eq_some_iff.mp h
    rfl

/-- What is credited is credited as a first purchase. -/
theorem referralEntries_purchaseType {e : CommissionEntry} (h : e ∈ referralEntries now c db) :
    e.purchaseType = .firstPurchase := by
  obtain ⟨eng, he⟩ := referralEntries_mem h
  obtain ⟨rule, rates, hsound⟩ := (CommissionEngine.calculate_sound eng now _).entries e he
  exact hsound.purchaseType

/-- **One call** is credited by its number exactly when it is a first payment, or exempt. -/
theorem creditedByOrdinal_iff (b : CreditedBooks) (event : Time × Call) :
    CreditedByOrdinal b event ↔ FirstOrExempt b event := by
  unfold CreditedByOrdinal FirstOrExempt
  refine forall₃_congr fun c _ _ => ?_
  rw [← engineInput_eq_none_iff]
  cases hinput : engineInput event.1 c b.db with
  | none => simp
  | some input =>
    simp only [Option.some.injEq, forall_eq', reduceCtorEq, or_false,
      engineInput_paymentNumber hinput]
    constructor
    · rintro ⟨h, -⟩
      exact h.symm
    · intro h
      refine ⟨h.symm, fun e he => ?_⟩
      rw [h]
      exact referralEntries_purchaseType he

end

/-- **Commissions, exactly.** Whatever the engine is given, its result is sound. And a run of calls, from
any tables and payments, credits every settled payment by its number if and only if each of them is
its user's first one, or earns nothing. -/
theorem credited_by_ordinal_iff (eng : CommissionEngine) (now : Time) (input : CommissionInput)
    (b : CreditedBooks) (events : List (Time × Call)) :
    CommissionEngine.SoundResult eng now input ∧
      (Along CreditedBooks.step CreditedByOrdinal b events ↔
        Along CreditedBooks.step FirstOrExempt b events) := by
  refine ⟨CommissionEngine.calculate_sound eng now input, ?_⟩
  exact along_congr (I := fun _ => True) (fun _ _ _ => trivial)
    (fun b event _ => creditedByOrdinal_iff b event) trivial

/-- User 10 pays twice. -/
def twoPayments : List (Time × Call) := [(10, thousandDollars 501), (20, thousandDollars 502)]

/-- **The second payment is credited as a first one.** Its number is two, and the engine is told one. -/
theorem second_payment_as_first :
    ¬ Along CreditedBooks.step CreditedByOrdinal ⟨programme, []⟩ twoPayments := by
  rintro ⟨-, hsecond, -⟩
  have hreached : (engineInput 20 ⟨10, 7, .revenue 502, 502, 1000, "USD"⟩
      (CreditedBooks.step ⟨programme, []⟩ (10, thousandDollars 501)).db).isSome = true := by decide +kernel
  obtain ⟨input, hinput⟩ := Option.isSome_iff_exists.mp hreached
  have hnumber := (hsecond _ rfl rfl input hinput).1
  rw [engineInput_paymentNumber hinput] at hnumber
  exact absurd hnumber (by decide +kernel)

end PredictATrade.Control
