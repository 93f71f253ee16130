import Mathlib.Data.List.AList
import Mathlib.Algebra.Order.Field.Rat
import Mathlib.Algebra.BigOperators.Group.List.Basic
import PredictATrade.Lib.Runs

/-!
# `Realtime.Hedging` — the counter, the limit and the exposure of the hedge manager

`EvaluateHedge` tests the limits and hands out a plan; `OpenHedge` registers a plan and tests nothing.
Between the two other plans may be opened, so a plan that was within the limits when it was made need
not be when it is opened. `bookkept_throughout_iff` says exactly which runs keep the books: each plan
is opened for a trade without a hedge, while there is one place left and room for its own size.

`EvaluateHedge` asks for less, even right before the opening: it compares the exposure without the
plan's size.

Exposures and sizes are exact: what `float64` rounds off the last place of a sum or a difference of
lots is not modelled.
-/

namespace PredictATrade.Realtime.Hedging

open Lib.Runs

/-! ## Data -/

/-- What the manager reads of its configuration. -/
structure Config where
  enabled : Bool := false
  minLossThreshold : ℚ := 1 / 2
  maxLossThreshold : ℚ := 3
  hedgeSizeCap : ℚ := 1 / 2
  maxSimultaneousHedges : ℤ := 2
  maxAggregateExposure : ℚ := 5
  maxHedgeDurationMin : ℤ := 120
  manipulationThreshold : ℚ := 70
  deriving DecidableEq, Repr

/-- The statuses of a hedge. -/
inductive Status where
  | opened | closedTP | closedSL | closedManual | closedAuto | expired
  deriving DecidableEq, Repr

/-- A hedge. -/
structure HedgePosition where
  originalTradeID : String
  hedgeTradeID : String
  accountID : String
  strategyID : String
  symbol : String
  originalDirection : String
  hedgeDirection : String
  originalSize : ℚ
  hedgeSize : ℚ
  originalEntry : ℚ
  hedgeEntry : ℚ
  reasonOpened : String
  status : Status
  openedAt : ℤ
  expiresAt : ℤ
  deriving DecidableEq, Repr

/-- What a hedge is asked for with. -/
structure HedgeRequest where
  accountID : String := ""
  strategyID : String := ""
  symbol : String := ""
  originalTradeID : String
  originalDirection : String := "BUY"
  originalSize : ℚ
  originalEntry : ℚ := 0
  currentPrice : ℚ := 0
  unrealizedLossPct : ℚ
  brokerSupportsHedge : Bool := true
  accountIsNetting : Bool := false
  licensePermitsTrade : Bool := true
  manipulationIndex : ℚ := 0
  marketDataFresh : Bool := true
  deriving DecidableEq, Repr

/-- The answer to a request. -/
structure HedgeResult where
  allowed : Bool
  reason : String
  hedge : Option HedgePosition := none
  deriving DecidableEq, Repr

/-- The manager, and the plans there are: a hedge is a pointer to a plan. -/
structure Manager where
  config : Config
  plans : List HedgePosition := []
  activeHedges : AList fun _ : String => ℕ := ∅
  hedgeCount : ℤ := 0

/-- `NewManager`. -/
def newManager (cfg : Config) : Manager := { config := cfg }

/-! ## Methods -/

/-- The size of the plan pointed to. -/
def Manager.sizeOf (m : Manager) (plan : ℕ) : ℚ := ((m.plans[plan]?).map (·.hedgeSize)).getD 0

/-- The sizes of some of the hedges, summed up. -/
def Manager.exposureOf (m : Manager) (hedges : List (Σ _ : String, ℕ)) : ℚ :=
  (hedges.map fun e => m.sizeOf e.2).sum

/-- `countAggregateExposure`. -/
def Manager.countAggregateExposure (m : Manager) : ℚ := m.exposureOf m.activeHedges.entries

/-- A request that is refused. -/
def refused (reason : String) : HedgeResult := { allowed := false, reason }

/-- `time.Duration(m.config.MaxHedgeDurationMin) * time.Minute`, as an `int64`. -/
def Config.maxHedgeDuration (cfg : Config) : ℤ := (cfg.maxHedgeDurationMin * 60000000000).bmod (2 ^ 64)

/-- `EvaluateHedge`, which reads the clock twice. -/
def Manager.evaluateHedge (m : Manager) (req : HedgeRequest) (now later : ℤ) : HedgeResult :=
  if !m.config.enabled then refused "Hedging is disabled"
  else if !req.brokerSupportsHedge then refused "Broker does not support hedging"
  else if req.accountIsNetting then refused "Account is netting mode — hedging incompatible"
  else if !req.licensePermitsTrade then refused "License does not permit trading"
  else if !req.marketDataFresh then refused "Market data is not fresh"
  else if req.originalTradeID = "" then refused "No original trade ID provided"
  else if (m.activeHedges.lookup req.originalTradeID).isSome then
    refused "Hedge already exists for this trade"
  else if m.config.maxSimultaneousHedges ≤ m.hedgeCount then
    refused "Max simultaneous hedges reached"
  else if req.unrealizedLossPct < m.config.minLossThreshold then
    refused "Loss below minimum threshold"
  else if m.config.maxLossThreshold < req.unrealizedLossPct then
    refused "Loss exceeds maximum threshold — too risky to hedge"
  else if m.config.manipulationThreshold < req.manipulationIndex then
    refused "Manipulation index too high for hedging"
  else if m.config.maxAggregateExposure ≤ m.countAggregateExposure then
    refused "Aggregate exposure limit reached"
  else
    let capped := req.originalSize * m.config.hedgeSizeCap
    let hedge : HedgePosition :=
      { originalTradeID := req.originalTradeID
        hedgeTradeID := req.originalTradeID ++ "_HEDGE"
        accountID := req.accountID
        strategyID := req.strategyID
        symbol := req.symbol
        originalDirection := req.originalDirection
        hedgeDirection := if req.originalDirection = "SELL" then "BUY" else "SELL"
        originalSize := req.originalSize
        hedgeSize := if req.originalSize < capped then req.originalSize else capped
        originalEntry := req.originalEntry
        hedgeEntry := req.currentPrice
        reasonOpened := "Controlled hedge: unrealized loss protection"
        status := .opened
        openedAt := now
        expiresAt := later + m.config.maxHedgeDuration }
    { allowed := true, reason := "Hedge approved", hedge := some hedge }

/-- The caller keeps the plan of an evaluation. -/
def Manager.keep (m : Manager) (res : HedgeResult) : Manager :=
  { m with plans := m.plans ++ res.hedge.toList }

/-- `OpenHedge`. -/
def Manager.openHedge (m : Manager) (plan : ℕ) : Manager :=
  match m.plans[plan]? with
  | none => m
  | some hedge =>
    { m with
      activeHedges := m.activeHedges.insert hedge.originalTradeID plan
      hedgeCount := m.hedgeCount + 1 }

/-- The manager with another status of a plan. -/
def Manager.setStatus (m : Manager) (plan : ℕ) (status : Status) : Manager :=
  { m with plans := m.plans.modify plan fun h => { h with status } }

/-- The status of a hedge that was closed for this reason. -/
def closeStatus (reason : String) : Status :=
  if reason = "TP" then .closedTP
  else if reason = "SL" then .closedSL
  else if reason = "AUTO" then .closedAuto
  else .closedManual

/-- `CloseHedge`. -/
def Manager.closeHedge (m : Manager) (originalTradeID reason : String) :
    Option HedgePosition × Manager :=
  match m.activeHedges.lookup originalTradeID with
  | none => (none, m)
  | some plan =>
    let m := m.setStatus plan (closeStatus reason)
    (m.plans[plan]?,
      { m with
        activeHedges := m.activeHedges.erase originalTradeID
        hedgeCount := m.hedgeCount - 1 })

/-- Is the hedge past its time? -/
def Manager.isExpired (m : Manager) (now : ℤ) (e : Σ _ : String, ℕ) : Bool :=
  (m.plans[e.2]?).any fun h => decide (h.expiresAt < now)

/-- The hedges that are not past their time. -/
def Manager.unexpired (m : Manager) (now : ℤ) : AList fun _ : String => ℕ where
  entries := m.activeHedges.entries.filter fun e => !m.isExpired now e
  nodupKeys := m.activeHedges.nodupKeys.sublist List.filter_sublist

/-- `CheckExpiredHedges`. -/
def Manager.checkExpiredHedges (m : Manager) (now : ℤ) : List String × Manager :=
  let expired := m.activeHedges.entries.filter (m.isExpired now)
  let marked := expired.foldl (fun m e => m.setStatus e.2 .expired) m
  (expired.map (·.1),
    { marked with
      activeHedges := m.unexpired now
      hedgeCount := m.hedgeCount - expired.length })

/-! ## Runs -/

/-- The calls. A plan is opened by its number, at any time after the evaluation, and as often as one
likes. -/
inductive Call where
  | evaluateHedge (req : HedgeRequest) (now later : ℤ)
  | openHedge (plan : ℕ)
  | closeHedge (originalTradeID reason : String)
  | checkExpiredHedges (now : ℤ)

/-- The manager after a call. -/
def step (m : Manager) : Call → Manager
  | .evaluateHedge req now later => m.keep (m.evaluateHedge req now later)
  | .openHedge plan => m.openHedge plan
  | .closeHedge originalTradeID reason => (m.closeHedge originalTradeID reason).2
  | .checkExpiredHedges now => (m.checkExpiredHedges now).2

/-- The counter is the number of active hedges, and both limits are kept. -/
structure Bookkept (m : Manager) : Prop where
  count : m.hedgeCount = m.activeHedges.entries.length
  simultaneous : (m.activeHedges.entries.length : ℤ) ≤ m.config.maxSimultaneousHedges
  exposure : m.countAggregateExposure ≤ m.config.maxAggregateExposure

instance (m : Manager) : Decidable (Bookkept m) :=
  decidable_of_iff (m.hedgeCount = m.activeHedges.entries.length ∧
      (m.activeHedges.entries.length : ℤ) ≤ m.config.maxSimultaneousHedges ∧
      m.countAggregateExposure ≤ m.config.maxAggregateExposure)
    ⟨fun h => ⟨h.1, h.2.1, h.2.2⟩, fun h => ⟨h.count, h.simultaneous, h.exposure⟩⟩

/-- The plan is for a trade without a hedge, and there is a place and room for it. -/
structure Manager.Admits (m : Manager) (hedge : HedgePosition) : Prop where
  free : hedge.originalTradeID ∉ m.activeHedges
  place : (m.activeHedges.entries.length : ℤ) < m.config.maxSimultaneousHedges
  room : hedge.hedgeSize + m.countAggregateExposure ≤ m.config.maxAggregateExposure

/-- When a call keeps the books. What a close and an expiry leave fits of itself, unless a size is
negative. -/
def Keeps (m : Manager) : Call → Prop
  | .evaluateHedge .. => True
  | .openHedge plan => ∀ hedge, m.plans[plan]? = some hedge → m.Admits hedge
  | .closeHedge originalTradeID _ =>
    m.exposureOf (m.activeHedges.erase originalTradeID).entries ≤ m.config.maxAggregateExposure
  | .checkExpiredHedges now =>
    m.exposureOf (m.unexpired now).entries ≤ m.config.maxAggregateExposure

/-- Each active hedge points to a plan. -/
def Manager.Pointed (m : Manager) : Prop := ∀ e ∈ m.activeHedges.entries, e.2 < m.plans.length

variable {m : Manager}

/-! ## Sizes -/

/-- A new plan does not change the exposure of the hedges there are. -/
theorem exposureOf_keep (res : HedgeResult) {hedges : List (Σ _ : String, ℕ)}
    (h : ∀ e ∈ hedges, e.2 < m.plans.length) :
    (m.keep res).exposureOf hedges = m.exposureOf hedges := by
  unfold Manager.exposureOf
  refine congrArg List.sum (List.map_congr_left fun e he => ?_)
  unfold Manager.sizeOf Manager.keep
  rw [List.getElem?_append_left (h e he)]

/-- Neither does a new status. -/
@[simp] theorem sizeOf_setStatus (plan : ℕ) (status : Status) (i : ℕ) :
    (m.setStatus plan status).sizeOf i = m.sizeOf i := by
  unfold Manager.sizeOf Manager.setStatus
  rw [List.getElem?_modify]
  cases m.plans[i]? with
  | none => rfl
  | some h => by_cases hi : plan = i <;> simp [hi]

@[simp] theorem length_setStatus (plan : ℕ) (status : Status) :
    (m.setStatus plan status).plans.length = m.plans.length := List.length_modify ..

/-- Marking hedges changes statuses only. -/
theorem marked_spec (marks : List (Σ _ : String, ℕ)) :
    (marks.foldl (fun m e => m.setStatus e.2 .expired) m).plans.length = m.plans.length ∧
      (∀ i, (marks.foldl (fun m e => m.setStatus e.2 .expired) m).sizeOf i = m.sizeOf i) ∧
      (marks.foldl (fun m e => m.setStatus e.2 .expired) m).config = m.config := by
  induction marks generalizing m with
  | nil => exact ⟨rfl, fun _ => rfl, rfl⟩
  | cons e marks ih =>
      rw [List.foldl_cons]
      obtain ⟨hlen, hsize, hcfg⟩ := ih (m := m.setStatus e.2 .expired)
      refine ⟨hlen.trans (length_setStatus ..), ?_, hcfg⟩
      intro i
      rw [hsize, sizeOf_setStatus]

theorem exposureOf_congr {m' : Manager} (h : ∀ i, m'.sizeOf i = m.sizeOf i)
    (hedges : List (Σ _ : String, ℕ)) : m'.exposureOf hedges = m.exposureOf hedges := by
  unfold Manager.exposureOf
  rw [funext fun e : Σ _ : String, ℕ => h e.2]

/-- Taking a hedge off leaves one less. -/
theorem length_erase {id : String} (h : id ∈ m.activeHedges) :
    (m.activeHedges.erase id).entries.length + 1 = m.activeHedges.entries.length := by
  have hkeys : ∀ s : AList fun _ : String => ℕ, s.entries.length = s.keys.length := by
    intro s
    exact (List.length_map ..).symm
  have hmem : id ∈ m.activeHedges.keys := AList.mem_keys.mp h
  have hpos : 0 < m.activeHedges.keys.length := List.length_pos_of_mem hmem
  rw [hkeys, hkeys, AList.keys_erase, List.length_erase_of_mem hmem]
  omega

/-! ## Calls -/

theorem Manager.Pointed.evaluateHedge (h : m.Pointed) (res : HedgeResult) : (m.keep res).Pointed := by
  intro e he
  show e.2 < (m.plans ++ _).length
  rw [List.length_append]
  exact Nat.lt_of_lt_of_le (h e he) (Nat.le_add_right _ _)

/-- An evaluation leaves the books as they are. -/
theorem Bookkept.evaluateHedge (hb : Bookkept m) (h : m.Pointed) (res : HedgeResult) :
    Bookkept (m.keep res) where
  count := hb.count
  simultaneous := hb.simultaneous
  exposure := by
    show (m.keep res).exposureOf m.activeHedges.entries ≤ _
    rw [exposureOf_keep res h]
    exact hb.exposure

theorem Manager.Pointed.openHedge (h : m.Pointed) (plan : ℕ) : (m.openHedge plan).Pointed := by
  unfold Manager.openHedge
  split
  · exact h
  · rename_i hedge hplan
    intro e he
    rw [AList.entries_insert] at he
    rcases List.mem_cons.mp he with rfl | he
    · exact (List.getElem?_eq_some_iff.mp hplan).1
    · exact h e ((List.kerase_sublist _ _).subset he)

/-- **Opening a plan** keeps the books exactly when it is admitted. -/
theorem bookkept_openHedge_iff (hb : Bookkept m) {plan : ℕ} {hedge : HedgePosition}
    (hplan : m.plans[plan]? = some hedge) : Bookkept (m.openHedge plan) ↔ m.Admits hedge := by
  have hopen : m.openHedge plan =
      { m with
        activeHedges := m.activeHedges.insert hedge.originalTradeID plan
        hedgeCount := m.hedgeCount + 1 } := by
    unfold Manager.openHedge
    rw [hplan]
  have hsize : m.sizeOf plan = hedge.hedgeSize := by
    unfold Manager.sizeOf
    rw [hplan]
    rfl
  rw [hopen]
  by_cases hfree : hedge.originalTradeID ∈ m.activeHedges
  · -- the new hedge takes the place of the old one, and yet it is counted
    have hlen : (m.activeHedges.insert hedge.originalTradeID plan).entries.length =
        m.activeHedges.entries.length := by
      rw [AList.entries_insert, List.length_cons]
      exact length_erase hfree
    constructor
    · intro h
      have hcount := h.count
      dsimp only at hcount
      rw [hlen, hb.count] at hcount
      omega
    · intro h
      exact absurd hfree h.free
  · -- one hedge more, with its size
    have hentries : (m.activeHedges.insert hedge.originalTradeID plan).entries =
        ⟨hedge.originalTradeID, plan⟩ :: m.activeHedges.entries :=
      AList.entries_insert_of_notMem hfree
    have hexp : m.exposureOf (m.activeHedges.insert hedge.originalTradeID plan).entries =
        hedge.hedgeSize + m.countAggregateExposure := by
      rw [hentries, ← hsize]
      rfl
    constructor
    · intro h
      refine ⟨hfree, ?_, ?_⟩
      · have hlen := h.simultaneous
        dsimp only at hlen
        rw [hentries, List.length_cons] at hlen
        omega
      · rw [← hexp]
        exact h.exposure
    · intro h
      have hplace := h.place
      refine ⟨?_, ?_, ?_⟩
      · dsimp only
        rw [hentries, List.length_cons, hb.count]
        omega
      · dsimp only
        rw [hentries, List.length_cons]
        omega
      · show m.exposureOf _ ≤ _
        rw [hexp]
        exact h.room

theorem Manager.Pointed.closeHedge (h : m.Pointed) (id reason : String) :
    (m.closeHedge id reason).2.Pointed := by
  unfold Manager.closeHedge
  split
  · exact h
  · intro e he
    show e.2 < (m.setStatus _ _).plans.length
    rw [length_setStatus]
    exact h e ((List.kerase_sublist _ _).subset he)

/-- **Closing a hedge** keeps the books exactly when the others fit. -/
theorem bookkept_closeHedge_iff (hb : Bookkept m) (id reason : String) :
    Bookkept (m.closeHedge id reason).2 ↔
      m.exposureOf (m.activeHedges.erase id).entries ≤ m.config.maxAggregateExposure := by
  unfold Manager.closeHedge
  split
  · rename_i hnone
    -- there is no such hedge, and the others are all there are
    have hall : (m.activeHedges.erase id).entries = m.activeHedges.entries :=
      List.kerase_of_notMem_keys (AList.lookup_eq_none.mp hnone)
    rw [hall]
    exact iff_of_true hb hb.exposure
  · rename_i plan hplan
    have hmem : id ∈ m.activeHedges := AList.lookup_isSome.mp (Option.isSome_of_eq_some hplan)
    have hlen := length_erase hmem
    have hexp : (m.setStatus plan (closeStatus reason)).exposureOf (m.activeHedges.erase id).entries =
        m.exposureOf (m.activeHedges.erase id).entries :=
      exposureOf_congr (fun i => sizeOf_setStatus plan (closeStatus reason) i) _
    rw [← hexp]
    constructor
    · intro h
      exact h.exposure
    · intro h
      have hcount := hb.count
      have hmax := hb.simultaneous
      refine ⟨?_, ?_, h⟩
      · show m.hedgeCount - 1 = ((m.activeHedges.erase id).entries.length : ℤ)
        omega
      · show ((m.activeHedges.erase id).entries.length : ℤ) ≤ m.config.maxSimultaneousHedges
        omega

theorem Manager.Pointed.checkExpiredHedges (h : m.Pointed) (now : ℤ) :
    (m.checkExpiredHedges now).2.Pointed := by
  intro e he
  show e.2 < (List.foldl _ m _).plans.length
  rw [(marked_spec _).1]
  exact h e (List.mem_of_mem_filter he)

/-- **Expiry** keeps the books exactly when the hedges that stay fit. -/
theorem bookkept_checkExpiredHedges_iff (hb : Bookkept m) (now : ℤ) :
    Bookkept (m.checkExpiredHedges now).2 ↔
      m.exposureOf (m.unexpired now).entries ≤ m.config.maxAggregateExposure := by
  obtain ⟨-, hsize, hcfg⟩ := marked_spec (m := m) (m.activeHedges.entries.filter (m.isExpired now))
  have hexp := exposureOf_congr hsize (m.unexpired now).entries
  -- the expired hedges and the others are all there were
  have hsplit : (m.activeHedges.entries.filter (m.isExpired now)).length +
      (m.unexpired now).entries.length = m.activeHedges.entries.length :=
    (List.length_eq_length_filter_add _).symm
  rw [← hexp, ← hcfg]
  constructor
  · intro h
    exact h.exposure
  · intro h
    have hcount := hb.count
    have hmax := hb.simultaneous
    refine ⟨?_, ?_, h⟩
    · show m.hedgeCount - ((m.activeHedges.entries.filter (m.isExpired now)).length : ℤ) =
        ((m.unexpired now).entries.length : ℤ)
      omega
    · show ((m.unexpired now).entries.length : ℤ) ≤ (List.foldl _ m _).config.maxSimultaneousHedges
      rw [hcfg]
      omega

/-! ## Runs -/

/-- The step lemma: from good books, a call keeps them exactly when `Keeps` says so. -/
theorem step_iff (hb : Bookkept m) (hp : m.Pointed) (c : Call) :
    Bookkept (step m c) ↔ Keeps m c := by
  cases c with
  | evaluateHedge req now later => exact iff_of_true (hb.evaluateHedge hp _) trivial
  | openHedge plan =>
      cases hplan : m.plans[plan]? with
      | none =>
          -- there is no such plan
          have hstay : m.openHedge plan = m := by
            unfold Manager.openHedge
            rw [hplan]
          show Bookkept (m.openHedge plan) ↔ ∀ hedge, m.plans[plan]? = some hedge → _
          rw [hstay, hplan]
          exact iff_of_true hb fun _ h => nomatch h
      | some hedge =>
          show Bookkept (m.openHedge plan) ↔ ∀ hedge, m.plans[plan]? = some hedge → _
          rw [bookkept_openHedge_iff hb hplan, hplan]
          constructor
          · rintro h _ ⟨⟩
            exact h
          · intro h
            exact h hedge rfl
  | closeHedge id reason => exact bookkept_closeHedge_iff hb id reason
  | checkExpiredHedges now => exact bookkept_checkExpiredHedges_iff hb now

/-- **Step.** The open hedges point to their plans. -/
theorem step_pointed (hp : m.Pointed) (c : Call) : (step m c).Pointed := by
  cases c with
  | evaluateHedge req now later => exact hp.evaluateHedge _
  | openHedge plan => exact hp.openHedge plan
  | closeHedge id reason => exact hp.closeHedge id reason
  | checkExpiredHedges now => exact hp.checkExpiredHedges now

/-- A new manager has no hedges. -/
theorem bookkept_newManager_iff (cfg : Config) :
    Bookkept (newManager cfg) ↔ 0 ≤ cfg.maxSimultaneousHedges ∧ 0 ≤ cfg.maxAggregateExposure := by
  constructor
  · intro h
    exact ⟨h.simultaneous, h.exposure⟩
  · rintro ⟨hmax, hexp⟩
    exact ⟨rfl, hmax, hexp⟩

/-- **Hedge bookkeeping.** The counter is right and both limits are kept in every state of a run
exactly when the limits are not negative and each call of the run keeps the books. -/
theorem bookkept_throughout_iff (cfg : Config) (calls : List Call) :
    Throughout step Bookkept (newManager cfg) calls ↔
      (0 ≤ cfg.maxSimultaneousHedges ∧ 0 ≤ cfg.maxAggregateExposure) ∧
        Along step Keeps (newManager cfg) calls := by
  rw [← bookkept_newManager_iff]
  have hp : (newManager cfg).Pointed := fun _ h => nomatch h
  refine throughout_iff (J := Manager.Pointed) ?_ ?_ hp
  · intro m c h
    exact step_pointed h c
  · intro m c h hb
    exact step_iff hb h c

/-- A trade that has lost one percent. -/
def request (id : String) (size : ℚ) : HedgeRequest :=
  { originalTradeID := id, originalSize := size, unrealizedLossPct := 1 }

/-- Hedging, switched on. -/
def enabledConfig : Config := { enabled := true }

/-- A trade evaluated twice, and both plans opened. -/
def openedTwice : List Call :=
  [.evaluateHedge (request "T1" 1) 0 0, .evaluateHedge (request "T1" 1) 0 0, .openHedge 0, .openHedge 1]

/-- Three trades evaluated before any of them is hedged. -/
def openedLate : List Call :=
  [.evaluateHedge (request "T1" 1) 0 0, .evaluateHedge (request "T2" 1) 0 0,
    .evaluateHedge (request "T3" 1) 0 0, .openHedge 0, .openHedge 1, .openHedge 2]

/-- A single hedge, larger than all of them together may be. -/
def openedLarge : List Call := [.evaluateHedge (request "T1" 100) 0 0, .openHedge 0]

/-- None of the three runs keeps the books. -/
theorem books_broken :
    ¬ Throughout step Bookkept (newManager enabledConfig) openedTwice ∧
      ¬ Throughout step Bookkept (newManager enabledConfig) openedLate ∧
      ¬ Throughout step Bookkept (newManager enabledConfig) openedLarge := by
  refine ⟨fun h => ?_, fun h => ?_, fun h => ?_⟩
  · exact absurd (h _ List.prefix_rfl).count (by decide +kernel)
  · exact absurd (h _ List.prefix_rfl).simultaneous (by decide +kernel)
  · exact absurd (h _ List.prefix_rfl).exposure (by decide +kernel)

/-- A plan may be opened again after its hedge was closed. -/
example : Bookkept (run step (newManager enabledConfig)
    [.evaluateHedge (request "T1" 1) 0 0, .openHedge 0, .closeHedge "T1" "TP", .openHedge 0]) := by
  decide +kernel

end PredictATrade.Realtime.Hedging
