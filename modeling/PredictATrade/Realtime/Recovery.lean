import PredictATrade.Realtime.Types

/-!
# `Realtime.Recovery` — the advanced managers

The managers that `DecideWithAdvanced` consults after the hard gates: loss recovery, which blocks a
signal while its account is halted, at its daily limit, cooling down or recovering without the
required quality, and the RL optimizer, which in filter mode may veto. A time that is not set is
`none`.
-/

namespace PredictATrade.Realtime

/-! ## Loss recovery -/

/-- `RecoveryState`. -/
inductive RecoveryState where
  | normal | recovery | halted | dailyLimit
  deriving DecidableEq, Repr

/-- `BlockReason`. -/
inductive BlockReason where
  | dailyLimit | halt | cooldown | lowConfluenceRecovery | lowQualityRecovery
  | lowConfidenceRecovery | maxRecoveryTrades
  deriving DecidableEq, Repr

/-- The text of a block reason. -/
def BlockReason.text : BlockReason → String
  | .dailyLimit => "DAILY_LIMIT"
  | .halt => "HALT"
  | .cooldown => "COOLDOWN"
  | .lowConfluenceRecovery => "LOW_CONFLUENCE_RECOVERY"
  | .lowQualityRecovery => "LOW_QUALITY_RECOVERY"
  | .lowConfidenceRecovery => "LOW_CONFIDENCE_RECOVERY"
  | .maxRecoveryTrades => "MAX_RECOVERY_TRADES"

/-- `AccountStrategyKey`. -/
structure AccountStrategyKey where
  accountID : String
  strategyID : StrategyID
  symbol : String
  deriving DecidableEq, Repr

/-- `recovery.Config`; the defaults are those of `DefaultConfig`. -/
structure RecoveryConfig where
  maxDailyLossPercent : Float64 := 2
  maxDailyLossCount : ℤ := 3
  maxConsecutiveLosses : ℤ := 2
  recoverySizeMultiplier : Float64 := 1 / 2
  recoveryMinConfluence : Float64 := 80
  recoveryMinConfidence : Float64 := 75
  recoveryMaxTrades : ℤ := 3
  recoveryExitAfterWins : ℤ := 2
  normalCooldownMinutes : ℤ := 5
  recoveryCooldownMinutes : ℤ := 30
  haltCooldownMinutes : ℤ := 60
  deriving DecidableEq, Repr

/-- A `StateRecord`, without its `Key`: that is the key the manager holds it under. -/
structure StateRecord where
  state : RecoveryState := .normal
  consecutiveLosses : ℤ := 0
  dailyLossCount : ℤ := 0
  dailyLossPercent : Float64 := 0
  dailyPnL : Decimal := 0
  startingEquity : Decimal := 0
  recoveryTradesTaken : ℤ := 0
  recoveryWins : ℤ := 0
  cooldownUntil : Option Time := none
  haltUntil : Option Time := none
  haltReason : String := ""
  lastTradeAt : Option Time := none
  lastLossAt : Option Time := none
  lastCloseEventID : String := ""
  tradingDay : Option Time := none
  deriving DecidableEq, Repr

/-- `recovery.Manager`: its configuration, the record of each key it has seen, and the close events
it has processed, which are one set for all keys. -/
structure RecoveryManager where
  config : RecoveryConfig
  states : AccountStrategyKey → Option StateRecord
  processedCloseEvents : List String := []

/-- `now` is before a deadline that is set. -/
def beforeDeadline (now : Time) : Option Time → Bool
  | none => false
  | some t => decide (now < t)

/-- What the state alone blocks. -/
def RecoveryManager.stateBlock (m : RecoveryManager) (rec : StateRecord) (now : Time)
    (confluence : Float64) (setupGrade : String) (confidence : Float64) : Option BlockReason :=
  match rec.state with
  | .halted => if beforeDeadline now rec.haltUntil then some .halt else none
  | .dailyLimit => some .dailyLimit
  | .recovery =>
    if confluence < m.config.recoveryMinConfluence then some .lowConfluenceRecovery
    else if setupGrade ≠ "A" ∧ setupGrade ≠ "A+" then some .lowQualityRecovery
    else if confidence < m.config.recoveryMinConfidence then some .lowConfidenceRecovery
    else if m.config.recoveryMaxTrades ≤ rec.recoveryTradesTaken then some .maxRecoveryTrades
    else none
  | .normal => none

/-- `CheckSignal`: the reason to block the signal, `none` when it is allowed. -/
def RecoveryManager.checkSignal (m : RecoveryManager) (key : AccountStrategyKey) (now : Time)
    (confluence : Float64) (setupGrade : String) (confidence : Float64) : Option BlockReason :=
  match m.states key with
  | none => none
  | some rec =>
    match m.stateBlock rec now confluence setupGrade confidence with
    | some reason => some reason
    | none => if beforeDeadline now rec.cooldownUntil then some .cooldown else none

/-- `GetState`. -/
def RecoveryManager.getState (m : RecoveryManager) (key : AccountStrategyKey) : RecoveryState :=
  match m.states key with
  | some rec => rec.state
  | none => .normal

/-- `GetSizeMultiplier`. -/
def RecoveryManager.getSizeMultiplier (m : RecoveryManager) (key : AccountStrategyKey) :
    Float64 :=
  match m.states key with
  | none => 1
  | some rec =>
    match rec.state with
    | .recovery => m.config.recoverySizeMultiplier
    | .halted | .dailyLimit => 0
    | .normal => 1

/-! ## The RL optimizer -/

/-- `RLMode`. -/
inductive RLMode where
  | disabled | shadow | filterOnly | liveApproved
  deriving DecidableEq, Repr

/-- `Action`. -/
inductive RLAction where
  | noTrade | long | short | close
  deriving DecidableEq, Repr

/-- The observation, with the features that the engine fills in. -/
structure Observation where
  regime : Float64 := 0
  confluence : Float64 := 0
  confidence : Float64 := 0
  volatility : Float64 := 0
  spread : Float64 := 0
  atr : Float64 := 0
  deriving DecidableEq, Repr

/-- `RLDecision`. -/
structure RLDecision where
  action : RLAction
  confidence : Float64
  mode : RLMode
  shadowOnly : Bool
  deriving DecidableEq, Repr

/-- `rl.Manager`: its mode and the confidence its filter asks for. -/
structure RLManager where
  mode : RLMode
  minConfidence : Float64 := 7 / 10
  deriving DecidableEq, Repr

/-- `Evaluate`. In filter mode an unsure inference is a veto, and so is LONG or SHORT: the filter
passes nothing but a confident CLOSE. -/
def RLManager.evaluate (m : RLManager) (obs : Observation)
    (inference : Observation → RLAction × Float64) : RLDecision :=
  match m.mode with
  | .disabled => ⟨.noTrade, 0, .disabled, true⟩
  | .shadow => ⟨(inference obs).1, (inference obs).2, .shadow, true⟩
  | .filterOnly =>
    let (action, conf) := inference obs
    if conf < m.minConfidence then ⟨.noTrade, conf, .filterOnly, false⟩
    else if action = .long ∨ action = .short then ⟨.noTrade, conf, .filterOnly, false⟩
    else ⟨action, conf, .filterOnly, false⟩
  | .liveApproved => ⟨(inference obs).1, (inference obs).2, .liveApproved, false⟩

end PredictATrade.Realtime
