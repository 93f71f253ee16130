import PredictATrade.Research.Trades

/-!
# `Research.Attainable` — exits at prices that traded

`check_sl_tp` closes a position at its level. It asks whether the candle went to the level or past it, not
whether it went through it, and not whether there is a level: a candle that gaps through a stop closes
at a price above or below all of its own, and a long without a target is closed by the first candle.

`attainable_iff` gives for every portfolio and candle the condition under which each exit is at a price of
the candle and at a level that is set.
-/

namespace PredictATrade.Research

namespace Position
variable (pos : Position) (candle : HistoricalCandle) (config : ExitConfig)

/-- The candle comes to the stop, or past it. -/
def StopHit : Prop :=
  if pos.isLong then candle.low ≤ pos.stopLoss else candle.high ≥ pos.stopLoss

/-- The candle comes to the target, or past it. -/
def TargetHit : Prop :=
  if pos.isLong then candle.high ≥ pos.takeProfit else candle.low ≤ pos.takeProfit

instance decidableStopHit : Decidable (pos.StopHit candle) :=
  inferInstanceAs (Decidable (if pos.isLong then candle.low ≤ pos.stopLoss
    else candle.high ≥ pos.stopLoss))

instance decidableTargetHit : Decidable (pos.TargetHit candle) :=
  inferInstanceAs (Decidable (if pos.isLong then candle.high ≥ pos.takeProfit
    else candle.low ≤ pos.takeProfit))

/-- It is the stop that counts. -/
def AtStop : Prop :=
  pos.StopHit candle ∧ (pos.TargetHit candle → config.conservativeSlTp = true)

/-- It is the target that counts. -/
def AtTarget : Prop :=
  pos.TargetHit candle ∧ (pos.StopHit candle → config.conservativeSlTp = false)

instance decidableAtStop : Decidable (pos.AtStop candle config) :=
  inferInstanceAs (Decidable (_ ∧ (_ → _)))

instance decidableAtTarget : Decidable (pos.AtTarget candle config) :=
  inferInstanceAs (Decidable (_ ∧ (_ → _)))

variable {pos candle config}

theorem AtStop.not_atTarget (h : pos.AtStop candle config) : ¬ pos.AtTarget candle config := by
  intro htarget
  have hcons := h.2 htarget.1
  rw [htarget.2 h.1] at hcons
  cases hcons

/-- **Where a candle takes a position out.** -/
theorem checkSlTp_eq (pos : Position) (candle : HistoricalCandle) (config : ExitConfig) :
    pos.checkSlTp candle config.conservativeSlTp =
      if pos.AtStop candle config then some (.stopLoss, pos.stopLoss)
      else if pos.AtTarget candle config then some (.takeProfit, pos.takeProfit)
      else none := by
  have hunfold : pos.checkSlTp candle config.conservativeSlTp =
      if pos.StopHit candle ∧ pos.TargetHit candle then
        if config.conservativeSlTp then some (.stopLoss, pos.stopLoss)
        else some (.takeProfit, pos.takeProfit)
      else if pos.StopHit candle then some (.stopLoss, pos.stopLoss)
      else if pos.TargetHit candle then some (.takeProfit, pos.takeProfit)
      else none := rfl
  rw [hunfold]
  by_cases hstop : pos.StopHit candle <;> by_cases htarget : pos.TargetHit candle <;>
    by_cases hcons : config.conservativeSlTp = true <;>
    simp [AtStop, AtTarget, hstop, htarget, hcons]

end Position

/-! ## The law -/

/-- An exit at a price of the candle, and not by a level that is not set. -/
structure Attained (pos : Position) (candle : HistoricalCandle) (event : ExitEvent) : Prop where
  low : candle.low ≤ event.exitPrice
  high : event.exitPrice ≤ candle.high
  stop : event.exitReason = .stopLoss → pos.stopLoss ≠ 0
  target : event.exitReason = .takeProfit → pos.takeProfit ≠ 0

/-- Every exit of the candle is attained. -/
def Attainable (p : Portfolio) (candle : HistoricalCandle) (atr : ℚ) : Prop :=
  ∀ event ∈ (p.updatePositions candle atr).2, ∀ pos ∈ p.positions,
    pos.positionId = event.positionId → Attained pos candle event

/-- The level that counts is set, and the candle traded there from both sides; and a candle at which the
time is up closes within its range. -/
structure LevelsTrade (config : ExitConfig) (candle : HistoricalCandle) (pos : Position) : Prop where
  stop : pos.AtStop candle config →
    pos.stopLoss ≠ 0 ∧ if pos.isLong then pos.stopLoss ≤ candle.high else candle.low ≤ pos.stopLoss
  target : pos.AtTarget candle config →
    pos.takeProfit ≠ 0 ∧
      if pos.isLong then candle.low ≤ pos.takeProfit else pos.takeProfit ≤ candle.high
  time : ¬ pos.StopHit candle → ¬ pos.TargetHit candle → pos.TimeUp config →
    candle.low ≤ candle.close ∧ candle.close ≤ candle.high

instance decidableAttained (pos : Position) (candle : HistoricalCandle) (event : ExitEvent) :
    Decidable (Attained pos candle event) :=
  decidable_of_iff (candle.low ≤ event.exitPrice ∧ event.exitPrice ≤ candle.high ∧
      (event.exitReason = .stopLoss → pos.stopLoss ≠ 0) ∧
      (event.exitReason = .takeProfit → pos.takeProfit ≠ 0))
    ⟨fun h => ⟨h.1, h.2.1, h.2.2.1, h.2.2.2⟩, fun h => ⟨h.low, h.high, h.stop, h.target⟩⟩

instance decidableAttainable (p : Portfolio) (candle : HistoricalCandle) (atr : ℚ) :
    Decidable (Attainable p candle atr) :=
  inferInstanceAs (Decidable (∀ event ∈ (p.updatePositions candle atr).2, ∀ pos ∈ p.positions,
    pos.positionId = event.positionId → Attained pos candle event))

instance decidableLevelsTrade (config : ExitConfig) (candle : HistoricalCandle) (pos : Position) :
    Decidable (LevelsTrade config candle pos) :=
  decidable_of_iff
    ((pos.AtStop candle config → pos.stopLoss ≠ 0 ∧
        if pos.isLong then pos.stopLoss ≤ candle.high else candle.low ≤ pos.stopLoss) ∧
      (pos.AtTarget candle config → pos.takeProfit ≠ 0 ∧
        if pos.isLong then candle.low ≤ pos.takeProfit else pos.takeProfit ≤ candle.high) ∧
      (¬ pos.StopHit candle → ¬ pos.TargetHit candle → pos.TimeUp config →
        candle.low ≤ candle.close ∧ candle.close ≤ candle.high))
    ⟨fun h => ⟨h.1, h.2.1, h.2.2⟩, fun h => ⟨h.stop, h.target, h.time⟩⟩

section
variable {p : Portfolio} {candle : HistoricalCandle} {atr : ℚ} {pos : Position}

/-- What is reported of a position that the candle takes out. -/
theorem exit_iff (hnd : (p.positions.map (·.positionId)).Nodup) (hpos : pos ∈ p.positions)
    {event : ExitEvent} :
    event ∈ (p.updatePositions candle atr).2 ∧ pos.positionId = event.positionId ↔
      ∃ exit ∈ (pos.advance candle p.toExitConfig atr).2,
        event = p.exitOf candle (pos.advance candle p.toExitConfig atr).1 exit.1 exit.2 := by
  have hexits := (Portfolio.updatePositions_passed hnd candle atr).2.exits
  have hpassed : pos.advance candle p.toExitConfig atr ∈ p.passed candle atr :=
    List.mem_map_of_mem hpos
  have hmem := Passed.mem_exits_iff ((p.passed_ids candle atr).symm ▸ hnd) hpassed p candle event
  rw [hexits, eq_comm (a := pos.positionId)]
  rw [(pos.advance_sameEntry candle p.toExitConfig atr).positionId] at hmem
  exact hmem

/-- The exit that the candle makes of a position. -/
theorem advance_exit :
    (pos.advance candle p.toExitConfig atr).2 =
      if pos.AtStop candle p.toExitConfig then some (.stopLoss, pos.stopLoss)
      else if pos.AtTarget candle p.toExitConfig then some (.takeProfit, pos.takeProfit)
      else if pos.TimeUp p.toExitConfig then some (.timeExit, candle.close) else none := by
  have heq := Position.checkSlTp_eq pos candle p.toExitConfig
  by_cases hstop : pos.AtStop candle p.toExitConfig
  · rw [if_pos hstop] at heq ⊢
    rw [Position.advance_of_hit heq]
  rw [if_neg hstop] at heq ⊢
  by_cases htarget : pos.AtTarget candle p.toExitConfig
  · rw [if_pos htarget] at heq ⊢
    rw [Position.advance_of_hit heq]
  · rw [if_neg htarget] at heq ⊢
    rw [Position.advance_of_none heq]

/-- A position none of whose levels counts has none that is hit. -/
theorem not_hit (hstop : ¬ pos.AtStop candle p.toExitConfig)
    (htarget : ¬ pos.AtTarget candle p.toExitConfig) :
    ¬ pos.StopHit candle ∧ ¬ pos.TargetHit candle := by
  unfold Position.AtStop at hstop
  unfold Position.AtTarget at htarget
  by_cases h : pos.StopHit candle <;> by_cases h' : pos.TargetHit candle <;>
    cases hcons : p.conservativeSlTp <;> simp [h, h', hcons] at hstop htarget
  all_goals exact ⟨h, h'⟩

/-- An exit, read off the position that was taken out. -/
theorem attained_exitOf_iff {pos' : Position} {reason : ExitReason} {price : ℚ} :
    Attained pos candle (p.exitOf candle pos' reason price) ↔
      candle.low ≤ price ∧ price ≤ candle.high ∧ (reason = .stopLoss → pos.stopLoss ≠ 0) ∧
        (reason = .takeProfit → pos.takeProfit ≠ 0) :=
  ⟨fun h => ⟨h.low, h.high, h.stop, h.target⟩, fun h => ⟨h.1, h.2.1, h.2.2.1, h.2.2.2⟩⟩

/-- What is reported of a position, read off its exit. -/
theorem attained_exits_iff (hnd : (p.positions.map (·.positionId)).Nodup) (hpos : pos ∈ p.positions) :
    (∀ event ∈ (p.updatePositions candle atr).2, pos.positionId = event.positionId →
        Attained pos candle event) ↔
      ∀ exit ∈ (pos.advance candle p.toExitConfig atr).2,
        candle.low ≤ exit.2 ∧ exit.2 ≤ candle.high ∧
          (exit.1 = .stopLoss → pos.stopLoss ≠ 0) ∧ (exit.1 = .takeProfit → pos.takeProfit ≠ 0) := by
  constructor
  · intro h exit hexit
    obtain ⟨hmem, hid⟩ := (exit_iff hnd hpos).mpr ⟨exit, hexit, rfl⟩
    exact attained_exitOf_iff.mp (h _ hmem hid)
  · intro h event hmem hid
    obtain ⟨exit, hexit, rfl⟩ := (exit_iff hnd hpos).mp ⟨hmem, hid⟩
    exact attained_exitOf_iff.mpr (h exit hexit)

/-- **One position.** -/
theorem attained_iff (hnd : (p.positions.map (·.positionId)).Nodup) (hpos : pos ∈ p.positions) :
    (∀ event ∈ (p.updatePositions candle atr).2, pos.positionId = event.positionId →
        Attained pos candle event) ↔
      LevelsTrade p.toExitConfig candle pos := by
  rw [attained_exits_iff hnd hpos, advance_exit]
  by_cases hstop : pos.AtStop candle p.toExitConfig
  · -- the candle has come to the stop from its own side
    have hside := hstop.1
    unfold Position.StopHit at hside
    rw [if_pos hstop]
    constructor
    · intro h
      obtain ⟨hlow, hhigh, hset, -⟩ := h _ rfl
      refine ⟨fun _ => ⟨hset rfl, ?_⟩, fun htarget => absurd htarget hstop.not_atTarget,
        fun hno => absurd hstop.1 hno⟩
      split
      · exact hhigh
      · exact hlow
    · rintro h exit hexit
      cases hexit
      obtain ⟨hset, hother⟩ := h.stop hstop
      by_cases hlong : pos.isLong = true
      · rw [if_pos hlong] at hside hother
        exact ⟨hside, hother, fun _ => hset, fun hreason => absurd hreason ExitReason.noConfusion⟩
      · rw [if_neg hlong] at hside hother
        exact ⟨hother, hside, fun _ => hset, fun hreason => absurd hreason ExitReason.noConfusion⟩
  rw [if_neg hstop]
  by_cases htarget : pos.AtTarget candle p.toExitConfig
  · -- likewise for the target
    have hside := htarget.1
    unfold Position.TargetHit at hside
    rw [if_pos htarget]
    constructor
    · intro h
      obtain ⟨hlow, hhigh, -, hset⟩ := h _ rfl
      refine ⟨fun hat => absurd hat hstop, fun _ => ⟨hset rfl, ?_⟩,
        fun _ hno => absurd htarget.1 hno⟩
      split
      · exact hlow
      · exact hhigh
    · rintro h exit hexit
      cases hexit
      obtain ⟨hset, hother⟩ := h.target htarget
      by_cases hlong : pos.isLong = true
      · rw [if_pos hlong] at hside hother
        exact ⟨hother, hside, fun hreason => absurd hreason ExitReason.noConfusion, fun _ => hset⟩
      · rw [if_neg hlong] at hside hother
        exact ⟨hside, hother, fun hreason => absurd hreason ExitReason.noConfusion, fun _ => hset⟩
  rw [if_neg htarget]
  obtain ⟨hnostop, hnotarget⟩ := not_hit hstop htarget
  by_cases hup : pos.TimeUp p.toExitConfig
  · rw [if_pos hup]
    constructor
    · intro h
      obtain ⟨hlow, hhigh, -, -⟩ := h _ rfl
      exact ⟨fun hat => absurd hat hstop, fun hat => absurd hat htarget,
        fun _ _ _ => ⟨hlow, hhigh⟩⟩
    · rintro h exit hexit
      cases hexit
      obtain ⟨hlow, hhigh⟩ := h.time hnostop hnotarget hup
      exact ⟨hlow, hhigh, fun hreason => absurd hreason ExitReason.noConfusion,
        fun hreason => absurd hreason ExitReason.noConfusion⟩
  · rw [if_neg hup]
    refine iff_of_true (fun exit hexit => absurd hexit (Option.not_mem_none exit)) ?_
    exact ⟨fun hat => absurd hat hstop, fun hat => absurd hat htarget,
      fun _ _ hat => absurd hat hup⟩

end

/-- **Attainable exits.** For every portfolio, which keeps its positions under distinct identifiers, and
every candle: each exit is at a price of the candle and at a level that is set exactly when the levels that
count traded. -/
theorem attainable_iff (p : Portfolio) (candle : HistoricalCandle) (atr : ℚ)
    (hnd : (p.positions.map (·.positionId)).Nodup) :
    Attainable p candle atr ↔ ∀ pos ∈ p.positions, LevelsTrade p.toExitConfig candle pos := by
  constructor
  · intro h pos hpos
    exact (attained_iff hnd hpos).mp fun event hevent hid => h event hevent pos hpos hid
  · intro h event hevent pos hpos hid
    exact (attained_iff hnd hpos).mpr (h pos hpos) event hevent hid

/-! ## A gap, and a target that is not set -/

/-- A portfolio with one position. -/
def holding (direction : Direction) (stopLoss takeProfit : ℚ) : Portfolio :=
  (Portfolio.new 10000 {}).openPosition 1
    { timestamp := 0, direction, fillPrice := 100, requestedPrice := 100, size := 1 }
    { signalId := "", strategyId := "", stopLoss, takeProfit }

/-- A candle that opens with a gap. -/
def gapDown : HistoricalCandle :=
  { timestamp := 300000000, opening := 90, high := 92, low := 88, close := 91 }

/-- A long with its stop within the candle is sold there. -/
theorem attainable_at_stop : Attainable (holding .buy 91 110) gapDown 0 :=
  (attainable_iff (holding .buy 91 110) gapDown 0 (by decide)).mpr (by decide +kernel)

/-- A long is sold at a stop of 95 on a candle that was never above 92, and one without a target at
zero. -/
theorem not_attainable :
    ¬ Attainable (holding .buy 95 110) gapDown 0 ∧ ¬ Attainable (holding .buy 80 0) gapDown 0 := by
  decide +kernel

end PredictATrade.Research
