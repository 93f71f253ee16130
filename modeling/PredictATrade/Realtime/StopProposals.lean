import PredictATrade.Lib.Grid
import PredictATrade.Lib.Runs
import PredictATrade.Realtime.Features

/-!
# `Realtime.StopProposals` — stops that are validated and then rounded

`ValidateSLProposal` accepts a new stop that is nearer to the market than the confirmed one, on its side of
the market, and far enough from it. What reaches the broker is the stop rounded to a tick by
`NormalizeSLPrice`, up or down, and nothing validates it again. Rounding may take it back to the confirmed
stop or before it, or to the market and past it.

`stops_along_iff` says when it does not: an accepted proposal is to be at least half a tick past the last
tick that the confirmed stop has reached, and less than half a tick past the last one that is allowed. The
freeze level of the broker is read by none of the checks.
-/

namespace PredictATrade.Realtime
open Lib.Decimal Lib.Grid Lib.Runs Features

/-! ## Proposals -/

/-- What the checks read of `SLProposal`. -/
structure SLProposal where
  direction : String
  confirmedSL : Decimal
  proposedSL : Decimal
  currentBid : Decimal
  currentAsk : Decimal
  brokerStopsLevel : Decimal

section
variable (p : SLProposal)

/-- `ValidateMonotonicSL`. -/
def validateMonotonicSL : Bool × String :=
  if p.direction = "BUY" then
    if ¬ p.confirmedSL < p.proposedSL then
      (false, "MONOTONIC_VIOLATION_BUY: proposed SL must be > confirmed SL")
    else if ¬ p.proposedSL < p.currentBid then
      (false, "SL_AT_OR_ABOVE_BID: proposed SL must be below current bid")
    else (true, "")
  else if p.direction = "SELL" then
    if ¬ p.proposedSL < p.confirmedSL then
      (false, "MONOTONIC_VIOLATION_SELL: proposed SL must be < confirmed SL")
    else if ¬ p.currentAsk < p.proposedSL then
      (false, "SL_AT_OR_BELOW_ASK: proposed SL must be above current ask")
    else (true, "")
  else (false, "INVALID_DIRECTION")

/-- `ValidateMinimumImprovement`. -/
def validateMinimumImprovement (minImprovement : Decimal) : Bool × String :=
  let diff := |p.proposedSL - p.confirmedSL|
  if ¬ minImprovement ≤ diff then (false, "INSUFFICIENT_IMPROVEMENT: below minimum threshold")
  else (true, "")

/-- `ValidateBrokerStopLevel`. -/
def validateBrokerStopLevel : Bool × String :=
  if p.direction = "BUY" then
    if ¬ p.proposedSL < p.currentBid - p.brokerStopsLevel then
      (false, "BROKER_STOP_LEVEL_VIOLATION: SL too close to bid")
    else (true, "")
  else
    if ¬ p.currentAsk + p.brokerStopsLevel < p.proposedSL then
      (false, "BROKER_STOP_LEVEL_VIOLATION: SL too close to ask")
    else (true, "")

/-- The reason of a check that has failed. -/
def failed (check : Bool × String) : List String := if check.1 then [] else [check.2]

/-- `ValidateSLProposal`. -/
def validateSLProposal (minImprovement : Decimal) : Bool × List String :=
  let reasons :=
    failed (validateMonotonicSL p) ++ failed (validateMinimumImprovement p minImprovement) ++
      if p.brokerStopsLevel ≠ 0 then failed (validateBrokerStopLevel p) else []
  (reasons.isEmpty, reasons)

end

/-- The digits are not read. -/
def normalizeSLPrice (sl tickSize : Decimal) (_digits : ℤ) : Decimal :=
  if tickSize = 0 then sl else roundPlaces 0 (decimalDiv sl tickSize) * tickSize

/-! ## Runs of modifications -/

/-- A position as its stop is managed. -/
structure ManagedStop where
  direction : String
  confirmedSL : Decimal

/-- A proposal, with the market and the broker's rules at the time. -/
structure Modification where
  proposedSL : Decimal
  currentBid : Decimal
  currentAsk : Decimal
  brokerStopsLevel : Decimal := 0
  tickSize : Decimal
  digits : ℤ := 2
  minImprovement : Decimal := 0

/-- The proposal of a modification. -/
def ManagedStop.proposal (s : ManagedStop) (m : Modification) : SLProposal where
  direction := s.direction
  confirmedSL := s.confirmedSL
  proposedSL := m.proposedSL
  currentBid := m.currentBid
  currentAsk := m.currentAsk
  brokerStopsLevel := m.brokerStopsLevel

/-- The proposal is accepted. -/
def ManagedStop.Accepts (s : ManagedStop) (m : Modification) : Prop :=
  (validateSLProposal (s.proposal m) m.minImprovement).1

instance decidableAccepts (s : ManagedStop) (m : Modification) : Decidable (s.Accepts m) :=
  inferInstanceAs (Decidable (_ = true))

/-- An accepted proposal is rounded and applied. -/
def modify (s : ManagedStop) (m : Modification) : ManagedStop :=
  if s.Accepts m then { s with confirmedSL := normalizeSLPrice m.proposedSL m.tickSize m.digits } else s

/-- The new stop is nearer than the old one, on its side of the market, and as far from it as the broker
wants it. -/
def Advances (direction : String) (old new : Decimal) (m : Modification) : Prop :=
  if direction = "BUY" then
    old < new ∧ new < m.currentBid ∧
      (m.brokerStopsLevel ≠ 0 → new ≤ m.currentBid - m.brokerStopsLevel)
  else
    new < old ∧ m.currentAsk < new ∧
      (m.brokerStopsLevel ≠ 0 → m.currentAsk + m.brokerStopsLevel ≤ new)

/-- An accepted modification advances the stop. -/
def StopAdvances (s : ManagedStop) (m : Modification) : Prop :=
  s.Accepts m → Advances s.direction s.confirmedSL (modify s m).confirmedSL m

/-- Counted in ticks, the proposal rounds past the last tick that the confirmed stop has reached, but not
past the last one that is allowed. -/
def OnTick (direction : String) (old : Decimal) (m : Modification) : Prop :=
  let t := |m.tickSize|
  let ticks := decimalDiv m.proposedSL t
  if direction = "BUY" then
    ReachesUp (⌊old / t⌋ + 1) ticks ∧ ReachesDown (⌈m.currentBid / t⌉ - 1) ticks ∧
      (m.brokerStopsLevel ≠ 0 → ReachesDown ⌊(m.currentBid - m.brokerStopsLevel) / t⌋ ticks)
  else
    ReachesDown (⌈old / t⌉ - 1) ticks ∧ ReachesUp (⌊m.currentAsk / t⌋ + 1) ticks ∧
      (m.brokerStopsLevel ≠ 0 → ReachesUp ⌈(m.currentAsk + m.brokerStopsLevel) / t⌉ ticks)

instance decidableOnTick (direction : String) (old : Decimal) (m : Modification) :
    Decidable (OnTick direction old m) :=
  inferInstanceAs (Decidable (if direction = "BUY" then
    ReachesUp _ _ ∧ ReachesDown _ _ ∧ (m.brokerStopsLevel ≠ 0 → ReachesDown _ _)
    else ReachesDown _ _ ∧ ReachesUp _ _ ∧ (m.brokerStopsLevel ≠ 0 → ReachesUp _ _)))

/-- What is accepted need not be rounded, or rounds to a stop that is right as well. -/
def RoundsWell (s : ManagedStop) (m : Modification) : Prop :=
  s.Accepts m → m.tickSize = 0 ∨ OnTick s.direction s.confirmedSL m

/-! ## The checks -/

section
variable {p : SLProposal}

/-- When a check gives no reason. -/
theorem failed_eq_nil_iff (check : Bool × String) : failed check = [] ↔ check.1 = true := by
  unfold failed
  split
  · next h => exact iff_of_true rfl h
  · next h => exact iff_of_false (List.cons_ne_nil _ _) h

/-- When a proposal is valid. -/
theorem validateSLProposal_iff (minImprovement : Decimal) :
    (validateSLProposal p minImprovement).1 ↔
      (validateMonotonicSL p).1 ∧ (validateMinimumImprovement p minImprovement).1 ∧
        (p.brokerStopsLevel ≠ 0 → (validateBrokerStopLevel p).1) := by
  unfold validateSLProposal
  dsimp only
  rw [List.isEmpty_iff, List.append_eq_nil_iff, List.append_eq_nil_iff, failed_eq_nil_iff,
    failed_eq_nil_iff, and_assoc]
  refine and_congr Iff.rfl (and_congr Iff.rfl ?_)
  by_cases hlevel : p.brokerStopsLevel = 0
  · simp [hlevel]
  · simp [hlevel, failed_eq_nil_iff]

/-- When a stop moves the right way. -/
theorem validateMonotonicSL_iff :
    (validateMonotonicSL p).1 ↔
      (p.direction = "BUY" ∧ p.confirmedSL < p.proposedSL ∧ p.proposedSL < p.currentBid) ∨
        (p.direction = "SELL" ∧ p.proposedSL < p.confirmedSL ∧ p.currentAsk < p.proposedSL) := by
  unfold validateMonotonicSL
  by_cases hbuy : p.direction = "BUY"
  · by_cases hold : p.confirmedSL < p.proposedSL
    · by_cases hbid : p.proposedSL < p.currentBid <;> simp [hbuy, hold, hbid]
    · simp [hbuy, hold]
  · by_cases hsell : p.direction = "SELL"
    · by_cases hold : p.proposedSL < p.confirmedSL
      · by_cases hask : p.currentAsk < p.proposedSL <;> simp [hsell, hold, hask]
      · simp [hsell, hold]
    · simp [hbuy, hsell]

/-- When a stop keeps the broker's distance. -/
theorem validateBrokerStopLevel_iff :
    (validateBrokerStopLevel p).1 ↔
      if p.direction = "BUY" then p.proposedSL < p.currentBid - p.brokerStopsLevel
      else p.currentAsk + p.brokerStopsLevel < p.proposedSL := by
  unfold validateBrokerStopLevel
  by_cases hbuy : p.direction = "BUY"
  · by_cases hlevel : p.proposedSL < p.currentBid - p.brokerStopsLevel <;> simp [hbuy, hlevel]
  · by_cases hlevel : p.currentAsk + p.brokerStopsLevel < p.proposedSL <;> simp [hbuy, hlevel]

end

/-- What is accepted advances the stop, as long as it is not rounded. -/
theorem accepts_advances {s : ManagedStop} {m : Modification} (h : s.Accepts m) :
    Advances s.direction s.confirmedSL m.proposedSL m := by
  obtain ⟨hmonotonic, -, hlevel⟩ := (validateSLProposal_iff _).mp h
  simp only [validateBrokerStopLevel_iff] at hlevel
  unfold Advances
  rcases validateMonotonicSL_iff.mp hmonotonic with ⟨hbuy, hold, hbid⟩ | ⟨hsell, hold, hask⟩
  · have hbuy : s.direction = "BUY" := hbuy
    rw [if_pos hbuy]
    refine ⟨hold, hbid, fun hne => ?_⟩
    have hstrict : m.proposedSL < m.currentBid - m.brokerStopsLevel := by
      simpa [ManagedStop.proposal, hbuy] using hlevel hne
    exact hstrict.le
  · have hsell : s.direction = "SELL" := hsell
    have hbuy : ¬ s.direction = "BUY" := by
      rw [hsell]
      decide
    rw [if_neg hbuy]
    refine ⟨hold, hask, fun hne => ?_⟩
    have hstrict : m.currentAsk + m.brokerStopsLevel < m.proposedSL := by
      simpa [ManagedStop.proposal, hbuy] using hlevel hne
    exact hstrict.le

/-! ## Rounding to the tick -/

theorem decimalDiv_neg (x y : Decimal) : decimalDiv x (-y) = -decimalDiv x y := by
  unfold decimalDiv
  rw [div_neg]
  by_cases hzero : x / y = 0
  · rw [hzero, neg_zero, roundPlaces_of_hasPlaces (HasPlaces.zero 16), neg_zero]
  · exact roundPlaces_neg hzero

/-- The sign of the tick does not matter. -/
theorem normalizeSLPrice_eq {tick : Decimal} (htick : tick ≠ 0) (sl : Decimal) (digits : ℤ) :
    normalizeSLPrice sl tick digits = nearest (decimalDiv sl |tick|) * |tick| := by
  unfold normalizeSLPrice
  rw [if_neg htick, roundPlaces_zero]
  rcases lt_or_gt_of_ne htick with hneg | hpos
  · rw [abs_of_neg hneg, decimalDiv_neg, nearest_neg]
    push_cast
    ring
  · rw [abs_of_pos hpos]

/-- A multiple of the tick advances the stop, seen from what was rounded to it. -/
theorem advances_rounded_iff {m : Modification} (htick : m.tickSize ≠ 0) (direction : String)
    (old : Decimal) :
    Advances direction old (normalizeSLPrice m.proposedSL m.tickSize m.digits) m ↔
      OnTick direction old m := by
  have ht : 0 < |m.tickSize| := abs_pos.mpr htick
  rw [normalizeSLPrice_eq htick]
  unfold Advances OnTick
  by_cases hbuy : direction = "BUY"
  · simp only [if_pos hbuy, lt_mul_iff ht, mul_lt_iff ht, mul_le_iff ht, le_nearest_iff,
      nearest_le_iff]
  · simp only [if_neg hbuy, lt_mul_iff ht, mul_lt_iff ht, le_mul_iff ht, le_nearest_iff,
      nearest_le_iff]

/-! ## Runs -/

/-- The step lemma. -/
theorem stopAdvances_iff (s : ManagedStop) (m : Modification) : StopAdvances s m ↔ RoundsWell s m := by
  refine imp_congr_right fun haccepts => ?_
  have hnew : (modify s m).confirmedSL = normalizeSLPrice m.proposedSL m.tickSize m.digits := by
    unfold modify
    rw [if_pos haccepts]
  rw [hnew]
  by_cases htick : m.tickSize = 0
  · have hsame : normalizeSLPrice m.proposedSL m.tickSize m.digits = m.proposedSL := if_pos htick
    rw [hsame]
    exact iff_of_true (accepts_advances haccepts) (Or.inl htick)
  · rw [advances_rounded_iff htick, or_iff_right htick]

/-- **Stop proposals.** In a run of modifications, every accepted one advances the stop exactly when every
accepted one rounds well. -/
theorem stops_along_iff (s : ManagedStop) (ms : List Modification) :
    Along modify StopAdvances s ms ↔ Along modify RoundsWell s ms := by
  refine along_congr (I := fun _ => True) (fun _ _ h => h) ?_ trivial
  intro s m _
  exact stopAdvances_iff s m

/-- With a tick of 0.05 the stop of a buy goes from 2000 to the accepted 2000.02, which rounds back to
2000; and then to the accepted 2009.98 below a bid of 2010, which rounds to the bid. -/
theorem rounding_undoes :
    ¬ Along modify StopAdvances ⟨"BUY", 2000⟩
        [{ proposedSL := 200002 / 100, currentBid := 2010, currentAsk := 2011, tickSize := 5 / 100
           minImprovement := 1 / 100 }] ∧
      ¬ Along modify StopAdvances ⟨"BUY", 2000⟩
        [{ proposedSL := 200998 / 100, currentBid := 2010, currentAsk := 2011, tickSize := 5 / 100
           minImprovement := 1 / 100 }] := by
  constructor
  · rintro ⟨h, -⟩
    rw [stopAdvances_iff] at h
    exact absurd (h (by decide +kernel)) (by decide +kernel)
  · rintro ⟨h, -⟩
    rw [stopAdvances_iff] at h
    exact absurd (h (by decide +kernel)) (by decide +kernel)

end PredictATrade.Realtime
