import Mathlib.Algebra.Order.Field.Rat
import Mathlib.Data.List.Perm.Basic
import Mathlib.Data.List.Perm.Subperm
import Mathlib.Data.List.Pairwise
import Mathlib.Data.Rat.Cast.Order
import PredictATrade.Lib.Table

/-!
# `CrossMarket.OutcomeResolver` — how shadow snapshots are settled

`resolve` is `Resolve`: it lists the unresolved snapshots of the last two weeks, scans the first hundred, and
settles those whose expiry, stop or first target the tick has reached. The order in which the database lists
them, newest first, is an argument.

A pass is to settle every snapshot that is due (`Due`) and to leave the rest alone. What keeps a due one from
it is the place behind a hundred newer ones, a column that is null and cannot be scanned, a time in seconds
that its column does not hold, and a stop at the entry, which divides by zero. `pass_settles_iff` has the exact
condition.
-/

namespace PredictATrade.CrossMarket
open Lib.Table

/-! ## The table -/

/-- A point in time, in nanoseconds. -/
abbrev Time := ℤ

/-- The zero time of the language, the first of January of the year one. -/
def zeroTime : Time := -62135596800 * 1000000000

/-- The directions of a snapshot, a string in the source. -/
inductive Direction where
  | buy | sell | buyCandidate | sellCandidate
  | other (text : String)
  deriving DecidableEq, Repr

/-- The outcomes of a snapshot, a string in the source. -/
inductive Outcome where
  | unresolved | expired | ambiguous | tp1Hit | tp2Hit | tp3Hit | slHit
  | other (text : String)
  deriving DecidableEq, Repr

/-- A double: a number, or what a division by zero gives. -/
inductive Double where
  | finite (x : ℚ)
  | infinite (negative : Bool)
  | nan
  deriving DecidableEq, Repr

/-- The quotient of two doubles of which the second is not negative. -/
def Double.div (x y : ℚ) : Double :=
  if y ≠ 0 then .finite (x / y)
  else if x = 0 then .nan
  else .infinite (decide (x < 0))

/-- A row of `cross_market_shadow_snapshots`. What may be null is an option. -/
structure Snapshot where
  id : ℕ
  timestamp : Time
  signalID : Option String
  strategy : Option String
  direction : Option Direction
  entry : Option ℚ
  stopLoss : Option ℚ
  tp1 : Option ℚ
  tp2 : Option ℚ
  tp3 : Option ℚ
  expiry : Option Time
  outcome : Option Outcome := some .unresolved
  mfe : Option ℚ := none
  mae : Option ℚ := none
  rMultiple : Option Double := none
  timeToTP : Option ℤ := none
  timeToSL : Option ℤ := none
  resolvedAt : Option Time := none
  deriving DecidableEq, Repr

/-- A tick. -/
structure Tick where
  bid : ℚ
  ask : ℚ
  ts : Time
  deriving DecidableEq, Repr

/-! ## A pass -/

/-- `n > 0` in the query: a null is not. -/
def Positive (x : Option ℚ) : Prop := ∃ y ∈ x, 0 < y

instance decidablePositive (x : Option ℚ) : Decidable (Positive x) :=
  inferInstanceAs (Decidable (∃ y ∈ x, 0 < y))

/-- Fourteen days, in nanoseconds. -/
def fourteenDays : ℤ := 14 * 24 * 3600 * 1000000000

/-- The condition of the query. -/
structure Eligible (now : Time) (row : Snapshot) : Prop where
  outcome : row.outcome = some .unresolved
  entry : Positive row.entry
  stopLoss : Positive row.stopLoss
  tp1 : Positive row.tp1
  direction : row.direction ∈ [some .buy, some .sell, some .buyCandidate, some .sellCandidate]
  recent : now - fourteenDays < row.timestamp

instance decidableEligible (now : Time) (row : Snapshot) : Decidable (Eligible now row) :=
  decidable_of_iff (row.outcome = some .unresolved ∧ Positive row.entry ∧ Positive row.stopLoss ∧
      Positive row.tp1 ∧
      row.direction ∈ [some .buy, some .sell, some .buyCandidate, some .sellCandidate] ∧
      now - fourteenDays < row.timestamp)
    ⟨fun ⟨a, b, c, d, e, f⟩ => ⟨a, b, c, d, e, f⟩, fun ⟨a, b, c, d, e, f⟩ => ⟨a, b, c, d, e, f⟩⟩

/-- What the query gives before its limit: the eligible rows, newest first. -/
structure Listing (table : List Snapshot) (now : Time) where
  rows : List Snapshot
  perm : rows.Perm (table.filter (Eligible now))
  newest : rows.Pairwise fun r s => s.timestamp ≤ r.timestamp

/-- The columns of a row that are scanned. -/
structure Scanned where
  direction : Direction
  entry : ℚ
  sl : ℚ
  tp1 : ℚ
  tp2 : ℚ
  tp3 : ℚ
  expiry : Time
  snapTime : Time
  deriving DecidableEq, Repr

/-- `rows.Scan`, which fails on a null. -/
def scan (row : Snapshot) : Option Scanned := do
  let _ ← row.signalID
  let _ ← row.strategy
  let direction ← row.direction
  let entry ← row.entry
  let sl ← row.stopLoss
  let tp1 ← row.tp1
  let tp2 ← row.tp2
  let tp3 ← row.tp3
  let expiry ← row.expiry
  return { direction, entry, sl, tp1, tp2, tp3, expiry, snapTime := row.timestamp }

/-- What a row is settled with. -/
structure Resolution where
  outcome : Outcome
  eventType : String
  price : ℚ
  mfe : ℚ
  mae : ℚ
  rMult : Double
  timeToTP : ℤ := 0
  timeToSL : ℤ := 0
  deriving DecidableEq, Repr

/-- An event that is published. -/
structure OutcomeEvent where
  snapshotID : ℕ
  eventType : String
  price : ℚ
  timestamp : Time
  deriving DecidableEq, Repr

/-- The longest duration. -/
def maxDuration : ℤ := 9223372036854775807

/-- `int(ts.Sub(t).Seconds())`. -/
def secondsSince (ts t : Time) : ℤ :=
  (max (-maxDuration - 1) (min maxDuration (ts - t))).tdiv 1000000000

namespace Scanned
variable (s : Scanned) (tick : Tick)

/-- The snapshot is of a buy. -/
def isBuy : Bool := s.direction = .buy ∨ s.direction = .buyCandidate

/-- The target, whatever it is, is hit. -/
def hit (target : ℚ) : Bool := if s.isBuy then target ≤ tick.bid else tick.ask ≤ target

/-- The tick has reached the stop. -/
def slHit : Bool := if s.isBuy then tick.ask ≤ s.sl else s.sl ≤ tick.bid

/-- The farthest target that is hit, with its multiple of the risk. -/
def farthest : Outcome × String × Double :=
  let r := (Outcome.tp1Hit, "TP1_HIT", Double.div |s.tp1 - s.entry| |s.entry - s.sl|)
  let r :=
    if 0 < s.tp2 ∧ s.hit tick s.tp2 then
      (.tp2Hit, "TP2_HIT", Double.div |s.tp2 - s.entry| |s.entry - s.sl|)
    else r
  if 0 < s.tp3 ∧ s.hit tick s.tp3 then
    (.tp3Hit, "TP3_HIT", Double.div |s.tp3 - s.entry| |s.entry - s.sl|)
  else r

/-- The body of the loop for a row that has been scanned. -/
def resolution : Option Resolution :=
  let midPrice := (tick.bid + tick.ask) / 2
  if s.expiry ≠ zeroTime ∧ s.expiry < tick.ts then
    some ⟨.expired, "EXPIRED", midPrice, midPrice, midPrice, .finite 0, 0, 0⟩
  else
    let tp1Hit := s.hit tick s.tp1
    let slHit := s.slHit tick
    if tp1Hit && slHit then
      some ⟨.ambiguous, "AMBIGUOUS_PATH", midPrice, midPrice, midPrice, .finite 0, 0, 0⟩
    else if tp1Hit then
      let (outcomeType, eventType, rMult) := s.farthest tick
      some ⟨outcomeType, eventType, midPrice, |midPrice - s.entry|, 0, rMult, secondsSince tick.ts s.snapTime, 0⟩
    else if slHit then
      some ⟨.slHit, "SL_HIT", midPrice, 0, |midPrice - s.entry|,
        Double.div (-|s.entry - s.sl|) |s.entry - s.sl|, 0, secondsSince tick.ts s.snapTime⟩
    else none

end Scanned

/-- The number goes into an `INTEGER` column. -/
def FitsInt4 (n : ℤ) : Prop := -2147483648 ≤ n ∧ n ≤ 2147483647

instance decidableFitsInt4 (n : ℤ) : Decidable (FitsInt4 n) := inferInstanceAs (Decidable (_ ∧ _))

/-- The columns that `updateOutcome` sets. -/
def Resolution.set (res : Resolution) (clock : Time) (row : Snapshot) : Snapshot :=
  { row with
    outcome := some res.outcome
    mfe := some res.mfe
    mae := some res.mae
    rMultiple := some res.rMult
    timeToTP := some res.timeToTP
    timeToSL := some res.timeToSL
    resolvedAt := some clock }

/-- `updateOutcome`: a statement that fails is not looked at. -/
def updateOutcome (clock : Time) (snapID : ℕ) (res : Resolution) (table : List Snapshot) : List Snapshot :=
  if FitsInt4 res.timeToTP ∧ FitsInt4 res.timeToSL then
    updateWhere (fun row => row.id = snapID ∧ row.outcome = some .unresolved) (res.set clock) table
  else table

/-- One turn of the loop. -/
def resolveRow (clock : Time) (tick : Tick) (state : List Snapshot × List OutcomeEvent) (row : Snapshot) :
    List Snapshot × List OutcomeEvent :=
  match scan row with
  | none => state
  | some s =>
    match s.resolution tick with
    | none => state
    | some res =>
      (updateOutcome clock row.id res state.1,
        state.2 ++ [⟨row.id, res.eventType, res.price, tick.ts⟩])

/-- `Resolve`, on the rows that the query lists. -/
def resolve {table : List Snapshot} {now : Time} (listing : Listing table now) (clock : Time) (tick : Tick) :
    List Snapshot × List OutcomeEvent :=
  if tick.bid ≤ 0 ∨ tick.ask ≤ 0 then (table, [])
  else (listing.rows.take 100).foldl (resolveRow clock tick) (table, [])

/-! ## What a pass is for -/

namespace Snapshot
variable (row : Snapshot) (tick : Tick)

/-- The snapshot is of a buy. -/
def Bought : Prop := row.direction = some .buy ∨ row.direction = some .buyCandidate

instance decidableBought : Decidable row.Bought := inferInstanceAs (Decidable (_ ∨ _))

/-- A target that is set is reached: from below by a buy, from above by a sell. -/
def Reached (target : Option ℚ) : Prop :=
  ∃ x ∈ target, 0 < x ∧ if row.Bought then x ≤ tick.bid else tick.ask ≤ x

instance decidableReached (target : Option ℚ) : Decidable (row.Reached tick target) :=
  inferInstanceAs (Decidable (∃ x ∈ target, _))

/-- The tick has reached the stop, if there is one. -/
def Stopped : Prop := ∃ x ∈ row.stopLoss, if row.Bought then tick.ask ≤ x else x ≤ tick.bid

instance decidableStopped : Decidable (row.Stopped tick) := inferInstanceAs (Decidable (∃ x ∈ row.stopLoss, _))

/-- The snapshot has an expiry, and it is over. -/
def Expired : Prop := ∃ t ∈ row.expiry, t ≠ zeroTime ∧ t < tick.ts

instance decidableExpired : Decidable (row.Expired tick) := inferInstanceAs (Decidable (∃ t ∈ row.expiry, _))

/-- The pass has to settle the snapshot. -/
structure Due (now : Time) : Prop where
  eligible : Eligible now row
  reached : row.Expired tick ∨ row.Stopped tick ∨ row.Reached tick row.tp1

instance decidableDue (now : Time) : Decidable (row.Due tick now) :=
  decidable_of_iff (Eligible now row ∧ (row.Expired tick ∨ row.Stopped tick ∨ row.Reached tick row.tp1))
    ⟨fun ⟨a, b⟩ => ⟨a, b⟩, fun ⟨a, b⟩ => ⟨a, b⟩⟩

/-- The outcome of a snapshot that is due. -/
def expected : Outcome :=
  if row.Expired tick then .expired
  else if row.Reached tick row.tp1 ∧ row.Stopped tick then .ambiguous
  else if row.Reached tick row.tp1 then
    if row.Reached tick row.tp3 then .tp3Hit
    else if row.Reached tick row.tp2 then .tp2Hit
    else .tp1Hit
  else .slHit

/-- The snapshot is settled in `row'`: its outcome is written with a finite multiple of the risk, and nothing
but the columns of the outcome is changed. -/
structure Settled (row' : Snapshot) : Prop where
  outcome : row'.outcome = some (row.expected tick)
  finite : ∃ x, row'.rMultiple = some (.finite x)
  others : row = { row' with
    outcome := row.outcome
    mfe := row.mfe
    mae := row.mae
    rMultiple := row.rMultiple
    timeToTP := row.timeToTP
    timeToSL := row.timeToSL
    resolvedAt := row.resolvedAt }

end Snapshot

/-- What a pass does to a row. -/
def Passed (now : Time) (tick : Tick) (row row' : Snapshot) : Prop :=
  if row.Due tick now then row.Settled tick row' else row' = row

/-- Nothing keeps the pass from settling the snapshot. It is among the first hundred, none of its columns is
null, and where a target or the stop settles it, the stop is not at the entry and the seconds that have gone
by fit their column. -/
structure Open {table : List Snapshot} {now : Time} (listing : Listing table now) (tick : Tick)
    (row : Snapshot) : Prop where
  listed : row ∈ listing.rows.take 100
  scanned : row.signalID.isSome ∧ row.strategy.isSome ∧ row.tp2.isSome ∧ row.tp3.isSome ∧ row.expiry.isSome
  risk : ¬ row.Expired tick → ¬ (row.Reached tick row.tp1 ∧ row.Stopped tick) →
    row.entry ≠ row.stopLoss ∧ FitsInt4 (secondsSince tick.ts row.timestamp)

/-! ## One row -/

section

variable {now : Time} {tick : Tick} {row : Snapshot} {s : Scanned}

/-- When a row is scanned, and into what. -/
theorem scan_eq_some_iff :
    scan row = some s ↔ (row.signalID.isSome ∧ row.strategy.isSome) ∧ row.direction = some s.direction ∧
      row.entry = some s.entry ∧ row.stopLoss = some s.sl ∧ row.tp1 = some s.tp1 ∧ row.tp2 = some s.tp2 ∧
      row.tp3 = some s.tp3 ∧ row.expiry = some s.expiry ∧ row.timestamp = s.snapTime := by
  obtain ⟨direction, entry, sl, tp1, tp2, tp3, expiry, snapTime⟩ := s
  simp only [scan, Option.bind_eq_bind, Option.bind_eq_some_iff, Option.pure_def, Option.some.injEq,
    Scanned.mk.injEq, Option.isSome_iff_exists]
  constructor
  · rintro ⟨_, hsignal, _, hstrategy, _, hdirection, _, hentry, _, hsl, _, htp1, _, htp2, _, htp3, _, hexpiry,
      rfl, rfl, rfl, rfl, rfl, rfl, rfl, rfl⟩
    exact ⟨⟨⟨_, hsignal⟩, ⟨_, hstrategy⟩⟩, hdirection, hentry, hsl, htp1, htp2, htp3, hexpiry, rfl⟩
  · rintro ⟨⟨⟨_, hsignal⟩, ⟨_, hstrategy⟩⟩, hdirection, hentry, hsl, htp1, htp2, htp3, hexpiry, rfl⟩
    exact ⟨_, hsignal, _, hstrategy, _, hdirection, _, hentry, _, hsl, _, htp1, _, htp2, _, htp3, _, hexpiry,
      rfl, rfl, rfl, rfl, rfl, rfl, rfl, rfl⟩

theorem scan_fields (h : scan row = some s) :
    (row.signalID.isSome ∧ row.strategy.isSome) ∧ row.direction = some s.direction ∧
      row.entry = some s.entry ∧ row.stopLoss = some s.sl ∧ row.tp1 = some s.tp1 ∧ row.tp2 = some s.tp2 ∧
      row.tp3 = some s.tp3 ∧ row.expiry = some s.expiry ∧ row.timestamp = s.snapTime := by
  rwa [scan_eq_some_iff] at h

/-- An eligible row is scanned when none of the other columns is null. -/
theorem scan_of_eligible (h : Eligible now row) :
    (∃ s, scan row = some s) ↔
      row.signalID.isSome ∧ row.strategy.isSome ∧ row.tp2.isSome ∧ row.tp3.isSome ∧ row.expiry.isSome := by
  constructor
  · rintro ⟨s, hs⟩
    obtain ⟨⟨hsignal, hstrategy⟩, -, -, -, -, htp2, htp3, hexpiry, -⟩ := scan_fields hs
    exact ⟨hsignal, hstrategy, htp2 ▸ rfl, htp3 ▸ rfl, hexpiry ▸ rfl⟩
  · rintro ⟨hsignal, hstrategy, htp2, htp3, hexpiry⟩
    obtain ⟨tp2, htp2⟩ := Option.isSome_iff_exists.mp htp2
    obtain ⟨tp3, htp3⟩ := Option.isSome_iff_exists.mp htp3
    obtain ⟨expiry, hexpiry⟩ := Option.isSome_iff_exists.mp hexpiry
    obtain ⟨entry, hentry, -⟩ := h.entry
    obtain ⟨sl, hsl, -⟩ := h.stopLoss
    obtain ⟨tp1, htp1, -⟩ := h.tp1
    have hdirection : ∃ direction, row.direction = some direction := by
      have hmem := h.direction
      simp only [List.mem_cons, List.not_mem_nil, or_false] at hmem
      rcases hmem with hd | hd | hd | hd <;> exact ⟨_, hd⟩
    obtain ⟨direction, hdirection⟩ := hdirection
    exact ⟨⟨direction, entry, sl, tp1, tp2, tp3, expiry, row.timestamp⟩, scan_eq_some_iff.mpr
      ⟨⟨hsignal, hstrategy⟩, hdirection, hentry, hsl, htp1, htp2, htp3, hexpiry, rfl⟩⟩

/-- The scanned direction is the row's. -/
theorem isBuy_iff (hs : scan row = some s) : s.isBuy = true ↔ row.Bought := by
  obtain ⟨-, hdirection, -⟩ := scan_fields hs
  unfold Scanned.isBuy Snapshot.Bought
  rw [hdirection, decide_eq_true_iff, Option.some.injEq, Option.some.injEq]

/-- The target is hit as the row has it. -/
theorem hit_iff (hs : scan row = some s) {target : ℚ} (hpos : 0 < target) :
    s.hit tick target = true ↔ row.Reached tick (some target) := by
  have hbuy := isBuy_iff hs
  have hreached : row.Reached tick (some target) ↔
      if row.Bought then target ≤ tick.bid else tick.ask ≤ target := by
    constructor
    · rintro ⟨x, hx, -, h⟩
      obtain rfl := Option.some.inj hx
      exact h
    · intro h
      exact ⟨target, rfl, hpos, h⟩
  rw [hreached]
  unfold Scanned.hit
  by_cases h : row.Bought
  · rw [if_pos (hbuy.mpr h), if_pos h, decide_eq_true_iff]
  · rw [if_neg (mt hbuy.mp h), if_neg h, decide_eq_true_iff]

/-- The stop is hit as the row has it. -/
theorem slHit_iff (hs : scan row = some s) : s.slHit tick = true ↔ row.Stopped tick := by
  have hbuy := isBuy_iff hs
  obtain ⟨-, -, -, hsl, -⟩ := scan_fields hs
  have hstopped : row.Stopped tick ↔ if row.Bought then tick.ask ≤ s.sl else s.sl ≤ tick.bid := by
    constructor
    · rintro ⟨x, hx, h⟩
      obtain rfl := Option.some.inj (hsl.symm.trans hx)
      exact h
    · intro h
      exact ⟨s.sl, hsl, h⟩
  rw [hstopped]
  unfold Scanned.slHit
  by_cases h : row.Bought
  · rw [if_pos (hbuy.mpr h), if_pos h, decide_eq_true_iff]
  · rw [if_neg (mt hbuy.mp h), if_neg h, decide_eq_true_iff]

/-- The snapshot is expired as the row has it. -/
theorem expired_iff (hs : scan row = some s) :
    s.expiry ≠ zeroTime ∧ s.expiry < tick.ts ↔ row.Expired tick := by
  obtain ⟨-, -, -, -, -, -, -, hexpiry, -⟩ := scan_fields hs
  constructor
  · intro h
    exact ⟨s.expiry, hexpiry, h⟩
  · rintro ⟨t, ht, h⟩
    obtain rfl := Option.some.inj (hexpiry.symm.trans ht)
    exact h

/-- A target is set and hit as the row has it. -/
theorem target_iff (hs : scan row = some s) {target : Option ℚ} {x : ℚ} (hx : target = some x) :
    0 < x ∧ s.hit tick x = true ↔ row.Reached tick target := by
  subst hx
  constructor
  · rintro ⟨hpos, hhit⟩
    exact (hit_iff hs hpos).mp hhit
  · intro h
    have hreached := h
    obtain ⟨y, hy, hpos, -⟩ := hreached
    obtain rfl := Option.some.inj hy
    exact ⟨hpos, (hit_iff hs hpos).mpr h⟩

/-- The first target of an eligible row. -/
theorem tp1_iff (hs : scan row = some s) (h : Eligible now row) :
    s.hit tick s.tp1 = true ↔ row.Reached tick row.tp1 := by
  obtain ⟨-, -, -, -, htp1, -⟩ := scan_fields hs
  obtain ⟨x, hx, hpos⟩ := h.tp1
  obtain rfl := Option.some.inj (htp1.symm.trans hx)
  rw [← target_iff hs htp1, and_iff_right hpos]

/-- A quotient is finite when its divisor is not zero. -/
theorem div_finite_iff {x y : ℚ} : (∃ z, Double.div x y = .finite z) ↔ y ≠ 0 := by
  unfold Double.div
  by_cases hy : y ≠ 0
  · rw [if_pos hy]
    exact iff_of_true ⟨_, rfl⟩ hy
  · rw [if_neg hy]
    refine iff_of_false ?_ hy
    rintro ⟨z, hz⟩
    split at hz <;> cases hz

/-- The multiple of the risk is a number unless the stop is at the entry. -/
theorem multiple_finite_iff (hs : scan row = some s) {x : ℚ} :
    (∃ z, Double.div x |s.entry - s.sl| = .finite z) ↔ row.entry ≠ row.stopLoss := by
  obtain ⟨-, -, hentry, hsl, -⟩ := scan_fields hs
  rw [div_finite_iff, abs_ne_zero, sub_ne_zero, hentry, hsl, ne_eq, ne_eq, Option.some.injEq]

/-- The farthest target that is hit. -/
theorem farthest_spec (hs : scan row = some s) (tick : Tick) :
    (s.farthest tick).1 = (if row.Reached tick row.tp3 then .tp3Hit
      else if row.Reached tick row.tp2 then .tp2Hit else .tp1Hit) ∧
    ((∃ z, (s.farthest tick).2.2 = .finite z) ↔ row.entry ≠ row.stopLoss) := by
  obtain ⟨-, -, -, -, -, htp2, htp3, -⟩ := scan_fields hs
  have h2 : 0 < s.tp2 ∧ s.hit tick s.tp2 = true ↔ row.Reached tick row.tp2 := target_iff hs htp2
  have h3 : 0 < s.tp3 ∧ s.hit tick s.tp3 = true ↔ row.Reached tick row.tp3 := target_iff hs htp3
  unfold Scanned.farthest
  by_cases hr3 : row.Reached tick row.tp3
  · rw [if_pos (h3.mpr hr3), if_pos hr3]
    exact ⟨rfl, multiple_finite_iff hs⟩
  rw [if_neg (mt h3.mp hr3), if_neg hr3]
  by_cases hr2 : row.Reached tick row.tp2
  · rw [if_pos (h2.mpr hr2), if_pos hr2]
    exact ⟨rfl, multiple_finite_iff hs⟩
  · rw [if_neg (mt h2.mp hr2), if_neg hr2]
    exact ⟨rfl, multiple_finite_iff hs⟩

/-- The database takes what the row is settled with, and it is a number. -/
structure Resolution.Good (res : Resolution) : Prop where
  finite : ∃ x, res.rMult = .finite x
  timeToTP : FitsInt4 res.timeToTP
  timeToSL : FitsInt4 res.timeToSL

/-- A row that is not due is not settled. -/
theorem resolution_of_not_due (hs : scan row = some s) (h : Eligible now row) (hdue : ¬ row.Due tick now) :
    s.resolution tick = none := by
  have hnot : ¬ (row.Expired tick ∨ row.Stopped tick ∨ row.Reached tick row.tp1) :=
    fun hreached => hdue ⟨h, hreached⟩
  obtain ⟨hexpired, hnot⟩ := not_or.mp hnot
  obtain ⟨hstopped, hreached⟩ := not_or.mp hnot
  have htp1 : s.hit tick s.tp1 = false := Bool.eq_false_iff.mpr (mt (tp1_iff hs h).mp hreached)
  have hsl : s.slHit tick = false := Bool.eq_false_iff.mpr (mt (slHit_iff hs).mp hstopped)
  unfold Scanned.resolution
  rw [if_neg (mt (expired_iff hs).mp hexpired), htp1, hsl]
  rfl

theorem Resolution.good_of_zero {res : Resolution} (hr : res.rMult = .finite 0) (htp : res.timeToTP = 0)
    (hsl : res.timeToSL = 0) : res.Good := by
  have hzero : FitsInt4 0 := by decide
  exact ⟨⟨0, hr⟩, htp ▸ hzero, hsl ▸ hzero⟩

/-- A row that is due is settled with its outcome. -/
theorem resolution_of_due (hs : scan row = some s) (hdue : row.Due tick now) :
    ∃ res, s.resolution tick = some res ∧ res.outcome = row.expected tick ∧
      (res.Good ↔ (¬ row.Expired tick → ¬ (row.Reached tick row.tp1 ∧ row.Stopped tick) →
        row.entry ≠ row.stopLoss ∧ FitsInt4 (secondsSince tick.ts row.timestamp))) := by
  have hzero : FitsInt4 0 := by decide
  obtain ⟨-, -, -, -, -, -, -, -, htime⟩ := scan_fields hs
  have htp1 : s.hit tick s.tp1 = true ↔ row.Reached tick row.tp1 := tp1_iff hs hdue.eligible
  have hsl : s.slHit tick = true ↔ row.Stopped tick := slHit_iff hs
  unfold Scanned.resolution Snapshot.expected
  dsimp only
  -- the cases are those of the source: expired, ambiguous, a target, the stop
  by_cases hexpired : row.Expired tick
  · rw [if_pos ((expired_iff hs).mpr hexpired), if_pos hexpired]
    exact ⟨_, rfl, rfl, iff_of_true (Resolution.good_of_zero rfl rfl rfl) fun hno => absurd hexpired hno⟩
  rw [if_neg (mt (expired_iff hs).mp hexpired), if_neg hexpired, forall_prop_of_true hexpired]
  by_cases hboth : row.Reached tick row.tp1 ∧ row.Stopped tick
  · rw [htp1.mpr hboth.1, hsl.mpr hboth.2, if_pos hboth]
    exact ⟨_, rfl, rfl, iff_of_true (Resolution.good_of_zero rfl rfl rfl) fun hno => absurd hboth hno⟩
  rw [if_neg hboth, forall_prop_of_true hboth, htime]
  by_cases hreached : row.Reached tick row.tp1
  · -- a target, and the farthest of those reached counts
    have hstopped : s.slHit tick = false :=
      Bool.eq_false_iff.mpr fun hhit => hboth ⟨hreached, hsl.mp hhit⟩
    obtain ⟨houtcome, hfinite⟩ := farthest_spec hs tick
    rw [htp1.mpr hreached, hstopped, if_pos hreached, ← houtcome]
    refine ⟨_, rfl, rfl, ?_⟩
    rw [← hfinite]
    exact ⟨fun hgood => ⟨hgood.finite, hgood.timeToTP⟩, fun h => ⟨h.1, h.2, hzero⟩⟩
  · have hstopped : row.Stopped tick := (hdue.reached.resolve_left hexpired).resolve_right hreached
    rw [Bool.eq_false_iff.mpr (mt htp1.mp hreached), hsl.mpr hstopped, if_neg hreached]
    refine ⟨_, rfl, rfl, ?_⟩
    rw [← multiple_finite_iff hs]
    exact ⟨fun hgood => ⟨hgood.finite, hgood.timeToSL⟩, fun h => ⟨h.1, hzero, h.2⟩⟩

end

/-! ## The pass -/

section

variable {table : List Snapshot} {now clock : Time} {tick : Tick} {row : Snapshot}

/-- What the database takes for a row. -/
def written (tick : Tick) (row : Snapshot) : Option Resolution :=
  ((scan row).bind (·.resolution tick)).filter fun res => FitsInt4 res.timeToTP ∧ FitsInt4 res.timeToSL

/-- The rows that the turn for `u` writes. -/
def writes (tick : Tick) (u row : Snapshot) : Bool :=
  decide (row.id = u.id ∧ row.outcome = some .unresolved) && (written tick u).isSome

/-- What it writes. -/
def write (clock : Time) (tick : Tick) (u row : Snapshot) : Snapshot :=
  ((written tick u).map (·.set clock row)).getD row

/-- A turn writes the row that it is for, or nothing. -/
theorem resolveRow_fst (state : List Snapshot × List OutcomeEvent) (u : Snapshot) :
    (resolveRow clock tick state u).1 = updateWhere (writes tick u) (write clock tick u) state.1 := by
  have hnothing : written tick u = none →
      updateWhere (writes tick u) (write clock tick u) state.1 = state.1 := by
    intro hnone
    unfold updateWhere writes
    rw [hnone]
    simp
  unfold resolveRow
  cases hscan : scan u with
  | none =>
    rw [hnothing (by unfold written; rw [hscan]; rfl)]
  | some s =>
    dsimp only
    cases hres : s.resolution tick with
    | none =>
      rw [hnothing (by unfold written; rw [hscan, Option.bind_some, hres]; rfl)]
    | some res =>
      dsimp only
      unfold updateOutcome
      by_cases hfits : FitsInt4 res.timeToTP ∧ FitsInt4 res.timeToSL
      · have hwritten : written tick u = some res := by
          unfold written
          rw [hscan, Option.bind_some, hres]
          exact Option.filter_some_pos (by simpa using hfits)
        rw [if_pos hfits]
        unfold updateWhere writes write
        rw [hwritten]
        simp
      · have hwritten : written tick u = none := by
          unfold written
          rw [hscan, Option.bind_some, hres]
          exact Option.filter_some_neg (by simpa using hfits)
        rw [if_neg hfits, hnothing hwritten]

theorem foldl_resolveRow (rows : List Snapshot) (state : List Snapshot × List OutcomeEvent) :
    (rows.foldl (resolveRow clock tick) state).1 =
      rows.foldl (fun t u => updateWhere (writes tick u) (write clock tick u) t) state.1 := by
  induction rows generalizing state with
  | nil => rfl
  | cons u rows ih => rw [List.foldl_cons, List.foldl_cons, ih, resolveRow_fst]

theorem mem_listing {listing : Listing table now} (h : row ∈ listing.rows.take 100) :
    row ∈ table ∧ Eligible now row := by
  have hmem := listing.perm.mem_iff.mp (List.mem_of_mem_take h)
  rw [List.mem_filter, decide_eq_true_iff] at hmem
  exact hmem

theorem id_of_writes {u row : Snapshot} (h : writes tick u row = true) : row.id = u.id :=
  (of_decide_eq_true (Bool.and_eq_true_iff.mp h).1).1

@[simp] theorem id_write (u row : Snapshot) : (write clock tick u row).id = row.id := by
  unfold write
  cases written tick u <;> rfl

/-- A turn rewrites its own row, when that is not settled. -/
theorem write_own (h : row.outcome = some .unresolved) :
    (if writes tick row row then write clock tick row row else row) = write clock tick row row := by
  unfold writes write
  cases written tick row with
  | none => exact ite_self _
  | some res => simp [h]

/-- **A pass, row by row.** Each row is rewritten by itself, if it is among the first hundred. -/
theorem resolve_eq_map (hid : (table.map (·.id)).Nodup) (listing : Listing table now)
    (hbid : 0 < tick.bid) (hask : 0 < tick.ask) :
    (resolve listing clock tick).1 =
      table.map fun row => if row ∈ listing.rows.take 100 then write clock tick row row else row := by
  unfold resolve
  rw [if_neg (not_or.mpr ⟨not_le.mpr hbid, not_le.mpr hask⟩), foldl_resolveRow, foldl_updateWhere]
  apply List.map_congr_left
  intro row hrow
  by_cases hmem : row ∈ listing.rows.take 100
  · have hids : ((listing.rows.take 100).map (·.id)).Nodup := by
      have hall : (listing.rows.map (·.id)).Nodup := by
        rw [(listing.perm.map _).nodup_iff]
        exact hid.sublist (List.filter_sublist.map _)
      exact hall.sublist ((List.take_sublist _ _).map _)
    have hkey : ∀ u r : Snapshot, writes tick u r = true → r.id = u.id := fun _ _ => id_of_writes
    rw [if_pos hmem, foldl_update_own hkey id_write hids hmem]
    exact write_own (mem_listing hmem).2.outcome
  · -- a turn for another row has another id
    rw [if_neg hmem]
    apply foldl_update_other
    intro u hu
    apply Bool.eq_false_iff.mpr
    intro hw
    apply hmem
    rw [eq_of_key hid hrow (mem_listing hu).1 (id_of_writes hw)]
    exact hu

/-- A snapshot that stays as it is has not been settled. -/
theorem not_settled_self (h : Eligible now row) (tick : Tick) : ¬ row.Settled tick row := by
  intro hsettled
  have houtcome := Option.some.inj (h.outcome.symm.trans hsettled.outcome)
  unfold Snapshot.expected at houtcome
  split_ifs at houtcome

/-- A row with the expected outcome is settled when its multiple is finite. -/
theorem set_settled_iff {res : Resolution} (hres : res.outcome = row.expected tick) :
    row.Settled tick (res.set clock row) ↔ ∃ x, res.rMult = .finite x := by
  constructor
  · intro h
    obtain ⟨x, hx⟩ := h.finite
    exact ⟨x, Option.some.inj hx⟩
  · rintro ⟨x, hx⟩
    exact ⟨congrArg some hres, ⟨x, congrArg some hx⟩, rfl⟩

/-- The turn of a row that is due settles it when it can be scanned and nothing spoils its numbers. -/
theorem settled_write_iff (hdue : row.Due tick now) :
    row.Settled tick (write clock tick row row) ↔ ∃ s res, scan row = some s ∧
      s.resolution tick = some res ∧ res.Good := by
  have hunsettled := not_settled_self hdue.eligible tick
  unfold write written
  cases hscan : scan row with
  | none =>
    refine iff_of_false hunsettled ?_
    rintro ⟨s, res, hs, -⟩
    cases hs
  | some s =>
    obtain ⟨res, hres, houtcome, -⟩ := resolution_of_due hscan hdue
    have hsame : (∃ s' res', some s = some s' ∧ s'.resolution tick = some res' ∧ res'.Good) ↔ res.Good := by
      constructor
      · rintro ⟨s', res', hs', hres', hgood⟩
        obtain rfl := Option.some.inj hs'
        obtain rfl := Option.some.inj (hres.symm.trans hres')
        exact hgood
      · intro hgood
        exact ⟨s, res, rfl, hres, hgood⟩
    rw [hsame, Option.bind_some, hres]
    -- a time that does not fit fails the UPDATE, and the row stays as it is
    by_cases hfits : FitsInt4 res.timeToTP ∧ FitsInt4 res.timeToSL
    · rw [Option.filter_some_pos (by simpa using hfits)]
      show row.Settled tick (res.set clock row) ↔ res.Good
      rw [set_settled_iff houtcome]
      exact ⟨fun h => ⟨h, hfits.1, hfits.2⟩, fun h => h.finite⟩
    · rw [Option.filter_some_neg (by simpa using hfits)]
      exact iff_of_false hunsettled fun h => hfits ⟨h.timeToTP, h.timeToSL⟩

/-- The turn of a row that is not due leaves it. -/
theorem write_of_not_due (h : Eligible now row) (hdue : ¬ row.Due tick now) :
    write clock tick row row = row := by
  unfold write written
  cases hscan : scan row with
  | none => rfl
  | some s =>
    rw [Option.bind_some, resolution_of_not_due hscan h hdue]
    rfl

/-- **One row of the pass.** -/
theorem passed_iff (listing : Listing table now) (row : Snapshot) :
    Passed now tick row (if row ∈ listing.rows.take 100 then write clock tick row row else row) ↔
      (row.Due tick now → Open listing tick row) := by
  unfold Passed
  by_cases hdue : row.Due tick now
  · rw [if_pos hdue, forall_prop_of_true hdue]
    by_cases hmem : row ∈ listing.rows.take 100
    · rw [if_pos hmem, settled_write_iff hdue]
      constructor
      · rintro ⟨s, res, hs, hres, hgood⟩
        obtain ⟨res', hres', -, hrisk⟩ := resolution_of_due hs hdue
        obtain rfl := Option.some.inj (hres.symm.trans hres')
        exact ⟨hmem, (scan_of_eligible hdue.eligible).mp ⟨s, hs⟩, hrisk.mp hgood⟩
      · intro h
        obtain ⟨s, hs⟩ := (scan_of_eligible hdue.eligible).mpr h.scanned
        obtain ⟨res, hres, -, hrisk⟩ := resolution_of_due hs hdue
        exact ⟨s, res, hs, hres, hrisk.mpr h.risk⟩
    · rw [if_neg hmem]
      exact iff_of_false (not_settled_self hdue.eligible tick) fun h => hmem h.listed
  · rw [if_neg hdue]
    refine iff_of_true ?_ fun h => absurd h hdue
    by_cases hmem : row ∈ listing.rows.take 100
    · rw [if_pos hmem]
      exact write_of_not_due (mem_listing hmem).2 hdue
    · rw [if_neg hmem]

/-- A pass that does what it is for meets nothing that keeps it from a snapshot that is due. -/
theorem open_of_passed (hid : (table.map (·.id)).Nodup) (listing : Listing table now) (hbid : 0 < tick.bid)
    (hask : 0 < tick.ask) (h : List.Forall₂ (Passed now tick) table (resolve listing clock tick).1)
    (hrow : row ∈ table) (hdue : row.Due tick now) : Open listing tick row := by
  rw [resolve_eq_map hid listing hbid hask, List.forall₂_map_right_iff, List.forall₂_same] at h
  exact (passed_iff listing row).mp (h row hrow) hdue

end

/-- **A pass.** It settles each snapshot that is due with its outcome and a finite multiple, and leaves the
others alone, exactly when nothing keeps it from one that is due. -/
theorem pass_settles_iff {table : List Snapshot} {now : Time} (hid : (table.map (·.id)).Nodup)
    (listing : Listing table now) (clock : Time) (tick : Tick) (hbid : 0 < tick.bid) (hask : 0 < tick.ask) :
    List.Forall₂ (Passed now tick) table (resolve listing clock tick).1 ↔
      ∀ row ∈ table, row.Due tick now → Open listing tick row := by
  constructor
  · intro h row hrow hdue
    exact open_of_passed hid listing hbid hask h hrow hdue
  · intro h
    rw [resolve_eq_map hid listing hbid hask, List.forall₂_map_right_iff, List.forall₂_same]
    intro row hrow
    exact (passed_iff listing row).mpr (h row hrow)

/-- A buy at 2500 that has no expiry, taken `age` seconds before time zero. -/
def shadow (id : ℕ) (age : ℤ) : Snapshot where
  id := id
  timestamp := -age * 1000000000
  signalID := some ""
  strategy := some ""
  direction := some .buy
  entry := some 2500
  stopLoss := some 2490
  tp1 := some 2510
  tp2 := some 0
  tp3 := some 0
  expiry := some zeroTime

/-- Over the first target. -/
def overTarget : Tick := ⟨2512, 2513, 1000000000⟩

/-- The listing of a single eligible row. -/
def listingOf (row : Snapshot) (h : Eligible 0 row) : Listing [row] 0 where
  rows := [row]
  perm := by
    have hall : [row].filter (Eligible 0) = [row] := List.filter_eq_self.mpr (by simp [h])
    rw [hall]
  newest := List.pairwise_singleton _ _

theorem shadow_eligible : Eligible 0 (shadow 0 1) := by decide +kernel

theorem nodup_single (row : Snapshot) : ([row].map (·.id)).Nodup := List.nodup_singleton row.id

/-- A buy at its target, a sell at its stop, a snapshot that is settled already, one that has expired
and one that nothing has reached. -/
def mixed : List Snapshot :=
  [shadow 0 3, { shadow 1 1 with direction := some .sell, stopLoss := some 2510, tp1 := some 2490 },
    { shadow 2 2 with outcome := some .slHit }, { shadow 3 5 with expiry := some 500000000 },
    { shadow 4 4 with tp1 := some 2600 }]

/-- The query lists four of them, the newest first. -/
def mixedListing : Listing mixed 0 where
  rows := [{ shadow 1 1 with direction := some .sell, stopLoss := some 2510, tp1 := some 2490 },
    shadow 0 3, { shadow 4 4 with tp1 := some 2600 }, { shadow 3 5 with expiry := some 500000000 }]
  perm := by decide +kernel
  newest := by decide +kernel

/-- Three of the snapshots are due, and are settled each in its way. -/
theorem settles_mixed :
    List.Forall₂ (Passed 0 overTarget) mixed (resolve mixedListing 0 overTarget).1 ∧
      mixed.filter (·.Due overTarget 0) =
        [shadow 0 3, { shadow 1 1 with direction := some .sell, stopLoss := some 2510, tp1 := some 2490 },
          { shadow 3 5 with expiry := some 500000000 }] ∧
      (resolve mixedListing 0 overTarget).1.map (·.outcome) =
        [some .tp1Hit, some .slHit, some .slHit, some .expired, some .unresolved] := by
  refine ⟨?_, by decide +kernel, by decide +kernel⟩
  refine (pass_settles_iff (by decide) mixedListing 0 overTarget (by decide +kernel)
    (by decide +kernel)).mpr fun row hrow hdue => ?_
  have hopen : ∀ row ∈ mixed, row.Due overTarget 0 →
      row ∈ mixedListing.rows.take 100 ∧
        (row.signalID.isSome ∧ row.strategy.isSome ∧ row.tp2.isSome ∧ row.tp3.isSome ∧
          row.expiry.isSome) ∧
        row.entry ≠ row.stopLoss ∧ FitsInt4 (secondsSince overTarget.ts row.timestamp) := by
    decide +kernel
  obtain ⟨hlisted, hscanned, hrisk⟩ := hopen row hrow hdue
  exact ⟨hlisted, hscanned, fun _ _ => hrisk⟩

/-! ## A backlog, a null, a stop at the entry, and a tick without a time -/

/-- A hundred and one snapshots, the newest first. -/
def backlog : List Snapshot := (List.range 101).map fun i => shadow i i

theorem backlog_eligible : backlog.filter (Eligible 0) = backlog := by
  rw [List.filter_eq_self]
  decide +kernel

/-- The listing of the backlog. -/
def backlogListing : Listing backlog 0 where
  rows := backlog
  perm := by rw [backlog_eligible]
  newest := by decide +kernel

/-- The second target is null. -/
def nullTarget : Snapshot := { shadow 0 1 with tp2 := none }

theorem nullTarget_eligible : Eligible 0 nullTarget := by decide +kernel

/-- The stop is at the entry. -/
def stopAtEntry : Snapshot := { shadow 0 1 with stopLoss := some 2500 }

theorem stopAtEntry_eligible : Eligible 0 stopAtEntry := by decide +kernel

/-- The tick has the zero time. -/
def untimed : Tick := { overTarget with ts := zeroTime }

/-- Each of the four is due, and not settled as it should be. -/
theorem settles_slip :
    ¬ List.Forall₂ (Passed 0 overTarget) backlog (resolve backlogListing 0 overTarget).1 ∧
      ¬ List.Forall₂ (Passed 0 overTarget) [nullTarget]
        (resolve (listingOf nullTarget nullTarget_eligible) 0 overTarget).1 ∧
      ¬ List.Forall₂ (Passed 0 overTarget) [stopAtEntry]
        (resolve (listingOf stopAtEntry stopAtEntry_eligible) 0 overTarget).1 ∧
      ¬ List.Forall₂ (Passed 0 untimed) [shadow 0 1]
        (resolve (listingOf (shadow 0 1) shadow_eligible) 0 untimed).1 := by
  have hbid : 0 < overTarget.bid := by decide +kernel
  have hask : 0 < overTarget.ask := by decide +kernel
  refine ⟨?_, ?_, ?_, ?_⟩
  · intro h
    have hlast : shadow 100 100 ∈ backlog := by decide +kernel
    have hopen := open_of_passed (by decide +kernel) _ hbid hask h hlast (by decide +kernel)
    exact absurd hopen.listed (by decide +kernel)
  · intro h
    have hopen := open_of_passed (nodup_single nullTarget) _ hbid hask h (List.mem_singleton_self _)
      (by decide +kernel)
    exact absurd hopen.scanned (by decide)
  · intro h
    have hopen := open_of_passed (nodup_single stopAtEntry) _ hbid hask h (List.mem_singleton_self _)
      (by decide +kernel)
    exact (hopen.risk (by decide +kernel) (by decide +kernel)).1 rfl
  · intro h
    have hopen := open_of_passed (nodup_single (shadow 0 1)) _ (by decide +kernel) (by decide +kernel) h
      (List.mem_singleton_self _) (by decide +kernel)
    exact absurd (hopen.risk (by decide +kernel) (by decide +kernel)).2 (by decide +kernel)

end PredictATrade.CrossMarket
