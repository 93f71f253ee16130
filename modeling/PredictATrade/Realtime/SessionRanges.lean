import Mathlib.Algebra.Order.Ring.Rat
import Mathlib.Order.Bounds.Basic
import PredictATrade.Lib.Runs
import PredictATrade.Realtime.Features

/-!
# `Realtime.SessionRanges` — the ranges of the trading sessions

`SessionORBEngine.process` is `Process` of the opening range engine: a price goes into the range of one
session, the ranges begin anew with a day, and the price is then compared with a range.

The law of a candle is about the prices that came before it: each session's range spans the positive ones
of its day, and the price breaks out when it leaves the range of those before it. The engine keeps it along
a run none of whose prices meets one of its four slips (`Keeps`): the overlap of London and New York counts
for London only, the range already has the price in it when they are compared, a price that is not positive
goes into a range, and two days a year apart are one day. `session_ranges` is the run; in it no price breaks
out.
-/

namespace PredictATrade.Realtime.Features.SessionORB
open Lib.Decimal Lib.Runs

/-! ## The broker's clock -/

/-- What the broker's clock shows: the day of a year, the hour, and the time since it struck. -/
structure BrokerTime where
  year : ℤ
  yearDay : ℕ
  hour : ℕ
  sinceHour : ℕ
  yearDay_pos : 0 < yearDay
  hour_lt : hour < 24
  deriving DecidableEq

namespace BrokerTime
variable {a b c : BrokerTime}

/-- The clock shows the same day. -/
def SameDay (a b : BrokerTime) : Prop := a.year = b.year ∧ a.yearDay = b.yearDay

instance decidableSameDay (a b : BrokerTime) : Decidable (a.SameDay b) :=
  inferInstanceAs (Decidable (_ ∧ _))

/-- The clock shows `a` before it shows `b`, or both at once. -/
def NotAfter (a b : BrokerTime) : Prop :=
  a.year < b.year ∨ a.year = b.year ∧ (a.yearDay < b.yearDay ∨ a.yearDay = b.yearDay ∧
    (a.hour < b.hour ∨ a.hour = b.hour ∧ a.sinceHour ≤ b.sinceHour))

instance decidableNotAfter (a b : BrokerTime) : Decidable (a.NotAfter b) :=
  inferInstanceAs (Decidable (_ ∨ _))

/-- A day comes once. -/
theorem NotAfter.sameDay (hab : a.NotAfter b) (hbc : b.NotAfter c) (hac : a.SameDay c) : b.SameDay c := by
  unfold NotAfter SameDay at *
  omega

theorem NotAfter.hour_le (hab : a.NotAfter b) (h : a.SameDay b) : a.hour ≤ b.hour := by
  unfold NotAfter SameDay at *
  omega

theorem NotAfter.refl (a : BrokerTime) : a.NotAfter a := by
  unfold NotAfter
  omega

end BrokerTime

/-! ## The engine -/

/-- The sessions. -/
inductive Session where
  | asian | london | ny
  deriving DecidableEq, Repr

/-- The directions of a breakout. -/
inductive Breakout where
  | none | buy | sell
  deriving DecidableEq, Repr

/-- The range of a session. -/
structure SessionRange where
  high : Decimal := 0
  low : Decimal := 0
  opening : Decimal := 0
  barCount : ℕ := 0
  deriving DecidableEq, Repr

/-- `updateRange`. -/
def SessionRange.updateRange (sr : SessionRange) (price : Decimal) : SessionRange where
  low := if sr.low = 0 ∨ price < sr.low then price else sr.low
  high := if sr.high = 0 ∨ price > sr.high then price else sr.high
  opening := if sr.opening = 0 then price else sr.opening
  barCount := sr.barCount + 1

/-- The engine of the ranges. -/
structure SessionORBEngine where
  asian : SessionRange := {}
  london : SessionRange := {}
  ny : SessionRange := {}
  lastDay : ℕ := 0
  deriving DecidableEq, Repr

/-- What the engine reports. -/
structure SessionORBFeatures where
  asianHigh : Decimal := 0
  asianLow : Decimal := 0
  asianRange : Decimal := 0
  londonHigh : Decimal := 0
  londonLow : Decimal := 0
  londonRange : Decimal := 0
  nyHigh : Decimal := 0
  nyLow : Decimal := 0
  nyRange : Decimal := 0
  breakoutDir : Breakout := .none
  distFromHi : Decimal := 0
  distFromLo : Decimal := 0
  deriving DecidableEq, Repr

/-- The bounds of a session, as they are reported. -/
def SessionORBFeatures.bounds (feat : SessionORBFeatures) : Session → Decimal × Decimal
  | .asian => (feat.asianHigh, feat.asianLow)
  | .london => (feat.londonHigh, feat.londonLow)
  | .ny => (feat.nyHigh, feat.nyLow)

namespace SessionORBEngine

/-- The range of a session. -/
def range (e : SessionORBEngine) : Session → SessionRange
  | .asian => e.asian
  | .london => e.london
  | .ny => e.ny

/-- The ranges begin anew with a day of the year. -/
def atDay (e : SessionORBEngine) (dayOfYear : ℕ) : SessionORBEngine :=
  if dayOfYear ≠ e.lastDay then { lastDay := dayOfYear } else e

/-- `updateSessionRange`. -/
def updateSessionRange (e : SessionORBEngine) (hour : ℕ) (price : Decimal) : SessionORBEngine :=
  if 0 ≤ hour ∧ hour < 8 then { e with asian := e.asian.updateRange price }
  else if 8 ≤ hour ∧ hour < 17 then { e with london := e.london.updateRange price }
  else if 13 ≤ hour ∧ hour < 22 then { e with ny := e.ny.updateRange price }
  else e

/-- The part of the report that compares the price with a range. -/
def compared (currentRange : SessionRange) (price : Decimal) (feat : SessionORBFeatures) :
    SessionORBFeatures :=
  if currentRange.high = 0 then feat
  else
    let feat :=
      if price > currentRange.high then { feat with breakoutDir := .buy }
      else if price < currentRange.low then { feat with breakoutDir := .sell }
      else feat
    let rangeSize := currentRange.high - currentRange.low
    if 0 < rangeSize then
      { feat with
        distFromHi := decimalDiv (price - currentRange.high) rangeSize
        distFromLo := decimalDiv (currentRange.low - price) rangeSize }
    else feat

/-- The part of the report that says what the ranges are. -/
def ranges (e : SessionORBEngine) : SessionORBFeatures :=
  let feat : SessionORBFeatures := {}
  let feat :=
    if e.asian.low ≠ 0 then
      { feat with
        asianHigh := e.asian.high, asianLow := e.asian.low, asianRange := e.asian.high - e.asian.low }
    else feat
  let feat :=
    if e.london.low ≠ 0 then
      { feat with
        londonHigh := e.london.high, londonLow := e.london.low
        londonRange := e.london.high - e.london.low }
    else feat
  if e.ny.low ≠ 0 then
    { feat with nyHigh := e.ny.high, nyLow := e.ny.low, nyRange := e.ny.high - e.ny.low }
  else feat

/-- `Process`, at the time that the broker's clock shows for the candle. -/
def process (e : SessionORBEngine) (brokerNow : BrokerTime) (price : Decimal) :
    SessionORBEngine × SessionORBFeatures :=
  let e := e.atDay brokerNow.yearDay
  let hour := brokerNow.hour
  let e := e.updateSessionRange hour price
  let currentRange := if 13 ≤ hour ∧ hour < 17 then e.london else e.ny
  (e, compared currentRange price e.ranges)

end SessionORBEngine

/-! ## The law of a candle -/

/-- The hour a session opens at. -/
def Session.opens : Session → ℕ
  | .asian => 0
  | .london => 8
  | .ny => 13

/-- The hour a session closes at. -/
def Session.closes : Session → ℕ
  | .asian => 8
  | .london => 17
  | .ny => 22

/-- The session is open at the hour. -/
def Session.Open (s : Session) (hour : ℕ) : Prop := s.opens ≤ hour ∧ hour < s.closes

instance Session.decidableOpen (s : Session) (hour : ℕ) : Decidable (s.Open hour) :=
  inferInstanceAs (Decidable (_ ∧ _))

/-- The session that an hour is in; in the overlap it is London. -/
def currentSession (hour : ℕ) : Option Session :=
  if hour < 8 then some .asian
  else if hour < 17 then some .london
  else if hour < 22 then some .ny
  else none

/-- The positive prices that a session has had on the day of `t`. -/
def prices (seen : List (BrokerTime × Decimal)) (t : BrokerTime) (s : Session) : Set Decimal :=
  {x | 0 < x ∧ ∃ t', (t', x) ∈ seen ∧ t'.SameDay t ∧ s.Open t'.hour}

/-- The bounds are the greatest and the least of the prices, and nothing if there are none. -/
def Spans (bounds : Decimal × Decimal) (S : Set Decimal) : Prop :=
  (S = ∅ → bounds = (0, 0)) ∧ (S.Nonempty → IsGreatest S bounds.1 ∧ IsLeast S bounds.2)

/-- An engine with the candles that it has processed, the newest first. -/
structure Clocked where
  engine : SessionORBEngine := {}
  seen : List (BrokerTime × Decimal) := []

namespace Clocked

/-- The engine and the prices after one more candle. -/
def step (w : Clocked) (candle : BrokerTime × Decimal) : Clocked :=
  ⟨(w.engine.process candle.1 candle.2).1, candle :: w.seen⟩

/-- What the engine reports of a candle. -/
def report (w : Clocked) (candle : BrokerTime × Decimal) : SessionORBFeatures :=
  (w.engine.process candle.1 candle.2).2

/-- The reported bounds span the day's prices, this one among them, and in a session the breakout is told
by the prices that it has had before. -/
structure Law (w : Clocked) (candle : BrokerTime × Decimal) : Prop where
  ranges : ∀ s, Spans ((w.report candle).bounds s) (prices (candle :: w.seen) candle.1 s)
  buy : ∀ s ∈ currentSession candle.1.hour, (w.report candle).breakoutDir = .buy ↔
    (prices w.seen candle.1 s).Nonempty ∧ ∀ x ∈ prices w.seen candle.1 s, x < candle.2
  sell : ∀ s ∈ currentSession candle.1.hour, (w.report candle).breakoutDir = .sell ↔
    (prices w.seen candle.1 s).Nonempty ∧ ∀ x ∈ prices w.seen candle.1 s, candle.2 < x

/-- The candle does not meet a slip. In a session its price is not negative and not outside the range of the
prices before it; it is not a price in the overlap of London and New York; and on the same day of another
year the last day has had no other price, and had this one in the same session. -/
structure Keeps (w : Clocked) (candle : BrokerTime × Decimal) : Prop where
  sign : candle.1.hour < 22 → 0 ≤ candle.2
  overlap : 13 ≤ candle.1.hour → candle.1.hour < 17 → candle.2 ≤ 0
  inside : ∀ s ∈ currentSession candle.1.hour, (prices w.seen candle.1 s).Nonempty →
    (∃ x ∈ prices w.seen candle.1 s, x ≤ candle.2) ∧ ∃ x ∈ prices w.seen candle.1 s, candle.2 ≤ x
  anew : ∀ last ∈ w.seen.head?, last.1.yearDay = candle.1.yearDay → last.1.year ≠ candle.1.year →
    ∀ s, ∀ x ∈ prices w.seen last.1 s, x = candle.2 ∧ currentSession candle.1.hour = some s

/-- The clock has not gone back. -/
def InOrder (w : Clocked) (candle : BrokerTime × Decimal) : Prop :=
  ∀ b ∈ w.seen, b.1.NotAfter candle.1

/-- What a run without slips keeps: the engine is at the last candle's day, and its ranges span the prices
of that day. -/
structure Sound (w : Clocked) : Prop where
  fresh : w.seen = [] → w.engine = {}
  day : ∀ last ∈ w.seen.head?, w.engine.lastDay = last.1.yearDay
  newest : ∀ last ∈ w.seen.head?, ∀ b ∈ w.seen, b.1.NotAfter last.1
  spans : ∀ last ∈ w.seen.head?, ∀ s,
    Spans ((w.engine.range s).high, (w.engine.range s).low) (prices w.seen last.1 s)
  overlap : ∀ b ∈ w.seen, 13 ≤ b.1.hour → b.1.hour < 17 → b.2 ≤ 0

end Clocked

/-! ## Ranges and prices -/

section

variable {S : Set Decimal} {price : Decimal} {seen : List (BrokerTime × Decimal)} {t t' : BrokerTime}
  {s : Session}

/-- The bounds of no prices. -/
theorem spans_empty_iff {bounds : Decimal × Decimal} : Spans bounds ∅ ↔ bounds = (0, 0) := by
  constructor
  · intro h
    exact h.1 rfl
  · intro h
    exact ⟨fun _ => h, fun hne => absurd hne Set.not_nonempty_empty⟩

/-- The bounds of some prices. -/
theorem spans_iff_of_nonempty {bounds : Decimal × Decimal} (hne : S.Nonempty) :
    Spans bounds S ↔ IsGreatest S bounds.1 ∧ IsLeast S bounds.2 :=
  ⟨fun h => h.2 hne, fun h => ⟨fun he => absurd he hne.ne_empty, fun _ => h⟩⟩

/-- A positive price goes into the range. -/
theorem Spans.updateRange {sr : SessionRange} (h : Spans (sr.high, sr.low) S) (hS : ∀ x ∈ S, 0 < x) :
    Spans ((sr.updateRange price).high, (sr.updateRange price).low) (insert price S) := by
  rw [spans_iff_of_nonempty (Set.insert_nonempty _ _)]
  rcases S.eq_empty_or_nonempty with rfl | hne
  · rw [spans_empty_iff, Prod.mk.injEq] at h
    have hhigh : (sr.updateRange price).high = price := if_pos (Or.inl h.1)
    have hlow : (sr.updateRange price).low = price := if_pos (Or.inl h.2)
    rw [hhigh, hlow, insert_empty_eq]
    exact ⟨isGreatest_singleton, isLeast_singleton⟩
  · obtain ⟨hgreatest, hleast⟩ := h.2 hne
    have hhigh : (sr.updateRange price).high = max price sr.high := by
      show (if sr.high = 0 ∨ price > sr.high then price else sr.high) = _
      rw [max_comm, max_def_lt]
      simp only [(hS _ hgreatest.1).ne', false_or, gt_iff_lt]
    have hlow : (sr.updateRange price).low = min price sr.low := by
      show (if sr.low = 0 ∨ price < sr.low then price else sr.low) = _
      rw [min_def_lt]
      simp only [(hS _ hleast.1).ne', false_or]
    rw [hhigh, hlow]
    exact ⟨hgreatest.insert price, hleast.insert price⟩

/-- A price of zero leaves a range that has nothing in it as it is. -/
theorem Spans.updateRange_zero {sr : SessionRange} (h : Spans (sr.high, sr.low) ∅) :
    Spans ((sr.updateRange 0).high, (sr.updateRange 0).low) ∅ := by
  rw [spans_empty_iff, Prod.mk.injEq] at *
  exact ⟨if_pos (Or.inl h.1), if_pos (Or.inl h.2)⟩

theorem prices_pos {x : Decimal} (hx : x ∈ prices seen t s) : 0 < x := hx.1

/-- A price that does not count for the session. -/
theorem prices_cons_other (h : ¬ s.Open t.hour ∨ price ≤ 0) :
    prices ((t, price) :: seen) t s = prices seen t s := by
  ext x
  constructor
  · rintro ⟨hpos, t', hmem, hday, hopen⟩
    rcases List.mem_cons.mp hmem with heq | hmem
    · obtain ⟨rfl, rfl⟩ := Prod.mk.inj heq
      rcases h with h | h
      · exact absurd hopen h
      · exact absurd hpos (not_lt.mpr h)
    · exact ⟨hpos, t', hmem, hday, hopen⟩
  · rintro ⟨hpos, t', hmem, hday, hopen⟩
    exact ⟨hpos, t', List.mem_cons_of_mem _ hmem, hday, hopen⟩

/-- A positive price of the session. -/
theorem prices_cons_open (hopen : s.Open t.hour) (hprice : 0 < price) :
    prices ((t, price) :: seen) t s = insert price (prices seen t s) := by
  ext x
  constructor
  · rintro ⟨hpos, t', hmem, hday, hopen⟩
    rcases List.mem_cons.mp hmem with heq | hmem
    · exact Set.mem_insert_iff.mpr (Or.inl (Prod.mk.inj heq).2)
    · exact Set.mem_insert_of_mem _ ⟨hpos, t', hmem, hday, hopen⟩
  · intro hx
    rcases Set.mem_insert_iff.mp hx with rfl | ⟨hpos, t', hmem, hday, hopen⟩
    · exact ⟨hprice, t, List.mem_cons_self, ⟨rfl, rfl⟩, hopen⟩
    · exact ⟨hpos, t', List.mem_cons_of_mem _ hmem, hday, hopen⟩

theorem prices_sameDay (h : t.SameDay t') : prices seen t s = prices seen t' s := by
  unfold prices BrokerTime.SameDay at *
  simp only [h.1, h.2]

theorem open_of_current {hour : ℕ} (h : currentSession hour = some s) : s.Open hour := by
  unfold currentSession at h
  split_ifs at h with h8 h17 h22
  all_goals
    obtain rfl := Option.some.inj h
    unfold Session.Open Session.opens Session.closes
    dsimp only
    omega

/-- A session that is open at an hour is the one that the hour is in, except New York in the overlap. -/
theorem current_of_open {hour : ℕ} (h : s.Open hour) (hoverlap : ¬ (13 ≤ hour ∧ hour < 17)) :
    currentSession hour = some s := by
  unfold currentSession
  cases s
  all_goals
    unfold Session.Open Session.opens Session.closes at h
    dsimp only at h
  · rw [if_pos h.2]
  · rw [if_neg (by omega), if_pos h.2]
  · rw [if_neg (by omega), if_neg (by omega), if_pos h.2]

end

/-! ## One call -/

namespace SessionORBEngine
variable (e : SessionORBEngine) (price : Decimal) (feat : SessionORBFeatures)

theorem range_updateSessionRange (hour : ℕ) (s : Session) :
    (e.updateSessionRange hour price).range s =
      if currentSession hour = some s then (e.range s).updateRange price else e.range s := by
  have hasian : (0 ≤ hour ∧ hour < 8) ↔ hour < 8 := by omega
  unfold updateSessionRange currentSession
  simp only [hasian]
  by_cases h8 : hour < 8
  · rw [if_pos h8, if_pos h8]
    cases s <;> rfl
  rw [if_neg h8, if_neg h8]
  by_cases h17 : hour < 17
  · rw [if_pos ⟨by omega, h17⟩, if_pos h17]
    cases s <;> rfl
  rw [if_neg (fun h => h17 h.2), if_neg h17]
  by_cases h22 : hour < 22
  · rw [if_pos ⟨by omega, h22⟩, if_pos h22]
    cases s <;> rfl
  · rw [if_neg (fun h => h22 h.2), if_neg h22, if_neg (Option.some_ne_none s).symm]

@[simp] theorem lastDay_updateSessionRange (hour : ℕ) :
    (e.updateSessionRange hour price).lastDay = e.lastDay := by
  unfold updateSessionRange
  split_ifs <;> rfl

@[simp] theorem bounds_compared (r : SessionRange) (s : Session) :
    (compared r price feat).bounds s = feat.bounds s := by
  unfold compared
  dsimp only
  split_ifs <;> cases s <;> rfl

/-- A price within the range, or a range with nothing in it. -/
theorem breakoutDir_compared {r : SessionRange} (h : r.high = 0 ∨ r.low ≤ price ∧ price ≤ r.high) :
    (compared r price feat).breakoutDir = feat.breakoutDir := by
  unfold compared
  dsimp only
  by_cases hzero : r.high = 0
  · rw [if_pos hzero]
  · obtain ⟨hlow, hhigh⟩ := h.resolve_left hzero
    rw [if_neg hzero, if_neg (not_lt.mpr hhigh), if_neg (not_lt.mpr hlow)]
    split_ifs <;> rfl

@[simp] theorem breakoutDir_ranges : e.ranges.breakoutDir = .none := by
  unfold ranges
  dsimp only
  split_ifs <;> rfl

theorem bounds_ranges (s : Session) :
    e.ranges.bounds s = if (e.range s).low ≠ 0 then ((e.range s).high, (e.range s).low) else (0, 0) := by
  unfold ranges
  by_cases ha : e.asian.low = 0 <;> by_cases hl : e.london.low = 0 <;> by_cases hn : e.ny.low = 0 <;>
    cases s <;> simp [SessionORBFeatures.bounds, range, ha, hl, hn]

/-- A range that spans positive prices is reported as it is. -/
theorem bounds_ranges_of_spans {s : Session} {S : Set Decimal}
    (h : Spans ((e.range s).high, (e.range s).low) S) (hS : ∀ x ∈ S, 0 < x) :
    e.ranges.bounds s = ((e.range s).high, (e.range s).low) := by
  rw [bounds_ranges]
  rcases S.eq_empty_or_nonempty with rfl | hne
  · rw [spans_empty_iff] at h
    rw [h, if_neg (not_not.mpr (Prod.mk.inj h).2)]
  · exact if_pos (hS _ (h.2 hne).2.1).ne'

end SessionORBEngine

theorem SessionORBEngine.lastDay_atDay (e : SessionORBEngine) (day : ℕ) : (e.atDay day).lastDay = day := by
  unfold atDay
  split
  · rfl
  · next h => exact (not_not.mp h).symm

namespace Clocked
variable {w : Clocked} {t : BrokerTime} {price : Decimal}

/-- The engine after the candle. -/
def after (w : Clocked) (t : BrokerTime) (price : Decimal) : SessionORBEngine :=
  (w.engine.atDay t.yearDay).updateSessionRange t.hour price

/-- The engine after a candle. -/
theorem step_engine : (w.step (t, price)).engine = w.after t price := rfl

/-- Nothing of the day has been seen when the last candle was on another one. -/
theorem prices_eq_empty {last : BrokerTime × Decimal} (hlast : last ∈ w.seen.head?) (h : w.Sound)
    (hin : w.InOrder (t, price)) (hday : ¬ last.1.SameDay t) (s : Session) : prices w.seen t s = ∅ := by
  rw [Set.eq_empty_iff_forall_notMem]
  rintro x ⟨-, t', hmem, hsame, -⟩
  apply hday
  exact (h.newest last hlast _ hmem).sameDay (hin last (List.mem_of_mem_head? hlast)) hsame

/-- A range that begins anew holds nothing, like the day so far. -/
theorem range_anew {e : SessionORBEngine} {day : ℕ} (he : e = { lastDay := day }) {s : Session}
    (hempty : prices w.seen t s = ∅) :
    ∃ S, Spans ((e.range s).high, (e.range s).low) S ∧ (∀ x ∈ S, 0 < x) ∧ prices w.seen t s ⊆ S ∧
      ∀ x ∈ S, x ∈ prices w.seen t s ∨ x = price ∧ currentSession t.hour = some s := by
  have hblank : e.range s = {} := by
    rw [he]
    cases s <;> rfl
  refine ⟨∅, ?_, fun x hx => absurd hx (Set.notMem_empty x), hempty.subset,
    fun x hx => absurd hx (Set.notMem_empty x)⟩
  rw [spans_empty_iff, hblank]

/-- What a range holds when the price comes in: the day's prices, and on the same day of another year
perhaps the price itself. -/
theorem range_atDay (h : w.Sound) (hin : w.InOrder (t, price)) (hkeeps : w.Keeps (t, price))
    (s : Session) :
    ∃ S, Spans (((w.engine.atDay t.yearDay).range s).high, ((w.engine.atDay t.yearDay).range s).low) S ∧
      (∀ x ∈ S, 0 < x) ∧ prices w.seen t s ⊆ S ∧
      ∀ x ∈ S, x ∈ prices w.seen t s ∨ x = price ∧ currentSession t.hour = some s := by
  cases hhead : w.seen.head? with
  | none =>
    -- the ranges are blank, whether the day counts as a new one or not
    rw [List.head?_eq_none_iff] at hhead
    have hblank : w.engine.atDay t.yearDay = { lastDay := t.yearDay } := by
      rw [h.fresh hhead]
      unfold SessionORBEngine.atDay
      split
      · rfl
      · next hday => rw [not_not.mp hday]
    apply range_anew hblank
    rw [hhead, Set.eq_empty_iff_forall_notMem]
    rintro x ⟨-, t', hmem, -⟩
    exact absurd hmem List.not_mem_nil
  | some last =>
    have hday := h.day last hhead
    by_cases hsame : last.1.yearDay = t.yearDay
    · -- the engine keeps its ranges, on the same day of another year too
      have hkept : w.engine.atDay t.yearDay = w.engine := by
        unfold SessionORBEngine.atDay
        rw [hday, hsame]
        exact if_neg (not_not.mpr rfl)
      rw [hkept]
      refine ⟨prices w.seen last.1 s, h.spans last hhead s, fun x hx => prices_pos hx, ?_, ?_⟩
      · by_cases hyear : last.1.year = t.year
        · exact (prices_sameDay ⟨hyear, hsame⟩).superset
        · rw [prices_eq_empty hhead h hin fun hd => hyear hd.1]
          exact Set.empty_subset _
      · intro x hx
        by_cases hyear : last.1.year = t.year
        · left
          rwa [← prices_sameDay ⟨hyear, hsame⟩]
        · right
          exact hkeeps.anew last hhead hsame hyear s x hx
    · have hblank : w.engine.atDay t.yearDay = { lastDay := t.yearDay } := by
        unfold SessionORBEngine.atDay
        rw [hday, if_pos (Ne.symm hsame)]
      exact range_anew hblank (prices_eq_empty hhead h hin (fun hd => hsame hd.2) s)

/-- In a session the price is positive, or it is zero and the first. -/
theorem Keeps.pos_or_first (hkeeps : w.Keeps (t, price)) {s : Session}
    (hs : currentSession t.hour = some s) : 0 < price ∨ price = 0 ∧ prices w.seen t s = ∅ := by
  have hopen := open_of_current hs
  have h22 : t.hour < 22 := by
    unfold Session.Open Session.closes at hopen
    cases s <;> dsimp only at hopen <;> omega
  rcases (hkeeps.sign h22).lt_or_eq with hpos | hzero
  · exact Or.inl hpos
  · refine Or.inr ⟨hzero.symm, Set.not_nonempty_iff_eq_empty.mp fun hne => ?_⟩
    obtain ⟨x, hx, hle⟩ := (hkeeps.inside s hs hne).1
    exact absurd (prices_pos hx) (not_lt.mpr (hle.trans hzero.ge))

/-- **One price.** Afterwards each range spans the day's prices, this one among them. -/
theorem spans_after (h : w.Sound) (hin : w.InOrder (t, price)) (hkeeps : w.Keeps (t, price))
    (s : Session) :
    Spans (((w.after t price).range s).high, ((w.after t price).range s).low)
      (prices ((t, price) :: w.seen) t s) := by
  obtain ⟨S, hspans, hpos, hsub, hmem⟩ := range_atDay h hin hkeeps s
  unfold after
  rw [SessionORBEngine.range_updateSessionRange]
  by_cases hs : currentSession t.hour = some s
  · rw [if_pos hs]
    rcases hkeeps.pos_or_first hs with hprice | ⟨rfl, hempty⟩
    · -- whatever of the range is not of the day is the price itself
      rw [prices_cons_open (open_of_current hs) hprice]
      have hS : insert price S = insert price (prices w.seen t s) := by
        apply Set.Subset.antisymm
        · apply Set.insert_subset (Set.mem_insert _ _)
          intro x hx
          rcases hmem x hx with hx | ⟨rfl, -⟩
          · exact Set.mem_insert_of_mem _ hx
          · exact Set.mem_insert _ _
        · exact Set.insert_subset_insert hsub
      rw [← hS]
      exact hspans.updateRange hpos
    · have hS : S = ∅ := by
        rw [Set.eq_empty_iff_forall_notMem]
        intro x hx
        rcases hmem x hx with hx' | ⟨rfl, -⟩
        · rw [hempty] at hx'
          exact hx'
        · exact absurd (hpos 0 hx) (lt_irrefl 0)
      rw [prices_cons_other (Or.inr le_rfl), hempty]
      rw [hS] at hspans
      exact hspans.updateRange_zero
  · -- another session is updated; this one is open at the hour in the overlap only, where no price counts
    rw [if_neg hs]
    have hS : S = prices w.seen t s := by
      apply Set.Subset.antisymm _ hsub
      intro x hx
      exact (hmem x hx).resolve_right fun hx' => hs hx'.2
    have hother : ¬ s.Open t.hour ∨ price ≤ 0 := by
      by_contra hno
      obtain ⟨hopen, hprice⟩ := not_or.mp hno
      apply hs
      apply current_of_open (not_not.mp hopen)
      rintro ⟨h13, h17⟩
      exact hprice (hkeeps.overlap h13 h17)
    rw [prices_cons_other hother, ← hS]
    exact hspans

/-- **Step.** The ranges stay those of the day's prices. -/
theorem Sound.step (h : w.Sound) (hin : w.InOrder (t, price)) (hkeeps : w.Keeps (t, price)) :
    (w.step (t, price)).Sound where
  fresh hnil := absurd hnil (List.cons_ne_nil _ _)
  day last hlast := by
    obtain rfl := Option.some.inj hlast
    rw [step_engine, after, SessionORBEngine.lastDay_updateSessionRange, SessionORBEngine.lastDay_atDay]
  newest last hlast b hb := by
    obtain rfl := Option.some.inj hlast
    rcases List.mem_cons.mp hb with rfl | hb
    · exact BrokerTime.NotAfter.refl _
    · exact hin b hb
  spans last hlast s := by
    obtain rfl := Option.some.inj hlast
    exact spans_after h hin hkeeps s
  overlap b hb h13 h17 := by
    rcases List.mem_cons.mp hb with rfl | hb
    · exact hkeeps.overlap h13 h17
    · exact h.overlap b hb h13 h17

/-- The range of the session that the hour is in has the price in it, or nothing. -/
theorem current_range_after (h : w.Sound) (hin : w.InOrder (t, price)) (hkeeps : w.Keeps (t, price))
    {s : Session} (hs : currentSession t.hour = some s) :
    ((w.after t price).range s).high = 0 ∨
      ((w.after t price).range s).low ≤ price ∧ price ≤ ((w.after t price).range s).high := by
  have hspans := spans_after h hin hkeeps s
  rcases hkeeps.pos_or_first hs with hprice | ⟨rfl, hempty⟩
  · right
    rw [prices_cons_open (open_of_current hs) hprice] at hspans
    obtain ⟨hgreatest, hleast⟩ := hspans.2 (Set.insert_nonempty _ _)
    exact ⟨hleast.2 (Set.mem_insert _ _), hgreatest.2 (Set.mem_insert _ _)⟩
  · left
    rw [prices_cons_other (Or.inr le_rfl), hempty, spans_empty_iff] at hspans
    exact (Prod.mk.inj hspans).1

/-- New York has no prices of the day before it opens. -/
theorem ny_range_after (h : w.Sound) (hin : w.InOrder (t, price)) (hkeeps : w.Keeps (t, price))
    (h13 : t.hour < 13) : ((w.after t price).range .ny).high = 0 := by
  have hspans := spans_after h hin hkeeps .ny
  have hempty : prices ((t, price) :: w.seen) t .ny = ∅ := by
    rw [Set.eq_empty_iff_forall_notMem]
    rintro x ⟨-, t', hmem, hday, hopen⟩
    have hle : t'.hour ≤ t.hour := by
      rcases List.mem_cons.mp hmem with heq | hmem
      · obtain ⟨rfl, -⟩ := Prod.mk.inj heq
        exact le_rfl
      · exact (hin _ hmem).hour_le hday
    exact absurd (hopen.1.trans hle) (not_le.mpr h13)
  rw [hempty, spans_empty_iff] at hspans
  exact (Prod.mk.inj hspans).1

/-- No price of a session breaks out. -/
theorem breakoutDir_report (h : w.Sound) (hin : w.InOrder (t, price)) (hkeeps : w.Keeps (t, price))
    {s : Session} (hs : currentSession t.hour = some s) :
    (w.report (t, price)).breakoutDir = .none := by
  have hopen := open_of_current hs
  have hwithin : ∀ r : SessionRange, r.high = 0 ∨ r.low ≤ price ∧ price ≤ r.high →
      (SessionORBEngine.compared r price (w.after t price).ranges).breakoutDir = .none := by
    intro r hr
    rw [SessionORBEngine.breakoutDir_compared _ _ hr, SessionORBEngine.breakoutDir_ranges]
  show (SessionORBEngine.compared (if 13 ≤ t.hour ∧ t.hour < 17 then (w.after t price).london
    else (w.after t price).ny) price (w.after t price).ranges).breakoutDir = .none
  apply hwithin
  by_cases hoverlap : 13 ≤ t.hour ∧ t.hour < 17
  · rw [if_pos hoverlap]
    have hlondon : currentSession t.hour = some .london := by
      unfold currentSession
      rw [if_neg (by omega), if_pos hoverlap.2]
    exact current_range_after h hin hkeeps hlondon
  · rw [if_neg hoverlap]
    by_cases h13 : t.hour < 13
    · exact Or.inl (ny_range_after h hin hkeeps h13)
    · have hny : currentSession t.hour = some .ny := by
        apply current_of_open _ hoverlap
        unfold Session.Open Session.closes Session.opens at *
        cases s <;> dsimp only at * <;> omega
      exact current_range_after h hin hkeeps hny

/-- A candle that meets no slip keeps the law. -/
theorem law_of_keeps (h : w.Sound) (hin : w.InOrder (t, price)) (hkeeps : w.Keeps (t, price)) :
    w.Law (t, price) := by
  refine ⟨?_, ?_, ?_⟩
  · intro s
    have hspans := spans_after h hin hkeeps s
    show Spans ((SessionORBEngine.compared _ price (w.after t price).ranges).bounds s) _
    rw [SessionORBEngine.bounds_compared,
      SessionORBEngine.bounds_ranges_of_spans _ hspans fun x hx => prices_pos hx]
    exact hspans
  · intro s hs
    rw [breakoutDir_report h hin hkeeps hs]
    refine iff_of_false Breakout.noConfusion ?_
    rintro ⟨hne, hall⟩
    obtain ⟨x, hx, hle⟩ := (hkeeps.inside s hs hne).2
    exact absurd (hall x hx) (not_lt.mpr hle)
  · intro s hs
    rw [breakoutDir_report h hin hkeeps hs]
    refine iff_of_false Breakout.noConfusion ?_
    rintro ⟨hne, hall⟩
    obtain ⟨x, hx, hle⟩ := (hkeeps.inside s hs hne).1
    exact absurd (hall x hx) (not_lt.mpr hle)

end Clocked

/-! ## Runs -/

namespace Clocked

/-- The clock does not go back along candles in the order of time. -/
theorem along_inOrder {w : Clocked} {candles : List (BrokerTime × Decimal)}
    (hseen : ∀ b ∈ w.seen, ∀ c ∈ candles, b.1.NotAfter c.1)
    (hin : candles.Pairwise fun a b => a.1.NotAfter b.1) : Along step InOrder w candles := by
  induction candles generalizing w with
  | nil => trivial
  | cons c candles ih =>
    obtain ⟨hfirst, hrest⟩ := List.pairwise_cons.mp hin
    refine ⟨fun b hb => hseen b hb c List.mem_cons_self, ih ?_ hrest⟩
    intro b hb c' hc'
    rcases List.mem_cons.mp hb with rfl | hb
    · exact hfirst c' hc'
    · exact hseen b hb c' (List.mem_cons_of_mem _ hc')

/-- A new engine has no prices. -/
theorem new_sound : Sound {} where
  fresh _ := rfl
  day _ hlast := absurd hlast.symm (Option.some_ne_none _)
  newest _ hlast := absurd hlast.symm (Option.some_ne_none _)
  spans _ hlast := absurd hlast.symm (Option.some_ne_none _)
  overlap _ hb := absurd hb List.not_mem_nil

end Clocked

/-- **The sessions of a run.** In a run in the order of time whose prices meet no slip, each report has the
bounds of the day's prices, and tells the breakouts. -/
theorem session_ranges (candles : List (BrokerTime × Decimal))
    (hin : candles.Pairwise fun a b => a.1.NotAfter b.1)
    (hkeeps : Along Clocked.step Clocked.Keeps {} candles) :
    Along Clocked.step Clocked.Law {} candles := by
  have horder : Along Clocked.step Clocked.InOrder {} candles :=
    Clocked.along_inOrder (fun _ hb => absurd hb List.not_mem_nil) hin
  exact (along_and.mpr ⟨horder, hkeeps⟩).of_keeps (I := Clocked.Sound)
    (fun _ _ h hc => h.step hc.1 hc.2) (fun _ _ h hc => Clocked.law_of_keeps h hc.1 hc.2) Clocked.new_sound

/-- The clock at a full hour. -/
def clock (year : ℤ) (yearDay hour : ℕ) (hday : 0 < yearDay) (hhour : hour < 24) : BrokerTime where
  year := year
  yearDay := yearDay
  hour := hour
  sinceHour := 0
  yearDay_pos := hday
  hour_lt := hhour

/-- A price outside the overlap that is the first of its session on the day, or the one it has had,
meets no slip within a year. -/
theorem Clocked.keeps_of_steady {w : Clocked} {candle : BrokerTime × Decimal} (hpos : 0 < candle.2)
    (hhour : candle.1.hour < 13 ∨ 17 ≤ candle.1.hour)
    (hsteady : ∀ b ∈ w.seen, b.1.SameDay candle.1 →
      ∀ s ∈ currentSession candle.1.hour, s.Open b.1.hour → b.2 = candle.2)
    (hyear : ∀ b ∈ w.seen, b.1.year = candle.1.year) : w.Keeps candle where
  sign _ := hpos.le
  overlap hfrom hto := by omega
  inside := by
    intro s hs ⟨x, hx⟩
    have hsame : x = candle.2 := by
      obtain ⟨-, t', hmem, hday, hopen⟩ := hx
      exact hsteady (t', x) hmem hday s hs hopen
    exact ⟨⟨x, hx, hsame.le⟩, ⟨x, hx, hsame.ge⟩⟩
  anew last hlast _ hne := absurd (hyear last (List.mem_of_mem_head? hlast)) hne

/-- The night, the morning and the evening of a day, and the night after it. -/
def nightToNight : List (BrokerTime × Decimal) :=
  [(clock 2026 6 2 (by decide) (by decide), 100), (clock 2026 6 5 (by decide) (by decide), 100),
    (clock 2026 6 9 (by decide) (by decide), 101), (clock 2026 6 11 (by decide) (by decide), 101),
    (clock 2026 6 18 (by decide) (by decide), 99), (clock 2026 7 3 (by decide) (by decide), 98)]

/-- Two sessions of the day have had a price before, and the next day starts anew. -/
theorem session_ranges_nightToNight : Along Clocked.step Clocked.Law {} nightToNight := by
  apply session_ranges nightToNight
  · decide
  · refine ⟨?_, ?_, ?_, ?_, ?_, ?_, trivial⟩ <;>
      exact Clocked.keeps_of_steady (by decide) (by decide) (by decide) (by decide)

/-! ## The overlap, a breakout, a negative price, and the same day of the next year -/

/-- A price of London and New York. -/
def inOverlap : List (BrokerTime × Decimal) := [(clock 2026 6 13 (by decide) (by decide), 100)]

/-- London's second price is over its first. -/
def overFirst : List (BrokerTime × Decimal) :=
  [(clock 2026 6 9 (by decide) (by decide), 100), (clock 2026 6 10 (by decide) (by decide), 101)]

/-- A price below zero. -/
def negative : List (BrokerTime × Decimal) := [(clock 2026 6 2 (by decide) (by decide), -1)]

/-- Nothing comes in for a year. -/
def yearApart : List (BrokerTime × Decimal) :=
  [(clock 2025 6 2 (by decide) (by decide), 100), (clock 2026 6 3 (by decide) (by decide), 90)]

/-- The law fails at the last candle of each of the four. -/
theorem session_ranges_slip :
    (∀ candles ∈ [inOverlap, overFirst, negative, yearApart],
        candles.Pairwise fun a b => a.1.NotAfter b.1) ∧
      ¬ Along Clocked.step Clocked.Law {} inOverlap ∧ ¬ Along Clocked.step Clocked.Law {} overFirst ∧
      ¬ Along Clocked.step Clocked.Law {} negative ∧ ¬ Along Clocked.step Clocked.Law {} yearApart := by
  refine ⟨by decide, ?_, ?_, ?_, ?_⟩
  · rintro ⟨hlaw, -⟩
    have hmem : (100 : Decimal) ∈ prices inOverlap (clock 2026 6 13 (by decide) (by decide)) .ny :=
      ⟨by decide, _, List.mem_singleton_self _, ⟨rfl, rfl⟩, by decide⟩
    have hle := ((hlaw.ranges .ny).2 ⟨_, hmem⟩).1.2 hmem
    exact absurd hle (by decide +kernel)
  · rintro ⟨-, hlaw, -⟩
    have hbuy := (hlaw.buy .london rfl).mpr ⟨⟨100, by decide, _, List.mem_singleton_self _,
      ⟨rfl, rfl⟩, by decide⟩, ?_⟩
    · exact absurd hbuy (by decide +kernel)
    · rintro x ⟨-, t', hmem, -⟩
      obtain ⟨-, rfl⟩ := Prod.mk.inj (List.mem_singleton.mp hmem)
      decide
  · rintro ⟨hlaw, -⟩
    have hempty : prices negative (clock 2026 6 2 (by decide) (by decide)) .asian = ∅ := by
      rw [Set.eq_empty_iff_forall_notMem]
      rintro x ⟨hpos, t', hmem, -⟩
      obtain ⟨-, rfl⟩ := Prod.mk.inj (List.mem_singleton.mp hmem)
      exact absurd hpos (by decide)
    exact absurd ((hlaw.ranges .asian).1 hempty) (by decide +kernel)
  · rintro ⟨-, hlaw, -⟩
    have hmem : (90 : Decimal) ∈ prices yearApart.reverse (clock 2026 6 3 (by decide) (by decide)) .asian :=
      ⟨by decide, _, List.mem_cons_self, ⟨rfl, rfl⟩, by decide⟩
    obtain ⟨-, t', hin, hday, -⟩ := ((hlaw.ranges .asian).2 ⟨_, hmem⟩).1.1
    rcases List.mem_cons.mp hin with heq | hin
    · exact absurd (Prod.mk.inj heq).2 (by decide +kernel)
    · obtain ⟨rfl, -⟩ := Prod.mk.inj (List.mem_singleton.mp hin)
      exact absurd hday.1 (by decide)

end PredictATrade.Realtime.Features.SessionORB
