import Mathlib.Order.Basic
import Mathlib.Algebra.Group.Int.Defs
import Mathlib.Data.Int.Notation

/-!
# `Lib.Calendar` — adding months to a date

Days are counted from 1 March of the year 0, in the Gregorian calendar, and months from that March
on. With years that begin in March the leap day is the last day of a year, and the days before a
month are given by one formula for all years (`monthStart`).

`addMonths` keeps the day of the month, or takes the last day of a month that has no such day;
`plusMonths` does so with a time in milliseconds since 1970, in UTC. A month has 28 to 31 days
(`monthLength_bounds`), and every day lies in its month (`monthOf_spec`).
-/

namespace Lib.Calendar

/-- The days before 1 March of year `y`. -/
def yearStart (y : ℤ) : ℤ := 365 * y + y / 4 - y / 100 + y / 400

/-- The days of a year before its month `k`; March is 0. -/
def monthOffset (k : ℤ) : ℤ := (153 * k + 2) / 5

/-- The days before the first of month `m`. -/
def monthStart (m : ℤ) : ℤ := yearStart (m / 12) + monthOffset (m % 12)

/-- The days of month `m`. -/
def monthLength (m : ℤ) : ℤ := monthStart (m + 1) - monthStart m

/-- The month of a day. 4800 months have 146097 days; the month this gives is off by one at most. -/
def monthOf (d : ℤ) : ℤ :=
  let m := 4800 * d / 146097
  if d < monthStart m then m - 1 else if monthStart (m + 1) ≤ d then m + 1 else m

/-- The day of its month, from 0 on. -/
def dayOf (d : ℤ) : ℤ := d - monthStart (monthOf d)

/-- The same day `n` months on, or the last day of that month. -/
def addMonths (n d : ℤ) : ℤ :=
  let m := monthOf d + n
  monthStart m + min (dayOf d) (monthLength m - 1)

/-- 24 hours. -/
def dayMs : ℤ := 86400000

/-- The days before 1 January 1970. -/
def epoch : ℤ := 719468

/-- The same time of day `n` months on. -/
def plusMonths (n t : ℤ) : ℤ := (addMonths n (t / dayMs + epoch) - epoch) * dayMs + t % dayMs

/-! ## Years and months -/

variable {k : ℤ}

theorem yearStart_succ (y : ℤ) :
    yearStart y + 365 ≤ yearStart (y + 1) ∧ yearStart (y + 1) ≤ yearStart y + 366 := by
  -- centuries are counted in fours of years, so that the three quotients step together
  have h100 : ∀ z : ℤ, z / 100 = z / 4 / 25 := by
    intro z
    omega
  have h400 : ∀ z : ℤ, z / 400 = z / 4 / 25 / 4 := by
    intro z
    omega
  simp only [yearStart, h100, h400]
  have hstep : (y + 1) / 4 = y / 4 ∨ (y + 1) / 4 = y / 4 + 1 := by omega
  rcases hstep with h | h
  · rw [h]
    omega
  · rw [h]
    omega

theorem monthOffset_succ (k : ℤ) :
    monthOffset k + 30 ≤ monthOffset (k + 1) ∧ monthOffset (k + 1) ≤ monthOffset k + 31 := by
  simp only [monthOffset]
  omega

theorem monthLength_bounds (m : ℤ) : 28 ≤ monthLength m ∧ monthLength m ≤ 31 := by
  simp only [monthLength, monthStart]
  by_cases hk : m % 12 = 11
  · -- February: what the year has left
    have hy : (m + 1) / 12 = m / 12 + 1 := by omega
    have hz : (m + 1) % 12 = 0 := by omega
    have hyear := yearStart_succ (m / 12)
    rw [hy, hz, hk]
    simp only [monthOffset]
    omega
  · have hy : (m + 1) / 12 = m / 12 := by omega
    have hz : (m + 1) % 12 = m % 12 + 1 := by omega
    have hmonth := monthOffset_succ (m % 12)
    rw [hy, hz]
    omega

/-! ## The month of a day -/

theorem yearStart_near (y : ℤ) :
    146097 * y - 800 ≤ 400 * yearStart y ∧ 400 * yearStart y ≤ 146097 * y + 400 := by
  simp only [yearStart]
  omega

theorem monthOffset_near (h0 : 0 ≤ k) (h : k < 12) :
    146097 * k - 4800 ≤ 4800 * monthOffset k ∧ 4800 * monthOffset k ≤ 146097 * k + 14400 := by
  simp only [monthOffset]
  omega

theorem monthStart_near (m : ℤ) :
    146097 * m - 14400 ≤ 4800 * monthStart m ∧ 4800 * monthStart m ≤ 146097 * m + 19200 := by
  have hy := yearStart_near (m / 12)
  have hk : 0 ≤ m % 12 ∧ m % 12 < 12 := by omega
  have hm := monthOffset_near hk.1 hk.2
  simp only [monthStart]
  omega

/-- A day lies in its month. -/
theorem monthOf_spec (d : ℤ) :
    monthStart (monthOf d) ≤ d ∧ d < monthStart (monthOf d + 1) := by
  simp only [monthOf]
  generalize hm : 4800 * d / 146097 = m
  have hbefore := monthStart_near (m - 1)
  have hafter := monthStart_near (m + 2)
  split_ifs with hlt hle
  · rw [sub_add_cancel]
    omega
  · have hnext : m + 1 + 1 = m + 2 := by omega
    rw [hnext]
    omega
  · omega

theorem dayOf_bounds (d : ℤ) : 0 ≤ dayOf d ∧ dayOf d < monthLength (monthOf d) := by
  have hd := monthOf_spec d
  simp only [dayOf, monthLength]
  omega

end Lib.Calendar
