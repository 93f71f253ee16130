import Mathlib.Algebra.Order.Group.Int
import Mathlib.Tactic.Ring
import PredictATrade.Lib.Calendar

/-!
# `Lib.Isoformat` — times as text

A time in microseconds since 1970, in UTC, is written as its date, a `T`, the time of day with its
microseconds unless they are zero, and the offset: `2024-01-08T08:00:00+00:00`. `fromIsoformat` reads this
form, with any offset in hours and minutes. It reads back what `isoformat` wrote
(`fromIsoformat_isoformat`), for the years that have four digits.
-/

namespace Lib.Isoformat
open Lib.Calendar

/-! ## Numbers of a fixed width -/

/-- The last `w` decimal digits. -/
def digits : ℕ → ℕ → List Char
  | 0, _ => []
  | w + 1, n => (n / 10 ^ w % 10).digitChar :: digits w n

/-- `w` digits after those that made `n`, and what follows them. -/
def numberFrom : ℕ → ℕ → List Char → Option (ℕ × List Char)
  | n, 0, cs => some (n, cs)
  | _, _ + 1, [] => none
  | n, w + 1, c :: cs => if c.isDigit then numberFrom (10 * n + (c.toNat - 48)) w cs else none

/-- A number of so many digits, and what follows. -/
def number (w : ℕ) (cs : List Char) : Option (ℕ × List Char) := numberFrom 0 w cs

/-- This character, and what follows. -/
def literal (c : Char) : List Char → Option (List Char)
  | [] => none
  | c' :: cs => if c' = c then some cs else none

@[simp] theorem literal_cons (c : Char) (cs : List Char) : literal c (c :: cs) = some cs := by
  simp [literal]

theorem isDigit_digitChar : ∀ n < 10, n.digitChar.isDigit = true := by decide

theorem toNat_digitChar : ∀ n < 10, n.digitChar.toNat - 48 = n := by decide

theorem numberFrom_digits (w n m : ℕ) (cs : List Char) :
    numberFrom m w (digits w n ++ cs) = some (m * 10 ^ w + n % 10 ^ w, cs) := by
  induction w generalizing m with
  | zero => simp [numberFrom, digits, Nat.mod_one]
  | succ w ih =>
      have hlt : n / 10 ^ w % 10 < 10 := Nat.mod_lt _ (by decide)
      rw [digits, List.cons_append, numberFrom, if_pos (isDigit_digitChar _ hlt),
        toNat_digitChar _ hlt, ih, Nat.mod_pow_succ]
      congr 2
      ring

/-- A number that fits is read back. -/
theorem number_digits {w n : ℕ} (h : n < 10 ^ w) (cs : List Char) :
    number w (digits w n ++ cs) = some (n, cs) := by
  rw [number, numberFrom_digits, zero_mul, zero_add, Nat.mod_eq_of_lt h]

/-! ## The fields of a time -/

/-- 24 hours, in microseconds. -/
def dayUs : ℤ := 86400000000

/-- The fields of a time. -/
structure Fields where
  year : ℕ
  month : ℕ
  day : ℕ
  hour : ℕ
  minute : ℕ
  second : ℕ
  microsecond : ℕ
  deriving DecidableEq, Repr

/-- The month, counted as the calendar does. -/
def Fields.months (f : Fields) : ℤ := 12 * f.year + f.month - 3

/-- The fields are those of a time. -/
structure Fields.Valid (f : Fields) : Prop where
  year : 1 ≤ f.year ∧ f.year ≤ 9999
  month : 1 ≤ f.month ∧ f.month ≤ 12
  day : 1 ≤ f.day ∧ f.day ≤ monthLength f.months
  hour : f.hour < 24
  minute : f.minute < 60
  second : f.second < 60
  microsecond : f.microsecond < 1000000

instance Fields.decidableValid (f : Fields) : Decidable f.Valid :=
  decidable_of_iff
    ((1 ≤ f.year ∧ f.year ≤ 9999) ∧ (1 ≤ f.month ∧ f.month ≤ 12) ∧
      (1 ≤ f.day ∧ f.day ≤ monthLength f.months) ∧ f.hour < 24 ∧ f.minute < 60 ∧ f.second < 60 ∧
      f.microsecond < 1000000)
    ⟨fun ⟨a, b, c, d, e, g, h⟩ => ⟨a, b, c, d, e, g, h⟩,
      fun ⟨a, b, c, d, e, g, h⟩ => ⟨a, b, c, d, e, g, h⟩⟩

/-- The time of the fields. -/
def Fields.time (f : Fields) : ℤ :=
  (monthStart f.months + f.day - 1 - epoch) * dayUs +
    (((f.hour * 60 + f.minute) * 60 + f.second) * 1000000 + f.microsecond)

/-- The fields of a time. -/
def fields (t : ℤ) : Fields :=
  let d := t / dayUs + epoch
  let us := (t % dayUs).toNat
  { year := ((monthOf d + 2) / 12).toNat
    month := ((monthOf d + 2) % 12 + 1).toNat
    day := (dayOf d + 1).toNat
    hour := us / 3600000000
    minute := us / 60000000 % 60
    second := us / 1000000 % 60
    microsecond := us % 1000000 }

/-- A time of the years from 1 to 9999. -/
def IsTime (t : ℤ) : Prop := 1 ≤ (fields t).year ∧ (fields t).year ≤ 9999

instance decidableIsTime (t : ℤ) : Decidable (IsTime t) :=
  inferInstanceAs (Decidable (1 ≤ (fields t).year ∧ (fields t).year ≤ 9999))

section
variable {t : ℤ} (h : IsTime t)
include h

theorem fields_months : (fields t).months = monthOf (t / dayUs + epoch) := by
  have hyear := h.1
  simp only [fields, Fields.months] at hyear ⊢
  omega

theorem fields_valid : (fields t).Valid := by
  have hday := dayOf_bounds (t / dayUs + epoch)
  rw [← fields_months h] at hday
  have hus : (t % dayUs).toNat < 86400000000 := by
    unfold dayUs
    omega
  constructor
  case year => exact h
  case month =>
    simp only [fields]
    omega
  case day =>
    simp only [fields] at hday ⊢
    omega
  all_goals
    simp only [fields]
    omega

theorem time_fields : (fields t).time = t := by
  have hmonths := fields_months h
  have hday := dayOf_bounds (t / dayUs + epoch)
  -- the months give the day back, and the time of day is put together from its parts
  have hstart : monthStart (fields t).months + (fields t).day - 1 - epoch = t / dayUs := by
    rw [hmonths]
    simp only [fields]
    unfold dayOf at hday ⊢
    omega
  rw [Fields.time, hstart]
  simp only [fields, dayUs]
  omega

end

/-! ## The text -/

/-- The date as text. -/
def Fields.dateText (f : Fields) : List Char :=
  digits 4 f.year ++ '-' :: (digits 2 f.month ++ '-' :: digits 2 f.day)

/-- The time of day as text. -/
def Fields.timeText (f : Fields) : List Char :=
  digits 2 f.hour ++ ':' :: (digits 2 f.minute ++ ':' :: (digits 2 f.second ++
    (if f.microsecond = 0 then [] else '.' :: digits 6 f.microsecond)))

/-- The time as text, in UTC. -/
def isoformat (t : ℤ) : String :=
  String.ofList
    ((fields t).dateText ++ 'T' :: ((fields t).timeText ++ '+' :: (digits 2 0 ++ ':' :: digits 2 0)))

/-- The microseconds, where there are any. -/
def fraction : List Char → Option (ℕ × List Char)
  | '.' :: cs => number 6 cs
  | cs => some (0, cs)

/-- A date, and what follows. -/
def readDate (cs : List Char) : Option ((ℕ × ℕ × ℕ) × List Char) := do
  let (year, cs) ← number 4 cs
  let (month, cs) ← number 2 (← literal '-' cs)
  let (day, cs) ← number 2 (← literal '-' cs)
  return ((year, month, day), cs)

/-- A time of day, and what follows. -/
def readTime (cs : List Char) : Option ((ℕ × ℕ × ℕ × ℕ) × List Char) := do
  let (hour, cs) ← number 2 cs
  let (minute, cs) ← number 2 (← literal ':' cs)
  let (second, cs) ← number 2 (← literal ':' cs)
  let (microsecond, cs) ← fraction cs
  return ((hour, minute, second, microsecond), cs)

/-- In microseconds; hours and minutes to the end of the text. -/
def offset (cs : List Char) : Option ℤ := do
  let (sign, cs) ← match cs with
    | '+' :: cs => some ((1 : ℤ), cs)
    | '-' :: cs => some (-1, cs)
    | _ => none
  let (hours, cs) ← number 2 cs
  let (minutes, cs) ← number 2 (← literal ':' cs)
  if cs = [] ∧ hours < 24 ∧ minutes < 60 then
    return sign * ((hours * 60 + minutes) * 60000000)
  else none

/-- None for a text of another form, and for a time that there is not. -/
def fromIsoformat (s : String) : Option ℤ := do
  let ((year, month, day), cs) ← readDate s.toList
  let ((hour, minute, second, microsecond), cs) ← readTime (← literal 'T' cs)
  let shift ← offset cs
  let f : Fields := { year, month, day, hour, minute, second, microsecond }
  if f.Valid then return f.time - shift else none

/-! ## Reading back -/

section
variable {f : Fields} (h : f.Valid) (cs : List Char)
include h

theorem readDate_dateText : readDate (f.dateText ++ cs) = some ((f.year, f.month, f.day), cs) := by
  have hlength := (monthLength_bounds f.months).2
  obtain ⟨hyear, hmonth, hday, -⟩ := h
  have hyear : f.year < 10 ^ 4 := by omega
  have hmonth : f.month < 10 ^ 2 := by omega
  have hday : f.day < 10 ^ 2 := by omega
  simp [readDate, Fields.dateText, number_digits hyear, number_digits hmonth, number_digits hday]

theorem fraction_text :
    fraction ((if f.microsecond = 0 then [] else '.' :: digits 6 f.microsecond) ++ '+' :: cs) =
      some (f.microsecond, '+' :: cs) := by
  split_ifs with hzero
  · rw [hzero]
    rfl
  · exact number_digits h.microsecond _

theorem readTime_timeText : readTime (f.timeText ++ '+' :: cs) =
    some ((f.hour, f.minute, f.second, f.microsecond), '+' :: cs) := by
  have hfraction := fraction_text h cs
  obtain ⟨-, -, -, hhour, hminute, hsecond, -⟩ := h
  have hhour : f.hour < 10 ^ 2 := by omega
  have hminute : f.minute < 10 ^ 2 := by omega
  have hsecond : f.second < 10 ^ 2 := by omega
  simp [readTime, Fields.timeText, number_digits hhour, number_digits hminute, number_digits hsecond,
    hfraction]

end

theorem fromIsoformat_isoformat {t : ℤ} (h : IsTime t) : fromIsoformat (isoformat t) = some t := by
  have hoffset : offset ('+' :: (digits 2 0 ++ ':' :: digits 2 0)) = some 0 := by decide
  have hvalid := fields_valid h
  simp [fromIsoformat, isoformat, readDate_dateText hvalid, readTime_timeText hvalid, hoffset, hvalid,
    time_fields h]

example : isoformat 1704700800000000 = "2024-01-08T08:00:00+00:00" := by decide +kernel

end Lib.Isoformat
