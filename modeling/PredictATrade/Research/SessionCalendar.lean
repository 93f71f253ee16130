import PredictATrade.Lib.Calendar
import PredictATrade.Research.Portfolio

/-!
# `Research.SessionCalendar` — trading sessions by the clock

The session a time lies in, from its weekday and hour in UTC. Summer time is taken from the date alone:
from 25 March on, to 24 October.
-/

namespace PredictATrade.Research
open Lib.Calendar

/-! ## Dates -/

/-- 24 hours, in microseconds. -/
def dayUs : ℤ := 86400000000

/-- `ts.date()`, in days since 1970. -/
def date (ts : Datetime) : ℤ := ts / dayUs

/-- `ts.weekday()`: Monday is 0. The first of January 1970 was a Thursday. -/
def weekday (ts : Datetime) : ℤ := (date ts + 3) % 7

/-- The hour of the day. -/
def hour (ts : Datetime) : ℤ := ts % dayUs / 3600000000

/-- From 1 to 12. -/
def month (ts : Datetime) : ℤ := (monthOf (date ts + epoch) + 2) % 12 + 1

/-- The day of the month, from 1 on. -/
def dayOfMonth (ts : Datetime) : ℤ := dayOf (date ts + epoch) + 1

/-! ## Sessions -/

/-- The trading sessions. -/
inductive TradingSession where
  | tokyo | london | newYork | overlap | offHours | weekend
  deriving DecidableEq, Repr

/-- The text of a session. -/
def TradingSession.value : TradingSession → String
  | tokyo => "TOKYO"
  | london => "LONDON"
  | newYork => "NEW_YORK"
  | overlap => "OVERLAP"
  | offHours => "OFF_HOURS"
  | weekend => "WEEKEND"

/-- The kill zones. -/
inductive KillZone where
  | londonKZ | nyKZ
  deriving DecidableEq, Repr

/-- What the calendar says of a time. -/
structure SessionInfo where
  timestamp : Datetime
  session : TradingSession
  isOverlap : Bool
  isWeekend : Bool
  dayOfWeek : ℤ
  isKillZone : Bool
  killZoneType : Option KillZone
  deriving DecidableEq, Repr

/-- The session is one to trade in. -/
def SessionInfo.sessionAllowed (info : SessionInfo) : Bool :=
  info.session ∈ [TradingSession.london, .newYork, .overlap, .tokyo]

/-- 1 in northern summer. -/
def getDstOffset (ts : Datetime) : ℤ :=
  if 4 ≤ month ts ∧ month ts ≤ 9 then 1
  else if month ts = 3 ∧ dayOfMonth ts ≥ 25 then 1
  else if month ts = 10 ∧ dayOfMonth ts < 25 then 1
  else 0

/-- `get_session`. -/
def getSession (ts : Datetime) : SessionInfo :=
  let dow := weekday ts
  if dow ≥ 5 then
    { timestamp := ts
      session := .weekend
      isOverlap := false
      isWeekend := true
      dayOfWeek := dow
      isKillZone := false
      killZoneType := none }
  else
    let hourUtc := hour ts
    let dstOffset := getDstOffset ts
    let inTokyo : Bool := 0 ≤ hourUtc ∧ hourUtc < 9
    let inLondon : Bool := 8 - dstOffset ≤ hourUtc ∧ hourUtc < 17 - dstOffset
    let inNy : Bool := 13 - dstOffset ≤ hourUtc ∧ hourUtc < 22 - dstOffset
    let isOverlap := inLondon && inNy
    let killZoneType :=
      if inLondon ∧ hourUtc < 8 - dstOffset + 2 then some KillZone.londonKZ
      else if inNy ∧ hourUtc < 13 - dstOffset + 2 then some KillZone.nyKZ
      else none
    { timestamp := ts
      session :=
        if isOverlap then .overlap
        else if inLondon then .london
        else if inNy then .newYork
        else if inTokyo then .tokyo
        else .offHours
      isOverlap
      isWeekend := false
      dayOfWeek := dow
      isKillZone := killZoneType.isSome
      killZoneType }

end PredictATrade.Research
