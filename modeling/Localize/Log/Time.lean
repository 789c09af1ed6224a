import Localize.Value.Basic

/-!
# The time in logs

Logs write the time in UTC, down to millionths of a second.  A clock gives it as the seconds since
the first day of 1970.

The calendar repeats itself after 400 years, which have 146097 days.  Years are counted from March
on here, so that the day that not every year has is the last one of its year.
-/

set_option autoImplicit false

namespace Localize

namespace Date

/-- The days of 400 years. -/
def cycle : Nat := 146097

/-- The days from the March at the start of a cycle to the first day of 1970. -/
def offset : Nat := 719468

/-- The date of a day, counted from the first day of 1970. -/
def ofDay (day : Nat) : Date :=
  let shifted := day + offset
  let inCycle := shifted % cycle
  let yearInCycle := (inCycle - inCycle / 1460 + inCycle / 36524 - inCycle / 146096) / 365
  let inYear := inCycle - (365 * yearInCycle + yearInCycle / 4 - yearInCycle / 100)
  let monthFromMarch := (5 * inYear + 2) / 153
  let month := if monthFromMarch < 10 then monthFromMarch + 3 else monthFromMarch - 9
  let year := yearInCycle + shifted / cycle * 400 + (if month ≤ 2 then 1 else 0)
  { year, month, day := inYear - (153 * monthFromMarch + 2) / 5 + 1 }

end Date

namespace Moment

/-- The moment after so many seconds, counted from the first day of 1970, and millionths of one. -/
def ofSeconds (seconds millionths : Nat) : Moment where
  date := .ofDay (seconds / 86400)
  hour := seconds % 86400 / 3600
  minute := seconds % 3600 / 60
  second := seconds % 60
  microsecond := millionths
  zone := none

/-- A moment in UTC, as logs write it. -/
def timestamp (m : Moment) : Text := m.iso "T" ++ "Z"

end Moment

end Localize
