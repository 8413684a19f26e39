/-!
# The calendar

Which days and times of day there are: the Gregorian calendar for the years 1 to 9999, and times of
day without leap seconds.
-/

namespace CacheTelemetry.Calendar

/-- A leap year. -/
def isLeap (year : Nat) : Bool := year % 4 = 0 && (year % 100 != 0 || year % 400 = 0)

/-- The number of days in a month. -/
def daysInMonth (year month : Nat) : Nat :=
  if month = 2 then (if isLeap year then 29 else 28)
  else if month ∈ [4, 6, 9, 11] then 30
  else 31

/-- A day of the calendar. -/
def isDate (year month day : Nat) : Bool :=
  1 ≤ year && year ≤ 9999 && 1 ≤ month && month ≤ 12 && 1 ≤ day && day ≤ daysInMonth year month

/-- A time of day. -/
def isTime (hour minute second : Nat) : Bool := hour < 24 && minute < 60 && second < 60

/-- The number of days from the first day of year 1 to a day. -/
def dayNumber (year month day : Nat) : Nat :=
  let before := year - 1
  let months := (List.range (month - 1)).map fun m => daysInMonth year (m + 1)
  365 * before + before / 4 - before / 100 + before / 400 + months.foldl (· + ·) 0 + (day - 1)

example : isDate 2000 2 29 ∧ ¬ isDate 1900 2 29 := by decide

example : dayNumber 1 1 1 = 0 := by decide

end CacheTelemetry.Calendar
