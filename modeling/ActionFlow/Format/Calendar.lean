/-!
# Calendar dates

The proleptic Gregorian calendar of the years 1 to 9999: lengths of months, the number of
days up to a date, and the weeks of the ISO calendar, which begin on Mondays and belong
to the year of their Thursday.
-/

namespace ActionFlow.Format

/-- Whether a year has 366 days. -/
def isLeapYear (year : Nat) : Bool := year % 4 == 0 && (year % 100 != 0 || year % 400 == 0)

/-- The number of days of a month. -/
def daysInMonth (year month : Nat) : Nat :=
  if month = 2 then (if isLeapYear year then 29 else 28)
  else if [4, 6, 9, 11].contains month then 30
  else 31

/-- Whether a date is one of the calendar. -/
def isDate (year month day : Nat) : Bool :=
  1 ≤ year && year ≤ 9999 && 1 ≤ month && month ≤ 12 && 1 ≤ day && day ≤ daysInMonth year month

/-- The number of days before a year. -/
def daysBeforeYear (year : Nat) : Nat :=
  let past := year - 1
  past * 365 + past / 4 - past / 100 + past / 400

/-- The day of the week of the first of January, counted from Monday as zero. -/
def firstWeekday (year : Nat) : Nat := daysBeforeYear year % 7

/-- The number of weeks of a year: 53 when it begins on a Thursday, or on a Wednesday and
has 366 days. -/
def weeksInYear (year : Nat) : Nat :=
  if firstWeekday year = 3 || (firstWeekday year = 2 && isLeapYear year) then 53 else 52

/-- Whether a week date is one of the calendar. The days of a week can fall into the next
year, which must not be the year 10000. -/
def isWeekDate (year week day : Nat) : Bool :=
  1 ≤ year && year ≤ 9999 && 1 ≤ week && week ≤ weeksInYear year && 1 ≤ day && day ≤ 7 &&
    let weekday := firstWeekday year
    let lead : Int := if weekday ≤ 3 then -(weekday : Int) else 7 - (weekday : Int)
    let days : Int := daysBeforeYear year + lead + (week - 1) * 7 + (day - 1)
    0 ≤ days && days < daysBeforeYear 10000

end ActionFlow.Format
