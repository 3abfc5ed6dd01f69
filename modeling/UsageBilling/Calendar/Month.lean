/-!
# Months of the Gregorian calendar

Days are counted from 1970-01-01 and months from January of the year 0, so a
month is one integer and its successor is the next month. The first day of a
month has a closed form when years begin in March, because the leap day is then
the last day of its year.
-/

namespace UsageBilling.Calendar

/-- A calendar month: twelve times the year, plus the months since January. -/
abbrev Month := Int

namespace Month

/-- The month with number `number` (1 to 12) of a year. -/
def ofYear (year : Int) (number : Nat) : Month :=
  12 * year + number - 1

/-- The year that a month belongs to. -/
def year (m : Month) : Int :=
  m / 12

/-- The number of a month in its year, 1 to 12. -/
def number (m : Month) : Nat :=
  (m % 12).toNat + 1

/-- Days from 0000-03-01 to the first of March of a year. -/
def daysToMarch (y : Int) : Int :=
  365 * y + y / 4 - y / 100 + y / 400

/-- Days from the first of March to the first day of the `n`-th month after it. -/
def daysFromMarch (n : Int) : Int :=
  (153 * n + 2) / 5

/-- Days from 0000-03-01 to 1970-01-01. -/
def epochOffset : Int := 719468

/-- The first day of a month. -/
def firstDay (m : Month) : Int :=
  daysToMarch ((m - 2) / 12) + daysFromMarch ((m - 2) % 12) - epochOffset

/-- The year, beginning in March, that the day `z` after 0000-03-01 belongs to. -/
def marchYear (z : Int) : Int :=
  let guess := 400 * z / 146097
  if z < daysToMarch guess then guess - 1
  else if daysToMarch (guess + 1) ≤ z then guess + 1
  else guess

/-- The month that a day belongs to. -/
def ofDay (day : Int) : Month :=
  let z := day + epochOffset
  let y := marchYear z
  12 * y + (5 * (z - daysToMarch y) + 2) / 153 + 2

/-- The number of days in a month. -/
def length (m : Month) : Int :=
  firstDay (m + 1) - firstDay m

/-- The first month whose days can be represented. -/
def first : Month := ofYear (-262143) 1

/-- The last month whose days can be represented. -/
def last : Month := ofYear 262142 12

/-- The month before, or the month itself if there is none before it. -/
def previous (m : Month) : Month :=
  if m ≤ first then m else m - 1

/-- The month after, or the month itself if there is none after it. -/
def next (m : Month) : Month :=
  if last ≤ m then m else m + 1

end Month

end UsageBilling.Calendar
