import ReleaseGap.Calendar.Date

/-!
# Moments

A moment as a clock shows it: the day, the time of day and how far the clock is ahead of universal
time.
-/

namespace ReleaseGap.Calendar

/-- The day that lies some days behind 1 January 1970, if the calendar knows it.  Years are taken to
begin in March, so that the day that leap years have besides is the last one. -/
def Date.ofNumber? (number : Int) : Option Date :=
  -- 400 years have 146097 days, and the first such period begins on 1 March of the year 0.
  let shifted := number + 719468
  let period := shifted / 146097
  let day := (shifted % 146097).toNat
  let year := (day - day / 1460 + day / 36524 - day / 146096) / 365
  let dayOfYear := day - (365 * year + year / 4 - year / 100)
  let fromMarch := (5 * dayOfYear + 2) / 153
  let month := if fromMarch < 10 then fromMarch + 3 else fromMarch - 9
  let civilYear := year + period * 400 + if month ≤ 2 then 1 else 0
  Date.of? civilYear month (dayOfYear - (153 * fromMarch + 2) / 5 + 1)

/-- The year of a day when years begin in March. -/
def Date.marchYear (d : Date) : Int := if d.month ≤ 2 then d.year - 1 else d.year

/-- The months from March to the month of a day. -/
def Date.monthsFromMarch (d : Date) : Nat := if d.month ≤ 2 then d.month + 9 else d.month - 3

/-- The days from 1 March to a day of the same year from March on. -/
def Date.daysFromMarch (d : Date) : Nat := (153 * d.monthsFromMarch + 2) / 5 + (d.day - 1)

/-- The days from 1 January 1970 to a day. -/
def Date.number (d : Date) : Int :=
  let year := (d.marchYear % 400).toNat
  let day := 365 * year + year / 4 - year / 100 + d.daysFromMarch
  d.marchYear / 400 * 146097 + day - 719468

structure Moment where
  date : Date
  /-- The name of the day of the week. -/
  weekday : String
  /-- The seconds since midnight. -/
  second : Nat
  /-- The minutes that the clock is ahead of universal time. -/
  offset : Int

namespace Moment

def weekdays : List String := ["Mon", "Tue", "Wed", "Thu", "Fri", "Sat", "Sun"]

def months : List String :=
  ["Jan", "Feb", "Mar", "Apr", "May", "Jun", "Jul", "Aug", "Sep", "Oct", "Nov", "Dec"]

/-- The moment some seconds behind the beginning of 1970 in universal time, on a clock that is ahead
by `offset` minutes. -/
def ofSeconds? (seconds offset : Int) : Option Moment := do
  let shown := seconds + offset * 60
  let number := shown / 86400
  let date ← Date.ofNumber? number
  -- 1 January 1970 was a Thursday.
  let weekday := weekdays.getD ((number + 3) % 7).toNat ""
  return ⟨date, weekday, (shown % 86400).toNat, offset⟩

/-- A distance from universal time as a sign, hours and minutes. -/
def offsetText (offset : Int) : String :=
  let n := offset.natAbs
  (if offset < 0 then "-" else "+") ++ Date.padded 2 (n / 60) ++ Date.padded 2 (n % 60)

def timeText (second : Nat) : String :=
  ":".intercalate ([second / 3600, second / 60 % 60, second % 60].map (Date.padded 2))

/-- The line that a moment is written as; the day fills two columns. -/
def text (m : Moment) : String :=
  let day := if m.date.day < 10 then s!" {m.date.day}" else toString m.date.day
  let month := months.getD (m.date.month - 1) ""
  s!"{m.weekday} {month} {day} {timeText m.second} {offsetText m.offset} "
    ++ Date.yearText m.date.year

end Moment

end ReleaseGap.Calendar
