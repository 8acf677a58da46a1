import ReleaseGap.Calendar.Date

/-!
# Ages of dates

A date in the report is tinted by its age: each two months make one of five steps, and a date of
less than a month is left plain.
-/

namespace ReleaseGap.Report

open Calendar (Date)

/-- A date on a scale of months, with the days as parts of a month of 31 days.  The scale is that of
binary floating-point numbers, so ages a day from a limit count as the rounding of the scale says.
-/
def months (d : Date) : Float :=
  Float.ofInt (d.year - 1900) * 12.0 + Float.ofNat d.month + Float.ofNat d.day / 31.0

/-- The steps of the tint, `0` for none. -/
def ageStep (date today : Date) : Nat :=
  let age := ((months today - months date) / 2.0).round
  if age ≤ 0.0 then 0 else if 5.0 ≤ age then 5 else age.toUInt64.toNat

/-- The first digit of the tint of each step. -/
def tintDigit : Nat → String
  | 1 => "3"
  | 2 => "6"
  | 3 => "9"
  | 4 => "c"
  | _ => "f"

/-- A date with its tint. -/
def colorize (date today : Date) : String :=
  match ageStep date today with
  | 0 => date.text
  | step => s!"\x7bcolor:#{tintDigit step}{9 - step}6\x7d{date.text}\x7bcolor\x7d"

end ReleaseGap.Report
