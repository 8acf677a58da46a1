import Mathlib.Tactic.Common
import ReleaseGap.Calendar.Moment

/-!
# Days by number

A day is found again by its number.  A moment that was read as a day and a time of day on some clock
is therefore on that day by the same clock, and on another clock it is on that day just as long as
the other clock has not passed midnight.
-/
namespace ReleaseGap.Calendar

theorem isLeap_iff {year : Int} :
    isLeap year = true ↔ year % 4 = 0 ∧ (year % 100 ≠ 0 ∨ year % 400 = 0) := by
  simp [isLeap]

/-! ## The place of a day in its year -/

namespace Date

variable (d : Date)

theorem month_mem : 1 ≤ d.month ∧ d.month ≤ 12 := by
  obtain ⟨-, -, hfirst, hlast⟩ := d.isDay
  unfold daysIn at hlast
  split at hlast <;> omega

/-- The months from March on are as long as the numbers of their days allow for, except for the
last, which is cut short. -/
theorem day_le_cases :
    d.monthsFromMarch ≤ 10 ∧
        d.day ≤ (153 * (d.monthsFromMarch + 1) + 2) / 5 - (153 * d.monthsFromMarch + 2) / 5 ∨
      d.monthsFromMarch = 11 ∧ (d.day ≤ 28 ∨ d.day = 29 ∧ isLeap (d.marchYear + 1) = true) := by
  obtain ⟨year, month, day, hlow, hhigh, hfirst, hlast⟩ := d
  unfold daysIn at hlast
  split at hlast
  case h_1 =>
    by_cases hleap : isLeap year = true <;>
      simp [monthsFromMarch, marchYear, hleap] at hlast ⊢ <;> omega
  all_goals (simp [monthsFromMarch, marchYear]; omega)

theorem day_le : d.day ≤ 31 := by
  rcases d.day_le_cases with ⟨hmonth, hday⟩ | ⟨-, hday | ⟨hday, -⟩⟩ <;> omega

theorem daysFromMarch_le :
    d.daysFromMarch < 365 ∨ d.daysFromMarch = 365 ∧ isLeap (d.marchYear + 1) = true := by
  rw [daysFromMarch]
  rcases d.day_le_cases with ⟨hmonth, hday⟩ | ⟨hmonth, hday | ⟨hday, hleap⟩⟩
  · omega
  · omega
  · exact .inr ⟨by omega, hleap⟩

theorem monthsFromMarch_eq : (5 * d.daysFromMarch + 2) / 153 = d.monthsFromMarch := by
  rw [daysFromMarch]
  have hfirst := d.isDay.2.2.1
  rcases d.day_le_cases with ⟨hmonth, hday⟩ | ⟨hmonth, hday | ⟨hday, -⟩⟩ <;> omega

end Date

/-! ## The place of a day in a period of 400 years -/

/-- A day of a period is given by a year of the period and a day of that year, both counted
from 0.  A year has 366 days if it is the last of four, and of a hundred only if it is the last of
400. -/
structure IsDayOfPeriod (year days : Nat) : Prop where
  year_lt : year < 400
  days_lt : days < 365 ∨ days = 365 ∧ year % 4 = 3 ∧ (year % 100 ≠ 99 ∨ year = 399)

def dayOfPeriod (year days : Nat) : Nat := 365 * year + year / 4 - year / 100 + days

theorem dayOfPeriod_eq {g f r : Nat} (hf : f ≤ 24) (hr : r ≤ 3) (days : Nat) :
    dayOfPeriod (100 * g + 4 * f + r) days = 36524 * g + 1461 * f + 365 * r + days := by
  have hfours : (100 * g + 4 * f + r) / 4 = 25 * g + f := by omega
  have hhundreds : (100 * g + 4 * f + r) / 100 = g := by omega
  rw [dayOfPeriod, hfours, hhundreds]
  omega

/-- The year of a day, from the hundreds, the fours and the rest of the years before it.  On the
last day of a year of 366 days the estimates of `ofNumber?` are off by one. -/
theorem div_eq_hundreds_fours {g f r days n : Nat} (hg : g ≤ 3) (hf : f ≤ 24) (hr : r ≤ 3)
    (hdays : days < 365 ∨ days = 365 ∧ r = 3 ∧ (f < 24 ∨ g = 3))
    (hn : n = 36524 * g + 1461 * f + 365 * r + days) :
    n < 146097 ∧ (n - n / 1460 + n / 36524 - n / 146096) / 365 = 100 * g + 4 * f + r := by
  have hfours : n / 1460 = 25 * g + f + (24 * g + f + 365 * r + days) / 1460 := by omega
  have hhundreds : n < 146097 ∧ n / 36524 = g + n / 146096 := by
    have hrest : 1461 * f + 365 * r + days < 36524 ∨
        g = 3 ∧ 1461 * f + 365 * r + days = 36524 := by omega
    rcases hrest with hrest | ⟨rfl, hrest⟩ <;> omega
  have hexcess : (24 * g + f + 365 * r + days) / 1460 ≤ min 1 days := by omega
  have hlast : days = 365 → 1 ≤ (24 * g + f + 365 * r + days) / 1460 := by omega
  omega

theorem IsDayOfPeriod.year_eq {year days n : Nat} (h : IsDayOfPeriod year days)
    (hn : dayOfPeriod year days = n) :
    n < 146097 ∧ (n - n / 1460 + n / 36524 - n / 146096) / 365 = year := by
  obtain ⟨hyear, hdays⟩ := h
  obtain ⟨g, f, r, hg, hf, hr, rfl⟩ :
      ∃ g f r, g ≤ 3 ∧ f ≤ 24 ∧ r ≤ 3 ∧ year = 100 * g + 4 * f + r :=
    ⟨year / 100, year % 100 / 4, year % 4, by omega, by omega, by omega, by omega⟩
  rw [dayOfPeriod_eq hf hr] at hn
  exact div_eq_hundreds_fours hg hf hr (by clear hn; omega) hn.symm

theorem exists_dayOfPeriod_eq {n : Nat} (hn : n < 146097) :
    ∃ year days, IsDayOfPeriod year days ∧ dayOfPeriod year days = n := by
  obtain ⟨g, rest, hg, hrest⟩ : ∃ g rest, n = 36524 * g + rest ∧
      (g ≤ 3 ∧ rest < 36524 ∨ g = 3 ∧ rest = 36524) := by
    by_cases hlast : n = 146096
    · exact ⟨3, 36524, by omega, by omega⟩
    · exact ⟨n / 36524, n % 36524, by omega, by omega⟩
  obtain ⟨f, day, hf⟩ : ∃ f day, rest = 1461 * f + day ∧ day < 1461 :=
    ⟨rest / 1461, rest % 1461, by omega, by omega⟩
  obtain ⟨r, days, hr, hdays⟩ : ∃ r days, day = 365 * r + days ∧
      (r ≤ 3 ∧ days < 365 ∨ r = 3 ∧ days = 365) := by
    by_cases hlast : day = 1460
    · exact ⟨3, 365, by omega, by omega⟩
    · exact ⟨day / 365, day % 365, by omega, by omega⟩
  refine ⟨100 * g + 4 * f + r, days, ⟨by omega, by omega⟩, ?_⟩
  rw [dayOfPeriod_eq (by omega) (by omega)]
  omega

/-! ## Back from a number -/

namespace Date

theorem isDayOfPeriod (d : Date) :
    IsDayOfPeriod (d.marchYear % 400).toNat d.daysFromMarch := by
  refine ⟨by omega, d.daysFromMarch_le.imp_right (And.imp_right fun hleap => ?_)⟩
  rw [isLeap_iff] at hleap
  omega

theorem number_eq (d : Date) : d.number = d.marchYear / 400 * 146097
    + dayOfPeriod (d.marchYear % 400).toNat d.daysFromMarch - 719468 := rfl

/-- The day of a number, taken apart into a period and a day of it. -/
theorem ofNumber?_eq {period : Int} {year days : Nat} (h : IsDayOfPeriod year days) :
    ofNumber? (period * 146097 + dayOfPeriod year days - 719468) =
      let months := (5 * days + 2) / 153
      let month := if months < 10 then months + 3 else months - 9
      of? (year + period * 400 + if month ≤ 2 then 1 else 0) month
        (days - (153 * months + 2) / 5 + 1) := by
  generalize hn : dayOfPeriod year days = n
  obtain ⟨hperiod, hfound⟩ := h.year_eq hn
  have hquot : (period * 146097 + (n : Int) - 719468 + 719468) / 146097 = period := by omega
  have hrem : (period * 146097 + (n : Int) - 719468 + 719468) % 146097 = n := by omega
  have hrest : n - (365 * year + year / 4 - year / 100) = days := by
    rw [← hn, dayOfPeriod, Nat.add_sub_cancel_left]
  simp only [ofNumber?, hquot, hrem, Int.toNat_natCast, hfound, hrest]

theorem ofNumber?_number (d : Date) : ofNumber? d.number = some d := by
  rw [number_eq, ofNumber?_eq d.isDayOfPeriod, d.monthsFromMarch_eq]
  have hfirst := d.isDay.2.2.1
  have hmonth : d.month =
      if d.monthsFromMarch < 10 then d.monthsFromMarch + 3 else d.monthsFromMarch - 9 := by
    have hmem := d.month_mem
    unfold monthsFromMarch
    split <;> split <;> omega
  dsimp only
  rw [← hmonth, of?_eq_some_iff, daysFromMarch]
  refine ⟨?_, rfl, by omega⟩
  unfold marchYear
  split <;> omega

theorem number_of_ofNumber? {n : Int} {d : Date} (h : ofNumber? n = some d) : d.number = n := by
  obtain ⟨year, days, hday, hdays⟩ :=
    exists_dayOfPeriod_eq (by omega : ((n + 719468) % 146097).toNat < 146097)
  obtain ⟨period, rfl⟩ : ∃ period : Int,
      n = period * 146097 + dayOfPeriod year days - 719468 :=
    ⟨(n + 719468) / 146097, by omega⟩
  clear hdays
  obtain ⟨hyear, hlt⟩ := hday
  rw [ofNumber?_eq ⟨hyear, hlt⟩] at h
  dsimp only at h
  obtain ⟨hcivil, hmonth, hdayOfMonth⟩ := of?_eq_some_iff.1 h
  have hmonths : d.monthsFromMarch = (5 * days + 2) / 153 := by
    unfold monthsFromMarch
    rw [hmonth]
    split <;> split <;> omega
  have hdaysFromMarch : d.daysFromMarch = days := by
    rw [daysFromMarch, hmonths, hdayOfMonth]
    omega
  have hmarch : d.marchYear = year + period * 400 := by
    unfold marchYear
    rw [hcivil, ← hmonth]
    split <;> omega
  have hyears : (d.marchYear % 400).toNat = year := by omega
  have hperiods : d.marchYear / 400 = period := by omega
  rw [number_eq, hyears, hperiods, hdaysFromMarch]

theorem ofNumber?_eq_some_iff {n : Int} {d : Date} : ofNumber? n = some d ↔ d.number = n := by
  refine ⟨number_of_ofNumber?, ?_⟩
  rintro rfl
  exact ofNumber?_number d

end Date

/-! ## Moments -/

namespace Moment

/-- A moment is on the day that its clock counts. -/
theorem date_ofSeconds?_eq_some_iff {seconds offset : Int} {d : Date} :
    (ofSeconds? seconds offset).map date = some d ↔ d.number = (seconds + offset * 60) / 86400 := by
  rw [← Date.ofNumber?_eq_some_iff, ofSeconds?]
  cases Date.ofNumber? ((seconds + offset * 60) / 86400) <;> simp

variable (d : Date) {second : Nat} (offset : Int)

theorem date_ofSeconds?_clock (hsecond : second < 86400) :
    (ofSeconds? (d.number * 86400 + second - offset * 60) offset).map date = some d := by
  rw [date_ofSeconds?_eq_some_iff]
  omega

/-- In universal time a moment is on the day of its clock unless the offset reaches over
midnight. -/
theorem date_ofSeconds?_zero_iff :
    (ofSeconds? (d.number * 86400 + second - offset * 60) 0).map date = some d ↔
      0 ≤ second - offset * 60 ∧ second - offset * 60 < 86400 := by
  rw [date_ofSeconds?_eq_some_iff]
  omega

end Moment
end ReleaseGap.Calendar
