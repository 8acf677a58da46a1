import Mathlib.Data.Option.Basic
import ReleaseGap.Proofs.Calendar.DayNumber
import ReleaseGap.Proofs.Calendar.Padded

/-!
# Timestamps

A timestamp in its written parts, and what its reader makes of it: every text that is so written is
read, no other text is, and the day of the moment that is read is the written day.
-/
namespace ReleaseGap.Calendar

open Decimal (isDigit)
open Date (padded)

/-! ## The written form -/

/-- A fraction of a second; without digits there is none. -/
def fractionChars : List Char → List Char
  | [] => []
  | digits => '.' :: digits

/-- A time of day as it is written. -/
structure ClockTime where
  hour : Nat
  minute : Nat
  second : Nat
  /-- The digits of the fraction of a second. -/
  fraction : List Char
  hour_le : hour ≤ 23 := by decide
  minute_le : minute ≤ 59 := by decide
  second_le : second ≤ 60 := by decide
  isDigit_fraction : ∀ c ∈ fraction, isDigit c = true

namespace ClockTime

def chars (c : ClockTime) : List Char :=
  (padded 2 c.hour).toList ++ ':' :: ((padded 2 c.minute).toList ++ ':' ::
    ((padded 2 c.second).toList ++ fractionChars c.fraction))

/-- The whole seconds since midnight, a leap second counted into the second before it. -/
def seconds (c : ClockTime) : Nat := c.hour * 3600 + c.minute * 60 + min c.second 59

theorem seconds_lt (c : ClockTime) : c.seconds < 86400 := by
  have hhour := c.hour_le
  have hminute := c.minute_le
  unfold seconds
  omega

end ClockTime

/-- An offset as it is written: a mark for universal time, or a signed distance from it. -/
inductive Offset where
  | universal (mark : Char) (hmark : mark = 'Z' ∨ mark = 'z')
  | distance (sign : Char) (hour minute : Nat) (hsign : sign = '+' ∨ sign = '-' ∨ sign = '−')
      (hhour : hour ≤ 23) (hminute : minute ≤ 59)

namespace Offset

def chars : Offset → List Char
  | universal mark _ => [mark]
  | distance sign hour minute _ _ _ =>
    sign :: ((padded 2 hour).toList ++ ':' :: (padded 2 minute).toList)

/-- The minutes ahead of universal time. -/
def minutes : Offset → Int
  | universal _ _ => 0
  | distance sign hour minute _ _ _ =>
    if sign = '+' then hour * 60 + minute else -(hour * 60 + minute)

end Offset

/-- A timestamp as it is written. -/
structure Timestamp where
  date : Date
  separator : Char
  time : ClockTime
  offset : Offset
  year_mem : 0 ≤ date.year ∧ date.year ≤ 9999 := by decide
  separator_mem : separator = 't' ∨ separator = 'T' ∨ separator = ' ' := by decide

namespace Timestamp

def text (w : Timestamp) : String :=
  String.ofList (w.date.text.toList ++ w.separator :: (w.time.chars ++ w.offset.chars))

/-- The seconds from the beginning of 1970 in universal time. -/
def seconds (w : Timestamp) : Int :=
  w.date.number * 86400 + w.time.seconds - w.offset.minutes * 60

/-- The day at the moment of a timestamp on a clock that is ahead of universal time by some
minutes. -/
def dayOnClock? (w : Timestamp) (offset : Int) : Option Date :=
  (Moment.ofSeconds? w.seconds offset).map Moment.date

theorem dayOnClock?_own (w : Timestamp) : w.dayOnClock? w.offset.minutes = some w.date :=
  Moment.date_ofSeconds?_clock w.date w.offset.minutes w.time.seconds_lt

theorem dayOnClock?_zero_iff (w : Timestamp) :
    w.dayOnClock? 0 = some w.date ↔
      0 ≤ w.time.seconds - w.offset.minutes * 60 ∧
        w.time.seconds - w.offset.minutes * 60 < 86400 :=
  Moment.date_ofSeconds?_zero_iff w.date w.offset.minutes

end Timestamp

/-! ## Reading it -/

section Readers

variable {s r : List Char}

theorem fullDate?_eq_some_iff {year month day : Nat} :
    fullDate? s = some ((year, month, day), r) ↔
      year < 10 ^ 4 ∧ month < 10 ^ 2 ∧ day < 10 ^ 2 ∧
        (padded 4 year).toList ++ '-' :: ((padded 2 month).toList ++ '-' ::
          ((padded 2 day).toList ++ r)) = s := by
  simp only [fullDate?, Option.bind_eq_bind, Option.bind_eq_some_iff, Prod.exists,
    literal?_eq_some_iff, number?_eq_some_iff (by decide : 0 < 4),
    number?_eq_some_iff (by decide : 0 < 2), Option.pure_def, Option.some.injEq, Prod.mk.injEq]
  constructor
  · rintro ⟨y, s₁, ⟨hy, rfl⟩, s₂, rfl, m, s₃, ⟨hm, rfl⟩, s₄, rfl, d, s₅, ⟨hd, rfl⟩,
      ⟨rfl, rfl, rfl⟩, rfl⟩
    exact ⟨hy, hm, hd, rfl⟩
  · rintro ⟨hy, hm, hd, rfl⟩
    exact ⟨_, _, ⟨hy, rfl⟩, _, rfl, _, _, ⟨hm, rfl⟩, _, rfl, _, _, ⟨hd, rfl⟩, ⟨rfl, rfl, rfl⟩, rfl⟩

theorem fraction?_eq_some (h : fraction? s = some r) :
    ∃ digits, (∀ c ∈ digits, isDigit c = true) ∧ fractionChars digits ++ r = s := by
  unfold fraction? at h
  split at h
  case h_1 s =>
    simp only [Option.bind_eq_bind, Option.bind_eq_some_iff, Prod.exists, Option.pure_def,
      Option.some.injEq] at h
    obtain ⟨n, rest, hnumber, rfl⟩ := h
    obtain ⟨run, rfl, hrun, hleast, -, -⟩ := number?_eq_some hnumber
    refine ⟨run ++ rest.takeWhile isDigit, fun c hc => ?_, ?_⟩
    · rcases List.mem_append.1 hc with hc | hc
      · exact hrun c hc
      · exact List.mem_takeWhile_imp hc
    · cases run with
      | nil => simp at hleast
      | cons c run => simp [fractionChars, List.takeWhile_append_dropWhile]
  case h_2 =>
    exact ⟨[], by simp, by simpa [fractionChars] using h.symm⟩

theorem fraction?_fractionChars {digits : List Char} (hdigits : ∀ c ∈ digits, isDigit c = true)
    (hr : r.head?.any isDigit = false) (hdot : r.head? ≠ some '.') :
    fraction? (fractionChars digits ++ r) = some r := by
  cases digits with
  | nil =>
    rw [fractionChars, List.nil_append]
    unfold fraction?
    split
    · exact absurd rfl hdot
    · rfl
  | cons c digits =>
    generalize hrun : c :: digits = run at *
    have hpos : 1 ≤ run.length := by simp [← hrun]
    have hchars : fractionChars run ++ r = '.' :: (run.take 9 ++ (run.drop 9 ++ r)) := by
      rw [← List.append_assoc, List.take_append_drop, ← hrun]
      rfl
    have htake : ∀ d ∈ run.take 9, isDigit d = true := fun d hd =>
      hdigits d (List.mem_of_mem_take hd)
    have hdrop : ∀ d ∈ run.drop 9, isDigit d = true := fun d hd =>
      hdigits d (List.mem_of_mem_drop hd)
    have hend : (run.take 9).length = 9 ∨ (run.drop 9 ++ r).head?.any isDigit = false := by
      rcases Nat.lt_or_ge run.length 9 with hlt | hge
      · rw [List.drop_of_length_le hlt.le]
        exact .inr hr
      · exact .inl (by rw [List.length_take]; omega)
    have hnumber := number?_run htake (by rw [List.length_take]; omega : 1 ≤ _)
      (List.length_take_le 9 run) hend
    rw [hchars]
    simp only [fraction?, hnumber, Option.bind_eq_bind, Option.bind_some, Option.pure_def,
      Text.dropWhile_run hdrop hr]

theorem timeOfDay?_eq_some {n : Nat} (h : timeOfDay? s = some (n, r)) :
    ∃ c : ClockTime, c.chars ++ r = s ∧ c.seconds = n := by
  simp only [timeOfDay?, Option.bind_eq_bind, Option.bind_eq_some_iff, Prod.exists,
    literal?_eq_some_iff, number?_eq_some_iff (by decide : 0 < 2), Option.guard_eq_some',
    Option.pure_def, Option.some.injEq, Prod.mk.injEq] at h
  obtain ⟨hour, _, ⟨-, rfl⟩, _, rfl, minute, _, ⟨-, rfl⟩, _, rfl, second, s, ⟨-, rfl⟩, _,
    ⟨hhour, hminute, hsecond⟩, _, hfraction, rfl, rfl⟩ := h
  obtain ⟨digits, hdigits, rfl⟩ := fraction?_eq_some hfraction
  exact ⟨⟨hour, minute, second, digits, hhour, hminute, hsecond, hdigits⟩,
    by simp [ClockTime.chars], rfl⟩

theorem timeOfDay?_chars (c : ClockTime) (hr : r.head?.any isDigit = false)
    (hdot : r.head? ≠ some '.') : timeOfDay? (c.chars ++ r) = some (c.seconds, r) := by
  obtain ⟨hour, minute, second, digits, hhour, hminute, hsecond, hdigits⟩ := c
  have hchars : (ClockTime.mk hour minute second digits hhour hminute hsecond hdigits).chars ++ r =
      (padded 2 hour).toList ++ ':' :: ((padded 2 minute).toList ++ ':' ::
        ((padded 2 second).toList ++ (fractionChars digits ++ r))) := by
    simp [ClockTime.chars]
  simp only [timeOfDay?, Option.bind_eq_bind, Option.bind_eq_some_iff, Prod.exists,
    literal?_eq_some_iff, number?_eq_some_iff (by decide : 0 < 2), Option.guard_eq_some',
    Option.pure_def, Option.some.injEq, Prod.mk.injEq]
  exact ⟨hour, _, ⟨by omega, hchars.symm⟩, _, rfl, minute, _, ⟨by omega, rfl⟩, _, rfl, second, _,
    ⟨by omega, rfl⟩, (), ⟨hhour, hminute, hsecond⟩, r, fraction?_fractionChars hdigits hr hdot,
    rfl, rfl⟩

theorem offset?_universal {mark : Char} (hmark : mark = 'Z' ∨ mark = 'z') :
    offset? (mark :: r) = some (0, r) := by
  rcases hmark with rfl | rfl <;> rfl

theorem offset?_eq_some_iff {n : Int} :
    offset? s = some (n, r) ↔ ∃ o : Offset, o.chars ++ r = s ∧ o.minutes = n := by
  constructor
  · intro h
    unfold offset? at h
    split at h
    case h_1 | h_2 =>
      cases h
      exact ⟨.universal _ (by decide), rfl, rfl⟩
    case h_3 =>
      simp only [Option.bind_eq_bind, Option.bind_eq_some_iff, Prod.exists, oneOf?_eq_some_iff,
        literal?_eq_some_iff, number?_eq_some_iff (by decide : 0 < 2), Option.guard_eq_some',
        Option.pure_def, Option.some.injEq, Prod.mk.injEq, decide_eq_true_eq] at h
      obtain ⟨sign, _, ⟨hsign, rfl⟩, hour, _, ⟨-, rfl⟩, _, rfl, minute, s, ⟨-, rfl⟩, _,
        ⟨hhour, hminute⟩, hn, rfl⟩ := h
      exact ⟨.distance sign hour minute hsign hhour hminute, by simp [Offset.chars], hn⟩
  · rintro ⟨o, rfl, rfl⟩
    cases o with
    | universal mark hmark => exact offset?_universal hmark
    | distance sign hour minute hsign hhour hminute =>
      have hchars : (Offset.distance sign hour minute hsign hhour hminute).chars ++ r =
          sign :: ((padded 2 hour).toList ++ ':' :: ((padded 2 minute).toList ++ r)) := by
        simp [Offset.chars]
      rw [hchars]
      unfold offset?
      split
      -- None of the signs is a mark of universal time.
      case h_1 heq | h_2 heq =>
        obtain ⟨rfl, -⟩ := List.cons.inj heq
        exact absurd hsign (by decide)
      case h_3 =>
        simp only [Option.bind_eq_bind, Option.bind_eq_some_iff, Prod.exists, oneOf?_eq_some_iff,
          literal?_eq_some_iff, number?_eq_some_iff (by decide : 0 < 2), Option.guard_eq_some',
          Option.pure_def, Option.some.injEq, Prod.mk.injEq, decide_eq_true_eq]
        exact ⟨sign, _, ⟨hsign, rfl⟩, hour, _, ⟨by omega, rfl⟩, _, rfl, minute, _,
          ⟨by omega, rfl⟩, (), ⟨hhour, hminute⟩, rfl, rfl⟩

theorem Offset.any_head?_chars (o : Offset) (r : List Char) :
    (o.chars ++ r).head?.any isDigit = false ∧ (o.chars ++ r).head? ≠ some '.' := by
  cases o with
  | universal mark hmark => rcases hmark with rfl | rfl <;> simp [Offset.chars, isDigit]
  | distance sign hour minute hsign =>
    rcases hsign with rfl | rfl | rfl <;> simp [Offset.chars, isDigit]

end Readers

theorem Date.toList_text {d : Date} (hyear : 0 ≤ d.year ∧ d.year ≤ 9999) :
    d.text.toList = (padded 4 d.year.toNat).toList ++ '-' :: ((padded 2 d.month).toList ++ '-' ::
      (padded 2 d.day).toList) := by
  have htext : d.text =
      padded 4 d.year.toNat ++ "-" ++ padded 2 d.month ++ "-" ++ padded 2 d.day := by
    rw [Date.text, Date.yearText, if_pos hyear]
    rfl
  have hhyphen : "-".toList = ['-'] := rfl
  simp only [htext, String.toList_append, hhyphen, List.append_assoc, List.cons_append,
    List.nil_append]

/-- Just the written timestamps are read, each as its own moment. -/
theorem timestampMoment?_eq_some_iff {t : String} {m : Moment} :
    timestampMoment? t = some m ↔
      ∃ w : Timestamp, w.text = t ∧ Moment.ofSeconds? w.seconds w.offset.minutes = some m := by
  simp only [timestampMoment?, Option.bind_eq_bind, Option.bind_eq_some_iff, Prod.exists,
    fullDate?_eq_some_iff, oneOf?_eq_some_iff, Option.guard_eq_some', decide_eq_true_eq,
    offset?_eq_some_iff]
  constructor
  · rintro ⟨year, month, day, _, ⟨hyear, -, -, htext⟩, separator, _, ⟨hseparator, rfl⟩, n, _, htime,
      minutes, _, ⟨o, rfl, rfl⟩, _, rfl, d, hd, hm⟩
    obtain ⟨c, rfl, rfl⟩ := timeOfDay?_eq_some htime
    obtain ⟨hy, hmonth, hday⟩ := Date.of?_eq_some_iff.1 hd
    have hyear' : 0 ≤ d.year ∧ d.year ≤ 9999 := by omega
    refine ⟨⟨d, separator, c, o, hyear', hseparator⟩, ?_, hm⟩
    rw [← String.toList_inj, ← htext]
    simp [Timestamp.text, Date.toList_text hyear', hy, hmonth, hday]
  · rintro ⟨w, rfl, hm⟩
    have hyear := w.year_mem
    have hmonth := w.date.month_mem
    have hday := w.date.day_le
    obtain ⟨hdigit, hdot⟩ := w.offset.any_head?_chars []
    refine ⟨w.date.year.toNat, w.date.month, w.date.day, _, ⟨by omega, by omega, by omega, ?_⟩,
      w.separator, _, ⟨w.separator_mem, rfl⟩, w.time.seconds, _,
      timeOfDay?_chars w.time hdigit hdot, w.offset.minutes, [], ⟨w.offset, rfl, rfl⟩, (), rfl,
      w.date, ?_, hm⟩
    · simp [Timestamp.text, Date.toList_text hyear]
    · rw [Date.of?_eq_some_iff]
      omega

theorem timestampMoment?_text (w : Timestamp) :
    timestampMoment? w.text = Moment.ofSeconds? w.seconds w.offset.minutes := by
  obtain ⟨m, hm, -⟩ := Option.map_eq_some_iff.1 w.dayOnClock?_own
  rw [hm, timestampMoment?_eq_some_iff]
  exact ⟨w, rfl, hm⟩

theorem timestampDay?_eq_some_iff {t : String} {d : Date} :
    timestampDay? t = some d ↔ ∃ w : Timestamp, w.text = t ∧ w.date = d := by
  constructor
  · intro h
    obtain ⟨m, hm, rfl⟩ := Option.map_eq_some_iff.1 h
    obtain ⟨w, htext, hmoment⟩ := timestampMoment?_eq_some_iff.1 hm
    have hown := w.dayOnClock?_own
    rw [Timestamp.dayOnClock?, hmoment] at hown
    exact ⟨w, htext, (Option.some.inj hown).symm⟩
  · rintro ⟨w, rfl, rfl⟩
    rw [timestampDay?, timestampMoment?_text]
    exact w.dayOnClock?_own

end ReleaseGap.Calendar
