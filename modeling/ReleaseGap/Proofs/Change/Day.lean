import ReleaseGap.Change.Revision
import ReleaseGap.Proofs.Calendar.Timestamp

/-!
# The day of a change

A change has the same day whether the day is read from its whole timestamp or from the front of it:
the day that is written there.  A clock in universal time may show another day at that moment.
-/
namespace ReleaseGap

/-! ## The day in front -/

namespace Calendar

open Decimal (isDigit)
open Date (padded)

theorem leadingOctets?_append {lead : List Char} (h : ∀ c ∈ lead, c.utf8Size = 1) (r : List Char) :
    leadingOctets? lead.length (lead ++ r) = some lead := by
  induction lead with
  | nil => cases r <;> rfl
  | cons c lead ih =>
    have hsize := h c List.mem_cons_self
    have hrest := ih fun d hd => h d (List.mem_cons_of_mem c hd)
    simp [leadingOctets?, hsize, hrest]

theorem isBlank_of_isDigit {c : Char} (h : isDigit c = true) : Text.isBlank c = false := by
  have hrange : 48 ≤ c.toNat ∧ c.toNat ≤ 57 := Decimal.toNat_of_isDigit h
  simp [Text.isBlank]
  omega

section Lenient

variable {width n : Nat} {r : List Char}

theorem trimStart_padded (hwidth : 0 < width) (hn : n < 10 ^ width) :
    Text.trimStart ((padded width n).toList ++ r) = (padded width n).toList ++ r := by
  obtain ⟨c, s, htext, hc⟩ := Date.exists_padded_eq_cons hwidth hn
  apply Text.trimStart_eq_self
  simp [htext, isBlank_of_isDigit hc]

theorem lenientPart?_padded (hn : n < 10 ^ 2) :
    lenientPart? ((padded 2 n).toList ++ r) = some (n, r) := by
  rw [lenientPart?, trimStart_padded (by decide) hn, number?_padded (by decide) hn (by decide)]

theorem lenientYear?_padded (hn : n < 10 ^ 4) :
    lenientYear? ((padded 4 n).toList ++ r) = some ((n : Int), r) := by
  obtain ⟨c, s, htext, hc⟩ := Date.exists_padded_eq_cons (by decide) hn
  have hnumber := number?_padded (r := r) (by decide) hn (by decide : 1 ≤ 4)
  rw [lenientYear?, trimStart_padded (by decide) hn]
  split
  case h_1 heq | h_2 heq =>
    rw [htext] at heq
    obtain ⟨rfl, -⟩ := List.cons.inj heq
    exact absurd hc (by decide)
  case h_3 =>
    rw [hnumber]
    rfl

end Lenient

variable {d : Date}

theorem lenientDay?_text (hyear : 0 ≤ d.year ∧ d.year ≤ 9999) :
    lenientDay? d.text.toList = some d := by
  have hmonth := d.month_mem
  have hday := d.day_le
  have hread := lenientPart?_padded (r := []) (by omega : d.day < 10 ^ 2)
  have hdate : Date.of? d.year.toNat d.month d.day = some d :=
    Date.of?_eq_some_iff.2 ⟨by omega, rfl, rfl⟩
  rw [List.append_nil] at hread
  rw [Date.toList_text hyear]
  simp only [lenientDay?, Option.bind_eq_bind, Option.bind_eq_some_iff, Prod.exists,
    literal?_eq_some_iff, Option.guard_eq_some']
  exact ⟨_, _, lenientYear?_padded (by omega), _, rfl, _, _, lenientPart?_padded (by omega), _, rfl,
    _, _, hread, (), rfl, hdate⟩

theorem Date.length_text (hyear : 0 ≤ d.year ∧ d.year ≤ 9999) : d.text.toList.length = 10 := by
  have hmonth := d.month_mem
  have hday := d.day_le
  rw [Date.toList_text hyear]
  simp only [List.length_append, List.length_cons,
    Date.length_padded (by decide : 0 < 4) (by omega : d.year.toNat < 10 ^ 4),
    Date.length_padded (by decide : 0 < 2) (by omega : d.month < 10 ^ 2),
    Date.length_padded (by decide : 0 < 2) (by omega : d.day < 10 ^ 2)]

theorem Date.utf8Size_of_mem_text (hyear : 0 ≤ d.year ∧ d.year ≤ 9999) :
    ∀ c ∈ d.text.toList, c.utf8Size = 1 := by
  have hpadded : ∀ {width n : Nat}, ∀ c ∈ (padded width n).toList, c.utf8Size = 1 :=
    fun c hc => Decimal.utf8Size_of_isDigit (Date.isDigit_of_mem_padded c hc)
  intro c hc
  rw [Date.toList_text hyear] at hc
  simp only [List.mem_append, List.mem_cons] at hc
  rcases hc with hc | rfl | hc | rfl | hc
  · exact hpadded c hc
  · rfl
  · exact hpadded c hc
  · rfl
  · exact hpadded c hc

/-- A text that begins with a written day of four year digits has that day in front. -/
theorem leadingDay?_text_append (hyear : 0 ≤ d.year ∧ d.year ≤ 9999) (r : List Char) :
    leadingDay? (String.ofList (d.text.toList ++ r)) = some d := by
  have hlead := leadingOctets?_append (Date.utf8Size_of_mem_text hyear) r
  rw [Date.length_text hyear] at hlead
  rw [leadingDay?, String.toList_ofList, hlead]
  exact lenientDay?_text hyear

end Calendar

namespace Revision

open Calendar

/-- A timestamp is read just when it is a written one, and then the front of it is read to the same
revision, on the written day.  That is the day of the moment on the clock of the timestamp; in
universal time it is another day just when the offset reaches over midnight. -/
theorem ofTimestamp?_day_as_written (timestamp message : String) :
    (∀ r, ofTimestamp? timestamp message = some r →
        ofLeadingDay? timestamp message = some r ∧
          ∃ w : Timestamp, w.text = timestamp ∧ r = ⟨w.date, message⟩) ∧
      ∀ w : Timestamp, w.text = timestamp →
        ofTimestamp? timestamp message = some ⟨w.date, message⟩ ∧
          timestampMoment? timestamp = Moment.ofSeconds? w.seconds w.offset.minutes ∧
          (w.dayOnClock? 0 = some w.date ↔
            0 ≤ w.time.seconds - w.offset.minutes * 60 ∧
              w.time.seconds - w.offset.minutes * 60 < 86400) := by
  constructor
  · intro r h
    obtain ⟨d, hd, rfl⟩ := Option.map_eq_some_iff.1 h
    obtain ⟨w, rfl, rfl⟩ := timestampDay?_eq_some_iff.1 hd
    refine ⟨?_, w, rfl, rfl⟩
    rw [ofLeadingDay?, Timestamp.text, leadingDay?_text_append w.year_mem, Option.map_some]
  · rintro w rfl
    have hday : timestampDay? w.text = some w.date := timestampDay?_eq_some_iff.2 ⟨w, rfl, rfl⟩
    refine ⟨?_, timestampMoment?_text w, w.dayOnClock?_zero_iff⟩
    rw [ofTimestamp?, hday, Option.map_some]

/-- The last second of a year on a clock five hours behind, where universal time is in the next
year. -/
def leapSecond : Timestamp where
  date := ⟨2011, 12, 31, by decide⟩
  separator := 't'
  time := {
    hour := 23
    minute := 59
    second := 60
    fraction := ['2', '5']
    isDigit_fraction := List.all_eq_true.1 rfl }
  offset := .distance '-' 5 0 (by decide) (by decide) (by decide)

theorem ofTimestamp?_day_as_written_leapSecond :
    leapSecond.text = "2011-12-31t23:59:60.25-05:00" ∧
      ofTimestamp? "2011-12-31t23:59:60.25-05:00" "Cut" = some ⟨leapSecond.date, "Cut"⟩ ∧
      ofLeadingDay? "2011-12-31t23:59:60.25-05:00" "Cut" = some ⟨leapSecond.date, "Cut"⟩ ∧
      leapSecond.dayOnClock? 0 = some ⟨2012, 1, 1, by decide⟩ := by
  have htext : leapSecond.text = "2011-12-31t23:59:60.25-05:00" := by decide +kernel
  have hwritten := ofTimestamp?_day_as_written "2011-12-31t23:59:60.25-05:00" "Cut"
  have hread := (hwritten.2 leapSecond htext).1
  exact ⟨htext, hread, (hwritten.1 _ hread).1, by decide +kernel⟩

end Revision

end ReleaseGap
