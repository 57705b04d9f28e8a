import ServiceCall.Proofs.Time.Civil
import ServiceCall.Proofs.Time.HttpDate
import ServiceCall.Time.Stamp

/-!
# The range of the calendar

A year begins with its first day, so the times of a span of years are those between two instants.
The calendar is a small part of the range of times, and the years 1970 to 9999, in which clocks and
the dates of header fields stand, are a small part of the calendar.
-/

namespace ServiceCall

namespace Date

/-- The days of the years that begin in March, from the year zero to one. -/
def daysBefore (year : Int) : Int := 365 * year + year / 4 - year / 100 + year / 400

theorem daysBefore_add_le {year later : Int} (hle : year ≤ later) :
    daysBefore year + 365 * (later - year) ≤ daysBefore later := by
  rw [daysBefore, daysBefore]
  omega

/-- A day is in a year or later if it does not come before the first day of the year. -/
theorem le_year_ofDays_iff (year days : Int) :
    year ≤ (ofDays days).year ↔ toDays ⟨year, 1, 1⟩ ≤ days := by
  obtain ⟨era, years, day, hyears, hday, -, hdays, hdate⟩ := exists_ofDays days
  have hmonth : calendarMonth (monthOfYear day) ≤ 2 ↔ 306 ≤ day := by
    rw [calendarMonth, monthOfYear]
    split <;> omega
  have hfirst : toDays ⟨year, 1, 1⟩ = daysBefore (year - 1) + 306 - 719468 := by
    simp only [toDays, daysPerEra, daysBeforeYear, daysBeforeMonth, epochShift, daysBefore]
    omega
  have hcount : days = daysBefore (era * 400 + years) + day - 719468 := by
    simp only [daysPerEra, daysBeforeYear, epochShift, daysBefore] at hdays ⊢
    omega
  rw [hdate, hfirst, hcount]
  simp only [hmonth]
  generalize era * 400 + (years : Int) = count
  rcases Int.lt_trichotomy count (year - 1) with hearlier | rfl | hlater
  · have hdays := daysBefore_add_le (Int.le_of_lt hearlier)
    split <;> omega
  · split <;> omega
  · have hdays := daysBefore_add_le (Int.le_of_lt hlater)
    split <;> omega

/-- A date of the years 1970 to 9999 is one of their days. -/
theorem toDays_mem {date : Date} (hlower : 1970 ≤ date.year) (hupper : date.year ≤ 9999)
    (hvalid : date.isValid = true) : 0 ≤ date.toDays ∧ date.toDays ≤ 2932896 := by
  have hmonth := daysInMonth_le date.year date.month
  simp only [isValid, Bool.and_eq_true, decide_eq_true_eq] at hvalid
  simp only [toDays, daysPerEra, daysBeforeYear, daysBeforeMonth, epochShift]
  generalize date.year = year at *
  generalize daysInMonth year date.month = length at *
  -- The years at both ends are taken apart from the others, which leave a year of room.
  constructor
  · rcases (by omega : year = 1970 ∨ 1971 ≤ year) with rfl | hlater <;> split <;> omega
  · rcases (by omega : year = 9999 ∨ year ≤ 9998) with rfl | hearlier <;> split <;> omega

end Date

namespace DateTime

theorem le_year_ofInstant_iff (year : Int) (t : Instant) :
    year ≤ (ofInstant t).date.year ↔ Date.toDays ⟨year, 1, 1⟩ * 86400000000000 ≤ t.nanos := by
  rw [ofInstant, Date.le_year_ofDays_iff, Instant.seconds]
  omega

theorem year_ofInstant_le_iff (year : Int) (t : Instant) :
    (ofInstant t).date.year ≤ year ↔
      t.nanos < Date.toDays ⟨year + 1, 1, 1⟩ * 86400000000000 := by
  rw [← Int.lt_add_one_iff, ← Int.not_le, le_year_ofInstant_iff, Int.not_le]

end DateTime

namespace Stamp

/-- The first nanosecond of the calendar. -/
def first : Int := -8334601228800 * 1000000000

/-- The first nanosecond after the calendar. -/
def after : Int := 8210266876800 * 1000000000

theorem hasDate_iff (t : Instant) : hasDate t = true ↔ first ≤ t.nanos ∧ t.nanos < after := by
  have hfirst : Date.toDays ⟨firstYear, 1, 1⟩ * 86400000000000 = first := by decide
  have hafter : Date.toDays ⟨lastYear + 1, 1, 1⟩ * 86400000000000 = after := by decide
  rw [hasDate, Bool.and_eq_true, decide_eq_true_eq, decide_eq_true_eq,
    DateTime.le_year_ofInstant_iff, DateTime.year_ofInstant_le_iff, hfirst, hafter]

end Stamp

/-- A time in the years 1970 to 9999. -/
def Instant.Modern (t : Instant) : Prop :=
  1970 ≤ (DateTime.ofInstant t).date.year ∧ (DateTime.ofInstant t).date.year ≤ 9999

/-- The nanoseconds of the years 1970 to 9999. -/
def Instant.span : Int := 253402300800 * 1000000000

theorem Instant.modern_iff (t : Instant) : t.Modern ↔ 0 ≤ t.nanos ∧ t.nanos < span := by
  have hfirst : Date.toDays ⟨1970, 1, 1⟩ * 86400000000000 = 0 := by decide
  have hafter : Date.toDays ⟨9999 + 1, 1, 1⟩ * 86400000000000 = span := by decide
  rw [Modern, DateTime.le_year_ofInstant_iff, DateTime.year_ofInstant_le_iff, hfirst, hafter]

namespace HttpDate

theorem modern_of_parse? {s : Text} {t : Instant} (hparse : parse? s = some t) : t.Modern := by
  obtain ⟨reading, -, hreading⟩ := Option.bind_eq_some_iff.1 hparse
  split at hreading
  · next hvalid =>
      simp only [Reading.isValid, Bool.and_eq_true, decide_eq_true_eq] at hvalid
      obtain ⟨⟨⟨⟨⟨⟨hlower, hupper⟩, hdate⟩, hhour⟩, hminute⟩, hsecond⟩, -⟩ := hvalid
      have hnanos := Instant.ofNanos?_eq_some_iff.1 hreading
      have hdays := Date.toDays_mem hlower hupper hdate
      rw [DateTime.toSeconds] at hnanos
      rw [Instant.modern_iff, Instant.span]
      omega
  · cases hreading

end HttpDate

/-- A server's date is in the years that are read. -/
theorem Failure.modern_of_serverDate? {f : Failure} {date : Instant}
    (hdate : f.serverDate? = some date) : date.Modern := by
  obtain ⟨fields, -, hfields⟩ := Option.bind_eq_some_iff.1 hdate
  obtain ⟨value, -, hvalue⟩ := Option.bind_eq_some_iff.1 hfields
  obtain ⟨text, -, htext⟩ := Option.bind_eq_some_iff.1 hvalue
  exact HttpDate.modern_of_parse? htext

end ServiceCall
