import ServiceCall.Failure

/-!
# The range of dates

A date of a header field is a whole second of the years that are read, so it lies well within the
range in which distances are measured.
-/

namespace ServiceCall

theorem Date.daysInMonth_le (year : Int) (month : Nat) : daysInMonth year month ≤ 31 := by
  unfold daysInMonth
  repeat' split
  all_goals decide

theorem Date.natAbs_toDays_le {date : Date} (hlower : 1970 ≤ date.year) (hupper : date.year ≤ 9999)
    (hvalid : date.isValid = true) : date.toDays.natAbs ≤ 10000000 := by
  have hmonth := daysInMonth_le date.year date.month
  simp only [isValid, Bool.and_eq_true, decide_eq_true_eq] at hvalid
  simp only [toDays, daysPerEra, daysBeforeYear, daysBeforeMonth, epochShift]
  split <;> omega

theorem DateTime.natAbs_toSeconds_le {t : DateTime} (hdays : t.date.toDays.natAbs ≤ 10000000)
    (hhour : t.hour < 24) (hminute : t.minute < 60) (hsecond : t.second < 60) :
    t.toSeconds.natAbs ≤ 1000000000000 := by
  rw [toSeconds]
  omega

namespace HttpDate

theorem Reading.natAbs_toSeconds_le {r : Reading} (hvalid : r.isValid = true) :
    r.time.toSeconds.natAbs ≤ 1000000000000 := by
  simp only [isValid, Bool.and_eq_true, decide_eq_true_eq] at hvalid
  obtain ⟨⟨⟨⟨⟨⟨hlower, hupper⟩, hdate⟩, hhour⟩, hminute⟩, hsecond⟩, -⟩ := hvalid
  exact DateTime.natAbs_toSeconds_le (Date.natAbs_toDays_le hlower hupper hdate) hhour hminute
    hsecond

/-- A date that is read is a whole second within the years that are read. -/
theorem nanos_of_parse? {s : Text} {t : Instant} (hparse : parse? s = some t) :
    ∃ seconds : Int, t.nanos = seconds * 1000000000 ∧ seconds.natAbs ≤ 1000000000000 := by
  obtain ⟨reading, -, hreading⟩ := Option.bind_eq_some_iff.1 hparse
  split at hreading
  · next hvalid =>
      exact ⟨_, Instant.ofNanos?_eq_some_iff.1 hreading, Reading.natAbs_toSeconds_le hvalid⟩
  · cases hreading

end HttpDate

/-- A server's date is a whole second within the years that are read. -/
theorem Failure.nanos_of_serverDate? {f : Failure} {date : Instant}
    (hdate : f.serverDate? = some date) :
    ∃ seconds : Int, date.nanos = seconds * 1000000000 ∧ seconds.natAbs ≤ 1000000000000 := by
  obtain ⟨fields, -, hfields⟩ := Option.bind_eq_some_iff.1 hdate
  obtain ⟨value, -, hvalue⟩ := Option.bind_eq_some_iff.1 hfields
  obtain ⟨text, -, htext⟩ := Option.bind_eq_some_iff.1 hvalue
  exact HttpDate.nanos_of_parse? htext

end ServiceCall
