import ServiceCall.Time.Civil

/-!
# Days and dates

Every day has a date that stands in the calendar, and the date gives the day back.  An era is taken
apart into centuries, spans of four years, years and days: all but the last of these numbers are
regular, since the years begin in March and leap days come last.
-/

namespace ServiceCall.Date

/-- A day of an era by its centuries, spans and years.  The last day of a span and that of an era
are one more than the regular number. -/
theorem exists_digits {day : Nat} (hday : day < 146097) :
    ∃ centuries spans years rest, centuries ≤ 3 ∧ spans ≤ 24 ∧ years ≤ 3 ∧ rest ≤ 365 ∧
      (rest = 365 → years = 3 ∧ (spans < 24 ∨ centuries = 3)) ∧
      day = 36524 * centuries + 1461 * spans + 365 * years + rest := by
  refine ⟨min (day / 36524) 3, min ((day - 36524 * min (day / 36524) 3) / 1461) 24,
    min ((day - 36524 * min (day / 36524) 3 -
      1461 * min ((day - 36524 * min (day / 36524) 3) / 1461) 24) / 365) 3, ?_⟩
  generalize hcenturies : min (day / 36524) 3 = centuries
  generalize hspans : min ((day - 36524 * centuries) / 1461) 24 = spans
  generalize hyears : min ((day - 36524 * centuries - 1461 * spans) / 365) 3 = years
  refine ⟨day - 36524 * centuries - 1461 * spans - 365 * years, ?_⟩
  omega

variable {centuries spans years rest : Nat}

theorem daysBeforeYear_digits (centuries : Nat) (hspans : spans ≤ 24) (hyears : years ≤ 3) :
    daysBeforeYear (100 * centuries + 4 * spans + years) =
      36524 * centuries + 1461 * spans + 365 * years := by
  rw [daysBeforeYear]
  omega

theorem yearOfEra_digits (hcenturies : centuries ≤ 3) (hspans : spans ≤ 24) (hyears : years ≤ 3)
    (hrest : rest ≤ 365) (hleap : rest = 365 → years = 3 ∧ (spans < 24 ∨ centuries = 3)) :
    yearOfEra (36524 * centuries + 1461 * spans + 365 * years + rest) =
      100 * centuries + 4 * spans + years := by
  generalize hday : 36524 * centuries + 1461 * spans + 365 * years + rest = day
  -- one day in 1460 is a leap day, the last of its span
  have hfours :
      day / 1460 = 25 * centuries + spans ∧
        24 * centuries + spans + 365 * years + rest < 1460 ∨
      day / 1460 = 25 * centuries + spans + 1 ∧
        1460 ≤ 24 * centuries + spans + 365 * years + rest := by
    omega
  have hhundreds : day / 36524 = centuries + day / 146096 := by
    rcases (by omega : centuries = 0 ∨ centuries = 1 ∨ centuries = 2 ∨ centuries = 3) with
      rfl | rfl | rfl | rfl <;> omega
  rw [yearOfEra, hhundreds]
  omega

/-- The month, counted from March, of a day of a year that begins in March. -/
def monthOfYear (day : Nat) : Nat := (5 * day + 2) / 153

/-- The number of a month that is counted from March. -/
def calendarMonth (month : Nat) : Nat := if month < 10 then month + 3 else month - 9

/-- Months divide a year, and only the last day of a leap year needs a leap year. -/
theorem monthOfYear_spec : ∀ day < 366,
    monthOfYear day ≤ 11 ∧ daysBeforeMonth (monthOfYear day) ≤ day ∧
      day + 1 - daysBeforeMonth (monthOfYear day) ≤
        daysInMonth (if day = 365 then 4 else 1) (calendarMonth (monthOfYear day)) := by
  decide +kernel

theorem daysInMonth_le_of_isLeapYear {year year' : Int} (month : Nat)
    (hleap : isLeapYear year = true → isLeapYear year' = true) :
    daysInMonth year month ≤ daysInMonth year' month := by
  unfold daysInMonth
  split
  · cases hyear : isLeapYear year with
    | true =>
        exact Nat.le_of_eq (by rw [hleap hyear])
    | false => cases isLeapYear year' <;> decide
  · exact Nat.le_refl _

/-- The date of a day by its era, the year of the era and the day of the year. -/
theorem exists_ofDays (days : Int) : ∃ (era : Int) (year day : Nat),
    year ≤ 399 ∧ day < 366 ∧ (day = 365 → isLeapYear (era * 400 + year + 1) = true) ∧
      days + epochShift = era * daysPerEra + (daysBeforeYear year + day : Nat) ∧
      ofDays days =
        { year := era * 400 + year + (if calendarMonth (monthOfYear day) ≤ 2 then 1 else 0)
          month := calendarMonth (monthOfYear day)
          day := day - daysBeforeMonth (monthOfYear day) + 1 } := by
  obtain ⟨era, hera⟩ : ∃ era, era = (days + epochShift) / daysPerEra := ⟨_, rfl⟩
  obtain ⟨dayOfEra, hdayOfEra⟩ : ∃ n, n = ((days + epochShift) % daysPerEra).toNat := ⟨_, rfl⟩
  have hday : dayOfEra < 146097 := by simp only [daysPerEra] at hdayOfEra; omega
  obtain ⟨centuries, spans, years, rest, hcenturies, hspans, hyears, hrest, hleap, hdigits⟩ :=
    exists_digits hday
  have hyear := yearOfEra_digits hcenturies hspans hyears hrest hleap
  have hbefore := daysBeforeYear_digits centuries hspans hyears
  rw [← hdigits] at hyear
  have hdayOfYear :
      dayOfEra - daysBeforeYear (100 * centuries + 4 * spans + years) = rest := by
    rw [hbefore]
    omega
  refine ⟨era, 100 * centuries + 4 * spans + years, rest, by omega, by omega, ?_, ?_, ?_⟩
  · intro hlast
    have hlast := hleap hlast
    simp only [isLeapYear, Bool.and_eq_true, Bool.or_eq_true, beq_iff_eq, bne_iff_ne]
    omega
  · rw [hbefore]
    simp only [daysPerEra] at hera hdayOfEra ⊢
    omega
  · rw [ofDays]
    simp only [← hera, ← hdayOfEra, hyear, hdayOfYear]
    rfl

theorem isValid_ofDays (days : Int) : (ofDays days).isValid = true := by
  obtain ⟨era, year, day, hyear, hday, hleap, -, hdate⟩ := exists_ofDays days
  obtain ⟨hmonth, hbefore, hlength⟩ := monthOfYear_spec day hday
  rw [hdate]
  generalize monthOfYear day = month at *
  have hcalendar : 1 ≤ calendarMonth month ∧ calendarMonth month ≤ 12 := by
    rw [calendarMonth]
    split <;> omega
  have hstays : daysInMonth (if day = 365 then 4 else 1) (calendarMonth month) ≤
      daysInMonth (era * 400 + year + (if calendarMonth month ≤ 2 then 1 else 0))
        (calendarMonth month) := by
    by_cases hearly : calendarMonth month ≤ 2
    · rw [if_pos hearly]
      apply daysInMonth_le_of_isLeapYear
      by_cases hlast : day = 365
      · exact fun _ => hleap hlast
      · rw [if_neg hlast]
        exact fun hnot => absurd hnot (by decide)
    · have hlater : calendarMonth month ≠ 2 := by omega
      exact Nat.le_of_eq (by rw [daysInMonth, daysInMonth, if_neg hlater, if_neg hlater])
  simp only [isValid, Bool.and_eq_true, decide_eq_true_eq]
  omega

/-- A day is the day of its date. -/
theorem toDays_ofDays (days : Int) : (ofDays days).toDays = days := by
  obtain ⟨era, year, day, hyear, hday, -, hdays, hdate⟩ := exists_ofDays days
  obtain ⟨hmonth, hbefore, -⟩ := monthOfYear_spec day hday
  rw [hdate]
  generalize monthOfYear day = month at *
  have hfromMarch : (calendarMonth month + 9) % 12 = month := by
    rw [calendarMonth]
    split <;> omega
  have hera : (era * 400 + year) / 400 = era := by omega
  have hyearOfEra : ((era * 400 + year) % 400).toNat = year := by omega
  have hyears : (if calendarMonth month ≤ 2 then
      era * 400 + year + (if calendarMonth month ≤ 2 then 1 else 0) - 1
      else era * 400 + year + (if calendarMonth month ≤ 2 then 1 else 0)) = era * 400 + year := by
    split <;> omega
  simp only [toDays, hfromMarch, hyears, hera, hyearOfEra]
  omega

end ServiceCall.Date
