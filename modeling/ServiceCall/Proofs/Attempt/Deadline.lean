import ServiceCall.Proofs.Attempt.Info
import ServiceCall.Proofs.Time.Calendar

/-!
# Deadlines as text

A deadline of a year of four digits is written in sixteen characters, each number in its own width,
and reads back as its time rounded down to whole seconds.  Attempt information tells it in this
form, and each of its parts is found again by name.
-/

namespace ServiceCall

/-- A time in the years 0 to 9999. -/
def Instant.FourDigitYear (t : Instant) : Prop :=
  0 ≤ (DateTime.ofInstant t).date.year ∧ (DateTime.ofInstant t).date.year ≤ 9999

theorem Instant.fourDigitYear_iff (t : Instant) : t.FourDigitYear ↔
    -62167219200 * 1000000000 ≤ t.nanos ∧ t.nanos < 253402300800 * 1000000000 := by
  have hfirst : Date.toDays ⟨0, 1, 1⟩ * 86400000000000 = -62167219200 * 1000000000 := by decide
  have hafter : Date.toDays ⟨9999 + 1, 1, 1⟩ * 86400000000000 = 253402300800 * 1000000000 := by
    decide
  rw [FourDigitYear, DateTime.le_year_ofInstant_iff, DateTime.year_ofInstant_le_iff, hfirst, hafter]

/-- A text is a number in decimal digits that fill a width. -/
structure Numeral.Fills (width : Nat) (s : Text) (n : Nat) : Prop where
  length : s.length = width
  digits : s.all Char.isDigit = true
  value : digitsValue s = n

theorem Numeral.fills_padded {width n : Nat} (hwidth : 0 < width) (hn : n < Nat.pow 10 width) :
    Fills width (padded width n) n :=
  ⟨length_padded hwidth hn, padded_all_isDigit width n, digitsValue_padded width n⟩

/-- A date that stands in the calendar, and a time of day. -/
structure DateTime.IsCivil (dt : DateTime) : Prop where
  date : dt.date.isValid = true
  hour : dt.hour < 24
  minute : dt.minute < 60
  second : dt.second < 60

theorem DateTime.isCivil_ofInstant (t : Instant) : (ofInstant t).IsCivil := by
  refine ⟨Date.isValid_ofDays _, ?_, ?_, ?_⟩
  · simp only [ofInstant]
    omega
  · exact Nat.mod_lt _ (by decide)
  · exact Nat.mod_lt _ (by decide)

/-- A text shows date and time in the form `YYYYMMDDThhmmssZ`. -/
def Stamp.Shows (s : Text) (dt : DateTime) : Prop :=
  ∃ year month day hour minute second : Text,
    s = year ++ month ++ day ++ 'T' :: hour ++ minute ++ second ++ ['Z'] ∧
      Numeral.Fills 4 year dt.date.year.toNat ∧ Numeral.Fills 2 month dt.date.month ∧
      Numeral.Fills 2 day dt.date.day ∧ Numeral.Fills 2 hour dt.hour ∧
      Numeral.Fills 2 minute dt.minute ∧ Numeral.Fills 2 second dt.second

namespace Stamp

variable {s : Text} {dt : DateTime} {t : Instant}

theorem Shows.length (hshows : Shows s dt) : s.length = 16 := by
  obtain ⟨year, month, day, hour, minute, second, rfl, hyear, hmonth, hday, hhour, hminute,
    hsecond⟩ := hshows
  simp only [List.length_append, List.length_cons, List.length_nil, hyear.length, hmonth.length,
    hday.length, hhour.length, hminute.length, hsecond.length]

theorem toNat_lt_of_mem_format {c : Char} (hmem : c ∈ format t) : c.toNat < 128 := by
  have hvisible := List.all_eq_true.1 (AttemptInfo.isVisible_stamp t) c hmem
  simp only [isVisibleChar, Bool.and_eq_true, decide_eq_true_eq] at hvisible
  omega

theorem shows_format (hyear : t.FourDigitYear) : Shows (format t) (DateTime.ofInstant t) := by
  obtain ⟨hdate, hhour, hminute, hsecond⟩ := DateTime.isCivil_ofInstant t
  obtain ⟨hlower, hupper⟩ := hyear
  rw [format]
  generalize DateTime.ofInstant t = dt at *
  have hdays := Date.daysInMonth_le dt.date.year dt.date.month
  simp only [Date.isValid, Bool.and_eq_true, decide_eq_true_eq] at hdate
  have htwo {n : Nat} (hn : n < 10 ^ 2) : Numeral.Fills 2 (Numeral.padded 2 n) n :=
    Numeral.fills_padded (by decide) hn
  have hfour : Numeral.Fills 4 (yearText dt.date.year) dt.date.year.toNat := by
    rw [yearText, if_pos ⟨hlower, hupper⟩]
    exact Numeral.fills_padded (by decide) (show _ < 10 ^ 4 by omega)
  exact ⟨_, _, _, _, _, _, rfl, hfour, htwo (by omega), htwo (by omega), htwo (by omega),
    htwo (by omega), htwo (by omega)⟩

end Stamp

/-- A deadline of a year of four digits is written as sixteen characters of ASCII that show its date
and time, and is read back as the last whole second that is not after it.  The text about an attempt
tells the number of the attempt, the most attempts and, if there is one, the deadline in this form,
each under its name. -/
theorem AttemptInfo.deadline_read_back {t : Instant} (hyear : t.FourDigitYear)
    (attempt limit : Nat) :
    let written := Stamp.format t
    let dt := DateTime.ofInstant t
    let dated : AttemptInfo := ⟨attempt, limit, some t⟩
    let undated : AttemptInfo := ⟨attempt, limit, none⟩
    (written.length = 16 ∧ (∀ c ∈ written, c.toNat < 128) ∧
        dt.IsCivil ∧ dt.toSeconds = t.nanos / 1000000000 ∧ Stamp.Shows written dt) ∧
      (∃ read, Stamp.parse? written = some read ∧ read.nanos % 1000000000 = 0 ∧
        read.nanos ≤ t.nanos ∧ t.nanos < read.nanos + 1000000000) ∧
      (∀ i, i = dated ∨ i = undated →
        part? i.text "attempt".toList = some (Numeral.ofNat attempt) ∧
          part? i.text "max".toList = some (Numeral.ofNat limit)) ∧
      part? dated.text "ttl".toList = some written ∧ part? undated.text "ttl".toList = none := by
  intro written dt dated undated
  have hshows := Stamp.shows_format hyear
  refine ⟨⟨hshows.length, fun _ => Stamp.toNat_lt_of_mem_format, DateTime.isCivil_ofInstant t,
    DateTime.toSeconds_ofInstant t, hshows⟩, ?_, ?_, (part?_text dated).2.2,
    (part?_text undated).2.2⟩
  · refine ⟨_, Stamp.parse?_format hyear.1 hyear.2, ?_⟩
    simp only [Instant.wholeSeconds, Instant.seconds]
    omega
  · rintro i (rfl | rfl)
    · exact ⟨(part?_text dated).1, (part?_text dated).2.1⟩
    · exact ⟨(part?_text undated).1, (part?_text undated).2.1⟩

/-- Half a second before 1970. -/
theorem AttemptInfo.deadline_read_back_early :
    let t : Instant := ⟨-500000000, by decide, by decide⟩
    t.FourDigitYear ∧ Stamp.format t = "19691231T235959Z".toList ∧
      (∃ read, Stamp.parse? "19691231T235959Z".toList = some read ∧
        read.nanos % 1000000000 = 0 ∧ read.nanos ≤ -500000000 ∧
          -500000000 < read.nanos + 1000000000) ∧
      part? (AttemptInfo.text ⟨3, 11, some t⟩) "ttl".toList =
        some "19691231T235959Z".toList := by
  intro t
  have hyear : t.FourDigitYear := (Instant.fourDigitYear_iff t).2 (by decide)
  have hwritten : Stamp.format t = "19691231T235959Z".toList := by
    decide +kernel
  obtain ⟨-, hread, -, hfound, -⟩ := deadline_read_back hyear 3 11
  rw [hwritten] at hread hfound
  exact ⟨hyear, hwritten, hread, hfound⟩

end ServiceCall
