import ServiceCall.Proofs.Time.Civil
import ServiceCall.Proofs.Time.HttpDate
import ServiceCall.Time.Stamp

/-!
# Reading stamps back

A stamp of a year of four digits reads back as its time without the fraction of a second.  Each of
its numbers fills its width, so the reader takes neither more nor less than was written.
-/

namespace ServiceCall

namespace Numeral

variable {width n : Nat}

theorem padded_all_isDigit (width n : Nat) : (padded width n).all Char.isDigit = true := by
  rw [padded, List.all_append, ofNat_all_isDigit, Bool.and_true]
  simp

theorem length_padded (hwidth : 0 < width) (hn : n < Nat.pow 10 width) :
    (padded width n).length = width := by
  have hlength : (ofNat n).length ≤ width :=
    (Nat.length_toDigits_le_iff (by decide) hwidth).2 hn
  rw [padded, List.length_append, List.length_replicate, Nat.sub_add_cancel hlength]

theorem digitsValue_padded (width n : Nat) : digitsValue (padded width n) = n := by
  rw [digitsValue, padded, Nat.ofDigitChars_append, Nat.ofDigitChars_replicate_zero, Nat.mul_zero]
  exact digitsValue_ofNat n

end Numeral

theorem isBlank_of_isDigit {c : Char} (hdigit : c.isDigit = true) : isBlank c = false := by
  have hrange : 48 ≤ c.toNat ∧ c.toNat ≤ 57 := by
    simpa [Char.isDigit, UInt32.le_iff_toNat_le] using hdigit
  simp only [isBlank, Bool.or_eq_false_iff, Bool.and_eq_false_iff, decide_eq_false_iff_not,
    beq_eq_false_iff_ne]
  omega

namespace Stamp

variable {width n : Nat}

theorem exists_cons_padded (width n : Nat) :
    ∃ c later, Numeral.padded width n = c :: later ∧ c.isDigit = true := by
  have hdigits := List.all_eq_true.1 (Numeral.padded_all_isDigit width n)
  obtain ⟨c, later, hcons⟩ : ∃ c later, Numeral.padded width n = c :: later :=
    List.exists_cons_of_ne_nil (List.append_ne_nil_of_right_ne_nil _ Nat.toDigits_ne_nil)
  rw [hcons] at hdigits
  exact ⟨c, later, hcons, hdigits c List.mem_cons_self⟩

/-- No blanks stand before a number that was written. -/
theorem trimStart_padded (width n : Nat) (rest : Text) :
    Text.trimStart isBlank (Numeral.padded width n ++ rest) = Numeral.padded width n ++ rest := by
  obtain ⟨c, later, hcons, hdigit⟩ := exists_cons_padded width n
  rw [hcons]
  exact List.dropWhile_cons_of_neg (Bool.eq_false_iff.1 (isBlank_of_isDigit hdigit))

/-- A number that fills its width is read whole. -/
theorem number?_padded (hwidth : 0 < width) (hn : n < Nat.pow 10 width) (rest : Text) :
    number? width (Numeral.padded width n ++ rest) = some (n, rest) := by
  have hlength := Numeral.length_padded hwidth hn
  have htaken : ((Numeral.padded width n ++ rest).take width).takeWhile Char.isDigit =
      Numeral.padded width n := by
    rw [List.take_left' hlength, ← List.append_nil (Numeral.padded width n),
      List.takeWhile_append_of_pos (List.all_eq_true.1 (Numeral.padded_all_isDigit width n))]
    rfl
  have hsome : (Numeral.padded width n).isEmpty = false := by
    obtain ⟨c, later, hcons, -⟩ := exists_cons_padded width n
    rw [hcons]
    rfl
  rw [number?, trimStart_padded]
  simp only [htaken, hsome, Numeral.digitsValue_padded, Bool.false_eq_true, if_false,
    List.drop_left]

/-- A year of four digits is read whole. -/
theorem year?_padded {year : Nat} (hyear : year ≤ 9999) (rest : Text) :
    year? (Numeral.padded 4 year ++ rest) = some ((year : Int), rest) := by
  have hnumber := number?_padded (by decide : 0 < 4) (Nat.lt_succ_of_le hyear) rest
  obtain ⟨c, later, hcons, hdigit⟩ := exists_cons_padded 4 year
  rw [year?, trimStart_padded]
  rw [hcons] at hnumber ⊢
  split
  · next hminus =>
      cases hminus
      cases hdigit
  · next hplus =>
      cases hplus
      cases hdigit
  · rw [hnumber]
    rfl

/-- What is written of a time is read back. -/
theorem read?_format {t : Instant} (hlower : 0 ≤ (DateTime.ofInstant t).date.year)
    (hupper : (DateTime.ofInstant t).date.year ≤ 9999) :
    read? (format t) = some (DateTime.ofInstant t) := by
  have hvalid : (DateTime.ofInstant t).date.isValid = true := Date.isValid_ofDays _
  have hclock : (DateTime.ofInstant t).hour < 24 ∧ (DateTime.ofInstant t).minute < 60 ∧
      (DateTime.ofInstant t).second < 60 := by
    simp only [DateTime.ofInstant]
    omega
  rw [format]
  generalize DateTime.ofInstant t = dt at *
  obtain ⟨⟨year, month, day⟩, hour, minute, second⟩ := dt
  obtain ⟨year, rfl⟩ := Int.eq_ofNat_of_zero_le hlower
  dsimp only at hlower hupper hclock ⊢
  have hmonth : month < 10 ^ 2 ∧ day < 10 ^ 2 := by
    have hlength := Date.daysInMonth_le year month
    simp only [Date.isValid, Bool.and_eq_true, decide_eq_true_eq] at hvalid
    omega
  have hyear : year ≤ 9999 := by omega
  have hyears : firstYear ≤ (year : Int) ∧ (year : Int) ≤ lastYear := by
    simp only [firstYear, lastYear]
    omega
  have htwo : 0 < 2 := by decide
  simp only [dateText, yearText, if_pos (And.intro hlower hupper), Int.toNat_natCast,
    List.append_assoc, List.cons_append, read?, year?_padded hyear,
    number?_padded htwo hmonth.1, number?_padded htwo hmonth.2,
    number?_padded htwo (show hour < 10 ^ 2 by omega),
    number?_padded htwo (show minute < 10 ^ 2 by omega),
    number?_padded htwo (show second < 10 ^ 2 by omega), mark?, Option.bind_eq_bind,
    Option.bind_some, if_true]
  exact if_pos ⟨rfl, hyears.1, hyears.2, hvalid, hclock.1, hclock.2.1, Nat.le_of_lt hclock.2.2⟩

end Stamp

namespace Instant

/-- The time without the fraction of a second. -/
def wholeSeconds (t : Instant) : Instant where
  nanos := t.seconds * 1000000000
  lower := by
    have hlower := t.lower
    simp only [seconds, limit] at hlower ⊢
    omega
  upper := by
    have hupper := t.upper
    simp only [seconds, limit] at hupper ⊢
    omega

end Instant

theorem DateTime.toSeconds_ofInstant (t : Instant) :
    (DateTime.ofInstant t).toSeconds = t.seconds := by
  rw [toSeconds, ofInstant]
  simp only [Date.toDays_ofDays]
  omega

/-- A stamp of a year of four digits reads back as its time in whole seconds. -/
theorem Stamp.parse?_format {t : Instant} (hlower : 0 ≤ (DateTime.ofInstant t).date.year)
    (hupper : (DateTime.ofInstant t).date.year ≤ 9999) :
    parse? (format t) = some t.wholeSeconds := by
  rw [parse?, read?_format hlower hupper, Option.bind_some, DateTime.toInstant?,
    DateTime.toSeconds_ofInstant]
  exact Instant.ofNanos?_nanos t.wholeSeconds

end ServiceCall
