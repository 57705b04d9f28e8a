import ServiceCall.Text.Blank
import ServiceCall.Text.Numeral
import ServiceCall.Time.Civil

/-!
# Compact time stamps

The form `YYYYMMDDThhmmssZ`, in which deadlines and signing times are written.  Writing rounds down
to whole seconds.  Reading is more lenient than writing: blanks may stand before each number, the
numbers after the year may be short, a year with a sign may have any number of digits, and the
second may be a leap second.
-/

namespace ServiceCall.Stamp

/-- Four digits for the years 0 to 9999; a sign and at least four digits for all others. -/
def yearText (year : Int) : Text :=
  if 0 ≤ year ∧ year ≤ 9999 then Numeral.padded 4 year.toNat
  else (if year < 0 then '-' else '+') :: Numeral.padded 4 year.natAbs

def dateText (date : Date) : Text :=
  yearText date.year ++ Numeral.padded 2 date.month ++ Numeral.padded 2 date.day

/-- The date of an instant, without the time of day. -/
def day (t : Instant) : Text := dateText (DateTime.ofInstant t).date

/-- The form of a time.  It is defined for times without a date too, which are never written. -/
def format (t : Instant) : Text :=
  let dt := DateTime.ofInstant t
  dateText dt.date ++ 'T' :: Numeral.padded 2 dt.hour ++ Numeral.padded 2 dt.minute
    ++ Numeral.padded 2 dt.second ++ ['Z']

/-- Reads a run of digits of at least one and at most `width`, after any blanks. -/
def number? (width : Nat) (s : Text) : Option (Nat × Text) :=
  let s := Text.trimStart isBlank s
  let digits := (s.take width).takeWhile Char.isDigit
  if digits.isEmpty then none
  else some (Numeral.digitsValue digits, s.drop digits.length)

/-- Reads a year: up to four digits, or a sign and any number of digits. -/
def year? (s : Text) : Option (Int × Text) :=
  match Text.trimStart isBlank s with
  | '-' :: rest => signed (-1) rest
  | '+' :: rest => signed 1 rest
  | rest => (number? 4 rest).map fun (n, rest) => ((n : Int), rest)
where
  signed (sign : Int) (s : Text) : Option (Int × Text) :=
    let digits := s.takeWhile Char.isDigit
    if digits.isEmpty then none
    else some (sign * Numeral.digitsValue digits, s.drop digits.length)

/-- Reads one fixed character. -/
def mark? (c : Char) : Text → Option Text
  | d :: rest => if c = d then some rest else none
  | [] => none

/-- The years that have a date. -/
def firstYear : Int := -262143

def lastYear : Int := 262142

/-- Whether a time lies in a year that has a date.  Only such a time can be written down. -/
def hasDate (t : Instant) : Bool :=
  let year := (DateTime.ofInstant t).date.year
  firstYear ≤ year && year ≤ lastYear

/-- Writes a time down, if it has a date. -/
def write? (t : Instant) : Option Text := if hasDate t then some (format t) else none

/-- The date and time that a stamp stands for, when it is one. -/
def read? (s : Text) : Option DateTime := do
  let (year, s) ← year? s
  let (month, s) ← number? 2 s
  let (day, s) ← number? 2 s
  let s ← mark? 'T' s
  let (hour, s) ← number? 2 s
  let (minute, s) ← number? 2 s
  let (second, s) ← number? 2 s
  let s ← mark? 'Z' s
  let date : Date := ⟨year, month, day⟩
  if s.isEmpty ∧ firstYear ≤ year ∧ year ≤ lastYear ∧ date.isValid ∧ hour < 24 ∧ minute < 60
      ∧ second ≤ 60 then
    some ⟨date, hour, minute, second⟩
  else none

def parse? (s : Text) : Option Instant := (read? s).bind DateTime.toInstant?

end ServiceCall.Stamp
