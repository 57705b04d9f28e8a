import ServiceCall.Text.Blank
import ServiceCall.Text.Numeral
import ServiceCall.Time.Civil

/-!
# Dates of header fields

A server writes a date in one of three forms: `Sun, 06 Nov 1994 08:49:37 GMT`,
`Sunday, 06-Nov-94 08:49:37 GMT` and `Sun Nov  6 08:49:37 1994`.  All three are read.  The years go
from 1970 to 9999, and the day of the week has to be that of the date.
-/

namespace ServiceCall.HttpDate

/-- What a written date says, before it is checked against the calendar. -/
structure Reading where
  weekday : Nat
  time : DateTime
  deriving DecidableEq

def dayNames : List Text :=
  ["Sun", "Mon", "Tue", "Wed", "Thu", "Fri", "Sat"].map String.toList

def longDayNames : List Text :=
  ["Sunday", "Monday", "Tuesday", "Wednesday", "Thursday", "Friday", "Saturday"].map String.toList

def monthNames : List Text :=
  ["Jan", "Feb", "Mar", "Apr", "May", "Jun", "Jul", "Aug", "Sep", "Oct", "Nov", "Dec"].map
    String.toList

/-- The place of a name in a list of names. -/
def nameIndex? (names : List Text) (name : Text) : Option Nat := names.findIdx? (· == name)

/-- Characters `start` to `start + length` of a text. -/
def slice (s : Text) (start length : Nat) : Text := (s.drop start).take length

/-- The value of a field made of digits only. -/
def digits? (s : Text) : Option Nat :=
  if s.isEmpty ∨ ¬s.all Char.isDigit then none else some (Numeral.digitsValue s)

/-- A month's name between two given characters. -/
def month? (before after : Char) (s : Text) : Option Nat :=
  match s with
  | [b, x, y, z, a] =>
    if b = before ∧ a = after then (nameIndex? monthNames [x, y, z]).map (· + 1) else none
  | _ => none

/-- The time of day `hh:mm:ss`. -/
def clock? (s : Text) : Option (Nat × Nat × Nat) := do
  guard (slice s 2 1 = [':'] ∧ slice s 5 1 = [':'])
  let hour ← digits? (slice s 0 2)
  let minute ← digits? (slice s 3 2)
  let second ← digits? (slice s 6 2)
  pure (hour, minute, second)

/-- The form `Sun, 06 Nov 1994 08:49:37 GMT`. -/
def fixed? (s : Text) : Option Reading := do
  guard (s.length = 29 ∧ slice s 25 4 = " GMT".toList ∧ slice s 16 1 = [' ']
    ∧ slice s 3 2 = ", ".toList)
  let weekday ← nameIndex? dayNames (slice s 0 3)
  let day ← digits? (slice s 5 2)
  let month ← month? ' ' ' ' (slice s 7 5)
  let year ← digits? (slice s 12 4)
  let (hour, minute, second) ← clock? (slice s 17 8)
  pure ⟨weekday, ⟨⟨year, month, day⟩, hour, minute, second⟩⟩

/-- Two digits stand for the years 1970 to 2069. -/
def fullYear (n : Nat) : Nat := if n < 70 then n + 2000 else n + 1900

/-- The form `Sunday, 06-Nov-94 08:49:37 GMT`.  Any character may stand between date and time. -/
def long? (s : Text) : Option Reading := do
  let (name, rest) ← Text.splitOnce ',' s
  let weekday ← nameIndex? longDayNames name
  let rest ← if rest.head? = some ' ' then some (rest.drop 1) else none
  guard (rest.length = 22 ∧ slice rest 18 4 = " GMT".toList)
  let day ← digits? (slice rest 0 2)
  let month ← month? '-' '-' (slice rest 2 5)
  let year ← digits? (slice rest 7 2)
  let (hour, minute, second) ← clock? (slice rest 10 8)
  pure ⟨weekday, ⟨⟨fullYear year, month, day⟩, hour, minute, second⟩⟩

/-- The form `Sun Nov  6 08:49:37 1994`. -/
def plain? (s : Text) : Option Reading := do
  guard (s.length = 24 ∧ slice s 10 1 = [' '] ∧ slice s 19 1 = [' '])
  let weekday ← nameIndex? dayNames (slice s 0 3)
  let month ← month? ' ' ' ' (slice s 3 5)
  let day ← match slice s 8 2 with
    | [' ', d] => digits? [d]
    | field => digits? field
  let (hour, minute, second) ← clock? (slice s 11 8)
  let year ← digits? (slice s 20 4)
  pure ⟨weekday, ⟨⟨year, month, day⟩, hour, minute, second⟩⟩

/-- Whether a reading names a second of the years 1970 to 9999 and its day of the week. -/
def Reading.isValid (r : Reading) : Bool :=
  let t := r.time
  1970 ≤ t.date.year && t.date.year ≤ 9999 && t.date.isValid
    && t.hour < 24 && t.minute < 60 && t.second < 60
    && r.weekday == Date.weekday t.date.toDays

def parse? (s : Text) : Option Instant := do
  let s := Text.trim s
  let reading ← fixed? s <|> long? s <|> plain? s
  if reading.isValid then reading.time.toInstant? else none

end ServiceCall.HttpDate
