import ServiceCall.Time.Instant

/-!
# Civil dates

Days counted from the start of 1970 as dates of the Gregorian calendar, extended to all years, and
back.  Both directions count in eras of 400 years that begin in March, so that the leap day is the
last day of its year.
-/

namespace ServiceCall

structure Date where
  year : Int
  month : Nat
  day : Nat
  deriving DecidableEq, Repr

namespace Date

/-- Days from the first of March of the year zero to the start of 1970. -/
def epochShift : Int := 719468

def daysPerEra : Int := 146097

/-- The year within its era, from the day within the era. -/
def yearOfEra (day : Nat) : Nat := (day - day / 1460 + day / 36524 - day / 146096) / 365

/-- The days of an era before a given year of it. -/
def daysBeforeYear (year : Nat) : Nat := 365 * year + year / 4 - year / 100

/-- The days of a year before a month counted from March. -/
def daysBeforeMonth (month : Nat) : Nat := (153 * month + 2) / 5

def ofDays (days : Int) : Date :=
  let shifted := days + epochShift
  let era := shifted / daysPerEra
  let dayOfEra := (shifted % daysPerEra).toNat
  let year := yearOfEra dayOfEra
  let dayOfYear := dayOfEra - daysBeforeYear year
  let fromMarch := (5 * dayOfYear + 2) / 153
  let month := if fromMarch < 10 then fromMarch + 3 else fromMarch - 9
  { year := era * 400 + year + (if month ≤ 2 then 1 else 0)
    month
    day := dayOfYear - daysBeforeMonth fromMarch + 1 }

def toDays (date : Date) : Int :=
  let year := if date.month ≤ 2 then date.year - 1 else date.year
  let fromMarch := (date.month + 9) % 12
  let dayOfYear := daysBeforeMonth fromMarch + (date.day - 1)
  year / 400 * daysPerEra + (daysBeforeYear (year % 400).toNat + dayOfYear : Nat) - epochShift

def isLeapYear (year : Int) : Bool := year % 4 == 0 && (year % 100 != 0 || year % 400 == 0)

def daysInMonth (year : Int) (month : Nat) : Nat :=
  if month = 2 then if isLeapYear year then 29 else 28
  else if month = 4 ∨ month = 6 ∨ month = 9 ∨ month = 11 then 30
  else 31

/-- Whether a date stands in the calendar. -/
def isValid (date : Date) : Bool :=
  1 ≤ date.month && date.month ≤ 12 && 1 ≤ date.day &&
    date.day ≤ daysInMonth date.year date.month

/-- The day of the week, counted from Sunday as zero. -/
def weekday (days : Int) : Nat := ((days + 4) % 7).toNat

end Date

/-- A date and a time of day in whole seconds. -/
structure DateTime where
  date : Date
  hour : Nat
  minute : Nat
  second : Nat
  deriving DecidableEq, Repr

namespace DateTime

/-- The date and time of day of an instant, rounded down to whole seconds. -/
def ofInstant (t : Instant) : DateTime :=
  let clock := (t.seconds % 86400).toNat
  { date := Date.ofDays (t.seconds / 86400)
    hour := clock / 3600
    minute := clock / 60 % 60
    second := clock % 60 }

/-- Seconds from the epoch; the second of a leap second counts as the one after it. -/
def toSeconds (t : DateTime) : Int :=
  t.date.toDays * 86400 + (t.hour * 3600 + t.minute * 60 + t.second : Nat)

def toInstant? (t : DateTime) : Option Instant := Instant.ofNanos? (t.toSeconds * 1000000000)

end DateTime

end ServiceCall
