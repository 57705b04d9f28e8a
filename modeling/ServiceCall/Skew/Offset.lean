import ServiceCall.Text.Numeral
import ServiceCall.Time.Instant

/-!
# Clock offsets

How far the server's clock is ahead of the local one, in whole milliseconds of a signed 64-bit
number.  A measured offset is cut toward zero and capped at the largest such number on both sides,
so that the two directions of one measurement are negatives of each other.
-/

namespace ServiceCall

structure ClockOffset where
  millis : Int
  lower : -0x8000000000000000 ≤ millis
  upper : millis < 0x8000000000000000
  deriving DecidableEq

namespace ClockOffset

def zero : ClockOffset := ⟨0, by decide, by decide⟩

instance : Inhabited ClockOffset := ⟨zero⟩

def ofMillis? (n : Int) : Option ClockOffset :=
  if h : -0x8000000000000000 ≤ n ∧ n < 0x8000000000000000 then some ⟨n, h.1, h.2⟩ else none

/-- The largest magnitude of a measured offset. -/
def cap : Nat := 0x7FFFFFFFFFFFFFFF

/-- The whole milliseconds of a duration, up to the cap. -/
def cappedMillis (d : Duration) : Nat := min d.millis cap

theorem cappedMillis_lt (d : Duration) : (cappedMillis d : Int) < 0x8000000000000000 := by
  have : cappedMillis d ≤ cap := Nat.min_le_right ..
  simp only [cap] at this
  omega

/-- The measured offset of `later` from `earlier`, negative when `later` is earlier. -/
def between (later earlier : Instant) : ClockOffset :=
  if earlier.nanos ≤ later.nanos then
    ⟨cappedMillis (later.since earlier), by omega, cappedMillis_lt _⟩
  else
    ⟨-(cappedMillis (earlier.since later) : Int),
      by have := cappedMillis_lt (earlier.since later); omega, by omega⟩

def isZero (o : ClockOffset) : Bool := o.millis == 0

def magnitude (o : ClockOffset) : Duration := .ofMillis o.millis.natAbs

/-- The time shifted by the offset, or the time itself when the shift leaves the range. -/
def apply (o : ClockOffset) (t : Instant) : Instant :=
  if 0 ≤ o.millis then (t.add? o.magnitude).getD t else (t.sub? o.magnitude).getD t

def text (o : ClockOffset) : Text := Numeral.ofInt o.millis ++ "ms".toList

end ClockOffset

namespace Skew

/-- The distance of the clocks from which on it is corrected, unless the client sets another. -/
def defaultThreshold : Duration := .ofSeconds 240

end Skew

end ServiceCall
