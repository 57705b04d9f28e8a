import ServiceCall.Text.Numeral
import ServiceCall.Time.Instant

/-!
# Seconds as decimal text

Durations and instants as seconds with a point.  Writing always gives nine places; reading takes one
to nine, or a whole number of seconds.
-/

namespace ServiceCall

namespace Duration

/-- Seconds with nine places. -/
def text (d : Duration) : Text :=
  Numeral.ofNat (d.nanos / 1000000000) ++ '.' :: Numeral.padded 9 (d.nanos % 1000000000)

/-- The nanoseconds that a fraction of one to nine places stands for. -/
def fraction? (digits : Text) : Option Nat :=
  if digits.isEmpty ∨ ¬digits.all Char.isDigit ∨ 9 < digits.length then none
  else some (Numeral.digitsValue digits * Nat.pow 10 (9 - digits.length))

def ofText? (s : Text) : Option Duration :=
  let (whole, fraction) := match Text.splitOnce '.' s with
    | some (whole, fraction) => (whole, fraction?  fraction)
    | none => (s, some 0)
  if whole.isEmpty ∨ ¬whole.all Char.isDigit then none
  else fraction.map fun nanos => ⟨Numeral.digitsValue whole * 1000000000 + nanos⟩

end Duration

namespace Instant

/-- Seconds from the epoch with nine places, after a minus sign before the epoch. -/
def text (t : Instant) : Text :=
  if t.nanos < 0 then '-' :: Duration.text ⟨t.nanos.natAbs⟩ else Duration.text ⟨t.nanos.toNat⟩

def ofText? : Text → Option Instant
  | '-' :: rest => (Duration.ofText? rest).bind fun d => ofNanos? (-(d.nanos : Int))
  | s => (Duration.ofText? s).bind fun d => ofNanos? d.nanos

end Instant

end ServiceCall
