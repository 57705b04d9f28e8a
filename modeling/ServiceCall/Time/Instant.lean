import ServiceCall.Time.Duration

/-!
# Instants

A point in time, counted in nanoseconds from the start of 1970.  Whole seconds are limited to a
signed 64-bit number, so a shift can leave the range; then it has no result.
-/

namespace ServiceCall

/-- One more than the largest count of nanoseconds of an instant. -/
def Instant.limit : Int := 0x8000000000000000 * 1000000000

structure Instant where
  nanos : Int
  lower : -Instant.limit ≤ nanos
  upper : nanos < Instant.limit
  deriving DecidableEq

namespace Instant

/-- The instant with this count of nanoseconds, when it is in range. -/
def ofNanos? (n : Int) : Option Instant :=
  if h : -limit ≤ n ∧ n < limit then some ⟨n, h.1, h.2⟩ else none

/-- The start of 1970. -/
def epoch : Instant := ⟨0, by decide, by decide⟩

instance : Inhabited Instant := ⟨epoch⟩

def add? (t : Instant) (d : Duration) : Option Instant := ofNanos? (t.nanos + d.nanos)

def sub? (t : Instant) (d : Duration) : Option Instant := ofNanos? (t.nanos - d.nanos)

/-- How much later `t` is than `s`; zero when it is not later. -/
def since (t s : Instant) : Duration := ⟨(t.nanos - s.nanos).toNat⟩

/-- Whole seconds since the epoch, rounded down. -/
def seconds (t : Instant) : Int := t.nanos / 1000000000

theorem ofNanos?_nanos (t : Instant) : ofNanos? t.nanos = some t := by
  simp [ofNanos?, t.lower, t.upper]

theorem ofNanos?_eq_some_iff {n : Int} {t : Instant} : ofNanos? n = some t ↔ t.nanos = n := by
  constructor
  · intro h
    simp only [ofNanos?] at h
    split at h
    · rw [← Option.some.inj h]
    · simp at h
  · rintro rfl
    exact ofNanos?_nanos t

theorem nanos_of_add? {t u : Instant} {d : Duration} (h : t.add? d = some u) :
    u.nanos = t.nanos + d.nanos :=
  ofNanos?_eq_some_iff.1 h

end Instant

end ServiceCall
