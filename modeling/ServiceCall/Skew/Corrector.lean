import ServiceCall.Failure
import ServiceCall.Skew.Offset

/-!
# Learning the server's clock

A client keeps one offset, added to the local clock whenever it signs.  A failure that may come from
a wrong clock and that carries the server's date corrects the offset, if that date is further from
the time of signing than a threshold.  The time of signing has the offset in it already, so an
offset that is right does not correct itself again.
-/

namespace ServiceCall

/-- The offset in force, and whether one was set since the last reset. -/
structure SkewState where
  offset : ClockOffset
  hasBeenSet : Bool
  deriving DecidableEq, Inhabited

namespace SkewState

def new : SkewState := ⟨.zero, false⟩

def set (_ : SkewState) (offset : ClockOffset) : SkewState := ⟨offset, true⟩

end SkewState

/-- A change of the offset, with the distance of the server's date from the time of signing. -/
structure Correction where
  previous : ClockOffset
  offset : ClockOffset
  signingDelta : ClockOffset
  deriving DecidableEq

structure Corrector where
  threshold : Duration
  enabled : Bool
  deriving DecidableEq

namespace Corrector

def standard : Corrector := ⟨Skew.defaultThreshold, true⟩

/-- The server's date and its distance from the time of signing, for a failure that may come from a
wrong clock, if the distance is beyond the threshold. -/
def measured? (c : Corrector) (failure : Failure) (signedAt : Instant) :
    Option (Instant × ClockOffset) :=
  if c.enabled ∧ failure.isSkewCandidate then do
    let date ← failure.serverDate?
    let delta := ClockOffset.between date signedAt
    if c.threshold < delta.magnitude then some (date, delta) else none
  else none

/-- The correction that a failure calls for, if any. -/
def correction? (c : Corrector) (state : SkewState) (failure : Failure)
    (signedAt receivedAt : Instant) : Option Correction :=
  (c.measured? failure signedAt).map fun (date, delta) =>
    ⟨state.offset, .between date receivedAt, delta⟩

/-- Observes a failure: the correction made, if any, and the state after it. -/
def observe (c : Corrector) (state : SkewState) (failure : Failure)
    (signedAt receivedAt : Instant) : Option Correction × SkewState :=
  match c.correction? state failure signedAt receivedAt with
  | some correction => (some correction, state.set correction.offset)
  | none => (none, state)

end Corrector

end ServiceCall
