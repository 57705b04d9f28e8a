import ServiceCall.Attempt.Info
import ServiceCall.Attempt.InvocationId
import ServiceCall.Failure
import ServiceCall.Skew.Offset

/-!
# The context of a call in progress

What the attempts of one call know of each other: the identifier they share, the number of the
present attempt and its deadline, the clock offset it signs with, whether the one retry for a wrong
clock was used, for which kind of failure the strategy last allowed a retry, and the last failure.
-/

namespace ServiceCall

structure Context where
  id : InvocationId
  info : AttemptInfo
  offset : ClockOffset
  bonusUsed : Bool
  retriedKind : Option Kind
  lastFailure : Option Failure
  deriving DecidableEq

namespace Context

/-- The context of a first attempt. -/
def first (id : InvocationId) (limit : Nat) : Context :=
  ⟨id, .first limit, .zero, false, none, none⟩

@[simp] theorem attempt_first (id : InvocationId) (limit : Nat) :
    (first id limit).info.attempt = 1 := rfl

@[simp] theorem limit_first (id : InvocationId) (limit : Nat) :
    (first id limit).info.limit = max 1 limit := rfl

/-- The context with the offset that its attempt signs with. -/
def withOffset (c : Context) (offset : ClockOffset) : Context := { c with offset }

@[simp] theorem info_withOffset (c : Context) (offset : ClockOffset) :
    (c.withOffset offset).info = c.info := rfl

@[simp] theorem bonusUsed_withOffset (c : Context) (offset : ClockOffset) :
    (c.withOffset offset).bonusUsed = c.bonusUsed := rfl

@[simp] theorem retriedKind_withOffset (c : Context) (offset : ClockOffset) :
    (c.withOffset offset).retriedKind = c.retriedKind := rfl

/-- The time until which the client waits for an attempt: the limit after a reference, or the
reference itself when the sum leaves the range. -/
def deadline (reference : Instant) (timeout : Duration) : Instant :=
  (reference.add? timeout).getD reference

/-- The context of the attempt after a failed one. -/
def advance (c : Context) (reference : Instant) (timeout : Duration) (failure : Failure) :
    Context :=
  { c with
    info := { c.info with
      attempt := c.info.attempt + 1
      deadline := some (deadline reference timeout) }
    lastFailure := some failure }

@[simp] theorem attempt_advance (c : Context) (reference : Instant) (timeout : Duration)
    (failure : Failure) :
    (c.advance reference timeout failure).info.attempt = c.info.attempt + 1 := rfl

@[simp] theorem limit_advance (c : Context) (reference : Instant) (timeout : Duration)
    (failure : Failure) :
    (c.advance reference timeout failure).info.limit = c.info.limit := rfl

@[simp] theorem bonusUsed_advance (c : Context) (reference : Instant) (timeout : Duration)
    (failure : Failure) : (c.advance reference timeout failure).bonusUsed = c.bonusUsed := rfl

@[simp] theorem retriedKind_advance (c : Context) (reference : Instant) (timeout : Duration)
    (failure : Failure) :
    (c.advance reference timeout failure).retriedKind = c.retriedKind := rfl

end Context

end ServiceCall
