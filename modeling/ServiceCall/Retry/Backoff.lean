import ServiceCall.Failure

/-!
# Backoff

How long to wait before a retry.  The longest wait doubles with every attempt, in whole
milliseconds, until it reaches a maximum; with full jitter the wait is drawn between zero and that.
A service that asks for a wait gets it, up to the maximum.
-/

namespace ServiceCall

/-- A wait that is fixed, or one to be drawn in whole milliseconds up to a ceiling. -/
inductive Delay where
  | exact (d : Duration)
  | upTo (ceiling : Duration)
  deriving DecidableEq

/-- The wait for a drawn number. -/
def Delay.resolve (delay : Delay) (draw : Nat) : Duration :=
  match delay with
  | .exact d => d
  | .upTo ceiling => .ofMillis (draw % (ceiling.millis + 1))

inductive Jitter where
  | none
  | full
  deriving DecidableEq, Inhabited

/-- The maximum is never below the base. -/
structure Backoff where
  base : Duration
  max : Duration
  jitter : Jitter
  base_le_max : base ≤ max
  deriving DecidableEq

namespace Backoff

/-- Waits from `base` on, with full jitter.  The maximum is raised to the base if it is lower. -/
def new (base max : Duration) : Backoff :=
  ⟨base, Max.max max base, .full, Nat.le_max_right ..⟩

def withJitter (b : Backoff) (jitter : Jitter) : Backoff := { b with jitter }

/-- The most doublings that a wait goes through. -/
def mostDoublings : Nat := 31

/-- The longest wait in milliseconds. -/
def longestMillis : Nat := 0xFFFFFFFFFFFFFFFF

/-- The longest wait after a given attempt. -/
def ceiling (b : Backoff) (attempt : Nat) : Duration :=
  let doubled := b.base.millis * Nat.pow 2 (min (attempt - 1) mostDoublings)
  .ofMillis (min (min doubled (Max.max b.max.millis b.base.millis)) longestMillis)

/-- The wait after a failure of a given attempt. -/
def delay (b : Backoff) (failure : Failure) (attempt : Nat) : Delay :=
  match failure.retryAfter with
  | some wait => .exact (min wait b.max)
  | none =>
    match b.jitter with
    | .none => .exact (b.ceiling attempt)
    | .full => .upTo (b.ceiling attempt)

/-- The longest maximum of the standard waits. -/
def standardMax : Duration := .ofSeconds 20

end Backoff

end ServiceCall
