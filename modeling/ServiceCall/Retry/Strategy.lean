import ServiceCall.Retry.Backoff
import ServiceCall.Retry.Mode
import ServiceCall.Retry.Quota

/-!
# Retry strategies

A strategy judges a failure, says how long to wait, and hears of every success.  It keeps a state of
its own, which the calls of a client share.  The two strategies of the library keep a quota: the
older one leaves it alone, the standard one pays for every retry from it.
-/

namespace ServiceCall

inductive Verdict where
  | retry
  | stop
  | denied (reason : Kind)
  deriving DecidableEq

structure RetryStrategy (τ : Type) where
  limit : τ → Nat
  judge : Failure → Nat → τ → Verdict × τ
  delay : Failure → Nat → τ → Delay × τ
  credit : Option Kind → τ → τ
  mode : Option RetryMode
  /-- The quota that the strategy keeps, if it keeps one. -/
  quota : τ → Option Quota

/-- What the two strategies of the library have in common. -/
structure RetryRules where
  limit : Nat
  backoff : Backoff
  positive : 1 ≤ limit

namespace RetryRules

def withLimit (r : RetryRules) (limit : Nat) : RetryRules :=
  { r with limit := max 1 limit, positive := Nat.le_max_left .. }

def withBackoff (r : RetryRules) (backoff : Backoff) : RetryRules := { r with backoff }

/-- Whether a failure of an attempt may be retried at all. -/
def allows (r : RetryRules) (failure : Failure) (attempt : Nat) : Bool :=
  attempt < r.limit && failure.retryable

end RetryRules

namespace Legacy

def rules : RetryRules :=
  ⟨RetryMode.legacy.defaultLimit, .new (.ofMillis 25) Backoff.standardMax, by decide⟩

def strategy (r : RetryRules) : RetryStrategy Quota :=
  { limit := fun _ => r.limit
    judge := fun failure attempt quota =>
      (if r.allows failure attempt then .retry else .stop, quota)
    delay := fun failure attempt quota => (r.backoff.delay failure attempt, quota)
    credit := fun _ quota => quota
    mode := some .legacy
    quota := fun _ => none }

end Legacy

namespace Standard

def rules : RetryRules :=
  ⟨RetryMode.standard.defaultLimit, .new (.ofMillis 100) Backoff.standardMax, by decide⟩

/-- A retry that is allowed is paid for; without enough tokens it is denied. -/
def judge (r : RetryRules) (costs : Costs) (failure : Failure) (attempt : Nat) (quota : Quota) :
    Verdict × Quota :=
  if r.allows failure attempt then
    match quota.tryAcquire (costs.of failure.kind) with
    | (true, rest) => (.retry, rest)
    | (false, rest) => (.denied .quotaExhausted, rest)
  else (.stop, quota)

def strategy (r : RetryRules) (costs : Costs) : RetryStrategy Quota :=
  { limit := fun _ => r.limit
    judge := judge r costs
    delay := fun failure attempt quota => (r.backoff.delay failure attempt, quota)
    credit := fun retried quota => quota.release (costs.credit retried)
    mode := some .standard
    quota := some }

end Standard

/-- The strategy of a mode with at most `limit` attempts, or the mode's own number of them. -/
def RetryMode.strategy (mode : RetryMode) (limit : Option Nat) : RetryStrategy Quota :=
  let limit := limit.getD mode.defaultLimit
  match mode with
  | .legacy => Legacy.strategy (Legacy.rules.withLimit limit)
  | .standard => Standard.strategy (Standard.rules.withLimit limit) .standard

end ServiceCall
