import ServiceCall.Failure

/-!
# Retry quota

A bucket of tokens that all calls of a client, or of several clients, share.  A retry takes tokens
out, a success puts some back, and the bucket never holds more than its capacity.
-/

namespace ServiceCall

structure Quota where
  capacity : Nat
  available : Nat
  bounded : available ≤ capacity
  deriving DecidableEq

namespace Quota

/-- A full bucket. -/
def new (capacity : Nat) : Quota := ⟨capacity, capacity, Nat.le_refl _⟩

def standardCapacity : Nat := 500

def standard : Quota := new standardCapacity

instance : Inhabited Quota := ⟨standard⟩

/-- Takes tokens out if there are enough. -/
def tryAcquire (q : Quota) (cost : Nat) : Bool × Quota :=
  if cost ≤ q.available then
    (true, { q with
      available := q.available - cost
      bounded := Nat.le_trans (Nat.sub_le ..) q.bounded })
  else (false, q)

/-- Puts tokens back, as far as there is room. -/
def release (q : Quota) (amount : Nat) : Quota :=
  { q with
    available := min (q.available + amount) q.capacity
    bounded := Nat.min_le_right .. }

end Quota

/-- What a retry costs by the kind of failure, and what a first success gives back. -/
structure Costs where
  timeout : Nat
  throttling : Nat
  retry : Nat
  noRetryIncrement : Nat
  deriving DecidableEq

namespace Costs

def standard : Costs := ⟨10, 5, 5, 1⟩

instance : Inhabited Costs := ⟨standard⟩

def of (c : Costs) : Kind → Nat
  | .requestTimeout => c.timeout
  | .throttling => c.throttling
  | _ => c.retry

/-- What a success puts back: the cost of the last retry, or a small amount if there was none. -/
def credit (c : Costs) (retried : Option Kind) : Nat :=
  match retried with
  | some kind => c.of kind
  | none => c.noRetryIncrement

end Costs

end ServiceCall
