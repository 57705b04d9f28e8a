import ServiceCall.Failure

/-!
# Time budgets

A call may have a limit for all its attempts and waits together.  An attempt is then given no more
time than is left, and a wait that does not end before the limit is not begun.
-/

namespace ServiceCall.Budget

/-- The time that an attempt is given, or nothing once the total is used up. -/
def sendLimit (perAttempt : Duration) (total : Option Duration) (elapsed : Duration) :
    Option Duration :=
  match total with
  | none => some perAttempt
  | some total => if total ≤ elapsed then none else some (min perAttempt (total - elapsed))

/-- The wait itself if it ends before the total is used up. -/
def wait (wait : Duration) (total : Option Duration) (elapsed : Duration) : Option Duration :=
  match total with
  | none => some wait
  | some total => if elapsed + wait < total then some wait else none

/-- The failure of a call whose total is used up.  It is never retried. -/
def exhausted (total : Option Duration) : Failure :=
  { Failure.of .requestTimeout (.budgetExhausted ((total.map Duration.millis).getD 0)) with
    retryable := false }

end ServiceCall.Budget
