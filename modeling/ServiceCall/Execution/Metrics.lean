import ServiceCall.Execution.Journal

/-!
# Metrics

Counters over all executions of a client, as a fold over their journals.  A client that does not
keep them counts nothing.
-/

namespace ServiceCall

/-- Adds one to the count of a key; keys stand in order. -/
def tally {α : Type} [DecidableEq α] (before : α → α → Bool) (key : α) :
    List (α × Nat) → List (α × Nat)
  | [] => [(key, 1)]
  | (other, n) :: rest =>
    if key = other then (other, n + 1) :: rest
    else if before key other then (key, 1) :: (other, n) :: rest
    else (other, n) :: tally before key rest

structure Metrics where
  started : Nat
  succeeded : Nat
  failed : Nat
  attempts : Nat
  retries : Nat
  corrections : Nat
  denials : Nat
  cancellations : Nat
  inFlight : Nat
  latencySamples : Nat
  statuses : List (Nat × Nat)
  failures : List (Text × Nat)
  deriving DecidableEq

namespace Metrics

def zero : Metrics := ⟨0, 0, 0, 0, 0, 0, 0, 0, 0, 0, [], []⟩

instance : Inhabited Metrics := ⟨zero⟩

/-- Counts a call that ended. -/
def finish (m : Metrics) (kind : Option Kind) : Metrics :=
  let m := { m with inFlight := m.inFlight - 1, latencySamples := m.latencySamples + 1 }
  match kind with
  | none => { m with succeeded := m.succeeded + 1 }
  | some kind =>
    { m with
      failed := m.failed + 1
      cancellations := if kind = .cancelled then m.cancellations + 1 else m.cancellations
      failures := tally (fun a b => decide (a < b)) kind.code m.failures }

def count (m : Metrics) : Entry → Metrics
  | .began => { m with started := m.started + 1, inFlight := m.inFlight + 1 }
  | .started _ => { m with attempts := m.attempts + 1 }
  | .answered ⟨.response r, _, _⟩ =>
    { m with statuses := tally (fun a b => decide (a < b)) r.status.code m.statuses }
  | .corrected _ => { m with corrections := m.corrections + 1 }
  | .judged _ _ (.denied _) => { m with denials := m.denials + 1 }
  | .entered .retrying => { m with retries := m.retries + 1 }
  | .finished s => m.finish s.kind
  | _ => m

/-- The counters after an execution. -/
def record (m : Metrics) (enabled : Bool) (j : Journal) : Metrics :=
  if enabled then j.foldl count m else m

end Metrics

/-- The requests that were sent, each with the number of calls in progress at that time. -/
def Journal.sendsInFlight (j : Journal) (enabled : Bool) (m : Metrics) : List (Sent × Nat) :=
  match j with
  | [] => []
  | entry :: rest =>
    let m := m.record enabled [entry]
    match entry.sent? with
    | some s => (s, m.inFlight) :: sendsInFlight rest enabled m
    | none => sendsInFlight rest enabled m

end ServiceCall
