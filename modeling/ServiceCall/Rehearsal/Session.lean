import ServiceCall.Execution.Loop
import ServiceCall.Execution.Metrics
import ServiceCall.Rehearsal.World

/-!
# Rehearsal sessions

Several clients in one rehearsed world.  They share one local clock, and quotas and clock offsets
under names; a client without a name for one of them has one of its own.  Each client has a script,
from which its calls take line after line.
-/

namespace ServiceCall.Rehearsal

/-- A client in a session, with what it keeps between its calls. -/
structure Member where
  client : Client Quota
  /-- The places of its quota and of its clock offset in the session. -/
  quota : Nat
  skew : Nat
  turn : Nat
  metrics : Metrics
  script : List Line

structure Session where
  clock : Instant
  virtual : Nat
  quotas : List Quota
  skews : List SkewState
  members : List Member

/-- States under names, and their order. -/
structure Shared (α : Type) where
  names : List Text
  states : List α

/-- The place of a state; one of its own is added. -/
def Shared.place {α : Type} (s : Shared α) (own : α) (sharing : Sharing) : Nat × Shared α :=
  let added := (s.states.length, { s with states := s.states ++ [own] })
  match sharing with
  | .own => added
  | .shared name =>
    match s.names.idxOf? name with
    | some i => (i, s)
    | none => added

namespace Session

/-- A session with shared states and one member for each client.  Fails as the first client does
that cannot be built. -/
def make (clock : Instant) (quotas : List (Text × Quota)) (skews : List (Text × SkewState))
    (clients : List ClientOptions) : Except Failure Session := do
  let start : List Member × Shared Quota × Shared SkewState :=
    ([], ⟨quotas.map (·.1), quotas.map (·.2)⟩, ⟨skews.map (·.1), skews.map (·.2)⟩)
  let (members, quotas, skews) ← clients.foldlM
    (fun (members, quotas, skews) options => do
      let client ← options.build
      let (quota, quotas) := quotas.place .standard options.quotaSharing
      let (skew, skews) := skews.place .new options.skew
      pure (members ++ [⟨client, quota, skew, 0, .zero, []⟩], quotas, skews)) start
  pure ⟨clock, 0, quotas.states, skews.states, members⟩

def member? (s : Session) (i : Nat) : Option Member := s.members[i]?

def quotaAt (s : Session) (m : Member) : Quota := s.quotas.getD m.quota .standard

def skewAt (s : Session) (m : Member) : SkewState := s.skews.getD m.skew .new

def setQuota (s : Session) (m : Member) (q : Quota) : Session :=
  { s with quotas := s.quotas.set m.quota q }

def setSkew (s : Session) (m : Member) (state : SkewState) : Session :=
  { s with skews := s.skews.set m.skew state }

def setClock (s : Session) (t : Instant) : Session := { s with clock := t }

def advanceClock (s : Session) (d : Duration) : Session :=
  { s with clock := (s.clock.add? d).getD s.clock }

/-- The quota that a member's strategy keeps, if it keeps one. -/
def visibleQuota (s : Session) (m : Member) : Option Quota :=
  m.client.strategy.quota (s.quotaAt m)

/-- How a call is rehearsed: new lines of the script, whether and when the caller cancels, and a
time that an observer spends at the start of an attempt.  A caller without a means to cancel is not
heeded. -/
structure Rehearsed where
  script : List Line
  cancellable : Bool
  cancelled : Bool
  cancelsAfter : Option Duration
  stall : Option (Nat × Duration)

/-- What is known of a call afterwards. -/
structure Report where
  outcome : Outcome Quota World
  /-- The requests sent, each with the number of calls in progress. -/
  sent : List (Sent × Nat)

/-- Performs a call of the member at a place, under an identifier. -/
def call (s : Session) (i : Nat) (m : Member) (call : Call) (id : InvocationId) (r : Rehearsed) :
    Report × Session :=
  let world : World :=
    { clock := s.clock
      virtual := s.virtual
      spent := .zero
      cancelled := r.cancelled
      cancelsAt := r.cancelsAfter.map fun d => s.virtual + World.waitMillis d
      script := m.script ++ r.script
      stall := r.stall }
  let env := if r.cancellable then environment else environment.uncancelled
  let outcome := Execution.perform m.client env call id ⟨world, s.quotaAt m, s.skewAt m, m.turn⟩
  let after := outcome.machine
  let member := { m with
    turn := after.turn
    metrics := m.metrics.record m.client.metricsEnabled outcome.journal
    script := after.world.script }
  let s := { s with
    clock := after.world.clock
    virtual := after.world.virtual
    members := s.members.set i member }
  (⟨outcome, outcome.journal.sendsInFlight m.client.metricsEnabled m.metrics⟩,
    (s.setQuota m after.strategy).setSkew m after.skew)

end Session

end ServiceCall.Rehearsal
