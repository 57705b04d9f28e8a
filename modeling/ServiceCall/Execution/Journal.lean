import ServiceCall.Classification
import ServiceCall.Execution.Context
import ServiceCall.Retry.Strategy
import ServiceCall.Skew.Corrector
import ServiceCall.Web.Address

/-!
# Journals

Everything that happens while a call is executed is written down as entries, in order.  What an
observer is told, what is logged, what was sent and what is counted are views of the journal.
-/

namespace ServiceCall

/-- The phases of an execution. -/
inductive Phase where
  | building
  | signing
  | sending
  | interpreting
  | retrying
  | succeeded
  | failed
  deriving DecidableEq, Repr

namespace Phase

def all : List Phase :=
  [building, signing, sending, interpreting, retrying, succeeded, failed]

def code : Phase → Text
  | building => "building".toList
  | signing => "signing".toList
  | sending => "sending".toList
  | interpreting => "interpreting".toList
  | retrying => "retrying".toList
  | succeeded => "succeeded".toList
  | failed => "failed".toList

/-- Whether an execution ends in this phase. -/
def isTerminal : Phase → Bool
  | succeeded | failed => true
  | _ => false

end Phase

/-- A request that was handed to the transport, and the time it was given. -/
structure Sent where
  request : Http.Request
  limit : Duration
  deriving DecidableEq

/-- What came back to an attempt, with the times at which it was signed and answered. -/
structure Answered where
  reply : Reply
  signedAt : Instant
  receivedAt : Instant
  deriving DecidableEq

/-- What an answer means to a classifier at the time it was received. -/
def Answered.outcome (a : Answered) (c : Classifier) : Except Failure Http.Response :=
  a.reply.outcome c a.receivedAt

/-- A retry that was scheduled: after which attempt and failure, with which wait as the strategy
gave it and as it was drawn, and whether it was the one for a wrong clock. -/
structure Scheduled where
  attempt : Nat
  kind : Kind
  planned : Delay
  wait : Duration
  bonus : Bool
  deriving DecidableEq

/-- How a call ended. -/
structure Summary where
  attempts : Nat
  status : Option Status
  kind : Option Kind
  deriving DecidableEq

inductive Entry where
  /-- The call began. -/
  | began
  /-- The work on an attempt began. -/
  | opened (attempt limit : Nat)
  /-- An attempt started, with this context. -/
  | started (context : Context)
  | entered (phase : Phase)
  | sent (s : Sent)
  | answered (a : Answered)
  /-- The strategy was told of a success after a retry for this kind. -/
  | credited (retried : Option Kind)
  | broke (kind : Kind) (status : Option Status) (retryable : Bool)
  | corrected (c : Correction)
  /-- The retry for a wrong clock was granted. -/
  | granted (attempt : Nat)
  /-- The strategy judged a failure. -/
  | judged (attempt : Nat) (kind : Kind) (verdict : Verdict)
  | scheduled (s : Scheduled)
  | finished (s : Summary)
  deriving DecidableEq

abbrev Journal := List Entry

/-- What an observer is told. -/
inductive Observation where
  | started (context : Context)
  | corrected (c : Correction)
  | scheduled (s : Scheduled)
  | finished (s : Summary)
  deriving DecidableEq

def Entry.observation? : Entry → Option Observation
  | .started context => some (.started context)
  | .corrected c => some (.corrected c)
  | .scheduled s => some (.scheduled s)
  | .finished s => some (.finished s)
  | _ => none

def Entry.sent? : Entry → Option Sent
  | .sent s => some s
  | _ => none

def Entry.deadline? : Entry → Option Instant
  | .started context => context.info.deadline
  | _ => none

namespace Journal

def observations (j : Journal) : List Observation := j.filterMap Entry.observation?

def sends (j : Journal) : List Sent := j.filterMap Entry.sent?

/-- The deadlines that attempts tell the service when they start. -/
def deadlines (j : Journal) : List Instant := j.filterMap Entry.deadline?

end Journal

end ServiceCall
