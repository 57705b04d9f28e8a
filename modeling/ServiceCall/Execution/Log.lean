import ServiceCall.Execution.Journal

/-!
# Log lines

The lines that an execution logs, as a view of its journal.  A URI is logged without user, query and
fragment.
-/

namespace ServiceCall

inductive LogLevel where
  | debug
  | warning
  deriving DecidableEq

/-- A value of a log line. -/
inductive LogValue where
  | text (s : Text)
  | number (n : Int)
  | flag (b : Bool)
  deriving DecidableEq

inductive LogLine where
  /-- The work on an attempt began. -/
  | attempt (number limit : Nat)
  | event (level : LogLevel) (message : Text) (values : List (Text × LogValue))
  deriving DecidableEq

namespace LogLine

def debug (message : String) (values : List (String × LogValue)) : LogLine :=
  .event .debug message.toList (values.map fun (name, value) => (name.toList, value))

def warning (message : String) (values : List (String × LogValue)) : LogLine :=
  .event .warning message.toList (values.map fun (name, value) => (name.toList, value))

def status (s : Status) : String × LogValue := ("status", .number s.code)

end LogLine

def Entry.logLine? : Entry → Option LogLine
  | .opened attempt limit => some (.attempt attempt limit)
  | .entered phase => some (.debug "execution state" [("state", .text phase.code)])
  | .sent s =>
    some (.debug "sending request"
      [("method", .text s.request.method.text),
        ("uri", .text (Address.redact s.request.uri.text))])
  | .answered ⟨.response r, _, _⟩ => some (.debug "response received" [LogLine.status r.status])
  | .broke kind status retryable =>
    some (.debug "attempt failed"
      ([("error_kind", .text kind.code)] ++ status.toList.map LogLine.status
        ++ [("retryable", .flag retryable)]))
  | .corrected c =>
    some (.warning "clock skew detected; adjusted client clock offset"
      [("previous_offset_ms", .number c.previous.millis), ("offset_ms", .number c.offset.millis),
        ("signing_delta_ms", .number c.signingDelta.millis)])
  | .judged _ kind (.denied reason) =>
    some (.warning "retry denied"
      [("reason", .text reason.code), ("error_kind", .text kind.code)])
  | .scheduled s => some (.debug "retry scheduled" [("clock_skew_retry", .flag s.bonus)])
  | _ => none

def Journal.log (j : Journal) : List LogLine := j.filterMap Entry.logLine?

end ServiceCall
