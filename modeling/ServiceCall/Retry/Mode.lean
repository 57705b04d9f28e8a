import ServiceCall.Failure
import ServiceCall.Text.Blank

/-!
# Retry modes

The two sets of rules for retries.  The older one only counts attempts; the standard one also asks
the quota.
-/

namespace ServiceCall

inductive RetryMode where
  | legacy
  | standard
  deriving DecidableEq, Repr

namespace RetryMode

instance : Inhabited RetryMode := ⟨standard⟩

def code : RetryMode → Text
  | legacy => "legacy".toList
  | standard => "standard".toList

/-- The most attempts of a call unless told otherwise. -/
def defaultLimit : RetryMode → Nat
  | legacy => 11
  | standard => 3

/-- The mode that a text names, in letters of any case and with blanks around. -/
def parse (s : Text) : Except Failure RetryMode :=
  let name := Text.lower (Text.trim s)
  if name = legacy.code then .ok legacy
  else if name = standard.code then .ok standard
  else .error (.configuration (.unknownRetryMode name))

end RetryMode

end ServiceCall
