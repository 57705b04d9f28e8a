import ServiceCall.Http.Message
import ServiceCall.Text.Numeral
import ServiceCall.Text.Quoted
import ServiceCall.Time.HttpDate

/-!
# Failures of a call

A failure has a kind, from a closed list, and a fault, which is its cause and gives its message.
Whether it may be retried is decided once, when it arises.  A failure that came from a response
keeps the status, the fields, the service's own error code and the wait that the service asked for.
-/

namespace ServiceCall

/-- The kinds of failure. -/
inductive Kind where
  | networkConnection
  | requestTimeout
  | transportUnknown
  | serverFault
  | throttling
  | clientFault
  | signatureOrClockSkew
  | quotaExhausted
  | cancelled
  | configuration
  deriving DecidableEq, Repr, Inhabited

namespace Kind

def all : List Kind :=
  [networkConnection, requestTimeout, transportUnknown, serverFault, throttling, clientFault,
    signatureOrClockSkew, quotaExhausted, cancelled, configuration]

def code : Kind → Text
  | networkConnection => "network_connection".toList
  | requestTimeout => "request_timeout".toList
  | transportUnknown => "transport_unknown".toList
  | serverFault => "server_fault".toList
  | throttling => "throttling".toList
  | clientFault => "client_fault".toList
  | signatureOrClockSkew => "signature_or_clock_skew".toList
  | quotaExhausted => "quota_exhausted".toList
  | cancelled => "cancelled".toList
  | configuration => "configuration".toList

/-- Whether a failure of this kind may be retried unless it says otherwise. -/
def isRetryable : Kind → Bool
  | networkConnection | requestTimeout | transportUnknown | serverFault | throttling => true
  | _ => false

/-- Whether a failure of this kind ends a call without asking any retry rule. -/
def isTerminal : Kind → Bool
  | cancelled | configuration => true
  | _ => false

def ofCode? (s : Text) : Option Kind := all.find? fun k => k.code = s

theorem code_injective {a b : Kind} (h : a.code = b.code) : a = b := by
  revert h
  cases a <;> cases b <;> decide

end Kind

/-- The ways in which a transport fails. -/
inductive TransportFault where
  | dns
  | connect
  | tls
  | timeout
  | other
  deriving DecidableEq, Repr, Inhabited

namespace TransportFault

def all : List TransportFault := [dns, connect, tls, timeout, other]

def code : TransportFault → Text
  | dns => "dns".toList
  | connect => "connect".toList
  | tls => "tls".toList
  | timeout => "timeout".toList
  | other => "other".toList

def kind : TransportFault → Kind
  | dns | connect | tls => .networkConnection
  | timeout => .requestTimeout
  | other => .transportUnknown

def ofCode? (s : Text) : Option TransportFault := all.find? fun k => k.code = s

end TransportFault

/-- The cause of a failure. -/
inductive Fault where
  | unknownSigner (name : Text)
  | invalidHeaderName (name : Text)
  | invalidHeaderValue (name : Text)
  | invalidUri (text : Text)
  | unterminatedPlaceholder (template : Text)
  | missingPrefixField (name : Text)
  | invalidPrefixField (name value : Text)
  | invalidPrefix (expanded : Text)
  | invalidEndpoint (endpoint : Text)
  | hostlessEndpoint (endpoint : Text)
  | invalidPrefixedHost (host : Text)
  | noEndpointConfigured
  | noEndpoints (operation : Text)
  | unknownRetryMode (text : Text)
  | attemptLimitNotNumber
  | attemptLimitZero
  | invalidBearerToken
  | missingHost
  | invalidSignedValue
  | rejected (status : Status) (code : Option Text) (excerpt : Text)
  | transport (fault : TransportFault) (detail : Text)
  | undecodableJson (excerpt : Text)
  | budgetExhausted (millis : Nat)
  | cancelledByCaller
  | described (text : Text)
  deriving DecidableEq

namespace Fault

/-- The name of the setting that limits the attempts. -/
def attemptLimitSetting : Text := "REQCORE_MAX_ATTEMPTS".toList

def message : Fault → Text
  | unknownSigner name => "no signer registered as ".toList ++ Quoted.quote name
  | invalidHeaderName name => "invalid header name ".toList ++ name
  | invalidHeaderValue name => "invalid header value for ".toList ++ name
  | invalidUri text => "invalid request uri ".toList ++ text
  | unterminatedPlaceholder template =>
    "unterminated placeholder in host prefix ".toList ++ Quoted.quote template
  | missingPrefixField name => "host prefix field ".toList ++ name ++ " is missing or empty".toList
  | invalidPrefixField name value =>
    "host prefix field ".toList ++ name ++ " is not a valid host label: ".toList
      ++ Quoted.quote value
  | invalidPrefix expanded =>
    "expanded host prefix ".toList ++ Quoted.quote expanded
      ++ " is not a valid host label".toList
  | invalidEndpoint endpoint => "invalid endpoint ".toList ++ endpoint
  | hostlessEndpoint endpoint => "endpoint ".toList ++ endpoint ++ " has no host to prefix".toList
  | invalidPrefixedHost host => "invalid prefixed host ".toList ++ host
  | noEndpointConfigured => "no endpoint configured; call endpoint() or endpoint_resolver()".toList
  | noEndpoints operation => "no endpoints configured for operation ".toList ++ operation
  | unknownRetryMode text =>
    "unknown retry mode ".toList ++ Quoted.quote text
      ++ ", expected \"legacy\" or \"standard\"".toList
  | attemptLimitNotNumber => attemptLimitSetting ++ " must be a positive integer".toList
  | attemptLimitZero => attemptLimitSetting ++ " must be at least 1".toList
  | invalidBearerToken => "bearer token is not a valid header value".toList
  | missingHost => "cannot sign a request without a host".toList
  | invalidSignedValue => "signing produced an invalid header value".toList
  | rejected status none excerpt =>
    "http status ".toList ++ Numeral.ofNat status.code ++ ": ".toList ++ excerpt
  | rejected status (some code) excerpt =>
    "http status ".toList ++ Numeral.ofNat status.code ++ " (".toList ++ code ++ "): ".toList
      ++ excerpt
  | transport fault detail =>
    "transport error (".toList ++ fault.code ++ "): ".toList ++ detail
  | undecodableJson excerpt => "failed to decode response json; body=".toList ++ excerpt
  | budgetExhausted millis =>
    "total timeout of ".toList ++ Numeral.ofNat millis ++ "ms exhausted".toList
  | cancelledByCaller => "request was cancelled by the caller".toList
  | described text => text

/-- Whether a fault reports an error of a lower layer, which then is attached to the failure. -/
def hasSource : Fault → Bool
  | invalidHeaderName _ | invalidHeaderValue _ | invalidUri _ | invalidEndpoint _
  | invalidPrefixedHost _ | attemptLimitNotNumber | invalidBearerToken | invalidSignedValue
  | transport _ _ | undecodableJson _ => true
  | _ => false

end Fault

structure Failure where
  kind : Kind
  fault : Fault
  retryable : Bool
  status : Option Status
  retryAfter : Option Duration
  serviceCode : Option Text
  fields : Option Fields
  attempts : Option Nat
  denial : Option Kind
  deriving DecidableEq

namespace Failure

/-- A failure that is retryable if its kind is, and carries nothing of a response. -/
def of (kind : Kind) (fault : Fault) : Failure :=
  { kind, fault, retryable := kind.isRetryable, status := none, retryAfter := none,
    serviceCode := none, fields := none, attempts := none, denial := none }

instance : Inhabited Failure := ⟨of .configuration (.described [])⟩

def configuration (fault : Fault) : Failure := of .configuration fault

def cancelled : Failure := of .cancelled .cancelledByCaller

def transport (fault : TransportFault) (detail : Text) : Failure :=
  of fault.kind (.transport fault detail)

def message (f : Failure) : Text := f.fault.message

/-- The kind and the message. -/
def text (f : Failure) : Text := f.kind.code ++ ": ".toList ++ f.message

def withAttempts (f : Failure) (n : Nat) : Failure := { f with attempts := some n }

/-- Records a number of attempts unless there is one already. -/
def orAttempts (f : Failure) (n : Nat) : Failure := { f with attempts := some (f.attempts.getD n) }

/-- The recorded number of attempts, or zero. -/
def attemptCount (f : Failure) : Nat := f.attempts.getD 0

def withDenial (f : Failure) (kind : Kind) : Failure := { f with denial := some kind }

/-- Services report signatures from the past or the future as a refused signature or as a plain bad
request, so both may come from a wrong clock. -/
def isSkewCandidate (f : Failure) : Bool :=
  match f.kind with
  | .signatureOrClockSkew => true
  | .clientFault => f.status == some .badRequest
  | _ => false

end Failure

/-- The date that a server wrote into the fields of a response. -/
def Fields.date? (fields : Fields) : Option Instant := do
  let value ← fields.first? .date
  let text ← value.text?
  HttpDate.parse? (Text.trim text)

/-- The server's date, when the failure came from a response that has one. -/
def Failure.serverDate? (f : Failure) : Option Instant := f.fields.bind Fields.date?

end ServiceCall
