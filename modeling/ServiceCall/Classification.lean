import ServiceCall.Failure
import ServiceCall.Json.Reader
import ServiceCall.Text.Blank

/-!
# Classification of outcomes

A response of a client or server error becomes a failure; any other is passed on unchanged.  The
kind follows from the service's error code first, then from the status.  What counts as an error
code, and which codes tell of throttling or of a wrong clock, is knowledge about the service.
-/

namespace ServiceCall

structure Classifier where
  serviceCode? : Status → Fields → Bytes → Option Text
  isThrottling : Text → Bool
  isClockSkew : Text → Bool

/-- Codes in a field of the response, and the codes of the two kinds that count. -/
structure CodeTable where
  field : HeaderName
  throttling : List Text
  clockSkew : List Text
  deriving DecidableEq

namespace CodeTable

def throttlingCodes : List Text :=
  ["Throttling", "ThrottlingException", "ThrottledException", "RequestThrottledException",
    "TooManyRequestsException", "ProvisionedThroughputExceededException",
    "TransactionInProgressException", "RequestLimitExceeded", "BandwidthLimitExceeded",
    "LimitExceededException", "RequestThrottled", "SlowDown", "PriorRequestNotComplete",
    "EC2ThrottledException"].map String.toList

def clockSkewCodes : List Text :=
  ["RequestTimeTooSkewed", "RequestExpired", "RequestInTheFuture", "InvalidSignatureException",
    "SignatureDoesNotMatch", "AuthFailure"].map String.toList

def standard : CodeTable := ⟨.errorCode, throttlingCodes, clockSkewCodes⟩

instance : Inhabited CodeTable := ⟨standard⟩

/-- The code in the field's first value: the text before the first colon, if it is not blank. -/
def code? (t : CodeTable) (fields : Fields) : Option Text := do
  let value ← fields.first? t.field
  let text ← value.text?
  let code := Text.trim ((Text.trim text).takeWhile (· ≠ ':'))
  if code.isEmpty then none else some code

def classifier (t : CodeTable) : Classifier :=
  { serviceCode? := fun _ fields _ => t.code? fields
    isThrottling := fun code => t.throttling.contains code
    isClockSkew := fun code => t.clockSkew.contains code }

end CodeTable

/-- The most characters of a body that a message shows. -/
def excerptLimit : Nat := 512

/-- The text of a body as a message shows it. -/
def excerpt (body : Bytes) : Text :=
  let text := Utf8.decodeLossy body
  if text.length ≤ excerptLimit then text
  else text.take excerptLimit ++ "...(truncated)".toList

/-- How long the service asks to wait: a number of seconds, or the time until a date. -/
def Fields.retryAfter? (fields : Fields) (now : Instant) : Option Duration := do
  let value ← fields.first? .retryAfter
  let text := Text.trim (← value.text?)
  match Numeral.word? text with
  | some seconds => some (.ofSeconds seconds)
  | none => (HttpDate.parse? text).map fun date => date.since now

namespace Kind

def ofStatus (status : Status) : Kind :=
  if status.code = 429 ∨ status.code = 503 ∨ status.code = 509 then .throttling
  else if status.code = 401 ∨ status.code = 403 then .signatureOrClockSkew
  else if 500 ≤ status.code ∧ status.code < 600 then .serverFault
  else .clientFault

/-- The kind of a failed response: by its code if that is known, and else by its status. -/
def classify (c : Classifier) (status : Status) (code : Option Text) : Kind :=
  match code with
  | some code =>
    if c.isClockSkew code then .signatureOrClockSkew
    else if c.isThrottling code then .throttling
    else ofStatus status
  | none => ofStatus status

/-- Whether the service's wish to wait is heeded for this kind. -/
def heedsRetryAfter : Kind → Bool
  | .throttling | .serverFault => true
  | _ => false

end Kind

/-- The failure that a response of an error status stands for. -/
def Failure.ofResponse (c : Classifier) (response : Http.Response) (now : Instant) : Failure :=
  let code := c.serviceCode? response.status response.fields response.body
  let kind := Kind.classify c response.status code
  { Failure.of kind (.rejected response.status code (excerpt response.body)) with
    status := some response.status
    serviceCode := code
    retryAfter := if kind.heedsRetryAfter then response.fields.retryAfter? now else none
    fields := some response.fields }

/-- A response as the outcome of an attempt, received at a given time. -/
def classify (c : Classifier) (response : Http.Response) (now : Instant) :
    Except Failure Http.Response :=
  if response.status.isFailure then .error (.ofResponse c response now) else .ok response

/-- What came back from a transport: a response, or the way in which it failed. -/
inductive Reply where
  | response (r : Http.Response)
  | broken (fault : TransportFault) (detail : Text)
  deriving DecidableEq

/-- The reply of a transport whose time is up. -/
def Reply.timeout (limit : Duration) : Reply :=
  .broken .timeout ("no response within ".toList ++ Numeral.ofNat limit.millis ++ "ms".toList)

def Reply.outcome (c : Classifier) (reply : Reply) (now : Instant) :
    Except Failure Http.Response :=
  match reply with
  | .response r => classify c r now
  | .broken fault detail => .error (.transport fault detail)

namespace Http.Response

/-- The text of a body, broken bytes replaced. -/
def text (r : Response) : Text := Utf8.decodeLossy r.body

/-- The value of a body in JSON. -/
def json (r : Response) : Except Failure Json.Value :=
  match Json.parse? r.body with
  | some value => .ok value
  | none =>
    .error
      { Failure.of .clientFault (.undecodableJson (excerpt r.body)) with
        retryable := false
        status := some r.status }

end Http.Response

end ServiceCall
