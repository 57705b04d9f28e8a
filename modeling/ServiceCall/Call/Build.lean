import ServiceCall.Attempt.Info
import ServiceCall.Attempt.InvocationId
import ServiceCall.Call.HostPrefix
import ServiceCall.Call.Target
import ServiceCall.Client.Defaults

/-!
# Building requests

A call becomes a request on the wire for one attempt: the endpoint, with its prefix if the call has
one, is joined with path and query; the call's fields go over the defaults; and the fields that
describe the body and the attempt are set last, so that nothing the caller set can change them.
-/

namespace ServiceCall.Call

/-- The endpoint that a call goes to, with the prefix of the call. -/
def endpoint (c : Call) (defaults : Defaults) (endpoint : Text) : Except Failure Text :=
  match c.hostPrefix with
  | some template =>
    if defaults.hostPrefixInjection then do
      let label ← HostPrefix.expand template c.prefixField?
      HostPrefix.prepend label endpoint
    else .ok endpoint
  | none => .ok endpoint

/-- The text of the URI of a call at an endpoint. -/
def target (c : Call) (endpoint : Text) : Text :=
  Target.addQuery (Target.join endpoint c.path) c.query

/-- The call's fields over the defaults, with the client's name if no other is given. -/
def ownFields (c : Call) (defaults : Defaults) : Fields :=
  let fields := c.fields.withDefaults defaults.fields
  if fields.contains .userAgent then fields else fields.set .userAgent defaults.userAgent

/-- Length and digest of a body; without a body neither its length nor its type is told. -/
def bodyFields (c : Call) (fields : Fields) : Fields :=
  match c.body with
  | none => (fields.remove .contentLength).remove .contentType
  | some body =>
    let fields := fields.set .contentLength (.ofNat body.length)
    match c.digest with
    | some digest => fields.set digest.field (digest.value body)
    | none => fields

/-- All fields of a request. -/
def allFields (c : Call) (defaults : Defaults) (id : InvocationId) (info : AttemptInfo) : Fields :=
  ((c.bodyFields (c.ownFields defaults)).set .invocationId id.value).set .requestInfo info.value

/-- The request of one attempt. -/
def build (c : Call) (defaults : Defaults) (endpoint : Text) (id : InvocationId)
    (info : AttemptInfo) : Except Failure Http.Request := do
  let endpoint ← c.endpoint defaults endpoint
  let target := c.target endpoint
  match Uri.parse? target with
  | none => .error (.configuration (.invalidUri target))
  | some uri =>
    pure { method := c.method, uri, fields := c.allFields defaults id info, body := c.body }

end ServiceCall.Call
