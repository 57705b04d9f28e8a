import ServiceCall.Http.Fields
import ServiceCall.Http.Uri

/-!
# Requests and responses on the wire

A request as it is handed to a transport and a response as it comes back.  A body is optional in a
request, and may be empty in both.
-/

namespace ServiceCall

/-- The name of a method is a token; case counts. -/
structure Method where
  text : Text
  valid : (!text.isEmpty && text.all isTokenChar) = true
  deriving DecidableEq

namespace Method

def get : Method := ⟨"GET".toList, by decide⟩
def post : Method := ⟨"POST".toList, by decide⟩
def put : Method := ⟨"PUT".toList, by decide⟩
def delete : Method := ⟨"DELETE".toList, by decide⟩

def ofText? (s : Text) : Option Method :=
  if h : (!s.isEmpty && s.all isTokenChar) = true then some ⟨s, h⟩ else none

end Method

/-- A status is a number of three digits. -/
structure Status where
  code : Nat
  lower : 100 ≤ code
  upper : code ≤ 999
  deriving DecidableEq

namespace Status

def ofNat? (n : Nat) : Option Status :=
  if h : 100 ≤ n ∧ n ≤ 999 then some ⟨n, h.1, h.2⟩ else none

def badRequest : Status := ⟨400, by decide, by decide⟩

/-- Whether a status says that the call failed, by the caller's fault or the service's. -/
def isFailure (s : Status) : Bool := 400 ≤ s.code && s.code < 600

end Status

namespace Http

structure Request where
  method : Method
  uri : Uri
  fields : Fields
  body : Option Bytes
  deriving DecidableEq

structure Response where
  status : Status
  fields : Fields
  body : Bytes
  deriving DecidableEq

end Http

end ServiceCall
