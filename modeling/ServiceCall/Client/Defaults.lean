import ServiceCall.Call.Basic
import ServiceCall.Skew.Offset

/-!
# Client defaults

What a client adds to every call and which limits it sets, unless the call says otherwise.
-/

namespace ServiceCall

structure Defaults where
  userAgent : HeaderValue
  fields : Fields
  requestTimeout : Duration
  totalTimeout : Option Duration
  hostPrefixInjection : Bool
  skewAdjustment : Bool
  skewThreshold : Duration
  deriving DecidableEq

namespace Defaults

/-- The name and version by which the client calls itself. -/
def productName : HeaderValue := .ofVisible "reqcore/0.1.0".toList (by decide)

def requestLimit : Duration := .ofSeconds 30

def standard : Defaults :=
  { userAgent := productName
    fields := .empty
    requestTimeout := requestLimit
    totalTimeout := none
    hostPrefixInjection := true
    skewAdjustment := true
    skewThreshold := Skew.defaultThreshold }

instance : Inhabited Defaults := ⟨standard⟩

end Defaults

end ServiceCall
