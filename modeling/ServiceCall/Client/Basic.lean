import ServiceCall.Classification
import ServiceCall.Client.Defaults
import ServiceCall.Client.Endpoints
import ServiceCall.Retry.Config
import ServiceCall.Retry.Strategy
import ServiceCall.Signing.Signer
import ServiceCall.Skew.Corrector

/-!
# Clients

A client holds everything about a service that its calls have in common.  It is made from options,
which are set one after the other; the last word on each counts.
-/

namespace ServiceCall

/-- A client whose retry strategy keeps a state of type `τ`. -/
structure Client (τ : Type) where
  name : Text
  defaults : Defaults
  endpoints : EndpointResolver
  signers : SignerRegistry
  strategy : RetryStrategy τ
  corrector : Corrector
  classifier : Classifier
  metricsEnabled : Bool

/-- Time limits and retry settings for a kind of use. -/
inductive Profile where
  | standard
  | lowLatency
  | highThroughput
  deriving DecidableEq, Inhabited

namespace Profile

def requestTimeout : Profile → Duration
  | standard => Defaults.requestLimit
  | lowLatency => .ofSeconds 2
  | highThroughput => .ofSeconds 20

def totalTimeout : Profile → Option Duration
  | standard => none
  | lowLatency => some (.ofSeconds 5)
  | highThroughput => some (.ofSeconds 60)

def retry : Profile → RetryConfig
  | standard => ⟨.standard, none⟩
  | lowLatency => ⟨.standard, some 2⟩
  | highThroughput => ⟨.standard, some 4⟩

end Profile

/-- A state that belongs to one client, or one that is shared under a name. -/
inductive Sharing where
  | own
  | shared (name : Text)
  deriving DecidableEq, Inhabited

/-- What a client is made from. -/
structure ClientOptions where
  name : Text
  endpoints : Option EndpointResolver
  signer : Option Signer
  namedSigners : List Signer
  strategy : Option (RetryStrategy Quota × Sharing)
  retry : RetryConfig
  quota : Sharing
  skew : Sharing
  classifier : Classifier
  defaults : Defaults
  metricsEnabled : Bool

namespace ClientOptions

def standard : ClientOptions :=
  { name := "reqcore".toList
    endpoints := none
    signer := none
    namedSigners := []
    strategy := none
    retry := ⟨.standard, none⟩
    quota := .own
    skew := .own
    classifier := CodeTable.standard.classifier
    defaults := .standard
    metricsEnabled := false }

def withProfile (o : ClientOptions) (p : Profile) : ClientOptions :=
  { o with
    defaults := { o.defaults with
      requestTimeout := max p.requestTimeout .shortestLimit
      totalTimeout := p.totalTimeout }
    retry := p.retry }

/-- Limits the attempts; there is at least one. -/
def withLimit (o : ClientOptions) (limit : Nat) : ClientOptions :=
  { o with retry := { o.retry with limit := some (max 1 limit) } }

def withMode (o : ClientOptions) (mode : RetryMode) : ClientOptions :=
  { o with retry := { o.retry with mode } }

def withRequestTimeout (o : ClientOptions) (limit : Duration) : ClientOptions :=
  { o with defaults := { o.defaults with requestTimeout := max limit .shortestLimit } }

def withTotalTimeout (o : ClientOptions) (limit : Duration) : ClientOptions :=
  { o with defaults := { o.defaults with totalTimeout := some (max limit .shortestLimit) } }

def withUserAgent (o : ClientOptions) (value : HeaderValue) : ClientOptions :=
  { o with defaults := { o.defaults with userAgent := value } }

def tryUserAgent (o : ClientOptions) (value : Text) : Except Failure ClientOptions := do
  let value ← HeaderValue.require HeaderName.userAgent.text value
  pure (o.withUserAgent value)

def withField (o : ClientOptions) (name : HeaderName) (value : HeaderValue) : ClientOptions :=
  { o with defaults := { o.defaults with fields := o.defaults.fields.set name value } }

def tryField (o : ClientOptions) (name value : Text) : Except Failure ClientOptions := do
  let name ← HeaderName.require name
  let value ← HeaderValue.require name.text value
  pure (o.withField name value)

def withSkewThreshold (o : ClientOptions) (threshold : Duration) : ClientOptions :=
  { o with defaults := { o.defaults with skewThreshold := threshold } }

def withSkewAdjustment (o : ClientOptions) (enabled : Bool) : ClientOptions :=
  { o with defaults := { o.defaults with skewAdjustment := enabled } }

def withHostPrefixInjection (o : ClientOptions) (enabled : Bool) : ClientOptions :=
  { o with defaults := { o.defaults with hostPrefixInjection := enabled } }

/-- Whose quota the client's strategy uses: a given strategy brings its own answer. -/
def quotaSharing (o : ClientOptions) : Sharing :=
  match o.strategy with
  | some (_, sharing) => sharing
  | none => o.quota

/-- The client of the options.  An endpoint is the one thing that has to be given. -/
def build (o : ClientOptions) : Except Failure (Client Quota) :=
  match o.endpoints with
  | none => .error (.configuration .noEndpointConfigured)
  | some endpoints =>
    .ok
      { name := o.name
        defaults := o.defaults
        endpoints
        signers := o.namedSigners.foldl SignerRegistry.register (.new (o.signer.getD .null))
        strategy := match o.strategy with
          | some (strategy, _) => strategy
          | none => o.retry.mode.strategy o.retry.limit
        corrector := ⟨o.defaults.skewThreshold, o.defaults.skewAdjustment⟩
        classifier := o.classifier
        metricsEnabled := o.metricsEnabled }

end ClientOptions

end ServiceCall
