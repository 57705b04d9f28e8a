import ServiceCall.Signing.SigV4

/-!
# Signers

A signer has a name and makes a signed request of a request and a time.  Besides the three of the
library there may be any others.  A registry keeps signers by name, with one as the default; the
signer that does nothing is always in it.
-/

namespace ServiceCall

inductive Signer where
  | null
  | bearer (token : HeaderValue)
  | sigV4 (config : SigV4)
  | custom (name : Text) (sign : Http.Request → Instant → Except Failure Http.Request)

namespace Signer

def nullName : Text := "null".toList
def bearerName : Text := "bearer".toList
def sigV4Name : Text := "sigv4".toList

def name : Signer → Text
  | null => nullName
  | bearer _ => bearerName
  | sigV4 _ => sigV4Name
  | custom name _ => name

/-- The signer that sends a token as it is. -/
def ofToken (token : Text) : Except Failure Signer :=
  match HeaderValue.ofText? ("Bearer ".toList ++ token) with
  | some value => .ok (.bearer value.asSensitive)
  | none => .error (.configuration .invalidBearerToken)

def sign (s : Signer) (request : Http.Request) (time : Instant) : Except Failure Http.Request :=
  match s with
  | null => .ok request
  | bearer token => .ok { request with fields := request.fields.set .authorization token }
  | sigV4 config => config.sign request time
  | custom _ sign => sign request time

/-- The time that a signer is to write into a request, if it cannot be written.  Only signature
version 4 writes the time of signing. -/
def unwritable? (s : Signer) (time : Instant) : Option Instant :=
  match s with
  | sigV4 _ => (some time).filter fun t => (Stamp.write? t).isNone
  | null | bearer _ | custom _ _ => none

end Signer

structure SignerRegistry where
  default : Signer
  named : List (Text × Signer)

namespace SignerRegistry

/-- Keeps a signer under its name, in place of one of the same name. -/
def register (r : SignerRegistry) (s : Signer) : SignerRegistry :=
  { r with named := (s.name, s) :: r.named.filter fun entry => entry.1 ≠ s.name }

def new (default : Signer) : SignerRegistry :=
  register ⟨default, [(Signer.nullName, .null)]⟩ default

/-- The signer of a name, or the default one. -/
def resolve (r : SignerRegistry) (name : Option Text) : Except Failure Signer :=
  match name with
  | none => .ok r.default
  | some name =>
    match r.named.lookup name with
    | some signer => .ok signer
    | none => .error (.configuration (.unknownSigner name))

/-- The names in order. -/
def names (r : SignerRegistry) : List Text :=
  (r.named.map (·.1)).mergeSort Text.le

end SignerRegistry

end ServiceCall
