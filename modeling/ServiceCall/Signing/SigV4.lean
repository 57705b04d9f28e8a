import ServiceCall.Digest.Hmac
import ServiceCall.Failure
import ServiceCall.Signing.Canonical
import ServiceCall.Text.Hex
import ServiceCall.Time.Stamp

/-!
# Signature version 4

A signature over the canonical text of a request and the time of signing, with a key that is derived
from a secret for one day, region and service.  The request gets the fields that the signature
covers beyond its own, and the signature in its authorization.
-/

namespace ServiceCall

structure Credentials where
  accessKeyId : Text
  secretAccessKey : Text
  sessionToken : Option Text
  deriving DecidableEq

structure SigV4 where
  credentials : Credentials
  region : Text
  service : Text
  /-- Whether the hash of the body is sent in a field of its own. -/
  contentField : Bool
  deriving DecidableEq

namespace SigV4

def algorithm : Text := "AWS4-HMAC-SHA256".toList
def dateField : HeaderName := ⟨"x-amz-date".toList, by decide⟩
def tokenField : HeaderName := ⟨"x-amz-security-token".toList, by decide⟩
def contentHashField : HeaderName := ⟨"x-amz-content-sha256".toList, by decide⟩

/-- The last part of a scope, and the last input of a key. -/
def terminator : Text := "aws4_request".toList

def bodyHash (request : Http.Request) : Text :=
  Hex.encode (Sha256.hash (request.body.getD []))

/-- A value that signing writes, or the failure to write it. -/
def value (s : Text) : Except Failure HeaderValue :=
  match HeaderValue.ofText? s with
  | some v => .ok v
  | none => .error (.configuration .invalidSignedValue)

/-- The key of a day. -/
def key (s : SigV4) (day : Text) : Bytes :=
  let secret := Utf8.encode ("AWS4".toList ++ s.credentials.secretAccessKey)
  [day, s.region, s.service, terminator].foldl (fun key part => Hmac.sha256 key (Utf8.encode part))
    secret

/-- The day, region and service that a signature is good for. -/
def scope (s : SigV4) (day : Text) : Text :=
  Text.join ['/'] [day, s.region, s.service, terminator]

/-- The text that is signed, for a request that has all its other fields. -/
def signedText (s : SigV4) (request : Http.Request) (time : Instant) : Text :=
  let hash := Hex.encode (Sha256.hash (Utf8.encode (Canonical.text request (bodyHash request))))
  Text.join ['\n'] [algorithm, Stamp.format time, s.scope (Stamp.day time), hash]

def signature (s : SigV4) (request : Http.Request) (time : Instant) : Text :=
  Hex.encode (Hmac.sha256 (s.key (Stamp.day time)) (Utf8.encode (s.signedText request time)))

/-- The text of the authorization. -/
def authorizationText (s : SigV4) (request : Http.Request) (time : Instant) : Text :=
  algorithm ++ " Credential=".toList ++ s.credentials.accessKeyId
    ++ '/' :: s.scope (Stamp.day time)
    ++ ", SignedHeaders=".toList ++ Canonical.nameList request.fields
    ++ ", Signature=".toList ++ s.signature request time

/-- Sets the fields that the signature covers beyond those of the request. -/
def prepare (s : SigV4) (request : Http.Request) (time : Instant) :
    Except Failure Http.Request := do
  let authority ← match request.uri.authority with
    | some authority => .ok authority
    | none => .error (.configuration .missingHost)
  let host ← value authority
  let date ← value (Stamp.format time)
  let fields := ((request.fields.remove .authorization).set .host host).set dateField date
  let fields ←
    if s.contentField then do
      let hash ← value (bodyHash request)
      pure (fields.set contentHashField hash)
    else pure fields
  let fields ← match s.credentials.sessionToken with
    | some token => do
      let token ← value token
      pure (fields.set tokenField token.asSensitive)
    | none => pure fields
  pure { request with fields }

def sign (s : SigV4) (request : Http.Request) (time : Instant) : Except Failure Http.Request := do
  let prepared ← s.prepare request time
  let authorization ← value (s.authorizationText prepared time)
  pure { prepared with
    fields := prepared.fields.set .authorization authorization.asSensitive }

end SigV4

end ServiceCall
