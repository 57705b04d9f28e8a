import ServiceCall.Digest.Md5
import ServiceCall.Digest.Sha256
import ServiceCall.Http.Visible

/-!
# Content digests

A digest of the body, sent in a field of its own: MD5 as base64 text, or SHA-256 as hexadecimal
text.
-/

namespace ServiceCall

inductive ContentDigest where
  | md5
  | sha256
  deriving DecidableEq, Repr, Inhabited

namespace ContentDigest

/-- The field that carries the digest. -/
def field : ContentDigest → HeaderName
  | md5 => .contentMd5
  | sha256 => .contentSha256

def text : ContentDigest → Bytes → Text
  | md5, body => Base64.encode (Md5.hash body)
  | sha256, body => Hex.encode (Sha256.hash body)

theorem isVisible_text (d : ContentDigest) (body : Bytes) :
    Text.isVisible (d.text body) = true := by
  cases d with
  | md5 => exact isVisible_base64 _
  | sha256 => exact isVisible_hex _

def value (d : ContentDigest) (body : Bytes) : HeaderValue :=
  .ofVisible (d.text body) (d.isVisible_text body)

end ContentDigest

end ServiceCall
