import ServiceCall.Text.Utf8

/-!
# Header names and values

A name is a token in small letters; a value is any bytes without control bytes other than the tab.
Both rules are part of the types, so that what is written to the wire never needs checking again.
-/

namespace ServiceCall

/-- The characters of a token. -/
def isTokenChar (c : Char) : Bool := c.isAlphanum || "!#$%&'*+-.^_`|~".toList.contains c

/-- The most characters a name may have. -/
def HeaderName.longest : Nat := 65535

/-- What makes a text a name. -/
def HeaderName.isName (s : Text) : Bool :=
  !s.isEmpty && s.all (fun c => isTokenChar c && !c.isUpper) && s.length ≤ longest

structure HeaderName where
  text : Text
  valid : HeaderName.isName text = true
  deriving DecidableEq

namespace HeaderName

/-- The name that a text spells in letters of any case. -/
def ofText? (s : Text) : Option HeaderName :=
  if h : isName (Text.lower s) = true then some ⟨Text.lower s, h⟩ else none

theorem text_injective {a b : HeaderName} (h : a.text = b.text) : a = b := by
  cases a; cases b; simp_all

def authorization : HeaderName := ⟨"authorization".toList, by decide⟩
def contentLength : HeaderName := ⟨"content-length".toList, by decide⟩
def contentMd5 : HeaderName := ⟨"content-md5".toList, by decide⟩
def contentSha256 : HeaderName := ⟨"x-content-sha256".toList, by decide⟩
def contentType : HeaderName := ⟨"content-type".toList, by decide⟩
def date : HeaderName := ⟨"date".toList, by decide⟩
def errorCode : HeaderName := ⟨"x-error-code".toList, by decide⟩
def expect : HeaderName := ⟨"expect".toList, by decide⟩
def host : HeaderName := ⟨"host".toList, by decide⟩
def invocationId : HeaderName := ⟨"sdk-invocation-id".toList, by decide⟩
def requestInfo : HeaderName := ⟨"sdk-request".toList, by decide⟩
def retryAfter : HeaderName := ⟨"retry-after".toList, by decide⟩
def userAgent : HeaderName := ⟨"user-agent".toList, by decide⟩

end HeaderName

/-- The bytes that a value may hold. -/
def isFieldByte (b : UInt8) : Bool := (b ≥ 0x20 && b != 0x7F) || b == 0x09

/-- The bytes of a value that can be read as text: printable letters of ASCII and the tab. -/
def isVisibleByte (b : UInt8) : Bool := (b ≥ 0x20 && b < 0x7F) || b == 0x09

/-- A value that is sensitive is kept out of descriptions. -/
structure HeaderValue where
  bytes : Bytes
  valid : bytes.all isFieldByte = true
  sensitive : Bool
  deriving DecidableEq

namespace HeaderValue

def ofBytes? (bytes : Bytes) : Option HeaderValue :=
  if h : bytes.all isFieldByte = true then some ⟨bytes, h, false⟩ else none

def ofText? (s : Text) : Option HeaderValue := ofBytes? (Utf8.encode s)

def asSensitive (v : HeaderValue) : HeaderValue := { v with sensitive := true }

/-- The text of a value, when all its bytes are visible. -/
def text? (v : HeaderValue) : Option Text :=
  if v.bytes.all isVisibleByte then some (v.bytes.map fun b => Char.ofNat b.toNat) else none

end HeaderValue

end ServiceCall
