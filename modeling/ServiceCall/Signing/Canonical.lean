import ServiceCall.Http.Message
import ServiceCall.Text.Blank
import ServiceCall.Web.Form

/-!
# Canonical requests

The one text that stands for a request when it is signed: method, path, the query pairs in one
encoding and in order, the fields by name with their values freed of superfluous blanks, the names
of those fields, and the hash of the body, on lines of their own.  Fields that a proxy may change
are left out.
-/

namespace ServiceCall.Canonical

/-- The bytes that stand for themselves in the canonical encoding. -/
def isUnreserved (b : UInt8) : Bool :=
  let c := Char.ofNat b.toNat
  c.isAlphanum || c == '-' || c == '_' || c == '.' || c == '~'

def encodeByte (b : UInt8) : Text :=
  if isUnreserved b then [Char.ofNat b.toNat] else Percent.encodeByte b

def encode (s : Text) : Text := (Utf8.encode s).flatMap encodeByte

/-- The order of pairs: by name, and by value among equal names. -/
def pairLe (a b : Text × Text) : Bool :=
  decide (a.1 < b.1) || (a.1 == b.1 && Text.le a.2 b.2)

/-- The encoded pairs of a query, in order. -/
def pairs (query : Text) : List (Text × Text) :=
  ((Form.parse query).map fun (name, value) => (encode name, encode value)).mergeSort pairLe

def query (query : Text) : Text :=
  Text.join ['&'] ((pairs query).map fun (name, value) => name ++ '=' :: value)

/-- The fields that are never signed. -/
def isUnsigned (name : HeaderName) : Bool :=
  name == .authorization || name == .userAgent || name == .expect

/-- The text of a value with single spaces for runs of blanks, and none at the ends. -/
def normalized (value : HeaderValue) : Text :=
  Text.join [' '] (Text.words (Utf8.decodeLossy value.bytes))

/-- The names of the signed fields, in order. -/
def signedNames (fields : Fields) : List HeaderName :=
  fields.names.filter fun name => !isUnsigned name

def line (fields : Fields) (name : HeaderName) : Text :=
  name.text ++ ':' :: Text.join [','] ((fields.values name).map normalized) ++ ['\n']

def lines (fields : Fields) : Text := (signedNames fields).flatMap (line fields)

def nameList (fields : Fields) : Text :=
  Text.join [';'] ((signedNames fields).map (·.text))

def path (path : Text) : Text := if path.isEmpty then ['/'] else path

/-- The canonical text of a request whose body has the given hash. -/
def text (request : Http.Request) (hash : Text) : Text :=
  Text.join ['\n']
    [request.method.text, path request.uri.path, query (request.uri.query.getD []),
      lines request.fields, nameList request.fields, hash]

end ServiceCall.Canonical
