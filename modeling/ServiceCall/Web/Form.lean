import ServiceCall.Web.Percent

/-!
# Form encoding

A query as a list of pairs.  Pairs are joined by ampersands, name and value by an equals sign; a
space becomes a plus sign, and every byte other than letters, digits and four marks is percent
encoded.  Reading skips empty pairs, takes a pair without an equals sign as a name with an empty
value, and reads broken UTF-8 lossily.
-/

namespace ServiceCall.Form

/-- The bytes that stand for themselves. -/
def isPlain (b : UInt8) : Bool :=
  let c := Char.ofNat b.toNat
  c.isAlphanum || c == '*' || c == '-' || c == '.' || c == '_'

def encodeByte (b : UInt8) : Text :=
  if isPlain b then [Char.ofNat b.toNat]
  else if b = 0x20 then ['+']
  else Percent.encodeByte b

def encode (s : Text) : Text := (Utf8.encode s).flatMap encodeByte

/-- The text of an encoded name or value. -/
def decode (s : Text) : Text :=
  Utf8.decodeLossy (Percent.decode (Utf8.encode (s.map fun c => if c = '+' then ' ' else c)))

/-- The name and the value of one pair. -/
def splitPair (s : Text) : Text × Text :=
  match Text.splitOnce '=' s with
  | some (name, value) => (name, value)
  | none => (s, [])

def parse (query : Text) : List (Text × Text) :=
  ((Text.splitAll '&' query).filter fun pair => !pair.isEmpty).map fun pair =>
    let (name, value) := splitPair pair
    (decode name, decode value)

def writePair (pair : Text × Text) : Text := encode pair.1 ++ '=' :: encode pair.2

def serialize (pairs : List (Text × Text)) : Text := Text.join ['&'] (pairs.map writePair)

end ServiceCall.Form
