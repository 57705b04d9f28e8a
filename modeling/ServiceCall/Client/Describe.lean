import ServiceCall.Client.Defaults
import ServiceCall.Signing.Signer
import ServiceCall.Text.Quoted

/-!
# Descriptions

Values of the library as text for people: a type's name, and its fields between braces.  Secrets are
never shown, only that there are some.
-/

namespace ServiceCall.Describe

/-- A name with fields between braces. -/
def record (name : String) (fields : List (String × Text)) (complete : Bool) : Text :=
  let shown := fields.map fun (field, value) => field.toList ++ ": ".toList ++ value
  let shown := if complete then shown else shown ++ ["..".toList]
  name.toList ++ " \x7b ".toList ++ Text.join ", ".toList shown ++ " \x7d".toList

def bool (b : Bool) : Text := if b then "true".toList else "false".toList

def option {α : Type} (describe : α → Text) : Option α → Text
  | none => "None".toList
  | some a => "Some(".toList ++ describe a ++ [')']

def list {α : Type} (describe : α → Text) (items : List α) : Text :=
  '[' :: Text.join ", ".toList (items.map describe) ++ [']']

def redacted : Text := Quoted.quote "<redacted>".toList

/-- The digits of a fraction of nine places, without zeros at the end. -/
def fraction (nanos width : Nat) : Text :=
  let digits := Text.trimEnd (· == '0') (Numeral.padded width nanos)
  if digits.isEmpty then [] else '.' :: digits

/-- A duration in the largest unit in which its whole part is not zero. -/
def duration (d : Duration) : Text :=
  if 1000000000 ≤ d.nanos then
    Numeral.ofNat (d.nanos / 1000000000) ++ fraction (d.nanos % 1000000000) 9 ++ ['s']
  else if 1000000 ≤ d.nanos then
    Numeral.ofNat (d.nanos / 1000000) ++ fraction (d.nanos % 1000000) 6 ++ "ms".toList
  else if 1000 ≤ d.nanos then
    Numeral.ofNat (d.nanos / 1000) ++ fraction (d.nanos % 1000) 3 ++ "µs".toList
  else Numeral.ofNat d.nanos ++ "ns".toList

/-- A byte of a field value: a visible one as it is, any other by its number. -/
def fieldByte (b : UInt8) : Text :=
  if b = 0x22 then "\\\"".toList
  else if isVisibleByte b then [Char.ofNat b.toNat]
  else "\\x".toList ++ Nat.toDigits 16 b.toNat

def fieldValue (v : HeaderValue) : Text :=
  if v.sensitive then "Sensitive".toList else '"' :: v.bytes.flatMap fieldByte ++ ['"']

def fields (f : Fields) : Text :=
  '\x7b' :: Text.join ", ".toList
    (f.entries.map fun (name, value) => Quoted.quote name.text ++ ": ".toList ++ fieldValue value)
    ++ ['\x7d']

def credentials (c : Credentials) : Text :=
  record "Credentials"
    [("access_key_id", Quoted.quote c.accessKeyId),
      ("secret_access_key", redacted),
      ("session_token", option (fun _ => redacted) c.sessionToken)] true

def sigV4 (s : SigV4) : Text :=
  record "SigV4Signer"
    [("credentials", credentials s.credentials),
      ("region", Quoted.quote s.region),
      ("service", Quoted.quote s.service),
      ("content_sha256_header", bool s.contentField)] true

/-- A signer that sends a token does not show it. -/
def bearer : Text := record "BearerTokenSigner" [("token", redacted)] true

def registry (r : SignerRegistry) : Text :=
  record "SignerRegistry"
    [("default_signer", Quoted.quote r.default.name),
      ("named", list Quoted.quote r.names)] true

def defaults (d : Defaults) : Text :=
  record "ClientDefaults"
    [("user_agent", fieldValue d.userAgent),
      ("default_headers", fields d.fields),
      ("request_timeout", duration d.requestTimeout),
      ("total_timeout", option duration d.totalTimeout),
      ("host_prefix_injection", bool d.hostPrefixInjection),
      ("clock_skew_adjustment", bool d.skewAdjustment),
      ("skew_threshold", duration d.skewThreshold)] true

/-- A client is described by its name, its defaults, its signers and its most attempts. -/
def client (name : Text) (d : Defaults) (signers : SignerRegistry) (limit : Nat) : Text :=
  record "ServiceClient"
    [("client_name", Quoted.quote name),
      ("defaults", defaults d),
      ("signers", registry signers),
      ("max_attempts", Numeral.ofNat limit)] false

end ServiceCall.Describe
