import ServiceCall.Digest.Content
import ServiceCall.Failure
import ServiceCall.Json.Writer

/-!
# Calls

A call describes what to ask of a service, apart from any endpoint: the operation, the method and
path, query pairs, fields, an optional body, an optional template for a prefix of the host, and
which signer and which time limit to use in place of the client's.
-/

namespace ServiceCall

structure Call where
  operation : Text
  method : Method
  path : Text
  query : List (Text × Text)
  fields : Fields
  body : Option Bytes
  hostPrefix : Option Text
  prefixFields : List (Text × Text)
  digest : Option ContentDigest
  signer : Option Text
  timeout : Option Duration
  deriving DecidableEq

/-- The shortest time limit of an attempt or of a call. -/
def Duration.shortestLimit : Duration := .ofMillis 1

/-- The field name that a text spells, or the failure to tell. -/
def HeaderName.require (s : Text) : Except Failure HeaderName :=
  match ofText? s with
  | some name => .ok name
  | none => .error (.configuration (.invalidHeaderName s))

/-- The field value of a text, or a failure that tells the name of the field. -/
def HeaderValue.require (name s : Text) : Except Failure HeaderValue :=
  match ofText? s with
  | some value => .ok value
  | none => .error (.configuration (.invalidHeaderValue name))

namespace Call

def new (method : Method) (path : Text) : Call :=
  { operation := [], method, path, query := [], fields := .empty, body := none, hostPrefix := none,
    prefixFields := [], digest := none, signer := none, timeout := none }

def named (c : Call) (operation : Text) : Call := { c with operation }

def withField (c : Call) (name : HeaderName) (value : HeaderValue) : Call :=
  { c with fields := c.fields.set name value }

def addField (c : Call) (name : HeaderName) (value : HeaderValue) : Call :=
  { c with fields := c.fields.append name value }

/-- Sets a field from text, when name and value are allowed. -/
def tryField (c : Call) (name value : Text) : Except Failure Call := do
  let name ← HeaderName.require name
  let value ← HeaderValue.require name.text value
  pure (c.withField name value)

def addQuery (c : Call) (pairs : List (Text × Text)) : Call := { c with query := c.query ++ pairs }

def withBody (c : Call) (body : Bytes) : Call := { c with body := some body }

/-- The type of a body in JSON. -/
def jsonType : HeaderValue := .ofVisible "application/json".toList (by decide)

/-- Makes a value the body, and says so in the type of the content. -/
def withJson (c : Call) (value : Json.Value) : Call :=
  (c.withBody (Utf8.encode value.write)).withField .contentType jsonType

def withHostPrefix (c : Call) (template : Text) : Call := { c with hostPrefix := some template }

/-- Gives a placeholder its text; the latest text counts. -/
def withPrefixField (c : Call) (name value : Text) : Call :=
  { c with prefixFields := (name, value) :: c.prefixFields }

def prefixField? (c : Call) (name : Text) : Option Text := c.prefixFields.lookup name

def withDigest (c : Call) (digest : ContentDigest) : Call := { c with digest := some digest }

def withSigner (c : Call) (name : Text) : Call := { c with signer := some name }

/-- Limits the time of each attempt; the limit is at least a millisecond. -/
def withTimeout (c : Call) (limit : Duration) : Call :=
  { c with timeout := some (max limit .shortestLimit) }

end Call

end ServiceCall
