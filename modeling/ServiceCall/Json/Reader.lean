import ServiceCall.Json.Number
import ServiceCall.Text.Hex
import ServiceCall.Text.Utf8

/-!
# Reading JSON

The strict grammar over well-formed UTF-8: no text after the value, no control characters in
strings, no half of a surrogate pair, and a limit on the nesting of arrays and objects.
-/

namespace ServiceCall.Json

def isSpace (c : Char) : Bool := c == ' ' || c == '\t' || c == '\n' || c == '\r'

def skipSpace (s : Text) : Text := s.dropWhile isSpace

/-- The number of four hexadecimal digits. -/
def unit? : Text → Option (Nat × Text)
  | a :: b :: c :: d :: rest => do
    let a ← Hex.value? a
    let b ← Hex.value? b
    let c ← Hex.value? c
    let d ← Hex.value? d
    pure (((a * 16 + b) * 16 + c) * 16 + d, rest)
  | _ => none

/-- The character of an escape by number; a high half has to be followed by a low one. -/
def numbered? (s : Text) : Option (Char × Text) := do
  let (high, rest) ← unit? s
  if 0xD800 ≤ high ∧ high < 0xDC00 then
    match rest with
    | '\\' :: 'u' :: rest =>
      let (low, rest) ← unit? rest
      if 0xDC00 ≤ low ∧ low < 0xE000 then
        pure (Char.ofNat (0x10000 + (high - 0xD800) * 0x400 + (low - 0xDC00)), rest)
      else none
    | _ => none
  else if 0xDC00 ≤ high ∧ high < 0xE000 then none
  else pure (Char.ofNat high, rest)

/-- The character of an escape, from the text after the backslash. -/
def escaped? : Text → Option (Char × Text)
  | '"' :: rest => some ('"', rest)
  | '\\' :: rest => some ('\\', rest)
  | '/' :: rest => some ('/', rest)
  | 'b' :: rest => some ('\x08', rest)
  | 'f' :: rest => some ('\x0c', rest)
  | 'n' :: rest => some ('\n', rest)
  | 'r' :: rest => some ('\r', rest)
  | 't' :: rest => some ('\t', rest)
  | 'u' :: rest => numbered? rest
  | _ => none

/-- Reads the rest of a string after its opening quote. -/
def string? : Nat → Text → Option (Text × Text)
  | 0, _ => none
  | _ + 1, [] => none
  | fuel + 1, c :: rest =>
    if c = '"' then some ([], rest)
    else if c = '\\' then do
      let (d, rest) ← escaped? rest
      let (s, rest) ← string? fuel rest
      pure (d :: s, rest)
    else if c.toNat < 0x20 then none
    else do
      let (s, rest) ← string? fuel rest
      pure (c :: s, rest)

/-- Reads a fixed word. -/
def word? (word : Text) (value : Value) (s : Text) : Option (Value × Text) :=
  if word.isPrefixOf s then some (value, s.drop word.length) else none

mutual

/-- Reads a value with at most `depth` levels of arrays and objects.  Every call takes a character
from the text or is followed by one that does, so twice its length is enough fuel, and at every
place more is left than the rest of the text is long. -/
def value? (fuel depth : Nat) (s : Text) : Option (Value × Text) :=
  match fuel with
  | 0 => none
  | fuel + 1 =>
    match skipSpace s with
    | 'n' :: rest => word? "null".toList .null ('n' :: rest)
    | 't' :: rest => word? "true".toList (.bool true) ('t' :: rest)
    | 'f' :: rest => word? "false".toList (.bool false) ('f' :: rest)
    | '"' :: rest => (string? fuel rest).map fun (s, rest) => (.string s, rest)
    | '[' :: rest =>
      if depth = 0 then none
      else
        match skipSpace rest with
        | ']' :: rest => some (.array [], rest)
        | _ => (items? fuel (depth - 1) rest).map fun (items, rest) => (.array items, rest)
    | '\x7b' :: rest =>
      if depth = 0 then none
      else
        match skipSpace rest with
        | '\x7d' :: rest => some (.object [], rest)
        | _ =>
          (members? fuel (depth - 1) rest).map fun (members, rest) => (.ofMembers members, rest)
    | s => Number.read? s

/-- Reads the items of an array up to its closing bracket. -/
def items? (fuel depth : Nat) (s : Text) : Option (List Value × Text) :=
  match fuel with
  | 0 => none
  | fuel + 1 => do
    let (item, rest) ← value? fuel depth s
    match skipSpace rest with
    | ',' :: rest =>
      let (items, rest) ← items? fuel depth rest
      pure (item :: items, rest)
    | ']' :: rest => pure ([item], rest)
    | _ => none

/-- Reads the members of an object up to its closing brace. -/
def members? (fuel depth : Nat) (s : Text) : Option (List (Text × Value) × Text) :=
  match fuel with
  | 0 => none
  | fuel + 1 =>
    match skipSpace s with
    | '"' :: rest => do
      let (name, rest) ← string? fuel rest
      match skipSpace rest with
      | ':' :: rest =>
        let (value, rest) ← value? fuel depth rest
        match skipSpace rest with
        | ',' :: rest =>
          let (members, rest) ← members? fuel depth rest
          pure ((name, value) :: members, rest)
        | '\x7d' :: rest => pure ([(name, value)], rest)
        | _ => none
      | _ => none
    | _ => none

end

/-- The value of a whole text, nested at most `depth` levels. -/
def parseText? (depth : Nat) (s : Text) : Option Value := do
  let (value, rest) ← value? (2 * s.length + 2) depth s
  if (skipSpace rest).isEmpty then some value else none

/-- The levels of arrays and objects that a response body may have. -/
def depthLimit : Nat := 127

/-- The value of a body. -/
def parse? (body : Bytes) : Option Value := (Utf8.decode? body).bind (parseText? depthLimit)

end ServiceCall.Json
