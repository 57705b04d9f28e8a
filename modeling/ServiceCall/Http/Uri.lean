import ServiceCall.Text.Utf8

/-!
# Request URIs

What a request is sent to: an optional scheme, an optional authority, a path and an optional query.
A fragment is dropped in reading.  The characters that each part may hold are part of the type.  A
path without a scheme may be empty; with a scheme it starts as a single slash at least.
-/

namespace ServiceCall

/-- The characters of an authority; the percent sign is treated apart. -/
def isAuthorityChar (c : Char) : Bool :=
  c.isAlphanum || "!$&'()*+,-.:;=@[]_~%".toList.contains c

/-- The characters of a path: most of ASCII, and all that lies beyond. -/
def isPathChar (c : Char) : Bool :=
  let n := c.toNat
  n == 0x21 || (0x24 ≤ n && n ≤ 0x3B) || n == 0x3D || (0x40 ≤ n && n ≤ 0x5F)
    || (0x61 ≤ n && n ≤ 0x7A) || n == 0x7C || n == 0x7E || 0x80 ≤ n
    || c == '"' || c == '\x7b' || c == '\x7d'

/-- The characters of a query. -/
def isQueryChar (c : Char) : Bool :=
  let n := c.toNat
  n == 0x21 || (0x24 ≤ n && n ≤ 0x3B) || n == 0x3D || (0x3F ≤ n && n ≤ 0x7E) || 0x80 ≤ n

structure Uri where
  scheme : Option Text
  authority : Option Text
  path : Text
  query : Option Text
  authority_valid : (authority.getD []).all isAuthorityChar = true
  path_valid : path.all isPathChar = true
  query_valid : (query.getD []).all isQueryChar = true
  deriving DecidableEq

namespace Uri

/-- The text of a URI. -/
def text (u : Uri) : Text :=
  (match u.scheme with
    | some scheme => scheme ++ "://".toList
    | none => [])
  ++ u.authority.getD [] ++ u.path
  ++ (match u.query with
    | some query => '?' :: query
    | none => [])

/-- The longest URI, in bytes. -/
def longest : Nat := 65534

/-- The longest scheme that is not one of the two common ones. -/
def longestScheme : Nat := 64

def isSchemeChar (c : Char) : Bool := c.isAlphanum || c == '+' || c == '-' || c == '.' || c == '~'

/-- Takes the scheme and the two slashes after it from the front of a text.  Fails only on a scheme
that is too long. -/
def splitScheme? (s : Text) : Option (Option Text × Text) :=
  if Text.lower (s.take 7) = "http://".toList then some (some "http".toList, s.drop 7)
  else if Text.lower (s.take 8) = "https://".toList then some (some "https".toList, s.drop 8)
  else
    let scheme := s.takeWhile isSchemeChar
    if 3 < s.length ∧ "://".toList.isPrefixOf (s.drop scheme.length) then
      if scheme.length ≤ longestScheme then some (some scheme, s.drop (scheme.length + 3)) else none
    else some (none, s)

/-- What has been seen of an authority: the colons since the last user info or bracket, whether
there was a bracket, and its end, and whether a percent sign stands outside of both. -/
structure Seen where
  colons : Nat
  opened : Bool
  closed : Bool
  percent : Bool

/-- The most colons between two resets of their count. -/
def mostColons : Nat := 8

def Seen.step? (seen : Seen) (c : Char) : Option Seen :=
  if c = ':' then
    if seen.colons < mostColons then some { seen with colons := seen.colons + 1 } else none
  else if c = '[' then
    if seen.percent || seen.opened then none else some { seen with opened := true }
  else if c = ']' then
    if !seen.opened || seen.closed then none
    else some { seen with closed := true, colons := 0, percent := false }
  else if c = '@' then some { seen with colons := 0, percent := false }
  else if c = '%' then some { seen with percent := true }
  else if isAuthorityChar c then some seen
  else none

def Seen.isComplete (seen : Seen) : Bool :=
  seen.opened == seen.closed && seen.colons ≤ 1 && !seen.percent

/-- Whether a text is an authority; the empty one is. -/
def isAuthority (s : Text) : Bool :=
  match s.foldlM Seen.step? ⟨0, false, false, false⟩ with
  | some seen => seen.isComplete && s.getLast? ≠ some '@' && s.all isAuthorityChar
  | none => false

/-- The characters that end an authority. -/
def endsAuthority (c : Char) : Bool := c == '/' || c == '?' || c == '#'

/-- The path and the query of the text after an authority. -/
def splitQuery (s : Text) : Text × Option Text :=
  let whole := s.takeWhile (· ≠ '#')
  match Text.splitOnce '?' whole with
  | some (path, query) => (path, some query)
  | none => (whole, none)

/-- Puts the parts together when their characters are allowed. -/
def ofParts? (scheme authority : Option Text) (path : Text) (query : Option Text) : Option Uri :=
  if h : (authority.getD []).all isAuthorityChar = true ∧ path.all isPathChar = true
      ∧ (query.getD []).all isQueryChar = true then
    some ⟨scheme, authority, path, query, h.1, h.2.1, h.2.2⟩
  else none

/-- Reads a URI in one of its forms: a star, a path with a query, an authority alone, or a scheme
with an authority and perhaps a path and a query. -/
def parse? (s : Text) : Option Uri :=
  if s = [] ∨ longest < (Utf8.encode s).length then none
  else if s = ['*'] then ofParts? none none ['*'] none
  else if s.head? = some '/' then
    let (path, query) := splitQuery s
    ofParts? none none path query
  else
    match splitScheme? s with
    | none => none
    | some (none, rest) =>
      if isAuthority rest then ofParts? none (some rest) [] none else none
    | some (some scheme, rest) =>
      let authority := rest.takeWhile fun c => !endsAuthority c
      if authority.isEmpty ∨ ¬isAuthority authority then none
      else
        let (path, query) := splitQuery (rest.drop authority.length)
        ofParts? (some scheme) (some authority) (if path.isEmpty then ['/'] else path) query

end Uri

end ServiceCall
