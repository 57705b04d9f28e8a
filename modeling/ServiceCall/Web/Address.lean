import ServiceCall.Web.Domain
import ServiceCall.Web.Ip
import ServiceCall.Web.Percent

/-!
# Web addresses

Addresses as a browser reads them: blanks around and tabs and line ends within are ignored, letters
are brought to one case, characters that may not stand in a part are percent encoded, dots in the
path are resolved, and a port that is the scheme's own is dropped.  Six schemes are special: they
always have a host, and a backslash divides their paths like a slash.
-/

namespace ServiceCall

/-- What follows the authority: a list of segments, or text that is not divided. -/
inductive Address.Path where
  | segments (list : List Text)
  | undivided (text : Text)
  deriving DecidableEq

structure Address where
  scheme : Text
  username : Text
  password : Text
  host : Option Text
  hasAuthority : Bool
  port : Option Nat
  path : Address.Path
  query : Option Text
  fragment : Option Text
  deriving DecidableEq

namespace Address

def isFile (scheme : Text) : Bool := scheme == "file".toList

/-- The port that a special scheme uses unless told otherwise. -/
def defaultPort? (scheme : Text) : Option Nat :=
  if scheme = "http".toList ∨ scheme = "ws".toList then some 80
  else if scheme = "https".toList ∨ scheme = "wss".toList then some 443
  else if scheme = "ftp".toList then some 21
  else none

def isSpecial (scheme : Text) : Bool := isFile scheme || (defaultPort? scheme).isSome

/-! ## Characters that are encoded -/

/-- Control characters, and all beyond ASCII. -/
def encodesAlways (c : Char) : Bool := c.toNat < 0x20 || 0x7E < c.toNat

def encodesInFragment (c : Char) : Bool :=
  encodesAlways c || c == ' ' || c == '"' || c == '<' || c == '>' || c == '\x60'

def encodesInPath (c : Char) : Bool :=
  encodesInFragment c || c == '#' || c == '?' || c == '\x7b' || c == '\x7d'

def encodesInUser (c : Char) : Bool := encodesInPath c || "/:;=@[\\]^|".toList.contains c

def encodesInQuery (special : Bool) (c : Char) : Bool :=
  encodesAlways c || c == ' ' || c == '"' || c == '#' || c == '<' || c == '>'
    || (special && c == '\'')

/-! ## Hosts -/

/-- The characters that no host of an ordinary scheme holds. -/
def isForbiddenInHost (c : Char) : Bool :=
  c == '\x00' || "\t\n\r #/:<>?@[\\]^|".toList.contains c

/-- A numeric host in brackets. -/
def bracketed? (s : Text) : Option Text :=
  if s.getLast? = some ']' then
    (Ip.newer? (s.drop 1).dropLast).map fun words => '[' :: Ip.newerText words ++ [']']
  else none

/-- The host of a special scheme, in the form in which it is written. -/
def specialHost? (s : Text) : Option Text :=
  if s.head? = some '[' then bracketed? s
  else do
    let name ← Utf8.decode? (Percent.decode (Utf8.encode s))
    let name ← Domain.toAscii? name
    if name.isEmpty then none
    else if Ip.endsInNumber name then (Ip.older? name).map Ip.olderText
    else some name

/-- The host of an ordinary scheme; it may be empty. -/
def ordinaryHost? (s : Text) : Option Text :=
  if s.head? = some '[' then bracketed? s
  else if s.any isForbiddenInHost then none
  else some (Percent.encodeIf encodesAlways s)

def host? (special : Bool) (s : Text) : Option Text :=
  if special then specialHost? s else ordinaryHost? s

/-! ## Paths -/

def isSingleDot (s : Text) : Bool :=
  let s := Text.lower s
  s == ['.'] || s == "%2e".toList

def isDoubleDot (s : Text) : Bool :=
  ["..", ".%2e", "%2e.", "%2e%2e"].any fun dots => Text.lower s == dots.toList

/-- A letter and a colon or a bar. -/
def isDriveLetter (s : Text) : Bool :=
  match s with
  | [c, d] => c.isAlpha && (d == ':' || d == '|')
  | _ => false

/-- Whether dots cannot take a segment away: a drive letter stays, and so does one with a backslash
behind it. -/
def isFixed (s : Text) : Bool := isDriveLetter (s.takeWhile (· ≠ '\\'))

/-- The segments without the last one, unless that is fixed. -/
def shorten (segments : List Text) : List Text :=
  if segments.getLast?.any isFixed then segments else segments.dropLast

/-- Adds a segment to those before it, resolving dots. -/
def addSegment (segments : List Text) (s : Text) (last : Bool) : List Text :=
  if isDoubleDot s then
    let shorter := shorten segments
    if last then shorter ++ [[]] else shorter
  else if isSingleDot s then if last then segments ++ [[]] else segments
  else segments ++ [s]

/-- Adds all segments in turn. -/
def addSegments (segments : List Text) : List Text → List Text
  | [] => segments
  | [s] => addSegment segments s true
  | s :: rest => addSegments (addSegment segments s false) rest

/-- The segments of a path, without the slash in front of the first one. -/
def segments (scheme : Text) (s : Text) : List Text :=
  let s := if isSpecial scheme then s.map fun c => if c = '\\' then '/' else c else s
  addSegments [] ((Text.splitAll '/' s).map (Percent.encodeIf encodesInPath))

def Path.text : Path → Text
  | .segments list => list.flatMap fun s => '/' :: s
  | .undivided text => text

/-! ## Paths of files -/

/-- A slash, whichever way it leans. -/
def isSlash (c : Char) : Bool := c == '/' || c == '\\'

/-- The characters that are ignored within an address. -/
def isIgnored (c : Char) : Bool := c == '\t' || c == '\n' || c == '\r'

def withoutIgnored (s : Text) : Text := s.filter fun c => !isIgnored c

/-- The path of a file, and whether a drive letter at its front says that no host holds it. -/
structure DiskPath where
  segments : List Text
  isLocal : Bool
  deriving DecidableEq

/-- A drive letter and what follows it in a segment, when ignored characters divide the two. -/
def splitDrive? (s : Text) : Option (Text × Text) :=
  match s.dropWhile isIgnored with
  | [] => none
  | c :: rest =>
    match rest.dropWhile isIgnored with
    | ':' :: rest =>
      let others := withoutIgnored rest
      if c.isAlpha && rest.head?.any isIgnored && !others.isEmpty then some ([c, ':'], others)
      else none
    | _ => none

/-- Adds a segment to the path of a file.  A drive letter at the front gets a colon; one that is
divided from the rest of its segment becomes a segment of its own and says nothing of the host. -/
def DiskPath.add (path : DiskPath) (s : Text) (last : Bool) : DiskPath :=
  let encoded := Percent.encodeIf encodesInPath (withoutIgnored s)
  if path.segments.isEmpty && isDriveLetter encoded then ⟨[encoded.take 1 ++ [':']], true⟩
  else
    match if path.segments.isEmpty then splitDrive? s else none with
    | some (drive, others) =>
      { path with segments := [drive, Percent.encodeIf encodesInPath others] }
    | none => { path with segments := addSegment path.segments encoded last }

/-- Adds all segments in turn. -/
def DiskPath.addAll (path : DiskPath) : List Text → DiskPath
  | [] => path
  | [s] => path.add s true
  | s :: rest => (path.add s false).addAll rest

/-- Empty segments in front of a file's path are dropped. -/
def dropEmpty : List Text → List Text
  | [] :: s :: rest => dropEmpty (s :: rest)
  | segments => segments

/-- The path of a file, in which ignored characters still stand. -/
def DiskPath.ofText (s : Text) : DiskPath :=
  let path := DiskPath.addAll ⟨[], false⟩
    (Text.splitAll '/' (s.map fun c => if isSlash c then '/' else c))
  { path with segments := dropEmpty path.segments }

/-! ## Reading -/

/-- Ends a host and everything in front of a path. -/
def endsAuthority (special : Bool) (c : Char) : Bool :=
  c == '/' || c == '?' || c == '#' || (special && c == '\\')

/-- The text before the last separator and the text after it. -/
def splitLast (separator : Char) (s : Text) : Option (Text × Text) :=
  let after := s.reverse.takeWhile (· ≠ separator)
  if after.length < s.length then some (s.take (s.length - after.length - 1), after.reverse)
  else none

/-- The scheme of an address, in small letters, and the text after its colon. -/
def scheme? (s : Text) : Option (Text × Text) := do
  let (scheme, rest) ← Text.splitOnce ':' s
  let first ← scheme.head?
  if first.isAlpha ∧ scheme.all fun c => c.isAlphanum || c == '+' || c == '-' || c == '.' then
    some (Text.lower scheme, rest)
  else none

/-- The host and the text after its colon, when there is one outside of brackets. -/
def splitPort : Bool → Text → Text × Option Text
  | _, [] => ([], none)
  | inside, c :: rest =>
    if c = ':' ∧ !inside then ([], some rest)
    else
      let (host, port) := splitPort (c == '[' || (inside && c != ']')) rest
      (c :: host, port)

/-- The port after a colon: none if there are no digits or if it is the scheme's own. -/
def port? (scheme : Text) (digits : Text) : Option (Option Nat) :=
  if digits.isEmpty then some none
  else if digits.all Char.isDigit ∧ Numeral.digitsValue digits < 65536 then
    let port := Numeral.digitsValue digits
    some (if defaultPort? scheme = some port then none else some port)
  else none

/-- Path, query and fragment of the text after the authority. -/
def splitTail (s : Text) : Text × Option Text × Option Text :=
  let (rest, fragment) := match Text.splitOnce '#' s with
    | some (rest, fragment) => (rest, some fragment)
    | none => (s, none)
  match Text.splitOnce '?' rest with
  | some (path, query) => (path, some query, fragment)
  | none => (rest, none, fragment)

def encodeQuery (scheme : Text) (query : Option Text) : Option Text :=
  query.map (Percent.encodeIf (encodesInQuery (isSpecial scheme)))

def encodeFragment (fragment : Option Text) : Option Text :=
  fragment.map (Percent.encodeIf encodesInFragment)

/-- The path after an authority.  It starts with a slash, unless it is empty and the scheme is an
ordinary one. -/
def pathAfterAuthority (scheme : Text) (s : Text) : Path :=
  match s with
  | [] => if isSpecial scheme then .segments [[]] else .segments []
  | c :: rest =>
    if c = '/' ∨ (isSpecial scheme ∧ c = '\\') then .segments (segments scheme rest)
    else .segments (segments scheme s)

/-- The user's name and password, and the text after the last at sign. -/
def user (s : Text) : Text × Text × Text :=
  match splitLast '@' s with
  | none => ([], [], s)
  | some (info, rest) =>
    let (name, password) := match Text.splitOnce ':' info with
      | some (name, password) => (name, password)
      | none => (info, [])
    (Percent.encodeIf encodesInUser name, Percent.encodeIf encodesInUser password, rest)

/-- Reads what follows the two slashes of an address with an authority.  The host may be empty only
for an ordinary scheme, and then there is neither a user nor a port.  A backslash ends a port in
every scheme. -/
def afterSlashes? (scheme s : Text) : Option Address := do
  let special := isSpecial scheme
  let authority := s.takeWhile fun c => !endsAuthority special c
  let (username, password, hostPort) := user authority
  let (hostText, portText) := splitPort false hostPort
  let digits := (portText.getD []).takeWhile (· ≠ '\\')
  let tail := (portText.getD []).drop digits.length ++ s.drop authority.length
  let host ← host? special hostText
  let needsHost := special || portText.isSome || !username.isEmpty || !password.isEmpty
    || (authority == ['@'] && !tail.isEmpty)
  if host.isEmpty && needsHost then none
  else
    let port ← port? scheme digits
    let (path, query, fragment) := splitTail tail
    pure
      { scheme, username, password, port
        host := if host.isEmpty then none else some host
        hasAuthority := true
        path := pathAfterAuthority scheme path
        query := encodeQuery scheme query
        fragment := encodeFragment fragment }

/-- An address without an authority. -/
def withoutAuthority (scheme : Text) (path : Path) (query fragment : Option Text) : Address :=
  { scheme, username := [], password := [], host := none, hasAuthority := false, port := none, path
    query := encodeQuery scheme query
    fragment := encodeFragment fragment }

/-- Reads what follows the colon of an ordinary scheme. -/
def ordinary? (scheme s : Text) : Option Address :=
  if "//".toList.isPrefixOf s then afterSlashes? scheme (s.drop 2)
  else
    let (path, query, fragment) := splitTail s
    let path := match path with
      | '/' :: rest => Path.segments (segments scheme rest)
      | _ => Path.undivided (Percent.encodeIf encodesAlways path)
    some (withoutAuthority scheme path query fragment)

/-- The text after a slash at the front. -/
def dropSlash? (s : Text) : Option Text :=
  match s.dropWhile isIgnored with
  | c :: rest => if isSlash c then some rest else none
  | [] => none

/-- The host of a file's address, which follows two slashes, and the text after it.  A drive letter
is never a host. -/
def splitFileHost (s : Text) : Text × Text :=
  match (dropSlash? s).map fun rest => (rest, dropSlash? rest) with
  | none => ([], s)
  | some (rest, none) => ([], rest)
  | some (_, some rest) =>
    let host := rest.takeWhile fun c => !endsAuthority true c
    if isDriveLetter (withoutIgnored host) then ([], rest)
    else (withoutIgnored host, rest.drop host.length)

/-- Reads what follows the colon of a file's address, in which ignored characters still stand.  The
host may be left out, and the name of the local host counts as left out. -/
def file? (s : Text) : Option Address := do
  let scheme := "file".toList
  let (hostText, tail) := splitFileHost s
  let host ←
    if hostText.isEmpty then some []
    else (specialHost? hostText).map fun host => if host = "localhost".toList then [] else host
  let (path, query, fragment) := splitTail tail
  let path := DiskPath.ofText (if host.isEmpty then path else (dropSlash? path).getD path)
  pure
    { scheme, username := [], password := [], port := none
      host := if host.isEmpty || path.isLocal then none else some host
      hasAuthority := true
      path := .segments path.segments
      query := encodeQuery scheme (query.map withoutIgnored)
      fragment := encodeFragment (fragment.map withoutIgnored) }

/-- The text without blanks and controls at its ends. -/
def trim (s : Text) : Text :=
  let isEnd (c : Char) : Bool := c.toNat ≤ 0x20
  Text.trimEnd isEnd (Text.trimStart isEnd s)

/-- Reads an address; one without a scheme is refused. -/
def parse? (s : Text) : Option Address := do
  let s := trim s
  let (scheme, rest) ← scheme? (withoutIgnored s)
  if isFile scheme then
    let (_, rest) ← Text.splitOnce ':' s
    file? rest
  else if isSpecial scheme then
    afterSlashes? scheme (rest.dropWhile isSlash)
  else ordinary? scheme rest

/-! ## Writing -/

/-- Name and password, with the at sign, when there are any. -/
def userText (a : Address) : Text :=
  if a.username.isEmpty ∧ a.password.isEmpty then []
  else a.username ++ (if a.password.isEmpty then [] else ':' :: a.password) ++ ['@']

def authorityText (a : Address) : Text :=
  if a.hasAuthority then
    "//".toList ++ a.userText ++ a.host.getD [] ++
      (match a.port with
        | some port => ':' :: Numeral.ofNat port
        | none => [])
  else []

/-- The path, kept from looking like an authority. -/
def pathText (a : Address) : Text :=
  let path := a.path.text
  if !a.hasAuthority && "//".toList.isPrefixOf path then "/.".toList ++ path else path

def text (a : Address) : Text :=
  a.scheme ++ ':' :: a.authorityText ++ a.pathText
    ++ (match a.query with
      | some query => '?' :: query
      | none => [])
    ++ (match a.fragment with
      | some fragment => '#' :: fragment
      | none => [])

/-! ## Changes -/

/-- The address with another host.  A colon outside of brackets ends the host. -/
def withHost? (a : Address) (host : Text) : Option Address :=
  let special := isSpecial a.scheme
  if host.isEmpty ∧ special ∧ !isFile a.scheme then none
  else
    let inBrackets := host.head? = some '[' ∧ host.getLast? = some ']'
    match if inBrackets then none else Text.splitOnce ':' host with
    | some ([], _) => none
    | some (before, _) => (host? special before).map fun host => { a with host := some host }
    | none => (host? special host).map fun host => { a with host := some host }

/-- The address without user, query and fragment. -/
def redacted (a : Address) : Address :=
  { a with username := [], password := [], query := none, fragment := none }

/-- A text as it may be logged: without user, query and fragment if it is an address, and cut at the
first question mark otherwise. -/
def redact (s : Text) : Text :=
  match parse? s with
  | some a => a.redacted.text
  | none => s.takeWhile (· ≠ '?')

end Address

end ServiceCall
