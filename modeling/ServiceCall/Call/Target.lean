import ServiceCall.Web.Form

/-!
# Targets

The text of the URI that a call goes to: the path put after the endpoint with one slash between,
and the query pairs put after the query that is there already.
-/

namespace ServiceCall.Target

def isSlash (c : Char) : Bool := c == '/'

/-- Base and path with exactly one slash between them, if neither is empty. -/
def join (base path : Text) : Text :=
  let base := Text.trimEnd isSlash base
  let path := Text.trimStart isSlash path
  if base.isEmpty then path
  else if path.isEmpty then base
  else base ++ '/' :: path

/-- Adds pairs to the query of a text.  The query that is there is read and written anew, so that
all pairs come in one encoding. -/
def addQuery (target : Text) (pairs : List (Text × Text)) : Text :=
  if pairs.isEmpty then target
  else
    match Text.splitOnce '?' target with
    | some (base, query) => base ++ '?' :: Form.serialize (Form.parse query ++ pairs)
    | none => target ++ '?' :: Form.serialize pairs

end ServiceCall.Target
