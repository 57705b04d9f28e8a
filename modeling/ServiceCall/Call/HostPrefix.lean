import ServiceCall.Call.Basic
import ServiceCall.Web.Address

/-!
# Host prefixes

A call may put text in front of the host of its endpoint.  The text is a template: a name in braces
stands for the field of that name.  Fields and the text between placeholders are letters, digits,
hyphens and points, so no field can change where the host ends.  What a field says is not looked at
for further placeholders.
-/

namespace ServiceCall.HostPrefix

def openBrace : Char := '\x7b'

def closeBrace : Char := '\x7d'

/-- The characters of a host prefix. -/
def isLabelChar (c : Char) : Bool := c.isAlphanum || c == '-' || c == '.'

def isLabelText (s : Text) : Bool := s.all isLabelChar

theorem length_of_splitOnce {separator : Char} {s before after : Text}
    (h : Text.splitOnce separator s = some (before, after)) : after.length < s.length := by
  rw [(Text.splitOnce_eq_some separator h).1, List.length_append, List.length_cons]
  omega

/-- The text of a placeholder. -/
def fieldText (field : Text → Option Text) (name : Text) : Except Fault Text :=
  let value := (field name).getD []
  if value.isEmpty then .error (.missingPrefixField name)
  else if isLabelText value then .ok value
  else .error (.invalidPrefixField name value)

/-- Replaces the placeholders in what is left of a template. -/
def substitute (template : Text) (field : Text → Option Text) (rest : Text) : Except Fault Text :=
  match _h : Text.splitOnce openBrace rest with
  | none => .ok rest
  | some (before, inside) =>
    match _h' : Text.splitOnce closeBrace inside with
    | none => .error (.unterminatedPlaceholder template)
    | some (name, after) => do
      let value ← fieldText field name
      let expanded ← substitute template field after
      pure (before ++ value ++ expanded)
termination_by rest.length
decreasing_by
  have := length_of_splitOnce _h
  have := length_of_splitOnce _h'
  omega

/-- The text of a template, when it is made of allowed characters only. -/
def expand (template : Text) (field : Text → Option Text) : Except Failure Text :=
  match substitute template field template with
  | .error fault => .error (.configuration fault)
  | .ok expanded =>
    if isLabelText expanded then .ok expanded
    else .error (.configuration (.invalidPrefix expanded))

/-- The endpoint with a prefix in front of its host. -/
def prepend (label endpoint : Text) : Except Failure Text :=
  if label.isEmpty then .ok endpoint
  else
    match Address.parse? endpoint with
    | none => .error (.configuration (.invalidEndpoint endpoint))
    | some address =>
      match address.host with
      | none => .error (.configuration (.hostlessEndpoint endpoint))
      | some host =>
        match address.withHost? (label ++ host) with
        | none => .error (.configuration (.invalidPrefixedHost (label ++ host)))
        | some prefixed => .ok prefixed.text

end ServiceCall.HostPrefix
