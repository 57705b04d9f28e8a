import ServiceCall.Text.Basic

/-!
# JSON values

Numbers are whole numbers of a 64-bit word, signed or not, or doubles.  The members of an object
have distinct names and stand in the order of their names.
-/

namespace ServiceCall.Json

inductive Value where
  | null
  | bool (b : Bool)
  | int (n : Int)
  | float (f : Float)
  | string (s : Text)
  | array (items : List Value)
  | object (members : List (Text × Value))
  deriving Inhabited

/-- Puts a member in its place by name; the value of an equal name is replaced. -/
def insertMember (name : Text) (value : Value) : List (Text × Value) → List (Text × Value)
  | [] => [(name, value)]
  | (other, old) :: rest =>
    if name = other then (name, value) :: rest
    else if name < other then (name, value) :: (other, old) :: rest
    else (other, old) :: insertMember name value rest

/-- The object with these members; of members with one name the last counts. -/
def Value.ofMembers (members : List (Text × Value)) : Value :=
  .object (members.foldl (fun object (name, value) => insertMember name value object) [])

/-- The value of a member of an object. -/
def Value.member? (v : Value) (name : Text) : Option Value :=
  match v with
  | .object members => members.lookup name
  | _ => none

end ServiceCall.Json
