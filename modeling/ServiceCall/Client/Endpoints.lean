import ServiceCall.Failure

/-!
# Endpoints

Where a client finds the endpoint of an attempt.  A resolver is asked once for each attempt that
starts, with the number of attempts that have asked it before.
-/

namespace ServiceCall

structure EndpointResolver where
  resolve : Nat → Text → Except Failure Text

namespace EndpointResolver

/-- One endpoint for all. -/
def fixed (endpoint : Text) : EndpointResolver := ⟨fun _ _ => .ok endpoint⟩

/-- The endpoints in turn, from the first on. -/
def roundRobin (endpoints : List Text) : EndpointResolver :=
  ⟨fun turn operation =>
    match endpoints[turn % endpoints.length]? with
    | some endpoint => .ok endpoint
    | none => .error (.configuration (.noEndpoints operation))⟩

theorem resolve_roundRobin (endpoints : List Text) (h : 0 < endpoints.length) (turn : Nat)
    (operation : Text) :
    (roundRobin endpoints).resolve turn operation
      = .ok (endpoints.get ⟨turn % endpoints.length, Nat.mod_lt _ h⟩) := by
  simp [roundRobin, List.getElem?_eq_getElem (Nat.mod_lt turn h)]

end EndpointResolver

end ServiceCall
