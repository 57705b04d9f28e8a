import ServiceCall.Execution.Journal

/-!
# What an answer can mean

Whatever comes back from a transport is a response passed on unchanged or a failure that is fresh:
its kind may be retried or not but never ends a call by itself, and no number of attempts and no
denial are recorded on it yet.
-/

namespace ServiceCall

theorem Kind.isTerminal_ofStatus (status : Status) : (Kind.ofStatus status).isTerminal = false := by
  unfold Kind.ofStatus
  split
  · rfl
  · split
    · rfl
    · split <;> rfl

theorem Kind.isTerminal_classify (c : Classifier) (status : Status) (code : Option Text) :
    (Kind.classify c status code).isTerminal = false := by
  cases code with
  | none => exact isTerminal_ofStatus status
  | some code =>
      simp only [classify]
      split
      · rfl
      · split
        · rfl
        · exact isTerminal_ofStatus status

theorem TransportFault.isTerminal_kind (fault : TransportFault) :
    fault.kind.isTerminal = false := by
  cases fault with
  | dns | connect | tls | timeout | other => rfl

/-- A failure as classification makes it. -/
structure Failure.Fresh (f : Failure) : Prop where
  isTerminal : f.kind.isTerminal = false
  attempts : f.attempts = none
  denial : f.denial = none

theorem Failure.Fresh.without_denial {f : Failure} (hfresh : f.Fresh) :
    { f with denial := none } = f := by
  obtain ⟨-, -, hdenial⟩ := hfresh
  cases f
  cases hdenial
  rfl

theorem Reply.fresh_of_outcome_eq_error {c : Classifier} {reply : Reply} {now : Instant}
    {failure : Failure} (houtcome : reply.outcome c now = .error failure) : failure.Fresh := by
  cases reply with
  | response response =>
      simp only [outcome, classify] at houtcome
      split at houtcome
      · cases houtcome
        exact ⟨Kind.isTerminal_classify c _ _, rfl, rfl⟩
      · cases houtcome
  | broken fault detail =>
      cases houtcome
      exact ⟨fault.isTerminal_kind, rfl, rfl⟩

/-- A success is the response that came back. -/
theorem Reply.eq_of_outcome_eq_ok {c : Classifier} {reply : Reply} {now : Instant}
    {response : Http.Response} (houtcome : reply.outcome c now = .ok response) :
    reply = .response response := by
  cases reply with
  | response received =>
      simp only [outcome, classify] at houtcome
      split at houtcome
      · cases houtcome
      · cases houtcome
        rfl
  | broken fault detail => cases houtcome

end ServiceCall
