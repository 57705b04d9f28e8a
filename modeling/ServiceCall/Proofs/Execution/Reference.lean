import ServiceCall.Execution.Journal
import ServiceCall.Proofs.Outcomes
import ServiceCall.Proofs.Retry.BuiltIn

/-!
# The reference for a run

When nobody cancels and no time runs out, a run is decided by its answers alone.  The reference
says after which answer it halts and with what, from the answers so far and the tokens at its
start.  It keeps no state: the retry for a wrong clock goes to the first answer that corrects the
clock, and every other answer that did not halt the run was paid for.
-/

namespace ServiceCall

/-- What decides a run: the strategy, what corrects the clock, what counts as a failure, and the
tokens at the start. -/
structure Reference where
  strategy : BuiltIn
  corrector : Corrector
  classifier : Classifier
  tokens : Nat

namespace Reference

variable (r : Reference) (earlier : List Answered) (a : Answered)

def limit : Nat := r.strategy.rules.limit

/-- Whether an answer shows that the clock is wrong. -/
def corrects : Bool :=
  match a.outcome r.classifier with
  | .ok _ => false
  | .error failure => (r.corrector.measured? failure a.signedAt).isSome

/-- Whether an answer gets the one retry for a wrong clock. -/
def granted : Bool := r.corrects a && !earlier.any r.corrects

/-- What a retry after an answer costs if it is not granted. -/
def cost : Nat :=
  match a.outcome r.classifier with
  | .ok _ => 0
  | .error failure => r.strategy.cost failure.kind

/-- What the retries after some answers cost: all but the granted one are paid for. -/
def spent : Nat := ((earlier.eraseP r.corrects).map r.cost).sum

/-- Whether a retry is allowed but the tokens that are left do not pay for it. -/
def denied : Bool :=
  match a.outcome r.classifier with
  | .ok _ => false
  | .error failure =>
    decide (earlier.length + 1 < r.limit) && failure.retryable && !r.granted earlier a &&
      decide (r.tokens < r.spent earlier + r.cost a)

/-- Whether a run halts at an answer: it is a success, there are no more attempts, the failure may
not be retried and is not granted, or the retry is denied. -/
def halts : Bool :=
  match a.outcome r.classifier with
  | .ok _ => true
  | .error failure =>
    decide (earlier.length + 1 = r.limit) || (!failure.retryable && !r.granted earlier a) ||
      r.denied earlier a

/-- The result of a run that halts at an answer. -/
def result : Except Failure Http.Response :=
  (a.outcome r.classifier).mapError fun failure =>
    { failure with
      attempts := some (earlier.length + 1)
      denial := if r.denied earlier a then some .quotaExhausted else none }

/-- The answers of a run from some answers on: it goes on until it halts. -/
inductive Plays (r : Reference) : List Answered → List Answered → Prop where
  | halts {earlier : List Answered} {a : Answered} (hhalts : r.halts earlier a = true) :
      Plays r earlier [a]
  | goes {earlier rest : List Answered} {a : Answered} (hgoes : r.halts earlier a = false)
      (hrest : Plays r (earlier ++ [a]) rest) : Plays r earlier (a :: rest)

variable {r} {earlier}

/-- The run halts at its last answer and at none before. -/
theorem Plays.halts_iff {answers : List Answered} (hplays : r.Plays earlier answers)
    {front back : List Answered} {a : Answered} (hsplit : answers = front ++ a :: back) :
    r.halts (earlier ++ front) a = true ↔ back = [] := by
  induction hplays generalizing front with
  | @halts earlier last hhalts =>
      cases front with
      | nil =>
          cases hsplit
          rw [List.append_nil]
          exact iff_of_true hhalts rfl
      | cons first front => simp at hsplit
  | @goes earlier rest first hgoes hrest ih =>
      cases front with
      | nil =>
          cases hsplit
          rw [List.append_nil, hgoes]
          refine iff_of_false Bool.false_ne_true ?_
          rintro rfl
          cases hrest
      | cons second front =>
          obtain ⟨rfl, hrest⟩ := List.cons.inj hsplit
          have hrest := ih hrest
          rwa [List.append_assoc] at hrest

variable {a} {failure : Failure}

theorem cost_of_outcome (houtcome : a.outcome r.classifier = .error failure) :
    r.cost a = r.strategy.cost failure.kind := by
  rw [cost, houtcome]

/-- The four conditions of a denial. -/
theorem denied_iff (houtcome : a.outcome r.classifier = .error failure) :
    r.denied earlier a = true ↔
      earlier.length + 1 < r.limit ∧ failure.retryable = true ∧ r.granted earlier a = false ∧
        r.tokens < r.spent earlier + r.cost a := by
  rw [denied, houtcome]
  simp [and_assoc]

/-- The three ways to halt at a failure. -/
theorem halts_iff (houtcome : a.outcome r.classifier = .error failure) :
    r.halts earlier a = true ↔
      earlier.length + 1 = r.limit ∨
        (failure.retryable = false ∧ r.granted earlier a = false) ∨
        r.denied earlier a = true := by
  rw [halts, houtcome]
  simp [or_assoc]

/-- The result of a run that halts at a fresh failure: the failure with the number of attempts and
the denial, if there was one. -/
theorem result_of_outcome (houtcome : a.outcome r.classifier = .error failure)
    (hfresh : failure.Fresh) :
    r.result earlier a = .error (Failure.orAttempts { failure with
      denial := if r.denied earlier a then some .quotaExhausted else none }
      (earlier.length + 1)) := by
  rw [result, houtcome, Failure.orAttempts, hfresh.attempts]
  rfl

/-- A run that ends well gives back what came back. -/
theorem reply_of_result_eq_ok {response : Http.Response} (hok : r.result earlier a = .ok response) :
    a.reply = .response response := by
  rw [result] at hok
  cases houtcome : a.outcome r.classifier with
  | ok received =>
      rw [houtcome] at hok
      cases hok
      exact Reply.eq_of_outcome_eq_ok houtcome
  | error failure =>
      rw [houtcome] at hok
      cases hok

theorem denied_eq_false_of_granted (hgranted : r.granted earlier a = true) :
    r.denied earlier a = false := by
  rw [denied, hgranted]
  cases a.outcome r.classifier with
  | ok response => rfl
  | error failure => simp

theorem halts_eq_false (houtcome : a.outcome r.classifier = .error failure)
    (hmore : earlier.length + 1 < r.limit)
    (hretried : failure.retryable = true ∨ r.granted earlier a = true)
    (hdenied : r.denied earlier a = false) : r.halts earlier a = false := by
  rw [Bool.eq_false_iff, ne_eq, halts_iff houtcome]
  rintro (hlast | ⟨hrefused, hungranted⟩ | hpoor)
  · exact Nat.ne_of_lt hmore hlast
  · rcases hretried with hretryable | hgranted
    · exact Bool.false_ne_true (hrefused.symm.trans hretryable)
    · exact Bool.false_ne_true (hungranted.symm.trans hgranted)
  · exact Bool.false_ne_true (hdenied.symm.trans hpoor)

variable (a)

/-- The retry for a wrong clock is used by the answer that is granted it, and by no other. -/
theorem any_concat :
    (earlier ++ [a]).any r.corrects = (earlier.any r.corrects || r.granted earlier a) := by
  rw [granted, List.any_append, List.any_cons, List.any_nil, Bool.or_false]
  cases earlier.any r.corrects with
  | true => rfl
  | false => rw [Bool.not_false, Bool.and_true]

/-- One more answer is paid for unless it was granted. -/
theorem spent_concat :
    r.spent (earlier ++ [a]) =
      r.spent earlier + if r.granted earlier a then 0 else r.cost a := by
  rw [spent, spent, granted, List.eraseP_append]
  cases hany : earlier.any r.corrects with
  | true =>
      rw [if_pos rfl, List.map_append, List.sum_append]
      simp
  | false =>
      have hnone : earlier.eraseP r.corrects = earlier :=
        List.eraseP_of_forall_not (by simpa using hany)
      rw [if_neg Bool.false_ne_true, hnone, List.map_append, List.sum_append]
      cases hcorrects : r.corrects a with
      | true => simp [hcorrects]
      | false => simp [hcorrects]

end Reference

end ServiceCall
