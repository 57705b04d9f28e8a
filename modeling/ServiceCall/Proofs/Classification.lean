import ServiceCall.Proofs.Retry.BuiltIn
import ServiceCall.Proofs.Skew.Corrector
import ServiceCall.Rehearsal.Plain

/-!
# Failures of responses

Whether a response is a failure is a matter of its status.  The kind of the failure follows from the
service's own code if that is known, and else from the status.  No failure of a response can both be
retried and come from a wrong clock, so a strategy of the library stops at every failure that
corrects the clock.
-/

namespace ServiceCall

/-- A response has no code, or one that tells neither of a wrong clock nor of throttling. -/
def Classifier.Ignores (c : Classifier) (code : Option Text) : Prop :=
  ∀ s ∈ code, c.isClockSkew s = false ∧ c.isThrottling s = false

/-- The rules for the kind of a failed response.  Each leaves out the cases of those above it. -/
inductive Kind.Follows (c : Classifier) (status : Status) : Option Text → Kind → Prop where
  | clockCode {s : Text} (hclock : c.isClockSkew s = true) :
      Follows c status (some s) .signatureOrClockSkew
  | busyCode {s : Text} (hclock : c.isClockSkew s = false) (hbusy : c.isThrottling s = true) :
      Follows c status (some s) .throttling
  | busy {code : Option Text} (hcode : c.Ignores code) (hstatus : status.code ∈ [429, 503, 509]) :
      Follows c status code .throttling
  | refused {code : Option Text} (hcode : c.Ignores code) (hstatus : status.code ∈ [401, 403]) :
      Follows c status code .signatureOrClockSkew
  | broken {code : Option Text} (hcode : c.Ignores code) (hbusy : status.code ∉ [503, 509])
      (hlower : 500 ≤ status.code) (hupper : status.code ≤ 599) :
      Follows c status code .serverFault
  | other {code : Option Text} (hcode : c.Ignores code)
      (hstatus : status.code ∉ [429, 401, 403])
      (hrange : ¬(500 ≤ status.code ∧ status.code ≤ 599)) :
      Follows c status code .clientFault

namespace Kind

variable {c : Classifier} {status : Status} {code : Option Text}

theorem follows_ofStatus (hcode : c.Ignores code) : Follows c status code (ofStatus status) := by
  rw [ofStatus]
  split
  · exact .busy hcode (by simpa using ‹_›)
  split
  · exact .refused hcode (by simpa using ‹_›)
  split
  · exact .broken hcode (by simp; omega) (by omega) (by omega)
  · exact .other hcode (by simp; omega) (by omega)

/-- Classification goes by the rules. -/
theorem follows_classify : Follows c status code (classify c status code) := by
  cases code with
  | none => exact follows_ofStatus fun s hs => by cases hs
  | some s =>
      rw [classify]
      split
      · exact .clockCode ‹_›
      · rename_i hclock
        split
        · exact .busyCode (Bool.eq_false_iff.2 hclock) ‹_›
        · rename_i hbusy
          refine follows_ofStatus fun s' hs => ?_
          obtain rfl := Option.mem_some.1 hs
          exact ⟨Bool.eq_false_iff.2 hclock, Bool.eq_false_iff.2 hbusy⟩

/-- The kinds for which a service is waited for are those that may be retried, among the kinds of
failed responses. -/
theorem Follows.isRetryable_eq {kind : Kind} (hfollows : Follows c status code kind) :
    kind.isRetryable = kind.heedsRetryAfter := by
  cases hfollows with
  | clockCode | busyCode | busy | refused | broken | other => rfl

end Kind

/-- What the failure of a response says: all that the response said, and what follows from it. -/
structure Failure.StandsFor (f : Failure) (c : Classifier) (response : Http.Response)
    (now : Instant) : Prop where
  status : f.status = some response.status
  fields : f.fields = some response.fields
  code : f.serviceCode = c.serviceCode? response.status response.fields response.body
  kind : Kind.Follows c response.status f.serviceCode f.kind
  retryable : f.retryable = true ↔ f.kind = .throttling ∨ f.kind = .serverFault
  retryAfter : f.retryAfter = if f.retryable then response.fields.retryAfter? now else none
  exclusive : f.retryable = true → f.isSkewCandidate = false

theorem Failure.standsFor_ofResponse (c : Classifier) (response : Http.Response) (now : Instant) :
    (ofResponse c response now).StandsFor c response now := by
  have hkind : Kind.Follows c response.status (ofResponse c response now).serviceCode
      (ofResponse c response now).kind := Kind.follows_classify
  have hretryable : (ofResponse c response now).retryable =
      (ofResponse c response now).kind.heedsRetryAfter := hkind.isRetryable_eq
  refine ⟨rfl, rfl, rfl, hkind, ?_, ?_, ?_⟩
  · rw [hretryable]
    cases (ofResponse c response now).kind <;> decide
  · rw [hretryable]
    rfl
  · rw [hretryable, isSkewCandidate]
    cases (ofResponse c response now).kind <;> simp [Kind.heedsRetryAfter]

/-- A failure that may not be retried is stopped at, and nothing is paid for it. -/
theorem BuiltIn.judge_of_not_retryable (s : BuiltIn) {failure : Failure}
    (hretryable : failure.retryable = false) (attempt : Nat) (quota : Quota) :
    s.strategy.judge failure attempt quota = (.stop, quota) := by
  have hallows : s.rules.allows failure attempt = false := by
    rw [RetryRules.allows, hretryable, Bool.and_false]
  have hjudges := s.judges_judge failure attempt quota
  generalize s.strategy.judge failure attempt quota = judged at hjudges ⊢
  obtain ⟨verdict, rest⟩ := judged
  cases hjudges with
  | stopped => rfl
  | denied hallowed | paid _ hallowed => cases hallows.symm.trans hallowed

/-- A failure that cannot come from a wrong clock corrects nothing. -/
theorem Corrector.observe_of_not_candidate (c : Corrector) (state : SkewState) {failure : Failure}
    (hcandidate : failure.isSkewCandidate = false) (signedAt receivedAt : Instant) :
    c.observe state failure signedAt receivedAt = (none, state) := by
  refine observe_of_unmeasured state receivedAt ?_
  rw [measured?, if_neg]
  rw [hcandidate]
  exact fun hboth => Bool.false_ne_true hboth.2

/-- **Classification.**  A response of a status outside of 400 to 599 is passed on.  Any other
stands for a failure that keeps what the response said, whose kind follows from the rules in their
order, and which may be retried just if it is throttling or a fault of the server.  Whatever the
corrector and the strategy of the library: where the failure corrects the clock the strategy stops,
and where the strategy grants or denies a retry the clock stays. -/
theorem classify_response (c : Classifier) (response : Http.Response) (now : Instant) :
    (response.status.code < 400 ∨ 599 < response.status.code →
        classify c response now = .ok response) ∧
      (400 ≤ response.status.code → response.status.code ≤ 599 →
        ∃ failure, classify c response now = .error failure ∧ failure.StandsFor c response now ∧
          ∀ (corrector : Corrector) (skew : SkewState) (signedAt receivedAt : Instant)
            (s : BuiltIn) (attempt : Nat) (quota : Quota),
            let observed := corrector.observe skew failure signedAt receivedAt
            let judged := s.strategy.judge failure attempt quota
            (observed.1 ≠ none → judged = (.stop, quota)) ∧
              (judged.1 ≠ .stop → observed = (none, skew))) := by
  refine ⟨fun houtside => ?_, fun hlower hupper => ?_⟩
  · have hpassed : response.status.isFailure = false := by
      rw [Status.isFailure, Bool.and_eq_false_iff, decide_eq_false_iff_not,
        decide_eq_false_iff_not]
      omega
    rw [classify, hpassed]
    rfl
  · have hfailed : response.status.isFailure = true := by
      rw [Status.isFailure, Bool.and_eq_true, decide_eq_true_eq, decide_eq_true_eq]
      omega
    have hstands := Failure.standsFor_ofResponse c response now
    refine ⟨.ofResponse c response now, by rw [classify, hfailed]; rfl, hstands, ?_⟩
    intro corrector skew signedAt receivedAt s attempt quota observed judged
    cases hretryable : (Failure.ofResponse c response now).retryable with
    | false =>
        have hstop : judged = (.stop, quota) := s.judge_of_not_retryable hretryable attempt quota
        exact ⟨fun _ => hstop, fun hgoes => absurd (congrArg Prod.fst hstop) hgoes⟩
    | true =>
        have hstays : observed = (none, skew) :=
          corrector.observe_of_not_candidate skew (hstands.exclusive hretryable) _ _
        exact ⟨fun hcorrects => absurd (congrArg Prod.fst hstays) hcorrects, fun _ => hstays⟩

/-- A busy service answers with a code that is in both lists: the clock comes first, so the answer
is not retried and its wish to wait is not heeded. -/
theorem classify_response_both :
    let c := CodeTable.classifier ⟨.errorCode, ["Busy".toList], ["Busy".toList]⟩
    let fields := (Rehearsal.only .errorCode "Busy".toList (by decide +kernel)).append .retryAfter
      (.ofVisible "5".toList (by decide))
    ∃ failure, classify c ⟨⟨503, by decide, by decide⟩, fields, []⟩ .epoch = .error failure ∧
      failure.kind = .signatureOrClockSkew ∧ failure.retryAfter = none := by
  intro c fields
  obtain ⟨-, hfails⟩ := classify_response c ⟨⟨503, by decide, by decide⟩, fields, []⟩ .epoch
  obtain ⟨failure, hclassify, hstands, -⟩ := hfails (by decide) (by decide)
  have hcode : failure.serviceCode = some "Busy".toList := hstands.code.trans (by decide +kernel)
  have hknown : c.isClockSkew "Busy".toList = true := by decide +kernel
  have hkind : failure.kind = .signatureOrClockSkew := by
    have hfollows := hstands.kind
    rw [hcode] at hfollows
    generalize failure.kind = kind at hfollows ⊢
    cases hfollows with
    | clockCode | refused => rfl
    | busyCode hclock => cases hclock.symm.trans hknown
    | busy hcode | broken hcode | other hcode => cases (hcode _ rfl).1.symm.trans hknown
  have hretryable : ¬failure.retryable = true := by
    rw [hstands.retryable, hkind]
    decide
  exact ⟨failure, hclassify, hkind, hstands.retryAfter.trans (if_neg hretryable)⟩

end ServiceCall
