import ServiceCall.Execution.Metrics
import ServiceCall.Proofs.Call.Build
import ServiceCall.Proofs.Execution.Setbacks
import ServiceCall.Rehearsal.Plain

/-!
# Attempts are counted once

A run numbers its attempts and reports a number at its end: with a failure the one that was recorded
on it, and otherwise the one of the attempt at hand.  Each way to end a run gets this number right,
because a number is recorded just where the attempt at hand has not started.
-/

namespace ServiceCall

theorem Metrics.attempts_finish (metrics : Metrics) (kind : Option Kind) :
    (metrics.finish kind).attempts = metrics.attempts := by
  cases kind <;> rfl

/-- One entry counts as an attempt if it is a start. -/
theorem Metrics.attempts_count (metrics : Metrics) (entry : Entry) :
    (metrics.count entry).attempts = metrics.attempts + (Journal.starts [entry]).length := by
  cases entry with
  | finished s => exact metrics.attempts_finish s.kind
  | answered a =>
      obtain ⟨reply, _, _⟩ := a
      cases reply <;> rfl
  | judged _ _ verdict => cases verdict <;> rfl
  | entered phase => cases phase <;> rfl
  | began | opened | started | sent | credited | broke | corrected | granted | scheduled => rfl

/-- The counter of attempts goes up by the starts of a journal. -/
theorem Metrics.attempts_record (metrics : Metrics) (j : Journal) :
    (metrics.record true j).attempts = metrics.attempts + j.starts.length := by
  rw [record, if_pos rfl]
  induction j generalizing metrics with
  | nil => rfl
  | cons entry rest ih =>
      have hsplit : Journal.starts (entry :: rest) =
          Journal.starts [entry] ++ Journal.starts rest := Journal.starts_append [entry] rest
      rw [List.foldl_cons, ih, attempts_count, hsplit, List.length_append, Nat.add_assoc]

/-- A signer that is not known is a fault of the configuration. -/
theorem SignerRegistry.configuration_of_resolve {r : SignerRegistry} {name : Option Text}
    {failure : Failure} (hresolve : r.resolve name = .error failure) :
    ∃ fault, failure = .configuration fault := by
  cases name with
  | none => cases hresolve
  | some name =>
      simp only [resolve] at hresolve
      split at hresolve
      · cases hresolve
      · cases hresolve
        exact ⟨_, rfl⟩

namespace Plan

variable {τ σ : Type} {p : Plan τ σ} {left : Nat} {context : Context} {m : Machine τ σ}
  {ran : Traced τ σ Ending} {failure : Failure}

/-- The number of attempts that is reported of a run. -/
def Ending.count (ending : Ending) : Nat :=
  match ending.result with
  | .ok _ => ending.attempt
  | .error failure => failure.attempts.getD ending.attempt

theorem Ending.count_of_uncounted (hnone : failure.attempts = none) (attempt : Nat) :
    (⟨.error failure, attempt⟩ : Ending).count = attempt := by
  change failure.attempts.getD attempt = attempt
  rw [hnone, Option.getD_none]

/-- A resolver or a signer fails with a failure that has a number of attempts on it already, of some
other call. -/
structure Brings (p : Plan τ σ) (failure : Failure) : Prop where
  counted : failure.attempts ≠ none
  source : (∃ turn, p.client.endpoints.resolve turn p.call.operation = .error failure) ∨
    ∃ request time, p.signer.sign request time = .error failure

/-- What a failure that ends an attempt has on it. -/
theorem Attempts.counts {journal : Journal} {after : Machine τ σ}
    (hattempts : p.Attempts context m ⟨.ended (.error failure), journal, after⟩) :
    failure.attempts = none ∨ p.Brings failure := by
  cases hcounted : failure.attempts with
  | none => exact .inl rfl
  | some n =>
      have hcounted : failure.attempts ≠ none := by rw [hcounted]; exact Option.some_ne_none n
      refine .inr ⟨hcounted, ?_⟩
      cases hattempts with
      | unbuilt hbuilt =>
          cases hresolve : p.client.endpoints.resolve m.turn p.call.operation with
          | error earlier =>
              rw [built, hresolve] at hbuilt
              cases hbuilt
              exact .inl ⟨m.turn, hresolve⟩
          | ok endpoint =>
              rw [built, hresolve] at hbuilt
              obtain ⟨fault, rfl⟩ := Call.configuration_of_build hbuilt
              exact absurd rfl hcounted
      | unsigned _ _ hsigned => exact .inr ⟨_, _, hsigned⟩
      | overBudget => exact absurd rfl hcounted
      | interrupted => exact absurd rfl hcounted

/-- A failure that the loop gives up has no number on it. -/
theorem Fails.uncounted {ruling : Ruling} {ruled : Context} {journal : Journal}
    {after : Machine τ σ} (hfails : p.Fails context m failure ⟨(ruling, ruled), journal, after⟩) :
    failure.attempts = none ∧ ∀ final, ruling = .giveUp final → final.attempts = none := by
  obtain ⟨_, _, _, _, _, -, hattempts, hrules, -⟩ := hfails.parts
  obtain ⟨-, hfresh, -⟩ := hattempts.undecided
  refine ⟨hfresh.attempts, ?_⟩
  generalize hmade : (⟨(_, _), _, _⟩ : Traced τ σ (Ruling × Context)) = made at hrules
  cases hrules with
  | terminal =>
      cases hmade
      rintro _ ⟨⟩
      exact hfresh.attempts
  | granted =>
      cases hmade
      rintro _ ⟨⟩
  | judged _ _ _ hjudges =>
      cases hjudges with
      | stopped | denied =>
          cases hmade
          rintro _ ⟨⟩
          exact hfresh.attempts
      | approved =>
          cases hmade
          rintro _ ⟨⟩

/-- A failed pass starts one attempt, with the number of the pass. -/
theorem Fails.length_starts {ruling : Ruling} {ruled : Context} {journal tail : Journal}
    {after : Machine τ σ} (hfails : p.Fails context m failure ⟨(ruling, ruled), journal, after⟩)
    (htail : tail.Silent) :
    ruled.info.attempt + 1 = context.info.attempt + (journal ++ tail).starts.length := by
  obtain ⟨hinfo, -⟩ := hfails.milestones
  obtain ⟨sent, a, hshows⟩ := hfails.shows
  rw [(hshows.append htail).starts, show ruled.info = context.info from hinfo]
  rfl

/-- A last pass reports the attempts before it and the one that it started, if it started one. -/
theorem Stops.counts (hstops : p.Stops left context m ran) (hpositive : 0 < context.info.attempt) :
    (∃ failure, ran.value.result = .error failure ∧ p.Brings failure) ∨
      ran.value.count + 1 = context.info.attempt + ran.journal.starts.length := by
  cases hstops with
  | cancelled => exact .inr (Nat.sub_add_cancel hpositive)
  | @ended result journal after hopen hattempts =>
      have hstarts : journal.starts.length = 1 := by
        cases hattempts with
        | unbuilt | unsigned | overBudget | interrupted | succeeded => rfl
      cases result with
      | ok response => exact .inr (congrArg (context.info.attempt + ·) hstarts.symm)
      | error failure =>
          refine hattempts.counts.symm.imp (fun hbrings => ⟨failure, rfl, hbrings⟩) fun hnone => ?_
          rw [Ending.count_of_uncounted hnone]
          exact congrArg (context.info.attempt + ·) hstarts.symm
  | refused hfails =>
      refine .inr ?_
      rw [giveUp, Ending.count_of_uncounted (hfails.uncounted.2 _ rfl)]
      exact hfails.length_starts ⟨rfl, rfl, rfl⟩
  | lastAttempt _ hfails =>
      refine .inr ?_
      rw [giveUp, Ending.count_of_uncounted hfails.uncounted.1]
      exact hfails.length_starts ⟨rfl, rfl, rfl⟩
  | overBudget _ hfails hschedules =>
      have hstarts := hfails.length_starts hschedules.silent
      cases hschedules with
      | overBudget => exact .inr hstarts
  | interrupted _ hfails hschedules => exact .inr (hfails.length_starts hschedules.silent)

/-- A run reports the attempts that were started before it and in it, unless it brings a number from
elsewhere. -/
theorem Runs.counts (hruns : p.Runs left context m ran) (hpositive : 0 < context.info.attempt) :
    (∃ failure, ran.value.result = .error failure ∧ p.Brings failure) ∨
      ran.value.count + 1 = context.info.attempt + ran.journal.starts.length := by
  induction hruns with
  | last hstops => exact hstops.counts hpositive
  | @again _ context following _ _ journal rest hretries hrest ih =>
      obtain ⟨hattempt, -, -⟩ := hretries.passes
      obtain ⟨sent, a, hshows⟩ := hretries.shows
      refine (ih (by omega)).imp_right fun hcount => ?_
      calc
        rest.value.count + 1 = following.info.attempt + rest.journal.starts.length := hcount
        _ = context.info.attempt + (1 + rest.journal.starts.length) := by
          rw [hattempt, Nat.add_assoc]
        _ = context.info.attempt + (journal ++ rest.journal).starts.length := by
          rw [Journal.starts_append, hshows.starts, List.length_append]
          rfl

/-- A run that succeeds has started an attempt. -/
theorem Runs.starts_of_ok (hruns : p.Runs left context m ran) {response : Http.Response}
    (hok : ran.value.result = .ok response) : 1 ≤ ran.journal.starts.length := by
  cases hruns with
  | last hstops =>
      cases hstops with
      | ended hopen hattempts => cases hattempts <;> exact Nat.le_refl 1
      | cancelled | refused | lastAttempt | overBudget | interrupted => cases hok
  | again hretries hrest =>
      obtain ⟨sent, a, hshows⟩ := hretries.shows
      rw [Journal.starts_append, hshows.starts, List.length_append]
      exact Nat.le_add_right ..

end Plan

theorem Failure.orAttempts_of_counted {failure : Failure} (hcounted : failure.attempts ≠ none)
    (n : Nat) : failure.orAttempts n = failure := by
  obtain ⟨k, hk⟩ := Option.ne_none_iff_exists'.1 hcounted
  rw [orAttempts, hk, Option.getD_some, ← hk]

/-- What decoding a response reports has no number on it. -/
theorem Http.Response.uncounted_of_json {response : Http.Response} {failure : Failure}
    (hjson : response.json = .error failure) : failure.attempts = none := by
  rw [json] at hjson
  split at hjson
  · cases hjson
  · cases hjson
    rfl

namespace Execution

variable {τ σ : Type}

/-- What is reported of a result is what is recorded on it. -/
theorem count_mapError (ending : Plan.Ending) :
    let result := ending.result.mapError (·.orAttempts ending.attempt)
    (summary ending.attempt result).attempts = ending.count ∧
      ∀ failure, result = .error failure → failure.attempts = some ending.count := by
  obtain ⟨result, attempt⟩ := ending
  cases result with
  | ok response =>
      refine ⟨rfl, fun failure hfails => ?_⟩
      cases hfails
  | error failure =>
      refine ⟨rfl, fun reported hfails => ?_⟩
      cases hfails
      rfl

/-- A call that succeeds has started an attempt. -/
theorem starts_of_ok {client : Client τ} {env : Environment σ} {call : Call} {id : InvocationId}
    {m : Machine τ σ} {response : Http.Response}
    (hok : (execute client env call id m).result = .ok response) :
    1 ≤ (execute client env call id m).journal.starts.length := by
  have hran : (attempts client env call id m).value.result = .ok response := by
    rw [execute, close] at hok
    dsimp only at hok
    cases hresult : (attempts client env call id m).value.result with
    | error failure =>
        rw [hresult] at hok
        cases hok
    | ok received =>
        rw [hresult] at hok
        exact hok
  rw [starts_execute]
  rcases attempts_cases client env call id m with ⟨_, -, hfails⟩ | ⟨_, -, hruns⟩
  · rw [hfails] at hran
    cases hran
  · exact hruns.starts_of_ok hran

/-- The reports on an execution agree with each other and with the number of attempts: the one to
an observer at the end, and the one to the caller in a failure. -/
structure Counted (e : Execution τ σ) (n : Nat) : Prop where
  summary : ∃ s, e.journal.getLast? = some (.finished s) ∧ s.attempts = n
  failure : ∀ failure, e.result = .error failure → failure.attempts = some n

theorem counted_execute (client : Client τ) (env : Environment σ) (call : Call)
    (id : InvocationId) (m : Machine τ σ) :
    (execute client env call id m).Counted (attempts client env call id m).value.count := by
  obtain ⟨hsummary, hfailure⟩ := count_mapError (attempts client env call id m).value
  exact ⟨⟨_, List.getLast?_concat, hsummary⟩, hfailure⟩

/-- **Attempts are counted once.**  For every call, client, service and caller, the counter of
attempts goes up by the attempts that start.  With a known signer the summary and the failure tell
the same number, unless a resolver or a signer from outside fails with a number of another call.  An
unknown signer starts nothing and is reported as one attempt, and a response that is not JSON is
reported as none, after one at least. -/
theorem execute_counts (client : Client τ) (env : Environment σ) (call : Call) (id : InvocationId)
    (m : Machine τ σ) :
    let e := execute client env call id m
    let n := e.journal.starts.length
    (∀ metrics : Metrics, (metrics.record true e.journal).attempts = metrics.attempts + n) ∧
      (∀ signer, client.signers.resolve call.signer = .ok signer →
        e.Counted n ∨
          ∃ failure, e.result = .error failure ∧ (plan client env call signer).Brings failure) ∧
      (∀ failure, client.signers.resolve call.signer = .error failure → n = 0 ∧ e.Counted 1) ∧
      ∀ failure, json e = .error failure → e.result = .error failure ∨
        failure.attempts = none ∧ 1 ≤ n := by
  intro e n
  have hcounted := counted_execute client env call id m
  have hstarts : n = (attempts client env call id m).journal.starts.length :=
    congrArg List.length (starts_execute client env call id m)
  refine ⟨fun metrics => metrics.attempts_record e.journal, fun signer hsigner => ?_,
    fun failure hunknown => ?_, fun failure hjson => ?_⟩
  · rcases attempts_cases client env call id m with ⟨_, hfails, -⟩ | ⟨_, hsame, hruns⟩
    · cases hsigner.symm.trans hfails
    · cases hsigner.symm.trans hsame
      rcases hruns.counts Nat.one_pos with ⟨failure, hresult, hbrings⟩ | hcount
      · have hreported : e.result = .error (failure.orAttempts _) :=
          congrArg (Except.mapError _) hresult
        rw [Failure.orAttempts_of_counted hbrings.counted] at hreported
        exact .inr ⟨failure, hreported, hbrings⟩
      · rw [Context.attempt_first, Nat.add_comm 1, Nat.add_right_cancel_iff, ← hstarts] at hcount
        rw [hcount] at hcounted
        exact .inl hcounted
  · rcases attempts_cases client env call id m with ⟨_, hfails, hran⟩ | ⟨_, hsigner, -⟩
    · obtain ⟨fault, rfl⟩ := SignerRegistry.configuration_of_resolve hfails
      rw [hran] at hstarts hcounted
      exact ⟨hstarts, hcounted⟩
    · cases hsigner.symm.trans hunknown
  · cases hresult : e.result with
    | error earlier =>
        rw [json, hresult] at hjson
        exact .inl (congrArg Except.error (Except.error.inj hjson))
    | ok response =>
        rw [json, hresult] at hjson
        exact .inr ⟨Http.Response.uncounted_of_json hjson, starts_of_ok hresult⟩

/-- A call whose second attempt succeeds is reported with two. -/
theorem execute_counts_plain :
    let client := Rehearsal.plainClient (Standard.strategy Standard.rules .standard)
    let m := Rehearsal.plainMachine .standard
      [.response Rehearsal.hourAhead, .response Rehearsal.plainResponse]
    let e := execute client Rehearsal.environment Rehearsal.plainCall .nil m
    e.journal.starts.length = 2 ∧ (Metrics.zero.record true e.journal).attempts = 2 ∧
      e.Counted 2 := by
  intro client m e
  have hstarts : e.journal.starts.length = 2 := by decide +kernel
  have hok : e.result.toOption.isSome = true := by decide +kernel
  obtain ⟨hrecord, hknown, -, -⟩ :=
    execute_counts client Rehearsal.environment Rehearsal.plainCall .nil m
  refine ⟨hstarts, (hrecord Metrics.zero).trans (congrArg (0 + ·) hstarts), ?_⟩
  rw [← hstarts]
  refine (hknown .null rfl).resolve_right ?_
  rintro ⟨failure, hfails, -⟩
  rw [show e.result = .error failure from hfails] at hok
  cases hok

/-- A call for a signer that is not known is reported as one attempt, to the caller and to the
observer, though none starts and the counter does not move; and a response that is not JSON is
reported to the caller as none, though one was made. -/
theorem miscounted_attempts :
    let client := Rehearsal.plainClient (Standard.strategy Standard.rules .standard)
    let unknown := execute client Rehearsal.environment
      (Rehearsal.plainCall.withSigner "nobody".toList) .nil (Rehearsal.plainMachine .standard [])
    let undecodable := execute client Rehearsal.environment Rehearsal.plainCall .nil
      (Rehearsal.plainMachine .standard [.response Rehearsal.plainResponse])
    (unknown.journal = [.began, .finished ⟨1, none, some .configuration⟩] ∧
        unknown.result = .error
          ((Failure.configuration (.unknownSigner "nobody".toList)).withAttempts 1)) ∧
      undecodable.journal.starts.length = 1 ∧
        ∃ failure, json undecodable = .error failure ∧ failure.attemptCount = 0 := by
  intro client unknown undecodable
  have hanswered : undecodable.result.toOption = some Rehearsal.plainResponse := by decide +kernel
  have hbroken : (Rehearsal.plainResponse.json).toOption = none := by decide +kernel
  refine ⟨⟨by decide +kernel, by rfl⟩, by decide +kernel, ?_⟩
  rw [json]
  cases hresult : undecodable.result with
  | error failure =>
      rw [hresult] at hanswered
      cases hanswered
  | ok response =>
      rw [hresult] at hanswered
      cases hanswered
      cases hjson : Rehearsal.plainResponse.json with
      | error failure =>
          refine ⟨failure, hjson, ?_⟩
          rw [Failure.attemptCount, Http.Response.uncounted_of_json hjson]
          rfl
      | ok value =>
          rw [hjson] at hbroken
          cases hbroken

end Execution

end ServiceCall
