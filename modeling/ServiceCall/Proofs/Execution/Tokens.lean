import ServiceCall.Proofs.Execution.Runs
import ServiceCall.Proofs.Execution.Views
import ServiceCall.Proofs.Retry.Quota
import ServiceCall.Rehearsal.Plain

/-!
# The tokens of one call

A call on a client of the standard strategy pays for every retry that the strategy allows, in the
order in which they are allowed.  Only a success gives tokens back, and then for one kind: that of
the last retry paid for.  The context carries this kind from pass to pass, so what a pass proves of
its context is that it holds the last kind paid for.
-/

namespace ServiceCall

/-- The kind of the last retry paid for, when a call began with one kind and paid for others. -/
def lastPaid (retried : Option Kind) (kinds : List Kind) : Option Kind := kinds.getLast?.or retried

theorem lastPaid_append (retried : Option Kind) (kinds later : List Kind) :
    lastPaid retried (kinds ++ later) = lastPaid (lastPaid retried kinds) later := by
  rw [lastPaid, lastPaid, lastPaid, List.getLast?_append, Option.or_assoc]

/-- What a bucket comes to by the result of a call that paid for retries of these kinds. -/
inductive Settles (costs : Costs) (retried : Option Kind) (before : Quota) (kinds : List Kind) :
    Except Failure Http.Response → Quota → Prop where
  | failed {failure : Failure} {after : Quota} (hpays : costs.Pays before kinds after) :
      Settles costs retried before kinds (.error failure) after
  | succeeded {response : Http.Response} {rest : Quota} (hpays : costs.Pays before kinds rest) :
      Settles costs retried before kinds (.ok response)
        (rest.release (costs.credit (lastPaid retried kinds)))

/-- The credit of a success never exceeds what was paid, so it always finds room. -/
theorem Costs.Pays.available_release {costs : Costs} {before rest : Quota} {kinds : List Kind}
    {last : Kind} (hpays : costs.Pays before kinds rest) (hlast : kinds.getLast? = some last) :
    (rest.release (costs.of last)).available =
        before.available - (kinds.map costs.of).sum + costs.of last ∧
      costs.of last ≤ (kinds.map costs.of).sum := by
  obtain ⟨earlier, rfl⟩ := List.getLast?_eq_some_iff.1 hlast
  have hsum : ((earlier ++ [last]).map costs.of).sum =
      (earlier.map costs.of).sum + costs.of last := by
    rw [List.map_append, List.sum_append, List.map_singleton, List.sum_singleton]
  have hpaid := hpays.paid
  have hcapacity := hpays.capacity
  have hbounded := before.bounded
  rw [Quota.available_release]
  omega

namespace Settles

variable {costs : Costs} {retried : Option Kind} {before between after : Quota}
  {kinds later : List Kind} {result : Except Failure Http.Response}

/-- Payments made before come first. -/
theorem prepend (hpays : costs.Pays before kinds between)
    (hsettles : Settles costs (lastPaid retried kinds) between later result after) :
    Settles costs retried before (kinds ++ later) result after := by
  cases hsettles with
  | failed hlater => exact .failed (hpays.append hlater)
  | succeeded hlater =>
      rw [← lastPaid_append]
      exact .succeeded (hpays.append hlater)

/-- What is recorded on a failure has no part in the bucket. -/
theorem mapError (hsettles : Settles costs retried before kinds result after)
    (record : Failure → Failure) :
    Settles costs retried before kinds (result.mapError record) after := by
  cases hsettles with
  | failed hpays => exact .failed hpays
  | succeeded hpays => exact .succeeded hpays

/-- A settled bucket in numbers. -/
theorem available (hsettles : Settles costs none before kinds result after) :
    (∀ failure, result = .error failure →
      after.available = before.available - (kinds.map costs.of).sum) ∧
    (∀ response last, result = .ok response → kinds.getLast? = some last →
      after.available = before.available - (kinds.map costs.of).sum + costs.of last) ∧
    (∀ response, result = .ok response → kinds = [] →
      after.available = min before.capacity (before.available + costs.noRetryIncrement)) := by
  cases hsettles with
  | failed hpays => exact ⟨fun _ _ => hpays.available_eq, nofun, nofun⟩
  | succeeded hpays =>
      refine ⟨?_, ?_, ?_⟩
      · intro _ hfailed
        cases hfailed
      · intro _ last _ hlast
        rw [lastPaid, hlast]
        exact (hpays.available_release hlast).1
      · intro _ _ hnone
        have hpaid := hpays.available_eq
        rw [hnone] at hpaid ⊢
        rw [Quota.available_release, hpaid, hpays.capacity, Nat.min_comm]
        rfl

theorem capacity (hsettles : Settles costs retried before kinds result after) :
    after.capacity = before.capacity := by
  cases hsettles with
  | failed hpays => exact hpays.capacity
  | succeeded hpays => exact hpays.capacity

theorem sum_le (hsettles : Settles costs retried before kinds result after) :
    (kinds.map costs.of).sum ≤ before.available := by
  cases hsettles with
  | failed hpays | succeeded hpays => exact hpays.sum_le

/-- Whoever paid for a retry does not gain. -/
theorem available_le (hsettles : Settles costs retried before kinds result after)
    (hkinds : kinds ≠ []) : after.available ≤ before.available := by
  cases hsettles with
  | failed hpays =>
      rw [hpays.available_eq]
      exact Nat.sub_le _ _
  | succeeded hpays =>
      obtain ⟨last, hlast⟩ := Option.isSome_iff_exists.1 (List.getLast?_isSome.2 hkinds)
      obtain ⟨hrefund, hcost⟩ := hpays.available_release hlast
      rw [lastPaid, hlast]
      calc
        _ = before.available - (kinds.map costs.of).sum + costs.of last := hrefund
        _ ≤ before.available - (kinds.map costs.of).sum + (kinds.map costs.of).sum :=
          Nat.add_le_add_left hcost _
        _ = before.available := Nat.sub_add_cancel hpays.sum_le

end Settles

namespace Plan

variable {σ : Type} {rules : RetryRules} {costs : Costs} {p : Plan Quota σ} {context : Context}
  {m : Machine Quota σ}

/-- An attempt that ends pays for nothing, and only its success puts tokens back. -/
theorem Attempts.settles (hstandard : p.client.strategy = Standard.strategy rules costs)
    {result : Except Failure Http.Response} {journal : Journal} {after : Machine Quota σ}
    (hattempts : p.Attempts context m ⟨.ended result, journal, after⟩) :
    journal.approved = [] ∧
      Settles costs context.retriedKind m.strategy [] result after.strategy := by
  cases hattempts with
  | unbuilt | unsigned | overBudget | interrupted => exact ⟨rfl, .failed (.refl costs _)⟩
  | succeeded hhears houtcome =>
      refine ⟨rfl, ?_⟩
      rw [hstandard, Standard.credit_strategy]
      exact .succeeded (.refl costs _)

theorem Attempts.strategy_broken {failure : Failure} {signedAt receivedAt : Instant}
    {journal : Journal} {after : Machine Quota σ}
    (hattempts : p.Attempts context m ⟨.broken failure signedAt receivedAt, journal, after⟩) :
    journal.approved = [] ∧ after.strategy = m.strategy := by
  cases hattempts with
  | broken hhears houtcome => exact ⟨rfl, rfl⟩

/-- A step pays for the retries that its journal approves, and the context after it holds the last
kind paid for. -/
structure Charges (costs : Costs) (context : Context) (before : Quota) (journal : Journal)
    (following : Context) (after : Quota) : Prop where
  pays : costs.Pays before journal.approved after
  retriedKind : following.retriedKind = lastPaid context.retriedKind journal.approved

/-- Entries that approve nothing may stand before. -/
theorem Charges.prepend {before after : Quota} {quiet journal : Journal} {following : Context}
    (hquiet : quiet.approved = [])
    (hcharges : Charges costs context before journal following after) :
    Charges costs context before (quiet ++ journal) following after where
  pays := by
    rw [Journal.approved_append, hquiet]
    exact hcharges.pays
  retriedKind := by
    rw [Journal.approved_append, hquiet]
    exact hcharges.retriedKind

/-- They may stand behind, too. -/
theorem Charges.append {before after : Quota} {quiet journal : Journal} {following : Context}
    (hcharges : Charges costs context before journal following after)
    (hquiet : quiet.approved = []) :
    Charges costs context before (journal ++ quiet) following after where
  pays := by
    rw [Journal.approved_append, hquiet, List.append_nil]
    exact hcharges.pays
  retriedKind := by
    rw [Journal.approved_append, hquiet, List.append_nil]
    exact hcharges.retriedKind

theorem Judges.charges (hstandard : p.client.strategy = Standard.strategy rules costs)
    {failure : Failure} {ruled : Traced Quota σ (Ruling × Context)}
    (hjudges : p.Judges context failure m ruled) :
    Charges costs context m.strategy ruled.journal ruled.value.2 ruled.machine.strategy := by
  have hjudged := Standard.judges_judge rules costs failure context.info.attempt m.strategy
  cases hjudges with
  | stopped hjudge =>
      rw [hstandard, Standard.judge_strategy] at hjudge
      rw [hjudge] at hjudged
      cases hjudged with
      | stopped => exact ⟨.refl costs _, rfl⟩
  | denied hjudge =>
      rw [hstandard, Standard.judge_strategy] at hjudge
      rw [hjudge] at hjudged
      cases hjudged with
      | denied => exact ⟨.refl costs _, rfl⟩
  | approved hjudge hdelay hdrawn =>
      rw [hstandard, Standard.judge_strategy] at hjudge
      rw [hstandard, Standard.delay_strategy] at hdelay
      rw [hjudge] at hjudged
      obtain ⟨-, rfl⟩ := Prod.mk.inj hdelay
      cases hjudged with
      | paid _ hallows hpays => exact ⟨hpays, rfl⟩

theorem Rules.charges (hstandard : p.client.strategy = Standard.strategy rules costs)
    {failure : Failure} {signedAt receivedAt : Instant} {ruled : Traced Quota σ (Ruling × Context)}
    (hrules : p.Rules context failure signedAt receivedAt m ruled) :
    Charges costs context m.strategy ruled.journal ruled.value.2 ruled.machine.strategy := by
  cases hrules with
  | terminal | granted => exact ⟨.refl costs _, rfl⟩
  | judged hterminal hobserve hplain hjudges =>
      exact (hjudges.charges hstandard).prepend (Journal.approved_corrected _)

theorem Fails.charges (hstandard : p.client.strategy = Standard.strategy rules costs)
    {failure : Failure} {ruled : Traced Quota σ (Ruling × Context)}
    (hfails : p.Fails context m failure ruled) :
    Charges costs context m.strategy ruled.journal ruled.value.2 ruled.machine.strategy := by
  obtain ⟨hopen, hattempts, hrules⟩ := hfails
  obtain ⟨happroved, hstrategy⟩ := hattempts.strategy_broken
  have hcharges := hrules.charges hstandard
  rw [hstrategy] at hcharges
  exact Charges.prepend happroved ⟨hcharges.pays, hcharges.retriedKind⟩

/-- Scheduling has no part in the bucket. -/
theorem Schedules.strategy {failure : Failure} {planned : Delay} {wait : Duration} {bonus : Bool}
    {scheduled : Traced Quota σ (Except Failure Context)}
    (hschedules : p.Schedules context failure planned wait bonus m scheduled) :
    scheduled.journal.approved = [] ∧ scheduled.machine.strategy = m.strategy := by
  cases hschedules with
  | overBudget | scheduled => exact ⟨rfl, rfl⟩

/-- What a failed pass was charged stands when the call ends with a failure after it. -/
theorem Fails.settles (hstandard : p.client.strategy = Standard.strategy rules costs)
    {failure final : Failure} {ruled : Traced Quota σ (Ruling × Context)}
    (hfails : p.Fails context m failure ruled) {tail : Journal} (htail : tail.approved = []) :
    Settles costs context.retriedKind m.strategy (ruled.journal ++ tail).approved (.error final)
      ruled.machine.strategy := by
  rw [Journal.approved_append, htail, List.append_nil]
  exact .failed (hfails.charges hstandard).pays

theorem Retries.charges (hstandard : p.client.strategy = Standard.strategy rules costs)
    {retried : Traced Quota σ Context} (hretries : p.Retries context m retried) :
    Charges costs context m.strategy retried.journal retried.value retried.machine.strategy := by
  cases hretries with
  | intro hfails hschedules hpause =>
      have hcharges := hfails.charges hstandard
      cases hschedules with
      | scheduled => exact Charges.append ⟨hcharges.pays, hcharges.retriedKind⟩ rfl

theorem Stops.settles (hstandard : p.client.strategy = Standard.strategy rules costs)
    {left : Nat} {ran : Traced Quota σ Ending} (hstops : p.Stops left context m ran) :
    Settles costs context.retriedKind m.strategy ran.journal.approved ran.value.result
      ran.machine.strategy := by
  cases hstops with
  | cancelled => exact .failed (.refl costs _)
  | ended hopen hattempts =>
      obtain ⟨happroved, hsettles⟩ := hattempts.settles hstandard
      rw [Journal.approved_opened, happroved]
      exact hsettles
  | refused hfails | lastAttempt hleft hfails => exact hfails.settles hstandard rfl
  | overBudget hleft hfails hschedules | interrupted hleft hfails hschedules hpause =>
      obtain ⟨happroved, hstrategy⟩ := hschedules.strategy
      rw [show Machine.strategy _ = _ from hstrategy]
      exact hfails.settles hstandard happroved

/-- The bucket after a run, by its result. -/
theorem Runs.settles (hstandard : p.client.strategy = Standard.strategy rules costs)
    {left : Nat} {ran : Traced Quota σ Ending} (hruns : p.Runs left context m ran) :
    Settles costs context.retriedKind m.strategy ran.journal.approved ran.value.result
      ran.machine.strategy := by
  induction hruns with
  | last hstops => exact hstops.settles hstandard
  | again hretries hrest ih =>
      obtain ⟨hpays, hretried⟩ := hretries.charges hstandard
      rw [show Context.retriedKind _ = _ from hretried] at ih
      rw [Journal.approved_append]
      exact ih.prepend hpays

end Plan

namespace Execution

variable {σ : Type} {rules : RetryRules} {costs : Costs} {client : Client Quota}

theorem approved_execute {τ : Type} (client : Client τ) (env : Environment σ) (call : Call)
    (id : InvocationId) (m : Machine τ σ) :
    (execute client env call id m).journal.approved =
      (attempts client env call id m).journal.approved :=
  filterMap_execute rfl (fun _ => rfl) client env call id m

theorem settles_attempts (hstandard : client.strategy = Standard.strategy rules costs)
    (env : Environment σ) (call : Call) (id : InvocationId) (m : Machine Quota σ) :
    let ran := attempts client env call id m
    Settles costs none m.strategy ran.journal.approved ran.value.result ran.machine.strategy := by
  intro ran
  rcases attempts_cases client env call id m with ⟨failure, -, hran⟩ | ⟨signer, -, hruns⟩
  · rw [show ran = _ from hran]
    exact .failed (.refl costs _)
  · exact hruns.settles hstandard

theorem settles_execute (hstandard : client.strategy = Standard.strategy rules costs)
    (env : Environment σ) (call : Call) (id : InvocationId) (m : Machine Quota σ) :
    let e := execute client env call id m
    Settles costs none m.strategy e.journal.approved e.result e.machine.strategy := by
  intro e
  rw [approved_execute]
  exact (settles_attempts hstandard env call id m).mapError _

/-- The bucket of a client of the standard strategy after any call.  With the kinds for which the
strategy allowed a retry, in order, a failure leaves what their costs left; a success puts the cost
of the last of them back, or the small increment if there was none. -/
theorem execute_tokens (hstandard : client.strategy = Standard.strategy rules costs)
    (env : Environment σ) (call : Call) (id : InvocationId) (m : Machine Quota σ) :
    let e := execute client env call id m
    let kinds := e.journal.approved
    let spent := (kinds.map costs.of).sum
    spent ≤ m.strategy.available ∧
      e.machine.strategy.capacity = m.strategy.capacity ∧
      (∀ failure, e.result = .error failure →
        e.machine.strategy.available = m.strategy.available - spent) ∧
      (∀ response last, e.result = .ok response → kinds.getLast? = some last →
        e.machine.strategy.available = m.strategy.available - spent + costs.of last) ∧
      (∀ response, e.result = .ok response → kinds = [] →
        e.machine.strategy.available =
          min m.strategy.capacity (m.strategy.available + costs.noRetryIncrement)) ∧
      (kinds ≠ [] → e.machine.strategy.available ≤ m.strategy.available) := by
  intro e kinds spent
  have hsettles := settles_execute hstandard env call id m
  obtain ⟨herror, hlast, hnone⟩ := hsettles.available
  exact ⟨hsettles.sum_le, hsettles.capacity, herror, hlast, hnone, hsettles.available_le⟩

/-- A timeout and a refused connection are paid for, and the success gives the second one back. -/
theorem execute_tokens_plain :
    let client := Rehearsal.plainClient (Standard.strategy Standard.rules .standard)
    let replies := [.broken .timeout [], .broken .connect [], .response Rehearsal.plainResponse]
    let e := execute client Rehearsal.environment Rehearsal.plainCall .nil
      (Rehearsal.plainMachine .standard replies)
    client.strategy = Standard.strategy Standard.rules .standard ∧
      e.journal.approved = [.requestTimeout, .networkConnection] ∧
      e.machine.strategy.available = 500 - (10 + 5) + 5 := by
  intro client replies e
  have hkinds : e.journal.approved = [.requestTimeout, .networkConnection] := by decide +kernel
  have hok : e.result.isOk = true := by decide +kernel
  obtain ⟨response, hresult⟩ : ∃ response, e.result = .ok response := by
    cases hresult : e.result with
    | ok response => exact ⟨response, rfl⟩
    | error failure => rw [hresult] at hok; cases hok
  have hlast : e.journal.approved.getLast? = some .networkConnection := by rw [hkinds]; rfl
  have hstandard : client.strategy = Standard.strategy Standard.rules .standard := rfl
  obtain ⟨-, -, -, hbalance, -⟩ := execute_tokens hstandard Rehearsal.environment
    Rehearsal.plainCall .nil (Rehearsal.plainMachine .standard replies)
  have havailable := hbalance response _ hresult hlast
  rw [hkinds] at havailable
  exact ⟨hstandard, hkinds, havailable⟩

end Execution

end ServiceCall
