import Mathlib.Algebra.Order.BigOperators.Group.List
import Mathlib.Algebra.Order.Group.Nat
import ServiceCall.Proofs.Execution.Timing
import ServiceCall.Proofs.Retry.Backoff
import ServiceCall.Proofs.Retry.BuiltIn

/-!
# The waits of a call

A strategy of the library leaves the choice of a wait to its backoff.  A call schedules at most one
retry for each attempt after the first, and the retry for a wrong clock waits for nothing, so the
maximum of the backoff bounds each wait of a call and, as often as there are attempts to come, all
of them together.
-/

namespace ServiceCall

/-- A retry after a setback waits for nothing if it is the one for a wrong clock, and otherwise as a
backoff says for the failure. -/
structure Backoff.Paces {τ σ : Type} (b : Backoff) (met : Setback τ σ) (r : Scheduled) :
    Prop where
  attempt : r.attempt = met.context.info.attempt
  kind : r.kind = met.failure.kind
  bonus : r.bonus = true → r.wait = .zero
  chosen : r.bonus = false → b.Gives met.failure r.attempt r.wait

theorem Backoff.Paces.le_max {τ σ : Type} {b : Backoff} {met : Setback τ σ} {r : Scheduled}
    (hpaces : b.Paces met r) : r.wait ≤ b.max := by
  cases hbonus : r.bonus with
  | true =>
      rw [hpaces.bonus hbonus]
      exact Nat.zero_le _
  | false => exact (hpaces.chosen hbonus).le_max

namespace Plan

section Count

variable {τ σ : Type} {p : Plan τ σ} {left : Nat} {context : Context} {m : Machine τ σ}
  {ran : Traced τ σ Ending}

theorem Stops.length_retries_le (hstops : p.Stops left context m ran) :
    ran.journal.retries.length ≤ left := by
  cases hstops with
  | cancelled => exact Nat.zero_le _
  | ended hopen hattempts =>
      cases hattempts with
      | unbuilt | unsigned | overBudget | interrupted | succeeded => exact Nat.zero_le _
  | refused hfails | lastAttempt _ hfails =>
      rw [giveUp, Journal.retries_append, hfails.decided.1]
      exact Nat.zero_le _
  | overBudget _ hfails hschedules =>
      rw [Journal.retries_append, hfails.decided.1]
      cases hschedules
      exact Nat.zero_le _
  | interrupted hleft hfails hschedules =>
      obtain ⟨_, _, -, hscheduled⟩ := hfails.looks hleft hschedules
      rw [hscheduled]
      exact hleft

/-- A run schedules no more retries than there are attempts to come. -/
theorem Runs.length_retries_le (hruns : p.Runs left context m ran) :
    ran.journal.retries.length ≤ left := by
  induction hruns with
  | last hstops => exact hstops.length_retries_le
  | again hretries hrest ih =>
      rw [Journal.retries_append, List.length_append, hretries.length_retries, Nat.add_comm]
      exact Nat.succ_le_succ ih

end Count

section Pace

variable {σ : Type} {s : BuiltIn} {p : Plan Quota σ} {left : Nat} {context ruled : Context}
  {m after : Machine Quota σ} {journal : Journal} {failure : Failure}

/-- The wait of every ruling to try again. -/
theorem Rules.gives (hstrategy : p.client.strategy = s.strategy) {signedAt receivedAt : Instant}
    {planned : Delay} {wait : Duration} {bonus : Bool}
    (hrules : p.Rules context failure signedAt receivedAt m
      ⟨(.again planned wait bonus, ruled), journal, after⟩) :
    (bonus = true → wait = .zero) ∧
      (bonus = false → s.rules.backoff.Gives failure context.info.attempt wait) := by
  generalize hmade : (⟨(.again planned wait bonus, ruled), journal, after⟩ :
    Traced Quota σ (Ruling × Context)) = made at hrules
  cases hrules with
  | terminal => cases hmade
  | granted =>
      cases hmade
      exact ⟨fun _ => rfl, nofun⟩
  | judged _ _ _ hjudges =>
      cases hjudges with
      | stopped | denied => cases hmade
      | @approved _ asked _ draw _ _ hdelay =>
          cases hmade
          have hplanned := s.delay_backoff failure context.info.attempt asked
          rw [← hstrategy, hdelay] at hplanned
          refine ⟨nofun, fun _ => ?_⟩
          rw [show planned = _ from hplanned]
          exact s.rules.backoff.gives_resolve _ _ draw

/-- A retry that is scheduled comes after a setback, which it is paced for. -/
theorem Looks.paces (hstrategy : p.client.strategy = s.strategy) {sofar : Journal}
    {elapsed : Duration} {r : Scheduled}
    (hlooks : p.Looks left context m sofar elapsed (some (.scheduled r))) :
    ∃ met, p.Meets left context m met ∧ s.rules.backoff.Paces met r := by
  generalize hgranted : some (Entry.scheduled r) = granted at hlooks
  cases hlooks with
  | send =>
      obtain ⟨_, _, hscheduled⟩ := Option.map_eq_some_iff.1 hgranted.symm
      cases hscheduled
  | @wait met _ _ _ _ _ hmeets hleft hruling =>
      obtain ⟨given, hwait, hscheduled⟩ := Option.map_eq_some_iff.1 hgranted.symm
      cases hscheduled
      obtain rfl := Budget.eq_of_wait_eq_some hwait
      have hrules := rules_rule p met.context met.failure met.signedAt met.receivedAt met.after
      unfold ruling at hruling
      generalize p.rule _ _ _ _ _ = made at hrules hruling
      obtain ⟨⟨_, ruled⟩, noted, next⟩ := made
      cases hruling
      obtain ⟨hbonus, hchosen⟩ := hrules.gives hstrategy
      exact ⟨met, hmeets, rfl, rfl, hbonus, hchosen⟩

end Pace

end Plan

namespace Execution

variable {σ : Type} {s : BuiltIn} {client : Client Quota}

theorem paces_execute (hstrategy : client.strategy = s.strategy) (env : Environment σ)
    (call : Call) (id : InvocationId) (m : Machine Quota σ) :
    ∀ r ∈ (execute client env call id m).journal.retries, ∃ p met,
      Meets client env call id m p met ∧ s.rules.backoff.Paces met r := by
  intro r hr
  rw [retries_execute] at hr
  rcases attempts_cases client env call id m with ⟨failure, -, hran⟩ | ⟨signer, hsigner, hruns⟩
  · rw [hran] at hr
    cases hr
  · obtain ⟨i, hi⟩ := List.getElem?_of_mem hr
    obtain ⟨_, _, hlooks, -⟩ := hruns.looks hi
    obtain ⟨met, hmeets, hpaces⟩ := hlooks.paces hstrategy
    exact ⟨_, met, .intro hsigner hmeets, hpaces⟩

theorem length_retries_execute {τ : Type} (client : Client τ) (env : Environment σ) (call : Call)
    (id : InvocationId) (m : Machine τ σ) :
    (execute client env call id m).journal.retries.length ≤
      client.strategy.limit m.strategy - 1 := by
  rw [retries_execute]
  rcases attempts_cases client env call id m with ⟨failure, -, hran⟩ | ⟨signer, -, hruns⟩
  · rw [hran]
    exact Nat.zero_le _
  · refine Nat.le_trans hruns.length_retries_le ?_
    rw [Context.limit_first]
    omega

/-- Every wait after a failure is within the maximum of the backoff.  It is what the service asks
for, cut to the maximum, whatever the attempt, the jitter and the draw; and if the service asks for
nothing, it is the ceiling, or with jitter no more than the ceiling, which is within the maximum and
never falls with the attempt.  So a call with a strategy of the library waits before each retry for
the maximum at most, and before all of them together for the maximum as often as it has attempts
after the first. -/
theorem execute_delays (hstrategy : client.strategy = s.strategy) (env : Environment σ)
    (call : Call) (id : InvocationId) (m : Machine Quota σ) :
    let e := execute client env call id m
    let longest := s.rules.backoff.max
    (∀ (b : Backoff) failure attempt draw,
      let wait := (b.delay failure attempt).resolve draw
      wait ≤ b.max ∧
        (∀ asked, failure.retryAfter = some asked → wait = min asked b.max) ∧
        (failure.retryAfter = none → wait ≤ b.ceiling attempt ∧
          (b.jitter = .none → wait = b.ceiling attempt))) ∧
      (∀ (b : Backoff) attempt, b.ceiling attempt ≤ b.max ∧
        ∀ later, attempt ≤ later → b.ceiling attempt ≤ b.ceiling later) ∧
      (∀ r ∈ e.journal.retries, r.wait ≤ longest ∧
        ∃ p met, Meets client env call id m p met ∧ s.rules.backoff.Paces met r) ∧
      (e.journal.retries.map (·.wait.nanos)).sum ≤ (s.rules.limit - 1) * longest.nanos := by
  intro e longest
  have hpaces := paces_execute hstrategy env call id m
  have hlongest : ∀ r ∈ e.journal.retries, r.wait ≤ longest := by
    intro r hr
    obtain ⟨_, _, -, hpaces⟩ := hpaces r hr
    exact hpaces.le_max
  have hcount : e.journal.retries.length ≤ s.rules.limit - 1 := by
    have hlength := length_retries_execute client env call id m
    rwa [hstrategy, s.limit_strategy] at hlength
  refine ⟨fun b failure attempt draw => ?_, fun b attempt => ?_, fun r hr => ?_, ?_⟩
  · have hgives := b.gives_resolve failure attempt draw
    exact ⟨hgives.le_max, fun _ hasked => hgives.eq_min hasked, hgives.le_ceiling⟩
  · exact ⟨b.ceiling_le_max attempt, fun later hle => b.ceiling_mono hle⟩
  · exact ⟨hlongest r hr, hpaces r hr⟩
  · have hbound : ∀ nanos ∈ e.journal.retries.map (·.wait.nanos), nanos ≤ longest.nanos := by
      intro nanos hnanos
      obtain ⟨r, hr, rfl⟩ := List.mem_map.1 hnanos
      exact hlongest r hr
    calc (e.journal.retries.map (·.wait.nanos)).sum
      _ ≤ (e.journal.retries.map (·.wait.nanos)).length * longest.nanos :=
          List.sum_le_card_nsmul _ _ hbound
      _ ≤ (s.rules.limit - 1) * longest.nanos := by
          rw [List.length_map]
          exact Nat.mul_le_mul_right _ hcount

/-- A service whose clock is an hour ahead is busy too and asks for five seconds.  The retry for the
clock waits for nothing and the next one for the five seconds. -/
theorem execute_delays_plain :
    let client := Rehearsal.plainClient (BuiltIn.standard Standard.rules .standard).strategy
    let replies := [.response Rehearsal.hourAhead, .response Rehearsal.busyForFive,
      .response Rehearsal.plainResponse]
    let e := execute client Rehearsal.environment Rehearsal.plainCall .nil
      (Rehearsal.plainMachine .standard replies)
    client.strategy = (BuiltIn.standard Standard.rules .standard).strategy ∧
      e.journal.retries.map (·.wait) = [.zero, .ofSeconds 5] ∧
      (e.journal.retries.map (·.wait.nanos)).sum ≤ 2 * Backoff.standardMax.nanos := by
  intro client replies e
  have hstrategy : client.strategy = (BuiltIn.standard Standard.rules .standard).strategy := rfl
  have hwaits : e.journal.retries.map (·.wait) = [.zero, .ofSeconds 5] := by decide +kernel
  obtain ⟨-, -, -, hsum⟩ := execute_delays hstrategy Rehearsal.environment Rehearsal.plainCall .nil
    (Rehearsal.plainMachine .standard replies)
  exact ⟨hstrategy, hwaits, hsum⟩

end Execution

end ServiceCall
