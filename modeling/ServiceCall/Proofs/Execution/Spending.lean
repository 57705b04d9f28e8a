import ServiceCall.Proofs.Execution.Bonus
import ServiceCall.Proofs.Execution.Sends
import ServiceCall.Proofs.Execution.Tokens

/-!
# What the tokens were spent on

The standard strategy is paid when it allows a retry, and the budget is looked at after that.  Every
retry that is paid for is therefore scheduled, but for one: if its wait does not fit what is left of
the budget, the call ends there and the tokens stay spent.
-/

namespace ServiceCall

/-- The kinds of failure of the retries that the strategy allowed and that were scheduled, in
order. -/
def Journal.scheduledKinds (j : Journal) : List Kind :=
  (j.retries.filter fun r => !r.bonus).map (·.kind)

@[simp] theorem Journal.scheduledKinds_append (i j : Journal) :
    scheduledKinds (i ++ j) = scheduledKinds i ++ scheduledKinds j := by
  rw [scheduledKinds, retries_append, List.filter_append, List.map_append]
  rfl

theorem Journal.scheduledKinds_of_retries {j : Journal} (hretries : j.retries = []) :
    j.scheduledKinds = [] := by
  rw [scheduledKinds, hretries]
  rfl

namespace Plan

section Strategies

variable {τ σ : Type} {p : Plan τ σ} {left later : Nat} {context reached ruled following : Context}
  {m start after next : Machine τ σ} {before journal scheduling : Journal} {failure : Failure}
  {planned : Delay} {wait : Duration} {bonus : Bool} {s : Setback τ σ}

/-- The strategy allows a retry after a setback, and its wait does not fit what is left of the
budget. -/
def Refuses (p : Plan τ σ) (s : Setback τ σ) : Prop :=
  ∃ planned wait, (p.ruling s).value.1 = .again planned wait false ∧
    Budget.wait wait p.client.defaults.totalTimeout
      (p.elapsed (p.ruling s).machine.world).1 = none

/-- What the strategy allows in a pass is the retry that the pass comes to, unless that is the one
for a wrong clock. -/
theorem Fails.approved_again
    (hfails : p.Fails context m failure ⟨(.again planned wait bonus, ruled), journal, after⟩) :
    journal.approved = if bonus then [] else [failure.kind] := by
  obtain ⟨_, _, attempted, _, noted, _, hattempts, hrules, rfl⟩ := hfails.parts
  have hwants := hrules.wants
  cases hattempts with
  | broken =>
      rw [Journal.approved_append]
      cases hwants with
      | bonus => rfl
      | approved =>
          rw [Journal.approved_append, Journal.approved_corrected]
          rfl

theorem Fails.approved_giveUp {final : Failure}
    (hfails : p.Fails context m failure ⟨(.giveUp final, ruled), journal, after⟩) :
    journal.approved = [] := by
  obtain ⟨_, _, attempted, _, noted, _, hattempts, hrules, rfl⟩ := hfails.parts
  generalize hmade : (⟨(_, _), _, _⟩ : Traced τ σ (Ruling × Context)) = made at hrules
  cases hattempts with
  | broken =>
      rw [Journal.approved_append]
      cases hrules with
      | terminal =>
          cases hmade
          rfl
      | granted => cases hmade
      | judged _ _ _ hjudges =>
          cases hjudges with
          | stopped | denied =>
              cases hmade
              rw [Journal.approved_append, Journal.approved_corrected]
              rfl
          | approved => cases hmade

/-- A retry that is scheduled is the one that the strategy allowed, or the one for a wrong clock. -/
theorem Fails.approved_scheduled
    (hfails : p.Fails context m failure ⟨(.again planned wait bonus, ruled), journal, after⟩)
    (hschedules : p.Schedules ruled failure planned wait bonus after
      ⟨.ok following, scheduling, next⟩) :
    (journal ++ scheduling).approved = (journal ++ scheduling).scheduledKinds := by
  rw [Journal.approved_append, hfails.approved_again, Journal.scheduledKinds_append,
    Journal.scheduledKinds_of_retries hfails.decided.1]
  cases hschedules with
  | scheduled => cases bonus <;> rfl

theorem Reaches.approved (hreaches : p.Reaches left context m before later reached start) :
    before.approved = before.scheduledKinds := by
  induction hreaches with
  | start => rfl
  | again _ hretries ih =>
      obtain ⟨hfails, hschedules, -⟩ := hretries
      rw [Journal.approved_append, Journal.scheduledKinds_append, ih,
        hfails.approved_scheduled hschedules]

/-- A budget that refuses a retry of the strategy refuses it after a setback of the run. -/
theorem Fails.refuses (left : Nat)
    (hfails : p.Fails context m failure ⟨(.again planned wait false, ruled), journal, after⟩)
    (hwait : Budget.wait wait p.client.defaults.totalTimeout
      (p.elapsed after.world).1 = none) :
    ∃ s, p.Meets left context m s ∧ p.Refuses s := by
  obtain ⟨s, hmeets, -, -, -, hruling, rfl, -⟩ := hfails.meets_again left
  exact ⟨s, hmeets, planned, wait, hruling, hwait⟩

end Strategies

variable {σ : Type} {rules : RetryRules} {costs : Costs} {p : Plan Quota σ} {left : Nat}
  {context : Context} {m after : Machine Quota σ} {journal : Journal} {failure : Failure}
  {planned : Delay} {wait : Duration} {ruled : Traced Quota σ (Ruling × Context)}
  {s : Setback Quota σ}

/-- The standard strategy allows a retry by its rules only. -/
theorem Judges.giveUp_or_allows (hstandard : p.client.strategy = Standard.strategy rules costs)
    (hjudges : p.Judges context failure m ruled) :
    (∃ final, ruled.value.1 = .giveUp final) ∨
      rules.allows failure context.info.attempt = true := by
  have hjudged := Standard.judges_judge rules costs failure context.info.attempt m.strategy
  cases hjudges with
  | stopped | denied => exact .inl ⟨_, rfl⟩
  | approved hjudge =>
      rw [hstandard, Standard.judge_strategy] at hjudge
      rw [hjudge] at hjudged
      cases hjudged with
      | paid _ hallows => exact .inr hallows

/-- So it allows none after the last attempt. -/
theorem Fails.attempt_lt {following : Context}
    (hstandard : p.client.strategy = Standard.strategy rules costs)
    (hfails : p.Fails context m failure ⟨(.again planned wait false, following), journal, after⟩) :
    context.info.attempt < rules.limit := by
  obtain ⟨_, _, _, _, _, _, -, hrules, -⟩ := hfails.parts
  generalize hmade : (⟨(_, _), _, _⟩ : Traced Quota σ (Ruling × Context)) = made at hrules
  cases hrules with
  | terminal | granted => cases hmade
  | @judged _ _ ruled _ _ _ hjudges =>
      rcases hjudges.giveUp_or_allows hstandard with ⟨final, hgiveUp⟩ | hallows
      · have hvalue := congrArg (·.value.1) hmade
        cases hvalue.trans hgiveUp
      · rw [RetryRules.allows, Bool.and_eq_true, decide_eq_true_eq] at hallows
        exact hallows.1

/-- Whatever the strategy allows in a run is scheduled, unless the budget refuses it. -/
theorem Stops.spends (hstandard : p.client.strategy = Standard.strategy rules costs)
    (hleft : left + context.info.attempt = context.info.limit)
    (hlimit : context.info.limit = rules.limit) {ran : Traced Quota σ Ending}
    (hstops : p.Stops left context m ran) :
    ran.journal.approved = ran.journal.scheduledKinds ∨
      ∃ s, p.Meets left context m s ∧ p.Refuses s := by
  cases hstops with
  | cancelled => exact .inl rfl
  | ended hopen hattempts =>
      cases hattempts with
      | unbuilt | unsigned | overBudget | interrupted | succeeded => exact .inl rfl
  | refused hfails =>
      refine .inl ?_
      rw [giveUp, Journal.approved_append, hfails.approved_giveUp, Journal.scheduledKinds_append,
        Journal.scheduledKinds_of_retries hfails.decided.1]
      rfl
  | @lastAttempt _ _ _ bonus _ _ _ hzero hfails =>
      cases bonus with
      | false =>
          have hlast := hfails.attempt_lt hstandard
          omega
      | true =>
          refine .inl ?_
          rw [giveUp, Journal.approved_append, hfails.approved_again, Journal.scheduledKinds_append,
            Journal.scheduledKinds_of_retries hfails.decided.1]
          rfl
  | @overBudget _ _ _ _ bonus _ _ _ _ _ hpositive hfails hschedules =>
      cases hschedules with
      | overBudget helapsed hwait =>
          cases bonus with
          | false =>
              refine .inr (hfails.refuses left ?_)
              rw [helapsed]
              exact hwait
          | true =>
              refine .inl ?_
              rw [Journal.approved_append, hfails.approved_again, Journal.scheduledKinds_append,
                Journal.scheduledKinds_of_retries hfails.decided.1]
              rfl
  | interrupted _ hfails hschedules => exact .inl (hfails.approved_scheduled hschedules)

theorem Runs.spends (hstandard : p.client.strategy = Standard.strategy rules costs)
    {ran : Traced Quota σ Ending} (hruns : p.Runs left context m ran)
    (hleft : left + context.info.attempt = context.info.limit)
    (hlimit : context.info.limit = rules.limit) :
    ran.journal.approved = ran.journal.scheduledKinds ∨
      ∃ s, p.Meets left context m s ∧ p.Refuses s := by
  induction hruns with
  | last hstops => exact hstops.spends hstandard hleft hlimit
  | again hretries hrest ih =>
      obtain ⟨hattempt, hkept, -⟩ := hretries.passes
      rcases ih (by omega) (hkept.trans hlimit) with happroved | ⟨s, hmeets, hrefuses⟩
      · refine .inl ?_
        obtain ⟨hfails, hschedules, -⟩ := hretries
        rw [Journal.approved_append, Journal.scheduledKinds_append, happroved,
          hfails.approved_scheduled hschedules]
      · exact .inr ⟨_, hmeets.retry hretries, hrefuses⟩

/-- A call that the budget stops at a retry of the strategy, and the setback before it. -/
structure Forfeits (costs : Costs) (total : Option Duration) (s : Setback Quota σ)
    (ran : Traced Quota σ Ending) : Prop where
  result : ran.value = ⟨.error (Budget.exhausted total), s.context.info.attempt⟩
  approved : ran.journal.approved = ran.journal.scheduledKinds ++ [s.failure.kind]
  pays : costs.Pays s.start.strategy [s.failure.kind] ran.machine.strategy

/-- At a setback whose retry does not fit the budget the run ends, and what was paid for the retry
stays paid. -/
theorem Meets.forfeits (hstandard : p.client.strategy = Standard.strategy rules costs)
    (hleft : left + context.info.attempt = context.info.limit)
    (hlimit : context.info.limit = rules.limit) (hmeets : p.Meets left context m s)
    (hrefuses : p.Refuses s) :
    Forfeits costs p.client.defaults.totalTimeout s (p.run left context m) := by
  obtain ⟨planned, wait, hwants, hwait⟩ := hrefuses
  obtain ⟨before, reached, journal, ruled, hreaches, hfails, -, hcontext, hinfo⟩ :=
    hmeets.fails_again hwants
  have hcount := hreaches.left_add hleft
  have hreached := hreaches.advanced.limit.trans hlimit
  have hlast := hfails.attempt_lt hstandard
  have hpositive : 0 < s.left := by omega
  have hpays := (hfails.charges hstandard).pays
  have happroved : journal.approved = [s.failure.kind] := hfails.approved_again
  have hran := (Stops.overBudget hpositive hfails (.overBudget rfl hwait)).eq_run
  rw [hreaches.run_eq, ← hran]
  refine ⟨?_, ?_, ?_⟩
  · rw [hinfo]
  · rw [Journal.approved_append, Journal.approved_append, Journal.scheduledKinds_append,
      Journal.scheduledKinds_append, happroved, hreaches.approved,
      Journal.scheduledKinds_of_retries hfails.decided.1, List.append_assoc]
    rfl
  · rw [happroved] at hpays
    exact hpays

end Plan

namespace Execution

variable {σ : Type} {rules : RetryRules} {costs : Costs} {client : Client Quota}

/-- The tokens that a failing call has taken from the bucket of a client of the standard strategy.
They are the costs of the retries that the strategy allowed and that were scheduled, as long as the
budget refuses none of its retries.  A retry that does not fit the budget ends the call with the
failure of the budget, and then its own cost is gone on top: the bucket is short of it compared with
the one before that decision. -/
theorem execute_spending (hstandard : client.strategy = Standard.strategy rules costs)
    (env : Environment σ) (call : Call) (id : InvocationId) (m : Machine Quota σ) :
    let e := execute client env call id m
    let made := e.journal.scheduledKinds
    ((∀ p s, Meets client env call id m p s → ¬p.Refuses s) → e.journal.approved = made ∧
      ∀ failure, e.result = .error failure →
        e.machine.strategy.available + (made.map costs.of).sum = m.strategy.available) ∧
    ∀ p s, Meets client env call id m p s → p.Refuses s →
      e.result = .error ((Budget.exhausted client.defaults.totalTimeout).orAttempts
        s.context.info.attempt) ∧
      e.journal.approved = made ++ [s.failure.kind] ∧
      s.start.strategy.available + (made.map costs.of).sum = m.strategy.available ∧
      e.machine.strategy.available + costs.of s.failure.kind = s.start.strategy.available := by
  intro e made
  have hmade : made = (attempts client env call id m).journal.scheduledKinds := by
    rw [Journal.scheduledKinds, ← retries_execute]
    rfl
  have hlimit : (Context.first id (client.strategy.limit m.strategy)).info.limit = rules.limit := by
    rw [hstandard]
    exact Nat.max_eq_right rules.positive
  have hleft := Nat.sub_add_cancel (hlimit.symm ▸ rules.positive)
  have hsettles : Settles costs none m.strategy e.journal.approved e.result e.machine.strategy :=
    settles_execute hstandard env call id m
  rw [show e.journal.approved = _ from approved_execute client env call id m] at hsettles ⊢
  refine ⟨fun hnone => ?_, fun p s hmeets hrefuses => ?_⟩
  · have happroved : (attempts client env call id m).journal.approved = made := by
      rw [hmade]
      rcases attempts_cases client env call id m with
        ⟨failure, -, hran⟩ | ⟨signer, hsigner, hruns⟩
      · rw [hran]
        rfl
      · rcases hruns.spends hstandard hleft hlimit with happroved | ⟨s, hmeets, hrefuses⟩
        · exact happroved
        · exact absurd hrefuses (hnone _ s (.intro hsigner hmeets))
    rw [happroved] at hsettles ⊢
    refine ⟨rfl, fun failure hfailed => ?_⟩
    rw [hsettles.available.1 failure hfailed, Nat.sub_add_cancel hsettles.sum_le]
  · have hforfeits : Plan.Forfeits costs client.defaults.totalTimeout s
        (attempts client env call id m) := by
      rw [hmeets.attempts_eq_run]
      obtain ⟨hsigner, hmeets⟩ := hmeets
      exact hmeets.forfeits hstandard hleft hlimit hrefuses
    have happroved := hforfeits.approved
    have hpaid : e.machine.strategy.available + ([s.failure.kind].map costs.of).sum =
        s.start.strategy.available := hforfeits.pays.paid
    have hresult : e.result = .error ((Budget.exhausted client.defaults.totalTimeout).orAttempts
        s.context.info.attempt) := by
      simp only [e, execute, close, hforfeits.result]
      rfl
    rw [← hmade] at happroved
    have hspent := hsettles.available.1 _ hresult
    have hsum := hsettles.sum_le
    rw [happroved, List.map_append, List.sum_append] at hspent hsum
    rw [List.map_singleton, List.sum_singleton] at hpaid hspent hsum
    exact ⟨hresult, happroved, by omega, hpaid⟩

/-- A busy service is tried three times and both retries are paid for and scheduled.  With a budget
of five seconds the retry that it asks for in five seconds is paid for all the same. -/
theorem execute_spending_plain :
    let patient := Rehearsal.plainClient (Standard.strategy Standard.rules .standard)
    let hurried := { patient with
      defaults := { Defaults.standard with totalTimeout := some (.ofSeconds 5) } }
    let m := Rehearsal.plainMachine .standard
      [.response Rehearsal.busyForFive, .response Rehearsal.busyForFive,
        .response Rehearsal.busyForFive]
    let e (client : Client Quota) :=
      execute client Rehearsal.environment Rehearsal.plainCall .nil m
    ((∀ p s, Meets patient Rehearsal.environment Rehearsal.plainCall .nil m p s → ¬p.Refuses s) ∧
      (e patient).journal.scheduledKinds = [.throttling, .throttling] ∧
      (e patient).machine.strategy.available + 10 = 500) ∧
    ∃ p s, Meets hurried Rehearsal.environment Rehearsal.plainCall .nil m p s ∧ p.Refuses s ∧
      (e hurried).journal.scheduledKinds = [] ∧
      (e hurried).machine.strategy.available + Costs.standard.of s.failure.kind = 500 := by
  intro patient hurried m e
  have hstandard : patient.strategy = Standard.strategy Standard.rules .standard := rfl
  have hpatient : (e patient).journal.scheduledKinds = [.throttling, .throttling] := by
    decide +kernel
  have hhurried : (e hurried).journal.scheduledKinds = [] := by decide +kernel
  have happroved : (e hurried).journal.approved = [.throttling] := by decide +kernel
  have hfails : (e patient).result.isOk = false := by decide +kernel
  have hfits : ∀ p s, Meets patient Rehearsal.environment Rehearsal.plainCall .nil m p s →
      ¬p.Refuses s := by
    rintro _ s ⟨hsigner, hmeets⟩ ⟨planned, wait, -, hwait⟩
    cases hwait
  refine ⟨⟨hfits, hpatient, ?_⟩, ?_⟩
  · obtain ⟨-, hspent⟩ := (execute_spending hstandard Rehearsal.environment Rehearsal.plainCall
      .nil m).1 hfits
    cases hresult : (e patient).result with
    | ok response =>
        rw [hresult] at hfails
        cases hfails
    | error failure =>
        have hspent := hspent failure hresult
        rw [hpatient] at hspent
        dsimp only [e]
        exact hspent
  · have hstandard : hurried.strategy = Standard.strategy Standard.rules .standard := rfl
    obtain ⟨hscheduled, hrefused⟩ :=
      execute_spending hstandard Rehearsal.environment Rehearsal.plainCall .nil m
    have hrefuses : ∃ p s, Meets hurried Rehearsal.environment Rehearsal.plainCall .nil m p s ∧
        p.Refuses s := by
      by_contra hnone
      obtain ⟨hall, -⟩ := hscheduled fun p s hmeets hrefuses => hnone ⟨p, s, hmeets, hrefuses⟩
      rw [happroved, hhurried] at hall
      cases hall
    obtain ⟨p, s, hmeets, hrefuses⟩ := hrefuses
    obtain ⟨-, -, hbefore, hafter⟩ := hrefused p s hmeets hrefuses
    rw [hhurried] at hbefore
    refine ⟨p, s, hmeets, hrefuses, hhurried, ?_⟩
    dsimp only [e]
    exact hafter.trans hbefore

/-- A busy service asks for a wait of five seconds, and the call may take no longer.  The retry is
not scheduled, but its five tokens are gone. -/
theorem unscheduled_retry_paid :
    let client := { Rehearsal.plainClient (Standard.strategy Standard.rules .standard) with
      defaults := { Defaults.standard with totalTimeout := some (.ofSeconds 5) } }
    let m := Rehearsal.plainMachine .standard
      [.response Rehearsal.busyForFive, .response Rehearsal.plainResponse]
    let e := execute client Rehearsal.environment Rehearsal.plainCall .nil m
    e.result.isOk = false ∧ e.journal.retries = [] ∧ e.machine.strategy.available = 495 ∧
      e.machine.strategy.available + (e.journal.scheduledKinds.map Costs.standard.of).sum ≠
        m.strategy.available := by
  decide +kernel

end Execution

end ServiceCall
