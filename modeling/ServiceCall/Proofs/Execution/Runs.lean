import ServiceCall.Proofs.Execution.Attempts
import ServiceCall.Proofs.Execution.Rulings
import ServiceCall.Proofs.Execution.Views

/-!
# Runs

A run of the loop is a row of retries and one last pass.  `Retries` says all that one retry does
and `Stops` all the ways in which a run can end, so a fact about runs is a fact about each of the
two and one induction over `Runs`.
-/

namespace ServiceCall.Plan

variable {τ σ : Type}

/-- A pass whose attempt is answered with a failure, up to the ruling on it. -/
inductive Fails (p : Plan τ σ) (context : Context) (m : Machine τ σ) :
    Failure → Traced τ σ (Ruling × Context) → Prop where
  | intro {failure : Failure} {signedAt receivedAt : Instant} {journal : Journal}
      {after : Machine τ σ} {ruled : Traced τ σ (Ruling × Context)}
      (hopen : p.env.cancelled m.world = false)
      (hattempts : p.Attempts (context.withOffset m.skew.offset) m
        ⟨.broken failure signedAt receivedAt, journal, after⟩)
      (hrules : p.Rules (context.withOffset m.skew.offset) failure signedAt receivedAt after
        ruled) :
      Fails p context m failure { ruled with
        journal := .opened context.info.attempt context.info.limit :: journal ++ ruled.journal }

/-- A pass after which the next attempt begins: its context is the value. -/
inductive Retries (p : Plan τ σ) (context : Context) (m : Machine τ σ) :
    Traced τ σ Context → Prop where
  | intro {failure : Failure} {planned : Delay} {wait : Duration} {bonus : Bool}
      {ruled following : Context} {journal scheduling : Journal} {after later : Machine τ σ}
      {world : σ}
      (hfails : p.Fails context m failure ⟨(.again planned wait bonus, ruled), journal, after⟩)
      (hschedules : p.Schedules ruled failure planned wait bonus after
        ⟨.ok following, scheduling, later⟩)
      (hpause : p.pause wait later = (true, { later with world })) :
      Retries p context m ⟨following, journal ++ scheduling, { later with world }⟩

/-- The last pass of a run, when `left` attempts could have come after it. -/
inductive Stops (p : Plan τ σ) (left : Nat) (context : Context) (m : Machine τ σ) :
    Traced τ σ Ending → Prop where
  | cancelled (hcancelled : p.env.cancelled m.world = true) :
      Stops p left context m
        (giveUp context (Failure.cancelled.withAttempts (context.info.attempt - 1))
          [.opened context.info.attempt context.info.limit] m)
  | ended {result : Except Failure Http.Response} {journal : Journal} {after : Machine τ σ}
      (hopen : p.env.cancelled m.world = false)
      (hattempts : p.Attempts (context.withOffset m.skew.offset) m
        ⟨.ended result, journal, after⟩) :
      Stops p left context m
        ⟨⟨result, context.info.attempt⟩,
          .opened context.info.attempt context.info.limit :: journal, after⟩
  | refused {failure final : Failure} {ruled : Context} {journal : Journal}
      {after : Machine τ σ}
      (hfails : p.Fails context m failure ⟨(.giveUp final, ruled), journal, after⟩) :
      Stops p left context m (giveUp ruled final journal after)
  | lastAttempt {failure : Failure} {planned : Delay} {wait : Duration} {bonus : Bool}
      {ruled : Context} {journal : Journal} {after : Machine τ σ} (hleft : left = 0)
      (hfails : p.Fails context m failure ⟨(.again planned wait bonus, ruled), journal, after⟩) :
      Stops p left context m (giveUp ruled failure journal after)
  | overBudget {failure final : Failure} {planned : Delay} {wait : Duration} {bonus : Bool}
      {ruled : Context} {journal scheduling : Journal} {after later : Machine τ σ}
      (hleft : 0 < left)
      (hfails : p.Fails context m failure ⟨(.again planned wait bonus, ruled), journal, after⟩)
      (hschedules : p.Schedules ruled failure planned wait bonus after
        ⟨.error final, scheduling, later⟩) :
      Stops p left context m
        ⟨⟨.error final, ruled.info.attempt⟩, journal ++ scheduling, later⟩
  | interrupted {failure : Failure} {planned : Delay} {wait : Duration} {bonus : Bool}
      {ruled following : Context} {journal scheduling : Journal} {after later : Machine τ σ}
      {world : σ} (hleft : 0 < left)
      (hfails : p.Fails context m failure ⟨(.again planned wait bonus, ruled), journal, after⟩)
      (hschedules : p.Schedules ruled failure planned wait bonus after
        ⟨.ok following, scheduling, later⟩)
      (hpause : p.pause wait later = (false, { later with world })) :
      Stops p left context m
        ⟨⟨.error (Failure.cancelled.withAttempts ruled.info.attempt), following.info.attempt⟩,
          journal ++ scheduling, { later with world }⟩

/-- Retries and then a last pass. -/
inductive Runs (p : Plan τ σ) :
    Nat → Context → Machine τ σ → Traced τ σ Ending → Prop where
  | last {left : Nat} {context : Context} {m : Machine τ σ} {ran : Traced τ σ Ending}
      (hstops : p.Stops left context m ran) : Runs p left context m ran
  | again {left : Nat} {context following : Context} {m after : Machine τ σ}
      {journal : Journal} {rest : Traced τ σ Ending}
      (hretries : p.Retries context m ⟨following, journal, after⟩)
      (hrest : Runs p left following after rest) :
      Runs p (left + 1) context m { rest with journal := journal ++ rest.journal }

private theorem fails_attempt {p : Plan τ σ} {context : Context} {m : Machine τ σ}
    {failure : Failure} {signedAt receivedAt : Instant} {value : Ruling × Context}
    (hopen : ¬p.env.cancelled m.world = true)
    (htrial : (p.attempt (context.withOffset m.skew.offset) m).value =
      .broken failure signedAt receivedAt)
    (hruled : (p.rule (context.withOffset m.skew.offset) failure signedAt receivedAt
      (p.attempt (context.withOffset m.skew.offset) m).machine).value = value) :
    let trial := p.attempt (context.withOffset m.skew.offset) m
    let ruled := p.rule (context.withOffset m.skew.offset) failure signedAt receivedAt
      trial.machine
    p.Fails context m failure
      ⟨value, .opened context.info.attempt context.info.limit :: trial.journal ++ ruled.journal,
        ruled.machine⟩ := by
  intro trial ruled
  rw [← hruled]
  refine .intro (Bool.eq_false_iff.2 hopen) ?_ (rules_rule p _ failure signedAt receivedAt _)
  rw [← htrial]
  exact attempts_attempt p _ m

/-- A pass of the loop is the last one, or a retry with what comes next. -/
theorem pass_cases {α : Type} (p : Plan τ σ) (finish : Ending → α)
    {next : Option (Context → Machine τ σ → Traced τ σ α)} {left : Nat}
    (hnext : next = none ↔ left = 0) (context : Context) (m : Machine τ σ) :
    (∃ ran, p.Stops left context m ran ∧ p.pass finish next context m = ran.map finish) ∨
      ∃ again following journal after, next = some again ∧
        p.Retries context m ⟨following, journal, after⟩ ∧
        p.pass finish next context m = { again following after with
          journal := journal ++ (again following after).journal } := by
  have hpositive {again : Context → Machine τ σ → Traced τ σ α} (hsome : next = some again) :
      0 < left := by
    refine Nat.pos_of_ne_zero fun hzero => ?_
    rw [hnext.2 hzero] at hsome
    cases hsome
  fun_cases pass p finish next context m with
  | case1 next opened hcancelled => exact .inl ⟨_, .cancelled hcancelled, rfl⟩
  | case2 next opened hopen started trial sofar result hvalue =>
      refine .inl ⟨_, .ended (Bool.eq_false_iff.2 hopen) ?_, rfl⟩
      rw [← hvalue]
      exact attempts_attempt p started m
  | case3 next opened hopen started trial _ failure signedAt receivedAt htrial ruled sofar final
      after hruled =>
      exact .inl ⟨_, .refused (fails_attempt hopen htrial hruled), rfl⟩
  | case4 opened hopen started trial _ failure signedAt receivedAt htrial ruled sofar planned wait
      bonus after hruled =>
      exact .inl ⟨_, .lastAttempt (hnext.1 rfl) (fails_attempt hopen htrial hruled), rfl⟩
  | case5 opened hopen started trial _ failure signedAt receivedAt htrial ruled _ planned wait
      bonus after again hruled scheduled sofar final hscheduled =>
      have hschedules := schedules_schedule p after failure planned wait bonus ruled.machine
      refine .inl ⟨_, .overBudget (hpositive rfl) (fails_attempt hopen htrial hruled) ?_, rfl⟩
      rw [← hscheduled]
      exact hschedules
  | case6 opened hopen started trial _ failure signedAt receivedAt htrial ruled _ planned wait
      bonus after again hruled scheduled sofar following hscheduled paused hpaused =>
      have hschedules := schedules_schedule p after failure planned wait bonus ruled.machine
      obtain ⟨ended, world, hpause⟩ := p.pause_frame wait scheduled.machine
      obtain ⟨rfl, rfl⟩ := Prod.mk.inj (hpause.symm.trans hpaused)
      refine .inl ⟨_, .interrupted (hpositive rfl) (fails_attempt hopen htrial hruled) ?_ hpause,
        rfl⟩
      rw [← hscheduled]
      exact hschedules
  | case7 opened hopen started trial _ failure signedAt receivedAt htrial ruled _ planned wait
      bonus after again hruled scheduled sofar following hscheduled paused hpaused rest =>
      have hschedules := schedules_schedule p after failure planned wait bonus ruled.machine
      obtain ⟨ended, world, hpause⟩ := p.pause_frame wait scheduled.machine
      obtain ⟨rfl, rfl⟩ := Prod.mk.inj (hpause.symm.trans hpaused)
      refine .inr ⟨again, following, _, _, rfl,
        .intro (fails_attempt hopen htrial hruled) ?_ hpause, rfl⟩
      rw [← hscheduled]
      exact hschedules

/-- There is a next pass exactly if an attempt is left. -/
theorem some_eq_none_iff {α : Type} (next : α) (left : Nat) : some next = none ↔ left + 1 = 0 :=
  iff_of_false (Option.some_ne_none next) (Nat.succ_ne_zero left)

/-- The loop makes such a run, from any context and machine. -/
theorem runs_run (p : Plan τ σ) (left : Nat) (context : Context) (m : Machine τ σ) :
    p.Runs left context m (p.run left context m) := by
  induction left generalizing context m with
  | zero =>
      rcases p.pass_cases id (iff_of_true rfl rfl) context m with
        ⟨ran, hstops, hpass⟩ | ⟨again, _, _, _, hnone, -⟩
      · rw [run, hpass]
        exact .last hstops
      · cases hnone
  | succ left ih =>
      rcases p.pass_cases id (some_eq_none_iff (p.run left) left) context m with
        ⟨ran, hstops, hpass⟩ | ⟨again, following, _, after, hagain, hretries, hpass⟩
      · rw [run, hpass]
        exact .last hstops
      · cases hagain
        rw [run, hpass]
        exact .again hretries (ih following after)

variable {p : Plan τ σ} {left : Nat} {context : Context} {m : Machine τ σ}

/-- The parts of a pass with a failed attempt. -/
theorem Fails.parts {failure : Failure} {value : Ruling × Context} {journal : Journal}
    {after : Machine τ σ} (hfails : p.Fails context m failure ⟨value, journal, after⟩) :
    ∃ signedAt receivedAt attempted answered noted,
      p.env.cancelled m.world = false ∧
      p.Attempts (context.withOffset m.skew.offset) m
        ⟨.broken failure signedAt receivedAt, attempted, answered⟩ ∧
      p.Rules (context.withOffset m.skew.offset) failure signedAt receivedAt answered
        ⟨value, noted, after⟩ ∧
      journal = .opened context.info.attempt context.info.limit :: attempted ++ noted := by
  generalize hmade : (⟨value, journal, after⟩ : Traced τ σ (Ruling × Context)) = made at hfails
  obtain ⟨hopen, hattempts, hrules⟩ := hfails
  cases hmade
  exact ⟨_, _, _, _, _, hopen, hattempts, hrules, rfl⟩

/-- The loop goes on after a retry with what comes next. -/
theorem Retries.pass_eq {α : Type} {following : Context} {journal : Journal} {after : Machine τ σ}
    (hretries : p.Retries context m ⟨following, journal, after⟩) (finish : Ending → α)
    (next : Context → Machine τ σ → Traced τ σ α) :
    p.pass finish (some next) context m = { next following after with
      journal := journal ++ (next following after).journal } := by
  obtain ⟨hfails, hschedules, hpause⟩ := hretries
  obtain ⟨_, _, _, _, _, hopen, hattempts, hrules, rfl⟩ := hfails.parts
  simp only [pass, hopen, ← hattempts.eq_attempt, ← hrules.eq_rule, ← hschedules.eq_schedule,
    hpause]
  rfl

/-- A run goes on after a retry as a run from there. -/
theorem Retries.run_eq {following : Context} {journal : Journal} {after : Machine τ σ}
    (hretries : p.Retries context m ⟨following, journal, after⟩) :
    p.run (left + 1) context m =
      { p.run left following after with
        journal := journal ++ (p.run left following after).journal } :=
  hretries.pass_eq id (p.run left)

/-- And the last pass is the loop's, whatever could come next. -/
theorem Stops.pass_eq {α : Type} {ran : Traced τ σ Ending}
    (hstops : p.Stops left context m ran) (finish : Ending → α)
    {next : Option (Context → Machine τ σ → Traced τ σ α)} (hnext : next = none ↔ left = 0) :
    p.pass finish next context m = ran.map finish := by
  cases hstops with
  | cancelled hcancelled =>
      simp only [pass, hcancelled, if_true]
  | ended hopen hattempts =>
      simp only [pass, hopen, ← hattempts.eq_attempt]
      rfl
  | refused hfails =>
      obtain ⟨_, _, _, _, _, hopen, hattempts, hrules, rfl⟩ := hfails.parts
      simp only [pass, hopen, ← hattempts.eq_attempt, ← hrules.eq_rule]
      rfl
  | lastAttempt hleft hfails =>
      obtain ⟨_, _, _, _, _, hopen, hattempts, hrules, rfl⟩ := hfails.parts
      simp only [hnext.2 hleft, pass, hopen, ← hattempts.eq_attempt, ← hrules.eq_rule]
      rfl
  | overBudget hleft hfails hschedules =>
      obtain ⟨_, _, _, _, _, hopen, hattempts, hrules, rfl⟩ := hfails.parts
      obtain ⟨again, rfl⟩ := Option.ne_none_iff_exists'.1 (mt hnext.1 (Nat.ne_of_gt hleft))
      simp only [pass, hopen, ← hattempts.eq_attempt, ← hrules.eq_rule, ← hschedules.eq_schedule]
      rfl
  | interrupted hleft hfails hschedules hpause =>
      obtain ⟨_, _, _, _, _, hopen, hattempts, hrules, rfl⟩ := hfails.parts
      obtain ⟨again, rfl⟩ := Option.ne_none_iff_exists'.1 (mt hnext.1 (Nat.ne_of_gt hleft))
      simp only [pass, hopen, ← hattempts.eq_attempt, ← hrules.eq_rule, ← hschedules.eq_schedule,
        hpause]
      rfl

theorem Stops.eq_run {ran : Traced τ σ Ending} (hstops : p.Stops left context m ran) :
    ran = p.run left context m := by
  cases left with
  | zero => exact (hstops.pass_eq id (iff_of_true rfl rfl)).symm
  | succ left => exact (hstops.pass_eq id (some_eq_none_iff (p.run left) left)).symm

/-- A run from a context and a machine is the loop's. -/
theorem Runs.eq_run {ran : Traced τ σ Ending} (hruns : p.Runs left context m ran) :
    ran = p.run left context m := by
  induction hruns with
  | last hstops => exact hstops.eq_run
  | again hretries hrest ih => rw [hretries.run_eq, ih]

end ServiceCall.Plan

namespace ServiceCall.Execution

variable {τ σ : Type}

/-- A call with a known signer runs from the first context on. -/
theorem attempts_eq_run {client : Client τ} {env : Environment σ} {call : Call} {id : InvocationId}
    {m : Machine τ σ} {signer : Signer}
    (hsigner : client.signers.resolve call.signer = .ok signer) :
    let first := Context.first id (client.strategy.limit m.strategy)
    attempts client env call id m =
      (plan client env call signer).run (first.info.limit - 1) first m := by
  intro first
  simp only [attempts, hsigner]
  rfl

/-- A call either finds no signer and ends at once, or is such a run. -/
theorem attempts_cases (client : Client τ) (env : Environment σ) (call : Call)
    (id : InvocationId) (m : Machine τ σ) :
    let first := Context.first id (client.strategy.limit m.strategy)
    (∃ failure, client.signers.resolve call.signer = .error failure ∧
        attempts client env call id m = ⟨⟨.error failure, 1⟩, [], m⟩) ∨
      ∃ signer, client.signers.resolve call.signer = .ok signer ∧
        (plan client env call signer).Runs (first.info.limit - 1) first m
          (attempts client env call id m) := by
  intro first
  cases hsigner : client.signers.resolve call.signer with
  | error failure =>
      refine .inl ⟨failure, rfl, ?_⟩
      simp only [attempts, hsigner]
      rfl
  | ok signer =>
      refine .inr ⟨signer, rfl, ?_⟩
      rw [attempts_eq_run hsigner]
      exact Plan.runs_run _ _ _ _

/-- The journal of a call is that of its attempts between its begin and its end. -/
theorem journal_execute (client : Client τ) (env : Environment σ) (call : Call)
    (id : InvocationId) (m : Machine τ σ) :
    ∃ s, (execute client env call id m).journal =
      [.began] ++ (attempts client env call id m).journal ++ [.finished s] := ⟨_, rfl⟩

/-- A view that shows neither begin nor end sees the attempts only. -/
theorem filterMap_execute {α : Type} {view : Entry → Option α} (hbegan : view .began = none)
    (hfinished : ∀ s, view (.finished s) = none) (client : Client τ) (env : Environment σ)
    (call : Call) (id : InvocationId) (m : Machine τ σ) :
    (execute client env call id m).journal.filterMap view =
      (attempts client env call id m).journal.filterMap view := by
  obtain ⟨s, hjournal⟩ := journal_execute client env call id m
  rw [hjournal, List.filterMap_append, List.filterMap_append,
    List.filterMap_cons_none hbegan, List.filterMap_cons_none (hfinished s)]
  exact List.append_nil _

theorem starts_execute (client : Client τ) (env : Environment σ) (call : Call)
    (id : InvocationId) (m : Machine τ σ) :
    (execute client env call id m).journal.starts =
      (attempts client env call id m).journal.starts :=
  filterMap_execute rfl (fun _ => rfl) client env call id m

end ServiceCall.Execution
