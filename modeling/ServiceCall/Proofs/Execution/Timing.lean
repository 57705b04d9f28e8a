import ServiceCall.Proofs.Execution.Bonus
import ServiceCall.Proofs.Execution.Sends

/-!
# The time budget of a call

A run looks at the elapsed time at two places only, right before a request is handed over and right
before a wait is scheduled.  What it finds there decides what comes next: the request with the limit
that is left, the retry with its whole wait, or the end of the run.
-/

namespace ServiceCall

namespace Budget

variable {perAttempt limit elapsed asked : Duration} {total : Option Duration}

/-- A limit for an attempt is what is left of the total, and no more than an attempt may take. -/
theorem of_sendLimit_eq_some (hlimit : sendLimit perAttempt total elapsed = some limit) :
    limit ≤ perAttempt ∧ (.zero < perAttempt → .zero < limit) ∧
      (∀ budget, total = some budget → elapsed < budget ∧ limit ≤ budget - elapsed) ∧
      (total = none → limit = perAttempt) := by
  cases total with
  | none =>
      obtain rfl := Option.some.inj hlimit
      exact ⟨Nat.le_refl _, id, nofun, fun _ => rfl⟩
  | some budget =>
      rw [sendLimit] at hlimit
      split at hlimit
      · cases hlimit
      · next hremains =>
          obtain rfl := Option.some.inj hlimit
          have hlt : elapsed < budget := Nat.lt_of_not_le hremains
          refine ⟨Nat.min_le_left _ _, fun hpositive => ?_, ?_, nofun⟩
          · exact Nat.lt_min.2 ⟨hpositive, Nat.sub_pos_of_lt hlt⟩
          · rintro _ ⟨⟩
            exact ⟨hlt, Nat.min_le_right _ _⟩

theorem sendLimit_eq_none_iff :
    sendLimit perAttempt total elapsed = none ↔
      ∃ budget, total = some budget ∧ budget ≤ elapsed := by
  cases total with
  | none => simp [sendLimit]
  | some budget => simp [sendLimit]

theorem wait_eq_none_iff :
    wait asked total elapsed = none ↔
      ∃ budget, total = some budget ∧ budget ≤ elapsed + asked := by
  cases total with
  | none => simp [wait]
  | some budget =>
      have hlt : elapsed + asked < budget ↔ ¬budget ≤ elapsed + asked := Nat.not_le.symm
      simp [wait, hlt]

/-- A wait that fits ends before the total does. -/
theorem lt_of_wait_eq_some {given budget : Duration} (hwait : wait asked total elapsed = some given)
    (htotal : total = some budget) : elapsed + given < budget := by
  subst htotal
  rw [wait] at hwait
  split at hwait
  · obtain rfl := Option.some.inj hwait
    assumption
  · cases hwait

end Budget

namespace Plan

variable {τ σ : Type} {p : Plan τ σ} {left later : Nat} {context reached ruled following : Context}
  {m start after next : Machine τ σ} {before journal scheduling sofar : Journal} {failure : Failure}
  {planned : Delay} {wait elapsed : Duration} {bonus : Bool} {s : Setback τ σ}
  {granted : Option Entry} {entry : Entry}

/-- A run looks at the elapsed time: with what was written down before, the reading, and the entry
that the budget grants then, if it grants any. -/
inductive Looks (p : Plan τ σ) (left : Nat) (context : Context) (m : Machine τ σ) :
    Journal → Duration → Option Entry → Prop where
  | send {before : Journal} {later : Nat} {reached : Context} {start : Machine τ σ}
      {request signed : Http.Request} {now : Instant} {clocked world : σ} {elapsed : Duration}
      (hreaches : p.Reaches left context m before later reached start)
      (hopen : p.env.cancelled start.world = false)
      (hbuilt : p.built (reached.withOffset start.skew.offset) start.turn = .ok request)
      (hnow : p.env.now (p.env.notice reached.info.attempt start.world) = (now, clocked))
      (hsigned : p.signer.sign request (start.skew.offset.apply now) = .ok signed)
      (helapsed : p.elapsed clocked = (elapsed, world)) :
      Looks p left context m
        (before ++ [.opened reached.info.attempt reached.info.limit,
          .started (reached.withOffset start.skew.offset), .entered .building, .entered .signing,
          .entered .sending])
        elapsed
        ((Budget.sendLimit p.timeout p.client.defaults.totalTimeout elapsed).map fun limit =>
          .sent ⟨signed, limit⟩)
  | wait {s : Setback τ σ} {planned : Delay} {wait elapsed : Duration} {bonus : Bool} {world : σ}
      (hmeets : p.Meets left context m s) (hleft : 0 < s.left)
      (hruling : (p.ruling s).value.1 = .again planned wait bonus)
      (helapsed : p.elapsed (p.ruling s).machine.world = (elapsed, world)) :
      Looks p left context m (s.sofar ++ (p.ruling s).journal) elapsed
        ((Budget.wait wait p.client.defaults.totalTimeout elapsed).map fun wait =>
          .scheduled ⟨s.context.info.attempt, s.failure.kind, planned, wait, bonus⟩)

/-! ## What a look leads to -/

/-- An attempt that gets as far as the transport writes down its request there. -/
theorem Sends.journal_attempt {sent : Sent} {signedAt : Instant} {world : σ}
    (hsends : p.Sends context m sent signedAt world) :
    ∃ rest, (p.attempt context m).journal =
      [.started context, .entered .building, .entered .signing, .entered .sending] ++
        .sent sent :: rest := by
  cases hopen : p.env.interruptsSend sent.request sent.limit world with
  | some after =>
      rw [← (Attempts.interrupted hsends hopen).eq_attempt]
      exact ⟨_, rfl⟩
  | none =>
      rcases hreply : p.env.send sent.request sent.limit world with ⟨reply, replied⟩
      rcases hnow : p.env.now replied with ⟨receivedAt, after⟩
      have hhears := Hears.intro hsends hopen hreply hnow
      cases houtcome : (⟨reply, signedAt, receivedAt⟩ : Answered).outcome p.client.classifier with
      | ok response =>
          rw [← (Attempts.succeeded hhears houtcome).eq_attempt]
          exact ⟨_, rfl⟩
      | error failure =>
          rw [← (Attempts.broken hhears houtcome).eq_attempt]
          exact ⟨_, rfl⟩

/-- A run writes down the retry that it schedules after its attempt. -/
theorem Fails.journal_run_scheduled
    (hfails : p.Fails context m failure ⟨(.again planned wait bonus, ruled), journal, after⟩)
    (hschedules : p.Schedules ruled failure planned wait bonus after
      ⟨.ok following, scheduling, next⟩) (left : Nat) :
    ∃ rest, (p.run (left + 1) context m).journal = journal ++ scheduling ++ rest := by
  obtain ⟨ended, world, hpause⟩ := p.pause_frame wait next
  cases ended with
  | false =>
      have hran := (Stops.interrupted (Nat.succ_pos left) hfails hschedules hpause).eq_run
      refine ⟨[], ?_⟩
      rw [List.append_nil, ← hran]
  | true =>
      rw [(Retries.intro hfails hschedules hpause).run_eq]
      exact ⟨_, rfl⟩

/-- What the budget grants comes next. -/
theorem Looks.journal_run (hlooks : p.Looks left context m sofar elapsed (some entry)) :
    ∃ rest, (p.run left context m).journal = sofar ++ entry :: rest := by
  generalize hgranted : some entry = granted at hlooks
  cases hlooks with
  | @send before later reached start _ _ _ _ _ _ hreaches hopen hbuilt hnow hsigned helapsed =>
      obtain ⟨limit, hlimit, rfl⟩ := Option.map_eq_some_iff.1 hgranted.symm
      obtain ⟨rest, hattempt⟩ :=
        (Sends.intro hbuilt hnow hsigned helapsed hlimit).journal_attempt
      obtain ⟨others, hrun⟩ := p.journal_run_attempt hopen later
      refine ⟨rest ++ others, ?_⟩
      rw [hreaches.run_eq]
      dsimp only
      rw [hrun, hattempt]
      simp
  | @wait s planned wait elapsed bonus world hmeets hleft hruling helapsed =>
      obtain ⟨given, hwait, rfl⟩ := Option.map_eq_some_iff.1 hgranted.symm
      obtain rfl := Budget.eq_of_wait_eq_some hwait
      obtain ⟨before, reached, journal, ruled, hreaches, hfails, hsofar, -, hinfo⟩ :=
        hmeets.fails_again hruling
      obtain ⟨later, hlater⟩ := Nat.exists_eq_succ_of_ne_zero (Nat.ne_of_gt hleft)
      obtain ⟨reference, after, hreference⟩ :=
        p.reference_frame s.failure { (p.ruling s).machine with world }
      obtain ⟨rest, hrun⟩ :=
        hfails.journal_run_scheduled (.scheduled helapsed hwait hreference) later
      refine ⟨.entered .retrying :: rest, ?_⟩
      rw [hreaches.run_eq, hlater]
      dsimp only
      rw [hrun, hinfo, ← hsofar]
      simp

/-- Without a grant the run ends, with the failure of the budget. -/
theorem Looks.run_ends (hlooks : p.Looks left context m sofar elapsed none) :
    (p.run left context m).journal = sofar ++ [.entered .failed] ∧
      (p.run left context m).value.result =
        .error (Budget.exhausted p.client.defaults.totalTimeout) := by
  generalize hgranted : (none : Option Entry) = granted at hlooks
  cases hlooks with
  | @send before later reached start _ _ _ _ _ _ hreaches hopen hbuilt hnow hsigned helapsed =>
      have hlimit := Option.map_eq_none_iff.1 hgranted.symm
      have hstops : p.Stops later reached start _ :=
        .ended hopen (.overBudget hbuilt hnow hsigned helapsed hlimit)
      rw [hreaches.run_eq, ← hstops.eq_run]
      exact ⟨by simp, rfl⟩
  | @wait s planned wait elapsed bonus world hmeets hleft hruling helapsed =>
      have hwait := Option.map_eq_none_iff.1 hgranted.symm
      obtain ⟨before, reached, journal, ruled, hreaches, hfails, hsofar, -, -⟩ :=
        hmeets.fails_again hruling
      have hran := (Stops.overBudget hleft hfails (.overBudget helapsed hwait)).eq_run
      rw [hreaches.run_eq, ← hran, ← hsofar]
      exact ⟨by simp, rfl⟩

/-! ## What comes from a look -/

theorem Looks.retry (hretries : p.Retries context m ⟨following, journal, after⟩)
    (hlooks : p.Looks left following after sofar elapsed granted) :
    p.Looks (left + 1) context m (journal ++ sofar) elapsed granted := by
  cases hlooks with
  | send hreaches hopen hbuilt hnow hsigned helapsed =>
      rw [← List.append_assoc]
      exact .send (hreaches.retry hretries) hopen hbuilt hnow hsigned helapsed
  | @wait s _ _ _ _ _ hmeets hleft hruling helapsed =>
      rw [← List.append_assoc]
      exact .wait (s := { s with sofar := journal ++ s.sofar }) (hmeets.retry hretries) hleft
        hruling helapsed

/-- Every request is sent at a look. -/
theorem Hands.looks {i : Nat} {sent : Sent}
    (hhands : p.Hands left context m i sent before reached start) :
    ∃ sofar elapsed, p.Looks left context m sofar elapsed (some (.sent sent)) ∧
      sofar.sends.length = i := by
  obtain ⟨hreaches, hopen, hsends⟩ := hhands
  obtain ⟨hbuilt, hnow, hsigned, helapsed, hlimit⟩ := hsends
  have hlooks := Looks.send hreaches hopen hbuilt hnow hsigned helapsed
  rw [hlimit] at hlooks
  refine ⟨_, _, hlooks, ?_⟩
  rw [Journal.sends_append, List.length_append]
  rfl

/-- Every retry is scheduled at a look. -/
theorem Fails.looks (hleft : 0 < left)
    (hfails : p.Fails context m failure ⟨(.again planned wait bonus, ruled), journal, after⟩)
    (hschedules : p.Schedules ruled failure planned wait bonus after
      ⟨.ok following, scheduling, next⟩) :
    ∃ elapsed r, p.Looks left context m journal elapsed (some (.scheduled r)) ∧
      (journal ++ scheduling).retries = [r] := by
  obtain ⟨hinfo, -⟩ := hfails.milestones
  obtain ⟨s, hmeets, rfl, rfl, hattempt, hruling, rfl, rfl⟩ := hfails.meets_again left
  cases hschedules with
  | scheduled helapsed hwait =>
      have hlooks := Looks.wait hmeets hleft hruling helapsed
      rw [hwait, hattempt] at hlooks
      refine ⟨_, _, hlooks, ?_⟩
      rw [Journal.retries_append, hfails.decided.1, show ruled.info = context.info from hinfo]
      rfl

theorem Retries.length_retries (hretries : p.Retries context m ⟨following, journal, after⟩) :
    journal.retries.length = 1 := by
  obtain ⟨hfails, hschedules, -⟩ := hretries
  obtain ⟨_, _, -, hscheduled⟩ := hfails.looks (Nat.succ_pos 0) hschedules
  rw [hscheduled]
  rfl

/-- The retries of a run are scheduled at looks, one after the other. -/
theorem Runs.looks {ran : Traced τ σ Ending} (hruns : p.Runs left context m ran) :
    ∀ {i : Nat} {r : Scheduled}, ran.journal.retries[i]? = some r →
      ∃ sofar elapsed, p.Looks left context m sofar elapsed (some (.scheduled r)) ∧
        sofar.retries.length = i := by
  induction hruns with
  | last hstops =>
      intro i r hr
      cases hstops with
      | cancelled => cases hr
      | ended hopen hattempts =>
          cases hattempts with
          | unbuilt | unsigned | overBudget | interrupted | succeeded => cases hr
      | refused hfails | lastAttempt _ hfails =>
          rw [giveUp, Journal.retries_append, hfails.decided.1] at hr
          cases hr
      | overBudget _ hfails hschedules =>
          rw [Journal.retries_append, hfails.decided.1] at hr
          cases hschedules
          cases hr
      | interrupted hleft hfails hschedules hpause =>
          obtain ⟨elapsed, scheduled, hlooks, hretries⟩ := hfails.looks hleft hschedules
          rw [hretries, List.getElem?_singleton] at hr
          split at hr
          · subst i
            cases hr
            exact ⟨_, _, hlooks, by rw [hfails.decided.1]; rfl⟩
          · cases hr
  | again hretries hrest ih =>
      intro i r hr
      cases i with
      | zero =>
          obtain ⟨hfails, hschedules, hpause⟩ := hretries
          obtain ⟨elapsed, scheduled, hlooks, hscheduled⟩ :=
            hfails.looks (Nat.succ_pos _) hschedules
          rw [Journal.retries_append, hscheduled] at hr
          cases hr
          exact ⟨_, _, hlooks, by rw [hfails.decided.1]; rfl⟩
      | succ i =>
          have hscheduled := hretries.length_retries
          rw [Journal.retries_append, List.getElem?_append_right (by omega), hscheduled] at hr
          obtain ⟨sofar, elapsed, hlooks, hcount⟩ := ih hr
          refine ⟨_, _, hlooks.retry hretries, ?_⟩
          rw [Journal.retries_append, List.length_append, hscheduled, hcount]
          exact Nat.add_comm 1 i

/-! ## What a look grants -/

theorem Looks.sendLimit_eq {sent : Sent}
    (hlooks : p.Looks left context m sofar elapsed (some (.sent sent))) :
    Budget.sendLimit p.timeout p.client.defaults.totalTimeout elapsed = some sent.limit := by
  generalize hgranted : some (Entry.sent sent) = granted at hlooks
  cases hlooks with
  | send =>
      obtain ⟨limit, hlimit, hsent⟩ := Option.map_eq_some_iff.1 hgranted.symm
      cases hsent
      exact hlimit
  | wait =>
      obtain ⟨_, _, hsent⟩ := Option.map_eq_some_iff.1 hgranted.symm
      cases hsent

/-- A retry is scheduled with the whole wait that the ruling came to. -/
theorem Looks.wait_eq {r : Scheduled}
    (hlooks : p.Looks left context m sofar elapsed (some (.scheduled r))) :
    Budget.wait r.wait p.client.defaults.totalTimeout elapsed = some r.wait ∧
      ∃ s, p.Meets left context m s ∧ (p.ruling s).value.1 = .again r.planned r.wait r.bonus := by
  generalize hgranted : some (Entry.scheduled r) = granted at hlooks
  cases hlooks with
  | send =>
      obtain ⟨_, _, hscheduled⟩ := Option.map_eq_some_iff.1 hgranted.symm
      cases hscheduled
  | wait hmeets hleft hruling =>
      obtain ⟨given, hwait, hscheduled⟩ := Option.map_eq_some_iff.1 hgranted.symm
      cases hscheduled
      obtain rfl := Budget.eq_of_wait_eq_some hwait
      exact ⟨hwait, _, hmeets, hruling⟩

/-- Once the total is used up nothing is granted. -/
theorem Looks.eq_none_of_le {budget : Duration}
    (hlooks : p.Looks left context m sofar elapsed granted)
    (htotal : p.client.defaults.totalTimeout = some budget) (hused : budget ≤ elapsed) :
    granted = none := by
  cases hlooks with
  | send =>
      rw [Budget.sendLimit_eq_none_iff.2 ⟨budget, htotal, hused⟩]
      rfl
  | wait =>
      rw [Budget.wait_eq_none_iff.2 ⟨budget, htotal, Nat.le_add_right_of_le hused⟩]
      rfl

/-- Without a total everything is granted. -/
theorem Looks.exists_total (hlooks : p.Looks left context m sofar elapsed none) :
    ∃ budget, p.client.defaults.totalTimeout = some budget := by
  generalize hgranted : (none : Option Entry) = granted at hlooks
  cases hlooks with
  | send =>
      obtain ⟨budget, htotal, -⟩ :=
        Budget.sendLimit_eq_none_iff.1 (Option.map_eq_none_iff.1 hgranted.symm)
      exact ⟨budget, htotal⟩
  | wait =>
      obtain ⟨budget, htotal, -⟩ :=
        Budget.wait_eq_none_iff.1 (Option.map_eq_none_iff.1 hgranted.symm)
      exact ⟨budget, htotal⟩

end Plan

namespace Execution

variable {τ σ : Type} {client : Client τ} {env : Environment σ} {call : Call} {id : InvocationId}
  {m : Machine τ σ} {sofar : Journal} {elapsed : Duration}

/-- An execution looks at the elapsed time, by the plan that it follows. -/
inductive Looks (client : Client τ) (env : Environment σ) (call : Call) (id : InvocationId)
    (m : Machine τ σ) : Journal → Duration → Option Entry → Prop where
  | intro {signer : Signer} {sofar : Journal} {elapsed : Duration} {granted : Option Entry}
      (hsigner : client.signers.resolve call.signer = .ok signer)
      (hlooks : (plan client env call signer).Looks
        ((Context.first id (client.strategy.limit m.strategy)).info.limit - 1)
        (Context.first id (client.strategy.limit m.strategy)) m sofar elapsed granted) :
      Looks client env call id m (.began :: sofar) elapsed granted

/-- What follows a look in the journal of a call. -/
theorem Looks.journal_execute {entry : Entry}
    (hlooks : Looks client env call id m sofar elapsed (some entry)) :
    ∃ rest, (execute client env call id m).journal = sofar ++ entry :: rest := by
  obtain ⟨hsigner, hlooks⟩ := hlooks
  obtain ⟨rest, hrun⟩ := hlooks.journal_run
  obtain ⟨s, hjournal⟩ := Execution.journal_execute client env call id m
  refine ⟨rest ++ [.finished s], ?_⟩
  rw [hjournal, attempts_eq_run hsigner, hrun]
  simp

/-- A call whose budget is used up ends at the look, with a failure that is not retried. -/
theorem Looks.execute_ends (hlooks : Looks client env call id m sofar elapsed none) :
    (∃ s, (execute client env call id m).journal = sofar ++ [.entered .failed, .finished s]) ∧
      ∃ failure, (execute client env call id m).result = .error failure ∧
        failure.kind = .requestTimeout ∧ failure.retryable = false := by
  obtain ⟨hsigner, hlooks⟩ := hlooks
  obtain ⟨hrun, hresult⟩ := hlooks.run_ends
  obtain ⟨s, hjournal⟩ := Execution.journal_execute client env call id m
  rw [← attempts_eq_run hsigner] at hrun hresult
  refine ⟨⟨s, ?_⟩, ?_⟩
  · rw [hjournal, hrun]
    simp
  · simp only [execute, close, hresult]
    exact ⟨_, rfl, rfl, rfl⟩

/-- The budget of a call, for a limit of an attempt that is not nothing and for any readings of the
elapsed time.  Every request and every retry comes at a look of its own, right after a reading.  A
request is given some time, no more than an attempt may take and no more than the total leaves after
the reading; a retry waits for as long as its ruling says, and its wait ends before the total does.
A reading that reaches the total grants nothing, and a look without a grant ends the call at once
with a timeout that is not retried.  Without a total every request gets the whole limit and every
look a grant. -/
theorem execute_timing (client : Client τ) (env : Environment σ) (call : Call) (id : InvocationId)
    (m : Machine τ σ)
    (hpositive : .zero < call.timeout.getD client.defaults.requestTimeout) :
    let e := execute client env call id m
    let timeout := call.timeout.getD client.defaults.requestTimeout
    let total := client.defaults.totalTimeout
    (∀ i sent, e.journal.sends[i]? = some sent → ∃ sofar elapsed,
      Looks client env call id m sofar elapsed (some (.sent sent)) ∧ sofar.sends.length = i) ∧
    (∀ i r, e.journal.retries[i]? = some r → ∃ sofar elapsed,
      Looks client env call id m sofar elapsed (some (.scheduled r)) ∧
        sofar.retries.length = i) ∧
    (∀ sofar elapsed sent, Looks client env call id m sofar elapsed (some (.sent sent)) →
      (∃ rest, e.journal = sofar ++ .sent sent :: rest) ∧
      .zero < sent.limit ∧ sent.limit ≤ timeout ∧
      (∀ budget, total = some budget → elapsed < budget ∧ sent.limit ≤ budget - elapsed) ∧
      (total = none → sent.limit = timeout)) ∧
    (∀ sofar elapsed r, Looks client env call id m sofar elapsed (some (.scheduled r)) →
      (∃ rest, e.journal = sofar ++ .scheduled r :: rest) ∧
      (∀ budget, total = some budget → elapsed + r.wait < budget) ∧
      ∃ p s, Meets client env call id m p s ∧
        (p.ruling s).value.1 = .again r.planned r.wait r.bonus) ∧
    (∀ sofar elapsed granted budget, Looks client env call id m sofar elapsed granted →
      total = some budget → budget ≤ elapsed → granted = none) ∧
    ∀ sofar elapsed, Looks client env call id m sofar elapsed none →
      (∃ budget, total = some budget) ∧
      (∃ s, e.journal = sofar ++ [.entered .failed, .finished s]) ∧
      ∃ failure, e.result = .error failure ∧ failure.kind = .requestTimeout ∧
        failure.retryable = false := by
  intro e timeout total
  refine ⟨fun i sent hsent => ?_, fun i r hr => ?_, ?_, ?_, ?_, ?_⟩
  · obtain ⟨signer, _, _, _, hsigner, hhands⟩ := hands_of_sends_execute hsent
    obtain ⟨sofar, elapsed, hlooks, hcount⟩ := hhands.looks
    exact ⟨_, _, .intro hsigner hlooks, hcount⟩
  · rw [retries_execute] at hr
    rcases attempts_cases client env call id m with ⟨failure, -, hran⟩ | ⟨signer, hsigner, hruns⟩
    · rw [hran] at hr
      cases hr
    · obtain ⟨sofar, elapsed, hlooks, hcount⟩ := hruns.looks hr
      exact ⟨_, _, .intro hsigner hlooks, hcount⟩
  · intro sofar elapsed sent hlooks
    refine ⟨hlooks.journal_execute, ?_⟩
    obtain ⟨hsigner, hlooks⟩ := hlooks
    obtain ⟨hle, hzero, hbudget, hwhole⟩ := Budget.of_sendLimit_eq_some hlooks.sendLimit_eq
    exact ⟨hzero hpositive, hle, hbudget, hwhole⟩
  · intro sofar elapsed r hlooks
    refine ⟨hlooks.journal_execute, ?_⟩
    obtain ⟨hsigner, hlooks⟩ := hlooks
    obtain ⟨hwait, s, hmeets, hruling⟩ := hlooks.wait_eq
    exact ⟨fun budget htotal => Budget.lt_of_wait_eq_some hwait htotal, _, s,
      .intro hsigner hmeets, hruling⟩
  · rintro sofar elapsed granted budget ⟨hsigner, hlooks⟩ htotal hused
    exact hlooks.eq_none_of_le htotal hused
  · intro sofar elapsed hlooks
    refine ⟨?_, hlooks.execute_ends⟩
    obtain ⟨hsigner, hlooks⟩ := hlooks
    exact hlooks.exists_total

/-- A call of five seconds hears a busy service that asks for five seconds.  Its one request was
given less than five seconds, and the retry is refused. -/
theorem execute_timing_plain :
    let client := { Rehearsal.plainClient (Standard.strategy Standard.rules .standard) with
      defaults := { Defaults.standard with totalTimeout := some (.ofSeconds 5) } }
    let m := Rehearsal.plainMachine .standard
      [.response Rehearsal.busyForFive, .response Rehearsal.plainResponse]
    let e := execute client Rehearsal.environment Rehearsal.plainCall .nil m
    .zero < Rehearsal.plainCall.timeout.getD client.defaults.requestTimeout ∧
      ∃ sofar elapsed sent rest,
        Looks client Rehearsal.environment Rehearsal.plainCall .nil m sofar elapsed
          (some (.sent sent)) ∧
        e.journal = sofar ++ .sent sent :: rest ∧ e.journal.sends = [sent] ∧
        elapsed < .ofSeconds 5 ∧ .zero < sent.limit ∧ sent.limit ≤ .ofSeconds 5 - elapsed := by
  intro client m e
  have hpositive : .zero < Rehearsal.plainCall.timeout.getD client.defaults.requestTimeout := by
    decide
  have hlength : e.journal.sends.length = 1 := by decide +kernel
  obtain ⟨sent, hsends⟩ := List.length_eq_one_iff.1 hlength
  obtain ⟨hsent, -, hgranted, -⟩ :=
    execute_timing client Rehearsal.environment Rehearsal.plainCall .nil m hpositive
  obtain ⟨sofar, elapsed, hlooks, -⟩ := hsent 0 sent (by rw [hsends]; rfl)
  obtain ⟨⟨rest, hjournal⟩, hzero, -, hbudget, -⟩ := hgranted _ _ _ hlooks
  obtain ⟨hleft, hle⟩ := hbudget _ rfl
  exact ⟨hpositive, sofar, elapsed, sent, rest, hlooks, hjournal, hsends, hleft, hzero, hle⟩

end Execution

end ServiceCall
