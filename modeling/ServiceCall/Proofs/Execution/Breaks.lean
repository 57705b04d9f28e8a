import ServiceCall.Proofs.Execution.Counts
import ServiceCall.Proofs.Execution.Steering
import ServiceCall.Proofs.Execution.Uncancelled

/-!
# Calls that break off

A call breaks off when no signer is found, when the caller cancels, and when an attempt fails before
its request is sent.  Nothing is decided then: the failure is the caller's as it is, no attempt
follows, and the states that calls share are left as the last decision for a retry left them.
-/

namespace ServiceCall

/-- How a call breaks off: without a signer; by a cancellation before an attempt, during a send or
in a wait; or by a failure of an attempt that has not been sent. -/
inductive Break where
  | unknownSigner (failure : Failure)
  | cancelled
  | unsent (failure : Failure)
  | interrupted (sent : Sent)
  | awakened

namespace Break

def failure : Break → Failure
  | unknownSigner failure | unsent failure => failure
  | cancelled | interrupted _ | awakened => .cancelled

/-- How many attempts start in the pass that breaks off. -/
def starts : Break → Nat
  | unsent _ | interrupted _ => 1
  | unknownSigner _ | cancelled | awakened => 0

def sends : Break → List Sent
  | interrupted sent => [sent]
  | unknownSigner _ | cancelled | unsent _ | awakened => []

end Break

/-- An entry that tells how far an attempt came, and nothing of an answer or a decision. -/
def Entry.isIdle : Entry → Bool
  | .opened .. | .started _ | .entered _ | .sent _ => true
  | _ => false

/-- Every attempt was answered, and its failure was followed by a retry. -/
structure Journal.Retried (j : Journal) : Prop where
  starts : j.starts.length = j.retries.length
  sends : j.sends.length = j.retries.length
  answers : j.answers.length = j.retries.length

/-- The last attempt was answered, and no retry follows it. -/
structure Journal.Concluded (j : Journal) : Prop where
  answers : j.answers.length = j.starts.length
  retries : j.retries.length + 1 = j.starts.length

theorem Journal.Retried.append {i j : Journal} (hi : i.Retried) (hj : j.Retried) :
    (i ++ j).Retried where
  starts := by
    rw [starts_append, retries_append, List.length_append, List.length_append, hi.starts, hj.starts]
  sends := by
    rw [sends_append, retries_append, List.length_append, List.length_append, hi.sends, hj.sends]
  answers := by
    rw [answers_append, retries_append, List.length_append, List.length_append, hi.answers,
      hj.answers]

namespace Plan

variable {τ σ : Type} {p : Plan τ σ} {left later : Nat} {context reached following ruled : Context}
  {m start after next : Machine τ σ} {before journal scheduling : Journal} {failure : Failure}
  {planned : Delay} {wait : Duration} {bonus : Bool} {cause : Break}

/-- A run breaks off. -/
inductive Breaks (p : Plan τ σ) (left : Nat) (context : Context) (m : Machine τ σ) :
    Break → Prop where
  | cancelled {before : Journal} {later : Nat} {reached : Context} {start : Machine τ σ}
      (hreaches : p.Reaches left context m before later reached start)
      (hcancelled : p.env.cancelled start.world = true) :
      Breaks p left context m .cancelled
  | unsent {before journal : Journal} {later : Nat} {reached : Context} {start after : Machine τ σ}
      {failure : Failure}
      (hreaches : p.Reaches left context m before later reached start)
      (hopen : p.env.cancelled start.world = false)
      (hattempts : p.Attempts (reached.withOffset start.skew.offset) start
        ⟨.ended (.error failure), journal, after⟩)
      (hunsent : journal.sends = []) :
      Breaks p left context m (.unsent failure)
  | interrupted {before : Journal} {later : Nat} {reached : Context} {start : Machine τ σ}
      {sent : Sent} {signedAt : Instant} {world after : σ}
      (hreaches : p.Reaches left context m before later reached start)
      (hopen : p.env.cancelled start.world = false)
      (hsends : p.Sends (reached.withOffset start.skew.offset) start sent signedAt world)
      (hcancelled : p.env.interruptsSend sent.request sent.limit world = some after) :
      Breaks p left context m (.interrupted sent)
  | awakened {before journal scheduling : Journal} {later : Nat}
      {reached ruled following : Context} {start after next : Machine τ σ} {failure : Failure}
      {planned : Delay} {wait : Duration} {bonus : Bool} {world : σ}
      (hreaches : p.Reaches left context m before later reached start) (hleft : 0 < later)
      (hfails : p.Fails reached start failure ⟨(.again planned wait bonus, ruled), journal, after⟩)
      (hschedules : p.Schedules ruled failure planned wait bonus after
        ⟨.ok following, scheduling, next⟩)
      (hcancelled : p.pause wait next = (false, { next with world })) :
      Breaks p left context m .awakened

/-! ## The way to a break -/

theorem Fails.retried
    (hfails : p.Fails context m failure ⟨(.again planned wait bonus, ruled), journal, after⟩)
    (hschedules : p.Schedules ruled failure planned wait bonus after
      ⟨.ok following, scheduling, next⟩) : (journal ++ scheduling).Retried := by
  obtain ⟨_, _, -, hretries⟩ := hfails.looks (Nat.succ_pos 0) hschedules
  obtain ⟨sent, a, hshows⟩ := hfails.shows
  have hshows := hshows.append hschedules.silent
  exact ⟨by rw [hshows.starts, hretries]; rfl, by rw [hshows.sends, hretries]; rfl,
    by rw [hshows.answers, hretries]; rfl⟩

theorem Reaches.retried (hreaches : p.Reaches left context m before later reached start) :
    before.Retried := by
  induction hreaches with
  | start => exact ⟨rfl, rfl, rfl⟩
  | again _ hretries ih =>
      obtain ⟨hfails, hschedules, -⟩ := hretries
      exact ih.append (hfails.retried hschedules)

/-- Neither scheduling nor a wait has a part in what calls share. -/
theorem Schedules.keeps {scheduled : Traced τ σ (Except Failure Context)}
    (hschedules : p.Schedules context failure planned wait bonus m scheduled) :
    scheduled.machine.strategy = m.strategy ∧ scheduled.machine.skew = m.skew := by
  cases hschedules with
  | overBudget | scheduled => exact ⟨rfl, rfl⟩

/-- The states that calls share, as the last of `k` decisions for a retry left them: at first as
they were at the beginning. -/
inductive Leaves (p : Plan τ σ) (left : Nat) (context : Context) (m : Machine τ σ) :
    Nat → τ → SkewState → Prop where
  | start : Leaves p left context m 0 m.strategy m.skew
  | again {s : Setback τ σ} {planned : Delay} {wait : Duration} {bonus : Bool} {k : Nat}
      (hmeets : p.Meets left context m s)
      (hruling : (p.ruling s).value.1 = .again planned wait bonus)
      (hnumber : s.context.info.attempt = context.info.attempt + k) :
      Leaves p left context m (k + 1) (p.ruling s).machine.strategy (p.ruling s).machine.skew

/-- A retry that is scheduled leaves what the decision for it left. -/
theorem Reaches.leaves_again (hreaches : p.Reaches left context m before later reached start)
    (hfails : p.Fails reached start failure ⟨(.again planned wait bonus, ruled), journal, after⟩)
    (hschedules : p.Schedules ruled failure planned wait bonus after
      ⟨.ok following, scheduling, next⟩) :
    p.Leaves left context m (before ++ (journal ++ scheduling)).retries.length next.strategy
      next.skew := by
  obtain ⟨_, _, -, hretries⟩ := hfails.looks (Nat.succ_pos 0) hschedules
  obtain ⟨hstrategy, hskew⟩ := hschedules.keeps
  obtain ⟨s, hmeets, -, -, hinfo, hruling, rfl, -⟩ := hreaches.meets_again hfails
  have hnumber : reached.info.attempt = context.info.attempt + before.retries.length := by
    rw [← hreaches.retried.sends]
    exact hreaches.advanced.attempt
  rw [Journal.retries_append, hretries, List.length_append,
    show next.strategy = _ from hstrategy, show next.skew = _ from hskew]
  refine .again hmeets (congrArg Prod.fst hruling) ?_
  rw [hinfo, hnumber]

/-- A run comes to a pass with what the last decision left. -/
theorem Reaches.leaves (hreaches : p.Reaches left context m before later reached start) :
    p.Leaves left context m before.retries.length start.strategy start.skew := by
  cases hreaches with
  | start => exact .start
  | again hreaches hretries =>
      obtain ⟨hfails, hschedules, -⟩ := hretries
      -- The wait between the decision and the pass moves the world alone.
      have hleaves := hreaches.leaves_again hfails hschedules
      exact hleaves

/-! ## The break -/

/-- An attempt that ends with a failure has decided nothing. -/
theorem Attempts.idle (hattempts : p.Attempts context m ⟨.ended (.error failure), journal, after⟩) :
    (∀ entry ∈ journal, entry.isIdle = true) ∧ journal.starts.length = 1 ∧
      after.strategy = m.strategy ∧ after.skew = m.skew := by
  cases hattempts with
  | unbuilt | unsigned | overBudget | interrupted =>
      exact ⟨by simp [Entry.isIdle], rfl, rfl, rfl⟩

/-- What a run is that breaks off. -/
structure BreaksOff (p : Plan τ σ) (left : Nat) (context : Context) (m : Machine τ σ)
    (cause : Break) (ran : Traced τ σ Ending) : Prop where
  result : ∃ n, ran.value.result = .error { cause.failure with attempts := n }
  journal : ∃ before rest, ran.journal = before ++ rest ∧ Journal.Retried before ∧
    (∀ entry ∈ rest, entry.isIdle = true) ∧ (Journal.starts rest).length = cause.starts ∧
    Journal.sends rest = cause.sends
  shared : p.Leaves left context m ran.journal.retries.length ran.machine.strategy ran.machine.skew

theorem retries_of_idle {j : Journal} (hidle : ∀ entry ∈ j, entry.isIdle = true) :
    j.retries = [] := by
  refine List.filterMap_eq_nil_iff.2 fun entry hentry => ?_
  have hentry := hidle entry hentry
  cases entry with
  | opened | started | entered | sent => rfl
  | began | answered | credited | broke | corrected | granted | judged | scheduled | finished =>
      cases hentry

/-- A pass that breaks off without a decision leaves what the last decision left. -/
theorem Reaches.breaksOff (hreaches : p.Reaches left context m before later reached start)
    {last : Traced τ σ Ending} (hstops : p.Stops later reached start last)
    (hresult : ∃ n, last.value.result = .error { cause.failure with attempts := n })
    (hidle : ∀ entry ∈ last.journal, entry.isIdle = true)
    (hstarts : last.journal.starts.length = cause.starts)
    (hsends : last.journal.sends = cause.sends)
    (hstrategy : last.machine.strategy = start.strategy) (hskew : last.machine.skew = start.skew) :
    p.BreaksOff left context m cause (p.run left context m) := by
  rw [hreaches.run_eq, ← hstops.eq_run]
  refine ⟨hresult, ⟨_, _, rfl, hreaches.retried, hidle, hstarts, hsends⟩, ?_⟩
  rw [Journal.retries_append, retries_of_idle hidle, List.append_nil,
    show Machine.strategy _ = _ from hstrategy, show Machine.skew _ = _ from hskew]
  exact hreaches.leaves

theorem Breaks.breaksOff (hbreaks : p.Breaks left context m cause) :
    p.BreaksOff left context m cause (p.run left context m) := by
  cases hbreaks with
  | cancelled hreaches hcancelled =>
      exact hreaches.breaksOff (.cancelled hcancelled) ⟨_, rfl⟩ (by simp [giveUp, Entry.isIdle]) rfl
        rfl rfl rfl
  | unsent hreaches hopen hattempts hunsent =>
      obtain ⟨hidle, hstarts, hstrategy, hskew⟩ := hattempts.idle
      exact hreaches.breaksOff (.ended hopen hattempts) ⟨_, rfl⟩
        (List.forall_mem_cons.2 ⟨rfl, hidle⟩) hstarts hunsent hstrategy hskew
  | interrupted hreaches hopen hsends hcancelled =>
      have hattempts := Attempts.interrupted hsends hcancelled
      obtain ⟨hidle, hstarts, hstrategy, hskew⟩ := hattempts.idle
      exact hreaches.breaksOff (.ended hopen hattempts) ⟨_, rfl⟩
        (List.forall_mem_cons.2 ⟨rfl, hidle⟩) hstarts rfl hstrategy hskew
  | awakened hreaches hleft hfails hschedules hcancelled =>
      have hleaves := hreaches.leaves_again hfails hschedules
      rw [hreaches.run_eq, ← (Stops.interrupted hleft hfails hschedules hcancelled).eq_run]
      refine ⟨⟨_, rfl⟩, ⟨_, [], (List.append_nil _).symm, ?_, List.forall_mem_nil _, rfl, rfl⟩,
        ?_⟩
      · exact hreaches.retried.append (hfails.retried hschedules)
      · exact hleaves

/-! ## No other way to break off -/

theorem Breaks.retry (hretries : p.Retries context m ⟨following, journal, after⟩)
    (hbreaks : p.Breaks left following after cause) : p.Breaks (left + 1) context m cause := by
  cases hbreaks with
  | cancelled hreaches hcancelled => exact .cancelled (hreaches.retry hretries) hcancelled
  | unsent hreaches hopen hattempts hunsent =>
      exact .unsent (hreaches.retry hretries) hopen hattempts hunsent
  | interrupted hreaches hopen hsends hcancelled =>
      exact .interrupted (hreaches.retry hretries) hopen hsends hcancelled
  | awakened hreaches hleft hfails hschedules hcancelled =>
      exact .awakened (hreaches.retry hretries) hleft hfails hschedules hcancelled

theorem Fails.concluded {ruled : Traced τ σ (Ruling × Context)} {tail : Journal}
    (hfails : p.Fails context m failure ruled) (htail : tail.Silent)
    (hretries : tail.retries = []) : (ruled.journal ++ tail).Concluded := by
  obtain ⟨sent, a, hshows⟩ := hfails.shows
  have hshows := hshows.append htail
  refine ⟨by rw [hshows.answers, hshows.starts]; rfl, ?_⟩
  rw [Journal.retries_append, hfails.decided.1, hretries, hshows.starts]
  rfl

theorem Stops.breaks_or_concluded {ran : Traced τ σ Ending} (hstops : p.Stops left context m ran) :
    (∃ cause, p.Breaks left context m cause) ∨ ran.journal.Concluded := by
  cases hstops with
  | cancelled hcancelled => exact .inl ⟨_, .cancelled .start hcancelled⟩
  | ended hopen hattempts =>
      cases hattempts with
      | unbuilt hbuilt => exact .inl ⟨_, .unsent .start hopen (.unbuilt hbuilt) rfl⟩
      | unsigned hbuilt hnow hsigned =>
          exact .inl ⟨_, .unsent .start hopen (.unsigned hbuilt hnow hsigned) rfl⟩
      | overBudget hbuilt hnow hsigned helapsed hlimit =>
          exact .inl ⟨_, .unsent .start hopen (.overBudget hbuilt hnow hsigned helapsed hlimit) rfl⟩
      | interrupted hsends hcancelled =>
          exact .inl ⟨_, .interrupted .start hopen hsends hcancelled⟩
      | succeeded => exact .inr ⟨rfl, rfl⟩
  | refused hfails | lastAttempt _ hfails =>
      exact .inr (hfails.concluded ⟨rfl, rfl, rfl⟩ rfl)
  | overBudget _ hfails hschedules =>
      refine .inr (hfails.concluded hschedules.silent ?_)
      cases hschedules
      rfl
  | interrupted hleft hfails hschedules hcancelled =>
      exact .inl ⟨_, .awakened .start hleft hfails hschedules hcancelled⟩

/-- A run breaks off, or its last attempt is answered and not followed by a retry. -/
theorem Runs.breaks_or_concluded {ran : Traced τ σ Ending} (hruns : p.Runs left context m ran) :
    (∃ cause, p.Breaks left context m cause) ∨ ran.journal.Concluded := by
  induction hruns with
  | last hstops => exact hstops.breaks_or_concluded
  | again hretries hrest ih =>
      rcases ih with ⟨cause, hbreaks⟩ | ⟨hanswers, hnext⟩
      · exact .inl ⟨cause, hbreaks.retry hretries⟩
      · obtain ⟨sent, a, hshows⟩ := hretries.shows
        refine .inr ⟨?_, ?_⟩
        · rw [Journal.answers_append, Journal.starts_append, hshows.answers, hshows.starts,
            List.length_append, List.length_append, hanswers]
          rfl
        · rw [Journal.retries_append, Journal.starts_append, hshows.starts, List.length_append,
            List.length_append, hretries.length_retries, Nat.add_assoc, hnext]
          rfl

end Plan

namespace Execution

variable {τ σ : Type} {client : Client τ} {env : Environment σ} {call : Call} {id : InvocationId}
  {m : Machine τ σ} {cause : Break}

/-- A call breaks off. -/
inductive Breaks (client : Client τ) (env : Environment σ) (call : Call) (id : InvocationId)
    (m : Machine τ σ) : Break → Prop where
  | unknownSigner {failure : Failure}
      (hsigner : client.signers.resolve call.signer = .error failure) :
      Breaks client env call id m (.unknownSigner failure)
  | run {signer : Signer} {cause : Break}
      (hsigner : client.signers.resolve call.signer = .ok signer)
      (hbreaks : (plan client env call signer).Breaks
        ((Context.first id (client.strategy.limit m.strategy)).info.limit - 1)
        (Context.first id (client.strategy.limit m.strategy)) m cause) :
      Breaks client env call id m cause

/-- The states that calls share, as a call leaves them after the last of `k` decisions for a
retry. -/
inductive Leaves (client : Client τ) (env : Environment σ) (call : Call) (id : InvocationId)
    (m : Machine τ σ) : Nat → τ → SkewState → Prop where
  | start : Leaves client env call id m 0 m.strategy m.skew
  | run {signer : Signer} {k : Nat} {strategy : τ} {skew : SkewState}
      (hsigner : client.signers.resolve call.signer = .ok signer)
      (hleaves : (plan client env call signer).Leaves
        ((Context.first id (client.strategy.limit m.strategy)).info.limit - 1)
        (Context.first id (client.strategy.limit m.strategy)) m k strategy skew) :
      Leaves client env call id m k strategy skew

/-- What a call is that breaks off: the failure is the caller's as it is, with a number of attempts;
every attempt before was followed by a retry, and nothing comes after but how far the last one came;
and the states that calls share are those that the last decision for a retry left. -/
structure BreaksOff (client : Client τ) (env : Environment σ) (call : Call) (id : InvocationId)
    (m : Machine τ σ) (cause : Break) (e : Execution τ σ) : Prop where
  ended : ∃ n before rest, e.result = .error (cause.failure.withAttempts n) ∧
    e.journal = .began :: (before ++ rest) ++
      [.finished ⟨n, cause.failure.status, some cause.failure.kind⟩] ∧
    Journal.Retried before ∧ (∀ entry ∈ rest, entry.isIdle = true) ∧
    (Journal.starts rest).length = cause.starts ∧ Journal.sends rest = cause.sends
  shared : Leaves client env call id m e.journal.retries.length e.machine.strategy e.machine.skew

/-- How the failure of the attempts is told. -/
theorem execute_of_error {failure : Failure} {k : Option Nat}
    (hresult : (attempts client env call id m).value.result =
      .error { failure with attempts := k }) :
    let n := k.getD (attempts client env call id m).value.attempt
    (execute client env call id m).result = .error (failure.withAttempts n) ∧
      (execute client env call id m).journal =
        .began :: (attempts client env call id m).journal ++
          [.finished ⟨n, failure.status, some failure.kind⟩] := by
  simp only [execute, close, hresult]
  exact ⟨rfl, rfl⟩

theorem attempts_of_unknown {failure : Failure} (env : Environment σ) (id : InvocationId)
    (m : Machine τ σ) (hsigner : client.signers.resolve call.signer = .error failure) :
    attempts client env call id m = ⟨⟨.error failure, 1⟩, [], m⟩ := by
  simp only [attempts, hsigner]
  rfl

theorem Breaks.breaksOff (hbreaks : Breaks client env call id m cause) :
    BreaksOff client env call id m cause (execute client env call id m) := by
  cases hbreaks with
  | @unknownSigner failure hsigner =>
      have hran := attempts_of_unknown env id m hsigner
      obtain ⟨htold, hjournal⟩ :=
        execute_of_error (k := failure.attempts) (congrArg (·.value.result) hran)
      have hmachine : (execute client env call id m).machine = m := congrArg (·.machine) hran
      rw [hran] at htold hjournal
      refine ⟨⟨_, [], [], htold, hjournal, ⟨rfl, rfl, rfl⟩, List.forall_mem_nil _, rfl, rfl⟩, ?_⟩
      rw [retries_execute, hran, hmachine]
      exact .start
  | run hsigner hbreaks =>
      obtain ⟨⟨k, hresult⟩, ⟨before, rest, hran, hbefore⟩, hshared⟩ := hbreaks.breaksOff
      rw [← attempts_eq_run hsigner] at hresult hran hshared
      obtain ⟨htold, hjournal⟩ := execute_of_error hresult
      rw [hran] at hjournal
      refine ⟨⟨_, before, rest, htold, hjournal, hbefore⟩, ?_⟩
      rw [retries_execute]
      exact .run hsigner hshared

theorem breaks_or_concluded (client : Client τ) (env : Environment σ) (call : Call)
    (id : InvocationId) (m : Machine τ σ) :
    (∃ cause, Breaks client env call id m cause) ∨
      (execute client env call id m).journal.Concluded := by
  rcases attempts_cases client env call id m with ⟨failure, hsigner, -⟩ | ⟨signer, hsigner, hruns⟩
  · exact .inl ⟨_, .unknownSigner hsigner⟩
  · rcases hruns.breaks_or_concluded with ⟨cause, hbreaks⟩ | ⟨hanswers, hretries⟩
    · exact .inl ⟨cause, .run hsigner hbreaks⟩
    · refine .inr ⟨?_, ?_⟩
      · rwa [answers_execute, starts_execute]
      · rwa [retries_execute, starts_execute]

/-- A call that is cancelled before it begins does nothing. -/
theorem execute_of_cancelled (id : InvocationId) {signer : Signer}
    (hsigner : client.signers.resolve call.signer = .ok signer)
    (hcancelled : env.cancelled m.world = true) :
    let e := execute client env call id m
    e.result = .error (Failure.cancelled.withAttempts 0) ∧ e.journal.starts = [] ∧
      e.journal.sends = [] ∧ e.machine = m := by
  have hstops : (plan client env call signer).Stops
      ((Context.first id (client.strategy.limit m.strategy)).info.limit - 1)
      (Context.first id (client.strategy.limit m.strategy)) m _ := .cancelled hcancelled
  have hran : attempts client env call id m = _ :=
    (attempts_eq_run hsigner).trans hstops.eq_run.symm
  simp only [execute, close, hran]
  exact ⟨rfl, rfl, rfl, rfl⟩

/-- **A call that breaks off leaves everything as it was.**  Whatever the caller cancels, what was
sent is the beginning of what would have been sent.  Every call breaks off in one of the five ways,
or its last attempt was answered; and one that breaks off ends with the failure that broke it off,
starts nothing more, and leaves what calls share as the last decision for a retry left it.  A call
that is cancelled before it begins sends nothing and reports no attempt, if its signer is known; if
not, the missing signer is reported, with one attempt. -/
theorem execute_breaks (client : Client τ) (env : Environment σ) (call : Call) (id : InvocationId)
    (m : Machine τ σ) :
    let e := execute client env call id m
    e.journal.sends <+: (execute client env.uncancelled call id m).journal.sends ∧
      ((∃ cause, Breaks client env call id m cause) ∨ e.journal.Concluded) ∧
      (∀ cause, Breaks client env call id m cause → BreaksOff client env call id m cause e) ∧
      (env.cancelled m.world = true →
        e.journal.starts = [] ∧ e.journal.sends = [] ∧ e.machine = m ∧
          (∀ signer, client.signers.resolve call.signer = .ok signer →
            e.result = .error (Failure.cancelled.withAttempts 0)) ∧
          ∀ failure, client.signers.resolve call.signer = .error failure →
            e.result = .error (failure.withAttempts 1)) := by
  intro e
  refine ⟨sends_execute_uncancelled client env call id m, breaks_or_concluded client env call id m,
    fun cause hbreaks => hbreaks.breaksOff, fun hcancelled => ?_⟩
  cases hsigner : client.signers.resolve call.signer with
  | ok signer =>
      obtain ⟨hresult, hstarts, hsends, hmachine⟩ :=
        execute_of_cancelled id hsigner hcancelled
      refine ⟨hstarts, hsends, hmachine, fun _ _ => hresult, fun _ hfails => ?_⟩
      cases hfails
  | error failure =>
      obtain ⟨fault, rfl⟩ := SignerRegistry.configuration_of_resolve hsigner
      have hran := attempts_of_unknown env id m hsigner
      have htold : (attempts client env call id m).value.result =
          .error { Failure.configuration fault with attempts := none } :=
        congrArg (·.value.result) hran
      have hresult := (execute_of_error htold).1
      rw [hran] at hresult
      refine ⟨?_, ?_, congrArg Traced.machine hran, fun _ hknown => ?_, fun _ hfails => ?_⟩
      · exact (starts_execute ..).trans (congrArg (·.journal.starts) hran)
      · exact (sends_execute ..).trans (congrArg (·.journal.sends) hran)
      · cases hknown
      · cases hfails
        exact hresult

/-- A call is refused by a service that is an hour ahead, then by one that is busy, and is cancelled
during the wait that it has paid for.  It sends nothing more; the offset that it measured and the
tokens that it paid stay as the decision for the retry left them. -/
theorem execute_breaks_plain :
    let client := Rehearsal.plainClient (Standard.strategy Standard.rules .standard)
    let m : Machine Quota Rehearsal.World :=
      { Rehearsal.plainMachine .standard [] with
        world := { Rehearsal.World.replying [.response Rehearsal.hourAhead,
            .response Rehearsal.busyForFive, .response Rehearsal.plainResponse] with
          cancelsAt := some 3 } }
    let e := execute client Rehearsal.environment Rehearsal.plainCall .nil m
    (∃ cause, cause.failure.kind = .cancelled ∧
      BreaksOff client Rehearsal.environment Rehearsal.plainCall .nil m cause e ∧
      e.result = .error (cause.failure.withAttempts 2)) ∧
      e.journal.sends.length = 2 ∧ e.journal.retries.length = 2 ∧
      m.strategy.available = 500 ∧ e.machine.strategy.available = 495 ∧
      m.skew.offset.millis = 0 ∧ e.machine.skew.offset.millis = 3600000 ∧
      e.journal.sends <+: (execute client Rehearsal.environment.uncancelled Rehearsal.plainCall .nil
        m).journal.sends := by
  intro client m e
  obtain ⟨hsends, hbreaks, hleaves, -⟩ :=
    execute_breaks client Rehearsal.environment Rehearsal.plainCall .nil m
  have hfinished : e.journal.getLast? = some (.finished ⟨2, none, some .cancelled⟩) := by
    decide +kernel
  have hretries : e.journal.retries.length = 2 := by decide +kernel
  have hstarts : e.journal.starts.length = 2 := by decide +kernel
  refine ⟨?_, by decide +kernel, hretries, by decide, by decide +kernel, by decide,
    by decide +kernel, hsends⟩
  rcases hbreaks with ⟨cause, hbreaks⟩ | ⟨-, hnext⟩
  · have hoff := hleaves cause hbreaks
    obtain ⟨n, _, _, hresult, hjournal, -⟩ := hoff.ended
    rw [hjournal, List.getLast?_concat] at hfinished
    obtain ⟨rfl, -, hkind⟩ :=
      Summary.mk.inj (Entry.finished.inj (Option.some.inj hfinished))
    exact ⟨cause, Option.some.inj hkind, hoff, hresult⟩
  · rw [hretries, hstarts] at hnext
    cases hnext

/-- With a token that is cancelled already, a call for a signer that is not known is reported as one
attempt, though none is made. -/
theorem cancelled_unknown_signer_counted :
    let client := Rehearsal.plainClient (Standard.strategy Standard.rules .standard)
    let m : Machine Quota Rehearsal.World :=
      { Rehearsal.plainMachine .standard [] with
        world := { Rehearsal.World.replying [] with cancelled := true } }
    let e := execute client Rehearsal.environment
      (Rehearsal.plainCall.withSigner "nobody".toList) .nil m
    Rehearsal.environment.cancelled m.world = true ∧
      e.result = .error
        ((Failure.configuration (.unknownSigner "nobody".toList)).withAttempts 1) ∧
      e.journal = [.began, .finished ⟨1, none, some .configuration⟩] := by
  intro client m e
  exact ⟨rfl, by rfl, by decide +kernel⟩

end Execution

end ServiceCall
