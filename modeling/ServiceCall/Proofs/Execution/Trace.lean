import ServiceCall.Proofs.Execution.Passes

/-!
# The trace of a call

Whatever the strategy, the service and the caller do, what an observer is told of a call has one
shape: attempts start with the numbers from one on, a retry comes after the failure of its attempt
and before the next start, and the end is told once and last.  The shape is first proved of the
milestones of the journal, where sends and failures stand between what the observer hears.
-/

namespace ServiceCall

/-- The outline of a call from attempt `n` on, with its sends and failures. -/
inductive Course : Nat → Journal → Prop where
  | finished (n : Nat) (s : Summary) : Course n [.finished s]
  | unsent (c : Context) (s : Summary) :
      Course c.info.attempt [.started c, .finished s]
  | unfailed (c : Context) (sent : Sent) (s : Summary) :
      Course c.info.attempt [.started c, .sent sent, .finished s]
  | failed (c : Context) (sent : Sent) (kind : Kind) (status : Option Status) (retryable : Bool)
      (correction : Option Correction) (s : Summary) :
      Course c.info.attempt
        ([.started c, .sent sent, .broke kind status retryable]
          ++ correction.toList.map .corrected ++ [.finished s])
  | retried (c : Context) (sent : Sent) (status : Option Status) (retryable : Bool)
      (correction : Option Correction) (r : Scheduled) (hr : r.attempt = c.info.attempt)
      {rest : Journal} (hrest : Course (c.info.attempt + 1) rest) :
      Course c.info.attempt
        ([.started c, .sent sent, .broke r.kind status retryable]
          ++ correction.toList.map .corrected ++ .scheduled r :: rest)

/-- What an observer can be told of a call from attempt `n` on. -/
inductive Trace : Nat → List Observation → Prop where
  | finished (n : Nat) (s : Summary) : Trace n [.finished s]
  | ended (c : Context) (correction : Option Correction) (s : Summary) :
      Trace c.info.attempt
        (.started c :: correction.toList.map .corrected ++ [.finished s])
  | retried (c : Context) (correction : Option Correction) (r : Scheduled)
      (hr : r.attempt = c.info.attempt) {rest : List Observation}
      (hrest : Trace (c.info.attempt + 1) rest) :
      Trace c.info.attempt
        (.started c :: correction.toList.map .corrected ++ .scheduled r :: rest)

/-- The end is told once and last. -/
theorem Trace.exists_finished {n : Nat} {told : List Observation} (htrace : Trace n told) :
    ∃ before s, told = before ++ [.finished s] ∧ ∀ s', .finished s' ∉ before := by
  induction htrace with
  | finished n s => exact ⟨[], s, rfl, fun _ => List.not_mem_nil⟩
  | ended c correction s => exact ⟨_, s, rfl, by cases correction <;> simp⟩
  | retried c correction r _ _ ih =>
      obtain ⟨before, s, hrest, hnone⟩ := ih
      refine ⟨.started c :: correction.toList.map .corrected ++ .scheduled r :: before, s, ?_, ?_⟩
      · rw [hrest]
        simp
      · cases correction <;> simpa using hnone

namespace Course

open Journal

/-- The observer hears the outline without sends and failures. -/
theorem trace {n : Nat} {j : Journal} (hcourse : Course n j) : Trace n j.observations := by
  induction hcourse with
  | finished n s => exact .finished n s
  | unsent c s => exact .ended c none s
  | unfailed c sent s => exact .ended c none s
  | failed c sent kind status retryable correction s =>
      rw [observations_append, observations_append, observations_corrected]
      exact .ended c correction s
  | retried c sent status retryable correction r hr hrest ih =>
      rw [observations_append, observations_append, observations_corrected]
      exact .retried c correction r hr ih

/-- The attempts are numbered without gap or repetition. -/
theorem map_attempt_starts {n : Nat} {j : Journal} (hcourse : Course n j) :
    j.starts.map (·.info.attempt) = List.range' n j.starts.length := by
  induction hcourse with
  | finished n s => rfl
  | unsent c s => rfl
  | unfailed c sent s => rfl
  | failed c sent kind status retryable correction s =>
      rw [starts_append, starts_append, starts_corrected]
      rfl
  | retried c sent status retryable correction r hr hrest ih =>
      rw [starts_append, starts_append, starts_corrected]
      exact congrArg (c.info.attempt :: ·) ih

/-- Every attempt but the last one is sent. -/
theorem length_sends {n : Nat} {j : Journal} (hcourse : Course n j) :
    j.sends.length = j.starts.length ∨ j.sends.length + 1 = j.starts.length := by
  induction hcourse with
  | finished n s => exact .inl rfl
  | unsent c s => exact .inr rfl
  | unfailed c sent s => exact .inl rfl
  | failed c sent kind status retryable correction s =>
      simp only [starts_append, sends_append, starts_corrected, sends_corrected]
      exact .inl rfl
  | retried c sent status retryable correction r hr hrest ih =>
      simp only [starts_append, sends_append, starts_corrected, sends_corrected]
      exact ih.imp (congrArg (· + 1)) (congrArg (· + 1))

end Course

namespace Plan

variable {τ σ : Type} {p : Plan τ σ} {context : Context} {m : Machine τ σ}

theorem Rules.milestones {failure : Failure} {signedAt receivedAt : Instant}
    {ruled : Traced τ σ (Ruling × Context)}
    (hrules : p.Rules context failure signedAt receivedAt m ruled) :
    ruled.value.2.info = context.info ∧
      ∃ correction : Option Correction,
        ruled.journal.milestones = correction.toList.map .corrected := by
  cases hrules with
  | terminal => exact ⟨rfl, none, rfl⟩
  | @granted correction => exact ⟨rfl, some correction, rfl⟩
  | @judged correction _ ruled _ _ _ hjudges =>
      cases hjudges with
      | stopped | denied | approved =>
          refine ⟨rfl, correction, ?_⟩
          simp only [Journal.milestones_append, Journal.milestones_corrected]
          exact List.append_nil _

/-- A failed attempt was started and sent, and perhaps its failure corrects the clock. -/
theorem Fails.milestones {failure : Failure} {ruled : Traced τ σ (Ruling × Context)}
    (hfails : p.Fails context m failure ruled) :
    ruled.value.2.info = context.info ∧
      ∃ (sent : Sent) (correction : Option Correction),
        ruled.journal.milestones =
          [.started (context.withOffset m.skew.offset), .sent sent,
            .broke failure.kind failure.status failure.retryable]
          ++ correction.toList.map .corrected := by
  obtain ⟨_, hattempts, hrules⟩ := hfails
  cases hattempts with
  | @broken sent =>
      obtain ⟨hinfo, correction, hcorrection⟩ := hrules.milestones
      refine ⟨hinfo, sent, correction, ?_⟩
      rw [Journal.milestones_append, hcorrection]
      rfl

/-- A failure that is not retried ends the outline. -/
theorem Fails.course_last {failure : Failure} {ruled : Traced τ σ (Ruling × Context)}
    (hfails : p.Fails context m failure ruled) {tail : Journal} (htail : tail.milestones = [])
    (s : Summary) :
    Course context.info.attempt ((ruled.journal ++ tail).milestones ++ [.finished s]) := by
  obtain ⟨-, sent, correction, hmilestones⟩ := hfails.milestones
  rw [Journal.milestones_append, hmilestones, htail, List.append_nil]
  exact .failed (context.withOffset m.skew.offset) sent failure.kind failure.status
    failure.retryable correction s

/-- A scheduled retry is one round of the outline. -/
theorem Fails.course_scheduled {failure : Failure} {planned : Delay} {wait : Duration}
    {bonus : Bool} {ruled following : Context} {journal scheduling rest : Journal}
    {after later : Machine τ σ}
    (hfails : p.Fails context m failure ⟨(.again planned wait bonus, ruled), journal, after⟩)
    (hschedules : p.Schedules ruled failure planned wait bonus after
      ⟨.ok following, scheduling, later⟩)
    (hrest : Course following.info.attempt rest) :
    Course context.info.attempt ((journal ++ scheduling).milestones ++ rest) := by
  obtain ⟨hinfo, sent, correction, hmilestones⟩ := hfails.milestones
  cases hschedules with
  | scheduled =>
      have hattempt : ruled.info.attempt = context.info.attempt :=
        congrArg AttemptInfo.attempt hinfo
      rw [Context.attempt_advance, hattempt] at hrest
      rw [Journal.milestones_append, hmilestones, List.append_assoc]
      exact .retried (context.withOffset m.skew.offset) sent failure.status failure.retryable
        correction ⟨ruled.info.attempt, failure.kind, planned, wait, bonus⟩ hattempt hrest

theorem Retries.course {following : Context} {journal rest : Journal} {after : Machine τ σ}
    (hretries : p.Retries context m ⟨following, journal, after⟩)
    (hrest : Course following.info.attempt rest) :
    Course context.info.attempt (journal.milestones ++ rest) := by
  cases hretries with
  | intro hfails hschedules hpause => exact hfails.course_scheduled hschedules hrest

/-- However a run ends, its last pass ends the outline. -/
theorem Stops.course {left : Nat} {ran : Traced τ σ Ending}
    (hstops : p.Stops left context m ran) (s : Summary) :
    Course context.info.attempt (ran.journal.milestones ++ [.finished s]) := by
  cases hstops with
  | cancelled => exact .finished _ s
  | ended hopen hattempts =>
      cases hattempts with
      | unbuilt | unsigned | overBudget => exact .unsent (context.withOffset m.skew.offset) s
      | @interrupted sent | @succeeded sent =>
          exact .unfailed (context.withOffset m.skew.offset) sent s
  | refused hfails | lastAttempt hleft hfails => exact hfails.course_last rfl s
  | overBudget hleft hfails hschedules =>
      cases hschedules with
      | overBudget => exact hfails.course_last rfl s
  | interrupted hleft hfails hschedules hpause =>
      exact hfails.course_scheduled hschedules (.finished _ s)

/-- The outline of a run, however it goes. -/
theorem Runs.course {left : Nat} {ran : Traced τ σ Ending} (hruns : p.Runs left context m ran)
    (s : Summary) : Course context.info.attempt (ran.journal.milestones ++ [.finished s]) := by
  induction hruns with
  | last hstops => exact hstops.course s
  | again hretries hrest ih =>
      rw [Journal.milestones_append, List.append_assoc]
      exact hretries.course ih

/-- A last pass starts one attempt, or none when the caller cancelled before it. -/
theorem Stops.length_starts_le {left : Nat} {ran : Traced τ σ Ending}
    (hstops : p.Stops left context m ran) : ran.journal.starts.length ≤ 1 := by
  cases hstops with
  | cancelled => exact Nat.zero_le 1
  | ended hopen hattempts =>
      cases hattempts with
      | unbuilt | unsigned | overBudget | interrupted | succeeded => exact Nat.le_refl 1
  | refused hfails | lastAttempt hleft hfails =>
      obtain ⟨sent, a, hshows⟩ := hfails.shows
      rw [giveUp, Journal.starts_append, hshows.starts]
      exact Nat.le_refl 1
  | overBudget hleft hfails hschedules | interrupted hleft hfails hschedules hpause =>
      obtain ⟨sent, a, hshows⟩ := hfails.shows
      rw [(hshows.append hschedules.silent).starts]
      exact Nat.le_refl 1

/-- A run has no more attempts than it was given. -/
theorem Runs.length_starts_le {left : Nat} {ran : Traced τ σ Ending}
    (hruns : p.Runs left context m ran) : ran.journal.starts.length ≤ left + 1 := by
  induction hruns with
  | @last left _ _ _ hstops =>
      exact Nat.le_trans hstops.length_starts_le (Nat.le_add_left 1 left)
  | again hretries hrest ih =>
      obtain ⟨sent, a, hshows⟩ := hretries.shows
      rw [Journal.starts_append, hshows.starts, List.length_append, List.length_singleton,
        Nat.add_comm]
      exact Nat.succ_le_succ ih

end Plan

namespace Execution

variable {τ σ : Type}

theorem execute_course (client : Client τ) (env : Environment σ) (call : Call)
    (id : InvocationId) (m : Machine τ σ) :
    Course 1 (execute client env call id m).journal.milestones := by
  obtain ⟨s, hjournal⟩ := journal_execute client env call id m
  rw [hjournal, Journal.milestones_append, Journal.milestones_append]
  rcases attempts_cases client env call id m with ⟨failure, -, hran⟩ | ⟨signer, -, hruns⟩
  · rw [hran]
    exact .finished 1 s
  · exact hruns.course s

theorem length_starts_execute_le (client : Client τ) (env : Environment σ) (call : Call)
    (id : InvocationId) (m : Machine τ σ) :
    (execute client env call id m).journal.starts.length ≤
      max 1 (client.strategy.limit m.strategy) := by
  rw [starts_execute]
  rcases attempts_cases client env call id m with ⟨failure, -, hran⟩ | ⟨signer, -, hruns⟩
  · rw [hran]
    exact Nat.zero_le _
  · have hle := hruns.length_starts_le
    rwa [Context.limit_first, Nat.sub_add_cancel (Nat.le_max_left 1 _)] at hle

/-- For every strategy, service and caller: an observer is told a trace that begins with attempt
one; a retry directly follows the failure of its attempt; the attempts that start are numbered from
one on and are at most as many as the strategy allowed when the call began, or one; and all of them
are sent, or all but the last. -/
theorem execute_trace (client : Client τ) (env : Environment σ) (call : Call)
    (id : InvocationId) (m : Machine τ σ) :
    let e := execute client env call id m
    Trace 1 e.journal.observations ∧
      Course 1 e.journal.milestones ∧
      e.journal.starts.map (·.info.attempt) = List.range' 1 e.journal.starts.length ∧
      e.journal.starts.length ≤ max 1 (client.strategy.limit m.strategy) ∧
      (e.journal.sends.length = e.journal.starts.length ∨
        e.journal.sends.length + 1 = e.journal.starts.length) := by
  intro e
  have hcourse : Course 1 e.journal.milestones := execute_course client env call id m
  have hlength := length_starts_execute_le client env call id m
  rw [← Journal.observations_milestones, ← Journal.starts_milestones,
    ← Journal.sends_milestones]
  rw [← Journal.starts_milestones] at hlength
  exact ⟨hcourse.trace, hcourse, hcourse.map_attempt_starts, hlength, hcourse.length_sends⟩

end Execution

end ServiceCall
