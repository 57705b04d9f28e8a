import ServiceCall.Proofs.Execution.Dates
import ServiceCall.Proofs.Execution.Setbacks

/-!
# Crashes

A call crashes at the first time that it is to write and that has no date: the deadline of an
attempt, when its request is built, or the time of signing.  Up to there it does what it would do
otherwise, and if it does not crash it returns what `execute` gives.  An observer of a call that
crashes is told of a start last, and never of the end.
-/

namespace ServiceCall

variable {τ σ : Type}

theorem Stamp.isNone_write? (t : Instant) : (write? t).isNone = !hasDate t := by
  rw [write?]
  cases hasDate t <;> rfl

theorem AttemptInfo.unwritable?_eq_some_iff {i : AttemptInfo} {t : Instant} :
    i.unwritable? = some t ↔ i.deadline = some t ∧ Stamp.hasDate t = false := by
  rw [unwritable?, Option.filter_eq_some_iff, Stamp.isNone_write?, Bool.not_eq_true']

theorem AttemptInfo.unwritable?_eq_none_iff {i : AttemptInfo} :
    i.unwritable? = none ↔ ∀ t ∈ i.deadline, Stamp.hasDate t = true := by
  simp [unwritable?, Option.filter_eq_none_iff, Stamp.isNone_write?]

theorem Signer.unwritable?_eq_some_iff {s : Signer} {t u : Instant} :
    s.unwritable? t = some u ↔
      (∃ config, s = .sigV4 config) ∧ t = u ∧ Stamp.hasDate t = false := by
  cases s with
  | sigV4 config =>
      rw [unwritable?, Option.filter_eq_some_iff, Option.some_inj, Stamp.isNone_write?,
        Bool.not_eq_true']
      constructor
      · rintro ⟨rfl, hundated⟩
        exact ⟨⟨config, rfl⟩, rfl, hundated⟩
      · rintro ⟨-, rfl, hundated⟩
        exact ⟨rfl, hundated⟩
  | null | bearer | custom => simp [unwritable?]

namespace Plan

variable {p : Plan τ σ} {left later : Nat} {context reached following : Context}
  {m start after : Machine τ σ} {before journal : Journal} {crash : Traced τ σ Instant}

/-- The ways in which a pass can crash. -/
inductive Crashes (p : Plan τ σ) (context : Context) (m : Machine τ σ) :
    Traced τ σ Instant → Prop where
  | building {request : Http.Request} {t : Instant}
      (hopen : p.env.cancelled m.world = false)
      (hbuilt : p.built (context.withOffset m.skew.offset) m.turn = .ok request)
      (hdeadline : context.info.deadline = some t) (hundated : Stamp.hasDate t = false) :
      Crashes p context m
        ⟨t, [.opened context.info.attempt context.info.limit,
            .started (context.withOffset m.skew.offset), .entered .building],
          { m with world := p.env.notice context.info.attempt m.world, turn := m.turn + 1 }⟩
  | signing {request : Http.Request} {config : SigV4} {now : Instant} {world : σ}
      (hopen : p.env.cancelled m.world = false)
      (hbuilt : p.built (context.withOffset m.skew.offset) m.turn = .ok request)
      (hdeadline : ∀ t ∈ context.info.deadline, Stamp.hasDate t = true)
      (hnow : p.env.now (p.env.notice context.info.attempt m.world) = (now, world))
      (hsigner : p.signer = .sigV4 config)
      (hundated : Stamp.hasDate (m.skew.offset.apply now) = false) :
      Crashes p context m
        ⟨m.skew.offset.apply now, [.opened context.info.attempt context.info.limit,
            .started (context.withOffset m.skew.offset), .entered .building, .entered .signing],
          { m with world, turn := m.turn + 1 }⟩

/-- The loop's crash goes in one of these ways. -/
theorem crashes_of_crash? (hcrash : p.crash? context m = some crash) :
    p.Crashes context m crash := by
  rw [crash?] at hcrash
  split at hcrash
  · cases hcrash
  · next hopen =>
      have hopen := Bool.eq_false_iff.2 hopen
      split at hcrash
      · cases hcrash
      · next request hbuilt =>
          split at hcrash
          · next t hunwritable =>
              obtain ⟨hdeadline, hundated⟩ := AttemptInfo.unwritable?_eq_some_iff.1 hunwritable
              obtain rfl := Option.some.inj hcrash
              exact .building hopen hbuilt hdeadline hundated
          · next hwritable =>
              rcases hnow : p.env.now (p.env.notice context.info.attempt m.world) with ⟨now, world⟩
              have hdeadline := AttemptInfo.unwritable?_eq_none_iff.1 hwritable
              simp only [Context.info_withOffset, hnow] at hcrash
              obtain ⟨t, hunwritable, rfl⟩ := Option.map_eq_some_iff.1 hcrash
              obtain ⟨⟨config, hsigner⟩, rfl, hundated⟩ :=
                Signer.unwritable?_eq_some_iff.1 hunwritable
              exact .signing hopen hbuilt hdeadline hnow hsigner hundated

/-- And it goes in one way only. -/
theorem Crashes.crash?_eq (hcrashes : p.Crashes context m crash) :
    p.crash? context m = some crash := by
  cases hcrashes with
  | building hopen hbuilt hdeadline hundated =>
      have hunwritable := AttemptInfo.unwritable?_eq_some_iff.2 ⟨hdeadline, hundated⟩
      simp only [crash?, hopen, hbuilt, Context.info_withOffset, hunwritable]
      rfl
  | signing hopen hbuilt hdeadline hnow hsigner hundated =>
      have hwritable := AttemptInfo.unwritable?_eq_none_iff.2 hdeadline
      have hunwritable := Signer.unwritable?_eq_some_iff.2 ⟨⟨_, hsigner⟩, rfl, hundated⟩
      simp only [crash?, hopen, hbuilt, Context.info_withOffset, hwritable, hnow]
      exact congrArg (Option.map _) hunwritable

theorem crash?_eq_none_iff :
    p.crash? context m = none ↔ ∀ crash, ¬p.Crashes context m crash := by
  rw [Option.eq_none_iff_forall_ne_some]
  exact forall_congr' fun crash => not_congr ⟨crashes_of_crash?, Crashes.crash?_eq⟩

theorem Crashes.undated (hcrashes : p.Crashes context m crash) :
    Stamp.hasDate crash.value = false := by
  cases hcrashes with
  | building _ _ _ hundated | signing _ _ _ _ _ hundated => exact hundated

/-- A crash is in an attempt that was started, and before it is sent. -/
theorem Crashes.course (hcrashes : p.Crashes context m crash) (s : Summary) :
    Course context.info.attempt (crash.journal.milestones ++ [.finished s]) := by
  cases hcrashes with
  | building | signing => exact .unsent (context.withOffset m.skew.offset) s

/-- What was written down before a crash is what the run begins with. -/
theorem Crashes.journal_run (hcrashes : p.Crashes context m crash) (left : Nat) :
    ∃ rest, (p.run left context m).journal = crash.journal ++ rest := by
  have hattempts := p.attempts_attempt (context.withOffset m.skew.offset) m
  cases hcrashes with
  | building hopen hbuilt | signing hopen hbuilt =>
      obtain ⟨rest, hjournal⟩ : ∃ rest, (p.run left context m).journal = _ ++ rest :=
        p.journal_run_attempt hopen left
      rw [hjournal]
      generalize p.attempt (context.withOffset m.skew.offset) m = trial at hattempts
      cases hattempts with
      | unbuilt hunbuilt => cases hunbuilt.symm.trans hbuilt
      | unsigned | overBudget | interrupted | succeeded | broken => exact ⟨_, rfl⟩

/-! ## Up to the crash -/

/-- A run comes to its first pass, and to those that a run after its retry comes to. -/
theorem Reaches.cases_head (hreaches : p.Reaches left context m before later reached start) :
    (left = later ∧ context = reached ∧ m = start) ∨
      ∃ fewer following journal after rest, left = fewer + 1 ∧
        p.Retries context m ⟨following, journal, after⟩ ∧
        p.Reaches fewer following after rest later reached start := by
  induction hreaches with
  | start => exact .inl ⟨rfl, rfl, rfl⟩
  | again _ hretries ih =>
      rcases ih with ⟨rfl, rfl, rfl⟩ | ⟨fewer, following, journal, after, _, hleft, hfirst, hrest⟩
      · exact .inr ⟨_, _, _, _, _, rfl, hretries, .start⟩
      · exact .inr ⟨fewer, following, journal, after, _, hleft, hfirst, hrest.again hretries⟩

/-- A pass leads to one next pass, or to none. -/
theorem Retries.unique {first second : Traced τ σ Context} (hfirst : p.Retries context m first)
    (hsecond : p.Retries context m second) : first = second := by
  have hpass (retried : Traced τ σ Context) (hretries : p.Retries context m retried) :
      p.pass (fun _ => context) (some fun following after => ⟨following, [], after⟩) context m =
        retried := by
    rw [hretries.pass_eq]
    simp
  exact (hpass first hfirst).symm.trans (hpass second hsecond)

theorem Stops.not_retries {ran : Traced τ σ Ending} {retried : Traced τ σ Context}
    (hstops : p.Stops (left + 1) context m ran) (hretries : p.Retries context m retried) :
    False := by
  let next (following : Context) (after : Machine τ σ) : Traced τ σ (Option Context) :=
    ⟨some following, [], after⟩
  have hlast :=
    congrArg Traced.value (hstops.pass_eq (fun _ => none) (some_eq_none_iff next left))
  rw [hretries.pass_eq] at hlast
  cases hlast

theorem perform_of_crash? (hcrash : p.crash? context m = some crash) (left : Nat) :
    p.perform left context m = crash.map .error := by
  cases left with
  | zero => rw [perform, guarded, hcrash]
  | succ left => rw [perform, guarded, hcrash]

theorem Stops.perform_eq {ran : Traced τ σ Ending} (hstops : p.Stops left context m ran)
    (hcrash : p.crash? context m = none) : p.perform left context m = ran.map .ok := by
  cases left with
  | zero =>
      rw [perform, guarded, hcrash]
      exact hstops.pass_eq Except.ok (iff_of_true rfl rfl)
  | succ left =>
      rw [perform, guarded, hcrash]
      exact hstops.pass_eq Except.ok (some_eq_none_iff (p.perform left) left)

theorem Retries.perform_eq (hretries : p.Retries context m ⟨following, journal, after⟩)
    (hcrash : p.crash? context m = none) :
    p.perform (left + 1) context m = { p.perform left following after with
      journal := journal ++ (p.perform left following after).journal } := by
  rw [perform, guarded, hcrash]
  exact hretries.pass_eq Except.ok (p.perform left)

/-- A run falls: it comes to a pass that crashes. -/
inductive Falls (p : Plan τ σ) (left : Nat) (context : Context) (m : Machine τ σ) :
    Traced τ σ Instant → Prop where
  | intro {before : Journal} {later : Nat} {reached : Context} {start : Machine τ σ}
      {crash : Traced τ σ Instant}
      (hreaches : p.Reaches left context m before later reached start)
      (hcrashes : p.Crashes reached start crash) :
      Falls p left context m ⟨crash.value, before ++ crash.journal, crash.machine⟩

theorem Crashes.falls (hcrashes : p.Crashes context m crash) (left : Nat) :
    p.Falls left context m crash := .intro .start hcrashes

theorem Falls.retry (hretries : p.Retries context m ⟨following, journal, after⟩)
    (hfalls : p.Falls left following after crash) :
    p.Falls (left + 1) context m { crash with journal := journal ++ crash.journal } := by
  obtain ⟨hreaches, hcrashes⟩ := hfalls
  rw [← List.append_assoc]
  exact .intro (hreaches.retry hretries) hcrashes

/-- A run that is over after its first pass falls there. -/
theorem Stops.crashes {ran : Traced τ σ Ending} (hstops : p.Stops left context m ran)
    (hfalls : p.Falls left context m crash) : ∃ first, p.Crashes context m first := by
  obtain ⟨hreaches, hcrashes⟩ := hfalls
  rcases hreaches.cases_head with ⟨-, rfl, rfl⟩ | ⟨_, _, _, _, _, rfl, hretries, -⟩
  · exact ⟨_, hcrashes⟩
  · cases hstops.not_retries hretries

/-- Any other run falls there, or after the retry. -/
theorem Retries.crashes_or_falls (hretries : p.Retries context m ⟨following, journal, after⟩)
    (hfalls : p.Falls (left + 1) context m crash) :
    (∃ first, p.Crashes context m first) ∨ ∃ rest, p.Falls left following after rest := by
  obtain ⟨hreaches, hcrashes⟩ := hfalls
  rcases hreaches.cases_head with ⟨-, rfl, rfl⟩ | ⟨_, _, _, _, _, hleft, hfirst, hrest⟩
  · exact .inl ⟨_, hcrashes⟩
  · cases hleft
    cases hfirst.unique hretries
    exact .inr ⟨_, .intro hrest hcrashes⟩

/-- A run that must fall falls at the first pass that crashes, and does what it would do otherwise
up to there.  Any other run is as it would be. -/
theorem perform_cases (p : Plan τ σ) (left : Nat) (context : Context) (m : Machine τ σ) :
    (∃ crash, p.Falls left context m crash ∧ p.perform left context m = crash.map .error) ∨
      (∀ crash, ¬p.Falls left context m crash) ∧
        p.perform left context m = (p.run left context m).map .ok := by
  have hruns := p.runs_run left context m
  generalize p.run left context m = ran at hruns ⊢
  -- In each pass the crash comes first; only without it does the pass go as the run's does.
  induction hruns with
  | @last left context m _ hstops =>
      cases hcrash : p.crash? context m with
      | some crash =>
          exact .inl ⟨crash, (crashes_of_crash? hcrash).falls left, perform_of_crash? hcrash left⟩
      | none =>
          refine .inr ⟨fun crash hfalls => ?_, hstops.perform_eq hcrash⟩
          obtain ⟨first, hcrashes⟩ := hstops.crashes hfalls
          exact crash?_eq_none_iff.1 hcrash first hcrashes
  | @again left context following m after journal _ hretries hrest ih =>
      cases hcrash : p.crash? context m with
      | some crash =>
          exact .inl ⟨crash, (crashes_of_crash? hcrash).falls _, perform_of_crash? hcrash _⟩
      | none =>
          rw [hretries.perform_eq hcrash]
          rcases ih with ⟨crash, hfalls, hperform⟩ | ⟨hnone, hperform⟩
          · exact .inl ⟨_, hfalls.retry hretries, by rw [hperform]; rfl⟩
          · refine .inr ⟨fun crash hfalls => ?_, by rw [hperform]; rfl⟩
            rcases hretries.crashes_or_falls hfalls with ⟨first, hcrashes⟩ | ⟨rest, hlater⟩
            · exact crash?_eq_none_iff.1 hcrash first hcrashes
            · exact hnone rest hlater

/-- The passes before one begin the outline of a run. -/
theorem Reaches.course (hreaches : p.Reaches left context m before later reached start)
    {rest : Journal} (hrest : Course reached.info.attempt rest) :
    Course context.info.attempt (before.milestones ++ rest) := by
  induction hreaches generalizing rest with
  | start => exact hrest
  | again _ hretries ih =>
      rw [Journal.milestones_append, List.append_assoc]
      exact ih (hretries.course hrest)

end Plan

namespace Execution

variable {client : Client τ} {env : Environment σ} {call : Call} {id : InvocationId}
  {m : Machine τ σ} {c : Traced τ σ Instant}

/-- A call crashes when its run falls. -/
inductive Crashes (client : Client τ) (env : Environment σ) (call : Call) (id : InvocationId)
    (m : Machine τ σ) : Traced τ σ Instant → Prop where
  | intro {signer : Signer} {crash : Traced τ σ Instant}
      (hsigner : client.signers.resolve call.signer = .ok signer)
      (hfalls : (plan client env call signer).Falls
        ((Context.first id (client.strategy.limit m.strategy)).info.limit - 1)
        (Context.first id (client.strategy.limit m.strategy)) m crash) :
      Crashes client env call id m { crash with journal := .began :: crash.journal }

/-- What comes of a call is its crash, or without one its execution. -/
theorem perform_cases (client : Client τ) (env : Environment σ) (call : Call) (id : InvocationId)
    (m : Machine τ σ) :
    (∃ c, Crashes client env call id m c ∧ perform client env call id m = .crashed c) ∨
      (∀ c, ¬Crashes client env call id m c) ∧
        perform client env call id m = .returned (execute client env call id m) := by
  cases hsigner : client.signers.resolve call.signer with
  | error failure =>
      refine .inr ⟨?_, ?_⟩
      · rintro _ ⟨hknown, -⟩
        cases hknown.symm.trans hsigner
      · simp only [perform, execute, attempts, hsigner]
  | ok signer =>
      have hran : attempts client env call id m = _ := attempts_eq_run hsigner
      simp only [perform, execute, hran, hsigner]
      rcases (plan client env call signer).perform_cases
          ((Context.first id (client.strategy.limit m.strategy)).info.limit - 1)
          (.first id (client.strategy.limit m.strategy)) m with
        ⟨crash, hfalls, hperform⟩ | ⟨hnone, hperform⟩
      · refine .inl ⟨_, .intro hsigner hfalls, ?_⟩
        rw [hperform]
        rfl
      · refine .inr ⟨?_, ?_⟩
        · rintro _ ⟨hknown, hfalls⟩
          cases hknown.symm.trans hsigner
          exact hnone _ hfalls
        · rw [hperform]
          rfl

theorem Crashes.undated (hcrashes : Crashes client env call id m c) :
    Stamp.hasDate c.value = false := by
  obtain ⟨-, ⟨-, hcrashes⟩⟩ := hcrashes
  exact hcrashes.undated

/-- Up to its crash a call does what it does in its execution. -/
theorem Crashes.journal_execute (hcrashes : Crashes client env call id m c) :
    ∃ rest, (execute client env call id m).journal = c.journal ++ rest := by
  obtain ⟨hsigner, ⟨hreaches, hcrashes⟩⟩ := hcrashes
  obtain ⟨s, hjournal⟩ := Execution.journal_execute client env call id m
  obtain ⟨rest, hrun⟩ := hcrashes.journal_run _
  refine ⟨rest ++ [.finished s], ?_⟩
  rw [hjournal, attempts_eq_run hsigner, hreaches.run_eq]
  dsimp only
  rw [hrun]
  simp

/-- The outline of a call that crashes lacks nothing but the end. -/
theorem Crashes.course (hcrashes : Crashes client env call id m c) (s : Summary) :
    Course 1 (c.journal.milestones ++ [.finished s]) := by
  obtain ⟨hsigner, ⟨hreaches, hcrashes⟩⟩ := hcrashes
  have hcourse := hreaches.course (hcrashes.course s)
  rw [← List.append_assoc, ← Journal.milestones_append] at hcourse
  exact hcourse

/-- An observer of a call that crashes is told a trace without its end. -/
theorem Crashes.trace (hcrashes : Crashes client env call id m c) (s : Summary) :
    Trace 1 (c.journal.observations ++ [.finished s]) ∧ .finished s ∉ c.journal.observations := by
  have htrace := (hcrashes.course s).trace
  rw [Journal.observations_append, Journal.observations_milestones] at htrace
  obtain ⟨before, s', htold, hnone⟩ := htrace.exists_finished
  obtain ⟨rfl, -⟩ := List.append_inj' htold rfl
  exact ⟨htrace, hnone s⟩

/-- Its attempts are numbered from one on, and all but the last are sent. -/
theorem Crashes.numbered (hcrashes : Crashes client env call id m c) :
    c.journal.starts.map (·.info.attempt) = List.range' 1 c.journal.starts.length ∧
      (c.journal.sends.length = c.journal.starts.length ∨
        c.journal.sends.length + 1 = c.journal.starts.length) := by
  have hcourse := hcrashes.course ⟨0, none, none⟩
  have hstarts : Journal.starts (c.journal.milestones ++ [.finished ⟨0, none, none⟩]) =
      c.journal.starts := by
    rw [Journal.starts_append, Journal.starts_milestones]
    exact List.append_nil _
  have hsends : Journal.sends (c.journal.milestones ++ [.finished ⟨0, none, none⟩]) =
      c.journal.sends := by
    rw [Journal.sends_append, Journal.sends_milestones]
    exact List.append_nil _
  rw [← hstarts, ← hsends]
  exact ⟨hcourse.map_attempt_starts, hcourse.length_sends⟩

theorem Crashes.length_starts_le (hcrashes : Crashes client env call id m c) :
    c.journal.starts.length ≤ max 1 (client.strategy.limit m.strategy) := by
  obtain ⟨rest, hjournal⟩ := hcrashes.journal_execute
  have hle := length_starts_execute_le client env call id m
  rw [hjournal, Journal.starts_append, List.length_append] at hle
  omega

/-- A call does not crash while the clock stands in the years 1970 to 9999 and the offset that it
begins with and the time limit of an attempt stay in the calendar. -/
theorem not_crashes (hmodern : env.Modern) (hoffset : m.skew.offset.Fits .zero)
    (hlimit : m.skew.offset.Fits (call.timeout.getD client.defaults.requestTimeout))
    (hroom : (call.timeout.getD client.defaults.requestTimeout).nanos + 2 * Instant.span ≤
      Stamp.after) : ¬Crashes client env call id m c := by
  rintro ⟨hsigner, ⟨hreaches, hcrashes⟩⟩
  have htimely := hreaches.timely hmodern (Plan.timely_first _ id _ m)
  have hundated := hcrashes.undated
  cases hcrashes with
  | building _ _ hdeadline =>
      rw [htimely.hasDate_deadline hlimit hroom hdeadline] at hundated
      cases hundated
  | signing _ _ _ hnow =>
      rw [htimely.hasDate_apply hoffset (hmodern.now hnow)] at hundated
      cases hundated

/-- **What an observer is told, of every call.**  Attempts start with the numbers from one on, at
most as many as the strategy allowed when the call began, or one; all of them are sent, or all but
the last; and a retry directly follows the failure of its attempt.  A call that returns tells its
end once and last.  A call that crashes, at a time without a date, has told what its execution would
tell up to there, and tells no end.  It crashes only if it comes to such a time, which does not
happen while the clock stands in the years 1970 to 9999, the offset that it begins with moves no
reading out of the calendar, and the time limit of an attempt leaves room for a deadline. -/
theorem perform_trace (client : Client τ) (env : Environment σ) (call : Call) (id : InvocationId)
    (m : Machine τ σ) :
    let o := perform client env call id m
    let starts := o.journal.starts
    let limit := call.timeout.getD client.defaults.requestTimeout
    starts.map (·.info.attempt) = List.range' 1 starts.length ∧
      starts.length ≤ max 1 (client.strategy.limit m.strategy) ∧
      (o.journal.sends.length = starts.length ∨ o.journal.sends.length + 1 = starts.length) ∧
      (match o with
        | .returned e =>
          (∀ c, ¬Crashes client env call id m c) ∧ e = execute client env call id m ∧
            Trace 1 e.journal.observations ∧ Course 1 e.journal.milestones
        | .crashed c =>
          Crashes client env call id m c ∧ Stamp.hasDate c.value = false ∧
            (∃ rest, (execute client env call id m).journal = c.journal ++ rest) ∧
            ∀ s, Trace 1 (c.journal.observations ++ [.finished s]) ∧
              Course 1 (c.journal.milestones ++ [.finished s]) ∧
              .finished s ∉ c.journal.observations) ∧
      (env.Modern → m.skew.offset.Fits .zero → m.skew.offset.Fits limit →
        limit.nanos + 2 * Instant.span ≤ Stamp.after →
          o = .returned (execute client env call id m)) := by
  intro o starts limit
  rcases perform_cases client env call id m with ⟨c, hcrashes, hperform⟩ | ⟨hnone, hperform⟩
  · obtain ⟨hnumbers, hsends⟩ := hcrashes.numbered
    dsimp only [starts, o]
    rw [hperform]
    refine ⟨hnumbers, hcrashes.length_starts_le, hsends, ?_, fun hmodern hoffset hlimit hroom => ?_⟩
    · exact ⟨hcrashes, hcrashes.undated, hcrashes.journal_execute,
        fun s => ⟨(hcrashes.trace s).1, hcrashes.course s, (hcrashes.trace s).2⟩⟩
    · exact absurd hcrashes (not_crashes hmodern hoffset hlimit hroom)
  · obtain ⟨htrace, hcourse, hnumbers, hlength, hsends⟩ := execute_trace client env call id m
    dsimp only [starts, o]
    rw [hperform]
    exact ⟨hnumbers, hlength, hsends, ⟨hnone, rfl, htrace, hcourse⟩, fun _ _ _ _ => rfl⟩

open Rehearsal

/-- A service that is an hour ahead refuses an attempt and answers the next.  The call returns, and
tells its end. -/
theorem perform_trace_plain :
    let env : Environment World := { environment with now := ticking 0 }
    let client := plainClient (Standard.strategy Standard.rules .standard)
    let m := plainMachine Quota.standard [.response hourAhead, .response plainResponse]
    let e := execute client env plainCall .nil m
    env.Modern ∧ m.skew.offset.Fits .zero ∧ m.skew.offset.Fits (.ofSeconds 30) ∧
      perform client env plainCall .nil m = .returned e ∧
      e.journal.starts.length = 2 ∧ Trace 1 e.journal.observations := by
  intro env client m e
  have hzero : m.skew.offset.Fits .zero := ClockOffset.fits_of_le (by decide)
  have hthirty : m.skew.offset.Fits (.ofSeconds 30) := ClockOffset.fits_of_le (by decide)
  have htwo : e.journal.starts.length = 2 := by decide +kernel
  have htraced := perform_trace client env plainCall .nil m
  have hperform : perform client env plainCall .nil m = .returned e :=
    htraced.2.2.2.2 modern_ticking hzero hthirty (by decide)
  rw [hperform] at htraced
  obtain ⟨-, -, -, ⟨-, -, htrace, -⟩, -⟩ := htraced
  exact ⟨modern_ticking, hzero, hthirty, hperform, htwo, htrace⟩

/-- A time limit of three hundred thousand years crashes the second attempt, and the end is not
told. -/
theorem crash_without_end :
    let env : Environment World := { environment with now := ticking 0 }
    let client := plainClient (Standard.strategy Standard.rules .standard)
    let call := plainCall.withTimeout (.ofSeconds 10000000000000)
    let o := perform client env call .nil
      (plainMachine .standard [.response busyForFive, .response plainResponse])
    (∃ c, o = .crashed c) ∧ o.journal.starts.map (·.info.attempt) = [1, 2] ∧
      (∀ s, .finished s ∉ o.journal.observations) ∧ ¬Trace 1 o.journal.observations := by
  intro env client call o
  have hcrashed : (match o with | .crashed _ => true | .returned _ => false) = true := by
    decide +kernel
  have hstarts : o.journal.starts.map (·.info.attempt) = [1, 2] := by decide +kernel
  have hquiet : o.journal.observations.all
      (fun told => match told with | .finished _ => false | _ => true) = true := by
    decide +kernel
  have hnone (s : Summary) : .finished s ∉ o.journal.observations :=
    fun hs => Bool.noConfusion (List.all_eq_true.1 hquiet _ hs)
  refine ⟨?_, hstarts, hnone, fun htrace => ?_⟩
  · generalize o = outcome at hcrashed
    cases outcome with
    | crashed c => exact ⟨c, rfl⟩
    | returned e => cases hcrashed
  · obtain ⟨before, s, hsplit, -⟩ := htrace.exists_finished
    exact hnone s (hsplit ▸ List.mem_append_right before (List.mem_singleton.2 rfl))

end Execution

end ServiceCall
