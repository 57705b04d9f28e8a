import ServiceCall.Proofs.Execution.Labels
import ServiceCall.Proofs.Execution.Steering
import ServiceCall.Proofs.Time.Calendar
import ServiceCall.Rehearsal.Plain

/-!
# Times that are written down

A run writes down two kinds of times: the time at which a request is signed, and the deadline of a
later attempt.  Both must have a date, and the calendar is far shorter than the range of times.  A
shift by an offset that was measured stays near the clocks; the offset that a call begins with and
the time limit of its attempts are the caller's, and each of the two can lead out of the calendar.
-/

namespace ServiceCall

variable {τ σ : Type}

/-- A local clock that stands in the years 1970 to 9999. -/
def Environment.Modern (env : Environment σ) : Prop := ∀ world, (env.now world).1.Modern

theorem Environment.Modern.now {env : Environment σ} (hmodern : env.Modern) {world after : σ}
    {t : Instant} (hnow : env.now world = (t, after)) : t.Modern := by
  have hread := hmodern world
  rw [hnow] at hread
  exact hread

namespace Context

theorem deadline_zero (t : Instant) : deadline t .zero = t := by
  rw [deadline, Instant.add?, show t.nanos + (Duration.zero.nanos : Int) = t.nanos from
    Int.add_zero _, Instant.ofNanos?_nanos, Option.getD_some]

/-- A deadline is at most the limit after its reference, and not before it. -/
theorem deadline_mem (t : Instant) (limit : Duration) :
    t.nanos ≤ (deadline t limit).nanos ∧ (deadline t limit).nanos ≤ t.nanos + limit.nanos := by
  rw [deadline]
  cases hsum : t.add? limit with
  | none =>
      rw [Option.getD_none]
      omega
  | some sum =>
      rw [Option.getD_some, Instant.nanos_of_add? hsum]
      omega

theorem hasDate_deadline {t : Instant} {limit : Duration} (hlower : Stamp.first ≤ t.nanos)
    (hupper : t.nanos + limit.nanos < Stamp.after) : Stamp.hasDate (deadline t limit) = true := by
  obtain ⟨hfrom, hto⟩ := deadline_mem t limit
  exact (Stamp.hasDate_iff _).2 ⟨Int.le_trans hlower hfrom, Int.lt_of_le_of_lt hto hupper⟩

end Context

namespace ClockOffset

/-- An offset moves times of the years 1970 to 9999 to times in the calendar, and the times a while
after them are in it too. -/
def Fits (o : ClockOffset) (limit : Duration) : Prop :=
  ∀ t : Instant, t.Modern → Stamp.hasDate (Context.deadline (o.apply t) limit) = true

/-- An offset between two times of the years 1970 to 9999. -/
def Measured (o : ClockOffset) : Prop :=
  ∃ date received : Instant, date.Modern ∧ received.Modern ∧ o = .between date received

theorem Measured.natAbs_nanos_lt {o : ClockOffset} (hmeasured : o.Measured) :
    (o.nanos.natAbs : Int) < Instant.span := by
  obtain ⟨date, received, hdate, hreceived, rfl⟩ := hmeasured
  rw [Instant.modern_iff] at hdate hreceived
  have hmillis := millis_between date received
  rw [nanos]
  split at hmillis <;> omega

/-- A shifted time is as far from the time as the offset says, or it is the time itself. -/
theorem nanos_apply (o : ClockOffset) (t : Instant) :
    (o.apply t).nanos = t.nanos + o.nanos ∨ o.apply t = t := by
  by_cases hoverflows : o.Overflows t
  · exact .inr ((o.apply_eq_self_iff t).2 (.inr hoverflows))
  · exact .inl (nanos_of_shift? (shift?_eq_some_apply hoverflows))

/-- An offset fits a limit if the two together leave the calendar a span of room. -/
theorem fits_of_le {o : ClockOffset} {limit : Duration}
    (hle : o.nanos.natAbs + Instant.span + limit.nanos ≤ Stamp.after) : o.Fits limit := by
  intro t hmodern
  rw [Instant.modern_iff] at hmodern
  simp only [Stamp.after, Instant.span] at hle hmodern
  apply Context.hasDate_deadline
  all_goals
    simp only [Stamp.first, Stamp.after]
    rcases o.nanos_apply t with hshifted | hsame
    · omega
    · rw [hsame]
      omega

theorem Measured.fits {o : ClockOffset} (hmeasured : o.Measured) {limit : Duration}
    (hlimit : limit.nanos + 2 * Instant.span ≤ Stamp.after) : o.Fits limit := by
  have hnear := hmeasured.natAbs_nanos_lt
  exact fits_of_le (by omega)

end ClockOffset

namespace Plan

variable {p : Plan τ σ} {left later : Nat} {context reached following : Context}
  {m start after : Machine τ σ} {before journal : Journal} {failure : Failure} {o : ClockOffset}

/-- A run hands a request to its signer, at a time. -/
inductive SignsAt (p : Plan τ σ) (left : Nat) (context : Context) (m : Machine τ σ) :
    Http.Request → Instant → Prop where
  | intro {before : Journal} {later : Nat} {reached : Context} {start : Machine τ σ}
      {request : Http.Request}
      (hreaches : p.Reaches left context m before later reached start)
      (hopen : p.env.cancelled start.world = false)
      (hbuilt : p.built (reached.withOffset start.skew.offset) start.turn = .ok request) :
      SignsAt p left context m request
        (start.skew.offset.apply (p.env.now (p.env.notice reached.info.attempt start.world)).1)

/-- An offset that a run can use when it began with another: that one, or one that it measured. -/
def Uses (first o : ClockOffset) : Prop := o = first ∨ o.Measured

/-- A time from which a run can count a deadline: a server's date, or the shifted local clock. -/
inductive Refers (first : ClockOffset) : Instant → Prop where
  | date {t : Instant} (hmodern : t.Modern) : Refers first t
  | clock {o : ClockOffset} {t : Instant} (huses : Uses first o) (hmodern : t.Modern) :
      Refers first (o.apply t)

/-- What a pass can come with, while the clocks stand in the years 1970 to 9999. -/
structure Timely (p : Plan τ σ) (first : ClockOffset) (context : Context) (m : Machine τ σ) :
    Prop where
  offset : Uses first m.skew.offset
  deadline : ∀ t ∈ context.info.deadline,
    ∃ reference, Refers first reference ∧ t = Context.deadline reference p.timeout

/-- An answer is received when the clock is read. -/
theorem Hears.modern {sent : Sent} {a : Answered} {world : σ}
    (hhears : p.Hears context m sent a world) (hmodern : p.env.Modern) : a.receivedAt.Modern := by
  cases hhears with
  | intro _ _ _ hnow => exact hmodern.now hnow

/-- A failed pass leaves the offset, or puts the measured one in its place. -/
theorem Fails.uses {ruled : Traced τ σ (Ruling × Context)}
    (hfails : p.Fails context m failure ruled) (hmodern : p.env.Modern)
    (huses : Uses o m.skew.offset) :
    Uses o ruled.machine.skew.offset := by
  obtain ⟨_, _, _, _, _, -, hattempts, hrules, -⟩ := hfails.parts
  cases hattempts with
  | @broken sent a _ _ hhears houtcome =>
      cases hmeasured : p.client.corrector.measured? failure a.signedAt with
      | none =>
          obtain ⟨-, hskew⟩ := hrules.quiet_of_unmeasured hmeasured
          rw [show ruled.machine.skew = m.skew from hskew]
          exact huses
      | some measured =>
          obtain ⟨date, delta⟩ := measured
          have hfresh := Reply.fresh_of_outcome_eq_error houtcome
          obtain ⟨_, _, -, -, -, hoffset⟩ :=
            hrules.corrected_of_measured hfresh.isTerminal hmeasured
          have hdate := Failure.modern_of_serverDate? (Corrector.serverDate?_of_measured? hmeasured)
          exact .inr ⟨date, a.receivedAt, hdate, hhears.modern hmodern, hoffset⟩

theorem Retries.timely (hretries : p.Retries context m ⟨following, journal, after⟩)
    (hmodern : p.env.Modern) (htimely : p.Timely o context m) :
    p.Timely o following after := by
  obtain ⟨hfails, hschedules, hpause⟩ := hretries
  have huses := hfails.uses hmodern htimely.offset
  have hdeadline := hschedules.deadline_eq
  obtain ⟨-, hskew⟩ := hschedules.quiet
  refine ⟨?_, fun t ht => ?_⟩
  · rw [show _ = _ from hskew]
    exact huses
  · rw [hdeadline, Option.mem_some_iff] at ht
    refine ⟨_, ?_, ht.symm⟩
    cases hdate : Failure.serverDate? _ with
    | some date => exact .date (Failure.modern_of_serverDate? hdate)
    | none => exact .clock huses (hmodern _)

theorem Reaches.timely (hreaches : p.Reaches left context m before later reached start)
    (hmodern : p.env.Modern) (htimely : p.Timely o context m) : p.Timely o reached start := by
  induction hreaches with
  | start => exact htimely
  | again _ hretries ih => exact hretries.timely hmodern ih

theorem Stops.uses {ran : Traced τ σ Ending} (hstops : p.Stops left context m ran)
    (hmodern : p.env.Modern) (huses : Uses o m.skew.offset) :
    Uses o ran.machine.skew.offset := by
  cases hstops with
  | cancelled => exact huses
  | ended hopen hattempts =>
      obtain ⟨-, hskew⟩ := hattempts.steers
      rw [show _ = m.skew from hskew]
      exact huses
  | refused hfails | lastAttempt _ hfails => exact hfails.uses hmodern huses
  | overBudget _ hfails hschedules | interrupted _ hfails hschedules =>
      obtain ⟨-, hskew⟩ := hschedules.quiet
      rw [show _ = _ from hskew]
      exact hfails.uses hmodern huses

theorem Runs.uses {ran : Traced τ σ Ending} (hruns : p.Runs left context m ran)
    (hmodern : p.env.Modern) (htimely : p.Timely o context m) :
    Uses o ran.machine.skew.offset := by
  induction hruns with
  | last hstops => exact hstops.uses hmodern htimely.offset
  | again hretries _ ih => exact ih (hretries.timely hmodern htimely)

/-- What a last pass starts is the attempt of its context. -/
theorem Stops.mem_starts {ran : Traced τ σ Ending} (hstops : p.Stops left context m ran)
    {c : Context} (hmem : c ∈ ran.journal.starts) : c = context.withOffset m.skew.offset := by
  cases hstops with
  | cancelled => cases hmem
  | ended hopen hattempts => cases hattempts <;> exact List.mem_singleton.1 hmem
  | refused hfails | lastAttempt _ hfails =>
      obtain ⟨sent, a, hshows⟩ := hfails.shows
      rw [giveUp, Journal.starts_append, hshows.starts] at hmem
      exact List.mem_singleton.1 hmem
  | overBudget _ hfails hschedules | interrupted _ hfails hschedules =>
      obtain ⟨sent, a, hshows⟩ := hfails.shows
      rw [(hshows.append hschedules.silent).starts] at hmem
      exact List.mem_singleton.1 hmem

/-- Every attempt that starts is that of a pass the run comes to. -/
theorem Runs.reaches_of_mem_starts {ran : Traced τ σ Ending} (hruns : p.Runs left context m ran)
    {c : Context} (hmem : c ∈ ran.journal.starts) :
    ∃ before later reached start, p.Reaches left context m before later reached start ∧
      c = reached.withOffset start.skew.offset := by
  induction hruns with
  | last hstops => exact ⟨_, _, _, _, .start, hstops.mem_starts hmem⟩
  | again hretries _ ih =>
      obtain ⟨sent, a, hshows⟩ := hretries.shows
      rw [Journal.starts_append, hshows.starts] at hmem
      rcases List.mem_append.1 hmem with hmem | hmem
      · exact ⟨_, _, _, _, .start, List.mem_singleton.1 hmem⟩
      · obtain ⟨before, later, reached, start, hreaches, hc⟩ := ih hmem
        exact ⟨_, _, _, _, hreaches.retry hretries, hc⟩

end Plan

theorem Journal.deadlines_eq (j : Journal) :
    j.deadlines = j.starts.filterMap (·.info.deadline) := by
  rw [deadlines, starts, List.filterMap_filterMap]
  congr 1
  funext entry
  cases entry <;> rfl

/-- A reference in the reach of the offset that fits. -/
theorem Plan.Refers.hasDate {first : ClockOffset} {reference : Instant} {limit : Duration}
    (hrefers : Plan.Refers first reference) (hfirst : first.Fits limit)
    (hlimit : limit.nanos + 2 * Instant.span ≤ Stamp.after) :
    Stamp.hasDate (Context.deadline reference limit) = true := by
  cases hrefers with
  | date hmodern =>
      rw [Instant.modern_iff] at hmodern
      simp only [Instant.span, Stamp.after] at hlimit hmodern
      apply Context.hasDate_deadline
      · exact Int.le_trans (by decide) hmodern.1
      · simp only [Stamp.after]
        omega
  | clock huses hmodern =>
      rcases huses with rfl | hmeasured
      · exact hfirst _ hmodern
      · exact hmeasured.fits hlimit _ hmodern

namespace Plan

/-- A call begins with the offset that it finds, and with no deadline. -/
theorem timely_first (p : Plan τ σ) (id : InvocationId) (limit : Nat) (m : Machine τ σ) :
    p.Timely m.skew.offset (.first id limit) m :=
  ⟨.inl rfl, fun _ ht => by cases ht⟩

theorem Uses.fits {first o : ClockOffset} (huses : Uses first o) (hfirst : first.Fits .zero) :
    o.Fits .zero := by
  rcases huses with rfl | hmeasured
  · exact hfirst
  · exact hmeasured.fits (by decide)

/-- A pass of a call that begins with an offset that fits signs at a time with a date. -/
theorem Timely.hasDate_apply {p : Plan τ σ} {first : ClockOffset} {context : Context}
    {m : Machine τ σ} (htimely : p.Timely first context m) (hfirst : first.Fits .zero)
    {t : Instant} (hmodern : t.Modern) : Stamp.hasDate (m.skew.offset.apply t) = true := by
  rw [← Context.deadline_zero (ClockOffset.apply _ _)]
  exact htimely.offset.fits hfirst _ hmodern

/-- And its deadline has a date, if the time limit leaves room for it. -/
theorem Timely.hasDate_deadline {p : Plan τ σ} {first : ClockOffset} {context : Context}
    {m : Machine τ σ} (htimely : p.Timely first context m) (hfirst : first.Fits p.timeout)
    (hlimit : p.timeout.nanos + 2 * Instant.span ≤ Stamp.after) {t : Instant}
    (hdeadline : t ∈ context.info.deadline) : Stamp.hasDate t = true := by
  obtain ⟨reference, hrefers, rfl⟩ := htimely.deadline t hdeadline
  exact hrefers.hasDate hfirst hlimit

end Plan

namespace Execution

/-- **Times that are written down have dates.**  Let the local clock stand in the years 1970 to
9999, and let the offset that a call begins with move it within the calendar.  Then every time at
which the call signs a request has a date, and so does every deadline that it tells, if the time
limit of an attempt leaves room for it; and the offset that the call leaves behind is as good as the
one before. -/
theorem execute_dated (client : Client τ) {env : Environment σ} (call : Call) (id : InvocationId)
    {m : Machine τ σ} (hmodern : env.Modern) (hoffset : m.skew.offset.Fits .zero) :
    let e := execute client env call id m
    let first := Context.first id (client.strategy.limit m.strategy)
    let limit := call.timeout.getD client.defaults.requestTimeout
    (∀ signer request t, client.signers.resolve call.signer = .ok signer →
        (plan client env call signer).SignsAt (first.info.limit - 1) first m request t →
          Stamp.hasDate t = true) ∧
      (m.skew.offset.Fits limit → limit.nanos + 2 * Instant.span ≤ Stamp.after →
        ∀ t ∈ e.journal.deadlines, Stamp.hasDate t = true) ∧
      e.machine.skew.offset.Fits .zero := by
  intro e first limit
  have hbegins (signer : Signer) : (plan client env call signer).Timely m.skew.offset first m :=
    Plan.timely_first _ id _ m
  refine ⟨?_, ?_, ?_⟩
  · rintro signer request t - ⟨hreaches, -, -⟩
    exact (hreaches.timely hmodern (hbegins signer)).hasDate_apply hoffset (hmodern _)
  · intro hlimit hroom t ht
    rw [Journal.deadlines_eq, starts_execute] at ht
    obtain ⟨c, hc, hdeadline⟩ := List.mem_filterMap.1 ht
    rcases attempts_cases client env call id m with ⟨_, -, hran⟩ | ⟨signer, -, hruns⟩
    · rw [hran] at hc
      cases hc
    · obtain ⟨_, _, reached, _, hreaches, rfl⟩ := hruns.reaches_of_mem_starts hc
      exact (hreaches.timely hmodern (hbegins signer)).hasDate_deadline hlimit hroom hdeadline
  · have hlast : e.machine = (attempts client env call id m).machine := rfl
    rw [hlast]
    rcases attempts_cases client env call id m with ⟨_, -, hran⟩ | ⟨signer, -, hruns⟩
    · rw [hran]
      exact hoffset
    · exact (hruns.uses hmodern (hbegins signer)).fits hoffset

open Rehearsal

/-- A rehearsal whose clock goes with the virtual time. -/
theorem modern_ticking : ({ environment with now := ticking 0 } : Environment World).Modern := by
  intro w
  rw [Instant.modern_iff]
  simp only [ticking, Instant.span]
  omega

/-- A service that is an hour ahead refuses an attempt and answers the next, which has a deadline
and is signed at the service's time. -/
theorem execute_dated_plain :
    let client := plainClient (Standard.strategy Standard.rules .standard)
    let env : Environment World := { environment with now := ticking 0 }
    let m := plainMachine .standard [.response hourAhead, .response plainResponse]
    let e := execute client env plainCall .nil m
    env.Modern ∧ m.skew.offset.Fits .zero ∧ e.journal.deadlines.length = 1 ∧
      (∀ t ∈ e.journal.deadlines, Stamp.hasDate t = true) ∧
      e.machine.skew.offset.millis = 3600000 ∧ e.machine.skew.offset.Fits .zero := by
  intro client env m e
  have hmodern : env.Modern := modern_ticking
  have hzero : m.skew.offset.Fits .zero := ClockOffset.fits_of_le (by decide)
  have hthirty : m.skew.offset.Fits (.ofSeconds 30) := ClockOffset.fits_of_le (by decide)
  have hone : e.journal.deadlines.length = 1 := by decide +kernel
  have hhour : e.machine.skew.offset.millis = 3600000 := by decide +kernel
  obtain ⟨-, hdeadlines, hlast⟩ := execute_dated client plainCall .nil hmodern hzero
  refine ⟨hmodern, hzero, hone, hdeadlines hthirty (by decide), hhour, ?_⟩
  dsimp only [e]
  exact hlast

/-- A time limit of three hundred thousand years leads the deadline of a second attempt out of the
calendar, and the largest offset leads the time of signing out of it. -/
theorem undated_times :
    let env : Environment World := { environment with now := ticking 0 }
    let client := plainClient (Standard.strategy Standard.rules .standard)
    let call := plainCall.withTimeout (.ofSeconds 10000000000000)
    let e := execute client env call .nil
      (plainMachine .standard [.response busyForFive, .response plainResponse])
    let signer : Signer := .sigV4
      ⟨⟨"access".toList, "secret".toList, none⟩, "region".toList, "service".toList, true⟩
    let client' := { client with signers := .new signer }
    let far : ClockOffset := ⟨0x7FFFFFFFFFFFFFFF, by decide, by decide⟩
    let m := { plainMachine Quota.standard [.response plainResponse] with skew := ⟨far, true⟩ }
    let first := Context.first .nil (client'.strategy.limit m.strategy)
    env.Modern ∧ (∃ t ∈ e.journal.deadlines, Stamp.hasDate t = false) ∧
      client'.signers.resolve plainCall.signer = .ok signer ∧
      ∃ request t, (plan client' env plainCall signer).SignsAt (first.info.limit - 1) first m
        request t ∧ Stamp.hasDate t = false := by
  intro env client call e signer client' far m first
  have hlate : ∃ t ∈ e.journal.deadlines, Stamp.hasDate t = false := by decide +kernel
  have hnow : Stamp.hasDate (far.apply (env.now (env.notice 1 m.world)).1) = false := by
    decide +kernel
  have hbuilt : ((plan client' env plainCall signer).built (first.withOffset far) 0).toOption.isSome
      = true := by
    decide +kernel
  refine ⟨modern_ticking, hlate, rfl, ?_⟩
  cases hrequest : (plan client' env plainCall signer).built (first.withOffset far) 0 with
  | error failure =>
      rw [hrequest] at hbuilt
      cases hbuilt
  | ok request => exact ⟨request, _, .intro .start rfl hrequest, hnow⟩

end Execution

end ServiceCall
