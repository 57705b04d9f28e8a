import ServiceCall.Proofs.Execution.Runs
import ServiceCall.Proofs.Outcomes
import ServiceCall.Proofs.Skew.Corrector

/-!
# The offset along a history

A client that makes one call after another carries its offset along.  Every attempt starts with the
offset in force, and only an answered failure that is far off changes it: the change is written down
right after the answer, and the retry that it may be granted right after the change.
-/

namespace ServiceCall

/-- Whether an entry tells nothing of the clock. -/
def Entry.isQuiet : Entry → Bool
  | .started _ | .answered _ | .corrected _ | .granted _ => false
  | _ => true

/-- An attempt from its start to its answer. -/
def Journal.hearing (context : Context) (sent : Sent) (a : Answered) : Journal :=
  [.started context, .entered .building, .entered .signing, .entered .sending, .sent sent,
    .entered .interpreting, .answered a]

variable {τ σ : Type}

/-- A history takes the offset from one value to another. -/
inductive Steers (client : Client τ) : ClockOffset → Journal → ClockOffset → Prop where
  | nil (o : ClockOffset) : Steers client o [] o
  | quiet {o last : ClockOffset} {e : Entry} {rest : Journal} (hquiet : e.isQuiet = true)
      (hrest : Steers client o rest last) : Steers client o (e :: rest) last
  | unheard {o last : ClockOffset} {context : Context} {rest : Journal}
      (hoffset : context.offset = o) (hrest : Steers client o rest last) :
      Steers client o (.started context :: rest) last
  | heard {o last : ClockOffset} {context : Context} {sent : Sent} {a : Answered} {rest : Journal}
      (hoffset : context.offset = o)
      (hsteady : ∀ failure, a.outcome client.classifier = .error failure →
        client.corrector.measured? failure a.signedAt = none)
      (hrest : Steers client o rest last) :
      Steers client o (Journal.hearing context sent a ++ rest) last
  | corrected {o last : ClockOffset} {context : Context} (sent : Sent) {a : Answered}
      {failure : Failure} {date : Instant} {delta : ClockOffset} {grants rest : Journal}
      (hoffset : context.offset = o)
      (houtcome : a.outcome client.classifier = .error failure)
      (hmeasured : client.corrector.measured? failure a.signedAt = some (date, delta))
      (hgrants : grants = [] ∨ grants = [.granted context.info.attempt])
      (hrest : Steers client (.between date a.receivedAt) rest last) :
      Steers client o
        (Journal.hearing context sent a ++
          [.broke failure.kind failure.status failure.retryable,
            .corrected ⟨o, .between date a.receivedAt, delta⟩] ++ grants ++ rest) last

namespace Steers

variable {client : Client τ} {o mid last : ClockOffset} {i j : Journal}

theorem append (hi : Steers client o i mid) (hj : Steers client mid j last) :
    Steers client o (i ++ j) last := by
  induction hi with
  | nil => exact hj
  | quiet hquiet _ ih => exact .quiet hquiet (ih hj)
  | unheard hoffset _ ih => exact .unheard hoffset (ih hj)
  | heard hoffset hsteady _ ih =>
      rw [List.append_assoc]
      exact .heard hoffset hsteady (ih hj)
  | corrected sent hoffset houtcome hmeasured hgrants _ ih =>
      rw [List.append_assoc]
      exact .corrected sent hoffset houtcome hmeasured hgrants (ih hj)

/-- A journal that tells nothing of the clock leaves the offset alone. -/
theorem of_quiet (hj : ∀ e ∈ j, e.isQuiet = true) : Steers client o j o := by
  induction j with
  | nil => exact .nil o
  | cons e rest ih =>
      obtain ⟨he, hrest⟩ := List.forall_mem_cons.1 hj
      exact .quiet he (ih hrest)

end Steers

namespace Plan

variable {p : Plan τ σ} {left : Nat} {context : Context} {m : Machine τ σ} {failure : Failure}

theorem Attempts.steers {result : Except Failure Http.Response} {journal : Journal}
    {after : Machine τ σ} (hattempts : p.Attempts context m ⟨.ended result, journal, after⟩) :
    Steers p.client context.offset journal context.offset ∧ after.skew = m.skew := by
  cases hattempts with
  | unbuilt | unsigned | overBudget | interrupted =>
      exact ⟨.unheard rfl (.of_quiet (by simp [Entry.isQuiet])), rfl⟩
  | @succeeded sent a _ response hhears houtcome =>
      have hsteady : ∀ failure, a.outcome p.client.classifier = .error failure →
          p.client.corrector.measured? failure a.signedAt = none := by
        intro failure hfailure
        cases houtcome.symm.trans hfailure
      have hrest : Steers p.client context.offset
          [.credited context.retriedKind, .entered .succeeded] context.offset :=
        .of_quiet (by simp [Entry.isQuiet])
      exact ⟨.heard rfl hsteady hrest, rfl⟩

theorem Judges.quiet {ruled : Traced τ σ (Ruling × Context)}
    (hjudges : p.Judges context failure m ruled) :
    (∀ e ∈ ruled.journal, e.isQuiet = true) ∧ ruled.machine.skew = m.skew := by
  cases hjudges with
  | stopped | denied | approved => exact ⟨by simp [Entry.isQuiet], rfl⟩

theorem Rules.quiet_of_unmeasured {signedAt receivedAt : Instant}
    {ruled : Traced τ σ (Ruling × Context)}
    (hmeasured : p.client.corrector.measured? failure signedAt = none)
    (hrules : p.Rules context failure signedAt receivedAt m ruled) :
    (∀ e ∈ ruled.journal, e.isQuiet = true) ∧ ruled.machine.skew = m.skew := by
  have hunmoved := Corrector.observe_of_unmeasured m.skew receivedAt hmeasured
  cases hrules with
  | terminal => exact ⟨by simp, rfl⟩
  | granted _ hobserve => cases hobserve.symm.trans hunmoved
  | judged _ hobserve _ hjudges =>
      cases hobserve.symm.trans hunmoved
      exact hjudges.quiet

theorem Rules.corrected_of_measured {signedAt receivedAt date : Instant} {delta : ClockOffset}
    {ruled : Traced τ σ (Ruling × Context)} (hterminal : failure.kind.isTerminal = false)
    (hmeasured : p.client.corrector.measured? failure signedAt = some (date, delta))
    (hrules : p.Rules context failure signedAt receivedAt m ruled) :
    ∃ grants rest, (grants = [] ∨ grants = [.granted context.info.attempt]) ∧
      (∀ e ∈ rest, e.isQuiet = true) ∧
      ruled.journal =
        [.corrected ⟨m.skew.offset, .between date receivedAt, delta⟩] ++ grants ++ rest ∧
      ruled.machine.skew.offset = .between date receivedAt := by
  have hmoved := Corrector.observe_of_measured? m.skew receivedAt hmeasured
  cases hrules with
  | terminal hnot => cases hterminal.symm.trans hnot
  | granted _ hobserve =>
      cases hobserve.symm.trans hmoved
      exact ⟨[.granted _], [], .inr rfl, by simp, rfl, rfl⟩
  | judged _ hobserve _ hjudges =>
      cases hobserve.symm.trans hmoved
      obtain ⟨hquiet, hskew⟩ := hjudges.quiet
      exact ⟨[], _, .inl rfl, hquiet, rfl, congrArg SkewState.offset hskew⟩

/-- A failed attempt steers the offset by what its answer is measured at, and by nothing else. -/
theorem Fails.steers {ruled : Traced τ σ (Ruling × Context)}
    (hfails : p.Fails context m failure ruled) :
    Steers p.client m.skew.offset ruled.journal ruled.machine.skew.offset := by
  obtain ⟨_, _, attempted, answered, noted, _, hattempts, hrules, hjournal⟩ := hfails.parts
  rw [hjournal]
  refine .quiet rfl ?_
  cases hattempts with
  | @broken sent a _ _ hhears houtcome =>
      cases hmeasured : p.client.corrector.measured? failure a.signedAt with
      | none =>
          obtain ⟨hquiet, hskew⟩ := hrules.quiet_of_unmeasured hmeasured
          have hsteady : ∀ other, a.outcome p.client.classifier = .error other →
              p.client.corrector.measured? other a.signedAt = none := by
            intro other hother
            cases houtcome.symm.trans hother
            exact hmeasured
          have hrest : Steers p.client m.skew.offset
              (.broke failure.kind failure.status failure.retryable :: noted) m.skew.offset :=
            .quiet rfl (.of_quiet hquiet)
          rw [show ruled.machine.skew = m.skew from hskew]
          exact .heard rfl hsteady hrest
      | some measured =>
          obtain ⟨date, delta⟩ := measured
          have hfresh := Reply.fresh_of_outcome_eq_error houtcome
          obtain ⟨grants, rest, hgrants, hquiet, hnoted, hoffset⟩ :=
            hrules.corrected_of_measured hfresh.isTerminal hmeasured
          have hcorrected : Steers p.client m.skew.offset _ _ :=
            .corrected sent rfl houtcome hmeasured hgrants (.of_quiet hquiet)
          rw [show noted = _ from hnoted, show ruled.machine.skew.offset = _ from hoffset]
          simpa [Journal.hearing] using hcorrected

theorem Schedules.quiet {planned : Delay} {wait : Duration} {bonus : Bool}
    {scheduled : Traced τ σ (Except Failure Context)}
    (hschedules : p.Schedules context failure planned wait bonus m scheduled) :
    (∀ e ∈ scheduled.journal, e.isQuiet = true) ∧ scheduled.machine.skew = m.skew := by
  cases hschedules with
  | overBudget | scheduled => exact ⟨by simp [Entry.isQuiet], rfl⟩

theorem Retries.steers {following : Context} {journal : Journal} {after : Machine τ σ}
    (hretries : p.Retries context m ⟨following, journal, after⟩) :
    Steers p.client m.skew.offset journal after.skew.offset := by
  obtain ⟨hfails, hschedules, hpause⟩ := hretries
  obtain ⟨hquiet, hskew⟩ := hschedules.quiet
  refine hfails.steers.append ?_
  rw [show _ = _ from hskew]
  exact .of_quiet hquiet

theorem Stops.steers {ran : Traced τ σ Ending} (hstops : p.Stops left context m ran) :
    Steers p.client m.skew.offset ran.journal ran.machine.skew.offset := by
  have hended : ∀ e ∈ [Entry.entered .failed], e.isQuiet = true := by simp [Entry.isQuiet]
  cases hstops with
  | cancelled => exact .quiet rfl (.of_quiet hended)
  | ended hopen hattempts =>
      obtain ⟨hsteers, hskew⟩ := hattempts.steers
      rw [show _ = m.skew from hskew]
      exact .quiet rfl hsteers
  | refused hfails | lastAttempt _ hfails => exact hfails.steers.append (.of_quiet hended)
  | overBudget _ hfails hschedules | interrupted _ hfails hschedules hpause =>
      obtain ⟨hquiet, hskew⟩ := hschedules.quiet
      refine hfails.steers.append ?_
      rw [show _ = _ from hskew]
      exact .of_quiet hquiet

theorem Runs.steers {ran : Traced τ σ Ending} (hruns : p.Runs left context m ran) :
    Steers p.client m.skew.offset ran.journal ran.machine.skew.offset := by
  induction hruns with
  | last hstops => exact hstops.steers
  | again hretries hrest ih => exact hretries.steers.append ih

end Plan

/-- A call steers the offset of its client. -/
theorem Execution.steers_execute (client : Client τ) (env : Environment σ) (call : Call)
    (id : InvocationId) (m : Machine τ σ) :
    let e := execute client env call id m
    Steers client m.skew.offset e.journal e.machine.skew.offset := by
  intro e
  have hran : Steers client m.skew.offset (attempts client env call id m).journal
      e.machine.skew.offset := by
    rcases attempts_cases client env call id m with ⟨failure, -, hran⟩ | ⟨signer, -, hruns⟩
    · rw [show e.machine = m from congrArg Traced.machine hran, hran]
      exact .nil _
    · exact hruns.steers
  obtain ⟨s, hjournal⟩ := journal_execute client env call id m
  rw [hjournal]
  exact (hran.append (.of_quiet (by simp [Entry.isQuiet]))).quiet rfl

end ServiceCall
