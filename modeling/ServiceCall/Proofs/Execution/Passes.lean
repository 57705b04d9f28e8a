import ServiceCall.Proofs.Execution.Runs
import ServiceCall.Proofs.Execution.Views

/-!
# What passes show

Seen from outside, a pass is an attempt that starts, is sent and is answered, and whatever else it
writes down is silent.  A pass that is followed by another shows all three; the last one may break
off before.
-/

namespace ServiceCall

namespace Journal

/-- A part of a pass in which nothing is started, sent or answered. -/
structure Silent (j : Journal) : Prop where
  starts : j.starts = []
  sends : j.sends = []
  answers : j.answers = []

/-- A pass with one attempt that is answered. -/
structure Shows (j : Journal) (context : Context) (sent : Sent) (a : Answered) : Prop where
  starts : j.starts = [context]
  sends : j.sends = [sent]
  answers : j.answers = [a]

theorem Silent.append {i j : Journal} (hi : i.Silent) (hj : j.Silent) : (i ++ j).Silent where
  starts := by rw [starts_append, hi.starts, hj.starts, List.append_nil]
  sends := by rw [sends_append, hi.sends, hj.sends, List.append_nil]
  answers := by rw [answers_append, hi.answers, hj.answers, List.append_nil]

theorem Shows.append {i j : Journal} {context : Context} {sent : Sent} {a : Answered}
    (hi : i.Shows context sent a) (hj : j.Silent) : (i ++ j).Shows context sent a where
  starts := by rw [starts_append, hi.starts, hj.starts, List.append_nil]
  sends := by rw [sends_append, hi.sends, hj.sends, List.append_nil]
  answers := by rw [answers_append, hi.answers, hj.answers, List.append_nil]

/-- A pass that shows one attempt shows no other request and no other answer. -/
theorem Shows.getElem?_eq {j : Journal} {context : Context} {first sent : Sent}
    {heard a : Answered} (hshows : j.Shows context first heard) {i : Nat}
    (hsent : j.sends[i]? = some sent) (ha : j.answers[i]? = some a) :
    i = 0 ∧ sent = first ∧ a = heard := by
  rw [hshows.sends, List.getElem?_singleton] at hsent
  rw [hshows.answers, List.getElem?_singleton] at ha
  by_cases hzero : i = 0
  · rw [if_pos hzero] at hsent ha
    exact ⟨hzero, (Option.some.inj hsent).symm, (Option.some.inj ha).symm⟩
  · rw [if_neg hzero] at hsent
    cases hsent

theorem silent_corrected (correction : Option Correction) :
    Silent (correction.toList.map Entry.corrected) :=
  ⟨starts_corrected _, sends_corrected _, answers_corrected _⟩

end Journal

namespace Plan

variable {τ σ : Type} {p : Plan τ σ} {context : Context} {m : Machine τ σ} {failure : Failure}
  {a : Answered}

/-- A ruling writes down nothing that starts, sends or answers. -/
theorem Rules.silent {signedAt receivedAt : Instant} {ruled : Traced τ σ (Ruling × Context)}
    (hrules : p.Rules context failure signedAt receivedAt m ruled) : ruled.journal.Silent := by
  cases hrules with
  | terminal | granted => exact ⟨rfl, rfl, rfl⟩
  | judged hterminal hobserve hplain hjudges =>
      refine (Journal.silent_corrected _).append ?_
      cases hjudges with
      | stopped | denied | approved => exact ⟨rfl, rfl, rfl⟩

theorem Schedules.silent {planned : Delay} {wait : Duration} {bonus : Bool}
    {scheduled : Traced τ σ (Except Failure Context)}
    (hschedules : p.Schedules context failure planned wait bonus m scheduled) :
    scheduled.journal.Silent := by
  cases hschedules with
  | overBudget | scheduled => exact ⟨rfl, rfl, rfl⟩

/-- A failed pass shows its attempt, which heard the failure, and rules on it. -/
theorem Fails.heard {ruled : Traced τ σ (Ruling × Context)}
    (hfails : p.Fails context m failure ruled) :
    ∃ sent a after journal,
      p.Hears (context.withOffset m.skew.offset) m sent a after.world ∧
      a.outcome p.client.classifier = .error failure ∧
      ruled.journal.Shows (context.withOffset m.skew.offset) sent a ∧
      after.strategy = m.strategy ∧
      p.Rules (context.withOffset m.skew.offset) failure a.signedAt a.receivedAt after
        { ruled with journal } := by
  obtain ⟨hopen, hattempts, hrules⟩ := hfails
  cases hattempts with
  | @broken sent a world _ hhears houtcome =>
      refine ⟨sent, a, { m with world, turn := m.turn + 1 }, _, hhears, houtcome, ?_, rfl, hrules⟩
      refine Journal.Shows.append ?_ hrules.silent
      exact ⟨rfl, rfl, rfl⟩

theorem Fails.shows {ruled : Traced τ σ (Ruling × Context)}
    (hfails : p.Fails context m failure ruled) :
    ∃ sent a, ruled.journal.Shows (context.withOffset m.skew.offset) sent a := by
  obtain ⟨sent, a, -, -, -, -, hshows, -, -⟩ := hfails.heard
  exact ⟨sent, a, hshows⟩

theorem Retries.heard {retried : Traced τ σ Context} (hretries : p.Retries context m retried) :
    ∃ sent a world, p.Hears (context.withOffset m.skew.offset) m sent a world ∧
      retried.journal.Shows (context.withOffset m.skew.offset) sent a := by
  obtain ⟨hfails, hschedules, hpause⟩ := hretries
  obtain ⟨sent, a, _, _, hhears, -, hshows, -⟩ := hfails.heard
  exact ⟨sent, a, _, hhears, hshows.append hschedules.silent⟩

theorem Retries.shows {retried : Traced τ σ Context} (hretries : p.Retries context m retried) :
    ∃ sent a, retried.journal.Shows (context.withOffset m.skew.offset) sent a := by
  obtain ⟨sent, a, -, -, hshows⟩ := hretries.heard
  exact ⟨sent, a, hshows⟩

end Plan

namespace Execution

variable {τ σ : Type}

theorem answers_execute (client : Client τ) (env : Environment σ) (call : Call)
    (id : InvocationId) (m : Machine τ σ) :
    (execute client env call id m).journal.answers =
      (attempts client env call id m).journal.answers :=
  filterMap_execute rfl (fun _ => rfl) client env call id m

theorem sends_execute (client : Client τ) (env : Environment σ) (call : Call)
    (id : InvocationId) (m : Machine τ σ) :
    (execute client env call id m).journal.sends =
      (attempts client env call id m).journal.sends :=
  filterMap_execute rfl (fun _ => rfl) client env call id m

end Execution

end ServiceCall
