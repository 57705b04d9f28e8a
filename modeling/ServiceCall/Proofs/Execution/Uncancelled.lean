import ServiceCall.Proofs.Execution.Timing

/-!
# The same call without cancellation

A caller who cancels only cuts a call short.  Up to there the call is the one of a caller who never
cancels: the same passes with the same answers, rulings and waits, so whatever was sent would have
been sent then too, and first.
-/

namespace ServiceCall.Plan

variable {τ σ : Type} {p : Plan τ σ} {left : Nat} {context following : Context}
  {m after : Machine τ σ} {journal : Journal}

/-- The same plan with a caller who never cancels. -/
def uncancelled (p : Plan τ σ) : Plan τ σ := { p with env := p.env.uncancelled }

theorem Sends.uncancelled {sent : Sent} {signedAt : Instant} {world : σ}
    (hsends : p.Sends context m sent signedAt world) :
    p.uncancelled.Sends context m sent signedAt world := by
  obtain ⟨hbuilt, hnow, hsigned, helapsed, hlimit⟩ := hsends
  exact .intro hbuilt hnow hsigned helapsed hlimit

theorem Fails.uncancelled {failure : Failure} {ruled : Traced τ σ (Ruling × Context)}
    (hfails : p.Fails context m failure ruled) : p.uncancelled.Fails context m failure ruled := by
  obtain ⟨-, hattempts, hrules⟩ := hfails
  have hruled := rules_rule p.uncancelled (context.withOffset m.skew.offset) failure
  cases hattempts with
  | broken hhears houtcome =>
      obtain ⟨hsends, -, hreply, hnow⟩ := hhears
      rw [hrules.eq_rule]
      exact .intro rfl (.broken (.intro hsends.uncancelled rfl hreply hnow) houtcome)
        (hruled _ _ _)

/-- A wait that ends also ends if nobody can cancel it. -/
theorem pause_uncancelled {wait : Duration} (hpause : p.pause wait m = (true, after)) :
    p.uncancelled.pause wait m = (true, after) := by
  rw [pause] at hpause ⊢
  split
  · rwa [if_pos ‹_›] at hpause
  · rw [if_neg ‹_›] at hpause
    split at hpause
    · cases hpause
    · exact hpause

theorem Retries.uncancelled (hretries : p.Retries context m ⟨following, journal, after⟩) :
    p.uncancelled.Retries context m ⟨following, journal, after⟩ := by
  obtain ⟨hfails, hschedules, hpause⟩ := hretries
  refine .intro hfails.uncancelled ?_ (pause_uncancelled hpause)
  rw [hschedules.eq_schedule]
  exact schedules_schedule p.uncancelled _ _ _ _ _ _

/-- An attempt that gets as far as the transport does so in the run of its pass. -/
theorem Sends.sends_run {sent : Sent} {signedAt : Instant} {world : σ}
    (hopen : p.env.cancelled m.world = false)
    (hsends : p.Sends (context.withOffset m.skew.offset) m sent signedAt world) (left : Nat) :
    [sent] <+: (p.run left context m).journal.sends := by
  obtain ⟨rest, hrun⟩ := p.journal_run_attempt hopen left
  obtain ⟨others, hattempt⟩ := hsends.journal_attempt
  rw [hrun, hattempt]
  exact ⟨Journal.sends (others ++ rest), rfl⟩

/-- What a run sends is the beginning of what it sends without cancellation. -/
theorem Runs.sends_uncancelled {ran : Traced τ σ Ending} (hruns : p.Runs left context m ran) :
    ran.journal.sends <+: (p.uncancelled.run left context m).journal.sends := by
  induction hruns with
  | last hstops =>
      rcases hstops.exists_sends with hnone | ⟨-, sent, signedAt, world, hsends, hjournal⟩
      · rw [hnone]
        exact List.nil_prefix
      · rw [hjournal]
        exact hsends.uncancelled.sends_run rfl _
  | again hretries hrest ih =>
      rw [hretries.uncancelled.run_eq, Journal.sends_append, Journal.sends_append]
      exact List.prefix_append_right_inj _ |>.2 ih

end ServiceCall.Plan

namespace ServiceCall.Execution

variable {τ σ : Type}

/-- What a call sends is the beginning of what it sends if the caller never cancels. -/
theorem sends_execute_uncancelled (client : Client τ) (env : Environment σ) (call : Call)
    (id : InvocationId) (m : Machine τ σ) :
    (execute client env call id m).journal.sends <+:
      (execute client env.uncancelled call id m).journal.sends := by
  rw [sends_execute, sends_execute]
  rcases attempts_cases client env call id m with ⟨failure, -, hran⟩ | ⟨signer, hsigner, hruns⟩
  · rw [hran]
    exact List.nil_prefix
  · have hran : attempts client env.uncancelled call id m = _ := attempts_eq_run hsigner
    rw [hran]
    exact hruns.sends_uncancelled

end ServiceCall.Execution
