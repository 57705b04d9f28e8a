import ServiceCall.Execution.Loop

/-!
# Rulings, schedules and pauses

What can follow a failed attempt: the failure is given up or a retry is wanted, the retry fits the
budget or does not, and the wait before it ends or is cancelled.  As for attempts, each is a
relation with one rule for each way to go.
-/

namespace ServiceCall

/-- A wait that fits the budget is not cut. -/
theorem Budget.eq_of_wait_eq_some {wait bounded elapsed : Duration} {total : Option Duration}
    (hwait : Budget.wait wait total elapsed = some bounded) : bounded = wait := by
  cases total with
  | none => exact (Option.some.inj hwait).symm
  | some total =>
      simp only [Budget.wait] at hwait
      split at hwait
      · exact (Option.some.inj hwait).symm
      · cases hwait

namespace Plan

variable {τ σ : Type}

/-- What the strategy can say about a failure. -/
inductive Judges (p : Plan τ σ) (context : Context) (failure : Failure) (m : Machine τ σ) :
    Traced τ σ (Ruling × Context) → Prop where
  | stopped {strategy : τ}
      (hjudge : p.client.strategy.judge failure context.info.attempt m.strategy =
        (.stop, strategy)) :
      Judges p context failure m
        ⟨(.giveUp failure, context), [.judged context.info.attempt failure.kind .stop],
          { m with strategy }⟩
  | denied {reason : Kind} {strategy : τ}
      (hjudge : p.client.strategy.judge failure context.info.attempt m.strategy =
        (.denied reason, strategy)) :
      Judges p context failure m
        ⟨(.giveUp (failure.withDenial reason), context),
          [.judged context.info.attempt failure.kind (.denied reason)], { m with strategy }⟩
  | approved {planned : Delay} {asked strategy : τ} {draw : Nat} {world : σ}
      (hjudge : p.client.strategy.judge failure context.info.attempt m.strategy =
        (.retry, asked))
      (hdelay : p.client.strategy.delay failure context.info.attempt asked = (planned, strategy))
      (hdrawn : p.drawn planned m.world = (draw, world)) :
      Judges p context failure m
        ⟨(.again planned (planned.resolve draw) false,
            { context with retriedKind := some failure.kind }),
          [.judged context.info.attempt failure.kind .retry], { m with strategy, world }⟩

/-- The ways in which a failed attempt can be ruled. -/
inductive Rules (p : Plan τ σ) (context : Context) (failure : Failure)
    (signedAt receivedAt : Instant) (m : Machine τ σ) :
    Traced τ σ (Ruling × Context) → Prop where
  | terminal (hterminal : failure.kind.isTerminal = true) :
      Rules p context failure signedAt receivedAt m ⟨(.giveUp failure, context), [], m⟩
  | granted {correction : Correction} {skew : SkewState}
      (hterminal : failure.kind.isTerminal = false)
      (hobserve : p.client.corrector.observe m.skew failure signedAt receivedAt =
        (some correction, skew))
      (hunused : context.bonusUsed = false) :
      Rules p context failure signedAt receivedAt m
        ⟨(.again (.exact .zero) .zero true, { context with bonusUsed := true }),
          [.corrected correction, .granted context.info.attempt], { m with skew }⟩
  | judged {correction : Option Correction} {skew : SkewState}
      {ruled : Traced τ σ (Ruling × Context)}
      (hterminal : failure.kind.isTerminal = false)
      (hobserve : p.client.corrector.observe m.skew failure signedAt receivedAt =
        (correction, skew))
      (hplain : (correction.isSome && !context.bonusUsed) = false)
      (hjudges : p.Judges context failure { m with skew } ruled) :
      Rules p context failure signedAt receivedAt m
        { ruled with journal := correction.toList.map .corrected ++ ruled.journal }

/-- The ways in which scheduling a retry can go. -/
inductive Schedules (p : Plan τ σ) (context : Context) (failure : Failure) (planned : Delay)
    (wait : Duration) (bonus : Bool) (m : Machine τ σ) :
    Traced τ σ (Except Failure Context) → Prop where
  | overBudget {elapsed : Duration} {world : σ}
      (helapsed : p.elapsed m.world = (elapsed, world))
      (hwait : Budget.wait wait p.client.defaults.totalTimeout elapsed = none) :
      Schedules p context failure planned wait bonus m
        ⟨.error (Budget.exhausted p.client.defaults.totalTimeout), [.entered .failed],
          { m with world }⟩
  | scheduled {elapsed : Duration} {world after : σ} {reference : Instant}
      (helapsed : p.elapsed m.world = (elapsed, world))
      (hwait : Budget.wait wait p.client.defaults.totalTimeout elapsed = some wait)
      (hreference : p.reference failure { m with world } =
        (reference, { m with world := after })) :
      Schedules p context failure planned wait bonus m
        ⟨.ok (context.advance reference p.timeout failure),
          [.scheduled ⟨context.info.attempt, failure.kind, planned, wait, bonus⟩,
            .entered .retrying],
          { m with world := after }⟩

theorem judges_judge (p : Plan τ σ) (context : Context) (failure : Failure) (m : Machine τ σ) :
    p.Judges context failure m (p.judge context failure m) := by
  rcases hjudge : p.client.strategy.judge failure context.info.attempt m.strategy with
    ⟨verdict, asked⟩
  cases verdict with
  | stop =>
      simp only [judge, hjudge]
      exact .stopped hjudge
  | denied reason =>
      simp only [judge, hjudge]
      exact .denied hjudge
  | retry =>
      rcases hdelay : p.client.strategy.delay failure context.info.attempt asked with
        ⟨planned, strategy⟩
      rcases hdrawn : p.drawn planned m.world with ⟨draw, world⟩
      simp only [judge, hjudge, hdelay, hdrawn]
      exact .approved hjudge hdelay hdrawn

/-- The loop's ruling goes in one of these ways. -/
theorem rules_rule (p : Plan τ σ) (context : Context) (failure : Failure)
    (signedAt receivedAt : Instant) (m : Machine τ σ) :
    p.Rules context failure signedAt receivedAt m
      (p.rule context failure signedAt receivedAt m) := by
  cases hterminal : failure.kind.isTerminal with
  | true =>
      simp only [rule, hterminal, if_true]
      exact .terminal hterminal
  | false =>
      rcases hobserve : p.client.corrector.observe m.skew failure signedAt receivedAt with
        ⟨correction, skew⟩
      cases hbonus : correction.isSome && !context.bonusUsed with
      | true =>
          obtain ⟨hsome, hunused⟩ := Bool.and_eq_true_iff.1 hbonus
          obtain ⟨corrected, rfl⟩ := Option.isSome_iff_exists.1 hsome
          simp only [rule, hterminal, hobserve, hbonus, if_true]
          exact .granted hterminal hobserve (by simpa using hunused)
      | false =>
          simp only [rule, hterminal, hobserve, hbonus]
          exact .judged hterminal hobserve hbonus (judges_judge p context failure _)

variable {p : Plan τ σ} {context : Context} {failure : Failure} {m : Machine τ σ}

theorem Judges.eq_judge {ruled : Traced τ σ (Ruling × Context)}
    (hjudges : p.Judges context failure m ruled) : ruled = p.judge context failure m := by
  cases hjudges with
  | stopped hjudge | denied hjudge => simp only [judge, hjudge]
  | approved hjudge hdelay hdrawn => simp only [judge, hjudge, hdelay, hdrawn]

/-- And it goes in one way only. -/
theorem Rules.eq_rule {signedAt receivedAt : Instant} {ruled : Traced τ σ (Ruling × Context)}
    (hrules : p.Rules context failure signedAt receivedAt m ruled) :
    ruled = p.rule context failure signedAt receivedAt m := by
  cases hrules with
  | terminal hterminal => simp only [rule, hterminal, if_true]
  | granted hterminal hobserve hunused =>
      simp only [rule, hterminal, hobserve, hunused]
      rfl
  | judged hterminal hobserve hplain hjudges =>
      simp only [rule, hterminal, hobserve, hplain, ← hjudges.eq_judge]
      rfl

/-- Looking up the reference changes nothing but the world. -/
theorem reference_frame (p : Plan τ σ) (failure : Failure) (m : Machine τ σ) :
    ∃ reference world, p.reference failure m = (reference, { m with world }) := by
  unfold reference
  cases failure.serverDate? with
  | some date => exact ⟨date, m.world, rfl⟩
  | none => exact ⟨_, _, rfl⟩

theorem schedules_schedule (p : Plan τ σ) (context : Context) (failure : Failure)
    (planned : Delay) (wait : Duration) (bonus : Bool) (m : Machine τ σ) :
    p.Schedules context failure planned wait bonus m
      (p.schedule context failure planned wait bonus m) := by
  rcases helapsed : p.elapsed m.world with ⟨elapsed, world⟩
  cases hwait : Budget.wait wait p.client.defaults.totalTimeout elapsed with
  | none =>
      simp only [schedule, helapsed, hwait]
      exact .overBudget helapsed hwait
  | some bounded =>
      obtain rfl := Budget.eq_of_wait_eq_some hwait
      obtain ⟨reference, after, hreference⟩ := p.reference_frame failure { m with world }
      simp only [schedule, helapsed, hwait, hreference]
      exact .scheduled helapsed hwait hreference

theorem Schedules.eq_schedule {planned : Delay} {wait : Duration} {bonus : Bool}
    {scheduled : Traced τ σ (Except Failure Context)}
    (hschedules : p.Schedules context failure planned wait bonus m scheduled) :
    scheduled = p.schedule context failure planned wait bonus m := by
  cases hschedules with
  | overBudget helapsed hwait => simp only [schedule, helapsed, hwait]
  | scheduled helapsed hwait hreference => simp only [schedule, helapsed, hwait, hreference]

/-- A pause changes nothing but the world. -/
theorem pause_frame (p : Plan τ σ) (wait : Duration) (m : Machine τ σ) :
    ∃ ended world, p.pause wait m = (ended, { m with world }) := by
  unfold pause
  split
  · exact ⟨true, m.world, rfl⟩
  · cases p.env.interruptsSleep wait m.world with
    | some world => exact ⟨false, world, rfl⟩
    | none => exact ⟨true, _, rfl⟩

end Plan

end ServiceCall
