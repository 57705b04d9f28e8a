import ServiceCall.Proofs.Execution.Ready
import ServiceCall.Proofs.Execution.Reference
import ServiceCall.Proofs.Execution.Threads
import ServiceCall.Rehearsal.Plain

/-!
# Runs follow the reference

A run that is left alone goes on exactly while the reference does, and ends with its result.  The
loop keeps in its context and its bucket what the reference reads off the answers: the number of
the attempt, whether the retry for a wrong clock is used, and the tokens paid.  The answers are what
the transport gave on the way of the run, all of them and in order.
-/

namespace ServiceCall

/-- Whether a failure corrects the clock does not depend on the offset in force. -/
theorem Corrector.isSome_observe (c : Corrector) (state : SkewState) (failure : Failure)
    (signedAt receivedAt : Instant) :
    (c.observe state failure signedAt receivedAt).1.isSome =
      (c.measured? failure signedAt).isSome := by
  have hmeasured : (c.correction? state failure signedAt receivedAt).isSome =
      (c.measured? failure signedAt).isSome := Option.isSome_map
  rw [← hmeasured, observe]
  cases c.correction? state failure signedAt receivedAt with
  | some correction => rfl
  | none => rfl

namespace Reference

variable {σ : Type}

/-- The reference is that of a plan which nothing but its answers can end. -/
structure Fits (r : Reference) (p : Plan Quota σ) : Prop where
  strategy : p.client.strategy = r.strategy.strategy
  corrector : p.client.corrector = r.corrector
  classifier : p.client.classifier = r.classifier
  total : p.client.defaults.totalTimeout = none
  uncancelled : p.env.uncancelled = p.env

/-- What the loop holds after some answers. -/
structure Follows (r : Reference) (earlier : List Answered) (context : Context)
    (m : Machine Quota σ) : Prop where
  attempt : context.info.attempt = earlier.length + 1
  bonusUsed : context.bonusUsed = earlier.any r.corrects
  paid : m.strategy.available + r.spent earlier = r.tokens

/-- A ruling on an answer as the reference has it. -/
inductive Decides (r : Reference) (earlier : List Answered) (a : Answered) (failure : Failure)
    (context : Context) : Ruling × Context → Quota → Prop where
  | giveUp {final : Failure} {quota : Quota} (hhalts : r.halts earlier a = true)
      (hfinal : final = { failure with
        denial := if r.denied earlier a then some .quotaExhausted else none }) :
      Decides r earlier a failure context (.giveUp final, context) quota
  | again {planned : Delay} {wait : Duration} {bonus : Bool} {ruled : Context} {quota : Quota}
      (hdenied : r.denied earlier a = false)
      (hgoes : earlier.length + 1 < r.limit → r.halts earlier a = false)
      (hinfo : ruled.info = context.info)
      (hbonus : ruled.bonusUsed = (earlier ++ [a]).any r.corrects)
      (hpaid : quota.available + r.spent (earlier ++ [a]) = r.tokens) :
      Decides r earlier a failure context (.again planned wait bonus, ruled) quota

variable {r : Reference} {earlier : List Answered} {a : Answered} {failure : Failure}
  {context : Context} {quota : Quota}

theorem allows_iff : r.strategy.rules.allows failure (earlier.length + 1) = true ↔
    earlier.length + 1 < r.limit ∧ failure.retryable = true := by
  rw [RetryRules.allows, Bool.and_eq_true, decide_eq_true_iff]
  rfl

/-- A failure that the rules do not allow to retry halts the run and stays as it is. -/
theorem Decides.stopped (houtcome : a.outcome r.classifier = .error failure)
    (hlimit : earlier.length + 1 ≤ r.limit) (hungranted : r.granted earlier a = false)
    (hstopped : r.strategy.rules.allows failure (earlier.length + 1) = false) :
    r.Decides earlier a failure context (.giveUp failure, context) quota := by
  have hrefused : ¬(earlier.length + 1 < r.limit ∧ failure.retryable = true) :=
    fun hboth => Bool.eq_false_iff.1 hstopped (allows_iff.2 hboth)
  have hdenied : r.denied earlier a = false := by
    rw [Bool.eq_false_iff, ne_eq, denied_iff houtcome]
    exact fun ⟨hmore, hretryable, _⟩ => hrefused ⟨hmore, hretryable⟩
  refine .giveUp ((halts_iff houtcome).2 ?_) ?_
  · rcases Nat.lt_or_eq_of_le hlimit with hmore | hlast
    · have hretryable : failure.retryable = false :=
        Bool.eq_false_iff.2 fun hyes => hrefused ⟨hmore, hyes⟩
      exact .inr (.inl ⟨hretryable, hungranted⟩)
    · exact .inl hlast
  · rw [hdenied, if_neg Bool.false_ne_true]
    exact (Reply.fresh_of_outcome_eq_error houtcome).without_denial.symm

/-- A failure that the rules allow to retry halts the run when the tokens that are left do not pay
for it, and bears the denial. -/
theorem Decides.denied (houtcome : a.outcome r.classifier = .error failure)
    (hungranted : r.granted earlier a = false)
    (hallowed : r.strategy.rules.allows failure (earlier.length + 1) = true)
    (hshort : r.tokens < r.spent earlier + r.cost a) :
    r.Decides earlier a failure context (.giveUp (failure.withDenial .quotaExhausted), context)
      quota := by
  obtain ⟨hmore, hretryable⟩ := allows_iff.1 hallowed
  have hdenied : r.denied earlier a = true :=
    (denied_iff houtcome).2 ⟨hmore, hretryable, hungranted, hshort⟩
  refine .giveUp ((halts_iff houtcome).2 (.inr (.inr hdenied))) ?_
  rw [if_pos hdenied]
  rfl

/-- A retry that is paid for goes on. -/
theorem Decides.paid (houtcome : a.outcome r.classifier = .error failure)
    (hungranted : r.granted earlier a = false)
    (hallowed : r.strategy.rules.allows failure (earlier.length + 1) = true)
    (hbonus : context.bonusUsed = earlier.any r.corrects)
    (hpaid : quota.available + (r.spent earlier + r.cost a) = r.tokens)
    (planned : Delay) (wait : Duration) (bonus : Bool) (retried : Option Kind) :
    r.Decides earlier a failure context
      (.again planned wait bonus, { context with retriedKind := retried }) quota := by
  obtain ⟨hmore, hretryable⟩ := allows_iff.1 hallowed
  have hdenied : r.denied earlier a = false := by
    rw [Bool.eq_false_iff, ne_eq, denied_iff houtcome]
    rintro ⟨-, -, -, hshort⟩
    exact absurd (hpaid ▸ hshort) (Nat.not_lt_of_le (Nat.le_add_left _ _))
  refine .again hdenied ?_ rfl ?_ ?_
  · intro _
    exact halts_eq_false houtcome hmore (.inl hretryable) hdenied
  · rw [any_concat, hungranted, Bool.or_false]
    exact hbonus
  · rw [spent_concat, hungranted, if_neg Bool.false_ne_true]
    exact hpaid

end Reference

namespace Plan

variable {σ : Type} {r : Reference} {p : Plan Quota σ} {earlier : List Answered} {a : Answered}
  {context : Context} {m : Machine Quota σ} {failure : Failure}

/-- The strategy's judgment of an answer that was not granted a retry. -/
theorem Judges.decides (hfits : r.Fits p) (hfollows : r.Follows earlier context m)
    (hlimit : context.info.attempt ≤ r.limit)
    (houtcome : a.outcome r.classifier = .error failure)
    (hungranted : r.granted earlier a = false)
    {ruled : Traced Quota σ (Ruling × Context)} (hjudges : p.Judges context failure m ruled) :
    r.Decides earlier a failure context ruled.value ruled.machine.strategy := by
  have hpaid := hfollows.paid
  have hcost := Reference.cost_of_outcome houtcome
  have hjudged := r.strategy.judges_judge failure context.info.attempt m.strategy
  rw [hfollows.attempt] at hlimit hjudged
  cases hjudges with
  | stopped hjudge =>
      rw [hfits.strategy, hfollows.attempt] at hjudge
      rw [hjudge] at hjudged
      cases hjudged with
      | stopped hstopped => exact .stopped houtcome hlimit hungranted hstopped
  | denied hjudge =>
      rw [hfits.strategy, hfollows.attempt] at hjudge
      rw [hjudge] at hjudged
      cases hjudged with
      | denied hallowed hshort =>
          exact .denied houtcome hungranted hallowed (by omega)
  | @approved planned asked strategy draw world hjudge hdelay hdrawn =>
      rw [hfits.strategy, hfollows.attempt] at hjudge
      rw [hjudge] at hjudged
      have hkept := r.strategy.delay_strategy failure context.info.attempt asked
      rw [← hfits.strategy, hdelay] at hkept
      obtain rfl : strategy = asked := hkept
      cases hjudged with
      | paid _ hallowed hrest =>
          have hrest : strategy.available + r.strategy.cost failure.kind = m.strategy.available :=
            hrest
          have hleft : strategy.available + (r.spent earlier + r.cost a) = r.tokens := by omega
          exact .paid houtcome hungranted hallowed hfollows.bonusUsed hleft _ _ _ _

theorem Rules.decides (hfits : r.Fits p) (hfollows : r.Follows earlier context m)
    (hlimit : context.info.attempt ≤ r.limit)
    (houtcome : a.outcome r.classifier = .error failure)
    {ruled : Traced Quota σ (Ruling × Context)}
    (hrules : p.Rules context failure a.signedAt a.receivedAt m ruled) :
    r.Decides earlier a failure context ruled.value ruled.machine.strategy := by
  have hcorrects : (p.client.corrector.observe m.skew failure a.signedAt a.receivedAt).1.isSome =
      r.corrects a := by
    rw [Corrector.isSome_observe, hfits.corrector, Reference.corrects, houtcome]
  have hgranted : r.granted earlier a =
      ((p.client.corrector.observe m.skew failure a.signedAt a.receivedAt).1.isSome &&
        !context.bonusUsed) := by
    rw [Reference.granted, hcorrects, hfollows.bonusUsed]
  cases hrules with
  | terminal hterminal =>
      have hfresh := Reply.fresh_of_outcome_eq_error houtcome
      exact absurd (hterminal.symm.trans hfresh.isTerminal) Bool.noConfusion
  | granted hterminal hobserve hunused =>
      rw [hobserve, hunused] at hgranted
      have hgranted : r.granted earlier a = true := hgranted
      have hdenied := Reference.denied_eq_false_of_granted hgranted
      refine .again hdenied ?_ rfl ?_ ?_
      · intro hmore
        exact Reference.halts_eq_false houtcome hmore (.inr hgranted) hdenied
      · rw [Reference.any_concat, hgranted]
        exact (Bool.or_true _).symm
      · rw [Reference.spent_concat, hgranted, if_pos rfl]
        exact hfollows.paid
  | @judged _ skew _ hterminal hobserve hplain hjudges =>
      rw [hobserve] at hgranted
      have hsame : r.Follows earlier context { m with skew } :=
        ⟨hfollows.attempt, hfollows.bonusUsed, hfollows.paid⟩
      exact hjudges.decides hfits hsame hlimit houtcome (hgranted.trans hplain)

/-- A failed pass heard one answer, and its ruling is the reference's. -/
theorem Fails.decides (hfits : r.Fits p) (hfollows : r.Follows earlier context m)
    (hlimit : context.info.attempt ≤ r.limit) {ruled : Traced Quota σ (Ruling × Context)}
    (hfails : p.Fails context m failure ruled) :
    ∃ sent a, a.outcome r.classifier = .error failure ∧
      ruled.journal.Shows (context.withOffset m.skew.offset) sent a ∧
      r.Decides earlier a failure (context.withOffset m.skew.offset) ruled.value
        ruled.machine.strategy := by
  obtain ⟨sent, a, after, _, -, houtcome, hshows, hstrategy, hrules⟩ := hfails.heard
  rw [hfits.classifier] at houtcome
  have hsame : r.Follows earlier (context.withOffset m.skew.offset) after :=
    ⟨hfollows.attempt, hfollows.bonusUsed, hstrategy ▸ hfollows.paid⟩
  exact ⟨sent, a, houtcome, hshows, hrules.decides hfits hsame hlimit houtcome⟩

/-- A retry goes on where the reference does. -/
theorem Retries.goes (hfits : r.Fits p) (hfollows : r.Follows earlier context m)
    (hlimit : context.info.attempt < r.limit) {retried : Traced Quota σ Context}
    (hretries : p.Retries context m retried) :
    ∃ sent a,
      retried.journal.Shows (context.withOffset m.skew.offset) sent a ∧
      r.halts earlier a = false ∧
      r.Follows (earlier ++ [a]) retried.value retried.machine := by
  obtain ⟨hfails, hschedules, hpause⟩ := hretries
  obtain ⟨sent, a, houtcome, hshows, hdecides⟩ :=
    hfails.decides hfits hfollows (Nat.le_of_lt hlimit)
  have hsilent := hschedules.silent
  rw [hfollows.attempt] at hlimit
  cases hdecides with
  | again hdenied hgoes hinfo hbonus hpaid =>
      refine ⟨sent, a, hshows.append hsilent, hgoes hlimit, ?_⟩
      cases hschedules with
      | scheduled =>
          refine ⟨?_, hbonus, hpaid⟩
          rw [Context.attempt_advance, hinfo, Context.info_withOffset, hfollows.attempt,
            List.length_append, List.length_singleton]

end Plan

namespace Reference

variable {σ : Type} {r : Reference} {earlier : List Answered} {context : Context} {sent : Sent}
  {a : Answered}

/-- A run that played as the reference does. -/
structure Played (r : Reference) (earlier : List Answered)
    (ran : Traced Quota σ Plan.Ending) : Prop where
  plays : r.Plays earlier ran.journal.answers
  starts : ran.journal.starts.length = ran.journal.answers.length
  sends : ran.journal.sends.length = ran.journal.answers.length
  result : ∃ before last, ran.journal.answers = before ++ [last] ∧
    ran.value.result.mapError (·.orAttempts ran.value.attempt) = r.result (earlier ++ before) last

theorem Played.last {ran : Traced Quota σ Plan.Ending}
    (hshows : ran.journal.Shows context sent a) (hhalts : r.halts earlier a = true)
    (hresult : ran.value.result.mapError (·.orAttempts ran.value.attempt) = r.result earlier a) :
    r.Played earlier ran where
  plays := hshows.answers ▸ .halts hhalts
  starts := by rw [hshows.starts, hshows.answers]; rfl
  sends := by rw [hshows.sends, hshows.answers]; rfl
  result := by
    refine ⟨[], a, hshows.answers, ?_⟩
    rw [List.append_nil]
    exact hresult

theorem Played.again {journal : Journal} {rest : Traced Quota σ Plan.Ending}
    (hshows : journal.Shows context sent a) (hgoes : r.halts earlier a = false)
    (hrest : r.Played (earlier ++ [a]) rest) :
    r.Played earlier { rest with journal := journal ++ rest.journal } where
  plays := by
    rw [Journal.answers_append, hshows.answers]
    exact .goes hgoes hrest.plays
  starts := by
    rw [Journal.starts_append, Journal.answers_append, hshows.starts, hshows.answers,
      List.length_append, List.length_append, hrest.starts]
    rfl
  sends := by
    rw [Journal.sends_append, Journal.answers_append, hshows.sends, hshows.answers,
      List.length_append, List.length_append, hrest.sends]
    rfl
  result := by
    obtain ⟨before, last, hsplit, hresult⟩ := hrest.result
    refine ⟨a :: before, last, ?_, ?_⟩
    · rw [Journal.answers_append, hshows.answers, hsplit]
      rfl
    · rw [hresult, List.append_assoc]
      rfl

/-- A run that is given up ends with the failure of its last answer. -/
theorem Played.giveUp {failure final : Failure} {ruled : Context} {journal : Journal}
    {m : Machine Quota σ} (hshows : journal.Shows context sent a)
    (houtcome : a.outcome r.classifier = .error failure) (hhalts : r.halts earlier a = true)
    (hfinal : final = { failure with
      denial := if r.denied earlier a then some .quotaExhausted else none })
    (hattempt : ruled.info.attempt = earlier.length + 1) :
    r.Played earlier (Plan.giveUp ruled final journal m) := by
  refine .last (hshows.append ⟨rfl, rfl, rfl⟩) hhalts ?_
  rw [result_of_outcome houtcome (Reply.fresh_of_outcome_eq_error houtcome), ← hfinal, ← hattempt]
  rfl

end Reference

namespace Plan

variable {σ : Type} {r : Reference} {p : Plan Quota σ} {earlier : List Answered}
  {context : Context} {m : Machine Quota σ}

/-- Nobody cancels a pause either. -/
theorem fst_pause (huncancelled : p.env.uncancelled = p.env) (wait : Duration)
    (m : Machine Quota σ) : (p.pause wait m).1 = true := by
  rw [pause]
  split
  · rfl
  · rw [← huncancelled]
    rfl

theorem Stops.played (hfits : r.Fits p) (hfollows : r.Follows earlier context m) {left : Nat}
    (hleft : left + context.info.attempt = r.limit) {ran : Traced Quota σ Ending}
    (hstops : p.Stops left context m ran) (hready : p.Ready context m) : r.Played earlier ran := by
  have hlimit : context.info.attempt ≤ r.limit := hleft ▸ Nat.le_add_left _ _
  cases hstops with
  | cancelled hcancelled =>
      rw [← hfits.uncancelled] at hcancelled
      cases hcancelled
  | ended hopen hattempts =>
      cases hattempts with
      | unbuilt hunbuilt => exact absurd hunbuilt hready.built
      | unsigned hbuilt hnow hunsigned => exact absurd hunsigned (hready.signed hbuilt hnow)
      | overBudget _ _ _ _ hspent =>
          rw [hfits.total] at hspent
          cases hspent
      | interrupted hsends hcancelled =>
          rw [← hfits.uncancelled] at hcancelled
          cases hcancelled
      | @succeeded sent answered _ response hhears houtcome =>
          rw [hfits.classifier] at houtcome
          refine .last (show Journal.Shows _ (context.withOffset m.skew.offset) sent answered from
            ⟨rfl, rfl, rfl⟩) ?_ ?_
          · rw [Reference.halts, houtcome]
          · rw [Reference.result, houtcome]
            rfl
  | refused hfails =>
      obtain ⟨sent, a, houtcome, hshows, hdecides⟩ := hfails.decides hfits hfollows hlimit
      cases hdecides with
      | giveUp hhalts hfinal => exact .giveUp hshows houtcome hhalts hfinal hfollows.attempt
  | lastAttempt hzero hfails =>
      obtain ⟨sent, a, houtcome, hshows, hdecides⟩ := hfails.decides hfits hfollows hlimit
      rw [hzero, Nat.zero_add, hfollows.attempt] at hleft
      cases hdecides with
      | again hdenied hgoes hinfo hbonus hpaid =>
          have hhalts := (Reference.halts_iff houtcome).2 (.inl hleft)
          refine .giveUp hshows houtcome hhalts ?_ ?_
          · rw [hdenied, if_neg Bool.false_ne_true]
            exact (Reply.fresh_of_outcome_eq_error houtcome).without_denial.symm
          · rw [hinfo]
            exact hfollows.attempt
  | overBudget _ hfails hschedules =>
      cases hschedules with
      | overBudget _ hwait =>
          rw [hfits.total] at hwait
          cases hwait
  | interrupted _ hfails hschedules hpause =>
      have hslept := congrArg Prod.fst hpause
      rw [p.fst_pause hfits.uncancelled] at hslept
      cases hslept

/-- A run that gets all its attempts ready plays as the reference does. -/
theorem Runs.played (hfits : r.Fits p) {left : Nat} {ran : Traced Quota σ Ending}
    (hruns : p.Runs left context m ran) (hfollows : r.Follows earlier context m)
    (hleft : left + context.info.attempt = r.limit) (hprepared : p.Prepared left context m) :
    r.Played earlier ran := by
  induction hruns generalizing earlier with
  | last hstops => exact hstops.played hfits hfollows hleft (hprepared .start)
  | again hretries hrest ih =>
      have hlimit : _ < r.limit := hleft ▸ Nat.lt_add_of_pos_left (Nat.succ_pos _)
      obtain ⟨sent, a, hshows, hgoes, hnext⟩ := hretries.goes hfits hfollows hlimit
      refine .again hshows hgoes (ih hnext ?_ (hprepared.retry hretries))
      rw [hnext.attempt, List.length_append, List.length_singleton, ← hleft, hfollows.attempt]
      omega

end Plan

namespace Execution

variable {σ : Type}

variable {s : BuiltIn} {client : Client Quota} {call : Call} {signer : Signer}

/-- The reference for a call on a client of one of the library's strategies. -/
def reference (s : BuiltIn) (client : Client Quota) (m : Machine Quota σ) : Reference :=
  ⟨s, client.corrector, client.classifier, m.strategy.available⟩

theorem played_attempts (hstrategy : client.strategy = s.strategy)
    (htotal : client.defaults.totalTimeout = none)
    (hsigner : client.signers.resolve call.signer = .ok signer) (env : Environment σ)
    (id : InvocationId) (m : Machine Quota σ)
    (hprepared : Prepared client env.uncancelled call signer id m) :
    (reference s client m).Played [] (attempts client env.uncancelled call id m) := by
  rcases attempts_cases client env.uncancelled call id m with
    ⟨failure, hunknown, -⟩ | ⟨known, hknown, hruns⟩
  · cases hunknown.symm.trans hsigner
  · cases hknown.symm.trans hsigner
    have hfits : (reference s client m).Fits (plan client env.uncancelled call signer) :=
      ⟨hstrategy, rfl, rfl, htotal, rfl⟩
    refine hruns.played hfits ⟨rfl, rfl, rfl⟩ ?_ hprepared
    rw [Context.limit_first, Context.attempt_first, hstrategy, BuiltIn.limit_strategy,
      Nat.max_eq_right s.rules.positive, Nat.sub_add_cancel s.rules.positive]
    rfl

/-- **A run follows the reference.**  Let nobody cancel a call on a client of one of the library's
strategies, and let its total time be unlimited.  If all attempts that it comes to can be built and
signed, the call returns.  It sends the attempts from one up to the first at whose answer the
reference halts.  The answers are all that the transport gave on the way of the world, in order:
each was heard by the attempt of its number, and a transport that plays a sequence has given as many
outcomes of it.  The result is what the reference makes of the last answer: the response that came
back, or the failure with the number of attempts and, just when tokens were missing, the denial. -/
theorem execute_reference (hstrategy : client.strategy = s.strategy)
    (htotal : client.defaults.totalTimeout = none)
    (hsigner : client.signers.resolve call.signer = .ok signer) (env : Environment σ)
    (id : InvocationId) (m : Machine Quota σ)
    (hprepared : Prepared client env.uncancelled call signer id m) :
    let e := execute client env.uncancelled call id m
    let r := reference s client m
    let sends := e.journal.sends
    let answers := e.journal.answers
    let first := Context.first id (client.strategy.limit m.strategy)
    perform client env.uncancelled call id m = .returned e ∧
      e.journal.starts.map (·.info.attempt) = List.range' 1 answers.length ∧
      sends.length = answers.length ∧
      (∀ i sent a, sends[i]? = some sent → answers[i]? = some a →
        (plan client env.uncancelled call signer).Receives (first.info.limit - 1) first m (i + 1)
          sent a) ∧
      env.uncancelled.Threads m.world (sends.zip (answers.map fun a => some a.reply))
        e.machine.world ∧
      (∀ outcomes given, env.uncancelled.Scripted outcomes given →
        answers.map (·.reply) = (List.range' (given m.world) answers.length).map outcomes ∧
          given e.machine.world = given m.world + answers.length) ∧
      (∀ earlier a later, answers = earlier ++ a :: later →
        (r.halts earlier a = true ↔ later = [])) ∧
      ∃ before last, answers = before ++ [last] ∧ e.result = r.result before last ∧
        ∀ response, e.result = .ok response → last.reply = .response response := by
  intro e r sends answers first
  have hanswers : answers = (attempts client env.uncancelled call id m).journal.answers :=
    answers_execute client env.uncancelled call id m
  have hsends : sends = (attempts client env.uncancelled call id m).journal.sends :=
    sends_execute client env.uncancelled call id m
  have hstarts := starts_execute client env.uncancelled call id m
  have hplayed := played_attempts hstrategy htotal hsigner env id m hprepared
  have hnumbers := (execute_course client env.uncancelled call id m).map_attempt_starts
  rw [Journal.starts_milestones, hstarts, hplayed.starts, ← hanswers, ← hstarts] at hnumbers
  have hlength : sends.length = answers.length := by rw [hsends, hplayed.sends, hanswers]
  obtain ⟨log, hthreads, htells⟩ := threads_execute client env.uncancelled call id m
  obtain ⟨before, last, hsplit, hresult⟩ := hplayed.result
  have hresult : e.result = r.result before last := hresult
  refine ⟨hprepared.perform_eq hsigner, hnumbers, hlength, ?_, ?_, ?_, ?_, before, last,
    hanswers.trans hsplit, hresult, ?_⟩
  · intro i sent a hsent ha
    exact receives_execute hsigner hsent ha
  · rw [← htells.eq_zip hthreads]
    exact hthreads
  · intro outcomes given hscripted
    obtain ⟨hplays, hgiven⟩ := hthreads.scripted hscripted
    rw [htells.answers, List.length_map] at hplays hgiven
    exact ⟨hplays, hgiven⟩
  · intro earlier a later hsplit
    exact hplayed.plays.halts_iff (hanswers.symm.trans hsplit)
  · intro response hok
    rw [hresult] at hok
    exact Reference.reply_of_result_eq_ok hok

open Rehearsal

/-- A transport that plays a sequence gives each outcome once, whatever it is handed. -/
theorem scripted_scripted (outcomes : Nat → Reply) :
    (scripted outcomes).uncancelled.Scripted outcomes id where
  outcome hmoves := by
    cases hmoves with
    | answered _ hreply =>
        cases hreply
        exact ⟨rfl, rfl⟩
  interrupted hmoves := by
    cases hmoves with
    | interrupted hcancelled => cases hcancelled
  quiet hmoves := by
    cases hmoves with
    | now hread | elapsed hread | draw hread =>
        cases hread
        rfl
    | notice | sleep => rfl
    | woken hcancelled => cases hcancelled

/-- The plain call can be built for every attempt, and needs no signature. -/
theorem signable_plain {τ : Type} (strategy : RetryStrategy τ) (env : Environment σ) :
    (plan (plainClient strategy) env plainCall .null).Signable := by
  have hread : (Uri.parse? (plainCall.target "http://localhost".toList)).isSome = true := by
    decide +kernel
  obtain ⟨uri, huri⟩ := Option.isSome_iff_exists.1 hread
  intro context turn
  exact ⟨_, Call.build_eq_ok (Call.endpoint_of_unprefixed (.inl rfl)) huri, fun _ => ⟨_, rfl⟩⟩

/-- Twelve tokens pay for the retry after a timeout, but not for another after a refused
connection, which is all that the transport plays from then on. -/
theorem execute_reference_plain :
    let client := plainClient (BuiltIn.standard Standard.rules .standard).strategy
    let outcomes (given : Nat) : Reply :=
      if given = 0 then .broken .timeout [] else .broken .connect []
    let env := scripted outcomes
    let m : Machine Quota Nat := ⟨0, .new 12, .new, 0⟩
    let e := execute client env.uncancelled plainCall .nil m
    client.defaults.totalTimeout = none ∧
      client.signers.resolve plainCall.signer = .ok .null ∧
      Prepared client env.uncancelled plainCall .null .nil m ∧
      env.uncancelled.Scripted outcomes id ∧
      perform client env.uncancelled plainCall .nil m = .returned e ∧
      e.journal.answers.map (·.reply) = [.broken .timeout [], .broken .connect []] ∧
      e.machine.world = 2 ∧
      e.result = .error { Failure.transport .connect [] with
        attempts := some 2
        denial := some .quotaExhausted } := by
  intro client outcomes env m e
  have hstrategy : client.strategy = (BuiltIn.standard Standard.rules .standard).strategy := rfl
  have htotal : client.defaults.totalTimeout = none := rfl
  have hsigner : client.signers.resolve plainCall.signer = .ok .null := rfl
  have hmodern : env.uncancelled.Modern := fun _ => (Instant.modern_iff .epoch).2 (by decide)
  have hsignable := signable_plain client.strategy env.uncancelled
  have hprepared : Prepared client env.uncancelled plainCall .null .nil m :=
    hsignable.prepared hmodern (ClockOffset.fits_of_le (by decide))
      (ClockOffset.fits_of_le (by decide)) (by decide) _ .nil _
  have hscripted : env.uncancelled.Scripted outcomes id := scripted_scripted outcomes
  have hanswers : e.journal.answers =
      [⟨.broken .timeout [], .epoch, .epoch⟩] ++ [⟨.broken .connect [], .epoch, .epoch⟩] := by
    decide +kernel
  obtain ⟨hperform, -, -, -, -, hplays, -, before, last, hsplit, hresult, -⟩ :=
    execute_reference hstrategy htotal hsigner env .nil m hprepared
  obtain ⟨hreplies, hgiven⟩ := hplays outcomes id hscripted
  have hlength : e.journal.answers.length = 2 := by rw [hanswers]; rfl
  rw [hlength] at hreplies hgiven
  rw [id_eq, id_eq] at hgiven
  obtain ⟨rfl, hlast⟩ := List.append_inj' (hsplit.symm.trans hanswers) rfl
  obtain rfl := List.singleton_inj.1 hlast
  exact ⟨htotal, hsigner, hprepared, hscripted, hperform, hreplies, hgiven, hresult⟩

end Execution

end ServiceCall
