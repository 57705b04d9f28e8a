import ServiceCall.Proofs.Execution.Passes

/-!
# The way of the world

A run never goes back to a world it has left: each look at the clock, each draw and each request
takes the world where the one before put it.  So what the transport was handed on the way from the
first world to the last, and what it gave back, are facts of the two worlds and of nothing that the
run writes down.  The journal of a run tells exactly these, in order.
-/

namespace ServiceCall

/-- A request that was handed to the transport, and its reply unless the caller cancelled before
it. -/
abbrev Exchange := Sent × Option Reply

namespace Environment

variable {σ : Type} {env : Environment σ}

/-- The world moves on by one look or one act, which can be an exchange with the transport. -/
inductive Moves (env : Environment σ) : σ → Option Exchange → σ → Prop where
  | now {now : Instant} {w v : σ} (hnow : env.now w = (now, v)) : Moves env w none v
  | elapsed {elapsed : Duration} {w v : σ} (helapsed : env.elapsed w = (elapsed, v)) :
      Moves env w none v
  | draw {draw : Nat} {w v : σ} (hdraw : env.draw w = (draw, v)) : Moves env w none v
  | notice (attempt : Nat) (w : σ) : Moves env w none (env.notice attempt w)
  | sleep (wait : Duration) (w : σ) : Moves env w none (env.sleep wait w)
  | woken {wait : Duration} {w v : σ} (hcancelled : env.interruptsSleep wait w = some v) :
      Moves env w none v
  | answered {sent : Sent} {reply : Reply} {w v : σ}
      (hopen : env.interruptsSend sent.request sent.limit w = none)
      (hreply : env.send sent.request sent.limit w = (reply, v)) :
      Moves env w (some (sent, some reply)) v
  | interrupted {sent : Sent} {w v : σ}
      (hcancelled : env.interruptsSend sent.request sent.limit w = some v) :
      Moves env w (some (sent, none)) v

/-- The way from one world to another, with all exchanges on it in order. -/
inductive Threads (env : Environment σ) : σ → List Exchange → σ → Prop where
  | refl (w : σ) : Threads env w [] w
  | step {w v u : σ} {exchange : Option Exchange} {log : List Exchange}
      (hmoves : env.Moves w exchange v) (hrest : Threads env v log u) :
      Threads env w (exchange.toList ++ log) u

theorem Moves.threads {w v : σ} {exchange : Option Exchange} (hmoves : env.Moves w exchange v) :
    env.Threads w exchange.toList v := by
  rw [← List.append_nil exchange.toList]
  exact .step hmoves (.refl v)

theorem Threads.trans {w v u : σ} {log later : List Exchange} (hfirst : env.Threads w log v)
    (hsecond : env.Threads v later u) : env.Threads w (log ++ later) u := by
  induction hfirst with
  | refl => exact hsecond
  | step hmoves _ ih =>
      rw [List.append_assoc]
      exact .step hmoves (ih hsecond)

/-- A caller who never cancels leaves no exchange without a reply. -/
theorem Threads.map_some {w v : σ} {log : List Exchange}
    (hthreads : env.uncancelled.Threads w log v) :
    (log.filterMap (·.2)).map some = log.map (·.2) := by
  induction hthreads with
  | refl => rfl
  | @step _ _ _ _ log hmoves _ ih =>
      cases hmoves with
      | answered => exact congrArg (List.cons _) ih
      | woken hcancelled | interrupted hcancelled => cases hcancelled
      | now | elapsed | draw | notice | sleep => exact ih

/-- A transport that gives the outcomes of a sequence one after the other, whatever it is handed:
the world tells how many it has given. -/
structure Scripted (env : Environment σ) (outcomes : Nat → Reply) (given : σ → Nat) : Prop where
  outcome {w v : σ} {sent : Sent} {reply : Reply} :
    env.Moves w (some (sent, some reply)) v → reply = outcomes (given w) ∧ given v = given w + 1
  interrupted {w v : σ} {sent : Sent} : env.Moves w (some (sent, none)) v → given v = given w
  quiet {w v : σ} : env.Moves w none v → given v = given w

/-- On its way the world takes the outcomes of the sequence in order, and leaves none out. -/
theorem Threads.scripted {outcomes : Nat → Reply} {given : σ → Nat} {w v : σ}
    {log : List Exchange} (hthreads : env.Threads w log v)
    (hscripted : env.Scripted outcomes given) :
    let replies := log.filterMap (·.2)
    replies = (List.range' (given w) replies.length).map outcomes ∧
      given v = given w + replies.length := by
  induction hthreads with
  | refl => exact ⟨rfl, rfl⟩
  | @step w v u exchange log hmoves _ ih =>
      obtain ⟨hreplies, hgiven⟩ := ih
      match exchange, hmoves with
      | none, hmoves =>
          rw [← hscripted.quiet hmoves]
          exact ⟨hreplies, hgiven⟩
      | some (sent, none), hmoves =>
          rw [← hscripted.interrupted hmoves]
          exact ⟨hreplies, hgiven⟩
      | some (sent, some reply), hmoves =>
          obtain ⟨hreply, hnext⟩ := hscripted.outcome hmoves
          rw [hnext] at hreplies hgiven
          intro replies
          have hcons : replies = reply :: log.filterMap (·.2) := rfl
          rw [hcons, List.length_cons, List.range'_succ, List.map_cons, ← hreply, ← hreplies]
          exact ⟨rfl, by omega⟩

end Environment

/-- A journal tells of exactly these exchanges. -/
structure Journal.Tells (j : Journal) (log : List Exchange) : Prop where
  sends : log.map (·.1) = j.sends
  answers : log.filterMap (·.2) = j.answers.map (·.reply)

theorem Journal.Tells.append {i j : Journal} {log later : List Exchange} (hi : i.Tells log)
    (hj : j.Tells later) : (i ++ j).Tells (log ++ later) where
  sends := by rw [List.map_append, hi.sends, hj.sends, sends_append]
  answers := by rw [List.filterMap_append, hi.answers, hj.answers, answers_append, List.map_append]

theorem Journal.Tells.opened {j : Journal} {log : List Exchange} {attempt limit : Nat}
    (hj : j.Tells log) : Tells (.opened attempt limit :: j) log := ⟨hj.sends, hj.answers⟩

/-- With a caller who never cancels, each request in the journal goes with the answer to it. -/
theorem Journal.Tells.eq_zip {σ : Type} {env : Environment σ} {w v : σ} {j : Journal}
    {log : List Exchange} (htells : j.Tells log) (hthreads : env.uncancelled.Threads w log v) :
    log = j.sends.zip (j.answers.map fun a => some a.reply) := by
  have hreplies := hthreads.map_some
  rw [htells.answers, List.map_map] at hreplies
  exact List.zip_of_prod htells.sends hreplies.symm

/-- A part that sends and answers nothing tells of no exchange. -/
theorem Journal.Silent.tells {j : Journal} (hsilent : j.Silent) : j.Tells [] where
  sends := hsilent.sends.symm
  answers := by rw [hsilent.answers]; rfl

namespace Plan

variable {τ σ : Type} {p : Plan τ σ} {context : Context} {m : Machine τ σ} {failure : Failure}

/-! ## The way through a pass -/

theorem threads_elapsed {w v : σ} {elapsed : Duration} (helapsed : p.elapsed w = (elapsed, v)) :
    p.env.Threads w [] v := by
  rw [Plan.elapsed] at helapsed
  split at helapsed
  · cases helapsed
    exact .refl w
  · exact (Environment.Moves.elapsed helapsed).threads

theorem threads_now {w v : σ} {now : Instant} (hnow : p.env.now w = (now, v)) :
    p.env.Threads w [] v := (Environment.Moves.now hnow).threads

theorem threads_notice (p : Plan τ σ) (attempt : Nat) (w : σ) :
    p.env.Threads w [] (p.env.notice attempt w) := (Environment.Moves.notice attempt w).threads

/-- The way to the transport has no exchange on it. -/
theorem Sends.threads {sent : Sent} {signedAt : Instant} {world : σ}
    (hsends : p.Sends context m sent signedAt world) : p.env.Threads m.world [] world := by
  cases hsends with
  | intro _ hnow _ helapsed =>
      exact (p.threads_notice _ _).trans ((threads_now hnow).trans (threads_elapsed helapsed))

/-- And what is heard of an attempt came from its one exchange. -/
theorem Hears.threads {sent : Sent} {a : Answered} {world : σ}
    (hhears : p.Hears context m sent a world) :
    p.env.Threads m.world [(sent, some a.reply)] world := by
  obtain ⟨hsends, hopen, hreply, hnow⟩ := hhears
  have hexchange := (Environment.Moves.answered hopen hreply).threads
  exact hsends.threads.trans (hexchange.trans (threads_now hnow))

theorem Attempts.threads {trial : Traced τ σ Trial} (hattempts : p.Attempts context m trial) :
    ∃ log, p.env.Threads m.world log trial.machine.world ∧ trial.journal.Tells log := by
  cases hattempts with
  | unbuilt => exact ⟨[], p.threads_notice _ _, rfl, rfl⟩
  | unsigned _ hnow => exact ⟨[], (p.threads_notice _ _).trans (threads_now hnow), rfl, rfl⟩
  | overBudget hbuilt hnow hsigned helapsed =>
      exact ⟨[], (p.threads_notice _ _).trans ((threads_now hnow).trans (threads_elapsed helapsed)),
        rfl, rfl⟩
  | interrupted hsends hcancelled =>
      exact ⟨_, hsends.threads.trans (Environment.Moves.interrupted hcancelled).threads, rfl, rfl⟩
  | succeeded hhears | broken hhears => exact ⟨_, hhears.threads, rfl, rfl⟩

theorem Judges.threads {ruled : Traced τ σ (Ruling × Context)}
    (hjudges : p.Judges context failure m ruled) :
    p.env.Threads m.world [] ruled.machine.world := by
  cases hjudges with
  | stopped | denied => exact .refl _
  | @approved planned _ _ _ _ _ _ hdrawn =>
      cases planned with
      | exact wait =>
          cases hdrawn
          exact .refl m.world
      | upTo ceiling => exact (Environment.Moves.draw hdrawn).threads

theorem Rules.threads {signedAt receivedAt : Instant} {ruled : Traced τ σ (Ruling × Context)}
    (hrules : p.Rules context failure signedAt receivedAt m ruled) :
    p.env.Threads m.world [] ruled.machine.world := by
  cases hrules with
  | terminal | granted => exact .refl _
  | judged _ _ _ hjudges => exact hjudges.threads

theorem threads_reference {reference : Instant} {world : σ}
    (hreference : p.reference failure m = (reference, { m with world })) :
    p.env.Threads m.world [] world := by
  rw [Plan.reference] at hreference
  cases hdate : failure.serverDate? with
  | some date =>
      rw [hdate] at hreference
      rw [← show m.world = world from congrArg (·.2.world) hreference]
      exact .refl m.world
  | none =>
      rcases hnow : p.env.now m.world with ⟨now, after⟩
      simp only [hdate, hnow] at hreference
      rw [← show after = world from congrArg (·.2.world) hreference]
      exact threads_now hnow

theorem threads_pause {wait : Duration} {ended : Bool} {world : σ}
    (hpause : p.pause wait m = (ended, { m with world })) : p.env.Threads m.world [] world := by
  rw [pause] at hpause
  split at hpause
  · rw [← show m.world = world from congrArg (·.2.world) hpause]
    exact .refl m.world
  · cases hcancelled : p.env.interruptsSleep wait m.world with
    | some after =>
        simp only [hcancelled] at hpause
        rw [← show after = world from congrArg (·.2.world) hpause]
        exact (Environment.Moves.woken hcancelled).threads
    | none =>
        simp only [hcancelled] at hpause
        rw [← show p.env.sleep wait m.world = world from congrArg (·.2.world) hpause]
        exact (Environment.Moves.sleep wait m.world).threads

theorem Schedules.threads {planned : Delay} {wait : Duration} {bonus : Bool}
    {scheduled : Traced τ σ (Except Failure Context)}
    (hschedules : p.Schedules context failure planned wait bonus m scheduled) :
    p.env.Threads m.world [] scheduled.machine.world := by
  cases hschedules with
  | overBudget helapsed => exact threads_elapsed helapsed
  | scheduled helapsed _ hreference =>
      exact (threads_elapsed helapsed).trans (threads_reference hreference)

theorem Fails.threads {ruled : Traced τ σ (Ruling × Context)}
    (hfails : p.Fails context m failure ruled) :
    ∃ log, p.env.Threads m.world log ruled.machine.world ∧ ruled.journal.Tells log := by
  obtain ⟨_, hattempts, hrules⟩ := hfails
  obtain ⟨log, hthreads, htells⟩ := hattempts.threads
  exact ⟨log ++ [], hthreads.trans hrules.threads, (htells.append hrules.silent.tells).opened⟩

/-- The way of a failed pass goes on through the schedule of its retry. -/
theorem Fails.threads_scheduled {ruled : Context} {journal : Journal} {after : Machine τ σ}
    {planned : Delay} {wait : Duration} {bonus : Bool}
    {scheduled : Traced τ σ (Except Failure Context)}
    (hfails : p.Fails context m failure ⟨(.again planned wait bonus, ruled), journal, after⟩)
    (hschedules : p.Schedules ruled failure planned wait bonus after scheduled) :
    ∃ log, p.env.Threads m.world log scheduled.machine.world ∧
      (journal ++ scheduled.journal).Tells log := by
  obtain ⟨log, hthreads, htells⟩ := hfails.threads
  exact ⟨log ++ [], hthreads.trans hschedules.threads, htells.append hschedules.silent.tells⟩

theorem Retries.threads {retried : Traced τ σ Context} (hretries : p.Retries context m retried) :
    ∃ log, p.env.Threads m.world log retried.machine.world ∧ retried.journal.Tells log := by
  obtain ⟨hfails, hschedules, hpause⟩ := hretries
  obtain ⟨log, hthreads, htells⟩ := hfails.threads_scheduled hschedules
  refine ⟨log, ?_, htells⟩
  rw [← List.append_nil log]
  exact hthreads.trans (threads_pause hpause)

theorem Stops.threads {left : Nat} {ran : Traced τ σ Ending}
    (hstops : p.Stops left context m ran) :
    ∃ log, p.env.Threads m.world log ran.machine.world ∧ ran.journal.Tells log := by
  cases hstops with
  | cancelled => exact ⟨[], .refl m.world, rfl, rfl⟩
  | ended _ hattempts =>
      obtain ⟨log, hthreads, htells⟩ := hattempts.threads
      exact ⟨log, hthreads, htells.opened⟩
  | refused hfails | lastAttempt _ hfails =>
      obtain ⟨log, hthreads, htells⟩ := hfails.threads
      refine ⟨log ++ [], ?_, htells.append ⟨rfl, rfl⟩⟩
      rw [List.append_nil]
      exact hthreads
  | overBudget _ hfails hschedules => exact hfails.threads_scheduled hschedules
  | interrupted _ hfails hschedules hpause =>
      obtain ⟨log, hthreads, htells⟩ := hfails.threads_scheduled hschedules
      refine ⟨log, ?_, htells⟩
      rw [← List.append_nil log]
      exact hthreads.trans (threads_pause hpause)

/-- A run takes the world along one way, and tells of all exchanges on it. -/
theorem Runs.threads {left : Nat} {ran : Traced τ σ Ending} (hruns : p.Runs left context m ran) :
    ∃ log, p.env.Threads m.world log ran.machine.world ∧ ran.journal.Tells log := by
  induction hruns with
  | last hstops => exact hstops.threads
  | again hretries _ ih =>
      obtain ⟨log, hthreads, htells⟩ := hretries.threads
      obtain ⟨later, hrest, hlater⟩ := ih
      exact ⟨log ++ later, hthreads.trans hrest, htells.append hlater⟩

end Plan

namespace Execution

variable {τ σ : Type}

/-- **The journal tells what the transport was handed and what it gave back.**  From the first world
of a call to its last there is one way, and the requests and the answers in the journal are those of
the exchanges on it, all of them and in order. -/
theorem threads_execute (client : Client τ) (env : Environment σ) (call : Call)
    (id : InvocationId) (m : Machine τ σ) :
    let e := execute client env call id m
    ∃ log, env.Threads m.world log e.machine.world ∧ e.journal.Tells log := by
  intro e
  have hsends := sends_execute client env call id m
  have hanswers := answers_execute client env call id m
  rcases attempts_cases client env call id m with ⟨failure, -, hran⟩ | ⟨signer, -, hruns⟩
  · rw [hran] at hsends hanswers
    refine ⟨[], ?_, hsends.symm, by rw [hanswers]; rfl⟩
    rw [show e.machine = (attempts client env call id m).machine from rfl, hran]
    exact .refl m.world
  · obtain ⟨log, hthreads, htells⟩ := hruns.threads
    exact ⟨log, hthreads, htells.sends.trans hsends.symm, by rw [htells.answers, hanswers]⟩

end Execution

end ServiceCall
