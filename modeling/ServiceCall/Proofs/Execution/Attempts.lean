import ServiceCall.Execution.Loop

/-!
# The parts of a pass

A pass through the loop makes an attempt, rules on its failure, and schedules a retry.  Each part
is stated here as a relation that lists the ways in which it can go, with the entries it adds to
the journal and the machine it leaves.  Every later fact about executions is proved from these
lists, and no proof after this module opens the loop again.
-/

namespace ServiceCall.Plan

variable {τ σ : Type}

/-- An attempt gets as far as the transport: its request, the time of signing, and the world in
which the request is handed over. -/
inductive Sends (p : Plan τ σ) (context : Context) (m : Machine τ σ) :
    Sent → Instant → σ → Prop where
  | intro {request signed : Http.Request} {now : Instant} {clocked world : σ}
      {elapsed limit : Duration}
      (hbuilt : p.built context m.turn = .ok request)
      (hnow : p.env.now (p.env.notice context.info.attempt m.world) = (now, clocked))
      (hsigned : p.signer.sign request (context.offset.apply now) = .ok signed)
      (helapsed : p.elapsed clocked = (elapsed, world))
      (hlimit : Budget.sendLimit p.timeout p.client.defaults.totalTimeout elapsed = some limit) :
      Sends p context m ⟨signed, limit⟩ (context.offset.apply now) world

/-- An attempt is answered: nobody cancels while the transport is at work. -/
inductive Hears (p : Plan τ σ) (context : Context) (m : Machine τ σ) :
    Sent → Answered → σ → Prop where
  | intro {sent : Sent} {reply : Reply} {signedAt receivedAt : Instant} {world replied after : σ}
      (hsends : p.Sends context m sent signedAt world)
      (hopen : p.env.interruptsSend sent.request sent.limit world = none)
      (hreply : p.env.send sent.request sent.limit world = (reply, replied))
      (hnow : p.env.now replied = (receivedAt, after)) :
      Hears p context m sent ⟨reply, signedAt, receivedAt⟩ after

/-- The ways in which an attempt can go. -/
inductive Attempts (p : Plan τ σ) (context : Context) (m : Machine τ σ) :
    Traced τ σ Trial → Prop where
  | unbuilt {failure : Failure} (hbuilt : p.built context m.turn = .error failure) :
      Attempts p context m
        ⟨.ended (.error failure), [.started context, .entered .building, .entered .failed],
          { m with world := p.env.notice context.info.attempt m.world, turn := m.turn + 1 }⟩
  | unsigned {request : Http.Request} {now : Instant} {world : σ} {failure : Failure}
      (hbuilt : p.built context m.turn = .ok request)
      (hnow : p.env.now (p.env.notice context.info.attempt m.world) = (now, world))
      (hsigned : p.signer.sign request (context.offset.apply now) = .error failure) :
      Attempts p context m
        ⟨.ended (.error failure),
          [.started context, .entered .building, .entered .signing, .entered .failed],
          { m with world, turn := m.turn + 1 }⟩
  | overBudget {request signed : Http.Request} {now : Instant} {clocked world : σ}
      {elapsed : Duration}
      (hbuilt : p.built context m.turn = .ok request)
      (hnow : p.env.now (p.env.notice context.info.attempt m.world) = (now, clocked))
      (hsigned : p.signer.sign request (context.offset.apply now) = .ok signed)
      (helapsed : p.elapsed clocked = (elapsed, world))
      (hlimit : Budget.sendLimit p.timeout p.client.defaults.totalTimeout elapsed = none) :
      Attempts p context m
        ⟨.ended (.error (Budget.exhausted p.client.defaults.totalTimeout)),
          [.started context, .entered .building, .entered .signing, .entered .sending,
            .entered .failed],
          { m with world, turn := m.turn + 1 }⟩
  | interrupted {sent : Sent} {signedAt : Instant} {world after : σ}
      (hsends : p.Sends context m sent signedAt world)
      (hcancelled : p.env.interruptsSend sent.request sent.limit world = some after) :
      Attempts p context m
        ⟨.ended (.error .cancelled),
          [.started context, .entered .building, .entered .signing, .entered .sending,
            .sent sent, .entered .failed],
          { m with world := after, turn := m.turn + 1 }⟩
  | succeeded {sent : Sent} {answered : Answered} {world : σ} {response : Http.Response}
      (hhears : p.Hears context m sent answered world)
      (houtcome : answered.outcome p.client.classifier = .ok response) :
      Attempts p context m
        ⟨.ended (.ok response),
          [.started context, .entered .building, .entered .signing, .entered .sending,
            .sent sent, .entered .interpreting, .answered answered,
            .credited context.retriedKind, .entered .succeeded],
          { world
            strategy := p.client.strategy.credit context.retriedKind m.strategy
            skew := m.skew
            turn := m.turn + 1 }⟩
  | broken {sent : Sent} {answered : Answered} {world : σ} {failure : Failure}
      (hhears : p.Hears context m sent answered world)
      (houtcome : answered.outcome p.client.classifier = .error failure) :
      Attempts p context m
        ⟨.broken failure answered.signedAt answered.receivedAt,
          [.started context, .entered .building, .entered .signing, .entered .sending,
            .sent sent, .entered .interpreting, .answered answered,
            .broke failure.kind failure.status failure.retryable],
          { m with world, turn := m.turn + 1 }⟩

/-- A request that is handed over is interrupted, or answered and then interpreted. -/
private theorem attempts_exchange {p : Plan τ σ} {context : Context} {m : Machine τ σ}
    {request : Http.Request} {limit elapsed : Duration} {signedAt : Instant} {clocked world : σ}
    (hsends : p.Sends context m ⟨request, limit⟩ signedAt world)
    (helapsed : p.elapsed clocked = (elapsed, world))
    (hlimit : Budget.sendLimit p.timeout p.client.defaults.totalTimeout elapsed = some limit) :
    let trial := p.exchange context request signedAt
      { m with world := clocked, turn := m.turn + 1 }
    p.Attempts context m { trial with
      journal :=
        .started context :: [.entered .building, .entered .signing] ++ trial.journal } := by
  intro trial
  cases hopen : p.env.interruptsSend request limit world with
  | some after =>
      simp only [trial, exchange, helapsed, hlimit, hopen]
      exact .interrupted hsends hopen
  | none =>
      rcases hreply : p.env.send request limit world with ⟨reply, replied⟩
      rcases hnow : p.env.now replied with ⟨receivedAt, after⟩
      have hhears := Hears.intro hsends hopen hreply hnow
      cases houtcome : (⟨reply, signedAt, receivedAt⟩ : Answered).outcome p.client.classifier with
      | ok response =>
          simp only [trial, exchange, helapsed, hlimit, hopen, interpret, hreply, hnow, houtcome]
          exact .succeeded hhears houtcome
      | error failure =>
          simp only [trial, exchange, helapsed, hlimit, hopen, interpret, hreply, hnow, houtcome]
          exact .broken hhears houtcome

/-- The loop's attempt goes in one of these ways. -/
theorem attempts_attempt (p : Plan τ σ) (context : Context) (m : Machine τ σ) :
    p.Attempts context m (p.attempt context m) := by
  cases hbuilt : p.built context m.turn with
  | error failure =>
      simp only [attempt, assemble, hbuilt]
      exact .unbuilt hbuilt
  | ok request =>
      rcases hnow : p.env.now (p.env.notice context.info.attempt m.world) with ⟨now, clocked⟩
      cases hsigned : p.signer.sign request (context.offset.apply now) with
      | error failure =>
          simp only [attempt, assemble, hbuilt, hnow, hsigned, Except.map]
          exact .unsigned hbuilt hnow hsigned
      | ok signed =>
          rcases helapsed : p.elapsed clocked with ⟨elapsed, world⟩
          simp only [attempt, assemble, hbuilt, hnow, hsigned, Except.map]
          cases hlimit : Budget.sendLimit p.timeout p.client.defaults.totalTimeout elapsed with
          | none =>
              simp only [exchange, helapsed, hlimit]
              exact .overBudget hbuilt hnow hsigned helapsed hlimit
          | some limit =>
              exact attempts_exchange (.intro hbuilt hnow hsigned helapsed hlimit) helapsed hlimit

/-- And it goes in one way only. -/
theorem Attempts.eq_attempt {p : Plan τ σ} {context : Context} {m : Machine τ σ}
    {trial : Traced τ σ Trial} (hattempts : p.Attempts context m trial) :
    trial = p.attempt context m := by
  cases hattempts with
  | unbuilt hbuilt =>
      simp only [attempt, assemble, hbuilt]
      rfl
  | unsigned hbuilt hnow hsigned =>
      simp only [attempt, assemble, hbuilt, hnow, hsigned, Except.map]
      rfl
  | overBudget hbuilt hnow hsigned helapsed hlimit =>
      simp only [attempt, assemble, exchange, hbuilt, hnow, hsigned, helapsed, hlimit, Except.map]
      rfl
  | interrupted hsends hcancelled =>
      obtain ⟨hbuilt, hnow, hsigned, helapsed, hlimit⟩ := hsends
      simp only [attempt, assemble, exchange, hbuilt, hnow, hsigned, helapsed, hlimit, Except.map,
        hcancelled]
      rfl
  | succeeded hhears houtcome =>
      obtain ⟨⟨hbuilt, hnow, hsigned, helapsed, hlimit⟩, hopen, hreply, hreceived⟩ := hhears
      simp only [attempt, assemble, exchange, interpret, hbuilt, hnow, hsigned, helapsed, hlimit,
        Except.map, hopen, hreply, hreceived, houtcome]
      rfl
  | broken hhears houtcome =>
      obtain ⟨⟨hbuilt, hnow, hsigned, helapsed, hlimit⟩, hopen, hreply, hreceived⟩ := hhears
      simp only [attempt, assemble, exchange, interpret, hbuilt, hnow, hsigned, helapsed, hlimit,
        Except.map, hopen, hreply, hreceived, houtcome]
      rfl

end ServiceCall.Plan
