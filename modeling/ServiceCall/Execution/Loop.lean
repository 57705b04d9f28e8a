import ServiceCall.Call.Build
import ServiceCall.Client.Basic
import ServiceCall.Execution.Budget
import ServiceCall.Execution.Environment
import ServiceCall.Execution.Journal

/-!
# Executing calls

A call is executed in attempts.  Each attempt is built, signed, sent and interpreted; a failure of
an answered attempt is looked at for a wrong clock first and judged by the strategy second; and a
retry that is wanted is scheduled if an attempt is left and the wait fits the budget.  Every part
gives back the entries that it adds to the journal.

An attempt writes down its deadline when its request is built, and perhaps the time of signing.  A
time without a date cannot be written, and the call crashes there.  `perform` is the call with its
crash; `execute` is how the call goes as long as every time can be written, and `perform` gives it
back whenever it returns.
-/

namespace ServiceCall

/-- What executions read and change: the world, the strategy's state, the clock offset, and the
number of endpoints asked for. -/
structure Machine (τ σ : Type) where
  world : σ
  strategy : τ
  skew : SkewState
  turn : Nat

/-- What stays the same during one execution. -/
structure Plan (τ σ : Type) where
  client : Client τ
  env : Environment σ
  call : Call
  signer : Signer
  /-- The time limit of each attempt. -/
  timeout : Duration

/-- A value, the entries it took to get it, and the machine after it. -/
structure Traced (τ σ α : Type) where
  value : α
  journal : Journal
  machine : Machine τ σ

def Traced.map {τ σ α β : Type} (f : α → β) (t : Traced τ σ α) : Traced τ σ β :=
  ⟨f t.value, t.journal, t.machine⟩

/-- What an attempt came to: an end, or a failure that may be retried. -/
inductive Trial where
  | ended (result : Except Failure Http.Response)
  | broken (failure : Failure) (signedAt receivedAt : Instant)

/-- What is to be done about a failure. -/
inductive Ruling where
  | giveUp (failure : Failure)
  | again (planned : Delay) (wait : Duration) (bonus : Bool)

namespace Plan

variable {τ σ : Type}

/-- The request of an attempt at the endpoint whose turn it is. -/
def built (p : Plan τ σ) (context : Context) (turn : Nat) : Except Failure Http.Request := do
  let endpoint ← p.client.endpoints.resolve turn p.call.operation
  p.call.build p.client.defaults endpoint context.id context.info

/-- Builds the request of an attempt at the next endpoint, signs it by the shifted local clock, and
tells the time of signing. -/
def assemble (p : Plan τ σ) (context : Context) (m : Machine τ σ) :
    Traced τ σ (Except Failure (Http.Request × Instant)) :=
  let built := p.built context m.turn
  let m := { m with turn := m.turn + 1 }
  match built with
  | .error failure => ⟨.error failure, [.entered .building], m⟩
  | .ok request =>
    let (now, world) := p.env.now m.world
    let signedAt := context.offset.apply now
    let signed := (p.signer.sign request signedAt).map fun request => (request, signedAt)
    ⟨signed, [.entered .building, .entered .signing], { m with world }⟩

/-- Interprets what came back: a success is told to the strategy, a failure is passed on. -/
def interpret (p : Plan τ σ) (context : Context) (signedAt : Instant) (reply : Reply)
    (m : Machine τ σ) : Traced τ σ Trial :=
  let (receivedAt, world) := p.env.now m.world
  let m := { m with world }
  let answered : Answered := ⟨reply, signedAt, receivedAt⟩
  match answered.outcome p.client.classifier with
  | .ok response =>
    ⟨.ended (.ok response),
      [.entered .interpreting, .answered answered, .credited context.retriedKind,
        .entered .succeeded],
      { m with strategy := p.client.strategy.credit context.retriedKind m.strategy }⟩
  | .error failure =>
    ⟨.broken failure signedAt receivedAt,
      [.entered .interpreting, .answered answered,
        .broke failure.kind failure.status failure.retryable],
      m⟩

/-- The time that has elapsed.  Only a call with a total limit reads it. -/
def elapsed (p : Plan τ σ) (world : σ) : Duration × σ :=
  match p.client.defaults.totalTimeout with
  | none => (.zero, world)
  | some _ => p.env.elapsed world

/-- Sends a request within what is left of the budget, unless the caller cancels. -/
def exchange (p : Plan τ σ) (context : Context) (request : Http.Request) (signedAt : Instant)
    (m : Machine τ σ) : Traced τ σ Trial :=
  let total := p.client.defaults.totalTimeout
  let (elapsed, world) := p.elapsed m.world
  match Budget.sendLimit p.timeout total elapsed with
  | none =>
    ⟨.ended (.error (Budget.exhausted total)), [.entered .sending, .entered .failed],
      { m with world }⟩
  | some limit =>
    let sending := [Entry.entered .sending, .sent ⟨request, limit⟩]
    match p.env.interruptsSend request limit world with
    | some world =>
      ⟨.ended (.error .cancelled), sending ++ [.entered .failed], { m with world }⟩
    | none =>
      let (reply, world) := p.env.send request limit world
      let trial := p.interpret context signedAt reply { m with world }
      { trial with journal := sending ++ trial.journal }

/-- One attempt, from its start to its end or its failure.  The context is that of the attempt, with
the offset it signs with. -/
def attempt (p : Plan τ σ) (context : Context) (m : Machine τ σ) : Traced τ σ Trial :=
  let m := { m with world := p.env.notice context.info.attempt m.world }
  let assembled := p.assemble context m
  let before := Entry.started context :: assembled.journal
  match assembled.value with
  | .error failure =>
    ⟨.ended (.error failure), before ++ [.entered .failed], assembled.machine⟩
  | .ok (request, signedAt) =>
    let trial := p.exchange context request signedAt assembled.machine
    { trial with journal := before ++ trial.journal }

/-- A number for a wait, drawn only if the wait is not fixed. -/
def drawn (p : Plan τ σ) (planned : Delay) (world : σ) : Nat × σ :=
  match planned with
  | .exact _ => (0, world)
  | .upTo _ => p.env.draw world

/-- Asks the strategy about a failure, and draws the wait if it says to retry. -/
def judge (p : Plan τ σ) (context : Context) (failure : Failure) (m : Machine τ σ) :
    Traced τ σ (Ruling × Context) :=
  let number := context.info.attempt
  let (verdict, strategy) := p.client.strategy.judge failure number m.strategy
  let judged := [Entry.judged number failure.kind verdict]
  match verdict with
  | .stop => ⟨(.giveUp failure, context), judged, { m with strategy }⟩
  | .denied reason => ⟨(.giveUp (failure.withDenial reason), context), judged, { m with strategy }⟩
  | .retry =>
    let (planned, strategy) := p.client.strategy.delay failure number strategy
    let (draw, world) := p.drawn planned m.world
    let context := { context with retriedKind := some failure.kind }
    ⟨(.again planned (planned.resolve draw) false, context), judged, { m with strategy, world }⟩

/-- Decides about a failure of an answered attempt.  The first correction of the clock in a call
gives one retry at once, without the strategy; every other failure goes to the strategy. -/
def rule (p : Plan τ σ) (context : Context) (failure : Failure) (signedAt receivedAt : Instant)
    (m : Machine τ σ) : Traced τ σ (Ruling × Context) :=
  if failure.kind.isTerminal then ⟨(.giveUp failure, context), [], m⟩
  else
    let (correction, skew) := p.client.corrector.observe m.skew failure signedAt receivedAt
    let m := { m with skew }
    let noted := correction.toList.map Entry.corrected
    if correction.isSome && !context.bonusUsed then
      ⟨(.again (.exact .zero) .zero true, { context with bonusUsed := true }),
        noted ++ [.granted context.info.attempt], m⟩
    else
      let judged := p.judge context failure m
      { judged with journal := noted ++ judged.journal }

/-- The time from which the next attempt's deadline is counted: the server's date, or else the
shifted local clock. -/
def reference (p : Plan τ σ) (failure : Failure) (m : Machine τ σ) : Instant × Machine τ σ :=
  match failure.serverDate? with
  | some date => (date, m)
  | none =>
    let (now, world) := p.env.now m.world
    (m.skew.offset.apply now, { m with world })

/-- Schedules a retry if its wait fits the budget, and gives the context of the next attempt. -/
def schedule (p : Plan τ σ) (context : Context) (failure : Failure) (planned : Delay)
    (wait : Duration) (bonus : Bool) (m : Machine τ σ) : Traced τ σ (Except Failure Context) :=
  let total := p.client.defaults.totalTimeout
  let (elapsed, world) := p.elapsed m.world
  let m := { m with world }
  match Budget.wait wait total elapsed with
  | none => ⟨.error (Budget.exhausted total), [.entered .failed], m⟩
  | some wait =>
    let entry := Entry.scheduled ⟨context.info.attempt, failure.kind, planned, wait, bonus⟩
    let (reference, m) := p.reference failure m
    ⟨.ok (context.advance reference p.timeout failure), [entry, .entered .retrying], m⟩

/-- Waits before a retry.  The result tells whether the wait ended; without a wait there is nothing
to cancel. -/
def pause (p : Plan τ σ) (wait : Duration) (m : Machine τ σ) : Bool × Machine τ σ :=
  if wait = .zero then (true, m)
  else
    match p.env.interruptsSleep wait m.world with
    | some world => (false, { m with world })
    | none => (true, { m with world := p.env.sleep wait m.world })

/-- How a run ended: its result and the number of the attempt at which it ended. -/
structure Ending where
  result : Except Failure Http.Response
  attempt : Nat

/-- Ends a run with a failure. -/
def giveUp (context : Context) (failure : Failure) (journal : Journal) (m : Machine τ σ) :
    Traced τ σ Ending :=
  ⟨⟨.error failure, context.info.attempt⟩, journal ++ [.entered .failed], m⟩

/-- One pass through the loop: an attempt, the ruling on its failure, and the wait before a retry.
`next` goes on after it, if an attempt is left, and `finish` tells what an ending is to it. -/
def pass {α : Type} (p : Plan τ σ) (finish : Ending → α)
    (next : Option (Context → Machine τ σ → Traced τ σ α)) (context : Context) (m : Machine τ σ) :
    Traced τ σ α :=
  let opened := Entry.opened context.info.attempt context.info.limit
  if p.env.cancelled m.world then
    (giveUp context (Failure.cancelled.withAttempts (context.info.attempt - 1)) [opened] m).map
      finish
  else
    let context := context.withOffset m.skew.offset
    let trial := p.attempt context m
    let sofar := opened :: trial.journal
    match trial.value with
    | .ended result => ⟨finish ⟨result, context.info.attempt⟩, sofar, trial.machine⟩
    | .broken failure signedAt receivedAt =>
      let ruled := p.rule context failure signedAt receivedAt trial.machine
      let sofar := sofar ++ ruled.journal
      match ruled.value, next with
      | (.giveUp failure, context), _ => (giveUp context failure sofar ruled.machine).map finish
      | (.again _ _ _, context), none => (giveUp context failure sofar ruled.machine).map finish
      | (.again planned wait bonus, context), some next =>
        let scheduled := p.schedule context failure planned wait bonus ruled.machine
        let sofar := sofar ++ scheduled.journal
        match scheduled.value with
        | .error failure =>
          ⟨finish ⟨.error failure, context.info.attempt⟩, sofar, scheduled.machine⟩
        | .ok following =>
          match p.pause wait scheduled.machine with
          | (false, m) =>
            ⟨finish ⟨.error (Failure.cancelled.withAttempts context.info.attempt),
              following.info.attempt⟩, sofar, m⟩
          | (true, m) =>
            let rest := next following m
            { rest with journal := sofar ++ rest.journal }

/-- Runs attempts while there are more to come, as if every time could be written.  The number
counts those after the present one. -/
def run (p : Plan τ σ) : Nat → Context → Machine τ σ → Traced τ σ Ending
  | 0 => p.pass id none
  | left + 1 => p.pass id (some (p.run left))

/-- Where a pass crashes: when it builds its request with a deadline that cannot be written, or when
it signs at a time that cannot be.  The value is that time. -/
def crash? (p : Plan τ σ) (context : Context) (m : Machine τ σ) : Option (Traced τ σ Instant) :=
  let opened := Entry.opened context.info.attempt context.info.limit
  let context := context.withOffset m.skew.offset
  let noticed := p.env.notice context.info.attempt m.world
  if p.env.cancelled m.world then none
  else
    match p.built context m.turn with
    | .error _ => none
    | .ok _ =>
      let m := { m with turn := m.turn + 1 }
      match context.info.unwritable? with
      | some t =>
        some ⟨t, [opened, .started context, .entered .building], { m with world := noticed }⟩
      | none =>
        let (now, world) := p.env.now noticed
        (p.signer.unwritable? (context.offset.apply now)).map fun t =>
          ⟨t, [opened, .started context, .entered .building, .entered .signing],
            { m with world }⟩

/-- A pass that crashes if it must. -/
def guarded (p : Plan τ σ)
    (next : Option (Context → Machine τ σ → Traced τ σ (Except Instant Ending)))
    (context : Context) (m : Machine τ σ) : Traced τ σ (Except Instant Ending) :=
  match p.crash? context m with
  | some crash => crash.map .error
  | none => p.pass .ok next context m

/-- Runs attempts while there are more to come, up to a crash. -/
def perform (p : Plan τ σ) : Nat → Context → Machine τ σ → Traced τ σ (Except Instant Ending)
  | 0 => p.guarded none
  | left + 1 => p.guarded (some (p.perform left))

end Plan

/-- The execution of a call: its result, its journal and the machine after it. -/
structure Execution (τ σ : Type) where
  result : Except Failure Http.Response
  journal : Journal
  machine : Machine τ σ

/-- What comes of a call: it returns, or it crashes at a time that it cannot write. -/
inductive Outcome (τ σ : Type) where
  | returned (e : Execution τ σ)
  | crashed (c : Traced τ σ Instant)

namespace Outcome

variable {τ σ : Type}

def journal : Outcome τ σ → Journal
  | returned e => e.journal
  | crashed c => c.journal

def machine : Outcome τ σ → Machine τ σ
  | returned e => e.machine
  | crashed c => c.machine

end Outcome

namespace Execution

variable {τ σ : Type}

/-- How a result is reported. -/
def summary (attempt : Nat) (result : Except Failure Http.Response) : Summary :=
  match result with
  | .ok response => ⟨attempt, some response.status, none⟩
  | .error failure => ⟨failure.attemptCount, failure.status, some failure.kind⟩

/-- The plan of a call with a signer. -/
def plan (client : Client τ) (env : Environment σ) (call : Call) (signer : Signer) : Plan τ σ :=
  ⟨client, env, call, signer, call.timeout.getD client.defaults.requestTimeout⟩

/-- Runs all attempts of a call.  A signer that is not known ends it before the first attempt. -/
def attempts (client : Client τ) (env : Environment σ) (call : Call) (id : InvocationId)
    (m : Machine τ σ) : Traced τ σ Plan.Ending :=
  let context := Context.first id (client.strategy.limit m.strategy)
  match client.signers.resolve call.signer with
  | .error failure => ⟨⟨.error failure, context.info.attempt⟩, [], m⟩
  | .ok signer => (plan client env call signer).run (context.info.limit - 1) context m

/-- The execution of a call whose attempts ran to an end. -/
def close (ran : Traced τ σ Plan.Ending) : Execution τ σ :=
  let number := ran.value.attempt
  let result := ran.value.result.mapError (·.orAttempts number)
  ⟨result, .began :: ran.journal ++ [.finished (summary number result)], ran.machine⟩

/-- Executes a call, as if every time could be written. -/
def execute (client : Client τ) (env : Environment σ) (call : Call) (id : InvocationId)
    (m : Machine τ σ) : Execution τ σ :=
  close (attempts client env call id m)

/-- Performs a call, up to a crash. -/
def perform (client : Client τ) (env : Environment σ) (call : Call) (id : InvocationId)
    (m : Machine τ σ) : Outcome τ σ :=
  let context := Context.first id (client.strategy.limit m.strategy)
  match client.signers.resolve call.signer with
  | .error failure => .returned (close ⟨⟨.error failure, context.info.attempt⟩, [], m⟩)
  | .ok signer =>
    let ran := (plan client env call signer).perform (context.info.limit - 1) context m
    match ran.value with
    | .ok ending => .returned (close (ran.map fun _ => ending))
    | .error t => .crashed ⟨t, .began :: ran.journal, ran.machine⟩

/-- The value of the response in JSON. -/
def json (e : Execution τ σ) : Except Failure Json.Value := e.result.bind (·.json)

end Execution

end ServiceCall
