import Mathlib.Data.Int.CardIntervalMod
import ServiceCall.Proofs.Execution.Sends
import ServiceCall.Rehearsal.Plain

/-!
# Turns

A client gives a turn to every attempt that starts and to nothing else, so the number of a turn is
the number of the attempt among all that the client has started.  Endpoints that are used in turn
are then used equally often, whatever becomes of the attempts and of the calls.  Turns are counted
here without a limit; a counter of 64 bits gives the same as long as it does not wrap around.
-/

namespace ServiceCall

/-- An attempt that was started: its call, what it knew, the turns that were given before its own,
the request that was built for it, and the requests that it sent, which are one or none. -/
structure Launch where
  call : Call
  context : Context
  turn : Nat
  built : Except Failure Http.Request
  sent : List Sent

/-- An attempt is built against an endpoint: what was built for it is what its call makes of that
endpoint, and whatever it sent is that request, signed. -/
structure Launch.BuiltAgainst {τ : Type} (l : Launch) (client : Client τ) (endpoint : Text) :
    Prop where
  built : l.built = l.call.build client.defaults endpoint l.context.id l.context.info
  sent : ∀ s ∈ l.sent, ∃ signer request time, client.signers.resolve l.call.signer = .ok signer ∧
    l.built = .ok request ∧ signer.sign request time = .ok s.request

/-- A journal shows some attempts, which took the turns from the first to the last. -/
structure Journal.Turns (j : Journal) (first : Nat) (launches : List Launch) (last : Nat) :
    Prop where
  starts : j.starts = launches.map (·.context)
  sends : j.sends = launches.flatMap (·.sent)
  turns : launches.map (·.turn) = List.range' first launches.length
  last : last = first + launches.length

namespace Journal

variable {i j : Journal} {first middle last : Nat} {launches later : List Launch}

theorem Silent.turns (hsilent : j.Silent) (first : Nat) : j.Turns first [] first where
  starts := hsilent.starts
  sends := hsilent.sends
  turns := rfl
  last := rfl

theorem turns_opened (attempt limit first : Nat) :
    Turns [.opened attempt limit] first [] first :=
  Silent.turns ⟨rfl, rfl, rfl⟩ first

theorem Turns.append (hi : i.Turns first launches middle) (hj : j.Turns middle later last) :
    (i ++ j).Turns first (launches ++ later) last where
  starts := by rw [starts_append, hi.starts, hj.starts, List.map_append]
  sends := by rw [sends_append, hi.sends, hj.sends, List.flatMap_append]
  turns := by
    rw [List.map_append, hi.turns, hj.turns, hi.last, List.length_append, List.range'_append_1]
  last := by rw [hj.last, hi.last, List.length_append, Nat.add_assoc]

theorem Turns.append_silent (hi : i.Turns first launches last) (hj : j.Silent) :
    (i ++ j).Turns first launches last := by
  have happend := hi.append (hj.turns last)
  rwa [List.append_nil] at happend

theorem Turns.length_starts (hturns : j.Turns first launches last) :
    last = first + j.starts.length := by
  rw [hturns.last, hturns.starts, List.length_map]

theorem Turns.turn_getElem (hturns : j.Turns first launches last) {n : Nat}
    (hn : n < launches.length) : launches[n].turn = first + n := by
  have hget : (launches.map (·.turn))[n]? = (List.range' first launches.length)[n]? := by
    rw [hturns.turns]
  rw [List.getElem?_map, List.getElem?_eq_getElem hn, List.getElem?_range' hn] at hget
  simpa using hget

end Journal

/-! ## One call -/

namespace Plan

variable {τ σ : Type} {p : Plan τ σ} {left later : Nat} {context reached following : Context}
  {m start after : Machine τ σ} {before journal : Journal} {failure : Failure}
  {signedAt receivedAt : Instant} {l : Launch}

/-- The attempt of a context on a machine. -/
def launch (p : Plan τ σ) (context : Context) (m : Machine τ σ) : Launch :=
  ⟨p.call, context, m.turn, p.built context m.turn, (p.attempt context m).journal.sends⟩

/-- A run starts an attempt, in a pass that it comes to and that nobody cancels before. -/
inductive Launches (p : Plan τ σ) (left : Nat) (context : Context) (m : Machine τ σ) :
    Launch → Prop where
  | intro {before : Journal} {later : Nat} {reached : Context} {start : Machine τ σ}
      (hreaches : p.Reaches left context m before later reached start)
      (hopen : p.env.cancelled start.world = false) :
      Launches p left context m (p.launch (reached.withOffset start.skew.offset) start)

theorem Launches.retry (hretries : p.Retries context m ⟨following, journal, after⟩)
    (hlaunches : p.Launches left following after l) : p.Launches (left + 1) context m l := by
  obtain ⟨hreaches, hopen⟩ := hlaunches
  exact .intro (hreaches.retry hretries) hopen

/-- An attempt takes one turn, however it goes. -/
theorem Attempts.turns {trial : Traced τ σ Trial} (hattempts : p.Attempts context m trial) :
    trial.journal.Turns m.turn [p.launch context m] trial.machine.turn := by
  have hshown : trial.journal.starts = [context] ∧ trial.machine.turn = m.turn + 1 := by
    cases hattempts <;> exact ⟨rfl, rfl⟩
  refine ⟨hshown.1, ?_, rfl, hshown.2⟩
  rw [hattempts.eq_attempt]
  exact (List.append_nil _).symm

/-- Rulings and schedules take none. -/
theorem Rules.turn_eq {ruled : Traced τ σ (Ruling × Context)}
    (hrules : p.Rules context failure signedAt receivedAt m ruled) :
    ruled.machine.turn = m.turn := by
  cases hrules with
  | terminal | granted => rfl
  | judged _ _ _ hjudges => cases hjudges <;> rfl

theorem Schedules.turn_eq {planned : Delay} {wait : Duration} {bonus : Bool}
    {scheduled : Traced τ σ (Except Failure Context)}
    (hschedules : p.Schedules context failure planned wait bonus m scheduled) :
    scheduled.machine.turn = m.turn := by
  cases hschedules <;> rfl

/-- A pass takes the turn of its attempt, and a retry does not take another. -/
theorem Fails.turns {ruled : Traced τ σ (Ruling × Context)}
    (hfails : p.Fails context m failure ruled) :
    ruled.journal.Turns m.turn [p.launch (context.withOffset m.skew.offset) m]
      ruled.machine.turn := by
  obtain ⟨hopen, hattempts, hrules⟩ := hfails
  rw [hrules.turn_eq]
  exact ((Journal.turns_opened ..).append hattempts.turns).append_silent hrules.silent

theorem Retries.turns {retried : Traced τ σ Context} (hretries : p.Retries context m retried) :
    retried.journal.Turns m.turn [p.launch (context.withOffset m.skew.offset) m]
      retried.machine.turn := by
  obtain ⟨hfails, hschedules, hpause⟩ := hretries
  have hturn := hschedules.turn_eq
  rw [show Machine.turn _ = _ from hturn]
  exact hfails.turns.append_silent hschedules.silent

theorem Stops.turns {ran : Traced τ σ Ending} (hstops : p.Stops left context m ran) :
    ∃ launches, (∀ l ∈ launches, p.Launches left context m l) ∧
      ran.journal.Turns m.turn launches ran.machine.turn := by
  -- All ways to stop but the first start the one attempt of the pass.
  have hlaunches (hopen : p.env.cancelled m.world = false) :
      ∀ l ∈ [p.launch (context.withOffset m.skew.offset) m], p.Launches left context m l :=
    List.forall_mem_singleton.2 (.intro .start hopen)
  cases hstops with
  | cancelled =>
      exact ⟨[], List.forall_mem_nil _,
        (Journal.turns_opened ..).append_silent ⟨rfl, rfl, rfl⟩⟩
  | ended hopen hattempts =>
      exact ⟨_, hlaunches hopen, (Journal.turns_opened ..).append hattempts.turns⟩
  | refused hfails | lastAttempt _ hfails =>
      obtain ⟨hopen, -⟩ := hfails.exists_sends
      exact ⟨_, hlaunches hopen, hfails.turns.append_silent ⟨rfl, rfl, rfl⟩⟩
  | overBudget _ hfails hschedules | interrupted _ hfails hschedules =>
      obtain ⟨hopen, -⟩ := hfails.exists_sends
      have hturn := hschedules.turn_eq
      refine ⟨_, hlaunches hopen, ?_⟩
      rw [show Machine.turn _ = _ from hturn]
      exact hfails.turns.append_silent hschedules.silent

/-- The turns that a run takes are those of the attempts that it starts. -/
theorem Runs.turns {ran : Traced τ σ Ending} (hruns : p.Runs left context m ran) :
    ∃ launches, (∀ l ∈ launches, p.Launches left context m l) ∧
      ran.journal.Turns m.turn launches ran.machine.turn := by
  induction hruns with
  | last hstops => exact hstops.turns
  | @again left context following m after journal rest hretries _ ih =>
      obtain ⟨launches, hlaunches, hturns⟩ := ih
      have hopen : p.env.cancelled m.world = false := by
        obtain ⟨hfails, -, -⟩ := hretries
        exact hfails.exists_sends.1
      refine ⟨_, List.forall_mem_cons.2 ⟨.intro .start hopen, fun l hl => ?_⟩,
        hretries.turns.append hturns⟩
      exact (hlaunches l hl).retry hretries

/-- What an attempt sends was built and signed for it. -/
theorem sends_of_mem_attempt {s : Sent} (hs : s ∈ (p.attempt context m).journal.sends) :
    ∃ signedAt world, p.Sends context m s signedAt world := by
  have hattempts := attempts_attempt p context m
  generalize p.attempt context m = trial at hs hattempts
  obtain ⟨trial, journal, after⟩ := trial
  cases trial with
  | ended result =>
      rcases hattempts.ended_sends with hnone | ⟨sent, signedAt, world, hsends, hjournal⟩
      · rw [hnone] at hs
        cases hs
      · rw [hjournal] at hs
        cases List.mem_singleton.1 hs
        exact ⟨signedAt, world, hsends⟩
  | broken failure signedAt receivedAt =>
      obtain ⟨sent, world, hsends, hjournal⟩ := hattempts.exists_sends
      rw [hjournal] at hs
      cases List.mem_singleton.1 hs
      exact ⟨signedAt, world, hsends⟩

theorem built_of_resolve {turn : Nat} {endpoint : Text} (context : Context)
    (hendpoint : p.client.endpoints.resolve turn p.call.operation = .ok endpoint) :
    p.built context turn = p.call.build p.client.defaults endpoint context.id context.info := by
  rw [built, hendpoint]
  rfl

/-- An attempt is built against the endpoint that the resolver names in its turn. -/
theorem Launches.builtAgainst {endpoint : Text}
    (hsigner : p.client.signers.resolve p.call.signer = .ok p.signer)
    (hlaunches : p.Launches left context m l)
    (hendpoint : p.client.endpoints.resolve l.turn p.call.operation = .ok endpoint) :
    l.BuiltAgainst p.client endpoint := by
  obtain ⟨-, -⟩ := hlaunches
  refine ⟨?_, fun s hs => ?_⟩
  · exact built_of_resolve _ hendpoint
  · obtain ⟨_, _, hbuilt, -, hsigned, -, -⟩ := sends_of_mem_attempt hs
    exact ⟨p.signer, _, _, hsigner, hbuilt, hsigned⟩

end Plan

/-- A call that is made on a client: its caller, and the machine that it begins with. -/
structure Made (τ : Type) where
  World : Type
  env : Environment World
  call : Call
  id : InvocationId
  machine : Machine τ World

namespace Made

variable {τ : Type}

def execution (made : Made τ) (client : Client τ) : Execution τ made.World :=
  Execution.execute client made.env made.call made.id made.machine

/-- A call starts an attempt. -/
inductive Launches (made : Made τ) (client : Client τ) : Launch → Prop where
  | intro {signer : Signer} {l : Launch}
      (hsigner : client.signers.resolve made.call.signer = .ok signer)
      (hlaunches : (Execution.plan client made.env made.call signer).Launches
        ((Context.first made.id (client.strategy.limit made.machine.strategy)).info.limit - 1)
        (.first made.id (client.strategy.limit made.machine.strategy)) made.machine l) :
      Launches made client l

variable {made : Made τ} {client : Client τ} {l : Launch} {endpoint : Text}

theorem Launches.builtAgainst (hlaunches : made.Launches client l)
    (hendpoint : client.endpoints.resolve l.turn l.call.operation = .ok endpoint) :
    l.BuiltAgainst client endpoint := by
  obtain ⟨hsigner, hlaunches⟩ := hlaunches
  refine Plan.Launches.builtAgainst hsigner hlaunches ?_
  obtain ⟨-, -⟩ := hlaunches
  exact hendpoint

/-- A call takes a turn for each attempt that it starts. -/
theorem turns_execution (made : Made τ) (client : Client τ) :
    ∃ launches, (∀ l ∈ launches, made.Launches client l) ∧
      (made.execution client).journal.Turns made.machine.turn launches
        (made.execution client).machine.turn := by
  have hbegan : Journal.Turns [.began] made.machine.turn [] made.machine.turn :=
    Journal.Silent.turns ⟨rfl, rfl, rfl⟩ _
  rcases Execution.attempts_cases client made.env made.call made.id made.machine with
    ⟨failure, -, hran⟩ | ⟨signer, hsigner, hruns⟩
  · refine ⟨[], List.forall_mem_nil _, ?_⟩
    rw [execution, Execution.execute, Execution.close, hran]
    exact hbegan.append_silent ⟨rfl, rfl, rfl⟩
  · obtain ⟨launches, hlaunches, hturns⟩ := hruns.turns
    refine ⟨launches, fun l hl => .intro hsigner (hlaunches l hl), ?_⟩
    exact (hbegan.append hturns).append_silent ⟨rfl, rfl, rfl⟩

end Made

/-! ## Calls one after another -/

/-- Calls that a client makes one after another, with the turns that were given before the first and
after the last.  Only these are carried along; all else may be different in each call. -/
inductive Client.Makes {τ : Type} (client : Client τ) : Nat → List (Made τ) → Nat → Prop where
  | nil (turn : Nat) : Makes client turn [] turn
  | cons {made : Made τ} {rest : List (Made τ)} {last : Nat}
      (hrest : Makes client (made.execution client).machine.turn rest last) :
      Makes client made.machine.turn (made :: rest) last

variable {τ : Type} {client : Client τ} {calls : List (Made τ)} {first last : Nat}

/-- The attempts of all calls take all turns. -/
theorem Client.Makes.turns (hmakes : client.Makes first calls last) :
    ∃ launches, (∀ l ∈ launches, ∃ made ∈ calls, made.Launches client l) ∧
      Journal.Turns (calls.flatMap fun made => (made.execution client).journal)
        first launches last := by
  induction hmakes with
  | nil turn => exact ⟨[], List.forall_mem_nil _, Journal.Silent.turns ⟨rfl, rfl, rfl⟩ turn⟩
  | @cons made rest last _ ih =>
      obtain ⟨launches, hlaunches, hturns⟩ := made.turns_execution client
      obtain ⟨later, hlater, hrest⟩ := ih
      refine ⟨launches ++ later, List.forall_mem_append.2 ⟨fun l hl => ?_, fun l hl => ?_⟩,
        hturns.append hrest⟩
      · exact ⟨made, List.mem_cons_self, hlaunches l hl⟩
      · obtain ⟨other, hother, hlaunches⟩ := hlater l hl
        exact ⟨other, List.mem_cons_of_mem _ hother, hlaunches⟩

/-- How often a place comes up when places are taken in turn. -/
theorem count_places {n place : Nat} (hplace : place < n) (turns : Nat) :
    ((List.range turns).map (· % n)).count place =
      turns / n + if place < turns % n then 1 else 0 := by
  have hcount := Nat.count_modEq_card turns (Nat.zero_lt_of_lt hplace) place
  rw [Nat.mod_eq_of_lt hplace] at hcount
  rw [← hcount, Nat.count, List.count, List.countP_map]
  congr 1
  funext turn
  change (turn % n == place) = decide (turn % n = place % n)
  rw [Nat.mod_eq_of_lt hplace, beq_eq_decide]

/-- **Endpoints are used in turn.**  Let a client that has some endpoints make any calls one after
another, whoever makes them and whatever becomes of them.  Then a call takes as many turns as it
starts attempts, and none if it ends before its first; attempt `j` of all, counted from nought, is
built against the endpoint in place `j` modulo their number; and at any time the attempts that were
built against one endpoint are at most one more than those against another. -/
theorem makes_in_turn {endpoints : List Text} (hsome : 0 < endpoints.length)
    (hclient : client.endpoints = .roundRobin endpoints) (hmakes : client.Makes 0 calls last) :
    (∀ made ∈ calls, (made.execution client).machine.turn =
        made.machine.turn + (made.execution client).journal.starts.length) ∧
      ∃ launches, (∀ l ∈ launches, ∃ made ∈ calls, made.Launches client l) ∧
        Journal.Turns (calls.flatMap fun made => (made.execution client).journal)
          0 launches last ∧
        (∀ j (hj : j < launches.length), launches[j].BuiltAgainst client
          (endpoints.get ⟨j % endpoints.length, Nat.mod_lt j hsome⟩)) ∧
        ∀ k place other, place < endpoints.length → other < endpoints.length →
          let places := (launches.take k).map (·.turn % endpoints.length)
          places.count place ≤ places.count other + 1 := by
  obtain ⟨launches, hlaunches, hturns⟩ := hmakes.turns
  refine ⟨fun made _ => ?_, launches, hlaunches, hturns, fun j hj => ?_, ?_⟩
  · obtain ⟨_, -, hmade⟩ := made.turns_execution client
    exact hmade.length_starts
  · obtain ⟨made, -, hmade⟩ := hlaunches _ (List.getElem_mem hj)
    refine hmade.builtAgainst ?_
    have hturn : launches[j].turn = j := (hturns.turn_getElem hj).trans (Nat.zero_add j)
    rw [hclient, EndpointResolver.resolve_roundRobin endpoints hsome, hturn]
  · -- The places of the first `k` attempts are those of the first turns, each of which comes up
    -- as often as the turns go round, and once more at most.
    intro k place other hplace hother places
    have hplaces : places =
        (List.range (min k launches.length)).map (· % endpoints.length) := by
      calc
        places = ((launches.map (·.turn)).take k).map (· % endpoints.length) := by
          rw [← List.map_take, List.map_map]
          rfl
        _ = _ := by rw [hturns.turns, ← List.range_eq_range', List.take_range]
    rw [hplaces, count_places hplace, count_places hother]
    split <;> split <;> omega

open Rehearsal in
/-- Two endpoints, and a call that is answered at its second attempt, one that is cancelled before
its first, and one that is answered at once. -/
theorem makes_in_turn_plain :
    let a := "http://a.example".toList
    let b := "http://b.example".toList
    let client := { plainClient (Standard.strategy Standard.rules .standard) with
      endpoints := .roundRobin [a, b] }
    let made (machine : Machine Quota World) : Made Quota :=
      ⟨World, environment, plainCall, .nil, machine⟩
    let first := made (plainMachine .standard [.response busyForFive, .response plainResponse])
    let one := (first.execution client).machine
    let second := made { one with world := { one.world with cancelled := true } }
    let two := (second.execution client).machine
    let third := made { two with world := .replying [.response plainResponse] }
    client.Makes 0 [first, second, third] 3 ∧
      ∃ l l' l'', Journal.Turns ([first, second, third].flatMap fun made =>
          (made.execution client).journal) 0 [l, l', l''] 3 ∧
        l.BuiltAgainst client a ∧ l'.BuiltAgainst client b ∧ l''.BuiltAgainst client a := by
  intro a b client made first one second two third
  have hone : (first.execution client).machine.turn = second.machine.turn := by decide +kernel
  have htwo : (second.execution client).machine.turn = third.machine.turn := by decide +kernel
  have hthree : (third.execution client).machine.turn = 3 := by decide +kernel
  have hmakes : client.Makes first.machine.turn [first, second, third] 3 := by
    refine .cons ?_
    rw [hone]
    refine .cons ?_
    rw [htwo]
    refine .cons ?_
    rw [hthree]
    exact .nil 3
  have hround : client.endpoints = .roundRobin [a, b] := rfl
  obtain ⟨-, launches, -, hturns, hbuilt, -⟩ := makes_in_turn (by decide) hround hmakes
  have hlength : launches.length = 3 := by
    have hlast := hturns.last
    omega
  obtain ⟨l, l', l'', rfl⟩ := List.length_eq_three.1 hlength
  have hagain : l''.BuiltAgainst client ([a, b].get ⟨2 % 2, by decide⟩) := hbuilt 2 (by simp)
  exact ⟨hmakes, l, l', l'', hturns, hbuilt 0 (by simp), hbuilt 1 (by simp), hagain⟩

end ServiceCall
