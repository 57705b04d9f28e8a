import ServiceCall.Proofs.Execution.Setbacks

/-!
# Where requests are sent

Every request that a run sends is handed over in a pass that the run comes to, and the answer to it
is heard there.  The passes before it sent one request each and heard one answer each, so the number
of a request tells the number of its attempt.
-/

namespace ServiceCall.Plan

variable {τ σ : Type} {p : Plan τ σ} {left later : Nat} {context reached following : Context}
  {m start after : Machine τ σ} {before journal : Journal} {failure : Failure}

/-- A run hands over its request number `i`, counted from nought, in a pass that it comes to after
what was written down before: the context of the attempt and the world in which it starts are those
of the pass. -/
inductive Hands (p : Plan τ σ) (left : Nat) (context : Context) (m : Machine τ σ) :
    Nat → Sent → Journal → Context → Machine τ σ → Prop where
  | intro {before : Journal} {later : Nat} {reached : Context} {start : Machine τ σ} {sent : Sent}
      {signedAt : Instant} {world : σ}
      (hreaches : p.Reaches left context m before later reached start)
      (hopen : p.env.cancelled start.world = false)
      (hsends : p.Sends (reached.withOffset start.skew.offset) start sent signedAt world) :
      Hands p left context m before.sends.length sent before
        (reached.withOffset start.skew.offset) start

/-- A failed attempt was sent. -/
theorem Attempts.exists_sends {signedAt receivedAt : Instant}
    (hattempts : p.Attempts context m ⟨.broken failure signedAt receivedAt, journal, after⟩) :
    ∃ sent world, p.Sends context m sent signedAt world ∧ journal.sends = [sent] := by
  cases hattempts with
  | broken hhears houtcome =>
      obtain ⟨hsends, -, -, -⟩ := hhears
      exact ⟨_, _, hsends, rfl⟩

/-- An attempt that ends its run was sent, or nothing was. -/
theorem Attempts.ended_sends {result : Except Failure Http.Response}
    (hattempts : p.Attempts context m ⟨.ended result, journal, after⟩) :
    journal.sends = [] ∨
      ∃ sent signedAt world, p.Sends context m sent signedAt world ∧ journal.sends = [sent] := by
  cases hattempts with
  | unbuilt | unsigned | overBudget => exact .inl rfl
  | interrupted hsends => exact .inr ⟨_, _, _, hsends, rfl⟩
  | succeeded hhears =>
      obtain ⟨hsends, -, -, -⟩ := hhears
      exact .inr ⟨_, _, _, hsends, rfl⟩

/-- A pass whose attempt fails sends the request of the attempt. -/
theorem Fails.exists_sends {ruled : Traced τ σ (Ruling × Context)}
    (hfails : p.Fails context m failure ruled) :
    p.env.cancelled m.world = false ∧ ∃ sent signedAt world,
      p.Sends (context.withOffset m.skew.offset) m sent signedAt world ∧
        ruled.journal.sends = [sent] := by
  obtain ⟨hopen, hattempts, hrules⟩ := hfails
  obtain ⟨sent, world, hsends, hjournal⟩ := hattempts.exists_sends
  refine ⟨hopen, sent, _, world, hsends, ?_⟩
  rw [Journal.sends_append, hrules.silent.sends, List.append_nil]
  exact hjournal

/-- Whatever a last pass sends is the request of its attempt. -/
theorem Stops.exists_sends {ran : Traced τ σ Ending} (hstops : p.Stops left context m ran) :
    ran.journal.sends = [] ∨ p.env.cancelled m.world = false ∧ ∃ sent signedAt world,
      p.Sends (context.withOffset m.skew.offset) m sent signedAt world ∧
        ran.journal.sends = [sent] := by
  cases hstops with
  | cancelled => exact .inl rfl
  | ended hopen hattempts =>
      rcases hattempts.ended_sends with hnone | ⟨sent, signedAt, world, hsends, hjournal⟩
      · exact .inl hnone
      · exact .inr ⟨hopen, sent, signedAt, world, hsends, hjournal⟩
  | refused hfails | lastAttempt _ hfails =>
      obtain ⟨hopen, sent, signedAt, world, hsends, hjournal⟩ := hfails.exists_sends
      refine .inr ⟨hopen, sent, signedAt, world, hsends, ?_⟩
      rw [giveUp, Journal.sends_append, hjournal]
      rfl
  | overBudget _ hfails hschedules | interrupted _ hfails hschedules =>
      obtain ⟨hopen, sent, signedAt, world, hsends, hjournal⟩ := hfails.exists_sends
      refine .inr ⟨hopen, sent, signedAt, world, hsends, ?_⟩
      rw [Journal.sends_append, hjournal, hschedules.silent.sends]
      rfl

theorem Hands.retry {i : Nat} {sent : Sent}
    (hretries : p.Retries context m ⟨following, journal, after⟩)
    (hhands : p.Hands left following after i sent before reached start) :
    p.Hands (left + 1) context m (i + 1) sent (journal ++ before) reached start := by
  obtain ⟨first, a, hshows⟩ := hretries.shows
  obtain ⟨hreaches, hopen, hsends⟩ := hhands
  have hcount : (journal ++ before).sends.length = before.sends.length + 1 := by
    rw [Journal.sends_append, show Journal.sends journal = _ from hshows.sends]
    rfl
  rw [← hcount]
  exact .intro (hreaches.retry hretries) hopen hsends

/-- Every request that a run sends is handed over in a pass of the run. -/
theorem Runs.hands {ran : Traced τ σ Ending} (hruns : p.Runs left context m ran) :
    ∀ {i : Nat} {sent : Sent}, ran.journal.sends[i]? = some sent →
      ∃ before reached start, p.Hands left context m i sent before reached start := by
  induction hruns with
  | last hstops =>
      intro i sent hsent
      rcases hstops.exists_sends with hnone | ⟨hopen, _, _, _, hsends, hjournal⟩
      · rw [hnone] at hsent
        cases hsent
      · rw [hjournal, List.getElem?_singleton] at hsent
        split at hsent
        · subst i
          cases hsent
          exact ⟨_, _, _, .intro .start hopen hsends⟩
        · cases hsent
  | again hretries hrest ih =>
      intro i sent hsent
      obtain ⟨first, a, hshows⟩ := hretries.shows
      rw [Journal.sends_append, show Journal.sends _ = [first] from hshows.sends] at hsent
      cases i with
      | zero =>
          obtain rfl : first = sent := Option.some.inj hsent
          obtain ⟨hfails, hschedules, hpause⟩ := hretries
          obtain ⟨hopen, handed, signedAt, world, hsends, hjournal⟩ := hfails.exists_sends
          have hsame := hshows.sends
          rw [Journal.sends_append, hjournal, hschedules.silent.sends] at hsame
          obtain rfl : handed = first := (List.cons.inj hsame).1
          exact ⟨_, _, _, .intro .start hopen hsends⟩
      | succ i =>
          obtain ⟨before, reached, start, hhands⟩ := ih hsent
          exact ⟨_, _, _, hhands.retry hretries⟩

/-! ## Where answers are heard -/

/-- A run hears the answer to what it sends in the attempt of this number, in a pass that it comes
to. -/
inductive Receives (p : Plan τ σ) (left : Nat) (context : Context) (m : Machine τ σ) :
    Nat → Sent → Answered → Prop where
  | intro {before : Journal} {later : Nat} {reached : Context} {start : Machine τ σ} {sent : Sent}
      {a : Answered} {world : σ}
      (hreaches : p.Reaches left context m before later reached start)
      (hhears : p.Hears (reached.withOffset start.skew.offset) start sent a world) :
      Receives p left context m reached.info.attempt sent a

theorem Receives.retry {number : Nat} {sent : Sent} {a : Answered}
    (hretries : p.Retries context m ⟨following, journal, after⟩)
    (hreceives : p.Receives left following after number sent a) :
    p.Receives (left + 1) context m number sent a := by
  obtain ⟨hreaches, hhears⟩ := hreceives
  exact .intro (hreaches.retry hretries) hhears

/-- What a last pass hears is the answer to its one attempt. -/
theorem Stops.heard {ran : Traced τ σ Ending} (hstops : p.Stops left context m ran) {i : Nat}
    {sent : Sent} {a : Answered} (hsent : ran.journal.sends[i]? = some sent)
    (ha : ran.journal.answers[i]? = some a) :
    i = 0 ∧ ∃ world, p.Hears (context.withOffset m.skew.offset) m sent a world := by
  have hshown {first : Sent} {heard : Answered} {world : σ}
      (hhears : p.Hears (context.withOffset m.skew.offset) m first heard world)
      (hshows : ran.journal.Shows (context.withOffset m.skew.offset) first heard) :
      i = 0 ∧ ∃ world, p.Hears (context.withOffset m.skew.offset) m sent a world := by
    obtain ⟨hzero, rfl, rfl⟩ := hshows.getElem?_eq hsent ha
    exact ⟨hzero, world, hhears⟩
  cases hstops with
  | cancelled => cases hsent
  | ended hopen hattempts =>
      cases hattempts with
      | unbuilt | unsigned | overBudget => cases hsent
      | interrupted => cases ha
      | succeeded hhears => exact hshown hhears ⟨rfl, rfl, rfl⟩
  | refused hfails | lastAttempt _ hfails =>
      obtain ⟨_, _, _, _, hhears, -, hshows, -⟩ := hfails.heard
      exact hshown hhears (hshows.append ⟨rfl, rfl, rfl⟩)
  | overBudget _ hfails hschedules | interrupted _ hfails hschedules =>
      obtain ⟨_, _, _, _, hhears, -, hshows, -⟩ := hfails.heard
      exact hshown hhears (hshows.append hschedules.silent)

/-- Every answer of a run was heard in a pass of the run, and it is the answer to the request that
was sent there. -/
theorem Runs.receives {ran : Traced τ σ Ending} (hruns : p.Runs left context m ran) :
    ∀ {i : Nat} {sent : Sent} {a : Answered}, ran.journal.sends[i]? = some sent →
      ran.journal.answers[i]? = some a →
        p.Receives left context m (context.info.attempt + i) sent a := by
  induction hruns with
  | last hstops =>
      intro i sent a hsent ha
      obtain ⟨rfl, _, hhears⟩ := hstops.heard hsent ha
      exact .intro .start hhears
  | again hretries hrest ih =>
      intro i sent a hsent ha
      obtain ⟨first, heard, _, hhears, hshows⟩ := hretries.heard
      obtain ⟨hnumber, -, -⟩ := hretries.passes
      rw [Journal.sends_append, show Journal.sends _ = [first] from hshows.sends] at hsent
      rw [Journal.answers_append, show Journal.answers _ = [heard] from hshows.answers] at ha
      cases i with
      | zero =>
          obtain rfl : first = sent := Option.some.inj hsent
          obtain rfl : heard = a := Option.some.inj ha
          exact .intro .start hhears
      | succ i =>
          rw [Nat.add_comm i, ← Nat.add_assoc, ← hnumber]
          exact (ih hsent ha).retry hretries

/-! ## What the passes before have in common -/

/-- A retry keeps the identifier of the call. -/
theorem Retries.id_eq (hretries : p.Retries context m ⟨following, journal, after⟩) :
    following.id = context.id := by
  obtain ⟨hfails, hschedules, -⟩ := hretries
  obtain ⟨_, _, _, _, _, _, -, hrules, -⟩ := hfails.parts
  generalize hmade : (⟨(_, _), _, _⟩ : Traced τ σ (Ruling × Context)) = made at hrules
  cases hschedules with
  | scheduled =>
      cases hrules with
      | terminal => cases hmade
      | granted =>
          cases hmade
          rfl
      | judged _ _ _ hjudges =>
          cases hjudges with
          | stopped | denied => cases hmade
          | approved =>
              cases hmade
              rfl

/-- What a run knows of its call when it comes to a pass: the identifier and the limit are those of
the beginning, and as many attempts are behind it as requests were sent and answered. -/
structure Advanced (context : Context) (before : Journal) (reached : Context) : Prop where
  id : reached.id = context.id
  limit : reached.info.limit = context.info.limit
  attempt : reached.info.attempt = context.info.attempt + before.sends.length
  answers : before.answers.length = before.sends.length

theorem Reaches.advanced (hreaches : p.Reaches left context m before later reached start) :
    Advanced context before reached := by
  induction hreaches with
  | start => exact ⟨rfl, rfl, rfl, rfl⟩
  | again _ hretries ih =>
      obtain ⟨hattempt, hlimit, -⟩ := hretries.passes
      obtain ⟨sent, a, hshows⟩ := hretries.shows
      refine ⟨hretries.id_eq.trans ih.id, hlimit.trans ih.limit, ?_, ?_⟩
      · rw [hattempt, ih.attempt, Journal.sends_append, hshows.sends, List.length_append]
        rfl
      · rw [Journal.answers_append, Journal.sends_append, hshows.answers, hshows.sends,
          List.length_append, List.length_append, ih.answers]
        rfl

/-- In the run of a call, what an attempt is told is settled but for its deadline. -/
theorem Advanced.info_eq {id : InvocationId} {limit : Nat} {before : Journal} {reached : Context}
    (hadvanced : Advanced (.first id limit) before reached) :
    reached.info = ⟨before.sends.length + 1, max 1 limit, reached.info.deadline⟩ := by
  rw [← Context.limit_first id, ← hadvanced.limit, Nat.add_comm, ← Context.attempt_first id,
    ← hadvanced.attempt]

end ServiceCall.Plan

namespace ServiceCall.Execution

variable {τ σ : Type} {client : Client τ} {env : Environment σ} {call : Call} {id : InvocationId}
  {m : Machine τ σ}

/-- Every request that a call sends is handed over in a pass of the call. -/
theorem hands_of_sends_execute {i : Nat} {sent : Sent}
    (hsent : (execute client env call id m).journal.sends[i]? = some sent) :
    ∃ signer before reached start, client.signers.resolve call.signer = .ok signer ∧
      (plan client env call signer).Hands
        ((Context.first id (client.strategy.limit m.strategy)).info.limit - 1)
        (Context.first id (client.strategy.limit m.strategy)) m i sent before reached start := by
  rw [sends_execute] at hsent
  rcases attempts_cases client env call id m with ⟨failure, -, hran⟩ | ⟨signer, hsigner, hruns⟩
  · rw [hran] at hsent
    cases hsent
  · obtain ⟨before, reached, start, hhands⟩ := hruns.hands hsent
    exact ⟨signer, before, reached, start, hsigner, hhands⟩

/-- Every answer of a call was heard in a pass of the call, by the attempt of its number. -/
theorem receives_execute {signer : Signer}
    (hsigner : client.signers.resolve call.signer = .ok signer) {i : Nat} {sent : Sent}
    {a : Answered} (hsent : (execute client env call id m).journal.sends[i]? = some sent)
    (ha : (execute client env call id m).journal.answers[i]? = some a) :
    (plan client env call signer).Receives
      ((Context.first id (client.strategy.limit m.strategy)).info.limit - 1)
      (Context.first id (client.strategy.limit m.strategy)) m (i + 1) sent a := by
  rw [sends_execute] at hsent
  rw [answers_execute] at ha
  rcases attempts_cases client env call id m with ⟨_, hunknown, -⟩ | ⟨known, hknown, hruns⟩
  · cases hunknown.symm.trans hsigner
  · cases hknown.symm.trans hsigner
    rw [Nat.add_comm, ← Context.attempt_first id (client.strategy.limit m.strategy)]
    exact hruns.receives hsent ha

end ServiceCall.Execution
