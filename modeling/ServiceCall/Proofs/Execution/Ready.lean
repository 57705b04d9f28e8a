import ServiceCall.Proofs.Execution.Crashes

/-!
# Attempts that get ready

An attempt is ready for the transport when its request is built, its times can be written, and its
signer signs.  A call all of whose attempts get ready has no way to end before the transport is
asked, and it does not crash.  This depends on the endpoints, on the call and on the signer, and
for the times on the clocks; a call that can be built and signed at all, on a clock of our age, gets
all attempts ready.
-/

namespace ServiceCall

variable {τ σ : Type}

namespace Plan

variable {p : Plan τ σ} {left : Nat} {context following : Context} {m after : Machine τ σ}
  {journal : Journal} {crash : Traced τ σ Instant}

/-- An attempt gets ready in a pass: it is built and signed, and its times can be written. -/
inductive Ready (p : Plan τ σ) (context : Context) (m : Machine τ σ) : Prop where
  | intro {request signed : Http.Request} {now : Instant} {world : σ}
      (hbuilt : p.built (context.withOffset m.skew.offset) m.turn = .ok request)
      (hdeadline : context.info.unwritable? = none)
      (hnow : p.env.now (p.env.notice context.info.attempt m.world) = (now, world))
      (hsigned : p.signer.sign request (m.skew.offset.apply now) = .ok signed)
      (htime : p.signer.unwritable? (m.skew.offset.apply now) = none)

theorem Ready.not_crashes (hready : p.Ready context m) : ¬p.Crashes context m crash := by
  obtain ⟨-, hdeadline, hnow, -, htime⟩ := hready
  intro hcrashes
  cases hcrashes with
  | building _ _ hlate hundated =>
      cases (AttemptInfo.unwritable?_eq_some_iff.2 ⟨hlate, hundated⟩).symm.trans hdeadline
  | signing _ _ _ hread hsigner hundated =>
      cases hread.symm.trans hnow
      cases (Signer.unwritable?_eq_some_iff.2 ⟨⟨_, hsigner⟩, rfl, hundated⟩).symm.trans htime

/-- An attempt that gets ready does not fail before the transport is asked. -/
theorem Ready.built (hready : p.Ready context m) {failure : Failure} :
    p.built (context.withOffset m.skew.offset) m.turn ≠ .error failure := by
  obtain ⟨hbuilt, -, -, -, -⟩ := hready
  intro hunbuilt
  cases hbuilt.symm.trans hunbuilt

theorem Ready.signed (hready : p.Ready context m) {request : Http.Request} {now : Instant}
    {world : σ} {failure : Failure}
    (hbuilt : p.built (context.withOffset m.skew.offset) m.turn = .ok request)
    (hnow : p.env.now (p.env.notice context.info.attempt m.world) = (now, world)) :
    p.signer.sign request (m.skew.offset.apply now) ≠ .error failure := by
  obtain ⟨hsame, -, hread, hsigned, -⟩ := hready
  cases hsame.symm.trans hbuilt
  cases hread.symm.trans hnow
  intro hunsigned
  cases hsigned.symm.trans hunsigned

/-- Every attempt that a run comes to gets ready. -/
def Prepared (p : Plan τ σ) (left : Nat) (context : Context) (m : Machine τ σ) : Prop :=
  ∀ {before : Journal} {later : Nat} {reached : Context} {start : Machine τ σ},
    p.Reaches left context m before later reached start → p.Ready reached start

theorem Prepared.retry (hprepared : p.Prepared (left + 1) context m)
    (hretries : p.Retries context m ⟨following, journal, after⟩) :
    p.Prepared left following after :=
  fun hreaches => hprepared (hreaches.retry hretries)

/-- A plan whose attempts can be built, and signed at any time. -/
def Signable (p : Plan τ σ) : Prop :=
  ∀ context turn, ∃ request, p.built context turn = .ok request ∧
    ∀ time, ∃ signed, p.signer.sign request time = .ok signed

/-- Such a plan gets all attempts ready while the clock stands in the years 1970 to 9999 and the
offset that it begins with and the time limit stay in the calendar. -/
theorem Signable.prepared (hsignable : p.Signable) (hmodern : p.env.Modern)
    (hoffset : m.skew.offset.Fits .zero) (hlimit : m.skew.offset.Fits p.timeout)
    (hroom : p.timeout.nanos + 2 * Instant.span ≤ Stamp.after) (left : Nat) (id : InvocationId)
    (limit : Nat) : p.Prepared left (.first id limit) m := by
  intro before later reached start hreaches
  have htimely := hreaches.timely hmodern (p.timely_first id limit m)
  obtain ⟨request, hbuilt, hsign⟩ := hsignable (reached.withOffset start.skew.offset) start.turn
  rcases hnow : p.env.now (p.env.notice reached.info.attempt start.world) with ⟨now, world⟩
  have hdated := htimely.hasDate_apply hoffset (hmodern.now hnow)
  obtain ⟨signed, hsigned⟩ := hsign (start.skew.offset.apply now)
  refine .intro hbuilt ?_ hnow hsigned ?_
  · exact AttemptInfo.unwritable?_eq_none_iff.2 fun t => htimely.hasDate_deadline hlimit hroom
  · rw [Option.eq_none_iff_forall_ne_some]
    intro t hunwritable
    obtain ⟨-, rfl, hundated⟩ := Signer.unwritable?_eq_some_iff.1 hunwritable
    exact Bool.noConfusion (hdated.symm.trans hundated)

end Plan

namespace Execution

variable {client : Client τ} {env : Environment σ} {call : Call} {signer : Signer}
  {id : InvocationId} {m : Machine τ σ}

/-- Every attempt that a call comes to gets ready. -/
def Prepared (client : Client τ) (env : Environment σ) (call : Call) (signer : Signer)
    (id : InvocationId) (m : Machine τ σ) : Prop :=
  let first := Context.first id (client.strategy.limit m.strategy)
  (plan client env call signer).Prepared (first.info.limit - 1) first m

/-- A call that gets all its attempts ready returns. -/
theorem Prepared.perform_eq (hprepared : Prepared client env call signer id m)
    (hsigner : client.signers.resolve call.signer = .ok signer) :
    perform client env call id m = .returned (execute client env call id m) := by
  rcases perform_cases client env call id m with ⟨c, hcrashes, -⟩ | ⟨-, hperform⟩
  · obtain ⟨hknown, ⟨hreaches, hcrashes⟩⟩ := hcrashes
    cases hknown.symm.trans hsigner
    exact absurd hcrashes (hprepared hreaches).not_crashes
  · exact hperform

end Execution

end ServiceCall
