import ServiceCall.Proofs.Execution.Labels
import ServiceCall.Proofs.Signing.Replay

/-!
# Every attempt sends the same request

A request is built anew for every attempt and signed anew at its time.  Of what an attempt knows,
the builder puts its number, limit and deadline into one field and nothing anywhere else, and the
signers of the library use the time in their own fields only; so a call whose endpoint stays the
same sends one request again and again, but for these fields.
-/

namespace ServiceCall

open Http (Request)

namespace Execution

variable {τ σ : Type} {client : Client τ} {env : Environment σ} {call : Call} {id : InvocationId}
  {m : Machine τ σ} {signer : Signer}

/-- A request of a call is signed from one that was built at some endpoint for its attempt. -/
theorem built_of_sends_execute {i : Nat} {sent : Sent}
    (hsent : (execute client env call id m).journal.sends[i]? = some sent) :
    ∃ signer turn endpoint built time deadline, client.signers.resolve call.signer = .ok signer ∧
      client.endpoints.resolve turn call.operation = .ok endpoint ∧
      call.build client.defaults endpoint id
        ⟨i + 1, max 1 (client.strategy.limit m.strategy), deadline⟩ = .ok built ∧
      signer.sign built time = .ok sent.request := by
  obtain ⟨signer, before, _, start, hsigner, hhands⟩ := hands_of_sends_execute hsent
  obtain @⟨_, later, reached, _, _, _, _, hreaches, hopen, hsends⟩ := hhands
  obtain ⟨hbuilt, -, hsigned, -, -⟩ := hsends
  obtain ⟨endpoint, hendpoint, hbuild⟩ := exists_of_bind_eq_ok hbuilt
  have hadvanced := hreaches.advanced
  have hid : (reached.withOffset start.skew.offset).id = id := hadvanced.id
  rw [hid, Context.info_withOffset, hadvanced.info_eq] at hbuild
  exact ⟨signer, _, endpoint, _, _, _, hsigner, hendpoint, hbuild, hsigned⟩

/-- **What a retry sends is what was sent before.**  When the resolver names one endpoint, any two
requests that a call hands to the transport have the same method, URI and body, and the same values
in every field but those that the signer writes the time into and the one that tells of the attempt;
and that one tells of the attempts by their numbers and deadlines, with the same limit. -/
theorem execute_replays (client : Client τ) (env : Environment σ) (call : Call) (id : InvocationId)
    (m : Machine τ σ)
    (hendpoint : ∀ i j first second, client.endpoints.resolve i call.operation = .ok first →
      client.endpoints.resolve j call.operation = .ok second → first = second)
    (hlibrary : ∀ signer, client.signers.resolve call.signer = .ok signer → signer.IsBuiltIn) :
    let e := execute client env call id m
    ∀ i j a b, e.journal.sends[i]? = some a → e.journal.sends[j]? = some b →
      ∃ signer first second, client.signers.resolve call.signer = .ok signer ∧
        Request.AgreeOutside (signer.timedNames ++ [.requestInfo]) a.request b.request ∧
        let limit := max 1 (client.strategy.limit m.strategy)
        a.request.fields.values .requestInfo =
            [(⟨i + 1, limit, first⟩ : AttemptInfo).value] ∧
          b.request.fields.values .requestInfo =
            [(⟨j + 1, limit, second⟩ : AttemptInfo).value] := by
  intro e i j a b ha hb
  obtain ⟨signer, _, endpoint, builtA, _, first, hsigner, hresolvedA, hbuiltA, hsignedA⟩ :=
    built_of_sends_execute ha
  obtain ⟨other, _, endpointB, builtB, _, second, hother, hresolvedB, hbuiltB, hsignedB⟩ :=
    built_of_sends_execute hb
  cases hsigner.symm.trans hother
  cases hendpoint _ _ _ _ hresolvedA hresolvedB
  have hkeeps : signer.Keeps .requestInfo := (hlibrary signer hsigner).keeps (by decide)
  have hbuilt := Call.build_agreeOutside hbuiltA hbuiltB
  refine ⟨signer, first, second, hsigner,
    (hlibrary signer hsigner).agreeOutside hbuilt hsignedA hsignedB, ?_, ?_⟩
  · rw [hkeeps _ _ _ hsignedA, Call.requestInfo_of_build hbuiltA]
  · rw [hkeeps _ _ _ hsignedB, Call.requestInfo_of_build hbuiltB]

/-- The two requests to a service whose clock is an hour ahead differ in the one field. -/
theorem execute_replays_plain :
    let client := Rehearsal.plainClient (Standard.strategy Standard.rules .standard)
    let m := Rehearsal.plainMachine .standard
      [.response Rehearsal.hourAhead, .response Rehearsal.plainResponse]
    let e := execute client Rehearsal.environment Rehearsal.plainCall .nil m
    ∃ a b first second, e.journal.sends[0]? = some a ∧ e.journal.sends[1]? = some b ∧
      Request.AgreeOutside [.requestInfo] a.request b.request ∧
      a.request.fields.values .requestInfo = [(⟨1, 3, first⟩ : AttemptInfo).value] ∧
      b.request.fields.values .requestInfo = [(⟨2, 3, second⟩ : AttemptInfo).value] := by
  intro client m e
  have hboth : (e.journal.sends[0]?).isSome = true ∧ (e.journal.sends[1]?).isSome = true := by
    decide +kernel
  obtain ⟨a, ha⟩ := Option.isSome_iff_exists.1 hboth.1
  obtain ⟨b, hb⟩ := Option.isSome_iff_exists.1 hboth.2
  obtain ⟨signer, first, second, hsigner, hagree, hfirst, hsecond⟩ :=
    execute_replays client Rehearsal.environment Rehearsal.plainCall .nil m
      (fun _ _ _ _ hfirst hsecond => Except.ok.inj (hfirst.symm.trans hsecond))
      (fun signer hsigner => by cases hsigner; trivial) 0 1 a b ha hb
  cases hsigner
  exact ⟨a, b, first, second, ha, hb, hagree, hfirst, hsecond⟩

end Execution

end ServiceCall
