import ServiceCall.Proofs.Call.Build
import ServiceCall.Proofs.Signing.Resigning

/-!
# What the time of signing changes

Requests that agree outside some fields are signed into requests that agree outside those and the
fields that tell the time.  A signature of version 4 has two of these, its date and the
authorization; the other signers of the library have none.
-/

namespace ServiceCall

namespace SigV4

/-- The host and the time are written into one field each, so the other fields do not depend on
them. -/
theorem values_preparedFields {s : SigV4} {a b : Http.Request} {host host' : HeaderValue}
    {token : Option HeaderValue} {name : HeaderName} {f g : Fields} {time later : Instant}
    (hbody : a.body = b.body) (hhost : name = .host → host = host')
    (hdate : name = dateField → time = later) (hvalues : f.values name = g.values name) :
    (s.preparedFields a host token f time).values name =
      (s.preparedFields b host' token g later).values name := by
  have hhash : hashValue a = hashValue b := by simp only [hashValue, bodyHash, hbody]
  have hfront :
      (((f.remove .authorization).set .host host).set dateField (dateValue time)).values name =
        (((g.remove .authorization).set .host host').set dateField (dateValue later)).values
          name := by
    simp only [Fields.values_set, Fields.values_remove, hvalues]
    split
    · rw [hdate (Eq.symm ‹_›)]
    · split
      · rw [hhost (Eq.symm ‹_›)]
      · rfl
  rw [preparedFields, preparedFields, hhash]
  exact Fields.values_setAll_congr hfront _

/-- A prepared request gets an authorization and nothing else. -/
theorem authorize_eq_ok {s : SigV4} {prepared signed : Http.Request} {time : Instant}
    (hsigned : s.authorize prepared time = .ok signed) :
    ∃ v, signed = { prepared with fields := prepared.fields.set .authorization v } := by
  rw [authorize] at hsigned
  cases hvalue : value (s.authorizationText prepared time) with
  | error failure =>
      rw [hvalue] at hsigned
      cases hsigned
  | ok v =>
      rw [hvalue] at hsigned
      cases hsigned
      exact ⟨_, rfl⟩

theorem sign_agreeOutside {s : SigV4} {names : List HeaderName} {a b signed other : Http.Request}
    {time later : Instant} (hagree : Http.Request.AgreeOutside names a b)
    (hsigned : s.sign a time = .ok signed) (hother : s.sign b later = .ok other) :
    Http.Request.AgreeOutside ([.authorization, dateField] ++ names) signed other := by
  rw [sign_eq] at hsigned hother
  rcases s.prepare_cases a with ⟨-, _, -, hfails⟩ | ⟨-, host, token, -, hprepare⟩
  · cases (congrArg (Except.bind · _) (hfails a.fields time)).symm.trans hsigned
  · rw [show s.prepare a time = _ from hprepare a.fields time] at hsigned
    rw [hagree.eq_with, hprepare] at hother
    obtain ⟨v, rfl⟩ := authorize_eq_ok hsigned
    obtain ⟨w, rfl⟩ := authorize_eq_ok hother
    refine ⟨rfl, rfl, rfl, fun name hname => ?_⟩
    simp only [List.cons_append, List.nil_append, List.mem_cons, not_or] at hname
    obtain ⟨hauthorization, hdate, hname⟩ := hname
    rw [Fields.values_set, Fields.values_set, if_neg (Ne.symm hauthorization),
      if_neg (Ne.symm hauthorization)]
    exact values_preparedFields rfl (fun _ => rfl) (fun heq => absurd heq hdate)
      (hagree.values name hname)

end SigV4

namespace Signer

/-- The fields that tell when a request was signed. -/
def timedNames : Signer → List HeaderName
  | sigV4 _ => [.authorization, SigV4.dateField]
  | null | bearer _ | custom _ _ => []

/-- Requests that agree are signed into requests that agree, whenever that is. -/
theorem IsBuiltIn.agreeOutside {s : Signer} (hlibrary : s.IsBuiltIn) {names : List HeaderName}
    {a b signed other : Http.Request} {time later : Instant}
    (hagree : Http.Request.AgreeOutside names a b) (hsigned : s.sign a time = .ok signed)
    (hother : s.sign b later = .ok other) :
    Http.Request.AgreeOutside (s.timedNames ++ names) signed other := by
  cases s with
  | null =>
      cases hsigned
      cases hother
      exact hagree
  | bearer token =>
      cases hsigned
      cases hother
      refine ⟨hagree.method, hagree.uri, hagree.body, fun name hname => ?_⟩
      rw [Fields.values_set, Fields.values_set, hagree.values name hname]
  | sigV4 config => exact SigV4.sign_agreeOutside hagree hsigned hother
  | custom name sign => cases hlibrary

end Signer

end ServiceCall
