import ServiceCall.Proofs.Skew.Offset
import ServiceCall.Skew.Corrector

/-!
# Corrections of the clock

A failure either leaves the offset alone or puts the measured one in its place.
-/

namespace ServiceCall.Corrector

variable {c : Corrector} {state : SkewState} {failure : Failure} {signedAt receivedAt : Instant}

/-- A correction sets the offset that it bears. -/
theorem observe_of_eq_some {k : Correction}
    (hcorrects : (c.observe state failure signedAt receivedAt).1 = some k) :
    (c.observe state failure signedAt receivedAt).2 = ⟨k.offset, true⟩ := by
  rw [observe] at hcorrects ⊢
  cases hcorrection : c.correction? state failure signedAt receivedAt with
  | none =>
      rw [hcorrection] at hcorrects
      cases hcorrects
  | some correction =>
      rw [hcorrection] at hcorrects
      cases hcorrects
      rfl

/-- A failure that is measured bears the date it is measured by. -/
theorem serverDate?_of_measured? {date : Instant} {delta : ClockOffset}
    (hmeasured : c.measured? failure signedAt = some (date, delta)) :
    failure.serverDate? = some date := by
  rw [measured?] at hmeasured
  split at hmeasured
  · cases hdate : failure.serverDate? with
    | none =>
        rw [hdate] at hmeasured
        cases hmeasured
    | some found =>
        rw [hdate, Option.bind_eq_bind, Option.bind_some] at hmeasured
        dsimp only at hmeasured
        split at hmeasured
        · cases hmeasured
          rfl
        · cases hmeasured
  · cases hmeasured

/-- A date within the threshold of the time of signing calls for no correction. -/
theorem measured?_eq_none (hnear : ∀ date, failure.serverDate? = some date →
      (date.nanos - signedAt.nanos).natAbs ≤ c.threshold.nanos) :
    c.measured? failure signedAt = none := by
  rw [measured?]
  split
  · cases hdate : failure.serverDate? with
    | none => rfl
    | some date =>
        have hle := Nat.le_trans (ClockOffset.magnitude_between_le date signedAt) (hnear date hdate)
        rw [Option.bind_eq_bind, Option.bind_some]
        exact if_neg (Nat.not_lt.2 hle)
  · rfl

theorem observe_of_measured? (state : SkewState) (receivedAt : Instant) {date : Instant}
    {delta : ClockOffset}
    (hmeasured : c.measured? failure signedAt = some (date, delta)) :
    c.observe state failure signedAt receivedAt =
      (some ⟨state.offset, .between date receivedAt, delta⟩,
        ⟨.between date receivedAt, true⟩) := by
  rw [observe, correction?, hmeasured]
  rfl

theorem observe_of_unmeasured (state : SkewState) (receivedAt : Instant)
    (hmeasured : c.measured? failure signedAt = none) :
    c.observe state failure signedAt receivedAt = (none, state) := by
  rw [observe, correction?, hmeasured]
  rfl

end ServiceCall.Corrector
