import ServiceCall.Proofs.Skew.Corrector
import ServiceCall.Proofs.Time.HttpDate
import ServiceCall.Classification

/-!
# Offsets that make up for a wrong clock

A clock that is ahead by some whole milliseconds and an offset that is smaller by as many give the
same times of signing, and what is measured against such a clock is smaller by as many again.  Only
a wait that a service asks for by a date is not shifted by the offset.
-/

namespace ServiceCall

/-- A whole millisecond from which every distance to a date of an HTTP field can be measured: these
dates are less than 10¹² seconds from the start of 1970. -/
structure Instant.Measurable (t : Instant) : Prop where
  whole : t.nanos % 1000000 = 0
  near : t.nanos.natAbs + 1000000000000 * 1000000000 < 0x8000000000000000 * 1000000

/-- One reading of a clock is some milliseconds after another. -/
structure Instant.Ahead (millis : Int) (t t' : Instant) : Prop where
  nanos : t'.nanos = t.nanos + millis * 1000000
  before : t.Measurable
  after : t'.Measurable

namespace ClockOffset

/-- One offset is some milliseconds smaller than another. -/
def Behind (millis : Int) (o o' : ClockOffset) : Prop := o'.millis = o.millis - millis

variable {millis : Int} {o o' : ClockOffset} {t t' date : Instant}

theorem not_overflows (o : ClockOffset) (ht : t.Measurable) : ¬o.Overflows t := by
  have hnear := ht.near
  have hlower := o.lower
  have hupper := o.upper
  have hlimit : Instant.limit = 0x8000000000000000 * 1000000000 := rfl
  rw [Overflows, nanos]
  omega

/-- The offset makes up for the clock. -/
theorem Behind.apply_eq (hbehind : o.Behind millis o') (hahead : t.Ahead millis t') :
    o'.apply t' = o.apply t := by
  have hsum : t'.nanos + o'.nanos = t.nanos + o.nanos := by
    rw [hahead.nanos, nanos, nanos, hbehind]
    omega
  have hshift : o'.shift? t' = o.shift? t := by rw [shift?, shift?, hsum]
  have hsigned := shift?_eq_some_apply (o.not_overflows hahead.before)
  rw [ClockOffset.apply_eq, hshift, hsigned, Option.getD_some]

/-- Against a clock that is ahead, the server's is measured to be less far ahead. -/
theorem behind_between {seconds : Int} (hdate : date.nanos = seconds * 1000000000)
    (hseconds : seconds.natAbs ≤ 1000000000000) (hahead : t.Ahead millis t') :
    (between date t).Behind millis (between date t') := by
  have hmillis := millis_between date t
  have hmillis' := millis_between date t'
  have hshifted := hahead.nanos
  have hwhole := hahead.before.whole
  have hnear := hahead.before.near
  have hnear' := hahead.after.near
  rw [Behind]
  split at hmillis <;> split at hmillis' <;> omega

end ClockOffset

/-- Two corrections that differ in the clock they were measured against. -/
structure Correction.Behind (millis : Int) (k k' : Correction) : Prop where
  previous : k.previous.Behind millis k'.previous
  offset : k.offset.Behind millis k'.offset
  signingDelta : k'.signingDelta = k.signingDelta

/-- A failure that is signed at the same time is corrected against either clock or none. -/
theorem Corrector.observe_behind {c : Corrector} {state state' skew : SkewState}
    {failure : Failure} {signedAt t t' : Instant} {millis : Int} {correction : Option Correction}
    (hstate : state.offset.Behind millis state'.offset) (hahead : t.Ahead millis t')
    (hobserve : c.observe state failure signedAt t = (correction, skew)) :
    ∃ correction' skew', c.observe state' failure signedAt t' = (correction', skew') ∧
      Option.Rel (Correction.Behind millis) correction correction' ∧
      skew.offset.Behind millis skew'.offset := by
  cases hmeasured : c.measured? failure signedAt with
  | none =>
      rw [observe_of_unmeasured state t hmeasured] at hobserve
      cases hobserve
      exact ⟨none, state', observe_of_unmeasured state' t' hmeasured, .none, hstate⟩
  | some measured =>
      obtain ⟨date, delta⟩ := measured
      obtain ⟨seconds, hdate, hseconds⟩ :=
        Failure.nanos_of_serverDate? (serverDate?_of_measured? hmeasured)
      have hbetween := ClockOffset.behind_between hdate hseconds hahead
      rw [observe_of_measured? state t hmeasured] at hobserve
      cases hobserve
      exact ⟨_, _, observe_of_measured? state' t' hmeasured, .some ⟨hstate, hbetween, rfl⟩,
        hbetween⟩

/-- The date until which a service asks to wait. -/
def Fields.retryDate? (fields : Fields) : Option Instant := do
  let value ← fields.first? .retryAfter
  let text := Text.trim (← value.text?)
  match Numeral.word? text with
  | some _ => none
  | none => HttpDate.parse? text

/-- A wait that is not asked for by a date does not depend on the clock. -/
theorem Fields.retryAfter?_eq {fields : Fields} (hdate : fields.retryDate? = none)
    (t t' : Instant) : fields.retryAfter? t' = fields.retryAfter? t := by
  rw [retryDate?] at hdate
  rw [retryAfter?, retryAfter?]
  cases hvalue : fields.first? .retryAfter with
  | none => rfl
  | some value =>
      cases htext : value.text? with
      | none => simp [htext]
      | some text =>
          simp only [hvalue, htext, Option.bind_eq_bind, Option.bind_some] at hdate ⊢
          cases hword : Numeral.word? (Text.trim text) with
          | some seconds => rfl
          | none =>
              rw [hword] at hdate
              simp [show HttpDate.parse? (Text.trim text) = none from hdate]

/-- Whether a reply asks to wait until a date, and is heeded. -/
def Reply.datesRetry (c : Classifier) : Reply → Bool
  | .response r =>
    r.status.isFailure &&
      (Kind.classify c r.status (c.serviceCode? r.status r.fields r.body)).heedsRetryAfter &&
      r.fields.retryDate?.isSome
  | .broken _ _ => false

/-- Any other reply means the same at every time. -/
theorem Reply.outcome_eq {c : Classifier} {reply : Reply} (hdates : reply.datesRetry c = false)
    (t t' : Instant) : reply.outcome c t' = reply.outcome c t := by
  cases reply with
  | broken fault detail => rfl
  | response r =>
      cases hstatus : r.status.isFailure with
      | false => simp only [outcome, classify, hstatus, Bool.false_eq_true, if_false]
      | true =>
          simp only [outcome, classify, hstatus, if_true, Failure.ofResponse]
          cases hheeds : (Kind.classify c r.status
              (c.serviceCode? r.status r.fields r.body)).heedsRetryAfter with
          | false => rfl
          | true =>
              have hdate : r.fields.retryDate? = none := by
                simpa [datesRetry, hstatus, hheeds] using hdates
              rw [Fields.retryAfter?_eq hdate t t']

end ServiceCall
