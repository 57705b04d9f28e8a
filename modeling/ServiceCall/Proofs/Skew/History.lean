import ServiceCall.Proofs.Skew.Corrector

/-!
# The history of an offset

The offset of a client is set, reset and corrected by the failures that are observed.  A failure
corrects it by the distance of the server's date from the time of receipt, and does so exactly when
the distance of that date from the time of signing is beyond the threshold.  At any time the offset
is the last one that was stored, unless a reset came after it.
-/

namespace ServiceCall

namespace ClockOffset

/-- A distance in nanoseconds as whole milliseconds, cut toward zero and capped on both sides. -/
def measure (distance : Int) : Int := max (-cap) (min cap (distance.tdiv 1000000))

theorem millis_between_eq_measure (later earlier : Instant) :
    (between later earlier).millis = measure (later.nanos - earlier.nanos) := by
  have hmillis := millis_between later earlier
  rw [measure, cap]
  split at hmillis
  · next hle =>
      rw [Int.tdiv_eq_ediv_of_nonneg (Int.sub_nonneg_of_le hle)]
      omega
  · next hlt =>
      rw [← Int.neg_sub, Int.neg_tdiv, Int.tdiv_eq_ediv_of_nonneg (by omega)]
      omega

end ClockOffset

/-! ## Observations -/

/-- A failure tells that the clock is wrong: it may come from that, it bears the server's date, and
the whole milliseconds between that date and the time of signing are beyond the threshold. -/
structure Corrector.Corrects (c : Corrector) (failure : Failure) (signedAt date : Instant) :
    Prop where
  enabled : c.enabled = true
  candidate : failure.isSkewCandidate = true
  dated : failure.serverDate? = some date
  beyond : c.threshold.nanos <
    min ((date.nanos - signedAt.nanos).natAbs / 1000000) ClockOffset.cap * 1000000

/-- What is reported of a correction of a state. -/
structure Correction.Reports (k : Correction) (state : SkewState)
    (signedAt receivedAt date : Instant) : Prop where
  previous : k.previous = state.offset
  offset : k.offset.millis = ClockOffset.measure (date.nanos - receivedAt.nanos)
  signingDelta : k.signingDelta.millis = ClockOffset.measure (date.nanos - signedAt.nanos)

namespace Corrector

variable {c : Corrector} {state : SkewState} {failure : Failure} {signedAt receivedAt : Instant}

theorem measured?_eq_some_iff {date : Instant} {delta : ClockOffset} :
    c.measured? failure signedAt = some (date, delta) ↔
      c.Corrects failure signedAt date ∧ delta = .between date signedAt := by
  constructor
  · intro hmeasured
    have hdate := serverDate?_of_measured? hmeasured
    rw [measured?] at hmeasured
    split at hmeasured
    · next heligible =>
        rw [hdate, Option.bind_eq_bind, Option.bind_some] at hmeasured
        dsimp only at hmeasured
        split at hmeasured
        · next hbeyond =>
            cases hmeasured
            rw [Duration.lt_iff, ClockOffset.nanos_magnitude_between] at hbeyond
            exact ⟨⟨heligible.1, heligible.2, hdate, hbeyond⟩, rfl⟩
        · cases hmeasured
    · cases hmeasured
  · rintro ⟨hcorrects, rfl⟩
    have hbeyond : c.threshold < (ClockOffset.between date signedAt).magnitude := by
      rw [Duration.lt_iff, ClockOffset.nanos_magnitude_between]
      exact hcorrects.beyond
    rw [measured?, if_pos ⟨hcorrects.enabled, hcorrects.candidate⟩, hcorrects.dated,
      Option.bind_eq_bind, Option.bind_some]
    exact if_pos hbeyond

/-- A failure that tells that the clock is wrong puts the measured offset in place of the other. -/
theorem Corrects.observe {date : Instant} (hcorrects : c.Corrects failure signedAt date)
    (state : SkewState) (receivedAt : Instant) :
    ∃ k : Correction, c.observe state failure signedAt receivedAt = (some k, ⟨k.offset, true⟩) ∧
      k.Reports state signedAt receivedAt date :=
  ⟨⟨state.offset, .between date receivedAt, .between date signedAt⟩,
    observe_of_measured? state receivedAt (measured?_eq_some_iff.2 ⟨hcorrects, rfl⟩),
    rfl, ClockOffset.millis_between_eq_measure _ _, ClockOffset.millis_between_eq_measure _ _⟩

/-- Any other failure leaves the state alone. -/
theorem observe_of_not_corrects (state : SkewState) (receivedAt : Instant)
    (hnot : ¬∃ date, c.Corrects failure signedAt date) :
    c.observe state failure signedAt receivedAt = (none, state) := by
  refine observe_of_unmeasured state receivedAt (Option.eq_none_iff_forall_ne_some.2 ?_)
  rintro ⟨date, delta⟩ hmeasured
  exact hnot ⟨date, (measured?_eq_some_iff.1 hmeasured).1⟩

end Corrector

/-! ## Histories -/

namespace SkewState

/-- What is done to a state. -/
inductive Event where
  | observe (c : Corrector) (failure : Failure) (signedAt receivedAt : Instant)
  | set (offset : ClockOffset)
  | reset

/-- The state after an event. -/
def after (state : SkewState) : Event → SkewState
  | .observe c failure signedAt receivedAt => (c.observe state failure signedAt receivedAt).2
  | .set offset => state.set offset
  | .reset => .new

/-- The state after a number of events. -/
def run (events : List Event) : SkewState := events.foldl after .new

/-- The offset that an event stores. -/
inductive Event.Stores : Event → ClockOffset → Prop where
  | set (offset : ClockOffset) : Stores (.set offset) offset
  | observe {c : Corrector} {failure : Failure} {signedAt date : Instant} {offset : ClockOffset}
      (receivedAt : Instant) (hcorrects : c.Corrects failure signedAt date)
      (hoffset : offset.millis = ClockOffset.measure (date.nanos - receivedAt.nanos)) :
      Stores (.observe c failure signedAt receivedAt) offset

/-- An event that neither stores an offset nor takes it back. -/
def Event.Keeps (e : Event) : Prop := e ≠ .reset ∧ ∀ offset, ¬e.Stores offset

/-- The state that stands after a history: the last offset that was stored, if no reset came after
it, and otherwise the state of the beginning. -/
inductive Standing : List Event → SkewState → Prop where
  | stored (before : List Event) {e : Event} {offset : ClockOffset} {later : List Event}
      (hstores : e.Stores offset) (hkeeps : ∀ e ∈ later, e.Keeps) :
      Standing (before ++ e :: later) ⟨offset, true⟩
  | reset (before : List Event) {later : List Event} (hkeeps : ∀ e ∈ later, e.Keeps) :
      Standing (before ++ .reset :: later) ⟨.zero, false⟩
  | untouched {later : List Event} (hkeeps : ∀ e ∈ later, e.Keeps) :
      Standing later ⟨.zero, false⟩

variable {state : SkewState} {e : Event} {events : List Event}

theorem after_of_stores {offset : ClockOffset} (hstores : e.Stores offset) :
    state.after e = ⟨offset, true⟩ := by
  cases hstores with
  | set => rfl
  | observe receivedAt hcorrects hoffset =>
      obtain ⟨k, hobserve, hreports⟩ := hcorrects.observe state receivedAt
      rw [after, hobserve, mk.injEq]
      exact ⟨ClockOffset.ext_millis (hreports.offset.trans hoffset.symm), rfl⟩

theorem after_of_keeps (hkeeps : e.Keeps) : state.after e = state := by
  cases e with
  | observe c failure signedAt receivedAt =>
      rw [after, Corrector.observe_of_not_corrects]
      rintro ⟨date, hcorrects⟩
      exact hkeeps.2 _ (.observe receivedAt hcorrects (ClockOffset.millis_between_eq_measure _ _))
  | set offset => exact absurd (.set offset) (hkeeps.2 offset)
  | reset => exact absurd rfl hkeeps.1

theorem Event.ways (e : Event) : (∃ offset, e.Stores offset) ∨ e = .reset ∨ e.Keeps := by
  by_cases hstores : ∃ offset, e.Stores offset
  · exact .inl hstores
  · by_cases hreset : e = .reset
    · exact .inr (.inl hreset)
    · exact .inr (.inr ⟨hreset, not_exists.1 hstores⟩)

theorem foldl_of_keeps {later : List Event} (hkeeps : ∀ e ∈ later, e.Keeps) :
    later.foldl after state = state := by
  induction later with
  | nil => rfl
  | cons e rest ih =>
      rw [List.forall_mem_cons] at hkeeps
      rw [List.foldl_cons, after_of_keeps hkeeps.1, ih hkeeps.2]

/-- What stands after a history is what it leaves. -/
theorem Standing.run_eq (hstanding : Standing events state) : run events = state := by
  cases hstanding with
  | stored before hstores hkeeps =>
      rw [run, List.foldl_append, List.foldl_cons, after_of_stores hstores, foldl_of_keeps hkeeps]
  | reset before hkeeps =>
      rw [run, List.foldl_append, List.foldl_cons, foldl_of_keeps hkeeps]
      rfl
  | untouched hkeeps => exact foldl_of_keeps hkeeps

/-- One more event. -/
theorem Standing.concat (hstanding : Standing events state) (e : Event) :
    Standing (events ++ [e]) (state.after e) := by
  have hnone : ∀ e ∈ ([] : List Event), e.Keeps := List.forall_mem_nil _
  rcases e.ways with ⟨offset, hstores⟩ | rfl | hkeeps
  · rw [after_of_stores hstores]
    exact .stored events hstores hnone
  · exact .reset events hnone
  · have hall {later : List Event} (hlater : ∀ x ∈ later, x.Keeps) :
        ∀ x ∈ later ++ [e], x.Keeps :=
      List.forall_mem_append.2 ⟨hlater, List.forall_mem_singleton.2 hkeeps⟩
    rw [after_of_keeps hkeeps]
    cases hstanding with
    | stored before hstores hlater =>
        rw [List.append_assoc, List.cons_append]
        exact .stored before hstores (hall hlater)
    | reset before hlater =>
        rw [List.append_assoc, List.cons_append]
        exact .reset before (hall hlater)
    | untouched hlater => exact .untouched (hall hlater)

theorem Standing.foldl (hstanding : Standing events state) (rest : List Event) :
    Standing (events ++ rest) (rest.foldl after state) := by
  induction rest generalizing events state with
  | nil => rwa [List.append_nil]
  | cons e rest ih =>
      have hrest := ih (hstanding.concat e)
      rwa [List.append_assoc] at hrest

theorem standing_run (events : List Event) : Standing events (run events) :=
  Standing.foldl (.untouched (List.forall_mem_nil _)) events

/-- After any history, a failure is reported as a correction exactly when it tells that the clock is
wrong; then the state has the offset of the correction, and otherwise it is what it was.  The state
that a history leaves is the one that stands after it. -/
theorem run_history (events : List Event) :
    (∀ (c : Corrector) (failure : Failure) (signedAt receivedAt : Instant),
      let observed := c.observe (run events) failure signedAt receivedAt
      (observed.1.isSome = true ↔ ∃ date, c.Corrects failure signedAt date) ∧
        (∀ k, observed.1 = some k → observed.2 = ⟨k.offset, true⟩ ∧
          ∃ date, failure.serverDate? = some date ∧
            k.Reports (run events) signedAt receivedAt date) ∧
        (observed.1 = none → observed.2 = run events)) ∧
      ∀ state, run events = state ↔ Standing events state := by
  refine ⟨?_, fun state => ⟨fun hrun => hrun ▸ standing_run events, Standing.run_eq⟩⟩
  intro c failure signedAt receivedAt observed
  by_cases hcorrects : ∃ date, c.Corrects failure signedAt date
  · obtain ⟨date, hdate⟩ := hcorrects
    obtain ⟨k, hobserve, hreports⟩ := hdate.observe (run events) receivedAt
    have hobserved : observed = (some k, ⟨k.offset, true⟩) := hobserve
    rw [hobserved]
    refine ⟨⟨fun _ => ⟨date, hdate⟩, fun _ => rfl⟩, ?_, nofun⟩
    rintro k' hk
    cases hk
    exact ⟨rfl, date, hdate.dated, hreports⟩
  · have hobserved : observed = (none, run events) :=
      Corrector.observe_of_not_corrects (run events) receivedAt hcorrects
    rw [hobserved]
    refine ⟨⟨nofun, fun hdate => absurd hdate hcorrects⟩, ?_, fun _ => rfl⟩
    intro k hk
    cases hk

end SkewState

end ServiceCall
