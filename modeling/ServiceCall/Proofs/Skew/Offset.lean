import ServiceCall.Skew.Offset

/-!
# Measured offsets

How far a measured offset can be from the true distance of two clocks, and what shifting by it does
to a time.  All distances are in nanoseconds.  A measurement is cut and capped toward zero, so it
never leads past the time that was measured, and a shift by it never leaves the range.
-/

namespace ServiceCall.ClockOffset

def nanos (o : ClockOffset) : Int := o.millis * 1000000

theorem ext_millis {o o' : ClockOffset} (hmillis : o.millis = o'.millis) : o = o' := by
  cases o
  cases o'
  cases hmillis
  rfl

theorem nanos_magnitude (o : ClockOffset) : o.magnitude.nanos = o.nanos.natAbs := by
  rw [magnitude, Duration.ofMillis, nanos, Int.natAbs_mul]
  rfl

/-- The time shifted by the offset, if that stays in the range. -/
def shift? (o : ClockOffset) (t : Instant) : Option Instant := Instant.ofNanos? (t.nanos + o.nanos)

/-- An offset is added or subtracted by its magnitude, according to its sign. -/
theorem shift?_eq (o : ClockOffset) (t : Instant) :
    o.shift? t = if 0 ≤ o.millis then t.add? o.magnitude else t.sub? o.magnitude := by
  have hmagnitude : (o.magnitude.nanos : Int) = o.millis.natAbs * 1000000 := rfl
  rw [shift?, nanos]
  split
  · rw [Instant.add?, hmagnitude, Int.natAbs_of_nonneg ‹_›]
  · rw [Instant.sub?, hmagnitude, Int.ofNat_natAbs_of_nonpos (by omega), Int.neg_mul, Int.sub_neg]

theorem apply_eq (o : ClockOffset) (t : Instant) : o.apply t = (o.shift? t).getD t := by
  rw [apply, shift?_eq]
  split
  · rfl
  · rfl

/-- The shifted time is not one that an instant can have. -/
def Overflows (o : ClockOffset) (t : Instant) : Prop :=
  t.nanos + o.nanos < -Instant.limit ∨ Instant.limit ≤ t.nanos + o.nanos

theorem nanos_of_shift? {o : ClockOffset} {t u : Instant} (hshift : o.shift? t = some u) :
    u.nanos = t.nanos + o.nanos := Instant.ofNanos?_eq_some_iff.1 hshift

theorem shift?_of_overflows {o : ClockOffset} {t : Instant} (hoverflows : o.Overflows t) :
    o.shift? t = none := by
  refine dif_neg fun hrange => ?_
  rcases hoverflows with hbelow | habove
  · exact Int.not_le.2 hbelow hrange.1
  · exact Int.not_lt.2 habove hrange.2

theorem exists_shift? {o : ClockOffset} {t : Instant} (hfits : ¬o.Overflows t) :
    ∃ u, o.shift? t = some u := by
  rw [Overflows, not_or, Int.not_lt, Int.not_le] at hfits
  exact ⟨_, dif_pos hfits⟩

/-- A shift that stays in the range is what the offset does to the time. -/
theorem shift?_eq_some_apply {o : ClockOffset} {t : Instant} (hfits : ¬o.Overflows t) :
    o.shift? t = some (o.apply t) := by
  obtain ⟨u, hshift⟩ := exists_shift? hfits
  rw [apply_eq, hshift, Option.getD_some]

/-- Nothing else than a shift by nothing or out of the range leaves a time as it is. -/
theorem apply_eq_self_iff (o : ClockOffset) (t : Instant) :
    o.apply t = t ↔ o = .zero ∨ o.Overflows t := by
  by_cases hoverflows : o.Overflows t
  · rw [apply_eq, shift?_of_overflows hoverflows]
    exact ⟨fun _ => .inr hoverflows, fun _ => rfl⟩
  · have hshifted := nanos_of_shift? (shift?_eq_some_apply hoverflows)
    constructor
    · intro hsame
      rw [hsame, nanos] at hshifted
      exact .inl (ext_millis (show o.millis = 0 by omega))
    · rintro (rfl | hnot)
      · rw [apply_eq, shift?, nanos, show zero.millis * 1000000 = 0 from rfl, Int.add_zero,
          Instant.ofNanos?_nanos]
        rfl
      · exact absurd hnot hoverflows

/-! ## Measurements -/

theorem millis_between (later earlier : Instant) :
    (between later earlier).millis =
      if earlier.nanos ≤ later.nanos then
        min ((later.nanos - earlier.nanos) / 1000000) 0x7FFFFFFFFFFFFFFF
      else -min ((earlier.nanos - later.nanos) / 1000000) 0x7FFFFFFFFFFFFFFF := by
  rw [between]
  split
  · simp only [cappedMillis, Duration.millis, Instant.since, cap]
    omega
  · simp only [cappedMillis, Duration.millis, Instant.since, cap]
    omega

theorem nanos_magnitude_between (later earlier : Instant) :
    (between later earlier).magnitude.nanos =
      min ((later.nanos - earlier.nanos).natAbs / 1000000) cap * 1000000 := by
  have hmillis := millis_between later earlier
  rw [magnitude, Duration.ofMillis, cap]
  dsimp only
  split at hmillis <;> omega

/-- Measured the other way round, an offset has the other sign. -/
theorem millis_between_comm (later earlier : Instant) :
    (between later earlier).millis = -(between earlier later).millis := by
  have hmillis := millis_between later earlier
  have hmillis' := millis_between earlier later
  split at hmillis <;> split at hmillis' <;> omega

/-- A measurement is never further from zero than what it measures. -/
theorem magnitude_between_le (later earlier : Instant) :
    (between later earlier).magnitude.nanos ≤ (later.nanos - earlier.nanos).natAbs := by
  rw [nanos_magnitude_between]
  exact Nat.le_trans (Nat.mul_le_mul_right _ (Nat.min_le_left ..)) (Nat.div_mul_le_self ..)

/-- A measurement that fits a signed word of milliseconds is off by a millisecond at most. -/
theorem natAbs_nanos_between_sub_le {later earlier : Instant}
    (hlower : -0x8000000000000000 * 1000000 ≤ later.nanos - earlier.nanos)
    (hupper : later.nanos - earlier.nanos < 0x8000000000000000 * 1000000) :
    ((between later earlier).nanos - (later.nanos - earlier.nanos)).natAbs ≤ 1000000 := by
  have hmillis := millis_between later earlier
  rw [nanos]
  split at hmillis <;> omega

/-- A measurement leads from the one time toward the other, and not past it. -/
theorem add_nanos_between_bounds (later earlier : Instant) :
    min later.nanos earlier.nanos ≤ earlier.nanos + (between later earlier).nanos ∧
      earlier.nanos + (between later earlier).nanos ≤ max later.nanos earlier.nanos := by
  have hmillis := millis_between later earlier
  rw [nanos]
  split at hmillis <;> omega

/-- It leads there but for less than a millisecond, unless it is capped. -/
theorem add_nanos_between_near_iff (later earlier : Instant) :
    (later.nanos - (earlier.nanos + (between later earlier).nanos)).natAbs < 1000000 ↔
      (later.nanos - earlier.nanos).natAbs / 1000000 ≤ cap := by
  have hmillis := millis_between later earlier
  rw [nanos, cap]
  split at hmillis <;> omega

theorem not_overflows_between (later earlier : Instant) :
    ¬(between later earlier).Overflows earlier := by
  have hbounds := add_nanos_between_bounds later earlier
  have hlater := And.intro later.lower later.upper
  have hearlier := And.intro earlier.lower earlier.upper
  rw [Overflows]
  omega

/-- **Offsets are measured and applied exactly.**  For any two times, the offset between them is the
negative of the offset the other way round, and as large as their distance in whole milliseconds up
to the cap; the one time can always be shifted by it, to a time between the two, which is less than
a millisecond from the other exactly when the distance is not beyond the cap.  Any offset, also the
smallest, is as large as its milliseconds, shifts a time by exactly these unless that leaves the
range, and leaves a time as it is only then or if the offset is zero. -/
theorem between_apply_exact :
    (∀ later earlier : Instant,
      let o := between later earlier
      let distance := (later.nanos - earlier.nanos).natAbs
      let shifted := (o.apply earlier).nanos
      o.millis = -(between earlier later).millis ∧
        o.magnitude = .ofMillis (min (distance / 1000000) cap) ∧
        o.shift? earlier = some (o.apply earlier) ∧
        min later.nanos earlier.nanos ≤ shifted ∧ shifted ≤ max later.nanos earlier.nanos ∧
        ((later.nanos - shifted).natAbs < 1000000 ↔ distance / 1000000 ≤ cap)) ∧
      ∀ (o : ClockOffset) (t : Instant),
        o.magnitude.nanos = o.nanos.natAbs ∧
          (¬o.Overflows t → (o.apply t).nanos = t.nanos + o.nanos) ∧
          (o.apply t = t ↔ o = .zero ∨ o.Overflows t) := by
  refine ⟨fun later earlier => ?_, fun o t => ?_⟩
  · intro o distance shifted
    have hshift := shift?_eq_some_apply (not_overflows_between later earlier)
    have hshifted : shifted = earlier.nanos + o.nanos := nanos_of_shift? hshift
    obtain ⟨hlower, hupper⟩ := add_nanos_between_bounds later earlier
    have hmagnitude : o.magnitude = .ofMillis (min (distance / 1000000) cap) :=
      congrArg Duration.mk (nanos_magnitude_between later earlier)
    rw [hshifted]
    exact ⟨millis_between_comm later earlier, hmagnitude, hshift, hlower, hupper,
      add_nanos_between_near_iff later earlier⟩
  · exact ⟨o.nanos_magnitude, fun hfits => nanos_of_shift? (shift?_eq_some_apply hfits),
      o.apply_eq_self_iff t⟩

/-- The smallest offset has no negative, and is applied all the same. -/
example :
    let o : ClockOffset := ⟨-0x8000000000000000, by decide, by decide⟩
    (o.apply ⟨0x8000000000000000 * 1000000, by decide, by decide⟩).nanos = 0 := by decide

end ServiceCall.ClockOffset
