import Mathlib.Algebra.Ring.Nat
import ServiceCall.Retry.Backoff

/-!
# The backoff formula

A wait is the base, doubled for each attempt after the first one, and at most the maximum.  The
ceiling is computed from the whole milliseconds of base and maximum, stops doubling at some point
and fits a word.  Within these two limits it is the formula cut to whole milliseconds, as long as
what the base has below a millisecond does not add up to one.

The ceiling never falls from one attempt to the next and stays within the maximum, and so does every
wait that is chosen by it.
-/

namespace ServiceCall

theorem Duration.millis_mono {a b : Duration} (hle : a ≤ b) : a.millis ≤ b.millis :=
  Nat.div_le_div_right hle

/-- Two durations are less than a millisecond apart. -/
def Duration.Near (a b : Duration) : Prop := a < b + .ofMillis 1 ∧ b < a + .ofMillis 1

instance (a b : Duration) : Decidable (a.Near b) := inferInstanceAs (Decidable (_ ∧ _))

namespace Delay

/-- The numbers up to the ceiling are drawn as they are. -/
theorem resolve_of_le {ceiling : Duration} {millis : Nat} (hle : millis ≤ ceiling.millis) :
    (upTo ceiling).resolve millis = .ofMillis millis :=
  congrArg Duration.ofMillis (Nat.mod_eq_of_lt (Nat.lt_succ_of_le hle))

theorem exists_resolve_eq (ceiling : Duration) (draw : Nat) :
    ∃ millis ≤ ceiling.millis, (upTo ceiling).resolve draw = .ofMillis millis :=
  ⟨_, Nat.le_of_lt_succ (Nat.mod_lt draw (Nat.succ_pos _)), rfl⟩

end Delay

namespace Backoff

variable {b : Backoff} {attempt : Nat}

/-- The longest wait after an attempt, to the nanosecond. -/
def formula (b : Backoff) (attempt : Nat) : Duration :=
  min b.max ⟨b.base.nanos * 2 ^ (attempt - 1)⟩

/-- How often the wait after an attempt is doubled. -/
def doublings (attempt : Nat) : Nat := min (attempt - 1) mostDoublings

/-- The formula with limits on the doublings and on the result. -/
def limited (b : Backoff) (attempt : Nat) : Duration :=
  min (min b.max ⟨b.base.nanos * 2 ^ doublings attempt⟩) (.ofMillis longestMillis)

/-- The wait is cut to whole milliseconds only once: either what the base has below a millisecond
stays below one when it is doubled, or the doubled milliseconds of the base reach a limit. -/
def CutOnce (b : Backoff) (attempt : Nat) : Prop :=
  b.base.nanos % 1000000 * 2 ^ doublings attempt < 1000000 ∨
    min b.max.millis longestMillis ≤ b.base.millis * 2 ^ doublings attempt

/-- The doublings end only where there is nothing more to double. -/
def EndsInTime (b : Backoff) (attempt : Nat) : Prop :=
  attempt ≤ mostDoublings + 1 ∨ b.max.millis ≤ b.base.millis * 2 ^ mostDoublings ∨
    b.base.nanos = 0

theorem nanos_ceiling (b : Backoff) (attempt : Nat) : (b.ceiling attempt).nanos =
    min (min (b.base.millis * 2 ^ doublings attempt) b.max.millis) longestMillis * 1000000 := by
  have hmax : Max.max b.max.millis b.base.millis = b.max.millis :=
    Nat.max_eq_left (Duration.millis_mono b.base_le_max)
  rw [ceiling, hmax]
  rfl

theorem nanos_max_lt (b : Backoff) : b.max.nanos < (b.max.millis + 1) * 1000000 :=
  Nat.lt_mul_of_div_lt (Nat.lt_succ_self _) (by decide)

/-- Doubling keeps the whole milliseconds of the base apart from the rest. -/
theorem nanos_base_mul (b : Backoff) (factor : Nat) : b.base.nanos * factor =
    b.base.millis * factor * 1000000 + b.base.nanos % 1000000 * factor := by
  rw [Nat.mul_right_comm, ← Nat.add_mul, Duration.millis, Nat.div_add_mod']

theorem ceiling_le_limited (b : Backoff) (attempt : Nat) :
    b.ceiling attempt ≤ b.limited attempt := by
  have hmax : b.max.millis * 1000000 ≤ b.max.nanos := Nat.div_mul_le_self _ _
  have hdoubled : b.base.millis * 2 ^ doublings attempt * 1000000 ≤
      b.base.nanos * 2 ^ doublings attempt := by
    rw [nanos_base_mul]
    exact Nat.le_add_right _ _
  rw [Duration.le_iff, nanos_ceiling, limited, Duration.nanos_min, Duration.nanos_min,
    ← Nat.mul_min_mul_right, ← Nat.mul_min_mul_right, Nat.min_comm b.max.nanos]
  refine Nat.le_min.2 ⟨Nat.le_min.2 ⟨?_, ?_⟩, Nat.min_le_right _ _⟩
  · exact Nat.le_trans (Nat.min_le_left _ _) (Nat.le_trans (Nat.min_le_left _ _) hdoubled)
  · exact Nat.le_trans (Nat.min_le_left _ _) (Nat.le_trans (Nat.min_le_right _ _) hmax)

theorem limited_le_formula (b : Backoff) (attempt : Nat) :
    b.limited attempt ≤ b.formula attempt := by
  have hdoublings : b.base.nanos * 2 ^ doublings attempt ≤ b.base.nanos * 2 ^ (attempt - 1) :=
    Nat.mul_le_mul_left _ (Nat.pow_le_pow_right (by decide) (Nat.min_le_left _ _))
  rw [Duration.le_iff, limited, formula, Duration.nanos_min, Duration.nanos_min,
    Duration.nanos_min]
  dsimp only
  omega

theorem ceiling_le_max (b : Backoff) (attempt : Nat) : b.ceiling attempt ≤ b.max :=
  Nat.le_trans (b.ceiling_le_limited attempt)
    (Nat.le_trans (b.limited_le_formula attempt) (Nat.min_le_left _ _))

theorem doublings_mono {later : Nat} (hle : attempt ≤ later) :
    doublings attempt ≤ doublings later := by
  unfold doublings
  omega

/-- A later attempt is never followed by a shorter longest wait. -/
theorem ceiling_mono (b : Backoff) {later : Nat} (hle : attempt ≤ later) :
    b.ceiling attempt ≤ b.ceiling later := by
  have hdoubled : b.base.millis * 2 ^ doublings attempt ≤ b.base.millis * 2 ^ doublings later :=
    Nat.mul_le_mul_left _ (Nat.pow_le_pow_right (by decide) (doublings_mono hle))
  rw [Duration.le_iff, nanos_ceiling, nanos_ceiling]
  apply Nat.mul_le_mul_right
  omega

theorem limited_lt_ceiling (hcut : b.CutOnce attempt) :
    b.limited attempt < b.ceiling attempt + .ofMillis 1 := by
  have hbase := b.nanos_base_mul (2 ^ doublings attempt)
  have hmax := b.nanos_max_lt
  rw [CutOnce] at hcut
  rw [Duration.lt_iff, Duration.nanos_add, nanos_ceiling, limited, Duration.nanos_min,
    Duration.nanos_min, Duration.ofMillis, Duration.ofMillis]
  dsimp only
  generalize longestMillis = longest, b.base.millis * 2 ^ doublings attempt = doubled at *
  omega

/-- Where neither limit cuts the formula short, the ceiling is the formula. -/
theorem formula_lt_ceiling (hcut : b.CutOnce attempt) (hends : b.EndsInTime attempt)
    (hword : (b.formula attempt).millis ≤ longestMillis) :
    b.formula attempt < b.ceiling attempt + .ofMillis 1 := by
  have hceiling := b.nanos_ceiling attempt
  have hmax := b.nanos_max_lt
  have hfits : (b.formula attempt).nanos < (longestMillis + 1) * 1000000 :=
    Nat.lt_mul_of_div_lt (Nat.lt_succ_of_le hword) (by decide)
  rw [Duration.lt_iff, Duration.nanos_add, Duration.ofMillis]
  rw [formula, Duration.nanos_min] at hfits ⊢
  dsimp only at hfits ⊢
  by_cases hfew : attempt ≤ mostDoublings + 1
  · have hlimited := limited_lt_ceiling hcut
    have hdoublings : doublings attempt = attempt - 1 :=
      Nat.min_eq_left (Nat.sub_le_of_le_add hfew)
    rw [Duration.lt_iff, Duration.nanos_add, limited, Duration.nanos_min, Duration.nanos_min,
      Duration.ofMillis, Duration.ofMillis] at hlimited
    rw [hdoublings] at hceiling hlimited
    dsimp only at hlimited
    generalize longestMillis = longest, b.base.millis * 2 ^ (attempt - 1) = doubled at *
    omega
  · have hdoublings : doublings attempt = mostDoublings :=
      Nat.min_eq_right (Nat.le_sub_one_of_lt (Nat.lt_of_succ_lt (Nat.lt_of_not_le hfew)))
    rw [hdoublings] at hceiling
    rcases hends.resolve_left hfew with hreached | hzero
    · rw [Nat.min_eq_right hreached] at hceiling
      generalize longestMillis = longest at *
      omega
    · rw [hzero]
      omega

theorem cutOnce_of_whole (attempt : Nat) (hwhole : b.base.nanos % 1000000 = 0) :
    b.CutOnce attempt := by
  left
  rw [hwhole, Nat.zero_mul]
  decide

/-- The ceiling is never above the formula.  If the wait is cut to whole milliseconds only once,
the ceiling is less than a millisecond from the formula with its limits, and from the formula itself
unless one of the limits cuts that short. -/
theorem ceiling_near_formula (base max : Duration) (jitter : Jitter) (attempt : Nat) :
    let b := (new base max).withJitter jitter
    b.ceiling attempt ≤ b.formula attempt ∧
      (b.CutOnce attempt → (b.ceiling attempt).Near (b.limited attempt) ∧
        (b.EndsInTime attempt → (b.formula attempt).millis ≤ longestMillis →
          (b.ceiling attempt).Near (b.formula attempt))) := by
  intro b
  have hlimited := b.ceiling_le_limited attempt
  have hformula : b.ceiling attempt ≤ b.formula attempt :=
    Nat.le_trans hlimited (b.limited_le_formula attempt)
  have hbelow {d : Duration} (hle : b.ceiling attempt ≤ d) : b.ceiling attempt < d + .ofMillis 1 :=
    Nat.lt_of_le_of_lt hle (Nat.lt_add_of_pos_right (by decide))
  refine ⟨hformula, fun hcut => ⟨⟨hbelow hlimited, limited_lt_ceiling hcut⟩, ?_⟩⟩
  intro hends hword
  exact ⟨hbelow hformula, formula_lt_ceiling hcut hends hword⟩

/-- Waits from 25 ms on that reach a maximum of 150.5 ms. -/
theorem ceiling_near_formula_capped :
    let b := (new (.ofMillis 25) ⟨150500000⟩).withJitter .none
    b.CutOnce 4 ∧ b.EndsInTime 4 ∧ b.ceiling 4 = .ofMillis 150 ∧ b.formula 4 = ⟨150500000⟩ ∧
      (b.ceiling 4).Near (b.formula 4) := by
  intro b
  have hcut : b.CutOnce 4 := cutOnce_of_whole 4 (by decide)
  have hends : b.EndsInTime 4 := .inl (by decide)
  have hnear := (ceiling_near_formula (.ofMillis 25) ⟨150500000⟩ .none 4).2 hcut
  exact ⟨hcut, hends, by decide, by decide, hnear.2 hends (by decide)⟩

/-- Half a millisecond of a base is lost before it is doubled, the doublings end, and a wait that
does not fit a word of milliseconds is cut. -/
theorem ceiling_off_formula :
    let fine := new ⟨1500000⟩ (.ofSeconds 20)
    let patient := new (.ofMillis 1) (.ofSeconds 5000000)
    let endless := new (.ofSeconds (2 ^ 64 - 1)) .zero
    (fine.ceiling 2 = .ofMillis 2 ∧ fine.formula 2 = .ofMillis 3 ∧
        ¬(fine.ceiling 2).Near (fine.formula 2)) ∧
      (patient.ceiling 33 = .ofMillis (2 ^ 31) ∧ patient.formula 33 = .ofMillis (2 ^ 32) ∧
        ¬(patient.ceiling 33).Near (patient.formula 33)) ∧
      endless.ceiling 1 = .ofMillis (2 ^ 64 - 1) ∧
      endless.formula 1 = .ofSeconds (2 ^ 64 - 1) ∧
      ¬(endless.ceiling 1).Near (endless.formula 1) := by
  decide

/-! ## The wait that is chosen -/

/-- The waits that can follow a failure of an attempt: the one that the service asks for, up to the
maximum; else the ceiling; else any whole number of milliseconds up to the ceiling. -/
inductive Gives (b : Backoff) (failure : Failure) (attempt : Nat) : Duration → Prop where
  | asked {wait : Duration} (hasked : failure.retryAfter = some wait) :
      Gives b failure attempt (min wait b.max)
  | fixed (hunasked : failure.retryAfter = none) (hjitter : b.jitter = .none) :
      Gives b failure attempt (b.ceiling attempt)
  | drawn {millis : Nat} (hunasked : failure.retryAfter = none) (hjitter : b.jitter = .full)
      (hle : millis ≤ (b.ceiling attempt).millis) :
      Gives b failure attempt (.ofMillis millis)

variable {failure : Failure} {wait : Duration}

/-- What the service asks for decides the wait. -/
theorem Gives.eq_min (hgives : b.Gives failure attempt wait) {asked : Duration}
    (hasked : failure.retryAfter = some asked) : wait = min asked b.max := by
  cases hgives with
  | asked hother =>
      obtain rfl := Option.some.inj (hasked.symm.trans hother)
      rfl
  | fixed hunasked | drawn hunasked =>
      rw [hasked] at hunasked
      cases hunasked

/-- If it asks for nothing, the ceiling bounds the wait, and is the wait without jitter. -/
theorem Gives.le_ceiling (hgives : b.Gives failure attempt wait)
    (hunasked : failure.retryAfter = none) :
    wait ≤ b.ceiling attempt ∧ (b.jitter = .none → wait = b.ceiling attempt) := by
  cases hgives with
  | asked hasked =>
      rw [hunasked] at hasked
      cases hasked
  | fixed => exact ⟨Nat.le_refl _, fun _ => rfl⟩
  | @drawn millis _ hjitter hle =>
      refine ⟨(Nat.le_div_iff_mul_le (by decide)).1 hle, fun hnone => ?_⟩
      rw [hjitter] at hnone
      cases hnone

theorem Gives.le_max (hgives : b.Gives failure attempt wait) : wait ≤ b.max := by
  cases hasked : failure.retryAfter with
  | some asked =>
      rw [hgives.eq_min hasked]
      exact Nat.min_le_right _ _
  | none => exact Nat.le_trans (hgives.le_ceiling hasked).1 (b.ceiling_le_max attempt)

/-- These are the waits that are drawn, and all of them are. -/
theorem gives_iff :
    b.Gives failure attempt wait ↔ ∃ draw, (b.delay failure attempt).resolve draw = wait := by
  constructor
  · intro hgives
    cases hgives with
    | asked hasked => exact ⟨0, by rw [delay, hasked]; rfl⟩
    | fixed hunasked hjitter => exact ⟨0, by rw [delay, hunasked, hjitter]; rfl⟩
    | @drawn millis hunasked hjitter hle =>
        refine ⟨millis, ?_⟩
        rw [delay, hunasked, hjitter]
        exact Delay.resolve_of_le hle
  · rintro ⟨draw, rfl⟩
    unfold delay
    split
    · next hasked => exact .asked hasked
    · next hunasked =>
        split
        · next hjitter => exact .fixed hunasked hjitter
        · next hjitter =>
            obtain ⟨millis, hle, hdrawn⟩ := Delay.exists_resolve_eq (b.ceiling attempt) draw
            rw [hdrawn]
            exact .drawn hunasked hjitter hle

theorem gives_resolve (b : Backoff) (failure : Failure) (attempt draw : Nat) :
    b.Gives failure attempt ((b.delay failure attempt).resolve draw) := gives_iff.2 ⟨draw, rfl⟩

end Backoff

end ServiceCall
