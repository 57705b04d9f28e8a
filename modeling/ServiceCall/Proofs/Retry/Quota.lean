import Mathlib.Algebra.Ring.Nat
import ServiceCall.Retry.Strategy
import ServiceCall.Text.Numeral

/-!
# What the standard strategy does to its quota

An acquisition is all or nothing, a release is capped, and the judgment of the standard strategy
stops, is denied or pays.  Later modules take these cases from here and do not open the
definitions again.
-/

namespace ServiceCall

namespace Quota

@[simp] theorem available_new (capacity : Nat) : (new capacity).available = capacity := rfl

theorem available_release (q : Quota) (amount : Nat) :
    (q.release amount).available = min (q.available + amount) q.capacity := rfl

/-- A machine word cannot hold every sum, so a program adds with saturation before it caps.  For a
capacity that fits a word this comes to the same. -/
theorem available_release_of_capacity_lt (q : Quota) (amount : Nat)
    (hcapacity : q.capacity < Numeral.wordLimit) :
    (q.release amount).available =
      min (min (q.available + amount) (Numeral.wordLimit - 1)) q.capacity := by
  have hfits : q.capacity ≤ Numeral.wordLimit - 1 := Nat.le_sub_one_of_lt hcapacity
  rw [available_release, Nat.min_assoc, Nat.min_eq_right hfits]

/-- What an acquisition can come to. -/
inductive Acquires (q : Quota) (cost : Nat) : Bool → Quota → Prop where
  | granted (rest : Quota) (hcapacity : rest.capacity = q.capacity)
      (hpaid : rest.available + cost = q.available) : Acquires q cost true rest
  | refused (hshort : q.available < cost) : Acquires q cost false q

theorem acquires_tryAcquire (q : Quota) (cost : Nat) :
    q.Acquires cost (q.tryAcquire cost).1 (q.tryAcquire cost).2 := by
  rw [tryAcquire]
  by_cases hcost : cost ≤ q.available
  · rw [if_pos hcost]
    exact .granted _ rfl (Nat.sub_add_cancel hcost)
  · rw [if_neg hcost]
    exact .refused (Nat.lt_of_not_le hcost)

end Quota

/-- One bucket is what another has left after it paid for retries of these kinds. -/
structure Costs.Pays (costs : Costs) (before : Quota) (kinds : List Kind) (after : Quota) :
    Prop where
  capacity : after.capacity = before.capacity
  paid : after.available + (kinds.map costs.of).sum = before.available

namespace Costs.Pays

variable {costs : Costs} {before between after : Quota} {kinds later : List Kind}

theorem refl (costs : Costs) (quota : Quota) : costs.Pays quota [] quota := ⟨rfl, rfl⟩

theorem append (hfirst : costs.Pays before kinds between)
    (hsecond : costs.Pays between later after) : costs.Pays before (kinds ++ later) after where
  capacity := hsecond.capacity.trans hfirst.capacity
  paid := by
    have hbefore := hfirst.paid
    have hbetween := hsecond.paid
    rw [List.map_append, List.sum_append]
    omega

theorem sum_le (hpays : costs.Pays before kinds after) :
    (kinds.map costs.of).sum ≤ before.available := hpays.paid ▸ Nat.le_add_left _ _

theorem available_eq (hpays : costs.Pays before kinds after) :
    after.available = before.available - (kinds.map costs.of).sum :=
  Nat.eq_sub_of_add_eq hpays.paid

end Costs.Pays

namespace Standard

@[simp] theorem judge_strategy (rules : RetryRules) (costs : Costs) :
    (strategy rules costs).judge = judge rules costs := rfl

@[simp] theorem delay_strategy (rules : RetryRules) (costs : Costs) (failure : Failure)
    (attempt : Nat) (quota : Quota) :
    (strategy rules costs).delay failure attempt quota =
      (rules.backoff.delay failure attempt, quota) := rfl

@[simp] theorem credit_strategy (rules : RetryRules) (costs : Costs) (retried : Option Kind)
    (quota : Quota) :
    (strategy rules costs).credit retried quota = quota.release (costs.credit retried) := rfl

/-- What a judgment can come to: the rules say no and nothing is taken, the tokens do not suffice
and nothing is taken, or the cost of the failure's kind is paid. -/
inductive Judges (rules : RetryRules) (costs : Costs) (failure : Failure) (attempt : Nat)
    (quota : Quota) : Verdict → Quota → Prop where
  | stopped (hallows : rules.allows failure attempt = false) :
      Judges rules costs failure attempt quota .stop quota
  | denied (hallows : rules.allows failure attempt = true)
      (hshort : quota.available < costs.of failure.kind) :
      Judges rules costs failure attempt quota (.denied .quotaExhausted) quota
  | paid (rest : Quota) (hallows : rules.allows failure attempt = true)
      (hpays : costs.Pays quota [failure.kind] rest) :
      Judges rules costs failure attempt quota .retry rest

theorem judges_judge (rules : RetryRules) (costs : Costs) (failure : Failure) (attempt : Nat)
    (quota : Quota) :
    Judges rules costs failure attempt quota (judge rules costs failure attempt quota).1
      (judge rules costs failure attempt quota).2 := by
  rw [judge]
  by_cases hallows : rules.allows failure attempt = true
  · rw [if_pos hallows]
    have hacquires := quota.acquires_tryAcquire (costs.of failure.kind)
    rcases hacquired : quota.tryAcquire (costs.of failure.kind) with ⟨granted, rest⟩
    rw [hacquired] at hacquires
    cases hacquires with
    | granted _ hcapacity hpaid => exact .paid rest hallows ⟨hcapacity, hpaid⟩
    | refused hshort => exact .denied hallows hshort
  · rw [if_neg hallows]
    exact .stopped (Bool.eq_false_iff.mpr hallows)

end Standard

end ServiceCall
