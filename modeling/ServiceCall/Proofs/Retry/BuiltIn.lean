import ServiceCall.Proofs.Retry.Quota

/-!
# The strategies of the library

The two strategies judge by the same rules and differ in what a retry costs.  The older one charges
nothing, and no bucket holds less than nothing, so a retry of it is never denied.  What follows is
therefore stated once for both.
-/

namespace ServiceCall

inductive BuiltIn where
  | legacy (rules : RetryRules)
  | standard (rules : RetryRules) (costs : Costs)

namespace BuiltIn

def rules : BuiltIn → RetryRules
  | legacy rules | standard rules _ => rules

def strategy : BuiltIn → RetryStrategy Quota
  | legacy rules => Legacy.strategy rules
  | standard rules costs => Standard.strategy rules costs

def cost : BuiltIn → Kind → Nat
  | legacy _, _ => 0
  | standard _ costs, kind => costs.of kind

@[simp] theorem limit_strategy (s : BuiltIn) (quota : Quota) :
    s.strategy.limit quota = s.rules.limit := by
  cases s with
  | legacy | standard => rfl

/-- What a judgment can come to. -/
inductive Judges (s : BuiltIn) (failure : Failure) (attempt : Nat) (quota : Quota) :
    Verdict → Quota → Prop where
  | stopped (hallows : s.rules.allows failure attempt = false) :
      Judges s failure attempt quota .stop quota
  | denied (hallows : s.rules.allows failure attempt = true)
      (hshort : quota.available < s.cost failure.kind) :
      Judges s failure attempt quota (.denied .quotaExhausted) quota
  | paid (rest : Quota) (hallows : s.rules.allows failure attempt = true)
      (hpaid : rest.available + s.cost failure.kind = quota.available) :
      Judges s failure attempt quota .retry rest

theorem judges_judge (s : BuiltIn) (failure : Failure) (attempt : Nat) (quota : Quota) :
    Judges s failure attempt quota (s.strategy.judge failure attempt quota).1
      (s.strategy.judge failure attempt quota).2 := by
  cases s with
  | legacy rules =>
      change Judges _ failure attempt quota
        (if rules.allows failure attempt then .retry else .stop) quota
      by_cases hallows : rules.allows failure attempt = true
      · rw [if_pos hallows]
        exact .paid quota hallows rfl
      · rw [if_neg hallows]
        exact .stopped (Bool.eq_false_iff.mpr hallows)
  | standard rules costs =>
      change Judges _ failure attempt quota (Standard.judge rules costs failure attempt quota).1
        (Standard.judge rules costs failure attempt quota).2
      have hjudges := Standard.judges_judge rules costs failure attempt quota
      generalize Standard.judge rules costs failure attempt quota = judged at hjudges ⊢
      obtain ⟨verdict, rest⟩ := judged
      cases hjudges with
      | stopped hallows => exact .stopped hallows
      | denied hallows hshort => exact .denied hallows hshort
      | paid _ hallows hpays => exact .paid rest hallows hpays.paid

/-- Choosing a wait takes nothing. -/
theorem delay_strategy (s : BuiltIn) (failure : Failure) (attempt : Nat) (quota : Quota) :
    (s.strategy.delay failure attempt quota).2 = quota := by
  cases s with
  | legacy | standard => rfl

/-- And the wait is the backoff's, whatever the quota. -/
theorem delay_backoff (s : BuiltIn) (failure : Failure) (attempt : Nat) (quota : Quota) :
    (s.strategy.delay failure attempt quota).1 = s.rules.backoff.delay failure attempt := by
  cases s with
  | legacy | standard => rfl

end BuiltIn

end ServiceCall
