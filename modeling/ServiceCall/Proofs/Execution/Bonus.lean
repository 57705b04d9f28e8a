import ServiceCall.Proofs.Execution.Setbacks
import ServiceCall.Rehearsal.Plain

/-!
# The retry for a wrong clock

The first correction of the clock in a call gives it one more attempt at once.  The strategy has no
part in that: it is not asked, its state stays as it is, and a later success is credited for the
same kind as before.  Every later correction moves the offset too, but its failure goes to the
strategy like any other.
-/

namespace ServiceCall

namespace Journal

/-- A retry without the strategy has no verdict, and any other has the verdict to retry. -/
def Accounts (j : Journal) (r : Scheduled) : Prop :=
  if r.bonus then r.attempt ∉ j.judgments else Entry.judged r.attempt r.kind .retry ∈ j

/-- The journal of a run from attempt `n` on, of which it is told whether the retry for a wrong
clock is used. -/
structure Sparing (used : Bool) (n : Nat) (j : Journal) : Prop where
  bonus : j.retries.countP (·.bonus) ≤ if used then 0 else 1
  attempts : ∀ r ∈ j.retries, n ≤ r.attempt
  judgments : ∀ k ∈ j.judgments, n ≤ k
  accounts : ∀ r ∈ j.retries, j.Accounts r

/-- The journal of a pass in attempt `n` that schedules a retry. -/
structure Renews (n : Nat) (j : Journal) (r : Scheduled) : Prop where
  retries : j.retries = [r]
  attempt : r.attempt = n
  judgments : ∀ k ∈ j.judgments, k = n
  accounts : j.Accounts r

variable {used : Bool} {n : Nat} {j rest : Journal} {r : Scheduled}

theorem Accounts.append_right (haccounts : j.Accounts r) (hrest : r.attempt ∉ rest.judgments) :
    (j ++ rest).Accounts r := by
  unfold Accounts at haccounts ⊢
  split at haccounts
  · rw [if_pos ‹_›, judgments_append, List.mem_append, not_or]
    exact ⟨haccounts, hrest⟩
  · rw [if_neg ‹_›]
    exact List.mem_append_left rest haccounts

theorem Accounts.append_left (haccounts : rest.Accounts r) (hj : r.attempt ∉ j.judgments) :
    (j ++ rest).Accounts r := by
  unfold Accounts at haccounts ⊢
  split at haccounts
  · rw [if_pos ‹_›, judgments_append, List.mem_append, not_or]
    exact ⟨hj, haccounts⟩
  · rw [if_neg ‹_›]
    exact List.mem_append_right j haccounts

/-- A run that ends in this pass schedules nothing. -/
theorem Sparing.last (hretries : j.retries = []) (hjudgments : ∀ k ∈ j.judgments, k = n) :
    j.Sparing used n where
  bonus := by
    rw [hretries]
    exact Nat.zero_le _
  attempts := by simp [hretries]
  judgments k hk := Nat.le_of_eq (hjudgments k hk).symm
  accounts := by simp [hretries]

/-- A retry and a run after it, in which the retry for a wrong clock is used if it was used here. -/
theorem Sparing.retry {used' : Bool} (hrenews : j.Renews n r)
    (hbonus : r.bonus = true → used = false ∧ used' = true) (hkept : used = true → used' = true)
    (hrest : rest.Sparing used' (n + 1)) : (j ++ rest).Sparing used n where
  bonus := by
    have hlater := hrest.bonus
    rw [retries_append, hrenews.retries, List.countP_append, List.countP_singleton]
    cases hr : r.bonus with
    | true =>
        obtain ⟨rfl, rfl⟩ := hbonus hr
        rw [if_pos rfl] at hlater
        rw [Nat.le_zero.1 hlater]
        exact Nat.le_refl 1
    | false =>
        rw [if_neg Bool.false_ne_true, Nat.zero_add]
        apply Nat.le_trans hlater
        cases used with
        | true => exact Nat.le_of_eq (if_pos (hkept rfl))
        | false => split <;> decide
  attempts := by
    intro other hother
    rw [retries_append, hrenews.retries, List.singleton_append, List.mem_cons] at hother
    rcases hother with rfl | hother
    · exact Nat.le_of_eq hrenews.attempt.symm
    · exact Nat.le_of_succ_le (hrest.attempts other hother)
  judgments := by
    intro k hk
    rw [judgments_append, List.mem_append] at hk
    rcases hk with hk | hk
    · exact Nat.le_of_eq (hrenews.judgments k hk).symm
    · exact Nat.le_of_succ_le (hrest.judgments k hk)
  accounts := by
    intro other hother
    rw [retries_append, hrenews.retries, List.singleton_append, List.mem_cons] at hother
    rcases hother with rfl | hother
    · apply hrenews.accounts.append_right
      intro hlater
      have hlate := hrest.judgments _ hlater
      rw [hrenews.attempt] at hlate
      exact Nat.not_succ_le_self n hlate
    · apply (hrest.accounts other hother).append_left
      intro hearlier
      have hlate := hrest.attempts other hother
      rw [hrenews.judgments _ hearlier] at hlate
      exact Nat.not_succ_le_self n hlate

end Journal

/-- A wait of nothing fits what is left of the budget, if anything is. -/
theorem Budget.wait_zero (total : Option Duration) (elapsed : Duration) :
    Budget.wait .zero total elapsed =
      if ∃ limit, total = some limit ∧ limit ≤ elapsed then none else some .zero := by
  cases total with
  | none => simp [Budget.wait]
  | some limit =>
      have hlt : elapsed + .zero < limit ↔ ¬limit ≤ elapsed := Nat.not_le.symm
      simp only [Budget.wait, hlt, ite_not, Option.some.injEq, exists_eq_left']

namespace Plan

variable {τ σ : Type} {p : Plan τ σ} {left : Nat} {context ruled following : Context}
  {m after : Machine τ σ} {journal : Journal} {failure : Failure} {s : Setback τ σ}
  {signedAt receivedAt : Instant} {planned : Delay} {wait : Duration} {bonus : Bool}

/-! ## The account of a call -/

/-- How a retry is wanted: for a wrong clock, or by the strategy's verdict. -/
inductive Wants (p : Plan τ σ) (context : Context) (failure : Failure)
    (signedAt receivedAt : Instant) (m : Machine τ σ) :
    Delay → Duration → Bool → Context → Journal → Machine τ σ → Prop where
  | bonus {k : Correction} {skew : SkewState}
      (hobserve : p.client.corrector.observe m.skew failure signedAt receivedAt = (some k, skew))
      (hunused : context.bonusUsed = false) :
      Wants p context failure signedAt receivedAt m (.exact .zero) .zero true
        { context with bonusUsed := true } [.corrected k, .granted context.info.attempt]
        { m with skew }
  | approved {planned : Delay} {wait : Duration} {correction : Option Correction}
      {after : Machine τ σ} :
      Wants p context failure signedAt receivedAt m planned wait false
        { context with retriedKind := some failure.kind }
        (correction.toList.map .corrected ++ [.judged context.info.attempt failure.kind .retry])
        after

theorem Rules.wants (hrules : p.Rules context failure signedAt receivedAt m
      ⟨(.again planned wait bonus, ruled), journal, after⟩) :
    p.Wants context failure signedAt receivedAt m planned wait bonus ruled journal after := by
  generalize hmade : (⟨(.again planned wait bonus, ruled), journal, after⟩ :
    Traced τ σ (Ruling × Context)) = made at hrules
  cases hrules with
  | terminal hterminal => cases hmade
  | granted hterminal hobserve hunused =>
      cases hmade
      exact .bonus hobserve hunused
  | judged hterminal hobserve hplain hjudges =>
      cases hjudges with
      | stopped hjudge | denied hjudge => cases hmade
      | approved hjudge hdelay hdrawn =>
          cases hmade
          exact .approved

/-- A pass that schedules a retry accounts for it. -/
theorem Fails.renews {scheduling : Journal} {later : Machine τ σ}
    (hfails : p.Fails context m failure ⟨(.again planned wait bonus, ruled), journal, after⟩)
    (hschedules : p.Schedules ruled failure planned wait bonus after
      ⟨.ok following, scheduling, later⟩) :
    (∃ r : Scheduled, r.bonus = bonus ∧ (journal ++ scheduling).Renews context.info.attempt r) ∧
      following.info.attempt = context.info.attempt + 1 ∧
      (bonus = true → context.bonusUsed = false ∧ following.bonusUsed = true) ∧
      (context.bonusUsed = true → following.bonusUsed = true) := by
  have hkept := hfails.decided
  obtain ⟨_, _, attempted, _, noted, _, hattempts, hrules, rfl⟩ := hfails.parts
  obtain ⟨⟨-, hunjudged, -⟩, -, -⟩ := hattempts.undecided
  obtain ⟨hretries, hjudgments, hused⟩ := hkept
  have hwants := hrules.wants
  cases hschedules with
  | scheduled =>
      have hattempt : ruled.info.attempt = context.info.attempt := by
        cases hwants with
        | bonus | approved => rfl
      refine ⟨⟨⟨ruled.info.attempt, failure.kind, planned, wait, bonus⟩, rfl, ?_, hattempt, ?_, ?_⟩,
        congrArg (· + 1) hattempt, ?_, fun hearlier => hused.2 (.inl hearlier)⟩
      · rw [Journal.retries_append, hretries]
        rfl
      · rw [Journal.judgments_append]
        intro k hk
        rcases List.mem_append.1 hk with hk | hk
        · exact hjudgments k hk
        · cases hk
      · cases hwants with
        | bonus hobserve hunused =>
            have hopened : Journal.judgments
                (.opened context.info.attempt context.info.limit :: attempted) = [] := hunjudged
            rw [Journal.Accounts, if_pos rfl, Journal.judgments_append, Journal.judgments_append,
              hopened]
            exact List.not_mem_nil
        | approved =>
            rw [Journal.Accounts, if_neg Bool.false_ne_true]
            apply List.mem_append_left
            apply List.mem_append_right
            exact List.mem_append_right _ (List.mem_singleton_self _)
      · rintro rfl
        cases hwants with
        | bonus hobserve hunused => exact ⟨hunused, rfl⟩

theorem Stops.sparing {ran : Traced τ σ Ending} (hstops : p.Stops left context m ran) :
    ran.journal.Sparing context.bonusUsed context.info.attempt := by
  cases hstops with
  | cancelled => exact .last rfl (by simp [giveUp, Journal.judgments, Entry.judged?])
  | ended hopen hattempts =>
      cases hattempts with
      | unbuilt | unsigned | overBudget | interrupted | succeeded =>
          exact .last rfl fun k hk => absurd hk List.not_mem_nil
  | refused hfails | lastAttempt _ hfails =>
      obtain ⟨hretries, hjudgments, -⟩ := hfails.decided
      apply Journal.Sparing.last
      · rw [giveUp, Journal.retries_append, hretries]
        rfl
      · rw [giveUp, Journal.judgments_append]
        simpa [Journal.judgments, Entry.judged?] using hjudgments
  | overBudget _ hfails hschedules =>
      obtain ⟨hretries, hjudgments, -⟩ := hfails.decided
      cases hschedules with
      | overBudget =>
          apply Journal.Sparing.last
          · rw [Journal.retries_append, hretries]
            rfl
          · rw [Journal.judgments_append]
            simpa [Journal.judgments, Entry.judged?] using hjudgments
  | interrupted _ hfails hschedules hpause =>
      obtain ⟨⟨r, hr, hrenews⟩, -, hbonus, hkept⟩ := hfails.renews hschedules
      rw [← List.append_nil (_ ++ _)]
      exact .retry hrenews (fun h => hbonus (hr ▸ h)) hkept
        (.last rfl fun k hk => absurd hk List.not_mem_nil)

/-- A run asks the strategy about every retry but one, and that one is the first for a wrong
clock. -/
theorem Runs.sparing {ran : Traced τ σ Ending} (hruns : p.Runs left context m ran) :
    ran.journal.Sparing context.bonusUsed context.info.attempt := by
  induction hruns with
  | last hstops => exact hstops.sparing
  | again hretries hrest ih =>
      obtain ⟨hfails, hschedules, hpause⟩ := hretries
      obtain ⟨⟨r, hr, hrenews⟩, hattempt, hbonus, hkept⟩ := hfails.renews hschedules
      rw [hattempt] at ih
      exact .retry hrenews (fun h => hbonus (hr ▸ h)) hkept ih

/-! ## The retry without the strategy -/

/-- The same plan on a client of another strategy. -/
def withStrategy (p : Plan τ σ) (strategy : RetryStrategy τ) : Plan τ σ :=
  { p with client := { p.client with strategy } }

/-- Whether the time for the whole call is used up in a world. -/
def Exhausted (p : Plan τ σ) (world : σ) : Prop :=
  ∃ total, p.client.defaults.totalTimeout = some total ∧ total ≤ (p.elapsed world).1

/-- A setback that gets the retry for a wrong clock, and the run that comes to it. -/
structure Bonus (p : Plan τ σ) (s : Setback τ σ) (k : Correction) (ran : Traced τ σ Ending) :
    Prop where
  /-- Whatever the strategy is, it has no part in the ruling. -/
  unasked : ∀ strategy, (p.withStrategy strategy).ruling s =
    ⟨(.again (.exact .zero) .zero true, { s.context with bonusUsed := true }),
      [.corrected k, .granted s.context.info.attempt], { s.after with skew := (p.observed s).2 }⟩
  unpaid : s.after.strategy = s.start.strategy
  last : s.context.info.attempt = s.context.info.limit →
    ran.value.result = .error s.failure ∧
      ran.journal = s.sofar ++ [.corrected k, .granted s.context.info.attempt, .entered .failed]
  exhausted : s.context.info.attempt < s.context.info.limit → p.Exhausted s.after.world →
    ran.value.result = .error (Budget.exhausted p.client.defaults.totalTimeout) ∧
      ran.journal = s.sofar ++ [.corrected k, .granted s.context.info.attempt, .entered .failed]
  goes : s.context.info.attempt < s.context.info.limit → ¬p.Exhausted s.after.world →
    ∃ left following next, ran = { p.run left following next with
        journal := s.sofar ++
          [.corrected k, .granted s.context.info.attempt,
            .scheduled ⟨s.context.info.attempt, s.failure.kind, .exact .zero, .zero, true⟩,
            .entered .retrying] ++ (p.run left following next).journal } ∧
      following.info.attempt = s.context.info.attempt + 1 ∧
      following.retriedKind = s.context.retriedKind ∧
      next.strategy = s.start.strategy ∧ next.skew.offset = k.offset

/-- The ruling on a setback that calls for a correction while none was made before. -/
theorem Meets.rules_granted (hmeets : p.Meets left context m s)
    (hunused : s.context.bonusUsed = false) {k : Correction}
    (hobserve : (p.observed s).1 = some k) (strategy : RetryStrategy τ) :
    (p.withStrategy strategy).Rules s.context s.failure s.signedAt s.receivedAt s.after
      ⟨(.again (.exact .zero) .zero true, { s.context with bonusUsed := true }),
        [.corrected k, .granted s.context.info.attempt],
        { s.after with skew := (p.observed s).2 }⟩ := by
  obtain ⟨-, -, hattempts⟩ := hmeets
  obtain ⟨-, hfresh, -⟩ := hattempts.undecided
  exact .granted hfresh.isTerminal (Prod.ext hobserve rfl) hunused

/-- A retry without a wait is made while there is time left. -/
theorem Fails.goes_at_once {planned : Delay}
    (hfails : p.Fails context m failure ⟨(.again planned .zero bonus, ruled), journal, after⟩)
    (hremains : ¬p.Exhausted after.world) :
    ∃ following next,
      p.Retries context m ⟨following, journal ++
        [.scheduled ⟨ruled.info.attempt, failure.kind, planned, .zero, bonus⟩,
          .entered .retrying], next⟩ ∧
      following.info.attempt = ruled.info.attempt + 1 ∧
      following.retriedKind = ruled.retriedKind ∧
      next.strategy = after.strategy ∧ next.skew = after.skew := by
  have hwait := (Budget.wait_zero p.client.defaults.totalTimeout _).trans (if_neg hremains)
  obtain ⟨reference, world, hreference⟩ := p.reference_frame failure
    { after with world := (p.elapsed after.world).2 }
  exact ⟨_, _, .intro hfails (.scheduled rfl hwait hreference) rfl, rfl, rfl, rfl, rfl⟩

theorem Meets.gets_bonus (hmeets : p.Meets left context m s)
    (hleft : left + context.info.attempt = context.info.limit)
    (hunused : s.context.bonusUsed = false) {k : Correction}
    (hobserve : (p.observed s).1 = some k) : p.Bonus s k (p.run left context m) := by
  have hcount := hmeets.left_add hleft
  have hrules := hmeets.rules_granted hunused hobserve
  have hskew := Corrector.observe_of_eq_some hobserve
  generalize hobserved : (p.observed s).2 = skew at hrules
  obtain @⟨before, attempted, later, reached, start, after, failure, _, _, hreaches, hopen,
    hattempts⟩ := hmeets
  have hcount : later + reached.info.attempt = reached.info.limit := hcount
  obtain ⟨-, -, hstrategy⟩ := hattempts.undecided
  have hfails := Fails.intro hopen hattempts (hrules p.client.strategy)
  refine ⟨fun strategy => hobserved ▸ (hrules strategy).eq_rule.symm, hstrategy, ?_, ?_, ?_⟩
  · intro (hlast : reached.info.attempt = reached.info.limit)
    have hzero : later = 0 := by omega
    have hran := (Stops.lastAttempt hzero hfails).eq_run
    rw [hreaches.run_eq, ← hran]
    refine ⟨rfl, ?_⟩
    simp [giveUp]
  · intro (hmore : reached.info.attempt < reached.info.limit) hexhausted
    have hpositive : 0 < later := by omega
    have hwait := (Budget.wait_zero p.client.defaults.totalTimeout _).trans (if_pos hexhausted)
    have hran := (Stops.overBudget hpositive hfails (.overBudget rfl hwait)).eq_run
    rw [hreaches.run_eq, ← hran]
    refine ⟨rfl, ?_⟩
    simp
  · intro (hmore : reached.info.attempt < reached.info.limit) hremains
    obtain ⟨left, rfl⟩ : ∃ left, later = left + 1 := ⟨later - 1, by omega⟩
    obtain ⟨following, next, hretries, hattempt, hretried, hkept, hoffset⟩ :=
      hfails.goes_at_once hremains
    refine ⟨left, following, next, ?_, hattempt, hretried, hkept.trans hstrategy, ?_⟩
    · rw [hreaches.run_eq, hretries.run_eq]
      simp
    · rw [hoffset, ← hobserved, show (p.observed _).2 = _ from hskew]

/-- A retry for a wrong clock comes from a setback that calls for a correction before the retry is
used. -/
theorem Fails.meets (left : Nat)
    (hfails : p.Fails context m failure ⟨(.again planned wait true, ruled), journal, after⟩) :
    ∃ s, p.Meets left context m s ∧ s.context.bonusUsed = false ∧
      (∃ k, (p.observed s).1 = some k) ∧ s.failure = failure ∧
      s.context.info.attempt = ruled.info.attempt ∧ planned = .exact .zero ∧ wait = .zero := by
  obtain ⟨_, _, _, _, _, hopen, hattempts, hrules, -⟩ := hfails.parts
  refine ⟨_, .intro .start hopen hattempts, ?_⟩
  cases hrules.wants with
  | bonus hobserve hunused =>
      exact ⟨hunused, ⟨_, congrArg Prod.fst hobserve⟩, rfl, rfl, rfl, rfl⟩

/-- Where a retry for a wrong clock comes from. -/
structure Earns (p : Plan τ σ) (s : Setback τ σ) (r : Scheduled) : Prop where
  unused : s.context.bonusUsed = false
  corrects : ∃ k, (p.observed s).1 = some k
  eq : r = ⟨s.context.info.attempt, s.failure.kind, .exact .zero, .zero, true⟩

theorem Fails.earns {scheduling : Journal} {later : Machine τ σ} {r : Scheduled} (left : Nat)
    (hfails : p.Fails context m failure ⟨(.again planned wait bonus, ruled), journal, after⟩)
    (hschedules : p.Schedules ruled failure planned wait bonus after
      ⟨.ok following, scheduling, later⟩)
    (hr : r ∈ (journal ++ scheduling).retries) (hbonus : r.bonus = true) :
    ∃ s, p.Meets left context m s ∧ p.Earns s r := by
  obtain ⟨hretries, -, -⟩ := hfails.decided
  rw [Journal.retries_append, hretries, List.nil_append] at hr
  cases hschedules with
  | scheduled =>
      obtain rfl := List.mem_singleton.1 hr
      cases hbonus
      obtain ⟨s, hmeets, hunused, hcorrects, rfl, hattempt, rfl, rfl⟩ := hfails.meets left
      exact ⟨s, hmeets, hunused, hcorrects, by rw [hattempt]⟩

theorem Runs.earns {ran : Traced τ σ Ending} (hruns : p.Runs left context m ran) :
    ∀ r ∈ ran.journal.retries, r.bonus = true → ∃ s, p.Meets left context m s ∧ p.Earns s r := by
  induction hruns with
  | last hstops =>
      intro r hr hbonus
      cases hstops with
      | cancelled => cases hr
      | ended hopen hattempts =>
          cases hattempts with
          | unbuilt | unsigned | overBudget | interrupted | succeeded => cases hr
      | refused hfails | lastAttempt _ hfails =>
          rw [giveUp, Journal.retries_append, hfails.decided.1] at hr
          cases hr
      | overBudget _ hfails hschedules =>
          rw [Journal.retries_append, hfails.decided.1] at hr
          cases hschedules
          cases hr
      | interrupted _ hfails hschedules hpause => exact hfails.earns _ hschedules hr hbonus
  | again hretries hrest ih =>
      intro r hr hbonus
      rw [Journal.retries_append, List.mem_append] at hr
      rcases hr with hr | hr
      · obtain ⟨hfails, hschedules, hpause⟩ := hretries
        exact hfails.earns _ hschedules hr hbonus
      · obtain ⟨s, hmeets, hearns⟩ := ih r hr hbonus
        exact ⟨_, hmeets.retry hretries, hearns.unused, hearns.corrects, hearns.eq⟩

end Plan

namespace Execution

variable {τ σ : Type}

/-- An execution comes to a setback, by the plan that it follows. -/
inductive Meets (client : Client τ) (env : Environment σ) (call : Call) (id : InvocationId)
    (m : Machine τ σ) : Plan τ σ → Setback τ σ → Prop where
  | intro {signer : Signer} {s : Setback τ σ}
      (hsigner : client.signers.resolve call.signer = .ok signer)
      (hmeets : (plan client env call signer).Meets
        ((Context.first id (client.strategy.limit m.strategy)).info.limit - 1)
        (Context.first id (client.strategy.limit m.strategy)) m s) :
      Meets client env call id m (plan client env call signer) s

variable {client : Client τ} {env : Environment σ} {call : Call} {id : InvocationId}
  {m : Machine τ σ} {p : Plan τ σ} {s : Setback τ σ}

theorem retries_execute : (execute client env call id m).journal.retries =
    (attempts client env call id m).journal.retries :=
  filterMap_execute rfl (fun _ => rfl) client env call id m

theorem accounts_execute {r : Scheduled}
    (haccounts : (attempts client env call id m).journal.Accounts r) :
    (execute client env call id m).journal.Accounts r := by
  obtain ⟨s, hjournal⟩ := journal_execute client env call id m
  rw [hjournal]
  exact (haccounts.append_left List.not_mem_nil).append_right List.not_mem_nil

theorem sparing_attempts : (attempts client env call id m).journal.Sparing false 1 := by
  rcases attempts_cases client env call id m with ⟨failure, -, hran⟩ | ⟨signer, -, hruns⟩
  · rw [hran]
    exact .last rfl fun k hk => absurd hk List.not_mem_nil
  · exact hruns.sparing

theorem Meets.corrections_eq_nil_iff (hmeets : Meets client env call id m p s) :
    s.sofar.corrections = [] ↔ s.context.bonusUsed = false := by
  obtain ⟨-, hmeets⟩ := hmeets
  have hused := hmeets.bonusUsed_iff rfl
  rw [← Bool.not_eq_true, hused, ne_eq, Decidable.not_not]

theorem earns_attempts {r : Scheduled}
    (hr : r ∈ (attempts client env call id m).journal.retries) (hbonus : r.bonus = true) :
    ∃ p s, Meets client env call id m p s ∧ p.Earns s r ∧ s.sofar.corrections = [] := by
  rcases attempts_cases client env call id m with ⟨failure, -, hran⟩ | ⟨signer, hsigner, hruns⟩
  · rw [hran] at hr
    cases hr
  · obtain ⟨s, hmeets, hearns⟩ := hruns.earns r hr hbonus
    have hmeets := Meets.intro hsigner hmeets
    exact ⟨_, s, hmeets, hearns, hmeets.corrections_eq_nil_iff.2 hearns.unused⟩

theorem Meets.attempts_eq_run (hmeets : Meets client env call id m p s) :
    let first := Context.first id (client.strategy.limit m.strategy)
    attempts client env call id m = p.run (first.info.limit - 1) first m := by
  rcases hmeets with ⟨hsigner, -⟩
  exact Execution.attempts_eq_run hsigner

theorem Meets.gets_bonus (hmeets : Meets client env call id m p s) {k : Correction}
    (hobserve : (p.observed s).1 = some k) (hfirst : s.sofar.corrections = []) :
    p.Bonus s k (attempts client env call id m) := by
  have hunused := hmeets.corrections_eq_nil_iff.1 hfirst
  rw [hmeets.attempts_eq_run]
  obtain ⟨-, hmeets⟩ := hmeets
  refine hmeets.gets_bonus ?_ hunused hobserve
  rw [Context.attempt_first, Context.limit_first]
  exact Nat.sub_add_cancel (Nat.le_max_left 1 _)

/-- A call gets one retry for a wrong clock, whatever the strategy does.  At most one retry is
scheduled without a verdict, it follows the first setback that corrects the clock, and it follows
that one exactly if there is an attempt left and time for it.  Every other failure goes to the
strategy, also if it corrects the clock. -/
theorem execute_bonus (client : Client τ) (env : Environment σ) (call : Call) (id : InvocationId)
    (m : Machine τ σ) :
    let e := execute client env call id m
    let ran := attempts client env call id m
    e.journal.retries.countP (·.bonus) ≤ 1 ∧
      (∀ r ∈ e.journal.retries, e.journal.Accounts r) ∧
      (∀ r ∈ e.journal.retries, r.bonus = true → ∃ p s, Meets client env call id m p s ∧
        p.Earns s r ∧ s.sofar.corrections = []) ∧
      ∀ p s, Meets client env call id m p s →
        (∃ rest, ran.journal = s.sofar ++ (p.ruling s).journal ++ rest) ∧
          (∀ k, (p.observed s).1 = some k → (p.ruling s).machine.skew.offset = k.offset ∧
            (s.sofar.corrections = [] → p.Bonus s k ran)) ∧
          ((p.observed s).1 = none ∨ s.sofar.corrections ≠ [] → p.ruling s = p.judgment s) := by
  intro e ran
  have hsparing : ran.journal.Sparing false 1 := sparing_attempts
  rw [show e.journal.retries = ran.journal.retries from retries_execute]
  refine ⟨hsparing.bonus, ?_, fun r hr hbonus => earns_attempts hr hbonus, ?_⟩
  · intro r hr
    exact accounts_execute (hsparing.accounts r hr)
  · intro p s hmeets
    have hused := hmeets.corrections_eq_nil_iff
    have hran := hmeets.attempts_eq_run
    refine ⟨?_, fun k hobserve => ⟨?_, hmeets.gets_bonus hobserve⟩, fun hplain => ?_⟩
    · rcases hmeets with ⟨-, hmeets⟩
      rw [show ran = _ from hran]
      exact hmeets.journal_run
    · rcases hmeets with ⟨-, hmeets⟩
      exact hmeets.offset_ruling hobserve
    · rcases hmeets with ⟨-, hmeets⟩
      apply hmeets.ruling_eq_judgment
      rcases hplain with hnone | hlater
      · rw [hnone]
        rfl
      · rw [Bool.and_eq_false_iff, Bool.not_eq_false']
        exact .inr (by simpa using mt hused.2 hlater)

/-- A service that is an hour ahead refuses the first attempt, and the second one is made at once
and without a verdict. -/
theorem execute_bonus_plain :
    let client := Rehearsal.plainClient (Standard.strategy Standard.rules .standard)
    let m := Rehearsal.plainMachine .standard
      [.response Rehearsal.hourAhead, .response Rehearsal.plainResponse]
    let e := execute client Rehearsal.environment Rehearsal.plainCall .nil m
    e.journal.retries = [⟨1, .clientFault, .exact .zero, .zero, true⟩] ∧
      1 ∉ e.journal.judgments ∧
      ∃ p s k, Meets client Rehearsal.environment Rehearsal.plainCall .nil m p s ∧
        p.Bonus s k (attempts client Rehearsal.environment Rehearsal.plainCall .nil m) := by
  intro client m e
  have hretries : e.journal.retries = [⟨1, .clientFault, .exact .zero, .zero, true⟩] := by
    decide +kernel
  have hmem := List.mem_singleton_self (⟨1, .clientFault, .exact .zero, .zero, true⟩ : Scheduled)
  rw [← hretries] at hmem
  obtain ⟨-, haccounts, hearned, hsetbacks⟩ :=
    execute_bonus client Rehearsal.environment Rehearsal.plainCall .nil m
  obtain ⟨p, s, hmeets, hearns, hfirst⟩ := hearned _ hmem rfl
  obtain ⟨k, hobserve⟩ := hearns.corrects
  obtain ⟨-, hcorrected, -⟩ := hsetbacks p s hmeets
  exact ⟨hretries, haccounts _ hmem, p, s, k, hmeets, (hcorrected k hobserve).2 hfirst⟩

end Execution

end ServiceCall
