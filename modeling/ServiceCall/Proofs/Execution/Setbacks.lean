import ServiceCall.Proofs.Execution.Trace
import ServiceCall.Proofs.Outcomes
import ServiceCall.Proofs.Skew.Corrector

/-!
# Setbacks

An attempt that fails is a setback.  What a run does from there on, and what the loop decides about
it, is told apart from how the run came to it.
-/

namespace ServiceCall

variable {τ σ : Type}

/-- An attempt that failed, as a run comes to it. -/
structure Setback (τ σ : Type) where
  /-- How many attempts may come after it. -/
  left : Nat
  context : Context
  /-- All that was written down up to the failure. -/
  sofar : Journal
  failure : Failure
  signedAt : Instant
  receivedAt : Instant
  /-- The machine before the attempt. -/
  start : Machine τ σ
  /-- The machine after it. -/
  after : Machine τ σ

/-- A part of a pass in which nothing is corrected, judged or scheduled. -/
structure Journal.Undecided (j : Journal) : Prop where
  corrections : j.corrections = []
  judgments : j.judgments = []
  retries : j.retries = []

namespace Plan

/-- A run comes to a pass: with what was written down before it and with how many attempts to come
after it, and the context and the machine at which it begins. -/
inductive Reaches (p : Plan τ σ) (left : Nat) (context : Context) (m : Machine τ σ) :
    Journal → Nat → Context → Machine τ σ → Prop where
  | start : Reaches p left context m [] left context m
  | again {before journal : Journal} {later : Nat} {reached following : Context}
      {start after : Machine τ σ}
      (hreaches : Reaches p left context m before (later + 1) reached start)
      (hretries : p.Retries reached start ⟨following, journal, after⟩) :
      Reaches p left context m (before ++ journal) later following after

/-- A run comes to a setback. -/
inductive Meets (p : Plan τ σ) (left : Nat) (context : Context) (m : Machine τ σ) :
    Setback τ σ → Prop where
  | intro {before attempted : Journal} {later : Nat} {reached : Context}
      {start after : Machine τ σ} {failure : Failure} {signedAt receivedAt : Instant}
      (hreaches : p.Reaches left context m before later reached start)
      (hopen : p.env.cancelled start.world = false)
      (hattempts : p.Attempts (reached.withOffset start.skew.offset) start
        ⟨.broken failure signedAt receivedAt, attempted, after⟩) :
      Meets p left context m
        { left := later
          context := reached.withOffset start.skew.offset
          sofar :=
            before ++ .opened reached.info.attempt reached.info.limit :: attempted
          failure, signedAt, receivedAt, start, after }

/-- What the loop decides about a setback. -/
def ruling (p : Plan τ σ) (s : Setback τ σ) : Traced τ σ (Ruling × Context) :=
  p.rule s.context s.failure s.signedAt s.receivedAt s.after

/-- The correction that a setback calls for, and the state of the offset after it. -/
def observed (p : Plan τ σ) (s : Setback τ σ) : Option Correction × SkewState :=
  p.client.corrector.observe s.after.skew s.failure s.signedAt s.receivedAt

/-- The strategy's ruling on a setback, after the correction if there is one. -/
def judgment (p : Plan τ σ) (s : Setback τ σ) : Traced τ σ (Ruling × Context) :=
  let (correction, skew) := p.observed s
  let judged := p.judge s.context s.failure { s.after with skew }
  { judged with journal := correction.toList.map .corrected ++ judged.journal }

variable {p : Plan τ σ} {left later : Nat} {context reached following : Context}
  {m start after : Machine τ σ} {before journal : Journal} {failure : Failure} {s : Setback τ σ}
  {signedAt receivedAt : Instant}

/-! ## Coming to a pass -/

/-- What a run does from a pass on is a run of its own. -/
theorem Reaches.run_eq (hreaches : p.Reaches left context m before later reached start) :
    p.run left context m = { p.run later reached start with
      journal := before ++ (p.run later reached start).journal } := by
  induction hreaches with
  | start => rfl
  | again hreaches hretries ih =>
      rw [ih, hretries.run_eq, List.append_assoc]

theorem Reaches.retry (hretries : p.Retries context m ⟨following, journal, after⟩)
    (hreaches : p.Reaches left following after before later reached start) :
    p.Reaches (left + 1) context m (journal ++ before) later reached start := by
  induction hreaches with
  | start =>
      rw [List.append_nil]
      exact .again .start hretries
  | again _ hnext ih =>
      rw [← List.append_assoc]
      exact .again ih hnext

theorem Meets.retry (hretries : p.Retries context m ⟨following, journal, after⟩)
    (hmeets : p.Meets left following after s) :
    p.Meets (left + 1) context m { s with sofar := journal ++ s.sofar } := by
  obtain ⟨hreaches, hopen, hattempts⟩ := hmeets
  rw [← List.append_assoc]
  exact .intro (hreaches.retry hretries) hopen hattempts

/-! ## One pass -/

/-- A failed attempt decides nothing yet, and its failure is as classification made it. -/
theorem Attempts.undecided (hattempts : p.Attempts context m
      ⟨.broken failure signedAt receivedAt, journal, after⟩) :
    journal.Undecided ∧ failure.Fresh ∧ after.strategy = m.strategy := by
  cases hattempts with
  | broken hhears houtcome =>
      exact ⟨⟨rfl, rfl, rfl⟩, Reply.fresh_of_outcome_eq_error houtcome, rfl⟩

/-- The part of a ruling in the account of a call. -/
theorem Rules.decided {ruled : Traced τ σ (Ruling × Context)}
    (hrules : p.Rules context failure signedAt receivedAt m ruled) :
    ruled.journal.retries = [] ∧
      (∀ k ∈ ruled.journal.judgments, k = context.info.attempt) ∧
      (ruled.value.2.bonusUsed = true ↔
        context.bonusUsed = true ∨ ruled.journal.corrections ≠ []) := by
  cases hrules with
  | terminal => simp [Journal.retries, Journal.judgments, Journal.corrections]
  | granted => simp [Journal.retries, Journal.judgments, Journal.corrections, Entry.scheduled?,
      Entry.judged?, Entry.corrected?]
  | @judged correction _ _ hterminal hobserve hplain hjudges =>
      have hused : context.bonusUsed = true ↔
          context.bonusUsed = true ∨ correction.toList ≠ [] := by
        cases correction with
        | none => simp
        | some k => simpa using hplain
      cases hjudges with
      | stopped | denied | approved =>
          simp only [Journal.retries_append, Journal.retries_corrected, Journal.judgments_append,
            Journal.judgments_corrected, Journal.corrections_append,
            Journal.corrections_corrected]
          refine ⟨rfl, fun k hk => List.mem_singleton.1 hk, hused.trans ?_⟩
          rw [show Journal.corrections [.judged ..] = [] from rfl, List.append_nil]

theorem Fails.decided {ruled : Traced τ σ (Ruling × Context)}
    (hfails : p.Fails context m failure ruled) :
    ruled.journal.retries = [] ∧
      (∀ k ∈ ruled.journal.judgments, k = context.info.attempt) ∧
      (ruled.value.2.bonusUsed = true ↔
        context.bonusUsed = true ∨ ruled.journal.corrections ≠ []) := by
  obtain ⟨_, _, attempted, _, noted, _, hattempts, hrules, hjournal⟩ := hfails.parts
  obtain ⟨hundecided, -, -⟩ := hattempts.undecided
  have hdecided := hrules.decided
  have hsilent : Journal.Undecided
      (.opened context.info.attempt context.info.limit :: attempted) :=
    ⟨hundecided.corrections, hundecided.judgments, hundecided.retries⟩
  rw [hjournal, Journal.retries_append, Journal.judgments_append, Journal.corrections_append,
    hsilent.retries, hsilent.judgments, hsilent.corrections]
  exact hdecided

/-! ## The way to a setback -/

/-- What a retry passes on to the next pass. -/
theorem Retries.passes (hretries : p.Retries context m ⟨following, journal, after⟩) :
    following.info.attempt = context.info.attempt + 1 ∧
      following.info.limit = context.info.limit ∧
      (following.bonusUsed = true ↔ context.bonusUsed = true ∨ journal.corrections ≠ []) := by
  obtain ⟨hfails, hschedules, hpause⟩ := hretries
  obtain ⟨hinfo, -⟩ := hfails.milestones
  obtain ⟨-, -, hused⟩ := hfails.decided
  cases hschedules with
  | scheduled =>
      rw [Journal.corrections_append]
      refine ⟨congrArg (·.attempt + 1) hinfo, congrArg (·.limit) hinfo, hused.trans ?_⟩
      rw [show Journal.corrections [.scheduled _, _] = [] from rfl, List.append_nil]

/-- The attempts that may come and those that came are as many as the limit. -/
theorem Reaches.left_add (hreaches : p.Reaches left context m before later reached start)
    (hleft : left + context.info.attempt = context.info.limit) :
    later + reached.info.attempt = reached.info.limit := by
  induction hreaches with
  | start => exact hleft
  | again _ hretries ih =>
      obtain ⟨hattempt, hlimit, -⟩ := hretries.passes
      rw [hattempt, hlimit, ← ih]
      omega

/-- The retry for a wrong clock is used once there was a correction. -/
theorem Reaches.bonusUsed_iff (hreaches : p.Reaches left context m before later reached start)
    (hunused : context.bonusUsed = false) :
    reached.bonusUsed = true ↔ before.corrections ≠ [] := by
  induction hreaches with
  | start => simp [hunused, Journal.corrections]
  | again _ hretries ih =>
      obtain ⟨-, -, hused⟩ := hretries.passes
      rw [hused, ih, Journal.corrections_append, ne_eq, ne_eq, ne_eq, List.append_eq_nil_iff,
        Decidable.not_and_iff_not_or_not]

theorem Meets.left_add (hmeets : p.Meets left context m s)
    (hleft : left + context.info.attempt = context.info.limit) :
    s.left + s.context.info.attempt = s.context.info.limit := by
  obtain ⟨hreaches, -, -⟩ := hmeets
  exact hreaches.left_add hleft

theorem Meets.bonusUsed_iff (hmeets : p.Meets left context m s)
    (hunused : context.bonusUsed = false) :
    s.context.bonusUsed = true ↔ s.sofar.corrections ≠ [] := by
  obtain ⟨hreaches, -, hattempts⟩ := hmeets
  obtain ⟨⟨hcorrections, -, -⟩, -, -⟩ := hattempts.undecided
  rw [Journal.corrections_append, show Journal.corrections (.opened .. :: _) = [] from hcorrections,
    List.append_nil]
  exact hreaches.bonusUsed_iff hunused

/-! ## The ruling on a setback -/

/-- Whatever gets no retry for a wrong clock goes to the strategy. -/
theorem Meets.ruling_eq_judgment (hmeets : p.Meets left context m s)
    (hplain : ((p.observed s).1.isSome && !s.context.bonusUsed) = false) :
    p.ruling s = p.judgment s := by
  obtain ⟨-, -, hattempts⟩ := hmeets
  obtain ⟨-, hfresh, -⟩ := hattempts.undecided
  exact (Rules.judged hfresh.isTerminal rfl hplain (judges_judge p _ _ _)).eq_rule.symm

theorem Rules.skew_eq {ruled : Traced τ σ (Ruling × Context)}
    (hterminal : failure.kind.isTerminal = false)
    (hrules : p.Rules context failure signedAt receivedAt m ruled) :
    ruled.machine.skew = (p.client.corrector.observe m.skew failure signedAt receivedAt).2 := by
  cases hrules with
  | terminal hnot => cases hterminal.symm.trans hnot
  | granted _ hobserve => rw [hobserve]
  | judged _ hobserve _ hjudges =>
      rw [hobserve]
      cases hjudges with
      | stopped | denied | approved => rfl

/-- A correction moves the offset whoever rules on its failure. -/
theorem Meets.offset_ruling (hmeets : p.Meets left context m s) {k : Correction}
    (hobserve : (p.observed s).1 = some k) : (p.ruling s).machine.skew.offset = k.offset := by
  obtain ⟨-, -, hattempts⟩ := hmeets
  obtain ⟨-, hfresh, -⟩ := hattempts.undecided
  rw [ruling, (rules_rule p _ _ _ _ _).skew_eq hfresh.isTerminal,
    Corrector.observe_of_eq_some hobserve]

/-- What a run writes down begins with the pass it is in. -/
theorem Fails.journal_run {value : Ruling × Context}
    (hfails : p.Fails context m failure ⟨value, journal, after⟩) (left : Nat) :
    ∃ rest, (p.run left context m).journal = journal ++ rest := by
  obtain ⟨ruling, ruled⟩ := value
  cases ruling with
  | giveUp final => exact ⟨_, congrArg Traced.journal (Stops.refused hfails).eq_run.symm⟩
  | again planned wait bonus =>
      cases left with
      | zero => exact ⟨_, congrArg Traced.journal (Stops.lastAttempt rfl hfails).eq_run.symm⟩
      | succ left =>
          have hpositive := Nat.succ_pos left
          have hschedules := schedules_schedule p ruled failure planned wait bonus after
          generalize p.schedule ruled failure planned wait bonus after = scheduled at hschedules
          obtain ⟨following, scheduling, next⟩ := scheduled
          cases following with
          | error final =>
              have hran := (Stops.overBudget hpositive hfails hschedules).eq_run
              exact ⟨_, congrArg Traced.journal hran.symm⟩
          | ok following =>
              obtain ⟨ended, world, hpause⟩ := p.pause_frame wait next
              cases ended with
              | false =>
                  have hran := (Stops.interrupted hpositive hfails hschedules hpause).eq_run
                  exact ⟨_, congrArg Traced.journal hran.symm⟩
              | true =>
                  rw [(Retries.intro hfails hschedules hpause).run_eq]
                  exact ⟨_, List.append_assoc _ _ _⟩

/-- A run writes down its attempt first. -/
theorem journal_run_attempt (hopen : p.env.cancelled m.world = false) (left : Nat) :
    ∃ rest, (p.run left context m).journal =
      .opened context.info.attempt context.info.limit ::
        (p.attempt (context.withOffset m.skew.offset) m).journal ++ rest := by
  have hattempts := attempts_attempt p (context.withOffset m.skew.offset) m
  generalize p.attempt (context.withOffset m.skew.offset) m = trial at hattempts ⊢
  obtain ⟨trial, journal, after⟩ := trial
  cases trial with
  | ended result =>
      refine ⟨[], ?_⟩
      have hstops : p.Stops left context m _ := .ended hopen hattempts
      rw [List.append_nil, ← hstops.eq_run]
  | broken failure signedAt receivedAt =>
      have hfails := Fails.intro hopen hattempts (rules_rule p _ _ _ _ _)
      obtain ⟨rest, hjournal⟩ := hfails.journal_run left
      rw [List.append_assoc] at hjournal
      exact ⟨_, hjournal⟩

theorem Meets.journal_run (hmeets : p.Meets left context m s) :
    ∃ rest, (p.run left context m).journal = s.sofar ++ (p.ruling s).journal ++ rest := by
  obtain ⟨hreaches, hopen, hattempts⟩ := hmeets
  have hfails := Fails.intro hopen hattempts (rules_rule p _ _ _ _ _)
  obtain ⟨rest, hjournal⟩ := hfails.journal_run _
  refine ⟨rest, ?_⟩
  rw [hreaches.run_eq]
  dsimp only
  rw [hjournal]
  simp [ruling]

/-- The pass of a setback after which the loop tries again. -/
theorem Meets.fails_again {planned : Delay} {wait : Duration} {bonus : Bool}
    (hmeets : p.Meets left context m s)
    (hruling : (p.ruling s).value.1 = .again planned wait bonus) :
    ∃ before reached journal ruled, p.Reaches left context m before s.left reached s.start ∧
      p.Fails reached s.start s.failure
        ⟨(.again planned wait bonus, ruled), journal, (p.ruling s).machine⟩ ∧
      before ++ journal = s.sofar ++ (p.ruling s).journal ∧
      reached.info = s.context.info ∧ ruled.info = s.context.info := by
  obtain ⟨hreaches, hopen, hattempts⟩ := hmeets
  have hfails := Fails.intro hopen hattempts (rules_rule p _ _ _ _ _)
  obtain ⟨hinfo, -⟩ := hfails.milestones
  unfold ruling at hruling ⊢
  generalize p.rule _ _ _ _ _ = ruled at hfails hruling hinfo ⊢
  obtain ⟨⟨ruling, following⟩, noted, next⟩ := ruled
  cases hruling
  exact ⟨_, _, _, _, hreaches, hfails, by simp, rfl, hinfo⟩

/-- And a pass after which the loop tries again is one with a setback. -/
theorem Reaches.meets_again {planned : Delay} {wait : Duration} {bonus : Bool} {ruled : Context}
    (hreaches : p.Reaches left context m before later reached start)
    (hfails : p.Fails reached start failure
      ⟨(.again planned wait bonus, ruled), journal, after⟩) :
    ∃ s, p.Meets left context m s ∧ s.left = later ∧ s.failure = failure ∧
      s.context.info = reached.info ∧ (p.ruling s).value = (.again planned wait bonus, ruled) ∧
      (p.ruling s).machine = after ∧ s.sofar ++ (p.ruling s).journal = before ++ journal := by
  obtain ⟨_, _, _, _, _, hopen, hattempts, hrules, rfl⟩ := hfails.parts
  refine ⟨_, .intro hreaches hopen hattempts, rfl, rfl, rfl, ?_⟩
  rw [ruling, ← hrules.eq_rule]
  exact ⟨rfl, rfl, List.append_assoc ..⟩

theorem Fails.meets_again {planned : Delay} {wait : Duration} {bonus : Bool} {ruled : Context}
    (left : Nat)
    (hfails : p.Fails context m failure ⟨(.again planned wait bonus, ruled), journal, after⟩) :
    ∃ s, p.Meets left context m s ∧ s.left = left ∧ s.failure = failure ∧
      s.context.info = context.info ∧ (p.ruling s).value.1 = .again planned wait bonus ∧
      (p.ruling s).machine = after ∧ s.sofar ++ (p.ruling s).journal = journal := by
  have hreaches : p.Reaches left context m [] left context m := .start
  obtain ⟨s, hmeets, hleft, hfailure, hinfo, hruling, hafter, hjournal⟩ :=
    hreaches.meets_again hfails
  exact ⟨s, hmeets, hleft, hfailure, hinfo, congrArg Prod.fst hruling, hafter, hjournal⟩

end Plan

end ServiceCall
